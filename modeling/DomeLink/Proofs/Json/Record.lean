import DomeLink.Proofs.Json.Form

/-!
# Records are read back from their members

A record is read member by member, in the order in which they stand. To say what has been read half
way, the proofs use a record with only some members of its own: `pick keep` holds the members that
`keep` chooses, and the others are those of the record that reading starts from (`Choice`). Each
member that is read is one more that is chosen (`Chooses`), in whatever order they come, and unknown
members choose nothing (`ofMembers?_eq`).

A record of which no member may be left out is refused unless each of its keys stands exactly once
(`count_eq_one_of_ofJson?`).
-/

namespace DomeLink.JsonMember

variable {σ : Type} {ms : List (JsonMember σ)} {pick : (String → Bool) → σ}

/-- The known keys among the given members, in order. -/
def knownKeys (ms : List (JsonMember σ)) (obj : List (String × Json)) : List String :=
  (obj.map Prod.fst).filter fun k => k ∈ ms.map JsonMember.key

/-- The record `pick keep` has the chosen members; the others are those of `start`. -/
structure Choice (ms : List (JsonMember σ)) (pick : (String → Bool) → σ) (start : σ) : Prop where
  keys : (ms.map JsonMember.key).Nodup
  none : pick (fun _ => false) = start
  congr : ∀ keep keep' : String → Bool, (∀ m ∈ ms, keep m.key = keep' m.key) →
    pick keep = pick keep'

/-- Putting in the value chooses the member. -/
def Chooses (pick : (String → Bool) → σ) (m : JsonMember σ) (x : Json) : Prop :=
  ∀ keep, m.set? x (pick keep) = some (pick fun k => k = m.key || keep k)

theorem find?_key_eq_none {k : String} (h : k ∉ ms.map JsonMember.key) :
    (ms.find? fun m => m.key = k) = none := by
  rw [List.find?_eq_none]
  rintro m hm hk
  exact h (List.mem_map.2 ⟨m, hm, of_decide_eq_true hk⟩)

/-- Reading the members of an object chooses the known ones. -/
theorem ofMembers?_eq (hkeys : (ms.map JsonMember.key).Nodup) {obj : List (String × Json)}
    (hobj : ∀ e ∈ obj, ∀ m ∈ ms, m.key = e.1 → Chooses pick m e.2) {seen : List String}
    (hfresh : ((knownKeys ms obj).reverse ++ seen).Nodup) :
    ofMembers? ms seen (pick fun k => k ∈ seen) (obj.map fun e => (.plain e.1, e.2)) =
      some (pick fun k => k ∈ (knownKeys ms obj).reverse ++ seen,
        (knownKeys ms obj).reverse ++ seen) := by
  -- Over the object: what has been put in so far is in `seen`, which grows by the known keys.
  induction obj generalizing seen with
  | nil => rfl
  | cons e obj ih =>
    obtain ⟨k, x⟩ := e
    rw [List.forall_mem_cons] at hobj
    by_cases hknown : k ∈ ms.map JsonMember.key
    · obtain ⟨m, hm, rfl⟩ := List.mem_map.1 hknown
      have hcons : (knownKeys ms ((m.key, x) :: obj)).reverse ++ seen =
          (knownKeys ms obj).reverse ++ m.key :: seen := by
        simp only [knownKeys, List.map_cons, List.filter_cons, hknown, decide_true, if_true,
          List.reverse_cons, List.append_assoc, List.singleton_append]
      rw [hcons] at hfresh ⊢
      have hseen : m.key ∉ seen := (List.nodup_cons.1 (List.nodup_append.1 hfresh).2.1).1
      have hset := hobj.1 m hm rfl fun k => k ∈ seen
      have hmem : (fun k => decide (k = m.key) || decide (k ∈ seen)) =
          fun k => decide (k ∈ m.key :: seen) := by
        funext k
        simp
      rw [hmem] at hset
      rw [List.map_cons, ofMembers?, List.find?_of_nodup_map hkeys hm]
      simp only [if_neg hseen, hset]
      exact ih hobj.2 hfresh
    · have hcons : knownKeys ms ((k, x) :: obj) = knownKeys ms obj :=
        List.filter_cons_of_neg (by simpa using hknown)
      rw [hcons] at hfresh ⊢
      rw [List.map_cons, ofMembers?, find?_key_eq_none hknown]
      exact ih hobj.2 hfresh

theorem mem_knownKeys {m : JsonMember σ} (hm : m ∈ ms) {obj : List (String × Json)} :
    m.key ∈ knownKeys ms obj ↔ m.key ∈ obj.map Prod.fst := by
  rw [knownKeys, List.mem_filter, decide_eq_true_iff]
  exact and_iff_left (List.mem_map_of_mem hm)

/-- **A record is read from an object as the members that stand in it.** -/
theorem ofJson?_record {start : σ} (h : Choice ms pick start) {obj : List (String × Json)}
    (hobj : ∀ e ∈ obj, ∀ m ∈ ms, m.key = e.1 → Chooses pick m e.2)
    (hfresh : (knownKeys ms obj).Nodup) {missing : Missing}
    (hall : missing = .kept ∨ ∀ m ∈ ms, m.key ∈ obj.map Prod.fst) :
    ofJson? ms missing start (Json.record obj) = some (pick fun k => k ∈ obj.map Prod.fst) := by
  have hunseen : ((knownKeys ms obj).reverse ++ []).Nodup := by
    rw [List.append_nil, List.nodup_reverse]
    exact hfresh
  have hmembers := ofMembers?_eq h.keys hobj hunseen
  have hempty : (pick fun k => k ∈ ([] : List String)) = start := by
    rw [← h.none]
    exact congrArg pick (funext fun k => decide_eq_false List.not_mem_nil)
  have hseen : ∀ m ∈ ms,
      m.key ∈ (knownKeys ms obj).reverse ++ [] ↔ m.key ∈ obj.map Prod.fst := fun m hm => by
    rw [List.append_nil, List.mem_reverse, mem_knownKeys hm]
  rw [hempty, h.congr _ (fun k => k ∈ obj.map Prod.fst) fun m hm => decide_eq_decide.2 (hseen m hm)]
    at hmembers
  rw [Json.record, ofJson?]
  simp only [hmembers]
  exact if_pos (hall.imp_right fun hall m hm => (hseen m hm).2 (hall m hm))

/-! ## What a record writes -/

/-- The members of a record as they are written. -/
def entries (ms : List (JsonMember σ)) (s : σ) : List (String × Json) :=
  ms.map fun m => (m.key, m.get s)

/-- The member of `s` is written plainly, and putting it in chooses it. -/
structure Kept (pick : (String → Bool) → σ) (s : σ) (m : JsonMember σ) : Prop where
  chooses : Chooses pick m (m.get s)
  plain : (m.get s).Plain

/-- A value that is read as `a` chooses a field that `pick` takes from `a`. -/
theorem chooses_field {α : Type} {form : JsonForm α} {key : String} {get : σ → α}
    {put : α → σ → σ} {x : Json} {a : α} (hx : form.ofJson? x = some a)
    (h : ∀ keep, put a (pick keep) = pick fun k => k = key || keep k) :
    Chooses pick (.field key form get put) x := fun keep => by
  rw [field]
  simp only [hx, Option.map_some, h]

theorem kept_field {α : Type} {form : JsonForm α} (hform : form.Lawful) {key : String}
    {get : σ → α} {put : α → σ → σ} {s : σ}
    (h : ∀ keep, put (get s) (pick keep) = pick fun k => k = key || keep k) :
    Kept pick s (.field key form get put) :=
  ⟨chooses_field (hform.reads (get s)) h, hform.plain (get s)⟩

theorem plain_record {obj : List (String × Json)} (h : ∀ e ∈ obj, e.2.Plain) :
    (Json.record obj).Plain := by
  rw [Json.record, Json.Plain]
  induction obj with
  | nil => trivial
  | cons e obj ih =>
    rw [List.forall_mem_cons] at h
    exact ⟨⟨e.1, rfl⟩, h.1, ih h.2⟩

theorem plain_toJson {s : σ} (h : ∀ m ∈ ms, Kept pick s m) : (toJson ms s).Plain := by
  refine plain_record fun e he => ?_
  obtain ⟨m, hm, rfl⟩ := List.mem_map.1 he
  exact (h m hm).plain

/-- **A record is read from its members in any order**, with unknown members among them. -/
theorem ofJson?_rearranged {start s : σ} (h : Choice ms pick start) (hs : ∀ m ∈ ms, Kept pick s m)
    {extra obj : List (String × Json)} (hextra : ∀ e ∈ extra, e.1 ∉ ms.map JsonMember.key)
    (hobj : obj.Perm (entries ms s ++ extra)) (missing : Missing) :
    ofJson? ms missing start (Json.record obj) = some (pick fun _ => true) := by
  have hkeys : (entries ms s).map Prod.fst = ms.map JsonMember.key := by
    rw [entries, List.map_map]
    rfl
  have hperm : (obj.map Prod.fst).Perm (ms.map JsonMember.key ++ extra.map Prod.fst) := by
    rw [← hkeys, ← List.map_append]
    exact hobj.map Prod.fst
  have hmem : ∀ m ∈ ms, m.key ∈ obj.map Prod.fst := fun m hm =>
    hperm.mem_iff.2 (List.mem_append_left _ (List.mem_map_of_mem hm))
  have hchooses : ∀ e ∈ obj, ∀ m ∈ ms, m.key = e.1 → Chooses pick m e.2 := by
    intro e he m hm hkey
    rcases List.mem_append.1 (hobj.mem_iff.1 he) with he | he
    · obtain ⟨m', hm', rfl⟩ := List.mem_map.1 he
      rw [List.inj_on_of_nodup_map h.keys hm hm' hkey]
      exact (hs m' hm').chooses
    · exact absurd (hkey ▸ List.mem_map_of_mem hm) (hextra e he)
  have hfresh : (knownKeys ms obj).Nodup := by
    have hknown : (ms.map JsonMember.key ++ extra.map Prod.fst).filter
        (fun k => k ∈ ms.map JsonMember.key) = ms.map JsonMember.key := by
      rw [List.filter_append, List.filter_eq_self.2 fun k hk => decide_eq_true hk,
        List.filter_eq_nil_iff.2, List.append_nil]
      intro k hk
      obtain ⟨e, he, rfl⟩ := List.mem_map.1 hk
      rw [decide_eq_true_iff]
      exact hextra e he
    rw [knownKeys, (hperm.filter _).nodup_iff, hknown]
    exact h.keys
  rw [ofJson?_record h hchooses hfresh (.inr hmem)]
  exact congrArg some (h.congr _ _ fun m hm => decide_eq_true (hmem m hm))

/-- A record is read back from what it writes. -/
theorem ofJson?_toJson {start s : σ} (h : Choice ms pick start) (hs : ∀ m ∈ ms, Kept pick s m)
    (missing : Missing) : ofJson? ms missing start (toJson ms s) = some (pick fun _ => true) := by
  have hentries : (entries ms s).Perm (entries ms s ++ []) := by rw [List.append_nil]
  exact ofJson?_rearranged h hs (List.forall_mem_nil _) hentries missing

/-! ## What is refused -/

/-- Every known key stands in an object as often as it is put in, and that is once at most. -/
theorem count_of_ofMembers? {obj : List (JsonText × Json)} {seen seen' : List String} {s s' : σ}
    (h : ofMembers? ms seen s obj = some (s', seen')) (hseen : seen.Nodup) :
    seen'.Nodup ∧ ∀ m ∈ ms,
      seen'.count m.key = (obj.map Prod.fst).count (.plain m.key) + seen.count m.key := by
  fun_induction ofMembers? ms seen s obj with
  | case1 =>
    cases h
    exact ⟨hseen, fun m _ => (Nat.zero_add _).symm⟩
  | case2 => cases h
  | case3 seen s k x rest hfind ih =>
    -- An unknown key is none of those that are counted.
    obtain ⟨hnodup, hcount⟩ := ih h hseen
    refine ⟨hnodup, fun m hm => ?_⟩
    have hne : k ≠ m.key := by
      rintro rfl
      have := List.find?_eq_none.1 hfind m hm
      simp at this
    rw [hcount m hm, List.map_cons, List.count_cons_of_ne (by simpa using hne)]
  | case4 => cases h
  | case5 seen s k x rest m' hfind hk s'' hset ih =>
    -- A known key counts once more on both sides.
    obtain ⟨hnodup, hcount⟩ := ih h (List.nodup_cons.2 ⟨hk, hseen⟩)
    refine ⟨hnodup, fun m hm => ?_⟩
    rw [hcount m hm, List.map_cons, List.count_cons, List.count_cons]
    simp only [beq_iff_eq, JsonText.plain.injEq]
    omega
  | case6 => cases h

/-- A record of which no member may be left out is read only if each key stands exactly once. -/
theorem count_eq_one_of_ofJson? {obj : List (JsonText × Json)} {s s' : σ}
    (h : ofJson? ms .refused s (.obj obj) = some s') :
    ∀ m ∈ ms, (obj.map Prod.fst).count (.plain m.key) = 1 := by
  intro m hm
  rw [ofJson?] at h
  split at h
  · rename_i seen' hmembers
    obtain ⟨hnodup, hcount⟩ := count_of_ofMembers? hmembers List.nodup_nil
    have hall : ∀ m ∈ ms, m.key ∈ seen' := by
      simpa using (Option.ite_none_right_eq_some.1 h).1
    have hone := hcount m hm
    rw [List.count_nil, Nat.add_zero, List.count_eq_one_of_mem hnodup (hall m hm)] at hone
    exact hone.symm
  · cases h

end DomeLink.JsonMember
