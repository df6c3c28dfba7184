import DomeLink.Config.File
import DomeLink.Proofs.Json.Record
import DomeLink.Proofs.Utf8

/-!
# Configuration files are read back

A saved configuration is loaded as it was, if it passes its check (`files_read_back`). Of the JSON
that is saved any members may be deleted, at any level (`Json.prune`): the configuration that is
read then has the defaults there and is otherwise the same (`Config.forget`).

Reading is the same at both levels. A record whose pruned members are read as those of `a` is read
from its pruned JSON as the members of `a` that are kept (`ofJson?_prune`); for the records inside a
configuration `a` is the record itself, and for the configuration it is the one with these records
pruned (`Config.inner`).
-/

namespace DomeLink

namespace Json

/-! ## Deleting members -/

mutual

/-- The value without the members that are not kept. A member is named by the keys that lead to
it. -/
def prune : (List String → Bool) → Json → Json
  | keep, .obj ms => .obj (pruneMembers keep ms)
  | _, x => x

/-- The members that are kept, each pruned. -/
def pruneMembers : (List String → Bool) → List (JsonText × Json) → List (JsonText × Json)
  | _, [] => []
  | keep, (.plain k, x) :: ms =>
    if keep [k] then (.plain k, prune (fun path => keep (k :: path)) x) :: pruneMembers keep ms
    else pruneMembers keep ms
  | keep, (.broken ps, x) :: ms => (.broken ps, x) :: pruneMembers keep ms

end

variable {keep : List String → Bool}

theorem prune_record (keep : List String → Bool) (obj : List (String × Json)) :
    prune keep (record obj) = record ((obj.filter fun e => keep [e.1]).map fun e =>
      (e.1, prune (fun path => keep (e.1 :: path)) e.2)) := by
  rw [record, record, prune, Json.obj.injEq]
  induction obj with
  | nil => rfl
  | cons e obj ih =>
    rw [List.map_cons, pruneMembers, ih, List.filter_cons]
    split <;> rfl

/-- There is nothing to delete in a value that is no object. -/
theorem prune_eq_self {x : Json} (h : ∀ ms, x ≠ .obj ms) : prune keep x = x := by
  cases x with
  | obj ms => exact absurd rfl (h ms)
  | _ => rw [prune]; exact h

mutual

/-- Deleting members leaves a plain value plain. -/
theorem plain_prune : (keep : List String → Bool) → (x : Json) → x.Plain → (prune keep x).Plain
  | keep, .obj ms, h => by
    rw [prune, Plain]
    exact plainMembers_prune keep ms h
  | _, .null, h | _, .bool _, h | _, .int _, h | _, .real _, h | _, .str _, h | _, .arr _, h => by
    rw [prune_eq_self fun _ => Json.noConfusion]
    exact h

theorem plainMembers_prune : (keep : List String → Bool) → (ms : List (JsonText × Json)) →
    PlainMembers ms → PlainMembers (pruneMembers keep ms)
  | _, [], _ => trivial
  | keep, (.plain k, x) :: ms, h => by
    rw [pruneMembers]
    split
    · exact ⟨h.1, plain_prune _ x h.2.1, plainMembers_prune keep ms h.2.2⟩
    · exact plainMembers_prune keep ms h.2.2
  | keep, (.broken _, x) :: ms, h => ⟨h.1, h.2.1, plainMembers_prune keep ms h.2.2⟩

end

end Json

namespace JsonMember

variable {σ : Type} {ms : List (JsonMember σ)} {pick : (String → Bool) → σ} {start s : σ}

/-- A record with optional members is read from its pruned JSON as the members that are kept. -/
theorem ofJson?_prune (h : Choice ms pick start) {keep : List String → Bool}
    (hs : ∀ m ∈ ms, Chooses pick m (Json.prune (fun path => keep (m.key :: path)) (m.get s))) :
    ofJson? ms .kept start (Json.prune keep (toJson ms s)) = some (pick fun k => keep [k]) := by
  generalize hobj : ((entries ms s).filter fun e => keep [e.1]).map (fun e =>
    (e.1, Json.prune (fun path => keep (e.1 :: path)) e.2)) = obj
  have hkeys : obj.map Prod.fst = (ms.map JsonMember.key).filter fun k => keep [k] := by
    rw [← hobj, entries, List.filter_map, List.map_map, List.map_map, List.filter_map]
    rfl
  have hmem : ∀ m ∈ ms, decide (m.key ∈ obj.map Prod.fst) = keep [m.key] := fun m hm => by
    rw [hkeys, Bool.eq_iff_iff, decide_eq_true_iff, List.mem_filter]
    exact and_iff_right (List.mem_map_of_mem hm)
  have hchooses : ∀ e ∈ obj, ∀ m ∈ ms, m.key = e.1 → Chooses pick m e.2 := by
    intro e he m hm hkey
    rw [← hobj] at he
    obtain ⟨entry, hentry, rfl⟩ := List.mem_map.1 he
    obtain ⟨m', hm', rfl⟩ := List.mem_map.1 (List.mem_of_mem_filter hentry)
    rw [List.inj_on_of_nodup_map h.keys hm hm' hkey]
    exact hs m' hm'
  have hfresh : (knownKeys ms obj).Nodup := by
    rw [knownKeys, hkeys]
    exact (h.keys.filter _).filter _
  have hrecord : Json.prune keep (toJson ms s) = Json.record obj := by
    rw [← hobj]
    exact Json.prune_record keep (entries ms s)
  rw [hrecord, ofJson?_record h hchooses hfresh (.inl rfl), h.congr _ (fun k => keep [k]) hmem]

/-- A record whose members are no objects is read from its pruned JSON as its members that are
kept. -/
theorem ofJson?_prune_flat (h : Choice ms pick start) (hs : ∀ m ∈ ms, Kept pick s m)
    (hflat : ∀ m ∈ ms, ∀ obj, m.get s ≠ .obj obj) (keep : List String → Bool) :
    ofJson? ms .kept start (Json.prune keep (toJson ms s)) = some (pick fun k => keep [k]) := by
  refine ofJson?_prune h fun m hm => ?_
  rw [Json.prune_eq_self (hflat m hm)]
  exact (hs m hm).chooses

/-- The form of a record is lawful if its members are. -/
theorem lawful_record {pick : σ → (String → Bool) → σ} (h : ∀ s, Choice ms (pick s) start)
    (hs : ∀ s, ∀ m ∈ ms, Kept (pick s) s m) (hall : ∀ s, pick s (fun _ => true) = s)
    (missing : Missing) : (JsonForm.record ms missing start).Lawful where
  reads s := (ofJson?_toJson (h s) (hs s) missing).trans (congrArg some (hall s))
  plain s := plain_toJson (hs s)

end JsonMember

open JsonForm JsonMember

/-! ## The records inside a configuration -/

theorem JsonForm.lawful_parity : (choice Parity.name Parity.ofName?).Lawful :=
  lawful_choice fun parity => by cases parity <;> decide

namespace SerialLine

/-- The chosen members; the others have their defaults. -/
def pick (s : SerialLine) (keep : String → Bool) : SerialLine where
  port := if keep "port" then s.port else ({} : SerialLine).port
  baudRate := if keep "baud_rate" then s.baudRate else ({} : SerialLine).baudRate
  dataBits := if keep "data_bits" then s.dataBits else ({} : SerialLine).dataBits
  parity := if keep "parity" then s.parity else ({} : SerialLine).parity
  stopBits := if keep "stop_bits" then s.stopBits else ({} : SerialLine).stopBits
  readTimeoutMs :=
    if keep "read_timeout_ms" then s.readTimeoutMs else ({} : SerialLine).readTimeoutMs

theorem choice_pick (s : SerialLine) : Choice members s.pick {} where
  keys := by decide
  none := rfl
  congr keep keep' h := by
    simp only [members, List.forall_mem_cons, JsonMember.field] at h
    simp [pick, h]

theorem kept_pick (s : SerialLine) : ∀ m ∈ members, Kept s.pick s m := by
  simp only [members, List.forall_mem_cons]
  refine ⟨kept_field lawful_string ?_, kept_field lawful_uint32 ?_, kept_field lawful_uint8 ?_,
    kept_field lawful_parity ?_, kept_field lawful_uint8 ?_, kept_field lawful_uint64 ?_, nofun⟩
  all_goals
    intro keep
    simp [pick]

theorem lawful : jsonForm.Lawful := lawful_record choice_pick kept_pick (fun _ => rfl) .kept

theorem ofJson?_prune (s : SerialLine) (keep : List String → Bool) :
    jsonForm.ofJson? (Json.prune keep (jsonForm.toJson s)) = some (s.pick fun k => keep [k]) := by
  refine ofJson?_prune_flat (choice_pick s) (kept_pick s) ?_ keep
  simp only [members, List.forall_mem_cons]
  exact ⟨nofun, nofun, nofun, nofun, nofun, nofun, nofun⟩

end SerialLine

namespace Timing

/-- The chosen members; the others have their defaults. -/
def pick (t : Timing) (keep : String → Bool) : Timing where
  responseTimeoutMs :=
    if keep "response_timeout_ms" then t.responseTimeoutMs else ({} : Timing).responseTimeoutMs
  statusPollMs := if keep "status_poll_ms" then t.statusPollMs else ({} : Timing).statusPollMs
  heartbeatMs := if keep "heartbeat_ms" then t.heartbeatMs else ({} : Timing).heartbeatMs

theorem choice_pick (t : Timing) : Choice members t.pick {} where
  keys := by decide
  none := rfl
  congr keep keep' h := by
    simp only [members, List.forall_mem_cons, JsonMember.field] at h
    simp [pick, h]

theorem kept_pick (t : Timing) : ∀ m ∈ members, Kept t.pick t m := by
  simp only [members, List.forall_mem_cons]
  refine ⟨kept_field lawful_uint64 ?_, kept_field lawful_uint64 ?_, kept_field lawful_uint64 ?_,
    nofun⟩
  all_goals
    intro keep
    simp [pick]

theorem lawful : jsonForm.Lawful := lawful_record choice_pick kept_pick (fun _ => rfl) .kept

theorem ofJson?_prune (t : Timing) (keep : List String → Bool) :
    jsonForm.ofJson? (Json.prune keep (jsonForm.toJson t)) = some (t.pick fun k => keep [k]) := by
  refine ofJson?_prune_flat (choice_pick t) (kept_pick t) ?_ keep
  simp only [members, List.forall_mem_cons]
  exact ⟨nofun, nofun, nofun, nofun⟩

end Timing

namespace SafeSlots

/-- The chosen members; the others have their defaults. -/
def pick (s : SafeSlots) (keep : String → Bool) : SafeSlots where
  aperture := if keep "aperture" then s.aperture else ({} : SafeSlots).aperture
  filter := if keep "filter" then s.filter else ({} : SafeSlots).filter

theorem choice_pick (s : SafeSlots) : Choice members s.pick {} where
  keys := by decide
  none := rfl
  congr keep keep' h := by
    simp only [members, List.forall_mem_cons, JsonMember.field] at h
    simp [pick, h]

theorem kept_pick (s : SafeSlots) : ∀ m ∈ members, Kept s.pick s m := by
  simp only [members, List.forall_mem_cons]
  refine ⟨kept_field lawful_uint8 ?_, kept_field lawful_uint8 ?_, nofun⟩
  all_goals
    intro keep
    simp [pick]

theorem lawful : jsonForm.Lawful := lawful_record choice_pick kept_pick (fun _ => rfl) .kept

theorem ofJson?_prune (s : SafeSlots) (keep : List String → Bool) :
    jsonForm.ofJson? (Json.prune keep (jsonForm.toJson s)) = some (s.pick fun k => keep [k]) := by
  refine ofJson?_prune_flat (choice_pick s) (kept_pick s) ?_ keep
  simp only [members, List.forall_mem_cons]
  exact ⟨nofun, nofun, nofun⟩

end SafeSlots

/-! ## Whole configurations -/

namespace Config

/-- The chosen members; the others have their defaults. -/
def pick (c : Config) (keep : String → Bool) : Config where
  serial := if keep "serial" then c.serial else {}
  timing := if keep "timing" then c.timing else {}
  rxCapacity := if keep "rx_capacity" then c.rxCapacity else ({} : Config).rxCapacity
  safeSlots := if keep "safe_slots" then c.safeSlots else {}

/-- **The configuration with the defaults in place of what is not kept.** -/
def forget (c : Config) (keep : List String → Bool) : Config where
  serial := if keep ["serial"] then c.serial.pick fun k => keep ["serial", k] else {}
  timing := if keep ["timing"] then c.timing.pick fun k => keep ["timing", k] else {}
  rxCapacity := if keep ["rx_capacity"] then c.rxCapacity else ({} : Config).rxCapacity
  safeSlots := if keep ["safe_slots"] then c.safeSlots.pick fun k => keep ["safe_slots", k] else {}

/-- The configuration with its records pruned. -/
def inner (c : Config) (keep : List String → Bool) : Config where
  serial := c.serial.pick fun k => keep ["serial", k]
  timing := c.timing.pick fun k => keep ["timing", k]
  rxCapacity := c.rxCapacity
  safeSlots := c.safeSlots.pick fun k => keep ["safe_slots", k]

theorem choice_pick (c : Config) : Choice members c.pick {} where
  keys := by decide
  none := rfl
  congr keep keep' h := by
    simp only [members, List.forall_mem_cons, JsonMember.field] at h
    simp [pick, h]

theorem kept_pick (c : Config) : ∀ m ∈ members, Kept c.pick c m := by
  simp only [members, List.forall_mem_cons]
  refine ⟨kept_field SerialLine.lawful ?_, kept_field Timing.lawful ?_, kept_field lawful_uint64 ?_,
    kept_field SafeSlots.lawful ?_, nofun⟩
  all_goals
    intro keep
    simp [pick]

theorem lawful : jsonForm.Lawful := lawful_record choice_pick kept_pick (fun _ => rfl) .kept

/-- A pruned configuration is read with the defaults in place of what is not kept. -/
theorem ofJson?_prune (c : Config) (keep : List String → Bool) :
    jsonForm.ofJson? (Json.prune keep (jsonForm.toJson c)) = some (c.forget keep) := by
  refine JsonMember.ofJson?_prune (s := c) (choice_pick (c.inner keep)) ?_
  simp only [members, List.forall_mem_cons]
  refine ⟨chooses_field (SerialLine.ofJson?_prune _ _) ?_,
    chooses_field (Timing.ofJson?_prune _ _) ?_,
    chooses_field (lawful_uint64.reads c.rxCapacity) ?_,
    chooses_field (SafeSlots.ofJson?_prune _ _) ?_, nofun⟩
  all_goals
    intro keep
    simp [pick, inner, field]

theorem ofText?_of_isText {x : Json} {text : List Char} (h : Json.IsText x text) :
    ofText? text = jsonForm.ofJson? x := by
  rw [ofText?, Json.readChars?_of_isText h]
  rfl

/-- **A saved configuration is loaded as it was, if it passes its check**; if not, loading gives the
fault of the check. -/
theorem load_save (c : Config) : load c.save.toUTF8.data.toList =
    match c.check with
    | .ok () => .ok c
    | .error fault => .error (.config fault) := by
  have htext : ofText? c.save.toList = some c :=
    (ofText?_of_isText (Json.isText_indented (lawful.plain c))).trans (lawful.reads c)
  rw [load, Utf8.decode?_toUTF8]
  simp only [ofText, htext]
  cases c.check <;> rfl

/-- **Configuration files are read back**: whole and, with the defaults in place of what was
deleted, pruned. -/
theorem files_read_back (c : Config) :
    (load c.save.toUTF8.data.toList =
      match c.check with
      | .ok () => .ok c
      | .error fault => .error (.config fault)) ∧
    ∀ keep, ofText? (Json.prune keep (jsonForm.toJson c)).indented.toList = some (c.forget keep) ∧
      ∀ text, Json.IsText (Json.prune keep (jsonForm.toJson c)) text →
        ofText? text = some (c.forget keep) := by
  have hread (keep : List String → Bool) (text : List Char)
      (htext : Json.IsText (Json.prune keep (jsonForm.toJson c)) text) :
      ofText? text = some (c.forget keep) :=
    (ofText?_of_isText htext).trans (c.ofJson?_prune keep)
  have hplain := fun keep => Json.plain_prune keep _ (lawful.plain c)
  exact ⟨c.load_save, fun keep => ⟨hread keep _ (Json.isText_indented (hplain keep)), hread keep⟩⟩

end Config

end DomeLink
