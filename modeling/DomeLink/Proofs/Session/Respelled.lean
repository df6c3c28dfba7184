import DomeLink.Proofs.Session.Handset
import DomeLink.Proofs.Wire.Spelling
import Mathlib.Data.List.Chain

/-!
# What is told of the handset is a change, but for the case of letters

A session tells of the handset where the characters of its field differ from those of the reply
before. Two replies with one and the same byte can differ there, but in nothing except the case of
the letters (`Status.Respells`), and then a change is told that is none.

* `Status.respells_iff`: the characters differ and the byte does not.
* `tells_changes_iff`: a run tells of changes alone exactly if no accepted reply respells the one
  before it.
* `exists_told_without_change`: a run that tells of a change from a byte to itself.
-/

namespace DomeLink

namespace Status

variable {frame previous : Bytes} {s old new : Status}

/-- The handset field holds other letters, but it would hold the same ones if all were capitals. -/
def Respells (previous frame : Bytes) : Prop :=
  ∃ before now, StatusField.handset.raw? previous = some before ∧
    StatusField.handset.raw? frame = some now ∧ before ≠ now ∧
    before.map Digits.upper = now.map Digits.upper

/-- What stands in the handset field is the byte in capitals, but for the case of the letters. -/
theorem exists_raw?_handset (h : decode frame = .ok s) :
    ∃ bs, StatusField.handset.raw? frame = some bs ∧
      bs.map Digits.upper = Digits.writeHex 2 s.handset.toUInt32 := by
  have hbyte : byteAt frame .handset = .ok s.handset := (decode_eq_ok_iff.1 h).2 .handset
  obtain ⟨v, hv, hhandset⟩ := map_eq_ok.1 hbyte
  obtain ⟨bs, hfield, hread⟩ := Bytes.hexField_eq_ok_iff.1 hv
  have hlen : bs.length = 2 := Bytes.length_of_field hfield
  have hsmall : v.toUInt8.toUInt32 = v := by
    have hlt : v.toNat < 16 ^ 2 := Bytes.hexField_lt hv
    rw [← UInt32.toNat_inj, UInt8.toNat_toUInt32, UInt32.toNat_toUInt8]
    exact Nat.mod_eq_of_lt hlt
  refine ⟨bs, Bytes.slice?_eq_some_iff.2 (Bytes.field_eq_ok_iff.1 hfield), ?_⟩
  rw [← hhandset, hsmall, ← Digits.writeHex_of_readHex hread (by omega), hlen]

theorem writeHex_two_inj {a b : UInt8}
    (h : Digits.writeHex 2 a.toUInt32 = Digits.writeHex 2 b.toUInt32) : a = b := by
  have hread (c : UInt8) : Digits.readHex (Digits.writeHex 2 c.toUInt32) = .ok c.toUInt32 := by
    have hlt : c.toUInt32.toNat < 16 ^ 2 := c.toNat_lt
    rw [Digits.readHex_writeHex, Nat.mod_eq_of_lt hlt, UInt32.ofNat_toNat]
  have hsame := (hread a).symm.trans (h ▸ hread b)
  rw [← UInt8.toNat_inj, ← UInt8.toNat_toUInt32 a, Except.ok.inj hsame, UInt8.toNat_toUInt32]

/-- **Between two replies the byte is respelled** exactly if its characters have changed and the
byte has not. -/
theorem respells_iff (hprevious : decode previous = .ok old) (hframe : decode frame = .ok new) :
    Respells previous frame ↔
      .handset ∈ changedFields previous frame ∧ old.handset = new.handset := by
  obtain ⟨before, hbefore, hupper⟩ := exists_raw?_handset hprevious
  obtain ⟨now, hnow, hupper'⟩ := exists_raw?_handset hframe
  rw [mem_changedFields, hbefore, hnow]
  constructor
  · rintro ⟨bs, bs', hbs, hbs', hne, hsame⟩
    cases hbefore.symm.trans hbs
    cases hnow.symm.trans hbs'
    refine ⟨fun heq => hne (Option.some.inj heq), writeHex_two_inj ?_⟩
    rw [← hupper, ← hupper', hsame]
  · rintro ⟨hne, hbyte⟩
    refine ⟨before, now, hbefore, hnow, fun heq => hne (congrArg some heq), ?_⟩
    rw [hupper, hupper', hbyte]

end Status

namespace Session

open DomeLink.Action (handsets)

variable {s : Session} {i : SessionInput} {frame : Bytes} {frames : List Bytes}

theorem exists_of_acceptedStatus? (h : s.acceptedStatus? i = some frame) :
    i = .frame frame ∧ (s.state = .awaitInitialStatus ∨ s.state = .awaitStatus) ∧
      ∃ status, Status.decode frame = .ok status := by
  cases i with
  | frame bytes =>
    rw [acceptedStatus?] at h
    split at h
    case isFalse => cases h
    case isTrue haccepted =>
      cases h
      refine ⟨rfl, haccepted.1, ?_⟩
      cases hf : Status.decode frame with
      | ok status => exact ⟨status, rfl⟩
      | error e =>
        rw [hf] at haccepted
        cases haccepted.2
  | _ => cases h

/-- What accepts no reply tells nothing of the handset. -/
theorem Tracks.handsets_step_of_none (h : s.Tracks frames) (hi : s.acceptedStatus? i = none) :
    handsets (s.step i).2 = [] := by
  refine Decidable.byContradiction fun htold => ?_
  obtain ⟨hs, frame, new, rfl, hnew, -⟩ := h.exists_of_handsets_step htold
  cases hi.symm.trans (acceptedStatus?_of_ok (.inr hs) hnew)

/-- **What one input tells is a change**, unless it brings a reply that respells the one before. -/
theorem Tracks.tells_change_iff (h : s.Tracks frames) (i : SessionInput) :
    (∀ told ∈ handsets (s.step i).2, told.1 ≠ told.2) ↔
      ∀ previous ∈ frames.getLast?, ∀ frame ∈ s.acceptedStatus? i,
        ¬ Status.Respells previous frame := by
  cases hi : s.acceptedStatus? i with
  | none =>
    rw [h.handsets_step_of_none hi]
    exact iff_of_true (fun _ hmem => nomatch hmem) fun _ _ _ hframe => nomatch hframe
  | some frame =>
    obtain ⟨rfl, hs | hs, new, hnew⟩ := exists_of_acceptedStatus? hi
    · -- the first reply has none before it, and tells nothing of the handset
      have hnil : frames = [] := (h.first (by rw [hs]; nofun)).1 hs
      have hquiet : handsets (s.step (.frame frame)).2 = [] :=
        handsets_step_of_ne (by rw [hs]; nofun) _
      rw [hquiet, hnil]
      exact iff_of_true (fun _ hmem => nomatch hmem) fun _ hprevious => nomatch hprevious
    · obtain ⟨hlatest, hkept⟩ := h.latest_of_awaitStatus hs
      have hrespells := Status.respells_iff hkept hnew
      rw [h.handsets_step hs hnew, hlatest]
      by_cases hmem : .handset ∈ Status.changedFields s.rawStatus frame
      · rw [and_iff_right hmem] at hrespells
        rw [if_pos hmem]
        constructor
        · rintro htold previous ⟨⟩ frame ⟨⟩ hsame
          exact htold _ (List.mem_singleton_self _) (hrespells.1 hsame)
        · intro hspelled told htold
          rw [List.mem_singleton.1 htold]
          exact fun hsame => hspelled _ rfl _ rfl (hrespells.2 hsame)
      · rw [if_neg hmem]
        refine iff_of_true (fun _ hmem => nomatch hmem) ?_
        rintro previous ⟨⟩ frame ⟨⟩ hsame
        exact hmem (hrespells.1 hsame).1

/-- **A run tells of changes of the handset alone** exactly if no reply that it accepts writes the
byte of the reply before with letters of another case. -/
theorem tells_changes_iff (timing : Timing) (inputs : List SessionInput) :
    (∀ told ∈ handsets (transcript timing inputs), told.1 ≠ told.2) ↔
      ((opened timing).1.acceptedStatuses inputs).IsChain
        fun previous frame => ¬ Status.Respells previous frame := by
  induction inputs using List.reverseRecOn with
  | nil => exact iff_of_true (fun _ hmem => nomatch hmem) .nil
  | append_singleton inputs i ih =>
    have hstep := (tracks_reached timing inputs).tells_change_iff i
    have hone : ((reached timing inputs).acceptedStatus? i).toList.IsChain
        fun previous frame => ¬ Status.Respells previous frame := by
      cases (reached timing inputs).acceptedStatus? i with
      | none => exact .nil
      | some frame => exact .singleton frame
    rw [transcript_snoc, Action.handsets_append, List.forall_mem_append, ih, hstep,
      acceptedStatuses_snoc, List.isChain_append, Option.head?_toList, and_iff_right hone]

/-- A reply with the handset byte `AF`, written `aF`. -/
def lowered : Bytes := Checksum.update (({ handset := 0xAF } : Status).encode.set 26 0x61)

/-- **Not all that is told of the handset is a change**: a reply writes the byte `AF` of the reply
before as `aF`. -/
theorem exists_told_without_change :
    ¬ ∀ (timing : Timing) (inputs : List SessionInput),
      ∀ told ∈ handsets (transcript timing inputs), told.1 ≠ told.2 := by
  intro h
  refine h {} [.frame ({ handset := 0xAF } : Status).encode, .frame (Frame.commandAck 0),
    .timer .statusPoll, .frame lowered] (0xAF, 0xAF) ?_ rfl
  decide +kernel

end Session

end DomeLink
