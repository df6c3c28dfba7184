import DomeLink.Proofs.Wire.Field
import DomeLink.Proofs.Wire.Verify
import DomeLink.Status.Codec

/-!
# What each field of a reply says

`Says frame s f` is the part of reading a status reply that the field `f` has: what stands there is
what `s` says. A reply that passes its check is read as `s` exactly if all of its fields say so
(`decode_eq_ok_iff`), and what a field says depends on its characters and no others, except that the
sign and the magnitude of the focuser position say it together (`StatusField.partners`).

`AgreesAt s t f` is what two statuses have in common at the field: taking over fields from a source
makes a status agree with it where one of the fields says so (`agreesAt_foldl_copyField`), and
leaves it as it was elsewhere (`agreesAt_foldl_copyField_of_not_mem`). So a status can be brought up
to date by taking over the fields whose characters have changed: `applyChanges_eq_decode`.
-/

namespace DomeLink

namespace StatusField

/-- Where the last field ends. -/
def fieldsEnd : Nat := 54

theorem place_le (f : StatusField) : f.offset + f.width ≤ fieldsEnd := by
  cases f <;> decide

/-- The fields that say together what the field says. -/
def partners : StatusField → List StatusField
  | focusSign | focusPosition => [focusSign, focusPosition]
  | f => [f]

/-- What the frame has at the place of the field is the same in both frames. -/
def SameAt (frame frame' : Bytes) (f : StatusField) : Prop :=
  frame.field f.offset f.width = frame'.field f.offset f.width

variable {frame frame' : Bytes} {f : StatusField}

theorem exists_raw? (hlen : fieldsEnd ≤ frame.length) (f : StatusField) :
    ∃ bs, f.raw? frame = some bs :=
  ⟨_, Bytes.slice?_eq_some_iff.2 ⟨Nat.le_trans f.place_le hlen, rfl⟩⟩

/-- Equal characters are the same. -/
theorem sameAt_of_raw? (hlen : fieldsEnd ≤ frame.length) (h : f.raw? frame = f.raw? frame') :
    SameAt frame frame' f := by
  obtain ⟨bs, hbs⟩ := exists_raw? hlen f
  have hbs' := h.symm.trans hbs
  rw [raw?] at hbs hbs'
  simp only [SameAt, Bytes.field, hbs, hbs']

/-- What follows the fields does not show in them. -/
theorem sameAt_append (hlen : fieldsEnd ≤ frame.length) (rest : Bytes) (f : StatusField) :
    SameAt (frame ++ rest) frame f :=
  Bytes.field_append (Nat.le_trans f.place_le hlen) rest

end StatusField

namespace Status

open StatusField (SameAt fieldsEnd)

variable {frame frame' previous : Bytes} {s t u fresh : Status} {f g : StatusField}

/-! ## Reading a field -/

theorem numberAt_congr (h : SameAt frame frame' f) : numberAt frame f = numberAt frame' f := by
  unfold numberAt Bytes.decimalField
  rw [h]

theorem flagsAt_congr (t : FlagTable) (h : SameAt frame frame' f) :
    (flagsAt frame f : Outcome (Flags t)) = flagsAt frame' f := by
  unfold flagsAt Flags.ofField Bytes.hexField
  rw [h]

theorem byteAt_congr (h : SameAt frame frame' f) : byteAt frame f = byteAt frame' f := by
  unfold byteAt Bytes.hexField
  rw [h]

theorem focusAt_congr (hlen : fieldsEnd ≤ frame.length) (hsign : SameAt frame frame' .focusSign)
    (h : SameAt frame frame' .focusPosition) : focusAt frame = focusAt frame' := by
  obtain ⟨bs, hbs⟩ := StatusField.exists_raw? hlen .focusSign
  obtain ⟨b, rfl⟩ := List.length_eq_one_iff.1 (Bytes.length_of_slice? hbs)
  have hfield : frame.field StatusField.focusSign.offset 1 = .ok [b] := by
    rw [Bytes.field]
    rw [StatusField.raw?] at hbs
    exact hbs ▸ rfl
  unfold focusAt
  rw [numberAt_congr h, Bytes.byteAt_of_field hfield, Bytes.byteAt_of_field (hsign ▸ hfield)]

/-- A frame is read by its check and the characters of its fields. -/
theorem decode_congr (hlen : fieldsEnd ≤ frame.length)
    (hcheck : Frame.checkReply .status frame = Frame.checkReply .status frame')
    (h : ∀ f, SameAt frame frame' f) : decode frame = decode frame' := by
  have hnumber : numberAt frame = numberAt frame' := funext fun f => numberAt_congr (h f)
  have hbyte : byteAt frame = byteAt frame' := funext fun f => byteAt_congr (h f)
  have hfocus := focusAt_congr hlen (h .focusSign) (h .focusPosition)
  have hflags (t : FlagTable) (f : StatusField) := flagsAt_congr t (h f)
  simp only [decode, hcheck, hnumber, hbyte, hfocus, hflags]

/-- What stands in the frame at the place of the field is what the status says. -/
def Says (frame : Bytes) (s : Status) : StatusField → Prop
  | .domePosition => (numberAt frame .domePosition >>= azimuthOfTicks) = .ok s.domeAzimuth
  | .dome => flagsAt frame .dome = .ok s.dome
  | .shutter => flagsAt frame .shutter = .ok s.shutter
  | .dropout => flagsAt frame .dropout = .ok s.dropout
  | .aperture => flagsAt frame .aperture = .ok s.aperture
  | .filter => flagsAt frame .filter = .ok s.filter
  | .acqMirror => flagsAt frame .acqMirror = .ok s.acqMirror
  | .instrumentShutter => flagsAt frame .instrumentShutter = .ok s.instrumentShutter
  | .focusSign | .focusPosition => focusAt frame = .ok s.focusPosition
  | .focus => flagsAt frame .focus = .ok s.focus
  | .critical => flagsAt frame .critical = .ok s.critical
  | .eht => (byteAt frame .eht >>= EhtMode.ofCode) = .ok s.eht
  | .handset => byteAt frame .handset = .ok s.handset
  | .apertureSlot => UInt32.toUInt8 <$> numberAt frame .apertureSlot = .ok s.apertureSlot
  | .filterSlot => UInt32.toUInt8 <$> numberAt frame .filterSlot = .ok s.filterSlot
  | .domeFlopMin => UInt32.toUInt16 <$> numberAt frame .domeFlopMin = .ok s.domeFlopMin
  | .domeFlopMax => UInt32.toUInt16 <$> numberAt frame .domeFlopMax = .ok s.domeFlopMax
  | .haPulses => numberAt frame .haPulses = .ok s.haPulses
  | .decPulses => numberAt frame .decPulses = .ok s.decPulses

/-- **A reply is read as a status** exactly if it passes its check and all of its fields say so. -/
theorem decode_eq_ok_iff :
    decode frame = .ok s ↔ Frame.checkReply .status frame = .ok () ∧ ∀ f, Says frame s f := by
  constructor
  · intro h
    simp only [decode, bind_eq_ok] at h
    obtain ⟨⟨⟩, hcheck, ticks, hticks, azimuth, hazimuth, h⟩ := h
    obtain ⟨dome, hdome, shutter, hshutter, dropout, hdropout, aperture, haperture, h⟩ := h
    obtain ⟨filter, hfilter, acqMirror, hacqMirror, instrument, hinstrument, h⟩ := h
    obtain ⟨position, hposition, focus, hfocus, critical, hcritical, code, hcode, eht, heht, h⟩ := h
    obtain ⟨handset, hhandset, slot, hslot, slot', hslot', low, hlow, high, hhigh, h⟩ := h
    obtain ⟨ha, hha, dec, hdec, h⟩ := h
    rw [← Except.ok.inj h]
    refine ⟨hcheck, fun f => ?_⟩
    cases f
    all_goals simp only [Says, *, map_ok, ok_bind]
  · rintro ⟨hcheck, h⟩
    obtain ⟨ticks, hticks, hazimuth⟩ := bind_eq_ok.1 (h .domePosition)
    obtain ⟨code, hcode, heht⟩ := bind_eq_ok.1 (h .eht)
    obtain ⟨slot, hslot, haperture⟩ := map_eq_ok.1 (h .apertureSlot)
    obtain ⟨slot', hslot', hfilter⟩ := map_eq_ok.1 (h .filterSlot)
    obtain ⟨low, hlow, hmin⟩ := map_eq_ok.1 (h .domeFlopMin)
    obtain ⟨high, hhigh, hmax⟩ := map_eq_ok.1 (h .domeFlopMax)
    simp only [decode, bind_eq_ok]
    refine ⟨(), hcheck, ticks, hticks, _, hazimuth, _, h .dome, _, h .shutter, _, h .dropout, _,
      h .aperture, _, h .filter, _, h .acqMirror, _, h .instrumentShutter, _, h .focusPosition, _,
      h .focus, _, h .critical, code, hcode, _, heht, _, h .handset, slot, hslot, slot', hslot',
      low, hlow, high, hhigh, _, h .haPulses, _, h .decPulses, ?_⟩
    rw [haperture, hfilter, hmin, hmax]
    rfl

/-- What a field says depends on its characters, and those of its partners. -/
theorem says_congr (hlen : fieldsEnd ≤ frame.length) (h : ∀ g ∈ f.partners, SameAt frame frame' g) :
    Says frame s f ↔ Says frame' s f := by
  cases f with
  | focusSign | focusPosition =>
    have hfocus := focusAt_congr hlen (h .focusSign (by decide)) (h .focusPosition (by decide))
    simp only [Says, hfocus]
  | domePosition | apertureSlot | filterSlot | domeFlopMin | domeFlopMax | haPulses | decPulses =>
    simp only [Says, numberAt_congr (h _ List.mem_cons_self)]
  | eht | handset => simp only [Says, byteAt_congr (h _ List.mem_cons_self)]
  | _ => simp only [Says, flagsAt_congr _ (h _ List.mem_cons_self)]

/-! ## Taking over fields -/

/-- Two statuses agree on what the field says. -/
def AgreesAt (s t : Status) : StatusField → Prop
  | .domePosition => s.domeAzimuth = t.domeAzimuth
  | .dome => s.dome = t.dome
  | .shutter => s.shutter = t.shutter
  | .dropout => s.dropout = t.dropout
  | .aperture => s.aperture = t.aperture
  | .filter => s.filter = t.filter
  | .acqMirror => s.acqMirror = t.acqMirror
  | .instrumentShutter => s.instrumentShutter = t.instrumentShutter
  | .focusSign | .focusPosition => s.focusPosition = t.focusPosition
  | .focus => s.focus = t.focus
  | .critical => s.critical = t.critical
  | .eht => s.eht = t.eht
  | .handset => s.handset = t.handset
  | .apertureSlot => s.apertureSlot = t.apertureSlot
  | .filterSlot => s.filterSlot = t.filterSlot
  | .domeFlopMin => s.domeFlopMin = t.domeFlopMin
  | .domeFlopMax => s.domeFlopMax = t.domeFlopMax
  | .haPulses => s.haPulses = t.haPulses
  | .decPulses => s.decPulses = t.decPulses

theorem agreesAt_refl (s : Status) (f : StatusField) : s.AgreesAt s f := by
  cases f <;> rfl

theorem AgreesAt.trans (h : s.AgreesAt t f) (h' : t.AgreesAt u f) : s.AgreesAt u f := by
  cases f <;> exact Eq.trans h h'

/-- The fields say all of a status. -/
theorem eq_of_agreesAt (h : ∀ f, s.AgreesAt t f) : s = t := by
  cases s
  cases t
  rw [mk.injEq]
  exact ⟨h .domePosition, h .dome, h .shutter, h .dropout, h .aperture, h .filter, h .acqMirror,
    h .instrumentShutter, h .focusPosition, h .focus, h .critical, h .eht, h .handset,
    h .apertureSlot, h .filterSlot, h .domeFlopMin, h .domeFlopMax, h .haPulses, h .decPulses⟩

/-- A field of a frame says one thing. -/
theorem Says.agreesAt (hs : Says frame s f) (ht : Says frame t f) : s.AgreesAt t f := by
  cases f <;> exact Except.ok.inj (hs.symm.trans ht)

/-- A field that is taken over is as in the source. -/
theorem agreesAt_copyField (hf : f ∈ g.partners) (source s : Status) :
    (source.copyField s f).AgreesAt source g := by
  cases g with
  | focusSign | focusPosition =>
    simp only [StatusField.partners, List.mem_cons, List.not_mem_nil, or_false] at hf
    rcases hf with rfl | rfl <;> rfl
  | _ =>
    obtain rfl := List.mem_singleton.1 hf
    rfl

/-- Taking over a field touches nothing else. -/
theorem agreesAt_copyField_of_not_mem (hf : f ∉ g.partners) (source s : Status) :
    (source.copyField s f).AgreesAt s g := by
  cases f <;> cases g <;> first | rfl | exact absurd (by decide) hf

/-- Taking over fields touches nothing that none of them says. -/
theorem agreesAt_foldl_copyField_of_not_mem {fs : List StatusField}
    (h : ∀ f ∈ fs, f ∉ g.partners) (source s : Status) :
    (fs.foldl source.copyField s).AgreesAt s g := by
  induction fs generalizing s with
  | nil => exact agreesAt_refl s g
  | cons f fs ih =>
    obtain ⟨hf, hfs⟩ := List.forall_mem_cons.1 h
    exact (ih hfs _).trans (agreesAt_copyField_of_not_mem hf source s)

/-- **What one of the fields says is taken over.** -/
theorem agreesAt_foldl_copyField {fs : List StatusField} (h : ∃ f ∈ fs, f ∈ g.partners)
    (source s : Status) : (fs.foldl source.copyField s).AgreesAt source g := by
  induction fs generalizing s with
  | nil =>
    obtain ⟨f, hf, -⟩ := h
    cases hf
  | cons f fs ih =>
    by_cases hrest : ∃ f ∈ fs, f ∈ g.partners
    · exact ih hrest _
    · -- `f` is the last of the fields that says it, and what follows touches it no more
      have hf : f ∈ g.partners := by
        obtain ⟨f', hmem, hf'⟩ := h
        rcases List.mem_cons.1 hmem with rfl | hmem
        · exact hf'
        · exact absurd ⟨f', hmem, hf'⟩ hrest
      have hfs : ∀ f ∈ fs, f ∉ g.partners := fun f hmem hf => hrest ⟨f, hmem, hf⟩
      exact (agreesAt_foldl_copyField_of_not_mem hfs source _).trans
        (agreesAt_copyField hf source s)

theorem mem_changedFields : f ∈ changedFields previous frame ↔ f.raw? previous ≠ f.raw? frame := by
  rw [changedFields, List.mem_filter, decide_eq_true_eq]
  exact and_iff_right f.mem_all

theorem fieldsEnd_le_of_decode (h : decode frame = .ok s) : fieldsEnd ≤ frame.length := by
  have hlen := (Frame.checkReply_eq_ok_iff.1 (decode_eq_ok_iff.1 h).1).1
  obtain ⟨tail, htail⟩ := Bytes.exists_eq_withoutCr_append frame
  rw [htail, List.length_append]
  exact Nat.le_trans (by decide) (Nat.le_trans hlen (Nat.le_add_right _ _))

/-- **Taking over the fields that changed** between two replies makes the status of the first
the status of the second. -/
theorem foldl_copyField_changedFields (hprevious : decode previous = .ok s)
    (hframe : decode frame = .ok fresh) :
    (changedFields previous frame).foldl fresh.copyField s = fresh := by
  obtain ⟨-, hs⟩ := decode_eq_ok_iff.1 hprevious
  obtain ⟨-, hfresh⟩ := decode_eq_ok_iff.1 hframe
  have hlen := fieldsEnd_le_of_decode hprevious
  refine eq_of_agreesAt fun g => ?_
  by_cases hchanged : ∃ f ∈ changedFields previous frame, f ∈ g.partners
  · exact agreesAt_foldl_copyField hchanged fresh s
  · have hkept : ∀ f ∈ changedFields previous frame, f ∉ g.partners :=
      fun f hmem hf => hchanged ⟨f, hmem, hf⟩
    -- the characters of `g` are the same in both frames, so the first says what the second does
    have hsame : ∀ f ∈ g.partners, SameAt previous frame f := fun f hf =>
      StatusField.sameAt_of_raw? hlen <|
        Decidable.byContradiction fun hne => hkept f (mem_changedFields.2 hne) hf
    have hold : Says frame s g := (says_congr hlen hsame).1 (hs g)
    exact (agreesAt_foldl_copyField_of_not_mem hkept fresh s).trans (hold.agreesAt (hfresh g))

theorem applyChanges_of_error {fault : Fault} (h : decode frame = .error fault) (s : Status)
    (previous : Bytes) : s.applyChanges previous frame = .error fault := by
  rw [applyChanges, h]
  rfl

theorem applyChanges_of_ok (h : decode frame = .ok fresh) (s : Status) (previous : Bytes) :
    s.applyChanges previous frame =
      .ok ((changedFields previous frame).foldl fresh.copyField s,
        changedFields previous frame) := by
  rw [applyChanges, h]
  rfl

/-- **Bringing a status up to date is reading the new reply.** -/
theorem applyChanges_eq_decode (hprevious : decode previous = .ok s) (frame : Bytes) :
    s.applyChanges previous frame =
      (fun fresh => (fresh, changedFields previous frame)) <$> decode frame := by
  cases hframe : decode frame with
  | error e => exact applyChanges_of_error hframe s previous
  | ok fresh =>
    rw [applyChanges_of_ok hframe, foldl_copyField_changedFields hprevious hframe]
    rfl

end Status

end DomeLink
