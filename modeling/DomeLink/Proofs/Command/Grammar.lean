import DomeLink.Proofs.Command.RoundTrip
import DomeLink.Proofs.Wire.Located
import DomeLink.Proofs.Wire.Pieces
import DomeLink.Proofs.Wire.Quantity

/-!
# The language of commands

`Grammar` says byte by byte which command frames are read, less their carriage return, and
`Canonical` which of these a host sends for the command that is read from them. A simulated
controller moves by what it reads, so nothing beyond the grammar ever becomes motion. What the
reader forgives is more bytes than a command has, any padding, hexadecimal letters in lowercase, and
the negative zero of the focuser.

* `Says`, `decode_eq_ok_iff`: a frame is read as the command that its fields say.
* `exists_decode_iff`: what is read is what the grammar says.
* `encode_eq_iff`: the command that is read is sent as the same bytes exactly if they are canonical.
* `fails_decode`, `locates_decode`: what is refused, and that a bad digit stands where its fault
  says.
-/

namespace DomeLink.Command

open Digits (isDecimal isHex)
open Checksum (isFieldDigit)

variable {frame body : Bytes} {c : Command}

/-! ## What is read -/

/-- What stands in the frame is what the command says; the bookkeeping is in no frame. -/
structure Says (frame : Bytes) (c : Command) : Prop where
  domeTarget : frame.azimuthField 9 = .ok c.domeTarget
  dome : Flags.ofField frame 13 1 = .ok c.dome
  shutter : Flags.ofField frame 14 1 = .ok c.shutter
  dropout : Flags.ofField frame 15 1 = .ok c.dropout
  focus : Flags.ofField frame 16 1 = .ok c.focus
  focusTarget : frame.focusField focusSignOffset = .ok c.focusTarget
  aperture : Flags.ofField frame 21 1 = .ok c.aperture
  apertureSlot : frame.slotField 22 = .ok c.apertureSlot
  filter : Flags.ofField frame 23 1 = .ok c.filter
  filterSlot : frame.slotField 24 = .ok c.filterSlot
  eht : frame.ehtField 25 = .ok c.eht
  acqMirror : Flags.ofField frame 26 1 = .ok c.acqMirror
  misc : Flags.ofField frame 27 1 = .ok c.misc
  domeFlopMin : frame.flopField 28 = .ok c.domeFlopMin
  domeFlopMax : frame.flopField 32 = .ok c.domeFlopMax
  controlled : c.controlled = ∅
  requested : c.requested = ∅

/-- **A frame is read as a command** exactly if it passes its check and its fields say so. -/
theorem decode_eq_ok_iff :
    decode frame = .ok c ↔ Frame.checkCommand frame = .ok () ∧ Says frame c := by
  constructor
  · intro h
    simp only [decode, bind_eq_ok] at h
    obtain ⟨⟨⟩, hcheck, magnitude, hmagnitude, sign, hsign, position, hposition, h⟩ := h
    obtain ⟨ticks, hticks, azimuth, hazimuth, dome, hdome, shutter, hshutter, h⟩ := h
    obtain ⟨dropout, hdropout, focus, hfocus, aperture, haperture, slot, hslot, h⟩ := h
    obtain ⟨filter, hfilter, slot', hslot', code, hcode, mode, hmode, h⟩ := h
    obtain ⟨mirror, hmirror, misc, hmisc, low, hlow, high, hhigh, h⟩ := h
    rw [← Except.ok.inj h]
    refine ⟨hcheck, ?_⟩
    exact {
      domeTarget := bind_eq_ok.2 ⟨ticks, hticks, hazimuth⟩
      dome := hdome
      shutter := hshutter
      dropout := hdropout
      focus := hfocus
      focusTarget := bind_eq_ok.2 ⟨magnitude, hmagnitude, bind_eq_ok.2 ⟨sign, hsign, hposition⟩⟩
      aperture := haperture
      apertureSlot := map_eq_ok.2 ⟨slot, hslot, rfl⟩
      filter := hfilter
      filterSlot := map_eq_ok.2 ⟨slot', hslot', rfl⟩
      eht := bind_eq_ok.2 ⟨code, hcode, hmode⟩
      acqMirror := hmirror
      misc := hmisc
      domeFlopMin := map_eq_ok.2 ⟨low, hlow, rfl⟩
      domeFlopMax := map_eq_ok.2 ⟨high, hhigh, rfl⟩
      controlled := rfl
      requested := rfl }
  · rintro ⟨hcheck, h⟩
    obtain ⟨ticks, hticks, hazimuth⟩ := bind_eq_ok.1 h.domeTarget
    obtain ⟨magnitude, hmagnitude, hposition⟩ := bind_eq_ok.1 h.focusTarget
    obtain ⟨sign, hsign, hposition⟩ := bind_eq_ok.1 hposition
    obtain ⟨slot, hslot, haperture⟩ := map_eq_ok.1 h.apertureSlot
    obtain ⟨slot', hslot', hfilter⟩ := map_eq_ok.1 h.filterSlot
    obtain ⟨code, hcode, hmode⟩ := bind_eq_ok.1 h.eht
    obtain ⟨low, hlow, hmin⟩ := map_eq_ok.1 h.domeFlopMin
    obtain ⟨high, hhigh, hmax⟩ := map_eq_ok.1 h.domeFlopMax
    simp only [decode, bind_eq_ok]
    refine ⟨(), hcheck, magnitude, hmagnitude, sign, hsign, _, hposition, ticks, hticks, _,
      hazimuth, _, h.dome, _, h.shutter, _, h.dropout, _, h.focus, _, h.aperture, slot, hslot, _,
      h.filter, slot', hslot', code, hcode, _, hmode, _, h.acqMirror, _, h.misc, low, hlow, high,
      hhigh, ?_⟩
    rw [haperture, hfilter, hmin, hmax, ← h.controlled, ← h.requested]
    rfl

/-- **The grammar of a command** without its carriage return. -/
structure Grammar (body : Bytes) : Prop where
  length : 56 ≤ body.length
  header : Bytes.ascii ['@', '0', '0', 'W', 'D', '0', '1', '0', '0'] <+: body
  /-- It ends with its check field and the end delimiter. -/
  closed : ∃ content, body = Checksum.close content
  domeTarget : body.Spells 9 13 isDecimal
  domeTarget_le : Digits.decimal (body.extract 9 13) ≤ 3599
  /-- The flags of the dome up to those of the focuser. -/
  flags : body.Spells 13 17 isHex
  focusSign : body.Spells 17 18 isFocusSign
  focusTarget : body.Spells 18 21 isDecimal
  aperture : body.Spells 21 22 isHex
  apertureSlot : body.Spells 22 23 isDecimal
  filter : body.Spells 23 24 isHex
  filterSlot : body.Spells 24 25 isDecimal
  eht : body.Spells 25 26 Bytes.isModeDigit
  mirrorAndMisc : body.Spells 26 28 isHex
  flops : body.Spells 28 36 isDecimal

/-- What the fields of a checked command say is of the grammar. -/
theorem Says.grammar (h : Says body c) (hlen : 56 ≤ body.length)
    (hheader : Frame.commandHeader ++ Frame.commandAddress <+: body)
    (hclosed : ∃ content, body = Checksum.close content) : Grammar body where
  length := hlen
  header := hheader
  closed := hclosed
  domeTarget := (Bytes.exists_azimuthField_iff.1 ⟨_, h.domeTarget⟩).1
  domeTarget_le := (Bytes.exists_azimuthField_iff.1 ⟨_, h.domeTarget⟩).2
  flags := Bytes.Spells.append (Flags.spells_of_ofField h.dome (by decide)) <|
    .append (Flags.spells_of_ofField h.shutter (by decide)) <|
    .append (Flags.spells_of_ofField h.dropout (by decide))
      (Flags.spells_of_ofField h.focus (by decide))
  focusSign := (Bytes.exists_focusField_iff.1 ⟨_, h.focusTarget⟩).1
  focusTarget := (Bytes.exists_focusField_iff.1 ⟨_, h.focusTarget⟩).2
  aperture := Flags.spells_of_ofField h.aperture (by decide)
  apertureSlot := Bytes.exists_slotField_iff.1 ⟨_, h.apertureSlot⟩
  filter := Flags.spells_of_ofField h.filter (by decide)
  filterSlot := Bytes.exists_slotField_iff.1 ⟨_, h.filterSlot⟩
  eht := Bytes.exists_ehtField_iff.1 ⟨_, h.eht⟩
  mirrorAndMisc := Bytes.Spells.append
    (Flags.spells_of_ofField h.acqMirror (by decide))
    (Flags.spells_of_ofField h.misc (by decide))
  flops := Bytes.Spells.append (Bytes.exists_flopField_iff.1 ⟨_, h.domeFlopMin⟩)
    (Bytes.exists_flopField_iff.1 ⟨_, h.domeFlopMax⟩)

/-- What is of the grammar says a command. -/
theorem Grammar.exists_says (h : Grammar body) : ∃ c, Says body c := by
  have hword {t : FlagTable} {offset : Nat} (hs : body.Spells offset (offset + 1) isHex) :
      ∃ x : Flags t, Flags.ofField body offset 1 = .ok x :=
    (Flags.exists_ofField_iff (by decide)).2 hs
  obtain ⟨domeTarget, hdomeTarget⟩ :=
    Bytes.exists_azimuthField_iff.2 ⟨h.domeTarget, h.domeTarget_le⟩
  obtain ⟨dome, hdome⟩ := hword (h.flags.mono (by decide) (by decide) : body.Spells 13 14 _)
  obtain ⟨shutter, hshutter⟩ := hword (h.flags.mono (by decide) (by decide) : body.Spells 14 15 _)
  obtain ⟨dropout, hdropout⟩ := hword (h.flags.mono (by decide) (by decide) : body.Spells 15 16 _)
  obtain ⟨focus, hfocus⟩ := hword (h.flags.mono (by decide) (by decide) : body.Spells 16 17 _)
  obtain ⟨focusTarget, hfocusTarget⟩ := Bytes.exists_focusField_iff.2 ⟨h.focusSign, h.focusTarget⟩
  obtain ⟨aperture, haperture⟩ := hword h.aperture
  obtain ⟨apertureSlot, hapertureSlot⟩ := Bytes.exists_slotField_iff.2 h.apertureSlot
  obtain ⟨filter, hfilter⟩ := hword h.filter
  obtain ⟨filterSlot, hfilterSlot⟩ := Bytes.exists_slotField_iff.2 h.filterSlot
  obtain ⟨eht, heht⟩ := Bytes.exists_ehtField_iff.2 h.eht
  obtain ⟨acqMirror, hacqMirror⟩ :=
    hword (h.mirrorAndMisc.mono (by decide) (by decide) : body.Spells 26 27 _)
  obtain ⟨misc, hmisc⟩ := hword (h.mirrorAndMisc.mono (by decide) (by decide) : body.Spells 27 28 _)
  obtain ⟨domeFlopMin, hdomeFlopMin⟩ := Bytes.exists_flopField_iff.2
    (h.flops.mono (by decide) (by decide) : body.Spells 28 32 _)
  obtain ⟨domeFlopMax, hdomeFlopMax⟩ := Bytes.exists_flopField_iff.2
    (h.flops.mono (by decide) (by decide) : body.Spells 32 36 _)
  exact ⟨{ domeTarget, dome, shutter, dropout, focus, focusTarget, aperture, apertureSlot, filter,
           filterSlot, eht, acqMirror, misc, domeFlopMin, domeFlopMax },
    hdomeTarget, hdome, hshutter, hdropout, hfocus, hfocusTarget, haperture, hapertureSlot, hfilter,
    hfilterSlot, heht, hacqMirror, hmisc, hdomeFlopMin, hdomeFlopMax, rfl, rfl⟩

/-- A frame is read as what it says without its carriage return. -/
theorem decode_eq_ok_iff_withoutCr :
    decode frame = .ok c ↔ Frame.checkCommand frame = .ok () ∧ Says frame.withoutCr c := by
  constructor
  · intro h
    have hcheck := (decode_eq_ok_iff.1 h).1
    rw [← decode_withoutCr hcheck] at h
    exact ⟨hcheck, (decode_eq_ok_iff.1 h).2⟩
  · rintro ⟨hcheck, h⟩
    rw [← decode_withoutCr hcheck, decode_eq_ok_iff]
    exact ⟨Frame.checkCommand_withoutCr hcheck, h⟩

/-- **What is read is what the grammar says**, and nothing else. -/
theorem exists_decode_iff : (∃ c, decode frame = .ok c) ↔ Grammar frame.withoutCr := by
  simp only [decode_eq_ok_iff_withoutCr, Frame.checkCommand_eq_ok_iff]
  constructor
  · rintro ⟨c, ⟨hlen, hheader, hclosed⟩, h⟩
    exact h.grammar hlen hheader hclosed
  · intro h
    obtain ⟨c, hsaid⟩ := h.exists_says
    exact ⟨c, ⟨h.length, h.header, h.closed⟩, hsaid⟩

/-! ## What is written -/

/-- **The command frames that a host sends**, among those that are read, less their carriage
return. -/
structure Canonical (body : Bytes) : Prop where
  length : body.length = 56
  flags : body.Spells 13 17 isFieldDigit
  focusTarget : body.extract 17 21 ≠ Bytes.ascii ['F', '0', '0', '0']
  aperture : body.Spells 21 22 isFieldDigit
  filter : body.Spells 23 24 isFieldDigit
  mirrorAndMisc : body.Spells 26 28 isFieldDigit
  padding : body.Spells 36 53 (· == '0'.toUInt8)

/-- **What the fields say is written as they are** exactly if their letters are in uppercase and
they have no negative zero. -/
theorem Says.piecesAt_iff (h : Says body c)
    (hheader : Frame.commandHeader ++ Frame.commandAddress <+: body) :
    body.PiecesAt 0 [9, 4, 1, 1, 1, 1, 1, 3, 1, 1, 1, 1, 1, 1, 1, 4, 4] c.pieces ↔
      body.Spells 13 17 isFieldDigit ∧ body.extract 17 21 ≠ Bytes.ascii ['F', '0', '0', '0'] ∧
        body.Spells 21 22 isFieldDigit ∧ body.Spells 23 24 isFieldDigit ∧
          body.Spells 26 28 isFieldDigit := by
  have hword {t : FlagTable} {x : Flags t} {offset : Nat} (hx : Flags.ofField body offset 1 = .ok x)
      (ht : t.width = 8) := Flags.field_eq_toDigits_iff hx ht (by decide)
  have hfocus := Bytes.field_focusToWire_iff h.focusTarget
  constructor
  · rintro ⟨-, -, hdome, hshutter, hdropout, hflags, hsign, hmagnitude, haperture, -, hfilter, -, -,
      hmirror, hmisc, -⟩
    refine ⟨?_, hfocus.1 ⟨hsign, hmagnitude⟩, (hword h.aperture rfl).1 haperture,
      (hword h.filter rfl).1 hfilter, ?_⟩
    · exact Bytes.Spells.append ((hword h.dome rfl).1 hdome) <|
        .append ((hword h.shutter rfl).1 hshutter) <|
        .append ((hword h.dropout rfl).1 hdropout) ((hword h.focus rfl).1 hflags)
    · exact Bytes.Spells.append ((hword h.acqMirror rfl).1 hmirror) ((hword h.misc rfl).1 hmisc)
  · rintro ⟨hflags, hposition, haperture, hfilter, hmirror⟩
    exact ⟨Bytes.field_of_front hheader, Bytes.field_of_azimuthField h.domeTarget,
      (hword h.dome rfl).2 (hflags.mono (by decide) (by decide)),
      (hword h.shutter rfl).2 (hflags.mono (by decide) (by decide)),
      (hword h.dropout rfl).2 (hflags.mono (by decide) (by decide)),
      (hword h.focus rfl).2 (hflags.mono (by decide) (by decide)),
      (hfocus.2 hposition).1, (hfocus.2 hposition).2, (hword h.aperture rfl).2 haperture,
      Bytes.field_of_slotField h.apertureSlot, (hword h.filter rfl).2 hfilter,
      Bytes.field_of_slotField h.filterSlot, Bytes.ehtField_eq_ok_iff.1 h.eht,
      (hword h.acqMirror rfl).2 (hmirror.mono (by decide) (by decide)),
      (hword h.misc rfl).2 (hmirror.mono (by decide) (by decide)),
      Bytes.field_of_flopField h.domeFlopMin, Bytes.field_of_flopField h.domeFlopMax, trivial⟩

/-- **A command that was read is sent as the same bytes** exactly if they are canonical. -/
theorem encode_eq_iff (h : decode frame = .ok c) :
    c.encode = frame.withoutCr ++ [Bytes.cr] ↔ Canonical frame.withoutCr := by
  obtain ⟨hcheck, hsaid⟩ := decode_eq_ok_iff_withoutCr.1 h
  obtain ⟨-, hheader, contents, hclosed⟩ := Frame.checkCommand_eq_ok_iff.1 hcheck
  rw [encode_eq_terminate, content, padding, hclosed,
    Checksum.terminate_pieces_eq_iff c.map_length_pieces, ← hclosed, hsaid.piecesAt_iff hheader]
  constructor
  · rintro ⟨hlen, ⟨hflags, hfocus, haperture, hfilter, hmirror⟩, hpadding⟩
    exact ⟨hlen, hflags, hfocus, haperture, hfilter, hmirror, hpadding⟩
  · intro h
    exact ⟨h.length, ⟨h.flags, h.focusTarget, h.aperture, h.filter, h.mirrorAndMisc⟩, h.padding⟩

/-! ## What is refused -/

/-- A command that is not read is refused by its check, or for one of its fields. -/
theorem fails_decode (frame : Bytes) :
    FailsWith (fun e => Frame.checkCommand frame = .error e ∨ FieldFault frame e)
      (decode frame) := by
  have hnumber {offset width : Nat} :
      FailsWith (FieldFault frame) (frame.decimalField offset width) := Bytes.fails_decimalField
  have hflags {t : FlagTable} {offset : Nat} :
      FailsWith (FieldFault frame) (Flags.ofField frame offset 1 : Outcome (Flags t)) :=
    Bytes.fails_ofField
  unfold decode
  refine .bind (fun e he => .inl he) fun _ _ => .mono ?_ fun e he => .inr he
  refine .bind hnumber fun _ _ => .bind Bytes.fails_byteAt fun _ hsign => ?_
  refine .bind (Bytes.fails_focusOfWire hsign _) fun _ _ => ?_
  refine .bind hnumber fun _ _ => .bind (Bytes.fails_azimuthOfTicks _) fun _ _ => ?_
  refine .bind hflags fun _ _ => .bind hflags fun _ _ => .bind hflags fun _ _ => ?_
  refine .bind hflags fun _ _ => .bind hflags fun _ _ => .bind hnumber fun _ _ => ?_
  refine .bind hflags fun _ _ => .bind hnumber fun _ _ => ?_
  refine .bind Bytes.fails_hexField fun _ _ => .bind (Bytes.fails_ofCode _) fun _ _ => ?_
  refine .bind hflags fun _ _ => .bind hflags fun _ _ => ?_
  refine .bind hnumber fun _ _ => .bind hnumber fun _ _ => ?_
  exact failsWith_ok _

/-- **A bad digit stands where its fault says.** -/
theorem locates_decode (frame : Bytes) : frame.Locates (decode frame) :=
  Bytes.locates_of_fails <| (fails_decode frame).mono fun e he =>
    he.imp_left (Frame.fails_checkCommand frame e)

/-! ## The language -/

/-- **The reader of commands accepts its grammar and no more**, and the command that it reads is
sent as the same bytes exactly if they are canonical. -/
theorem command_language (frame : Bytes) :
    ((∃ c, decode frame = .ok c) ↔ Grammar frame.withoutCr) ∧
      ∀ c, decode frame = .ok c →
        (c.encode = frame.withoutCr ++ [Bytes.cr] ↔ Canonical frame.withoutCr) :=
  ⟨exists_decode_iff, fun _ => encode_eq_iff⟩

/-- A command for the negative zero of the focuser is read and not sent, and one with a `1` as the
sign is no command. -/
theorem command_language_of_signs :
    let command (sign : Char) := Checksum.close
      (Frame.commandHeader ++ Frame.commandAddress ++ List.replicate 8 '0'.toUInt8 ++
        Bytes.ascii [sign] ++ List.replicate 18 '0'.toUInt8 ++ padding)
    Grammar (command 'F') ∧ ¬ Canonical (command 'F') ∧ Canonical (command '0') ∧
      ¬ Grammar (command '1') := by
  intro command
  have hminus : decode (command 'F') = .ok { domeTarget := 3599 } := by decide +kernel
  have hplus : decode (command '0') = .ok { domeTarget := 3599 } := by decide +kernel
  have hbad : decode (command '1') = .error (.digit 17 '1'.toUInt8) := by decide +kernel
  refine ⟨(command_language (command 'F')).1.1 ⟨_, hminus⟩, ?_, ?_, ?_⟩
  · intro h
    exact absurd (((command_language (command 'F')).2 _ hminus).2 h) (by decide +kernel)
  · exact ((command_language (command '0')).2 _ hplus).1 (by decide +kernel)
  · intro h
    obtain ⟨c, hc⟩ := (command_language (command '1')).1.2 h
    rw [hbad] at hc
    cases hc

end DomeLink.Command
