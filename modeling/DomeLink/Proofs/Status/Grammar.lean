import DomeLink.Proofs.Status.RoundTrip
import DomeLink.Proofs.Wire.Located
import DomeLink.Proofs.Wire.Pieces
import DomeLink.Proofs.Wire.Quantity

/-!
# The language of status replies

`Grammar` says byte by byte which replies are read, less their carriage return, and `Canonical`
which of these a controller sends for the status that is read from them. Between the two lies all
that the reader forgives: more bytes than a reply has, any end code, any padding, hexadecimal
letters in lowercase, and the negative zero of the focuser.

Both are put together from what holds field by field: `SpelledAt` is what a field has to be to say
anything, and `written` what a status is given for it.

* `exists_decode_iff`: what is read is what the grammar says.
* `encode_eq_iff`: the status that is read is sent as the same bytes exactly if they are canonical.
* `fails_decode`, `locates_decode`: what is refused, and that a bad digit stands where its fault
  says.
-/

namespace DomeLink.Status

open Digits (isDecimal isHex)
open Checksum (isFieldDigit)

variable {frame body : Bytes} {s : Status}

/-! ## What is read -/

/-- What the field has to be to say something: the encoder counts up to 3599, the sign and the
magnitude of the focuser go together, and every other field has digits of its radix. -/
def SpelledAt (body : Bytes) : StatusField → Prop
  | .domePosition => body.Spells 7 11 isDecimal ∧ Digits.decimal (body.extract 7 11) ≤ 3599
  | .focusSign | .focusPosition => body.Spells 18 19 isFocusSign ∧ body.Spells 19 22 isDecimal
  | .eht => body.Spells 25 26 Bytes.isModeDigit
  | .apertureSlot => body.Spells 28 29 isDecimal
  | .filterSlot => body.Spells 29 30 isDecimal
  | .domeFlopMin => body.Spells 30 34 isDecimal
  | .domeFlopMax => body.Spells 34 38 isDecimal
  | .haPulses => body.Spells 38 46 isDecimal
  | .decPulses => body.Spells 46 54 isDecimal
  | f => body.Spells f.offset (f.offset + f.width) isHex

/-- A status can have any value at a part that can be put into it. -/
theorem exists_part_iff {α : Type} {x : Outcome α} {part : Status → α} (put : α → Status)
    (h : ∀ a, part (put a) = a) : (∃ s, x = .ok (part s)) ↔ ∃ a, x = .ok a :=
  ⟨fun ⟨s, hs⟩ => ⟨part s, hs⟩, fun ⟨a, ha⟩ => ⟨put a, by rw [h, ha]⟩⟩

/-- **A field says something** exactly if it is spelled so. -/
theorem exists_says_iff (f : StatusField) : (∃ s, Says body s f) ↔ SpelledAt body f := by
  have hflags (t : FlagTable) (f : StatusField) (hw : 0 < f.width) :
      (∃ x : Flags t, flagsAt body f = .ok x) ↔ body.Spells f.offset (f.offset + f.width) isHex :=
    Flags.exists_ofField_iff hw
  have hnumber (f : StatusField) (hw : 0 < f.width) (hw' : f.width ≤ 9) :
      (∃ v, numberAt body f = .ok v) ↔ body.Spells f.offset (f.offset + f.width) isDecimal :=
    Bytes.exists_decimalField_iff hw hw'
  cases f with
  | domePosition =>
    exact (exists_part_iff (fun a => { domeAzimuth := a }) fun _ => rfl).trans
      Bytes.exists_azimuthField_iff
  | dome =>
    exact (exists_part_iff (fun x => { dome := x }) fun _ => rfl).trans (hflags _ _ (by decide))
  | shutter =>
    exact (exists_part_iff (fun x => { shutter := x }) fun _ => rfl).trans (hflags _ _ (by decide))
  | dropout =>
    exact (exists_part_iff (fun x => { dropout := x }) fun _ => rfl).trans (hflags _ _ (by decide))
  | aperture =>
    exact (exists_part_iff (fun x => { aperture := x }) fun _ => rfl).trans (hflags _ _ (by decide))
  | filter =>
    exact (exists_part_iff (fun x => { filter := x }) fun _ => rfl).trans (hflags _ _ (by decide))
  | acqMirror =>
    exact (exists_part_iff (fun x => { acqMirror := x }) fun _ => rfl).trans
      (hflags _ _ (by decide))
  | instrumentShutter =>
    exact (exists_part_iff (fun x => { instrumentShutter := x }) fun _ => rfl).trans
      (hflags _ _ (by decide))
  | focusSign | focusPosition =>
    exact (exists_part_iff (fun a => { focusPosition := a }) fun _ => rfl).trans
      Bytes.exists_focusField_iff
  | focus =>
    exact (exists_part_iff (fun x => { focus := x }) fun _ => rfl).trans (hflags _ _ (by decide))
  | critical =>
    exact (exists_part_iff (fun x => { critical := x }) fun _ => rfl).trans (hflags _ _ (by decide))
  | eht =>
    simp only [Says, byteAt, map_bind]
    exact (exists_part_iff (fun m => { eht := m }) fun _ => rfl).trans Bytes.exists_ehtField_iff
  | handset =>
    exact (exists_part_iff (fun b => { handset := b }) fun _ => rfl).trans
      (exists_map_iff.trans (Bytes.exists_hexField_iff (by decide)))
  | apertureSlot =>
    exact (exists_part_iff (fun n => { apertureSlot := n }) fun _ => rfl).trans
      Bytes.exists_slotField_iff
  | filterSlot =>
    exact (exists_part_iff (fun n => { filterSlot := n }) fun _ => rfl).trans
      Bytes.exists_slotField_iff
  | domeFlopMin =>
    exact (exists_part_iff (fun n => { domeFlopMin := n }) fun _ => rfl).trans
      Bytes.exists_flopField_iff
  | domeFlopMax =>
    exact (exists_part_iff (fun n => { domeFlopMax := n }) fun _ => rfl).trans
      Bytes.exists_flopField_iff
  | haPulses =>
    exact (exists_part_iff (fun n => { haPulses := n }) fun _ => rfl).trans
      (hnumber _ (by decide) (by decide))
  | decPulses =>
    exact (exists_part_iff (fun n => { decPulses := n }) fun _ => rfl).trans
      (hnumber _ (by decide) (by decide))

/-- What the fields say one by one, a status says together. -/
theorem exists_says_forall (h : ∀ f, ∃ s, Says body s f) : ∃ s, ∀ f, Says body s f := by
  choose said hsaid using h
  refine ⟨{
    domeAzimuth := (said .domePosition).domeAzimuth
    dome := (said .dome).dome
    shutter := (said .shutter).shutter
    dropout := (said .dropout).dropout
    aperture := (said .aperture).aperture
    filter := (said .filter).filter
    acqMirror := (said .acqMirror).acqMirror
    instrumentShutter := (said .instrumentShutter).instrumentShutter
    focusPosition := (said .focusPosition).focusPosition
    focus := (said .focus).focus
    critical := (said .critical).critical
    eht := (said .eht).eht
    handset := (said .handset).handset
    apertureSlot := (said .apertureSlot).apertureSlot
    filterSlot := (said .filterSlot).filterSlot
    domeFlopMin := (said .domeFlopMin).domeFlopMin
    domeFlopMax := (said .domeFlopMax).domeFlopMax
    haPulses := (said .haPulses).haPulses
    decPulses := (said .decPulses).decPulses }, fun f => ?_⟩
  have hf := hsaid f
  cases f with
  | focusSign => exact hsaid .focusPosition
  | _ => exact hf

/-- **The grammar of a status reply** without its carriage return. -/
structure Grammar (body : Bytes) : Prop where
  length : 78 ≤ body.length
  header : Bytes.ascii ['@', '0', '0', 'R', 'D'] <+: body
  /-- It ends with its check field and the end delimiter. -/
  closed : ∃ content, body = Checksum.close content
  domePosition : body.Spells 7 11 isDecimal
  domePosition_le : Digits.decimal (body.extract 7 11) ≤ 3599
  /-- The flags of the dome up to those of the instrument shutter. -/
  flags : body.Spells 11 18 isHex
  focusSign : body.Spells 18 19 isFocusSign
  focusPosition : body.Spells 19 22 isDecimal
  /-- The flags of the focuser, and the critical ones. -/
  focusAndCritical : body.Spells 22 25 isHex
  eht : body.Spells 25 26 Bytes.isModeDigit
  handset : body.Spells 26 28 isHex
  /-- The slots, the flop limits and the pulses. -/
  numbers : body.Spells 28 54 isDecimal

theorem Grammar.spelledAt (h : Grammar body) (f : StatusField) : SpelledAt body f := by
  cases f with
  | domePosition => exact ⟨h.domePosition, h.domePosition_le⟩
  | focusSign | focusPosition => exact ⟨h.focusSign, h.focusPosition⟩
  | eht => exact h.eht
  | handset => exact h.handset
  | focus | critical => exact h.focusAndCritical.mono (by decide) (by decide)
  | apertureSlot | filterSlot | domeFlopMin | domeFlopMax | haPulses | decPulses =>
    exact h.numbers.mono (by decide) (by decide)
  | _ => exact h.flags.mono (by decide) (by decide)

theorem grammar_iff :
    Grammar body ↔
      (78 ≤ body.length ∧ Frame.statusHeader <+: body ∧ ∃ content, body = Checksum.close content) ∧
        ∀ f, SpelledAt body f := by
  constructor
  · intro h
    exact ⟨⟨h.length, h.header, h.closed⟩, h.spelledAt⟩
  · rintro ⟨⟨hlen, hheader, hclosed⟩, h⟩
    exact {
      length := hlen
      header := hheader
      closed := hclosed
      domePosition := (h .domePosition).1
      domePosition_le := (h .domePosition).2
      flags := Bytes.Spells.append (h .dome) <| .append (h .shutter) <| .append (h .dropout) <|
        .append (h .aperture) <| .append (h .filter) <|
        .append (h .acqMirror) (h .instrumentShutter)
      focusSign := (h .focusSign).1
      focusPosition := (h .focusPosition).2
      focusAndCritical := Bytes.Spells.append (h .focus) (h .critical)
      eht := h .eht
      handset := h .handset
      numbers := Bytes.Spells.append (h .apertureSlot) <| .append (h .filterSlot) <|
        .append (h .domeFlopMin) <| .append (h .domeFlopMax) <| .append (h .haPulses)
          (h .decPulses) }

/-- A frame says what it says without its carriage return. -/
theorem says_withoutCr (hlen : StatusField.fieldsEnd ≤ frame.withoutCr.length) (f : StatusField) :
    Says frame s f ↔ Says frame.withoutCr s f := by
  obtain ⟨tail, htail⟩ := Bytes.exists_eq_withoutCr_append frame
  conv_lhs => rw [htail]
  exact (says_congr hlen fun g _ => Eq.symm (StatusField.sameAt_append hlen tail g)).symm

/-- A frame is read as what it says without its carriage return. -/
theorem decode_eq_ok_iff_withoutCr :
    decode frame = .ok s ↔
      Frame.checkReply .status frame = .ok () ∧ ∀ f, Says frame.withoutCr s f := by
  rw [decode_eq_ok_iff]
  refine and_congr_right fun hcheck => forall_congr' fun f => says_withoutCr ?_ f
  exact Nat.le_trans (by decide) (Frame.checkReply_status_iff.1 hcheck).1

/-- **What is read is what the grammar says**, and nothing else. -/
theorem exists_decode_iff : (∃ s, decode frame = .ok s) ↔ Grammar frame.withoutCr := by
  simp only [decode_eq_ok_iff_withoutCr, exists_and_left, grammar_iff, ← exists_says_iff,
    Frame.checkReply_status_iff]
  exact and_congr_right fun _ => ⟨fun ⟨s, h⟩ f => ⟨s, h f⟩, exists_says_forall⟩

/-! ## What is written -/

/-- The digits that a reply has for the field. -/
def written (s : Status) : StatusField → Bytes
  | .domePosition => Digits.writeDecimal 4 (ticksOfAzimuth s.domeAzimuth)
  | .dome => s.dome.toDigits 1
  | .shutter => s.shutter.toDigits 1
  | .dropout => s.dropout.toDigits 1
  | .aperture => s.aperture.toDigits 1
  | .filter => s.filter.toDigits 1
  | .acqMirror => s.acqMirror.toDigits 1
  | .instrumentShutter => s.instrumentShutter.toDigits 1
  | .focusSign => [(focusToWire s.focusPosition).1]
  | .focusPosition => Digits.writeDecimal 3 (focusToWire s.focusPosition).2
  | .focus => s.focus.toDigits 2
  | .critical => s.critical.toDigits 1
  | .eht => Digits.writeHex 1 s.eht.code.toUInt32
  | .handset => Digits.writeHex 2 s.handset.toUInt32
  | .apertureSlot => Digits.writeDecimal 1 s.apertureSlot.toUInt32
  | .filterSlot => Digits.writeDecimal 1 s.filterSlot.toUInt32
  | .domeFlopMin => Digits.writeDecimal 4 s.domeFlopMin.toUInt32
  | .domeFlopMax => Digits.writeDecimal 4 s.domeFlopMax.toUInt32
  | .haPulses => Digits.writeDecimal 8 s.haPulses
  | .decPulses => Digits.writeDecimal 8 s.decPulses

/-- The pieces of a reply stand at the places of its fields. -/
theorem piecesAt_iff :
    body.PiecesAt 0 [7, 4, 1, 1, 1, 1, 1, 1, 1, 1, 3, 2, 1, 1, 2, 1, 1, 4, 4, 8, 8] s.pieces ↔
      body.field 0 7 = .ok (Frame.statusHeader ++ successCode) ∧
        ∀ f : StatusField, body.field f.offset f.width = .ok (s.written f) := by
  constructor
  · rintro ⟨hheader, h1, h2, h3, h4, h5, h6, h7, h8, h9, h10, h11, h12, h13, h14, h15, h16, h17,
      h18, h19, h20, -⟩
    refine ⟨hheader, fun f => ?_⟩
    cases f <;> assumption
  · rintro ⟨hheader, h⟩
    exact ⟨hheader, h .domePosition, h .dome, h .shutter, h .dropout, h .aperture, h .filter,
      h .acqMirror, h .instrumentShutter, h .focusSign, h .focusPosition, h .focus, h .critical,
      h .eht, h .handset, h .apertureSlot, h .filterSlot, h .domeFlopMin, h .domeFlopMax,
      h .haPulses, h .decPulses, trivial⟩

theorem field_handset_iff (h : Says body s .handset) :
    body.field 26 2 = .ok (s.written .handset) ↔ body.Spells 26 28 isFieldDigit := by
  obtain ⟨v, hv, hs⟩ := map_eq_ok.1 h
  have hback : s.handset.toUInt32 = v := by
    have hlt := Bytes.hexField_lt hv
    rw [← hs, ← UInt32.toNat_inj, UInt8.toNat_toUInt32, UInt32.toNat_toUInt8]
    exact Nat.mod_eq_of_lt hlt
  rw [written, hback]
  exact Bytes.field_eq_writeHex_iff hv (by decide)

/-- **What the fields say is written as they are** exactly if their letters are in uppercase and
they have no negative zero. -/
theorem field_written_iff (h : ∀ f, Says body s f) :
    (∀ f : StatusField, body.field f.offset f.width = .ok (s.written f)) ↔
      body.Spells 11 18 isFieldDigit ∧ body.extract 18 22 ≠ Bytes.ascii ['F', '0', '0', '0'] ∧
        body.Spells 22 25 isFieldDigit ∧ body.Spells 26 28 isFieldDigit := by
  constructor
  · intro hfield
    have hword {t : FlagTable} {f : StatusField} {x : Flags t} (hx : flagsAt body f = .ok x)
        (ht : t.width = 8) (hw : f.width ≤ 2) := Flags.field_eq_toDigits_iff hx ht hw
    refine ⟨?_, ?_, ?_, ?_⟩
    · exact Bytes.Spells.append ((hword (h .dome) rfl (by decide)).1 (hfield .dome)) <|
        .append ((hword (h .shutter) rfl (by decide)).1 (hfield .shutter)) <|
        .append ((hword (h .dropout) rfl (by decide)).1 (hfield .dropout)) <|
        .append ((hword (h .aperture) rfl (by decide)).1 (hfield .aperture)) <|
        .append ((hword (h .filter) rfl (by decide)).1 (hfield .filter)) <|
        .append ((hword (h .acqMirror) rfl (by decide)).1 (hfield .acqMirror))
          ((hword (h .instrumentShutter) rfl (by decide)).1 (hfield .instrumentShutter))
    · exact (Bytes.field_focusToWire_iff (h .focusPosition)).1
        ⟨hfield .focusSign, hfield .focusPosition⟩
    · exact Bytes.Spells.append ((hword (h .focus) rfl (by decide)).1 (hfield .focus))
        ((hword (h .critical) rfl (by decide)).1 (hfield .critical))
    · exact (field_handset_iff (h .handset)).1 (hfield .handset)
  · rintro ⟨hflags, hfocus, hcritical, hhandset⟩ f
    have hposition := (Bytes.field_focusToWire_iff (h .focusPosition)).2 hfocus
    have hf := h f
    cases f with
    | domePosition => exact Bytes.field_of_azimuthField hf
    | focusSign => exact hposition.1
    | focusPosition => exact hposition.2
    | eht =>
      rw [Says, byteAt, map_bind] at hf
      exact Bytes.ehtField_eq_ok_iff.1 hf
    | handset => exact (field_handset_iff hf).2 hhandset
    | apertureSlot | filterSlot => exact Bytes.field_of_slotField hf
    | domeFlopMin | domeFlopMax => exact Bytes.field_of_flopField hf
    | haPulses | decPulses => exact Bytes.field_of_decimalField hf
    | focus | critical =>
      exact (Flags.field_eq_toDigits_iff hf rfl (by decide)).2
        (hcritical.mono (by decide) (by decide))
    | _ =>
      exact (Flags.field_eq_toDigits_iff hf rfl (by decide)).2 (hflags.mono (by decide) (by decide))

/-- **The status replies that a controller sends**, among those that are read, less their carriage
return. -/
structure Canonical (body : Bytes) : Prop where
  length : body.length = 78
  endCode : body.extract 5 7 = Bytes.ascii ['0', '0']
  flags : body.Spells 11 18 isFieldDigit
  focusPosition : body.extract 18 22 ≠ Bytes.ascii ['F', '0', '0', '0']
  focusAndCritical : body.Spells 22 25 isFieldDigit
  handset : body.Spells 26 28 isFieldDigit
  padding : body.Spells 54 75 (· == '0'.toUInt8)

theorem field_header_iff {code : Bytes} (hheader : Frame.statusHeader <+: body)
    (hlen : 7 ≤ body.length) :
    body.field 0 7 = .ok (Frame.statusHeader ++ code) ↔ body.extract 5 7 = code := by
  obtain ⟨rest, rfl⟩ := hheader
  rw [Bytes.field_eq_ok_iff, and_iff_right (by omega), List.extract_eq_take_drop]
  show Frame.statusHeader ++ rest.take 2 = Frame.statusHeader ++ code ↔ rest.take 2 = code
  rw [List.append_cancel_left_eq]

/-- **A status that was read is sent as the same bytes** exactly if they are canonical. -/
theorem encode_eq_iff (h : decode frame = .ok s) :
    s.encode = frame.withoutCr ++ [Bytes.cr] ↔ Canonical frame.withoutCr := by
  obtain ⟨hcheck, hsaid⟩ := decode_eq_ok_iff_withoutCr.1 h
  obtain ⟨hlen, hheader, content, hclosed⟩ := Frame.checkReply_status_iff.1 hcheck
  rw [encode_eq_terminate, reserved, hclosed,
    Checksum.terminate_pieces_eq_iff s.map_length_pieces, ← hclosed, piecesAt_iff,
    field_written_iff hsaid, field_header_iff hheader (Nat.le_trans (by decide) hlen)]
  constructor
  · rintro ⟨hlen, ⟨hcode, hflags, hfocus, hcritical, hhandset⟩, hpadding⟩
    exact ⟨hlen, hcode, hflags, hfocus, hcritical, hhandset, hpadding⟩
  · intro h
    exact ⟨h.length, ⟨h.endCode, h.flags, h.focusPosition, h.focusAndCritical, h.handset⟩,
      h.padding⟩

/-! ## What is refused -/

/-- A reply that is not read is refused by its check, or for one of its fields. -/
theorem fails_decode (frame : Bytes) :
    FailsWith (fun e => Frame.checkReply .status frame = .error e ∨ FieldFault frame e)
      (decode frame) := by
  have hnumber {f : StatusField} : FailsWith (FieldFault frame) (numberAt frame f) :=
    Bytes.fails_decimalField
  have hflags {t : FlagTable} {f : StatusField} :
      FailsWith (FieldFault frame) (flagsAt frame f : Outcome (Flags t)) := Bytes.fails_ofField
  have hbyte {f : StatusField} : FailsWith (FieldFault frame) (byteAt frame f) :=
    Bytes.fails_hexField.map _
  have hfocus : FailsWith (FieldFault frame) (focusAt frame) :=
    .bind hnumber fun _ _ => .bind Bytes.fails_byteAt fun _ hsign =>
      Bytes.fails_focusOfWire hsign _
  unfold decode
  refine .bind (fun e he => .inl he) fun _ _ => .mono ?_ fun e he => .inr he
  refine .bind hnumber fun _ _ => .bind (Bytes.fails_azimuthOfTicks _) fun _ _ => ?_
  refine .bind hflags fun _ _ => .bind hflags fun _ _ => .bind hflags fun _ _ => ?_
  refine .bind hflags fun _ _ => .bind hflags fun _ _ => .bind hflags fun _ _ => ?_
  refine .bind hflags fun _ _ => .bind hfocus fun _ _ => .bind hflags fun _ _ => ?_
  refine .bind hflags fun _ _ => ?_
  refine .bind hbyte fun _ _ => .bind (Bytes.fails_ofCode _) fun _ _ => .bind hbyte fun _ _ => ?_
  refine .bind hnumber fun _ _ => .bind hnumber fun _ _ => .bind hnumber fun _ _ => ?_
  refine .bind hnumber fun _ _ => .bind hnumber fun _ _ => .bind hnumber fun _ _ => ?_
  exact failsWith_ok _

/-- **A bad digit stands where its fault says.** -/
theorem locates_decode (frame : Bytes) : frame.Locates (decode frame) :=
  Bytes.locates_of_fails <| (fails_decode frame).mono fun e he =>
    he.imp_left (Frame.fails_checkReply_status frame e)

/-! ## The language -/

/-- **The reader of status replies accepts its grammar and no more**, the status that it reads is
sent as the same bytes exactly if they are canonical, and a digit fault names the byte that stands
at its offset. -/
theorem reply_language (frame : Bytes) :
    ((∃ s, decode frame = .ok s) ↔ Grammar frame.withoutCr) ∧
      (∀ s, decode frame = .ok s →
        (s.encode = frame.withoutCr ++ [Bytes.cr] ↔ Canonical frame.withoutCr)) ∧
      ∀ offset byte, decode frame = .error (.digit offset byte) → frame[offset]? = some byte :=
  ⟨exists_decode_iff, fun _ => encode_eq_iff, locates_decode frame⟩

/-- A reply with the dome flags in lowercase is read and not sent, and one with a `G` in their place
is refused for that byte. -/
theorem reply_language_of_letters :
    let reply (flags : Char) := Checksum.close
      (Frame.statusHeader ++ successCode ++ Bytes.ascii ['0', '0', '0', '0', flags] ++
        List.replicate 42 '0'.toUInt8 ++ reserved)
    Grammar (reply 'a') ∧ ¬ Canonical (reply 'a') ∧ Canonical (reply 'A') ∧
      (reply 'G')[11]? = some 'G'.toUInt8 := by
  intro reply
  have hlower : decode (reply 'a') = .ok { domeAzimuth := 3599, dome := ⟨0x0A⟩ } := by
    decide +kernel
  have hupper : decode (reply 'A') = .ok { domeAzimuth := 3599, dome := ⟨0x0A⟩ } := by
    decide +kernel
  have hbad : decode (reply 'G') = .error (.digit 11 'G'.toUInt8) := by
    decide +kernel
  refine ⟨(reply_language (reply 'a')).1.1 ⟨_, hlower⟩, ?_, ?_,
    (reply_language (reply 'G')).2.2 _ _ hbad⟩
  · intro h
    exact absurd (((reply_language (reply 'a')).2.1 _ hlower).2 h) (by decide +kernel)
  · exact ((reply_language (reply 'A')).2.1 _ hupper).1 (by decide +kernel)

end DomeLink.Status
