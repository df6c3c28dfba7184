import DomeLink.Command.Codec
import DomeLink.Proofs.Machine.Frame
import DomeLink.Proofs.Mechanism
import DomeLink.Proofs.Status.Fields
import DomeLink.Proofs.Wire.Quantity

/-!
# Frames are read on the machine

How the machine reads statuses and commands off frames. A frame that is read has passed the check
of its kind, so the byte of the sign is there; three digits make a magnitude that has a negation,
and a count that is in range can be taken from the greatest one.

`computes_decodeStatus`, `computes_decodeCommand` and `computes_applyChanges` say so of any bytes.
-/

namespace DomeLink.Machine

variable {ε α : Type} {frame previous : Bytes}

/-! ## Quantities -/

/-- The azimuth at an encoder count. -/
def azimuthOfTicks (ticks : UInt32) : Run Fault UInt16 := do
  refusing (Quantity.domeTicks.check ticks.toNat)
  subHalf domeTicksMax ticks.toUInt16

/-- The position of a sign character, found at `offset`, and a magnitude. -/
def focusOfWire (sign : UInt8) (magnitude : UInt32) (offset : Nat) : Run Fault Int16 :=
  let m := Int16.ofNat magnitude.toNat
  if sign = 'F'.toUInt8 then negHalf m
  else if sign = '0'.toUInt8 then .ok m
  else refuse (.digit offset sign)

theorem computes_check (q : Quantity) (value : Int) :
    Computes (refusing (q.check value)) (q.check value) := by
  unfold Quantity.check
  split
  case isTrue => exact computes_ok ()
  case isFalse => exact computes_refuse rfl

/-- A count in range can be taken from the greatest one. -/
theorem computes_azimuthOfTicks (ticks : UInt32) :
    Computes (azimuthOfTicks ticks) (DomeLink.azimuthOfTicks ticks) := by
  refine (computes_check _ _).bind fun _ hcheck => ?_
  have hle : ticks.toUInt16 ≤ domeTicksMax := by
    unfold Quantity.check at hcheck
    split at hcheck
    case isFalse => cases hcheck
    case isTrue hrange =>
      have hticks : (ticks.toNat : Int) ≤ 3599 := hrange.2
      rw [UInt16.le_iff_toNat_le, UInt32.toNat_toUInt16, toNat_domeTicksMax]
      omega
  rw [subHalf_eq hle]
  exact computes_ok _

/-- Three digits make a magnitude that has a negation. -/
theorem computes_focusOfWire {sign : UInt8} {magnitude : UInt32} (offset : Nat)
    (h : magnitude.toNat < 1000) :
    Computes (focusOfWire sign magnitude offset) (DomeLink.focusOfWire sign magnitude offset) := by
  have hne : Int16.ofNat magnitude.toNat ≠ Int16.minValue := by
    rw [ne_eq, ← Int16.toInt_inj, Int16.toInt_ofNat_of_lt (by omega), Int16.toInt_minValue]
    omega
  simp only [focusOfWire, DomeLink.focusOfWire, negHalf_eq hne, if_neg hne]
  refine computes_ite (fun _ => computes_ok _) fun _ => ?_
  exact computes_ite (fun _ => computes_ok _) fun _ => computes_refuse rfl

theorem computes_ofCode (code : UInt8) :
    Computes (refusing (EhtMode.ofCode code)) (EhtMode.ofCode code) := by
  unfold EhtMode.ofCode
  repeat' split
  all_goals first | exact computes_ok _ | exact computes_refuse rfl

/-! ## Reading -/

/-- The flags of the hexadecimal field at `offset`. -/
def flagsField {t : FlagTable} (frame : Bytes) (offset width : Nat) : Run Fault (Flags t) :=
  (fun v => Flags.ofNat v.toUInt8.toNat) <$> hexField frame offset width

/-- The byte of the hexadecimal field at `offset`. -/
def byteField (frame : Bytes) (offset width : Nat) : Run Fault UInt8 :=
  UInt32.toUInt8 <$> hexField frame offset width

/-- The mode of the hexadecimal digit at `offset`. -/
def modeField (frame : Bytes) (offset : Nat) : Run Fault EhtMode := do
  let code ← byteField frame offset 1
  refusing (EhtMode.ofCode code)

/-- The azimuth at the encoder count that stands at `offset`. -/
def azimuthField (frame : Bytes) (offset : Nat) : Run Fault UInt16 := do
  let ticks ← decimalField frame offset 4
  azimuthOfTicks ticks

/-- The position whose sign stands at `offset`. The digits behind the sign are read first. -/
def focusField (frame : Bytes) (offset : Nat) : Run Fault Int16 := do
  let magnitude ← decimalField frame (offset + 1) 3
  let sign ← byteOf frame offset
  focusOfWire sign magnitude offset

/-- The focuser position of a status reply: it is read at the place of its sign, and once more at
that of its magnitude. -/
def focusAt (frame : Bytes) : Run Fault Int16 := do
  let _ ← focusField frame 18
  focusField frame 18

/-- Checks a status reply and reads it, in the order of the line. -/
def decodeStatus (frame : Bytes) : Run Fault Status := do
  checkReply .status frame
  let domeAzimuth ← azimuthField frame 7
  let dome ← flagsField frame 11 1
  let shutter ← flagsField frame 12 1
  let dropout ← flagsField frame 13 1
  let aperture ← flagsField frame 14 1
  let filter ← flagsField frame 15 1
  let acqMirror ← flagsField frame 16 1
  let instrumentShutter ← flagsField frame 17 1
  let focusPosition ← focusAt frame
  let focus ← flagsField frame 22 2
  let critical ← flagsField frame 24 1
  let eht ← modeField frame 25
  let handset ← byteField frame 26 2
  let apertureSlot ← decimalField frame 28 1
  let filterSlot ← decimalField frame 29 1
  let domeFlopMin ← decimalField frame 30 4
  let domeFlopMax ← decimalField frame 34 4
  let haPulses ← decimalField frame 38 8
  let decPulses ← decimalField frame 46 8
  return {
    domeAzimuth, dome, shutter, dropout, aperture, filter, acqMirror, instrumentShutter,
    focusPosition, focus, critical, eht, handset
    apertureSlot := apertureSlot.toUInt8
    filterSlot := filterSlot.toUInt8
    domeFlopMin := domeFlopMin.toUInt16
    domeFlopMax := domeFlopMax.toUInt16
    haPulses, decPulses }

/-- Checks a command frame and reads it, the focuser target first. -/
def decodeCommand (frame : Bytes) : Run Fault Command := do
  checkCommand frame
  let focusTarget ← focusField frame 17
  let domeTarget ← azimuthField frame 9
  let dome ← flagsField frame 13 1
  let shutter ← flagsField frame 14 1
  let dropout ← flagsField frame 15 1
  let focus ← flagsField frame 16 1
  let aperture ← flagsField frame 21 1
  let apertureSlot ← decimalField frame 22 1
  let filter ← flagsField frame 23 1
  let filterSlot ← decimalField frame 24 1
  let eht ← modeField frame 25
  let acqMirror ← flagsField frame 26 1
  let misc ← flagsField frame 27 1
  let domeFlopMin ← decimalField frame 28 4
  let domeFlopMax ← decimalField frame 32 4
  return {
    domeTarget, dome, shutter, dropout, focus, focusTarget, aperture, filter, eht, acqMirror, misc
    apertureSlot := apertureSlot.toUInt8
    filterSlot := filterSlot.toUInt8
    domeFlopMin := domeFlopMin.toUInt16
    domeFlopMax := domeFlopMax.toUInt16 }

/-- Those of the fields whose characters differ between two frames. -/
def changedFields (previous frame : Bytes) : List StatusField → Run ε (List StatusField)
  | [] => .ok []
  | f :: fs => do
    let last ← addSize f.offset f.width
    let rest ← changedFields previous frame fs
    return if get? previous f.offset last ≠ get? frame f.offset last then f :: rest else rest

/-- The status after a new frame, and the fields that changed from the previous frame. -/
def applyChanges (s : Status) (previous frame : Bytes) :
    Run Fault (Status × List StatusField) := do
  let fresh ← decodeStatus frame
  let changed ← changedFields previous frame StatusField.all
  return (changed.foldl (Status.copyField fresh) s, changed)

theorem computes_flagsField {t : FlagTable} {offset width : Nat} (h : offset + width < sizes) :
    Computes (flagsField frame offset width) (Flags.ofField frame offset width : Outcome (Flags t)) :=
  (computes_hexField h).map _

theorem computes_byteField {offset width : Nat} (h : offset + width < sizes) :
    Computes (byteField frame offset width) (UInt32.toUInt8 <$> frame.hexField offset width) :=
  (computes_hexField h).map _

theorem computes_byteOf {index : Nat} (h : index < frame.length) :
    Computes (byteOf frame index) (frame.byteAt index) := by
  have hbyte : frame[index]? = some frame[index] := List.getElem?_eq_getElem h
  rw [byteOf_eq hbyte, Bytes.byteAt, hbyte]
  exact computes_ok _

theorem computes_focusField {offset : Nat} (hsign : offset < frame.length)
    (h : offset + 1 + 3 < sizes) :
    Computes (focusField frame offset) (frame.focusField offset) := by
  refine (computes_decimalField h (by decide)).bind fun magnitude hmagnitude => ?_
  refine (computes_byteOf hsign).bind fun sign _ => ?_
  exact computes_focusOfWire offset (Bytes.decimalField_lt hmagnitude)

/-- What is read twice is read as if it were read once. -/
theorem computes_focusAt (hsign : 18 < frame.length) :
    Computes (focusAt frame) (Status.focusAt frame) := by
  have hfocus : Computes (focusField frame 18) (Status.focusAt frame) :=
    computes_focusField hsign (by decide)
  have htwice := hfocus.bind fun _ _ => hfocus
  rw [focusAt]
  cases hread : Status.focusAt frame with
  | error fault => rwa [hread] at htwice
  | ok position => rwa [hread] at htwice

theorem changedFields_eq (previous frame : Bytes) (fs : List StatusField) :
    (changedFields previous frame fs : Run ε _) =
      .ok (fs.filter fun f => f.raw? previous ≠ f.raw? frame) := by
  induction fs with
  | nil => rfl
  | cons f fs ih =>
    have hplace := Nat.lt_of_le_of_lt f.place_le (by decide : StatusField.fieldsEnd < sizes)
    rw [changedFields, addSize_eq hplace, ok_bind, ih, ok_bind, get?_eq_slice?, get?_eq_slice?,
      List.filter_cons]
    simp only [decide_eq_true_eq]
    rfl

section

variable (h : frame.length < sizes)
include h

/-- **Any bytes are read as a status without a trap.** -/
theorem computes_decodeStatus : Computes (decodeStatus frame) (Status.decode frame) := by
  simp only [decodeStatus, Status.decode, azimuthField, modeField, bind_assoc]
  refine (computes_checkReply h .status).bind fun _ hcheck => ?_
  have hlen : 78 ≤ frame.length :=
    Nat.le_trans (Frame.checkReply_eq_ok_iff.1 hcheck).1 (length_withoutCr_le frame)
  refine (computes_decimalField (by decide) (by decide)).bind fun ticks _ => ?_
  refine (computes_azimuthOfTicks ticks).bind fun domeAzimuth _ => ?_
  refine (computes_flagsField (by decide)).bind fun dome _ => ?_
  refine (computes_flagsField (by decide)).bind fun shutter _ => ?_
  refine (computes_flagsField (by decide)).bind fun dropout _ => ?_
  refine (computes_flagsField (by decide)).bind fun aperture _ => ?_
  refine (computes_flagsField (by decide)).bind fun filter _ => ?_
  refine (computes_flagsField (by decide)).bind fun acqMirror _ => ?_
  refine (computes_flagsField (by decide)).bind fun instrumentShutter _ => ?_
  refine (computes_focusAt (by omega)).bind fun focusPosition _ => ?_
  refine (computes_flagsField (by decide)).bind fun focus _ => ?_
  refine (computes_flagsField (by decide)).bind fun critical _ => ?_
  refine (computes_byteField (by decide)).bind fun code _ => ?_
  refine (computes_ofCode code).bind fun eht _ => ?_
  refine (computes_byteField (by decide)).bind fun handset _ => ?_
  refine (computes_decimalField (by decide) (by decide)).bind fun apertureSlot _ => ?_
  refine (computes_decimalField (by decide) (by decide)).bind fun filterSlot _ => ?_
  refine (computes_decimalField (by decide) (by decide)).bind fun domeFlopMin _ => ?_
  refine (computes_decimalField (by decide) (by decide)).bind fun domeFlopMax _ => ?_
  refine (computes_decimalField (by decide) (by decide)).bind fun haPulses _ => ?_
  refine (computes_decimalField (by decide) (by decide)).bind fun decPulses _ => ?_
  exact computes_ok _

/-- **Any bytes are read as a command without a trap.** -/
theorem computes_decodeCommand : Computes (decodeCommand frame) (Command.decode frame) := by
  simp only [decodeCommand, Command.decode, focusField, azimuthField, modeField, byteField,
    DomeLink.map_bind, bind_assoc]
  refine (computes_checkCommand h).bind fun _ hcheck => ?_
  have hlen : 56 ≤ frame.length :=
    Nat.le_trans (Frame.checkCommand_eq_ok_iff.1 hcheck).1 (length_withoutCr_le frame)
  refine (computes_decimalField (by decide) (by decide)).bind fun magnitude hmagnitude => ?_
  refine (computes_byteOf (by omega)).bind fun sign _ => ?_
  refine (computes_focusOfWire 17 (Bytes.decimalField_lt hmagnitude)).bind fun focusTarget _ => ?_
  refine (computes_decimalField (by decide) (by decide)).bind fun ticks _ => ?_
  refine (computes_azimuthOfTicks ticks).bind fun domeTarget _ => ?_
  refine (computes_flagsField (by decide)).bind fun dome _ => ?_
  refine (computes_flagsField (by decide)).bind fun shutter _ => ?_
  refine (computes_flagsField (by decide)).bind fun dropout _ => ?_
  refine (computes_flagsField (by decide)).bind fun focus _ => ?_
  refine (computes_flagsField (by decide)).bind fun aperture _ => ?_
  refine (computes_decimalField (by decide) (by decide)).bind fun apertureSlot _ => ?_
  refine (computes_flagsField (by decide)).bind fun filter _ => ?_
  refine (computes_decimalField (by decide) (by decide)).bind fun filterSlot _ => ?_
  refine (computes_hexField (by decide)).bind fun code _ => ?_
  refine (computes_ofCode code.toUInt8).bind fun eht _ => ?_
  refine (computes_flagsField (by decide)).bind fun acqMirror _ => ?_
  refine (computes_flagsField (by decide)).bind fun misc _ => ?_
  refine (computes_decimalField (by decide) (by decide)).bind fun domeFlopMin _ => ?_
  refine (computes_decimalField (by decide) (by decide)).bind fun domeFlopMax _ => ?_
  exact computes_ok _

/-- **Any bytes bring a status up to date without a trap**, whatever the previous ones were. -/
theorem computes_applyChanges (s : Status) (previous : Bytes) :
    Computes (applyChanges s previous frame) (s.applyChanges previous frame) := by
  refine (computes_decodeStatus h).bind fun fresh _ => ?_
  rw [changedFields_eq, ok_bind]
  exact computes_ok _

end

end DomeLink.Machine
