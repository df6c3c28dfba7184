import DomeLink.Proofs.Command.RoundTrip
import DomeLink.Proofs.Machine.Frame
import DomeLink.Proofs.Mechanism
import DomeLink.Proofs.Status.RoundTrip

/-!
# Frames are written on the machine

The machine writes a frame into zeros, store by store (`Store`) and not in the order of the line,
and makes its check field right at the end. The places of a frame are pieces of fixed widths; a
store that fits its piece replaces it and leaves the other ones (`Store.run_flatten`), and numbers
fit theirs whatever they are. So nothing traps, and what comes out is the frame of the definition:
`encodeStatus_eq`, `encodeCommand_eq` and `encodeAck_eq`.
-/

namespace DomeLink.Machine

variable {ε : Type} {frame : Bytes}

/-! ## Stores -/

/-- A number as it is to be written. -/
inductive Numeral
  | decimal (v : UInt32)
  | hex (v : UInt32)

namespace Numeral

/-- The last `width` digits. -/
def digits (width : Nat) : Numeral → Bytes
  | decimal v => Digits.writeDecimal width v
  | hex v => Digits.writeHex width v

/-- Writes the last `width` digits. -/
def write (width : Nat) : Numeral → Run ε Bytes
  | decimal v => writeDecimal width v
  | hex v => writeHex width v

theorem write_eq (width : Nat) (n : Numeral) :
    (n.write width : Run ε Bytes) = .ok (n.digits width) := by
  cases n with
  | decimal v => exact writeDecimal_eq width v
  | hex v => exact writeHex_eq width v

theorem length_digits (width : Nat) (n : Numeral) : (n.digits width).length = width := by
  cases n with
  | decimal v => exact Digits.length_writeDecimal width v
  | hex v => exact Digits.length_writeHex width v

end Numeral

/-- A store into a frame. -/
inductive Store
  /-- Bytes are copied to the piece from the first place up to the last one. -/
  | copy (first last : Nat) (bytes : Bytes)
  /-- The piece of the given width is filled with digits. -/
  | number (first width : Nat) (n : Numeral)
  /-- One byte is set. -/
  | byte (index : Nat) (b : UInt8)

namespace Store

/-- The first place that is written. -/
def first : Store → Nat
  | copy first _ _ => first
  | number first _ _ => first
  | byte index _ => index

/-- The place behind those that are written. -/
def last : Store → Nat
  | copy _ last _ => last
  | number first width _ => first + width
  | byte index _ => index + 1

/-- The bytes that are written. -/
def bytes : Store → Bytes
  | copy _ _ bytes => bytes
  | number _ width n => n.digits width
  | byte _ b => [b]

/-- How many bytes are written. -/
def size : Store → Nat
  | copy _ _ bytes => bytes.length
  | number _ width _ => width
  | byte _ _ => 1

/-- The frame after the store. -/
def run (frame : Bytes) : Store → Run ε Bytes
  | copy first last bytes => copyTo frame first last bytes
  | number first width n => do
    let last ← addSize first width
    let room ← sliceOf frame first last
    let digits ← n.write room.length
    copyTo frame first last digits
  | byte index b => setByte frame index b

theorem length_bytes (s : Store) : s.bytes.length = s.size := by
  cases s with
  | copy first last bytes => rfl
  | number first width n => exact n.length_digits width
  | byte index b => rfl

/-- A store does not trap where its bytes fit the place and the frame reaches so far. -/
theorem run_eq {s : Store} (hlast : s.last = s.first + s.size) (h : s.last ≤ frame.length)
    (hframe : frame.length < sizes) :
    (s.run frame : Run ε Bytes) = .ok (overlay frame s.first s.bytes) := by
  cases s with
  | copy first last bytes =>
    obtain rfl : last = first + bytes.length := hlast
    exact copyTo_eq bytes h
  | number first width n =>
    have hfits : first + width ≤ frame.length := h
    have hroom : ((frame.drop first).take width).length = width := by
      rw [List.length_take, List.length_drop]
      omega
    have hcopy : (copyTo frame first (first + width) (n.digits width) : Run ε Bytes) =
        .ok (overlay frame first (n.digits width)) := by
      have hlen := n.length_digits width
      simpa only [hlen] using copyTo_eq (ε := ε) (n.digits width) (by rwa [hlen])
    rw [run, addSize_eq (by omega), ok_bind, sliceOf_eq (Nat.le_add_right _ _) hfits, ok_bind,
      Nat.add_sub_cancel_left, hroom, n.write_eq, ok_bind]
    exact hcopy
  | byte index b =>
    have hindex : index < frame.length := h
    rw [run, setByte_eq hindex, List.set_eq_take_append_cons_drop, if_pos hindex]
    simp [overlay, first, bytes]

/-! ## Pieces -/

/-- The first place, the last one and the width of a piece. -/
def pieceAt (widths : List Nat) (i : Nat) : Nat × Nat × Option Nat :=
  ((widths.take i).sum, (widths.take (i + 1)).sum, widths[i]?)

/-- Where a store writes, and how many bytes. -/
def place (s : Store) : Nat × Nat × Option Nat := (s.first, s.last, some s.size)

theorem overlay_append {xs piece ys source : Bytes} (h : source.length = piece.length) :
    overlay (xs ++ (piece ++ ys)) xs.length source = xs ++ (source ++ ys) := by
  rw [overlay, List.take_left, h, ← List.append_assoc xs piece, ← List.length_append, List.drop_left,
    List.append_assoc]

variable {pieces : List Bytes} {widths : List Nat}

/-- **A store that fits a piece replaces it.** -/
theorem run_flatten (hws : pieces.map List.length = widths) (hsum : widths.sum < sizes) {i : Nat}
    {s : Store} (h : s.place = pieceAt widths i) :
    (s.run pieces.flatten : Run ε Bytes) = .ok (pieces.set i s.bytes).flatten ∧
      (pieces.set i s.bytes).map List.length = widths := by
  obtain ⟨hfirst, hlast, hsize⟩ : s.first = (widths.take i).sum ∧
      s.last = (widths.take (i + 1)).sum ∧ some s.size = widths[i]? := by
    simpa only [place, pieceAt, Prod.mk.injEq] using h
  obtain ⟨hi, hsize⟩ := List.getElem?_eq_some_iff.1 hsize.symm
  subst hws
  have hi' : i < pieces.length := by rwa [List.length_map] at hi
  rw [List.getElem_map] at hsize
  have hlength : pieces.flatten.length = (pieces.map List.length).sum := List.length_flatten
  have hfront : (pieces.take i).flatten.length = s.first := by
    rw [List.length_flatten, List.map_take, hfirst]
  have hlast' : s.last = s.first + s.size := by
    rw [hlast, hfirst, List.take_succ_eq_append_getElem hi, List.sum_append, List.getElem_map,
      hsize]
    rfl
  have hflatten : pieces.flatten =
      (pieces.take i).flatten ++ (pieces[i] ++ (pieces.drop (i + 1)).flatten) := by
    rw [← List.flatten_cons, ← List.drop_eq_getElem_cons hi', ← List.flatten_append,
      List.take_append_drop]
  have hreach : s.last ≤ pieces.flatten.length := by
    rw [hflatten, List.length_append, List.length_append, hfront, hsize, hlast']
    omega
  constructor
  · rw [run_eq hlast' hreach (hlength ▸ hsum), hflatten, ← hfront,
      overlay_append (s.length_bytes.trans hsize.symm), List.set_eq_take_append_cons_drop, if_pos hi',
      List.flatten_append, List.flatten_cons]
  · rw [List.map_set, s.length_bytes, ← hsize, ← List.getElem_map List.length (h := hi),
      List.set_getElem_self]

/-- Runs stores one after the other. -/
def runAll (frame : Bytes) : List Store → Run ε Bytes
  | [] => .ok frame
  | s :: stores => do
    let next ← s.run frame
    runAll next stores

/-- The pieces after stores into those at the indices. -/
def fill (pieces : List Bytes) : List Nat → List Store → List Bytes
  | i :: is, s :: stores => fill (pieces.set i s.bytes) is stores
  | _, _ => pieces

/-- **Stores that fit pieces replace them**, one after the other. -/
theorem runAll_flatten (hws : pieces.map List.length = widths) (hsum : widths.sum < sizes)
    {is : List Nat} {stores : List Store} (h : stores.map place = is.map (pieceAt widths)) :
    (runAll pieces.flatten stores : Run ε Bytes) = .ok (fill pieces is stores).flatten := by
  induction stores generalizing pieces is with
  | nil =>
    obtain rfl := List.map_eq_nil_iff.1 h.symm
    rfl
  | cons s stores ih =>
    cases is with
    | nil => cases h
    | cons i is =>
      rw [List.map_cons, List.map_cons, List.cons.injEq] at h
      obtain ⟨hrun, hnext⟩ := run_flatten (ε := ε) hws hsum h.1
      rw [runAll, hrun, ok_bind, fill]
      exact ih hnext h.2

end Store

/-! ## Frames -/

def zeros (count : Nat) : Bytes := List.replicate count '0'.toUInt8

theorem flatten_zeros (widths : List Nat) : (widths.map zeros).flatten = zeros widths.sum := by
  induction widths with
  | nil => rfl
  | cons width widths ih =>
    rw [List.map_cons, List.flatten_cons, ih, List.sum_cons, zeros, zeros, zeros,
      List.replicate_append_replicate]

/-- Writes a frame of `count` bytes: the stores go into zeros, and the check field is made right at
the end. -/
def writeFrame (count : Nat) (stores : List Store) : Run ε Bytes := do
  let frame ← Store.runAll (zeros count) stores
  updateFcs frame

/-- A frame with its ending is closed by making its check field right. -/
theorem update_append {content field : Bytes} (hstart : content.head? = some Bytes.start)
    (hfield : field.length = 2) :
    Checksum.update (content ++ field ++ [Bytes.stop, Bytes.cr]) = Checksum.terminate content := by
  have hpos : 0 < content.length := List.length_pos_iff.2 (by rintro rfl; cases hstart)
  have hcut : (content ++ field ++ [Bytes.stop, Bytes.cr]).withoutCr =
      content ++ field ++ [Bytes.stop] := by
    have hconcat : content ++ field ++ [Bytes.stop, Bytes.cr] =
        (content ++ field ++ [Bytes.stop]) ++ [Bytes.cr] := by simp
    rw [hconcat, Bytes.withoutCr, List.getLast?_concat, if_pos rfl, List.dropLast_concat]
  have hoffset : Checksum.offset? (content ++ field ++ [Bytes.stop, Bytes.cr]) =
      some content.length := by
    simp only [Checksum.offset?, hcut]
    rw [if_pos]
    · simp [hfield]
    · simp [hfield, hstart]
      omega
  rw [Checksum.update, hoffset, Checksum.terminate]
  simp [hfield]

/-- **A frame is written without a trap** by stores that fit its pieces. If they leave an unset
check field and the ending behind the front, the front is closed. -/
theorem writeFrame_eq (widths : List Nat) {is : List Nat} {stores : List Store} {front : List Bytes}
    (hplaces : stores.map Store.place = is.map (Store.pieceAt widths))
    (hfill : Store.fill (widths.map zeros) is stores = front ++ [zeros 2, [Bytes.stop, Bytes.cr]])
    (hstart : front.flatten.head? = some Bytes.start)
    (hlen : front.flatten.length + 4 = widths.sum) (hsum : widths.sum < sizes) :
    (writeFrame widths.sum stores : Run ε Bytes) = .ok (Checksum.terminate front.flatten) := by
  have hwidths : (widths.map zeros).map List.length = widths := by
    simp [Function.comp_def, zeros]
  have hflatten : (front ++ [zeros 2, [Bytes.stop, Bytes.cr]]).flatten =
      front.flatten ++ zeros 2 ++ [Bytes.stop, Bytes.cr] := by simp
  rw [writeFrame, ← flatten_zeros, Store.runAll_flatten hwidths hsum hplaces, ok_bind, hfill, hflatten,
    updateFcs_eq, update_append hstart rfl]
  rw [List.length_append, List.length_append, Nat.add_assoc]
  exact hlen.symm ▸ hsum

/-! ## The frames of the protocol -/

/-- The encoder count at an azimuth. -/
def ticksOfAzimuth (azimuth : UInt16) : Run ε UInt32 := do
  let ticks ← subHalf domeTicksMax (min azimuth domeTicksMax)
  return ticks.toUInt32

/-- The stores of a status reply, in their order: header, flags, quantities, focuser position and
ending. -/
def statusStores (s : Status) (ticks : UInt32) : List Store :=
  let number (f : StatusField) (n : Numeral) : Store := .number f.offset f.width n
  [.copy 0 5 Frame.statusHeader,
    number .dome (.hex (UInt32.ofNat s.dome.toNat)),
    number .shutter (.hex (UInt32.ofNat s.shutter.toNat)),
    number .dropout (.hex (UInt32.ofNat s.dropout.toNat)),
    number .aperture (.hex (UInt32.ofNat s.aperture.toNat)),
    number .filter (.hex (UInt32.ofNat s.filter.toNat)),
    number .acqMirror (.hex (UInt32.ofNat s.acqMirror.toNat)),
    number .instrumentShutter (.hex (UInt32.ofNat s.instrumentShutter.toNat)),
    number .focus (.hex (UInt32.ofNat s.focus.toNat)),
    number .critical (.hex (UInt32.ofNat s.critical.toNat)),
    number .eht (.hex s.eht.code.toUInt32),
    number .handset (.hex s.handset.toUInt32),
    number .domePosition (.decimal ticks),
    number .apertureSlot (.decimal s.apertureSlot.toUInt32),
    number .filterSlot (.decimal s.filterSlot.toUInt32),
    number .domeFlopMin (.decimal s.domeFlopMin.toUInt32),
    number .domeFlopMax (.decimal s.domeFlopMax.toUInt32),
    number .haPulses (.decimal s.haPulses),
    number .decPulses (.decimal s.decPulses),
    .byte StatusField.focusSign.offset (focusToWire s.focusPosition).1,
    number .focusPosition (.decimal (focusToWire s.focusPosition).2),
    .copy 77 79 [Bytes.stop, Bytes.cr]]

/-- Writes the reply of a controller in this state. -/
def encodeStatus (s : Status) : Run ε Bytes := do
  let ticks ← ticksOfAzimuth s.domeAzimuth
  writeFrame 79 (statusStores s ticks)

/-- The stores of a command, in their order. -/
def commandStores (c : Command) (ticks : UInt32) : List Store :=
  [.copy 0 5 Frame.commandHeader,
    .copy 5 9 Frame.commandAddress,
    .number 9 4 (.decimal ticks),
    .number 13 1 (.hex (UInt32.ofNat c.dome.toNat)),
    .number 14 1 (.hex (UInt32.ofNat c.shutter.toNat)),
    .number 15 1 (.hex (UInt32.ofNat c.dropout.toNat)),
    .number 16 1 (.hex (UInt32.ofNat c.focus.toNat)),
    .number 21 1 (.hex (UInt32.ofNat c.aperture.toNat)),
    .number 23 1 (.hex (UInt32.ofNat c.filter.toNat)),
    .number 25 1 (.hex c.eht.code.toUInt32),
    .number 26 1 (.hex (UInt32.ofNat c.acqMirror.toNat)),
    .number 27 1 (.hex (UInt32.ofNat c.misc.toNat)),
    .byte 17 (focusToWire c.focusTarget).1,
    .number 18 3 (.decimal (focusToWire c.focusTarget).2),
    .number 22 1 (.decimal c.apertureSlot.toUInt32),
    .number 24 1 (.decimal c.filterSlot.toUInt32),
    .number 28 4 (.decimal c.domeFlopMin.toUInt32),
    .number 32 4 (.decimal c.domeFlopMax.toUInt32),
    .copy 55 57 [Bytes.stop, Bytes.cr]]

/-- Writes a command. -/
def encodeCommand (c : Command) : Run ε Bytes := do
  let ticks ← ticksOfAzimuth c.domeTarget
  writeFrame 57 (commandStores c ticks)

/-- The stores of an acknowledgement. -/
def ackStores (endCode : UInt8) : List Store :=
  [.copy 0 5 Frame.commandHeader, .number 5 2 (.hex endCode.toUInt32),
    .copy 9 11 [Bytes.stop, Bytes.cr]]

/-- Writes the acknowledgement of a command with an end code. -/
def encodeAck (endCode : UInt8) : Run ε Bytes := writeFrame 11 (ackStores endCode)

theorem ticksOfAzimuth_eq (azimuth : UInt16) :
    (ticksOfAzimuth azimuth : Run ε UInt32) = .ok (DomeLink.ticksOfAzimuth azimuth) := by
  have hle : min azimuth domeTicksMax ≤ domeTicksMax := by
    rw [UInt16.le_iff_toNat_le, toNat_min_azimuth]
    exact Nat.min_le_right _ _
  rw [ticksOfAzimuth, subHalf_eq hle, ok_bind]
  rfl

/-- The widths of the pieces of a status reply. -/
def statusWidths : List Nat :=
  [5, 2, 4, 1, 1, 1, 1, 1, 1, 1, 1, 3, 2, 1, 1, 2, 1, 1, 4, 4, 8, 8, 21, 2, 2]

/-- The pieces that the stores of a status reply go to. -/
def statusPieces : List Nat :=
  [0, 3, 4, 5, 6, 7, 8, 9, 12, 13, 14, 15, 2, 16, 17, 18, 19, 20, 21, 10, 11, 24]

theorem fill_status (s : Status) :
    Store.fill (statusWidths.map zeros) statusPieces
        (statusStores s (DomeLink.ticksOfAzimuth s.domeAzimuth)) =
      (Frame.statusHeader :: Status.successCode :: s.pieces.tail ++ [Status.reserved]) ++
        [zeros 2, [Bytes.stop, Bytes.cr]] := by
  simp only [statusPieces, statusStores, statusWidths, Store.fill, List.map_cons, List.map_nil,
    List.set_cons_zero, List.set_cons_succ, Store.bytes, Numeral.digits, StatusField.width]
  rfl

/-- **Every status is written without a trap**, whatever its quantities are. -/
theorem encodeStatus_eq (s : Status) : (encodeStatus s : Run ε Bytes) = .ok s.encode := by
  have hfront : (Frame.statusHeader :: Status.successCode :: s.pieces.tail ++
      [Status.reserved]).flatten = s.pieces.flatten ++ Status.reserved := by
    simp [Status.pieces]
  rw [encodeStatus, ticksOfAzimuth_eq, ok_bind, Status.encode_eq_terminate, ← hfront]
  refine writeFrame_eq statusWidths rfl (fill_status s) rfl ?_ (by decide)
  rw [hfront, List.length_append, List.length_flatten, s.map_length_pieces]
  decide

/-- The widths of the pieces of a command. -/
def commandWidths : List Nat := [5, 4, 4, 1, 1, 1, 1, 1, 3, 1, 1, 1, 1, 1, 1, 1, 4, 4, 17, 2, 2]

/-- The pieces that the stores of a command go to. -/
def commandPieces : List Nat := [0, 1, 2, 3, 4, 5, 6, 9, 11, 13, 14, 15, 7, 8, 10, 12, 16, 17, 20]

theorem fill_command (c : Command) :
    Store.fill (commandWidths.map zeros) commandPieces
        (commandStores c (DomeLink.ticksOfAzimuth c.domeTarget)) =
      (Frame.commandHeader :: Frame.commandAddress :: c.pieces.tail ++ [Command.padding]) ++
        [zeros 2, [Bytes.stop, Bytes.cr]] := by
  simp only [commandPieces, commandStores, commandWidths, Store.fill, List.map_cons, List.map_nil,
    List.set_cons_zero, List.set_cons_succ, Store.bytes, Numeral.digits]
  rfl

/-- **Every command is written without a trap**, whatever its quantities are. -/
theorem encodeCommand_eq (c : Command) : (encodeCommand c : Run ε Bytes) = .ok c.encode := by
  have hfront : (Frame.commandHeader :: Frame.commandAddress :: c.pieces.tail ++
      [Command.padding]).flatten = c.content := by
    simp [Command.content, Command.pieces]
  rw [encodeCommand, ticksOfAzimuth_eq, ok_bind, Command.encode_eq_terminate, ← hfront]
  refine writeFrame_eq commandWidths rfl (fill_command c) rfl ?_ (by decide)
  rw [hfront, c.length_content]
  decide

/-- **Every acknowledgement is written without a trap.** -/
theorem encodeAck_eq (endCode : UInt8) :
    (encodeAck endCode : Run ε Bytes) = .ok (Frame.commandAck endCode) := by
  have hfront : [Frame.commandHeader, Digits.writeHex 2 endCode.toUInt32].flatten =
      Frame.commandHeader ++ Digits.writeHex 2 endCode.toUInt32 := by simp
  have hfill : Store.fill ([5, 2, 2, 2].map zeros) [0, 1, 3] (ackStores endCode) =
      [Frame.commandHeader, Digits.writeHex 2 endCode.toUInt32] ++
        [zeros 2, [Bytes.stop, Bytes.cr]] := rfl
  rw [encodeAck, Frame.commandAck, ← hfront]
  refine writeFrame_eq [5, 2, 2, 2] rfl hfill rfl ?_ (by decide)
  rw [hfront, List.length_append, Digits.length_writeHex]
  decide

end DomeLink.Machine
