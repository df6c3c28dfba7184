import DomeLink.Proofs.Wire.Assembler
import DomeLink.Proofs.Wire.Verify

/-!
# One damaged byte

A transmitted frame is `@`, bytes that are no delimiters, `*` and a carriage return. If one of its
bytes is damaged on the line, the delimiters may be gone, or there may be one more of them. Still
there are only three things that can be cut out of the stream as a frame: the frame as it was sent,
the frame with one byte changed, or a shorter piece of it (`Damaged.frame_cases`).

The check field tells the second from the frame that was sent (`refused_of_changed`), and the length
tells the third.
-/

namespace DomeLink

open Bytes (start stop cr)
open Assembler (IsFrame)

variable {inner received frame xs ys : Bytes}

/-- One byte of what was sent has arrived as another. -/
def Bytes.Damaged (sent received : Bytes) : Prop :=
  ∃ us a b vs, a ≠ b ∧ sent = us ++ a :: vs ∧ received = us ++ b :: vs

/-- The frame passes for no kind of reply. -/
def Frame.Refused (frame : Bytes) : Prop :=
  ∀ kind, ∃ fault, Frame.checkReply kind frame = .error fault

/-- The first place of a byte cuts bytes in one way. -/
theorem Bytes.append_cons_inj {b : UInt8} {us vs : Bytes} (hus : b ∉ us) (hxs : b ∉ xs)
    (h : us ++ b :: vs = xs ++ b :: ys) : us = xs ∧ vs = ys := by
  have hplace := congrArg (List.idxOf? b) h
  rw [idxOf?_append_cons hus, idxOf?_append_cons hxs] at hplace
  obtain ⟨hfront, hback⟩ := List.append_inj h (Option.some.inj hplace)
  exact ⟨hfront, (List.cons.inj hback).2⟩

namespace Assembler.IsFrame

theorem start_mem (h : IsFrame frame) : start ∈ frame := List.mem_of_head? h.opened

theorem getLast? (h : IsFrame frame) : frame.getLast? = some stop := by
  obtain ⟨body, rfl, -⟩ := h.closed
  exact List.getLast?_concat ..

theorem stop_mem (h : IsFrame frame) : stop ∈ frame := List.mem_of_getLast? h.getLast?

theorem withoutCr (h : IsFrame frame) : frame.withoutCr = frame := by
  rw [Bytes.withoutCr, h.getLast?, if_neg (by decide)]

/-- A frame in a stream ends with the first `*`, or comes after it. -/
theorem infix_cases (h : IsFrame frame) (hxs : stop ∉ xs) (hin : frame <:+: xs ++ stop :: ys) :
    frame <:+ xs ++ [stop] ∨ frame <:+: ys := by
  obtain ⟨body, rfl, hbody⟩ := h.closed
  obtain ⟨pre, post, heq⟩ := hin
  by_cases hpre : stop ∈ pre
  · obtain ⟨us, vs, rfl, hus⟩ := List.eq_append_cons_of_mem hpre
    rw [List.append_assoc, List.append_assoc, List.cons_append] at heq
    obtain ⟨-, rfl⟩ := Bytes.append_cons_inj hus hxs heq
    exact .inr ⟨vs, post, List.append_assoc ..⟩
  · rw [← List.append_assoc, List.append_assoc, List.singleton_append] at heq
    obtain ⟨rfl, -⟩ := Bytes.append_cons_inj (by simp [hpre, hbody]) hxs heq
    exact .inl ⟨pre, (List.append_assoc ..).symm⟩

end Assembler.IsFrame

variable {us vs : Bytes} {a b : UInt8}

/-- The damaged byte is one between the delimiters. -/
theorem frame_cases_of_inner (hstart : start ∉ us ++ a :: vs) (hstop : stop ∉ us ++ a :: vs)
    (hne : a ≠ b) (h : IsFrame frame)
    (hin : frame <:+: start :: (us ++ b :: (vs ++ [stop, cr]))) :
    Bytes.Damaged (start :: (us ++ a :: vs) ++ [stop]) frame ∨
      frame.length < (us ++ a :: vs).length + 2 ∧ frame ⊆ start :: (us ++ a :: vs) ++ [stop] := by
  have hdelim : start ≠ stop ∧ start ≠ cr := by decide
  by_cases hb : b = stop
  · -- There is one more `*`, and a frame can end there alone.
    subst hb
    have hxs : stop ∉ start :: us := by grind
    rcases h.infix_cases hxs hin with hsuffix | hwithin
    · have hle := hsuffix.length_le
      have hmem := hsuffix.subset
      exact .inr (by grind)
    · have hmem := hwithin.subset h.start_mem
      grind
  · have hbody : start :: (us ++ b :: (vs ++ [stop, cr])) =
        start :: (us ++ b :: vs) ++ stop :: [cr] := by simp
    rw [hbody] at hin
    rcases h.infix_cases (by grind) hin with hsuffix | hwithin
    · rw [List.cons_append, List.suffix_cons_iff] at hsuffix
      rcases hsuffix with rfl | hsuffix
      · exact .inl ⟨start :: us, a, b, vs ++ [stop], hne, by simp, by simp⟩
      · -- The frame starts at one more `@`, which is the damaged byte.
        have hle := hsuffix.length_le
        have hmem := hsuffix.subset
        have hbstart := hmem h.start_mem
        exact .inr (by grind)
    · have hmem := hwithin.subset h.start_mem
      grind

/-- Behind a frame there is nothing to cut out. -/
theorem eq_of_infix_of_behind (hstart : start ∉ inner) (hstop : stop ∉ inner) (h : IsFrame frame)
    (hin : frame <:+: start :: inner ++ stop :: [b]) : frame = start :: inner ++ [stop] := by
  have hdelim : start ≠ stop := by decide
  rcases h.infix_cases (by grind) hin with hsuffix | hwithin
  · rw [List.cons_append, List.suffix_cons_iff] at hsuffix
    rcases hsuffix with heq | hsuffix
    · exact heq
    · have hmem := hsuffix.subset h.start_mem
      grind
  · have hb := List.mem_singleton.1 (hwithin.subset h.start_mem)
    have hb' := List.mem_singleton.1 (hwithin.subset h.stop_mem)
    exact absurd (hb.trans hb'.symm) hdelim

/-- **What can be cut out** of a frame with one damaged byte: the frame as it was sent, the frame
with one byte changed, or a shorter piece of it. -/
theorem Bytes.Damaged.frame_cases (hstart : start ∉ inner) (hstop : stop ∉ inner)
    (hd : Damaged (start :: inner ++ [stop, cr]) received) (h : IsFrame frame)
    (hin : frame <:+: received) :
    frame = start :: inner ++ [stop] ∨ Damaged (start :: inner ++ [stop]) frame ∨
      frame.length < inner.length + 2 ∧ frame ⊆ start :: inner ++ [stop] := by
  obtain ⟨us, a, b, vs, hne, hsent, rfl⟩ := hd
  have hdelim : start ≠ stop ∧ start ≠ cr ∧ stop ≠ cr := by decide
  rw [List.cons_append] at hsent
  rcases List.cons_eq_append_iff.1 hsent with ⟨rfl, hvs⟩ | ⟨us, rfl, hvs⟩
  · -- The `@` is gone.
    have hmem := hin.subset h.start_mem
    grind
  · rcases List.append_eq_append_iff.1 hvs with ⟨ws, rfl, htail⟩ | ⟨ws, rfl, htail⟩
    · rcases List.cons_eq_append_iff.1 htail with ⟨rfl, hcr⟩ | ⟨ws, rfl, hcr⟩
      · -- The `*` is gone.
        have hmem := hin.subset h.stop_mem
        grind
      · rcases List.append_eq_singleton_iff.1 hcr.symm with ⟨rfl, hcr⟩ | ⟨-, hcr⟩
        · cases hcr
          rw [← List.cons_append, List.append_assoc] at hin
          exact .inl (eq_of_infix_of_behind hstart hstop h hin)
        · cases hcr
    · rcases List.cons_eq_append_iff.1 htail with ⟨rfl, hcr⟩ | ⟨ws, rfl, rfl⟩
      · have hmem := hin.subset h.stop_mem
        grind
      · exact .inr (frame_cases_of_inner hstart hstop hne h hin)

/-! ## What is refused -/

namespace Frame

theorem refused_of_ne (h : ∀ kind, checkReply kind frame ≠ .ok ()) : Refused frame := by
  intro kind
  cases hc : checkReply kind frame with
  | error e => exact ⟨e, rfl⟩
  | ok _ => exact absurd hc (h kind)

/-- A frame is refused that is too short for each kind whose header it has. -/
theorem refused_of_header (h : IsFrame frame)
    (hheader : ∀ kind : ReplyKind, kind.header <+: frame → frame.length < kind.minLength) :
    Refused frame := by
  refine refused_of_ne fun kind hok => ?_
  obtain ⟨hlen, -, hprefix, -⟩ := checkReply_eq_ok_iff.1 hok
  rw [h.withoutCr] at hlen hprefix
  exact absurd hlen (Nat.not_le.2 (hheader kind hprefix))

/-- **A closed frame with one byte changed is refused.** -/
theorem refused_of_changed {content : Bytes} (h : IsFrame frame)
    (hd : Bytes.Damaged (Checksum.close content) frame) : Refused frame := by
  refine refused_of_ne fun kind hok => ?_
  obtain ⟨-, -, -, hsum, -⟩ := checkReply_eq_ok_iff.1 hok
  rw [h.withoutCr] at hsum
  obtain ⟨content', rfl⟩ := Checksum.exists_close_of_checkSum hsum h.getLast?
  obtain ⟨us, a, b, vs, hne, hsent, hreceived⟩ := hd
  exact hne (Checksum.byte_eq_of_close hsent hreceived)

end Frame

/-! ## Transmissions -/

namespace Checksum

theorem dropLast_terminate (content : Bytes) : (terminate content).dropLast = close content := by
  rw [terminate_eq_close, List.dropLast_concat]

theorem not_mem_of_isFieldDigit {bs : Bytes} (hall : bs.all isFieldDigit = true)
    (hb : isFieldDigit b = false) : b ∉ bs := by
  intro hmem
  rw [List.all_eq_true.1 hall b hmem] at hb
  cases hb

theorem all_isFieldDigit_writeHex (width : Nat) (v : UInt32) :
    (Digits.writeHex width v).all isFieldDigit = true := by
  induction width generalizing v with
  | zero => rfl
  | succ n ih =>
    have hd : (v &&& 0x0F).toUInt8.toNat < 16 := by
      rw [UInt32.toNat_toUInt8, UInt32.toNat_and]
      show (v.toNat &&& 2 ^ 4 - 1) % 2 ^ 8 < 16
      rw [Nat.and_two_pow_sub_one_eq_mod]
      omega
    rw [Digits.writeHex, List.all_append, ih, List.all_cons, isFieldDigit_hexDigit hd]
    rfl

theorem isFieldDigit_decimal_ofNat :
    ∀ d : Fin 10, isFieldDigit (0x30 + UInt8.ofNat d) = true := by
  decide

theorem all_isFieldDigit_writeDecimal (width : Nat) (v : UInt32) :
    (Digits.writeDecimal width v).all isFieldDigit = true := by
  induction width generalizing v with
  | zero => rfl
  | succ n ih =>
    have hd : (v % 10).toUInt8.toNat < 10 := by
      rw [UInt32.toNat_toUInt8, UInt32.toNat_mod]
      show v.toNat % 10 % 2 ^ 8 < 10
      omega
    have hdigit := isFieldDigit_decimal_ofNat ⟨_, hd⟩
    rw [UInt8.ofNat_toNat] at hdigit
    simp [Digits.writeDecimal, ih, hdigit]

end Checksum

/-- **What a fresh assembler delivers** of a transmission with one damaged byte: the frame as it was
sent, a refused one, or a shorter piece of it. -/
theorem Assembler.frame_cases_of_damaged {rest : Bytes} (hstart : start ∉ rest)
    (hstop : stop ∉ rest) {chunks : List Bytes}
    (hd : Bytes.Damaged (Checksum.terminate (start :: rest)) chunks.flatten) {capacity : Nat}
    (hmem : frame ∈ (pushAll { capacity } chunks).2) :
    frame = Checksum.close (start :: rest) ∨ Frame.Refused frame ∨
      frame.length < rest.length + 4 ∧ frame ⊆ Checksum.close (start :: rest) := by
  obtain ⟨hframe, hin⟩ := isFrame_of_mem_pushAll hmem
  have hchars := Checksum.all_isFieldDigit_chars (Checksum.compute (start :: rest))
  have hstart' := Checksum.not_mem_of_isFieldDigit hchars (b := start) (by decide)
  have hstop' := Checksum.not_mem_of_isFieldDigit hchars (b := stop) (by decide)
  have hsent : Checksum.terminate (start :: rest) =
      start :: (rest ++ Checksum.chars (Checksum.compute (start :: rest))) ++ [stop, cr] := rfl
  have hclose : Checksum.close (start :: rest) =
      start :: (rest ++ Checksum.chars (Checksum.compute (start :: rest))) ++ [stop] := rfl
  rw [hsent] at hd
  rcases hd.frame_cases (by simp [hstart, hstart']) (by simp [hstop, hstop']) hframe hin with
    hwhole | hchanged | ⟨hlen, hsub⟩
  · exact .inl hwhole
  · rw [← hclose] at hchanged
    exact .inr (.inl (Frame.refused_of_changed hframe hchanged))
  · rw [List.length_append, Checksum.length_chars] at hlen
    exact .inr (.inr ⟨hlen, hsub⟩)

/-- **An acknowledgement with one damaged byte** is delivered as it was sent, or refused. -/
theorem Assembler.commandAck_damaged {endCode : UInt8} {chunks : List Bytes}
    (hd : Bytes.Damaged (Frame.commandAck endCode) chunks.flatten) {capacity : Nat}
    (hmem : frame ∈ (pushAll { capacity } chunks).2) :
    Frame.Refused frame ∨ frame = (Frame.commandAck endCode).dropLast := by
  have hdigits := Checksum.all_isFieldDigit_writeHex 2 endCode.toUInt32
  have hstart := Checksum.not_mem_of_isFieldDigit hdigits (b := start) (by decide)
  have hstop := Checksum.not_mem_of_isFieldDigit hdigits (b := stop) (by decide)
  have hhead : start ∉ Frame.commandHeader.tail ∧ stop ∉ Frame.commandHeader.tail := by decide
  have hrest : start ∉ Frame.commandHeader.tail ++ Digits.writeHex 2 endCode.toUInt32 ∧
      stop ∉ Frame.commandHeader.tail ++ Digits.writeHex 2 endCode.toUInt32 := by
    simp [hhead, hstart, hstop]
  rcases frame_cases_of_damaged hrest.1 hrest.2 hd hmem with hsent | hrefused | ⟨hlen, -⟩
  · exact .inr (hsent.trans (Checksum.dropLast_terminate _).symm)
  · exact .inl hrefused
  · refine .inl (Frame.refused_of_header (isFrame_of_mem_pushAll hmem).1 fun kind _ => ?_)
    rw [List.length_append, Digits.length_writeHex] at hlen
    exact Nat.lt_of_lt_of_le hlen (by cases kind <;> decide)

end DomeLink
