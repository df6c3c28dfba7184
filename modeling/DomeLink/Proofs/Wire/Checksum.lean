import DomeLink.Proofs.Wire.Digits
import DomeLink.Wire.Frame

/-!
# Terminated frames pass their check

`Checksum.terminate` closes a content with its check field, the end delimiter and a carriage
return. Such a frame, with its carriage return taken off, stands between its delimiters and its
check field agrees with its content, whatever the content is as long as it starts with `@`.

* `readField?_chars`: the two characters of a check value spell that value.
* `checkBody_close`: a terminated frame passes the checks of its delimiters and its check field.
-/

namespace DomeLink.Checksum

/-! ## The check field -/

theorem isFieldDigit_hexDigit_ofNat :
    ∀ d : Fin 16, isFieldDigit (Digits.hexDigit (UInt8.ofNat d)) = true := by
  decide

theorem isFieldDigit_hexDigit {d : UInt8} (h : d.toNat < 16) :
    isFieldDigit (Digits.hexDigit d) = true := by
  have := isFieldDigit_hexDigit_ofNat ⟨d.toNat, h⟩
  simpa using this

theorem toNat_high (value : UInt8) : (value >>> 4).toNat = value.toNat / 16 := by
  rw [UInt8.toNat_shiftRight]
  exact Nat.shiftRight_eq_div_pow _ 4

theorem toNat_low (value : UInt8) : (value &&& 0x0F).toNat = value.toNat % 16 := by
  rw [UInt8.toNat_and]
  exact Nat.and_two_pow_sub_one_eq_mod _ 4

theorem all_isFieldDigit_chars (value : UInt8) : (chars value).all isFieldDigit = true := by
  have hv := value.toNat_lt
  have high : (value >>> 4).toNat < 16 := by rw [toNat_high]; omega
  have low : (value &&& 0x0F).toNat < 16 := by rw [toNat_low]; omega
  simp only [chars, List.all_cons, isFieldDigit_hexDigit high, isFieldDigit_hexDigit low,
    List.all_nil, Bool.and_self]

theorem readHex_chars (value : UInt8) : Digits.readHex (chars value) = .ok value.toUInt32 := by
  have hv := value.toNat_lt
  have high : (value >>> 4).toNat < 16 := by rw [toNat_high]; omega
  have low : (value &&& 0x0F).toNat < 16 := by rw [toNat_low]; omega
  simp only [chars, Digits.readHex, Digits.readHexFrom, Digits.hexValue?_hexDigit high,
    Digits.hexValue?_hexDigit low]
  congr 1
  have h₀ : ((0 : UInt32) <<< 4 ||| (value >>> 4).toUInt32).toNat = value.toNat / 16 := by
    rw [Digits.toNat_appendHex 0 high, toNat_high]
    exact Nat.zero_add _
  rw [← UInt32.toNat_inj, Digits.toNat_appendHex _ low, h₀, toNat_low, UInt8.toNat_toUInt32]
  omega

/-- The check field of a value spells that value. -/
theorem readField?_chars (value : UInt8) : readField? (chars value) = some value := by
  unfold readField?
  rw [if_pos (all_isFieldDigit_chars value), readHex_chars]
  simp

/-! ## Terminated frames -/

/-- A terminated frame without its carriage return. -/
def close (content : Bytes) : Bytes := content ++ chars (compute content) ++ [Bytes.stop]

theorem getLast?_close (content : Bytes) : (close content).getLast? = some Bytes.stop := by
  simp [close]

theorem length_close (content : Bytes) : (close content).length = content.length + 3 := by
  simp [close]

theorem terminate_eq_close (content : Bytes) : terminate content = close content ++ [Bytes.cr] := by
  simp [terminate, close]

theorem withoutCr_terminate (content : Bytes) : (terminate content).withoutCr = close content := by
  rw [terminate_eq_close, Bytes.withoutCr, List.getLast?_concat, if_pos rfl, List.dropLast_concat]

theorem withoutCr_close (content : Bytes) : (close content).withoutCr = close content := by
  rw [Bytes.withoutCr, getLast?_close, if_neg (by decide)]

theorem head?_close {content : Bytes} (h : content.head? = some Bytes.start) :
    (close content).head? = some Bytes.start := by
  obtain ⟨b, bs, rfl⟩ := List.exists_cons_of_ne_nil (l := content) (by rintro rfl; cases h)
  exact h

theorem offset?_close {content : Bytes} (h : content.head? = some Bytes.start) :
    offset? (close content) = some content.length := by
  have hpos : 0 < content.length := List.length_pos_iff.2 (by rintro rfl; cases h)
  simp only [offset?, withoutCr_close, length_close]
  rw [if_pos ⟨by omega, head?_close h, getLast?_close content⟩]
  rfl

theorem storedAndComputed?_close {content : Bytes} (h : content.head? = some Bytes.start) :
    storedAndComputed? (close content) = some (compute content, compute content) := by
  have hfield : ((close content).drop content.length).take 2 = chars (compute content) := by
    simp [close, chars]
  have htake : (close content).take content.length = content := by
    simp [close]
  simp only [storedAndComputed?, offset?_close h, Option.bind_eq_bind, Option.bind_some, hfield,
    readField?_chars, htake]
  rfl

/-- **A terminated frame passes** the checks of its delimiters and its check field. -/
theorem checkBody_close {content : Bytes} (h : content.head? = some Bytes.start) :
    Frame.checkBody (close content) = .ok () := by
  have hd : Frame.isDelimited (close content) = true := by
    simp [Frame.isDelimited, head?_close h, getLast?_close content]
  unfold Frame.checkBody
  rw [if_pos hd, Frame.checkSum, storedAndComputed?_close h]
  simp only [if_true]

end DomeLink.Checksum
