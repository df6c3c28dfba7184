import DomeLink.Mechanism
import DomeLink.Proofs.Outcome
import DomeLink.Proofs.Wire.Digits

/-!
# Quantities with a form of their own on the line

What is left of an azimuth, of a focuser position and of the smaller numbers when they are written
into their digits and read back, and the limits that hold of everything that is read.

* `azimuthOfTicks_ticksOfAzimuth`: an azimuth is read back, capped at the greatest one.
* `focusOfWire_focusToWire`: a focuser position is read back as `carriedFocus` of it, which keeps
  the sign and three digits (`toInt_carriedFocus`), and so every position within its limits
  (`carriedFocus_eq_self`).
* `azimuthOfTicks_le`, `natAbs_focusOfWire_le`: what is read lies within the limits of its quantity.
* `ticksOfAzimuth_of_azimuthOfTicks`, `focusToWire_of_focusOfWire`: what was read is written again
  as it was, but for a negative zero of the focuser.
-/

namespace DomeLink

/-! ## Dome azimuth -/

theorem toNat_domeTicksMax : domeTicksMax.toNat = 3599 := rfl

theorem toNat_min_azimuth (azimuth : UInt16) :
    (min azimuth domeTicksMax).toNat = min azimuth.toNat 3599 := by
  show (if azimuth ≤ domeTicksMax then azimuth else domeTicksMax).toNat = _
  split
  · rename_i h
    have : azimuth.toNat ≤ 3599 := UInt16.le_iff_toNat_le.1 h
    omega
  · rename_i h
    have : ¬ azimuth.toNat ≤ 3599 := fun h' => h (UInt16.le_iff_toNat_le.2 h')
    rw [toNat_domeTicksMax]
    omega

theorem min_azimuth_eq_self {azimuth : UInt16} (h : azimuth.toNat ≤ 3599) :
    min azimuth domeTicksMax = azimuth := by
  rw [← UInt16.toNat_inj, toNat_min_azimuth, Nat.min_eq_left h]

theorem toNat_ticksOfAzimuth (azimuth : UInt16) :
    (ticksOfAzimuth azimuth).toNat = 3599 - min azimuth.toNat 3599 := by
  have hmin := toNat_min_azimuth azimuth
  have hle : min azimuth domeTicksMax ≤ domeTicksMax := by
    rw [UInt16.le_iff_toNat_le, hmin]
    exact Nat.min_le_right _ _
  rw [ticksOfAzimuth, UInt16.toNat_toUInt32, UInt16.toNat_sub_of_le _ _ hle, hmin]
  rfl

theorem azimuthOfTicks_of_le {ticks : UInt32} (h : ticks.toNat ≤ 3599) :
    azimuthOfTicks ticks = .ok (domeTicksMax - ticks.toUInt16) := by
  have hc : Quantity.domeTicks.check ticks.toNat = .ok () := by
    unfold Quantity.check
    rw [if_pos]
    show (0 : Int) ≤ ticks.toNat ∧ (ticks.toNat : Int) ≤ 3599
    omega
  rw [azimuthOfTicks, hc]
  rfl

/-- **An azimuth is read back**, capped at the greatest one. -/
theorem azimuthOfTicks_ticksOfAzimuth (azimuth : UInt16) :
    azimuthOfTicks (UInt32.ofNat ((ticksOfAzimuth azimuth).toNat % 10 ^ 4)) =
      .ok (min azimuth domeTicksMax) := by
  have ht : (UInt32.ofNat ((ticksOfAzimuth azimuth).toNat % 10 ^ 4)).toNat =
      3599 - min azimuth.toNat 3599 := by
    rw [Digits.toNat_ofNat_of_le (Nat.mod_le _ _), toNat_ticksOfAzimuth]
    omega
  have hle : (UInt32.ofNat ((ticksOfAzimuth azimuth).toNat % 10 ^ 4)).toUInt16 ≤ domeTicksMax := by
    rw [UInt16.le_iff_toNat_le, UInt32.toNat_toUInt16, ht, toNat_domeTicksMax]
    omega
  have hback : domeTicksMax - (UInt32.ofNat ((ticksOfAzimuth azimuth).toNat % 10 ^ 4)).toUInt16 =
      min azimuth domeTicksMax := by
    rw [← UInt16.toNat_inj, UInt16.toNat_sub_of_le _ _ hle, toNat_min_azimuth,
      UInt32.toNat_toUInt16, ht, toNat_domeTicksMax]
    omega
  rw [azimuthOfTicks_of_le (by omega), hback]

/-- The encoder counts down from its greatest count, and has no count above it. -/
theorem azimuthOfTicks_eq_ok_iff {ticks : UInt32} {azimuth : UInt16} :
    azimuthOfTicks ticks = .ok azimuth ↔
      ticks.toNat ≤ 3599 ∧ azimuth.toNat = 3599 - ticks.toNat := by
  have sub_toNat (h : ticks.toNat ≤ 3599) :
      (domeTicksMax - ticks.toUInt16).toNat = 3599 - ticks.toNat := by
    have hticks : ticks.toUInt16.toNat = ticks.toNat := by
      rw [UInt32.toNat_toUInt16]
      omega
    have hle : ticks.toUInt16 ≤ domeTicksMax := by
      rw [UInt16.le_iff_toNat_le, hticks, toNat_domeTicksMax]
      exact h
    rw [UInt16.toNat_sub_of_le _ _ hle, hticks, toNat_domeTicksMax]
  constructor
  · intro h
    obtain ⟨_, hc, -⟩ := bind_eq_ok.1 h
    unfold Quantity.check at hc
    split at hc
    case isFalse => cases hc
    case isTrue hr =>
      have hle : (ticks.toNat : Int) ≤ 3599 := hr.2
      have hticks : ticks.toNat ≤ 3599 := by omega
      rw [azimuthOfTicks_of_le hticks] at h
      exact ⟨hticks, Except.ok.inj h ▸ sub_toNat hticks⟩
  · rintro ⟨hticks, hazimuth⟩
    rw [azimuthOfTicks_of_le hticks, Except.ok.injEq, ← UInt16.toNat_inj, hazimuth,
      sub_toNat hticks]

theorem azimuthOfTicks_le {ticks : UInt32} {azimuth : UInt16}
    (h : azimuthOfTicks ticks = .ok azimuth) : azimuth ≤ domeTicksMax := by
  rw [UInt16.le_iff_toNat_le, (azimuthOfTicks_eq_ok_iff.1 h).2]
  exact Nat.sub_le _ _

/-- An azimuth that was read is at the count that it was read from. -/
theorem ticksOfAzimuth_of_azimuthOfTicks {ticks : UInt32} {azimuth : UInt16}
    (h : azimuthOfTicks ticks = .ok azimuth) : ticksOfAzimuth azimuth = ticks := by
  obtain ⟨hticks, hazimuth⟩ := azimuthOfTicks_eq_ok_iff.1 h
  rw [← UInt32.toNat_inj, toNat_ticksOfAzimuth, hazimuth]
  omega

/-! ## Focuser position -/

/-- What three digits and a sign carry of a focuser position. -/
def carriedFocus (position : Int16) : Int16 :=
  let m := Int16.ofNat (position.toInt.natAbs % 1000)
  if position < 0 then -m else m

/-- **A focuser position is read back** as far as its digits carry it. -/
theorem focusOfWire_focusToWire (position : Int16) (offset : Nat) :
    focusOfWire (focusToWire position).1
        (UInt32.ofNat ((focusToWire position).2.toNat % 10 ^ 3)) offset =
      .ok (carriedFocus position) := by
  have hm : (UInt32.ofNat ((focusToWire position).2.toNat % 10 ^ 3)).toNat =
      position.toInt.natAbs % 1000 := by
    rw [Digits.toNat_ofNat_of_le (Nat.mod_le _ _), focusToWire, UInt32.toNat_ofNat']
    have := position.toInt_lt
    have := position.le_toInt
    omega
  have hne : Int16.ofNat (position.toInt.natAbs % 1000) ≠ Int16.minValue := by
    rw [ne_eq, ← Int16.toInt_inj, Int16.toInt_ofNat_of_lt (by omega), Int16.toInt_minValue]
    omega
  simp only [focusOfWire, hm, carriedFocus]
  by_cases h : position < 0
  · simp only [focusToWire, if_pos h, if_true, if_neg hne]
  · simp only [focusToWire, if_neg h, if_true]
    rfl

/-- The sign is kept, and the last three digits of the magnitude. -/
theorem toInt_carriedFocus (position : Int16) :
    (carriedFocus position).toInt =
      position.toInt.sign * (position.toInt.natAbs % 1000 : Nat) := by
  have hm : (Int16.ofNat (position.toInt.natAbs % 1000)).toInt =
      (position.toInt.natAbs % 1000 : Nat) := Int16.toInt_ofNat_of_lt (by omega)
  unfold carriedFocus
  by_cases hn : position < 0
  · have hneg : position.toInt < 0 := Int16.lt_iff_toInt_lt.1 hn
    simp only [if_pos hn, Int16.toInt_neg, hm]
    rw [Int.bmod_eq_of_le (by omega) (by omega), Int.sign_eq_neg_one_of_neg hneg, Int.neg_one_mul]
  · have hnonneg : 0 ≤ position.toInt := Int.not_lt.1 fun h => hn (Int16.lt_iff_toInt_lt.2 h)
    simp only [if_neg hn, hm]
    rcases Int.lt_or_eq_of_le hnonneg with hpos | hzero
    · rw [Int.sign_eq_one_of_pos hpos, Int.one_mul]
    · rw [← hzero]
      rfl

/-- Three digits carry every position within its limits. -/
theorem carriedFocus_eq_self {position : Int16} (h : position.toInt.natAbs ≤ 999) :
    carriedFocus position = position := by
  rw [← Int16.toInt_inj, toInt_carriedFocus, Nat.mod_eq_of_lt (Nat.lt_succ_of_le h),
    Int.sign_mul_natAbs]

/-- And no other position. -/
theorem natAbs_le_of_eq_sign_mul_mod {x : Int} (h : x = x.sign * (x.natAbs % 1000 : Nat)) :
    x.natAbs ≤ 999 := by
  have hsign : x.sign.natAbs ≤ 1 := by
    rcases Int.sign_trichotomy x with hs | hs | hs <;> rw [hs] <;> decide
  calc x.natAbs
    _ = x.sign.natAbs * (x.natAbs % 1000) := (congrArg Int.natAbs h).trans (Int.natAbs_mul _ _)
    _ ≤ 1 * 999 := Nat.mul_le_mul hsign (Nat.le_of_lt_succ (Nat.mod_lt _ (by decide)))

/-- A sign of the focuser position. -/
def isFocusSign (b : UInt8) : Bool := b == 'F'.toUInt8 || b == '0'.toUInt8

/-- What three digits and a sign say. -/
theorem focusOfWire_eq_ok_iff {sign : UInt8} {magnitude : UInt32} {offset : Nat}
    {position : Int16} (hm : magnitude.toNat < 1000) :
    focusOfWire sign magnitude offset = .ok position ↔
      sign = 'F'.toUInt8 ∧ position.toInt = -magnitude.toNat ∨
        sign = '0'.toUInt8 ∧ position.toInt = magnitude.toNat := by
  have hsigns : 'F'.toUInt8 ≠ '0'.toUInt8 := by decide
  have ho : (Int16.ofNat magnitude.toNat).toInt = magnitude.toNat :=
    Int16.toInt_ofNat_of_lt (by omega)
  have hneg : (-Int16.ofNat magnitude.toNat).toInt = -magnitude.toNat := by
    rw [Int16.toInt_neg, ho, Int.bmod_eq_of_le (by omega) (by omega)]
  have hne : Int16.ofNat magnitude.toNat ≠ Int16.minValue := by
    rw [ne_eq, ← Int16.toInt_inj, ho, Int16.toInt_minValue]
    omega
  rw [← hneg, ← ho, Int16.toInt_inj, Int16.toInt_inj]
  simp only [focusOfWire, if_neg hne]
  by_cases hF : sign = 'F'.toUInt8
  · rw [if_pos hF, Except.ok.injEq]
    simp only [hF, hsigns, true_and, false_and, or_false]
    exact eq_comm
  · by_cases hzero : sign = '0'.toUInt8
    · rw [if_neg hF, if_pos hzero, Except.ok.injEq]
      simp only [hzero, hsigns.symm, true_and, false_and, false_or]
      exact eq_comm
    · rw [if_neg hF, if_neg hzero]
      simp only [hF, hzero, false_and, or_self, reduceCtorEq]

theorem natAbs_focusOfWire_le {sign : UInt8} {magnitude : UInt32} {offset : Nat} {position : Int16}
    (h : focusOfWire sign magnitude offset = .ok position) (hm : magnitude.toNat < 1000) :
    position.toInt.natAbs ≤ 999 := by
  rcases (focusOfWire_eq_ok_iff hm).1 h with ⟨-, hp⟩ | ⟨-, hp⟩ <;> omega

theorem exists_focusOfWire_iff {sign : UInt8} {magnitude : UInt32} {offset : Nat}
    (hm : magnitude.toNat < 1000) :
    (∃ position, focusOfWire sign magnitude offset = .ok position) ↔ isFocusSign sign = true := by
  have ho : (Int16.ofNat magnitude.toNat).toInt = magnitude.toNat :=
    Int16.toInt_ofNat_of_lt (by omega)
  rw [isFocusSign, Bool.or_eq_true, beq_iff_eq, beq_iff_eq]
  constructor
  · rintro ⟨position, h⟩
    exact ((focusOfWire_eq_ok_iff hm).1 h).imp And.left And.left
  · rintro (hF | hzero)
    · refine ⟨-Int16.ofNat magnitude.toNat, (focusOfWire_eq_ok_iff hm).2 (.inl ⟨hF, ?_⟩)⟩
      rw [Int16.toInt_neg, ho, Int.bmod_eq_of_le (by omega) (by omega)]
    · exact ⟨_, (focusOfWire_eq_ok_iff hm).2 (.inr ⟨hzero, ho⟩)⟩

/-- A position that was read is written again as it was, but for a negative zero. -/
theorem focusToWire_of_focusOfWire {sign : UInt8} {magnitude : UInt32} {offset : Nat}
    {position : Int16} (h : focusOfWire sign magnitude offset = .ok position)
    (hm : magnitude.toNat < 1000) :
    focusToWire position =
      if sign = 'F'.toUInt8 ∧ magnitude = 0 then ('0'.toUInt8, 0) else (sign, magnitude) := by
  have hmagnitude (hp : position.toInt.natAbs = magnitude.toNat) :
      UInt32.ofNat position.toInt.natAbs = magnitude := by
    rw [hp, UInt32.ofNat_toNat]
  have hlt : position < 0 ↔ position.toInt < 0 := Int16.lt_iff_toInt_lt
  rw [focusToWire]
  rcases (focusOfWire_eq_ok_iff hm).1 h with ⟨rfl, hp⟩ | ⟨rfl, hp⟩
  · rw [hmagnitude (by omega)]
    by_cases hzero : magnitude = 0
    · have hnot : ¬ position.toInt < 0 := by
        rw [hp, hzero]
        decide
      rw [if_neg (hlt.not.2 hnot), if_pos ⟨rfl, hzero⟩, hzero]
    · have hpos : magnitude.toNat ≠ 0 := fun hn => hzero (UInt32.toNat_inj.1 hn)
      rw [if_pos (hlt.2 (by omega)), if_neg fun hc => hzero hc.2]
  · rw [hmagnitude (by omega), if_neg (hlt.not.2 (by omega)),
      if_neg fun hc => absurd hc.1 (by decide)]

/-! ## Small numbers -/

/-- What does not lose its leading digits has none to lose. -/
theorem lt_of_eq_mod {x m : Nat} (hm : 0 < m) (h : x = x % m) : x < m := by
  rw [h]
  exact Nat.mod_lt x hm

theorem code_of_ofCode {code : UInt8} {mode : EhtMode} (h : EhtMode.ofCode code = .ok mode) :
    mode.code = code := by
  unfold EhtMode.ofCode at h
  grind [EhtMode.code]

theorem ofCode_hexDigit (mode : EhtMode) :
    EhtMode.ofCode (UInt32.ofNat (mode.code.toUInt32.toNat % 16 ^ 1)).toUInt8 = .ok mode := by
  cases mode <;> rfl

theorem toUInt8_ofNat_mod (v : UInt8) :
    (UInt32.ofNat (v.toUInt32.toNat % 10 ^ 1)).toUInt8 = v % 10 := by
  have := v.toNat_lt
  rw [← UInt8.toNat_inj, UInt32.toNat_toUInt8, Digits.toNat_ofNat_of_le (Nat.mod_le _ _),
    UInt8.toNat_mod]
  show v.toNat % 10 % 256 = v.toNat % 10
  omega

theorem toUInt8_ofNat_mod_hex (v : UInt8) :
    (UInt32.ofNat (v.toUInt32.toNat % 16 ^ 2)).toUInt8 = v := by
  have := v.toNat_lt
  rw [← UInt8.toNat_inj, UInt32.toNat_toUInt8, Digits.toNat_ofNat_of_le (Nat.mod_le _ _)]
  show v.toNat % 256 % 256 = v.toNat
  omega

/-- One digit carries every slot. -/
theorem mod_eq_self_of_slot {v : UInt8} (h : v.toNat ≤ 9) : v % 10 = v := by
  rw [← UInt8.toNat_inj, UInt8.toNat_mod]
  exact Nat.mod_eq_of_lt (Nat.lt_succ_of_le h)

/-- Four digits carry every flop limit. -/
theorem mod_eq_self_of_flop {v : UInt16} (h : v.toNat ≤ 9999) : v % 10000 = v := by
  rw [← UInt16.toNat_inj, UInt16.toNat_mod]
  exact Nat.mod_eq_of_lt (Nat.lt_succ_of_le h)

theorem toUInt16_ofNat_mod (v : UInt16) :
    (UInt32.ofNat (v.toUInt32.toNat % 10 ^ 4)).toUInt16 = v % 10000 := by
  rw [← UInt16.toNat_inj, UInt32.toNat_toUInt16, Digits.toNat_ofNat_of_le (Nat.mod_le _ _),
    UInt16.toNat_mod]
  show v.toNat % 10000 % 65536 = v.toNat % 10000
  omega

end DomeLink
