/-
# Reading a double from its bits

The number formats and the conversions to integers read a double through
`parts`, straight from its bits.  Lean's logical model reads the same bits
through `Float.Model.UnpackedFloat.unpack`.  This module shows the two
readings agree (`parts_eq_ofUnpacked`), so that what the model proves about
doubles carries over to `parts`.

Two consequences are what the conversions between host data and script
values need.  Truncation to an integer depends only on a double's value:
doubles equal as numbers truncate alike (`toInt64_eq_of_beq`).  So a double
that converts to a 64-bit integer and back unchanged has a 64-bit integer
whose own double does the same (`isInt64_ofInt_toInt64`).  Natural numbers
below `2^53` read back exactly and keep their order (`toInt64_ofNat`,
`ofNat_lt_ofNat`).
-/
import MudClient.Proofs.Number.Exact
import MudClient.Number.Binary

namespace MudClient.Number

open Float.Model Float.Model.UnpackedFloat

/-- The parts of an unpacked double, as `parts` reads them from its bits:
zeros are the mantissa `0` at the least exponent. -/
def Parts.ofUnpacked : UnpackedFloat → Parts
  | .zero s => .finite (s == .negative) 0 (-1074)
  | .finite s m e _ => .finite (s == .negative) m e
  | .infinity s => .inf (s == .negative)
  | .notANumber => .nan

theorem unpackMantissa_toNat (b : UInt64) :
    (@unpackMantissa Format.binary64 b.toBitVec).toNat = (b &&& 0xFFFFFFFFFFFFF).toNat := by
  simp only [unpackMantissa, BitVec.toNat_cast, BitVec.extractLsb_toNat, UInt64.toNat_and,
    UInt64.toNat_toBitVec]
  have : (0xFFFFFFFFFFFFF : UInt64).toNat = 2 ^ 52 - 1 := rfl
  rw [this, Nat.and_two_pow_sub_one_eq_mod]
  simp

theorem unpackExponent_toNat (b : UInt64) :
    (@unpackExponent Format.binary64 b.toBitVec).toNat = ((b >>> 52) &&& 0x7FF).toNat := by
  simp only [unpackExponent, BitVec.toNat_cast, BitVec.extractLsb_toNat, UInt64.toNat_and,
    UInt64.toNat_shiftRight, UInt64.toNat_toBitVec]
  have : (0x7FF : UInt64).toNat = 2 ^ 11 - 1 := rfl
  rw [this, Nat.and_two_pow_sub_one_eq_mod]
  simp

theorem unpackSign_eq (b : UInt64) :
    Sign.ofBitVec (@unpackSign Format.binary64 b.toBitVec) =
      if b >>> 63 == 1 then .negative else .positive := by
  have hs : (@unpackSign Format.binary64 b.toBitVec).toNat = (b >>> 63).toNat := by
    simp only [unpackSign, BitVec.toNat_cast, BitVec.extractLsb_toNat, UInt64.toNat_shiftRight,
      UInt64.toNat_toBitVec]
    have := b.toNat_lt
    simp
    omega
  have hlt : (b >>> 63).toNat < 2 := by
    rw [UInt64.toNat_shiftRight]
    have := b.toNat_lt
    simp
    omega
  have hbeq : (b >>> 63 == 1) = true ↔ (b >>> 63).toNat = 1 := by
    rw [beq_iff_eq, ← UInt64.toNat_inj]
    rfl
  unfold Sign.ofBitVec
  by_cases h : (b >>> 63).toNat = 1
  · have hne : @unpackSign Format.binary64 b.toBitVec ≠ 0#1 := by
      intro h0
      have := congrArg BitVec.toNat h0
      rw [hs, BitVec.toNat_zero] at this
      omega
    rw [if_neg hne, if_pos (hbeq.2 h)]
  · have h0 : @unpackSign Format.binary64 b.toBitVec = 0#1 := by
      apply BitVec.eq_of_toNat_eq
      rw [hs, BitVec.toNat_zero]
      omega
    have hb : ¬ (b >>> 63 == 1) = true := fun hb => h (hbeq.1 hb)
    rw [if_pos h0, if_neg hb]

theorem parts_eq_ofUnpacked (x : Float) : parts x = Parts.ofUnpacked x.toModel.unpack := by
  have hb : x.toModel.toBits = x.toBits := rfl
  simp only [parts, Float.Model.unpack, UnpackedFloat.unpack, hb, unpackSign_eq]
  have hE := unpackExponent_toNat x.toBits
  have hM := unpackMantissa_toNat x.toBits
  have hE1 : @unpackExponent Format.binary64 x.toBits.toBitVec = -1#11 ↔
      ((x.toBits >>> 52) &&& 0x7FF).toNat = 0x7FF := by
    rw [← BitVec.toNat_inj, hE]
    rfl
  have hE0 : @unpackExponent Format.binary64 x.toBits.toBitVec = 0#11 ↔
      ((x.toBits >>> 52) &&& 0x7FF).toNat = 0 := by
    rw [← BitVec.toNat_inj, hE]
    rfl
  have hM0 : @unpackMantissa Format.binary64 x.toBits.toBitVec = 0#52 ↔
      (x.toBits &&& 0xFFFFFFFFFFFFF).toNat = 0 := by
    rw [← BitVec.toNat_inj, hM]
    rfl
  have hnormal : (1#1 ++ @unpackMantissa Format.binary64 x.toBits.toBitVec).toNat =
      (x.toBits &&& 0xFFFFFFFFFFFFF).toNat + Nat.pow 2 52 := by
    rw [BitVec.toNat_append, ← Nat.shiftLeft_add_eq_or_of_lt (BitVec.isLt _), hM]
    simp [Nat.shiftLeft_eq]
    omega
  simp only [hE1, hE0, hM0]
  split_ifs <;> simp only [Parts.ofUnpacked, hM, hE, hnormal]
  all_goals simp_all [Format.exponentBias]

/-! ### Doubles equal as numbers -/

theorem ne_nan_of_beq {u v : UnpackedFloat} (h : u.beq v = true) : u ≠ .notANumber := by
  rintro rfl
  cases h

theorem eq_or_zeros_of_beq {u v : UnpackedFloat} (h : u.beq v = true) :
    u = v ∨ ∃ s s', u = .zero s ∧ v = .zero s' := by
  cases u with
  | notANumber => cases h
  | zero s =>
    cases v with
    | zero s' => exact Or.inr ⟨s, s', rfl, rfl⟩
    | finite s' m e hm => rw [zero_beq_finite] at h; cases h
    | infinity s' => cases s <;> cases s' <;> cases h
    | notANumber => cases s <;> cases h
  | finite s m e hm =>
    cases v with
    | finite s' m' e' hm' =>
      obtain ⟨rfl, rfl, rfl⟩ := (finite_beq_finite_iff hm hm').1 h
      exact Or.inl rfl
    | zero s' => rw [finite_beq_zero] at h; cases h
    | infinity s' => cases s <;> cases s' <;> cases h
    | notANumber => cases s <;> cases h
  | infinity s =>
    cases v with
    | infinity s' => cases s <;> cases s' <;> first | exact Or.inl rfl | cases h
    | zero s' => cases s <;> cases s' <;> cases h
    | finite s' m e hm => cases s <;> cases s' <;> cases h
    | notANumber => cases s <;> cases h

theorem beq_self {u : UnpackedFloat} (h : u ≠ .notANumber) : u.beq u = true := by
  cases u with
  | notANumber => exact absurd rfl h
  | zero s => cases s <;> rfl
  | finite s m e hm => exact (finite_beq_finite_iff hm hm).2 ⟨rfl, rfl, rfl⟩
  | infinity s => cases s <;> rfl

theorem beq_self_of_beq {x y : Float} (h : (x == y) = true) : (x == x) = true := by
  rw [beq_eq_unpack_beq] at h ⊢
  exact beq_self (ne_nan_of_beq h)

theorem truncScaled_zero (e : Int) : truncScaled 0 e = 0 := by
  unfold truncScaled
  split <;> simp

theorem truncInt?_eq_of_beq {x y : Float} (h : (x == y) = true) : truncInt? x = truncInt? y := by
  rw [beq_eq_unpack_beq] at h
  simp only [truncInt?, parts_eq_ofUnpacked]
  rcases eq_or_zeros_of_beq h with heq | ⟨s, s', hx, hy⟩
  · rw [heq]
  · -- both zeros truncate to `0`, whatever their signs
    rw [hx, hy]
    simp only [Parts.ofUnpacked, truncScaled_zero, Int.natCast_zero, Int.neg_zero, ite_self]

theorem toInt64_eq_of_beq {x y : Float} (h : (x == y) = true) : toInt64 x = toInt64 y := by
  simp only [toInt64, truncInt?_eq_of_beq h]

/-- A double that converts to a 64-bit integer and back unchanged leaves the
double of that integer doing the same, with the same integer. -/
theorem isInt64_ofInt_toInt64 {x : Float} (h : isInt64 x = true) :
    isInt64 (Float.ofInt (toInt64 x)) = true ∧ toInt64 (Float.ofInt (toInt64 x)) = toInt64 x := by
  have hback : toInt64 (Float.ofInt (toInt64 x)) = toInt64 x := toInt64_eq_of_beq h
  refine ⟨?_, hback⟩
  unfold isInt64
  rw [hback]
  exact beq_self_of_beq h

/-! ### Natural numbers below `2^53` read back -/

theorem ofInt_natCast (n : Nat) : Float.ofInt (n : Int) = Float.ofNat n := rfl

theorem ofInt_natCast_add_one (n : Nat) : Float.ofInt ((n : Int) + 1) = Float.ofNat (n + 1) := rfl

theorem parts_ofNat {j : Nat} (h0 : 0 < j) (hj : j < 2 ^ 53) :
    parts (Float.ofNat j) = .finite false (j <<< (52 - j.log2)) (j.log2 - 52) := by
  rw [parts_eq_ofUnpacked, unpack_ofNat_of_lt h0 hj]
  rfl

theorem truncScaled_shiftLeft {j : Nat} (hL : j.log2 ≤ 52) :
    truncScaled (j <<< (52 - j.log2)) (j.log2 - 52) = j := by
  unfold truncScaled
  split
  · have hL' : j.log2 = 52 := by omega
    simp [hL']
  · have hk : (-((j.log2 : Int) - 52)).toNat = 52 - j.log2 := by omega
    rw [hk, Nat.shiftLeft_eq, Nat.pow_eq]
    exact Nat.mul_div_cancel j (Nat.two_pow_pos _)

theorem truncInt?_ofNat {j : Nat} (h0 : 0 < j) (hj : j < 2 ^ 53) :
    truncInt? (Float.ofNat j) = some (j : Int) := by
  have hL : j.log2 < 53 := (Nat.log2_lt (Nat.ne_of_gt h0)).2 hj
  simp only [truncInt?, parts_ofNat h0 hj, truncScaled_shiftLeft (Nat.le_of_lt_succ hL)]
  rfl

theorem toInt64_ofNat {j : Nat} (h0 : 0 < j) (hj : j < 2 ^ 53) : toInt64 (Float.ofNat j) = j := by
  have hpow : Int.pow 2 63 = 9223372036854775808 := by decide
  simp only [toInt64, truncInt?_ofNat h0 hj, int64Min, hpow]
  rw [if_pos (by omega)]

theorem isIntegral_ofNat {j : Nat} (h0 : 0 < j) (hj : j < 2 ^ 53) :
    isIntegral (Float.ofNat j) = true := by
  have hk : (-((j.log2 : Int) - 52)).toNat = 52 - j.log2 := by omega
  simp only [isIntegral, parts_ofNat h0 hj, hk, Nat.shiftLeft_eq, Nat.pow_eq, Nat.mul_mod_left]
  simp

theorem lt_iff_unpack_lt (x y : Float) : x < y ↔ x.toModel.unpack.lt y.toModel.unpack = true :=
  decide_eq_true_iff

theorem log2_le_log2 {i j : Nat} (hi : 0 < i) (hij : i ≤ j) : i.log2 ≤ j.log2 :=
  (Nat.le_log2 (by omega)).2 (Nat.le_trans (Nat.log2_self_le (Nat.ne_of_gt hi)) hij)

theorem ofNat_lt_ofNat {i j : Nat} (hi : 0 < i) (hij : i < j) (hj : j < 2 ^ 53) :
    Float.ofNat i < Float.ofNat j := by
  rw [lt_iff_unpack_lt, unpack_ofNat_of_lt hi (by omega), unpack_ofNat_of_lt (by omega) hj]
  have hL := log2_le_log2 hi (Nat.le_of_lt hij)
  simp only [UnpackedFloat.lt, UnpackedFloat.compare]
  rcases Nat.lt_or_eq_of_le hL with hlt | heq
  · rw [Int.compare_eq_lt.2 (by omega)]
    rfl
  · have hm : i <<< (52 - j.log2) < j <<< (52 - j.log2) := by
      rw [Nat.shiftLeft_eq, Nat.shiftLeft_eq]
      exact Nat.mul_lt_mul_of_pos_right hij (Nat.two_pow_pos _)
    rw [heq, Int.compare_eq_eq.2 rfl, Nat.compare_eq_lt.2 hm]
    rfl

theorem zero_lt_ofNat {j : Nat} (h0 : 0 < j) (hj : j < 2 ^ 53) : (0 : Float) < Float.ofNat j := by
  rw [lt_iff_unpack_lt, unpack_ofNat_of_lt h0 hj]
  rfl

end MudClient.Number