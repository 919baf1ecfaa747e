/-
# Doubles that are integers exactly

A table is a sequence when its keys are the integers `1 … n`, and a key is
such an integer when it is a double of that value exactly, with nothing after
the point.  `exactInt?` reads that integer off a double; this module gives
what the reading of table keys needs of it.

A finite double is a 53-bit mantissa times a power of two.  For a positive
integer that leaves no choice of mantissa or exponent, so two doubles that
are exactly one positive integer are equal as numbers (`beq_of_exactInt?`),
and conversely exactness reads a double's value alone
(`exactInt?_eq_of_beq`).  The integers up to `2^53` are doubles exactly
(`exactInt?_ofNat`) but `2^53 + 1` is none
(`exactInt?_ne_two_pow_53_add_one`), which bounds every run of keys
`1 … n`.  Last, the check the conversions make, a 64-bit integer `j ≥ 1`
that converts back to a double equal to the key, holds exactly of the keys
that are `j` exactly (`exactInt?_of_roundTrip`, `toInt64_of_exactInt?`).
-/
import MudClient.Proofs.Number.Parts

namespace MudClient.Number

open Float.Model Float.Model.UnpackedFloat

def exactInt? (x : Float) : Option Int := if isIntegral x then truncInt? x else none

theorem parts_mantissa {x : Float} {neg : Bool} {m : Nat} {e : Int} (h : parts x = .finite neg m e) :
    (m < 2 ^ 52 ∧ e = -1074) ∨ (2 ^ 52 ≤ m ∧ m < 2 ^ 53) := by
  have hfrac : (x.toBits &&& 0xFFFFFFFFFFFFF).toNat < 2 ^ 52 := by
    rw [UInt64.toNat_and]
    exact Nat.and_lt_two_pow _ (by decide)
  simp only [parts] at h
  split_ifs at h
  · injection h with _ hm he
    subst hm he
    exact .inl ⟨hfrac, rfl⟩
  · injection h with _ hm he
    subst hm
    have : Nat.pow 2 52 = 2 ^ 52 := rfl
    right
    omega

theorem truncInt?_of_exactInt? {x : Float} {j : Int} (hx : exactInt? x = some j) :
    truncInt? x = some j := by
  unfold exactInt? at hx
  split at hx
  · exact hx
  · cases hx

theorem parts_of_truncInt? {x : Float} {j : Int} (h : truncInt? x = some j) :
    ∃ neg m e, parts x = .finite neg m e := by
  unfold truncInt? at h
  split at h
  · exact ⟨_, _, _, ‹_›⟩
  · cases h

theorem parts_of_exactInt? {x : Float} {j : Int} (hx : exactInt? x = some j) :
    ∃ neg m e, parts x = .finite neg m e :=
  parts_of_truncInt? (truncInt?_of_exactInt? hx)

/-- A positive 64-bit integer of a double is its truncation, not the
stand-in for a double out of range. -/
theorem truncInt?_of_toInt64 {x : Float} {j : Int} (hj : toInt64 x = j) (h1 : 1 ≤ j) :
    truncInt? x = some j := by
  have hpow : Int.pow 2 63 = 9223372036854775808 := by decide
  unfold toInt64 at hj
  cases h : truncInt? x with
  | none =>
    simp only [h, int64Min, hpow] at hj
    omega
  | some n =>
    simp only [h] at hj
    split at hj
    · rw [hj]
    · simp only [int64Min, hpow] at hj
      omega

/-- Whether a double is integral reads its value: doubles equal as numbers
are integral alike. -/
theorem isIntegral_eq_of_beq {x y : Float} (h : (x == y) = true) : isIntegral x = isIntegral y := by
  rw [beq_eq_unpack_beq] at h
  simp only [isIntegral, parts_eq_ofUnpacked]
  rcases eq_or_zeros_of_beq h with heq | ⟨s, s', hx, hy⟩
  · rw [heq]
  · -- both zeros are integral, whatever their signs
    rw [hx, hy]
    simp only [Parts.ofUnpacked]

theorem exactInt?_eq_of_beq {x y : Float} (h : (x == y) = true) : exactInt? x = exactInt? y := by
  simp only [exactInt?, isIntegral_eq_of_beq h, truncInt?_eq_of_beq h]

/-- A finite double that is exactly a positive integer `j` has a positive
sign, and its value `m · 2^e` is `j`, written without fractions: `m · 2^a`
is `j · 2^b` for the positive part `a` and the negative part `b` of `e`. -/
theorem exactInt?_value {x : Float} {neg : Bool} {m : Nat} {e : Int} {j : Nat}
    (h : parts x = .finite neg m e) (hx : exactInt? x = some (j : Int)) (hj : 0 < j) :
    neg = false ∧ m * 2 ^ e.toNat = j * 2 ^ (-e).toNat := by
  unfold exactInt? at hx
  split at hx
  · rename_i hint
    simp only [truncInt?, h, Option.some.injEq] at hx
    simp only [isIntegral, h] at hint
    cases neg with
    | true => simp at hx; omega
    | false =>
      simp only [Bool.false_eq_true, if_false, Nat.cast_inj] at hx
      refine ⟨rfl, ?_⟩
      unfold truncScaled at hx
      split at hx
      · -- a non-negative exponent: the value is `m · 2^e`
        rw [← hx, show (-e).toNat = 0 by omega, Nat.pow_zero, Nat.mul_one, Nat.pow_eq]
      · -- a negative exponent: `2^b` divides `m`, since the double is integral
        rename_i he
        have hdvd : Nat.pow 2 (-e).toNat ∣ m := by
          simp only [he, decide_false, Bool.false_or, beq_iff_eq] at hint
          exact Nat.dvd_of_mod_eq_zero hint
        rw [show e.toNat = 0 by omega, Nat.pow_zero, Nat.mul_one, ← hx, ← Nat.pow_eq]
        exact (Nat.div_mul_cancel hdvd).symm
  · cases hx

theorem exactInt?_normal {x : Float} {neg : Bool} {m : Nat} {e : Int} {j : Nat}
    (h : parts x = .finite neg m e) (hx : exactInt? x = some (j : Int)) (hj : 0 < j) :
    2 ^ 52 ≤ m ∧ m < 2 ^ 53 := by
  rcases parts_mantissa h with ⟨hm, rfl⟩ | hm
  · -- a subnormal double is below `1`
    have hv := (exactInt?_value h hx hj).2
    rw [show (-1074 : Int).toNat = 0 from rfl, Nat.pow_zero, Nat.mul_one] at hv
    have h₁ : 2 ^ 52 ≤ 2 ^ (-(-1074 : Int)).toNat := Nat.pow_le_pow_right (by omega) (by omega)
    have h₂ : 2 ^ (-(-1074 : Int)).toNat ≤ j * 2 ^ (-(-1074 : Int)).toNat := Nat.le_mul_of_pos_left _ hj
    generalize 2 ^ (-(-1074 : Int)).toNat = p at hv h₁ h₂
    omega
  · exact hm

/-- The exponent of a double that is exactly a positive integer `j` is
fixed by `j`: the 53-bit mantissa leaves it no choice. -/
theorem exactInt?_exponent {x : Float} {neg : Bool} {m : Nat} {e : Int} {j : Nat}
    (h : parts x = .finite neg m e) (hx : exactInt? x = some (j : Int)) (hj : 0 < j) :
    e = (j.log2 : Int) - 52 := by
  have hv := (exactInt?_value h hx hj).2
  obtain ⟨hlo, hhi⟩ := exactInt?_normal h hx hj
  have hm : m.log2 = 52 := (Nat.log2_eq_iff (by omega)).2 ⟨hlo, hhi⟩
  -- both sides of the value have the same number of bits
  have hbits := congrArg Nat.log2 hv
  rw [log2_mul_two_pow (by omega), log2_mul_two_pow (by omega), hm] at hbits
  omega

theorem parts_eq_of_exactInt? {x y : Float} {j : Nat} (hx : exactInt? x = some (j : Int))
    (hy : exactInt? y = some (j : Int)) (hj : 0 < j) : parts x = parts y := by
  obtain ⟨neg, m, e, h⟩ := parts_of_exactInt? hx
  obtain ⟨neg', m', e', h'⟩ := parts_of_exactInt? hy
  obtain ⟨rfl, hv⟩ := exactInt?_value h hx hj
  obtain ⟨rfl, hv'⟩ := exactInt?_value h' hy hj
  have he : e = e' := (exactInt?_exponent h hx hj).trans (exactInt?_exponent h' hy hj).symm
  subst he
  have hm : m = m' := Nat.eq_of_mul_eq_mul_right (Nat.two_pow_pos _) (hv.trans hv'.symm)
  rw [h, h', hm]

theorem unpack_of_parts {x : Float} {m : Nat} {e : Int} (h : parts x = .finite false m e) (hm : 0 < m) :
    x.toModel.unpack = .finite .positive m e hm := by
  rw [parts_eq_ofUnpacked] at h
  generalize x.toModel.unpack = u at h
  cases u with
  | zero s =>
    simp only [Parts.ofUnpacked, Parts.finite.injEq] at h
    omega
  | finite s m' e' hm' =>
    simp only [Parts.ofUnpacked, Parts.finite.injEq] at h
    obtain ⟨hs, rfl, rfl⟩ := h
    cases s
    · cases hs
    · rfl
  | infinity s => cases h
  | notANumber => cases h

theorem beq_of_exactInt? {x y : Float} {j : Nat} (hx : exactInt? x = some (j : Int))
    (hy : exactInt? y = some (j : Int)) (hj : 0 < j) : (x == y) = true := by
  obtain ⟨neg, m, e, h⟩ := parts_of_exactInt? hx
  obtain ⟨rfl, -⟩ := exactInt?_value h hx hj
  have hm : 0 < m := by have := (exactInt?_normal h hx hj).1; omega
  have h' : parts y = .finite false m e := (parts_eq_of_exactInt? hx hy hj).symm.trans h
  rw [beq_eq_unpack_beq, unpack_of_parts h hm, unpack_of_parts h' hm]
  exact beq_self (by simp)

theorem exactInt?_ofNat {j : Nat} (h0 : 0 < j) (hj : j ≤ 2 ^ 53) :
    exactInt? (Float.ofNat j) = some (j : Int) := by
  rcases Nat.lt_or_ge j (2 ^ 53) with hlt | hge
  · simp only [exactInt?, isIntegral_ofNat h0 hlt, if_true, truncInt?_ofNat h0 hlt]
  · obtain rfl : j = 2 ^ 53 := by omega
    have hp : parts (Float.ofNat (2 ^ 53)) = .finite false (2 ^ 52) 1 := by
      rw [parts_eq_ofUnpacked, unpack_ofNat_two_pow_53]
      rfl
    simp only [exactInt?, isIntegral, truncInt?, hp]
    rfl

/-- A double that is exactly an integer from `1` to `2^53` equals that
integer's own double. -/
theorem ofNat_beq_of_exactInt? {x : Float} {j : Nat} (hx : exactInt? x = some (j : Int)) (h0 : 0 < j)
    (hj : j ≤ 2 ^ 53) : (Float.ofNat j == x) = true :=
  beq_of_exactInt? (exactInt?_ofNat h0 hj) hx h0

theorem toInt64_of_exactInt? {x : Float} {j : Nat} (hx : exactInt? x = some (j : Int)) (hj : j < 2 ^ 63) :
    toInt64 x = j := by
  have hpow : Int.pow 2 63 = 9223372036854775808 := by decide
  simp only [toInt64, truncInt?_of_exactInt? hx, int64Min, hpow]
  rw [if_pos (by omega)]

theorem exactInt?_ne_two_pow_53_add_one (x : Float) : exactInt? x ≠ some ((2 ^ 53 + 1 : Nat) : Int) := by
  intro hx
  obtain ⟨neg, m, e, h⟩ := parts_of_exactInt? hx
  have hv := (exactInt?_value h hx (by omega)).2
  have hm := (exactInt?_normal h hx (by omega)).2
  rcases Nat.eq_zero_or_pos (-e).toNat with hb | hb
  · rw [hb, Nat.pow_zero, Nat.mul_one] at hv
    rcases Nat.eq_zero_or_pos e.toNat with ha | ha
    · rw [ha, Nat.pow_zero, Nat.mul_one] at hv
      omega
    · -- a positive exponent makes the value even
      have hd : 2 ∣ m * 2 ^ e.toNat := Dvd.dvd.mul_left (dvd_pow_self 2 (Nat.pos_iff_ne_zero.1 ha)) m
      rw [hv] at hd
      omega
  · -- a negative exponent makes the mantissa a multiple of the value
    rw [show e.toNat = 0 by omega, Nat.pow_zero, Nat.mul_one] at hv
    have := Nat.le_mul_of_pos_right (2 ^ 53 + 1) (Nat.two_pow_pos (-e).toNat)
    omega

theorem isIntegral_of_large {x : Float} {neg : Bool} {m : Nat} {e : Int} (h : parts x = .finite neg m e)
    (hlarge : 2 ^ 53 ≤ truncScaled m e) : isIntegral x = true := by
  have hm : m < 2 ^ 53 := by rcases parts_mantissa h with ⟨hm, -⟩ | ⟨-, hm⟩ <;> omega
  simp only [isIntegral, h]
  by_cases he : e ≥ 0
  · simp [he]
  · -- a negative exponent would truncate to no more than the mantissa
    unfold truncScaled at hlarge
    rw [if_neg he] at hlarge
    have := Nat.div_le_self m (Nat.pow 2 (-e).toNat)
    omega

/-- What converting to a 64-bit integer and back checks: a double whose
64-bit integer `j ≥ 1` converts back to a double equal to it is exactly `j`. -/
theorem exactInt?_of_roundTrip {x : Float} {j : Int} (hb : (Float.ofInt j == x) = true) (hj : toInt64 x = j)
    (h1 : 1 ≤ j) : exactInt? x = some j := by
  obtain ⟨k, rfl⟩ : ∃ k : Nat, j = k := ⟨j.toNat, by omega⟩
  by_cases hsmall : k ≤ 2 ^ 53
  · -- the double of `k` is `k` exactly, and `x` has its value
    rw [← exactInt?_eq_of_beq hb, ofInt_natCast]
    exact exactInt?_ofNat (by omega) hsmall
  · -- past `2^53` every double is integral, so `x` is its truncation
    have ht := truncInt?_of_toInt64 hj h1
    obtain ⟨neg, m, e, hp⟩ := parts_of_truncInt? ht
    have hint : isIntegral x = true := by
      simp only [truncInt?, hp, Option.some.injEq] at ht
      cases neg
      · simp only [Bool.false_eq_true, if_false, Nat.cast_inj] at ht
        exact isIntegral_of_large hp (by omega)
      · simp at ht
        omega
    simp only [exactInt?, hint, if_true, ht]

/-! ### Doubles that are integers are those integers' doubles

A double that is a number is its bits, and its bits are read back from its
parts (`toBits_eq_of_parts_eq`); so a double that is exactly a positive
integer up to `2^53` is that integer's own double (`eq_ofNat_of_exactInt?`),
whatever bits it came from. -/

theorem toNat_sign (b : UInt64) : (b >>> 63).toNat = b.toNat / 2 ^ 63 := by
  rw [UInt64.toNat_shiftRight]
  simp [Nat.shiftRight_eq_div_pow]

theorem toNat_exponentBits (b : UInt64) : ((b >>> 52) &&& 0x7FF).toNat = b.toNat / 2 ^ 52 % 2 ^ 11 := by
  have : (0x7FF : UInt64).toNat = 2 ^ 11 - 1 := rfl
  rw [UInt64.toNat_and, this, Nat.and_two_pow_sub_one_eq_mod, UInt64.toNat_shiftRight]
  simp [Nat.shiftRight_eq_div_pow]

theorem toNat_fractionBits (b : UInt64) : (b &&& 0xFFFFFFFFFFFFF).toNat = b.toNat % 2 ^ 52 := by
  have : (0xFFFFFFFFFFFFF : UInt64).toNat = 2 ^ 52 - 1 := rfl
  rw [UInt64.toNat_and, this, Nat.and_two_pow_sub_one_eq_mod]

theorem sign_beq (b : UInt64) : (b >>> 63 == 1) = decide (b.toNat / 2 ^ 63 = 1) := by
  rw [Bool.eq_iff_iff, beq_iff_eq, decide_eq_true_iff, ← toNat_sign, ← UInt64.toNat_inj]
  rfl

/-- Two doubles with the same parts, not a NaN, have the same bits: the
sign, exponent and fraction fields are read off the parts. -/
theorem toBits_eq_of_parts_eq {x y : Float} (h : parts x = parts y) (hx : parts x ≠ .nan) :
    x.toBits = y.toBits := by
  have hbx := x.toBits.toNat_lt
  have hby := y.toBits.toNat_lt
  simp only [parts, toNat_exponentBits, toNat_fractionBits, sign_beq] at h hx
  apply UInt64.toNat_inj.1
  generalize x.toBits.toNat = a at *
  generalize y.toBits.toNat = c at *
  -- each way of reading the fields fixes them, and the fields make up the bits
  split_ifs at h hx <;> simp_all <;> omega

/-- A double that is exactly a positive integer up to `2^53` is that
integer's double. -/
theorem eq_ofNat_of_exactInt? {x : Float} {j : Nat} (hx : exactInt? x = some (j : Int)) (h0 : 0 < j)
    (hj : j ≤ 2 ^ 53) : x = Float.ofNat j := by
  have hp := parts_eq_of_exactInt? hx (exactInt?_ofNat h0 hj) h0
  obtain ⟨neg, m, e, hpx⟩ := parts_of_exactInt? hx
  exact Float.toBits_inj.1 (toBits_eq_of_parts_eq hp (by rw [hpx]; exact Parts.noConfusion))

/-! ### Order and zero -/

/-- An integer from `2` to `2^53` is its double's mantissa times a positive
power of two. -/
theorem ofNat_scaled {n : Nat} (h2 : 2 ≤ n) (hn : n ≤ 2 ^ 53) :
    ∃ m e, ∃ h : Normal m e, (Float.ofNat n).toModel.unpack = .finite .positive m e h.pos ∧
      2 ^ 52 ≤ m ∧ m < 2 ^ 53 ∧ 1 ≤ e + 52 ∧ n * 2 ^ 52 = m * 2 ^ (e + 52).toNat := by
  obtain ⟨m, e, h, hu, hv⟩ := unpack_ofNat (by omega) hn
  have hlo : 2 ^ 52 ≤ m := h.log2_eq ▸ Nat.log2_self_le (Nat.ne_of_gt h.pos)
  have hhi : m < 2 ^ 53 := by
    have := Nat.lt_log2_self (n := m)
    rw [h.log2_eq] at this
    exact this
  refine ⟨m, e, h, hu, hlo, hhi, ?_, hv⟩
  -- a zero power would make `n · 2^52` a mantissa, below `2^53`
  by_contra he
  rw [show (e + 52).toNat = 0 by omega, Nat.pow_zero, Nat.mul_one] at hv
  omega

theorem lt_of_ofNat_lt_ofNat {i j : Nat} (hi : 2 ≤ i) (hi' : i ≤ 2 ^ 53) (hj : 2 ≤ j) (hj' : j ≤ 2 ^ 53)
    (h : Float.ofNat i < Float.ofNat j) : i < j := by
  obtain ⟨m, e, hn, hu, hlo, hhi, he, hv⟩ := ofNat_scaled hi hi'
  obtain ⟨m', e', hn', hu', hlo', hhi', he', hv'⟩ := ofNat_scaled hj hj'
  rw [lt_iff_unpack_lt, hu, hu'] at h
  simp only [UnpackedFloat.lt, UnpackedFloat.compare, beq_iff_eq, Option.some.injEq,
    Ordering.then_eq_lt, Int.compare_eq_lt, Int.compare_eq_eq, Nat.compare_eq_lt] at h
  obtain ⟨p, hp⟩ : ∃ p : Nat, e + 52 = p := ⟨(e + 52).toNat, by omega⟩
  obtain ⟨p', hp'⟩ : ∃ p' : Nat, e' + 52 = p' := ⟨(e' + 52).toNat, by omega⟩
  rw [hp, Int.toNat_natCast] at hv
  rw [hp', Int.toNat_natCast] at hv'
  rcases h with h | ⟨h, hm⟩
  · -- a smaller exponent: `i · 2^52 < 2^(p + 53) ≤ 2^52 · 2^p' ≤ j · 2^52`
    have h₁ : i * 2 ^ 52 < 2 ^ 53 * 2 ^ p := hv ▸ Nat.mul_lt_mul_of_pos_right hhi (Nat.two_pow_pos p)
    have h₂ : 2 ^ 53 * 2 ^ p ≤ 2 ^ 52 * 2 ^ p' := by
      rw [← Nat.pow_add, ← Nat.pow_add]
      exact Nat.pow_le_pow_right (by omega) (by omega)
    have h₃ : 2 ^ 52 * 2 ^ p' ≤ j * 2 ^ 52 := hv' ▸ Nat.mul_le_mul_right _ hlo'
    exact Nat.lt_of_mul_lt_mul_right (by omega : i * 2 ^ 52 < j * 2 ^ 52)
  · -- the same exponent and a smaller mantissa
    obtain rfl : p = p' := by omega
    have : i * 2 ^ 52 < j * 2 ^ 52 := by
      rw [hv, hv']
      exact Nat.mul_lt_mul_of_pos_right hm (Nat.two_pow_pos p)
    exact Nat.lt_of_mul_lt_mul_right this

theorem isNaN_ofNat {j : Nat} (h0 : 0 < j) (hj : j ≤ 2 ^ 53) : (Float.ofNat j).isNaN = false := by
  obtain ⟨m, e, h, hu, -⟩ := unpack_ofNat h0 hj
  simp only [Float.isNaN, Float.Model.isNaN, hu]
  rfl

theorem ofNat_beq_zero {j : Nat} (h0 : 0 < j) (hj : j ≤ 2 ^ 53) : (Float.ofNat j == 0) = false := by
  obtain ⟨m, e, h, hu, -⟩ := unpack_ofNat h0 hj
  have hz : (0 : Float).toModel.unpack = .zero .positive := rfl
  rw [beq_eq_unpack_beq, hu, hz, finite_beq_zero]

end MudClient.Number
