/-
# Integers that doubles hold exactly

Every integer of magnitude at most `2^53` is a double.  This module follows
the conversion `Float.ofInt` through Lean's logical model of doubles and
shows that it lands on that double: the unpacked result is `± m · 2^e` with
a 53-bit mantissa `m` and `m · 2^e` equal to the integer (`unpack_ofInt`).
Two such doubles are equal exactly when the integers are
(`ofInt_beq_ofInt_iff`), which is what comparing numbers as doubles needs.

The conversion below `2^53` multiplies the integer's own double by `1.0`;
at `2^53` it rounds through the decimal model.  Every rounding on the way
meets a mantissa that already has 53 bits and so changes nothing
(`roundWithAccuracy_normal`), and packing such a double into bits and
reading it back is the identity (`unpack_pack_normal`).
-/

import Mathlib

namespace MudClient.Number

open Float.Model Float.Model.UnpackedFloat

/-! ### Rounding leaves a normal double alone -/

/-- A 53-bit mantissa with an exponent in the normal range of doubles. -/
structure Normal (m : Nat) (e : Int) : Prop where
  log2_eq : m.log2 = 52
  exponent_ge : -1074 ≤ e
  exponent_le : e ≤ 971

theorem Normal.pos {m : Nat} {e : Int} (h : Normal m e) : 0 < m := by
  rcases Nat.eq_zero_or_pos m with hm | hm
  · have := h.log2_eq
    simp [hm] at this
  · exact hm

theorem log2_mul_two_pow {m : Nat} (hm : m ≠ 0) (k : Nat) : (m * 2 ^ k).log2 = m.log2 + k := by
  induction k with
  | zero => simp
  | succ k ih =>
    have hk : m * 2 ^ k ≠ 0 := Nat.mul_ne_zero hm (Nat.pos_iff_ne_zero.1 (Nat.two_pow_pos k))
    have : m * 2 ^ (k + 1) = 2 * (m * 2 ^ k) := by
      rw [Nat.pow_succ, Nat.mul_comm 2, Nat.mul_assoc]
    rw [this, Nat.log2_two_mul hk, ih]
    omega

theorem shiftRight_mul_two_pow (m k : Nat) :
    (⟨m * 2 ^ k, false, false⟩ : ExtendedMantissa) >>> k = ⟨m, false, false⟩ := by
  show k.repeat ExtendedMantissa.shiftRightOne _ = _
  induction k generalizing m with
  | zero => simp [Nat.repeat]
  | succ k ih =>
    have : m * 2 ^ (k + 1) = (2 * m) * 2 ^ k := by
      rw [Nat.pow_succ, Nat.mul_comm 2 m, Nat.mul_assoc, Nat.mul_comm (2 ^ k) 2]
    rw [this]
    simp only [Nat.repeat, ih]
    simp [ExtendedMantissa.shiftRightOne]

theorem shiftToTargetExponent_normal {m : Nat} {e : Int} (h : Normal m e) (k : Nat) :
    shiftToTargetExponent Format.binary64 (m * 2 ^ k) (e - k) .exact = (⟨m, false, false⟩, e) := by
  have htarget : Format.binary64.targetExponent (totalExponent (m * 2 ^ k) (e - k)) = e := by
    simp only [Format.targetExponent, totalExponent, log2_mul_two_pow (Nat.ne_of_gt h.pos) k, h.log2_eq,
      Format.mantissaBits, Format.minExponent]
    have := h.exponent_ge
    omega
  simp only [shiftToTargetExponent, shiftToExponent, htarget, ExtendedMantissa.ofMantissaAndAccuracy]
  have hshift : (e - (e - (k : Int))).toNat = k := by omega
  rw [hshift, shiftRight_mul_two_pow]
  simp

/-- Rounding `m · 2^k` at exponent `e - k` to a double gives back `m · 2^e`
when that is normal: no bit is lost and no carry is made. -/
theorem roundWithAccuracy_normal (s : Sign) {m : Nat} {e : Int} (h : Normal m e) (k : Nat) :
    roundWithAccuracy Format.binary64 s (m * 2 ^ k) (e - k) .exact = .finite s m e h.pos := by
  have h0 := shiftToTargetExponent_normal h 0
  simp only [Nat.pow_zero, Nat.mul_one, Int.natCast_zero, Int.sub_zero] at h0
  simp only [roundWithAccuracy, shiftToTargetExponent_normal h k, ExtendedMantissa.roundedMantissa,
    ExtendedMantissa.accuracy, Accuracy.roundToNearestEven, h0]
  simp [Nat.ne_of_gt h.pos]

theorem roundWithAccuracy_of_normal (s : Sign) {m : Nat} {e : Int} (h : Normal m e) :
    roundWithAccuracy Format.binary64 s m e .exact = .finite s m e h.pos := by
  simpa using roundWithAccuracy_normal s h 0

/-! ### Packing a normal double into bits and reading it back -/

theorem unpackSign_packComponents {spec : Format} {sign exponent mantissa} :
    unpackSign (packComponents spec sign exponent mantissa) = sign.toBitVec := by
  ext i hi
  obtain rfl : i = 0 := by omega
  simp [unpackSign, packComponents, BitVec.getLsbD_append, BitVec.getElem_append]

theorem sign_ofBitVec_toBitVec (s : Sign) : Sign.ofBitVec s.toBitVec = s := by
  cases s <;> rfl

theorem unpack_pack_normal (s : Sign) {m : Nat} {e : Int} (h : Normal m e) :
    unpack Format.binary64 (UnpackedFloat.pack Format.binary64 (.finite s m e h.pos)) =
      .finite s m e h.pos := by
  have hm := h.log2_eq
  have he := h.exponent_ge
  have he' := h.exponent_le
  have hlo : 2 ^ 52 ≤ m := by
    have := Nat.log2_self_le (Nat.pos_iff_ne_zero.1 h.pos)
    rwa [hm] at this
  have hhi : m < 2 ^ 53 := by
    have := Nat.lt_log2_self (n := m)
    rwa [hm] at this
  have hbias : (e + ↑(Format.binary64.exponentBias) +
      ↑Format.binary64.mantissaBitsWithoutImplicit).toNat = (e + 1075).toNat := by
    simp [Format.exponentBias]
    omega
  have hinf : ¬ 2 ^ 11 ≤ (e + 1075).toNat + 1 := by omega
  have hnormal : 52 + 1 = Format.binary64.mantissaBits := rfl
  simp only [UnpackedFloat.pack, hm, hbias, hinf, hnormal, if_false, if_true]
  simp only [UnpackedFloat.unpack, unpackMantissa_packComponents, unpackExponent_packComponents,
    unpackSign_packComponents, sign_ofBitVec_toBitVec]
  -- the biased exponent is neither all zeros (subnormal) nor all ones (infinite or NaN)
  have hx : (BitVec.ofNat 11 (e + 1075).toNat).toNat = (e + 1075).toNat := by
    rw [BitVec.toNat_ofNat]
    omega
  have hne1 : BitVec.ofNat 11 (e + 1075).toNat ≠ -1#11 := by
    intro h
    have := congrArg BitVec.toNat h
    rw [hx] at this
    simp at this
    omega
  have hne0 : BitVec.ofNat 11 (e + 1075).toNat ≠ 0#11 := by
    intro h
    have := congrArg BitVec.toNat h
    rw [hx] at this
    simp at this
    omega
  have hmant : (1#1 ++ BitVec.ofNat 52 m).toNat = m := by
    rw [BitVec.toNat_append, ← Nat.shiftLeft_add_eq_or_of_lt (BitVec.ofNat 52 m).isLt,
      BitVec.toNat_ofNat, Nat.shiftLeft_eq]
    simp
    omega
  simp only [hne1, hne0, if_false, hmant, hx]
  congr 1
  simp [Format.exponentBias]
  omega

theorem unpack_pack_model_normal (s : Sign) {m : Nat} {e : Int} (h : Normal m e) :
    (Float.Model.pack (.finite s m e h.pos)).unpack = .finite s m e h.pos :=
  unpack_pack_normal s h

/-! ### Converting a natural number below `2^53` -/

theorem normal_shiftLeft {n : Nat} (h0 : 0 < n) (hn : n < 2 ^ 53) :
    Normal (n <<< (52 - n.log2)) (n.log2 - 52) := by
  have hL : n.log2 < 53 := (Nat.log2_lt (Nat.ne_of_gt h0)).2 hn
  refine ⟨?_, by omega, by omega⟩
  rw [Nat.shiftLeft_eq, log2_mul_two_pow (Nat.ne_of_gt h0)]
  omega

theorem ofNat_unpacked {n : Nat} (h0 : 0 < n) (hn : n < 2 ^ 53) :
    UnpackedFloat.ofNat Format.binary64 n =
      .finite .positive (n <<< (52 - n.log2)) (n.log2 - 52) (normal_shiftLeft h0 hn).pos := by
  have hL : n.log2 < 53 := (Nat.log2_lt (Nat.ne_of_gt h0)).2 hn
  have ht : Format.binary64.targetExponent (totalExponent n 0) = n.log2 - 52 := by
    simp only [Format.targetExponent, totalExponent, Format.mantissaBits, Format.minExponent]
    omega
  have hshift : (0 - ((n.log2 : Int) - 52)).toNat = 52 - n.log2 := by omega
  have hexp : (0 : Int) - ((52 - n.log2 : Nat) : Int) = n.log2 - 52 := by omega
  simp only [UnpackedFloat.ofNat, UnpackedFloat.ofInt, UnpackedFloat.normalize]
  rw [Int.compare_eq_gt.2 (by omega)]
  simp only [Int.toNat_natCast, UnpackedFloat.round, decreaseExponent, ht, hshift]
  rw [hexp]
  exact roundWithAccuracy_of_normal .positive (normal_shiftLeft h0 hn)

theorem unpack_one :
    (Float.ofBits 0x3FF0000000000000).toModel.unpack = .finite .positive (2 ^ 52) (-52) (by decide) :=
  rfl

theorem toModel_ofNat_of_lt {n : Nat} (hn : n < 2 ^ 53) :
    (Float.ofNat n).toModel =
      Float.Model.ofNat n * (Float.ofBits 0x3FF0000000000000).toModel := by
  have hsmall : n.toUInt64.toNat = n := by simp; omega
  simp only [Float.ofNat, OfScientific.ofScientific, Float.ofScientific, dif_pos (And.intro hn (Nat.zero_le 22)),
    Bool.false_eq_true, if_false]
  show Float.Model.ofUInt64 n.toUInt64 * _ = _
  rw [Float.Model.ofUInt64, UnpackedFloat.ofUInt64, hsmall]
  rfl

theorem unpack_ofNat_of_lt {n : Nat} (h0 : 0 < n) (hn : n < 2 ^ 53) :
    (Float.ofNat n).toModel.unpack =
      .finite .positive (n <<< (52 - n.log2)) (n.log2 - 52) (normal_shiftLeft h0 hn).pos := by
  have h := normal_shiftLeft h0 hn
  rw [toModel_ofNat_of_lt hn]
  show (Float.Model.pack (UnpackedFloat.mul Format.binary64
    (Float.Model.pack (UnpackedFloat.ofNat Format.binary64 n)).unpack
    (Float.ofBits 0x3FF0000000000000).toModel.unpack)).unpack = _
  rw [ofNat_unpacked h0 hn, unpack_pack_model_normal _ h, unpack_one]
  have hexp : (n.log2 - 52 : Int) + -52 = (n.log2 - 52 : Int) - (52 : Nat) := by omega
  simp only [UnpackedFloat.mul, hexp, roundWithAccuracy_normal _ h 52]
  exact unpack_pack_model_normal _ h

/-- At `2^53` the conversion takes the slow path through the decimal model,
and still lands exactly. -/
theorem unpack_ofNat_two_pow_53 :
    (Float.ofNat (2 ^ 53)).toModel.unpack = .finite .positive (2 ^ 52) 1 (by decide) :=
  rfl

/-- Every natural number from `1` to `2^53` converts to a normal double `m · 2^e`
whose value is exactly the number. -/
theorem unpack_ofNat {n : Nat} (h0 : 0 < n) (hn : n ≤ 2 ^ 53) :
    ∃ m e, ∃ h : Normal m e, (Float.ofNat n).toModel.unpack = .finite .positive m e h.pos ∧
      n * 2 ^ 52 = m * 2 ^ (e + 52).toNat := by
  rcases Nat.lt_or_ge n (2 ^ 53) with hlt | hge
  · refine ⟨_, _, normal_shiftLeft h0 hlt, unpack_ofNat_of_lt h0 hlt, ?_⟩
    have hL : n.log2 < 53 := (Nat.log2_lt (Nat.ne_of_gt h0)).2 hlt
    have he : ((n.log2 : Int) - 52 + 52).toNat = n.log2 := by omega
    rw [he, Nat.shiftLeft_eq, Nat.mul_assoc, ← Nat.pow_add]
    congr 2
    omega
  · obtain rfl : n = 2 ^ 53 := by omega
    have h : Normal (2 ^ 52) 1 := ⟨Nat.log2_two_pow, by decide, by decide⟩
    exact ⟨2 ^ 52, 1, h, unpack_ofNat_two_pow_53, rfl⟩

/-- Every nonzero integer of magnitude at most `2^53` converts to a normal
double with its sign whose magnitude is exactly the integer's. -/
theorem unpack_ofInt {a : Int} (h0 : a ≠ 0) (ha : a.natAbs ≤ 2 ^ 53) :
    ∃ m e, ∃ h : Normal m e, (Float.ofInt a).toModel.unpack =
      .finite (if a < 0 then .negative else .positive) m e h.pos ∧
      a.natAbs * 2 ^ 52 = m * 2 ^ (e + 52).toNat := by
  cases a with
  | ofNat n =>
    have hn : 0 < n := by
      simp at h0
      omega
    obtain ⟨m, e, h, hu, hv⟩ := unpack_ofNat hn (by simpa using ha)
    have hs : ¬ (Int.ofNat n < 0) := Int.not_lt.2 (Int.natCast_nonneg n)
    exact ⟨m, e, h, by rw [if_neg hs]; exact hu, hv⟩
  | negSucc n =>
    obtain ⟨m, e, h, hu, hv⟩ := unpack_ofNat (n := n + 1) (by omega) (by simpa using ha)
    have hs : Int.negSucc n < 0 := Int.negSucc_lt_zero n
    refine ⟨m, e, h, ?_, hv⟩
    show (Float.Model.pack (Float.ofNat (n + 1)).toModel.unpack.neg).unpack = _
    rw [hu, if_pos hs]
    exact unpack_pack_model_normal _ h

/-! ### Comparing converted integers -/

theorem finite_beq_finite_iff {s s' : Sign} {m m' : Nat} {e e' : Int} (h : 0 < m) (h' : 0 < m') :
    (UnpackedFloat.finite s m e h).beq (.finite s' m' e' h') = true ↔ s = s' ∧ m = m' ∧ e = e' := by
  cases s <;> cases s' <;>
    simp [UnpackedFloat.beq, UnpackedFloat.compare, Ordering.then_eq_eq, Ordering.swap_eq_eq, and_comm]

theorem zero_beq_finite (s s' : Sign) {m : Nat} {e : Int} (h : 0 < m) :
    (UnpackedFloat.zero s).beq (.finite s' m e h) = false := by
  cases s' <;> rfl

theorem finite_beq_zero (s s' : Sign) {m : Nat} {e : Int} (h : 0 < m) :
    (UnpackedFloat.finite s m e h).beq (.zero s') = false := by
  cases s <;> rfl

theorem sign_eq_sign_iff {a b : Int} :
    ((if a < 0 then Sign.negative else .positive) = if b < 0 then .negative else .positive) ↔
      (a < 0 ↔ b < 0) := by
  by_cases ha : a < 0 <;> by_cases hb : b < 0 <;> simp [ha, hb]

theorem beq_eq_unpack_beq (x y : Float) : (x == y) = x.toModel.unpack.beq y.toModel.unpack := rfl

/-- Integers of magnitude at most `2^53` are equal as doubles exactly when
they are equal. -/
theorem ofInt_beq_ofInt_iff {a b : Int} (ha : a.natAbs ≤ 2 ^ 53) (hb : b.natAbs ≤ 2 ^ 53) :
    (Float.ofInt a == Float.ofInt b) = true ↔ a = b := by
  rw [beq_eq_unpack_beq]
  have hzero : (Float.ofInt 0).toModel.unpack = .zero .positive := rfl
  by_cases ha0 : a = 0 <;> by_cases hb0 : b = 0
  · subst ha0 hb0
    exact ⟨fun _ => rfl, fun _ => rfl⟩
  · obtain ⟨m, e, h, hu, -⟩ := unpack_ofInt hb0 hb
    subst ha0
    rw [hu, hzero, zero_beq_finite]
    exact ⟨Bool.noConfusion, fun hab => absurd hab.symm hb0⟩
  · obtain ⟨m, e, h, hu, -⟩ := unpack_ofInt ha0 ha
    subst hb0
    rw [hu, hzero, finite_beq_zero]
    exact ⟨Bool.noConfusion, fun hab => absurd hab ha0⟩
  · obtain ⟨m, e, h, hua, hva⟩ := unpack_ofInt ha0 ha
    obtain ⟨m', e', h', hub, hvb⟩ := unpack_ofInt hb0 hb
    rw [hua, hub, finite_beq_finite_iff, sign_eq_sign_iff]
    constructor
    · rintro ⟨hs, rfl, rfl⟩
      -- equal mantissas and exponents give equal magnitudes, the signs do the rest
      have habs : a.natAbs = b.natAbs := Nat.eq_of_mul_eq_mul_right (Nat.two_pow_pos 52) (hva.trans hvb.symm)
      rcases Int.natAbs_eq_natAbs_iff.1 habs with hab | hab
      · exact hab
      · omega
    · rintro rfl
      rw [hua] at hub
      cases hub
      exact ⟨Iff.rfl, rfl, rfl⟩

end MudClient.Number
