/-
# Numeric filter entries

A filter compares numbers of any kinds by their values as doubles
(`fieldEquals`).  That is exact whenever both values are doubles exactly:
an integer within `2^53` of zero, or a double or single-precision value,
which the host holds as a double.  An entry asking for such a number passes
exactly on the events whose field holds the same number
(`numeric_entry_admits_iff`); a NaN stands for no number and matches
nothing, and the two zeros are one number.

The number a double stands for is read off its parts (`Number.amount?`):
a rational `± m · 2^e`, or an infinity.  Doubles are equal exactly when they
stand for one number (`Number.beq_iff_amount?`), because a finite double's
mantissa and exponent are fixed by its value (`mantissa_eq_of_value`); and
an integer within `2^53` of zero converts to a double standing for itself
(`Number.amount?_ofInt`).

Beyond that bound two integers can meet in one double.  `2^53 + 1` is not a
double and converts to `2^53`, so an entry asking for the one passes on an
event holding the other (`integer_entry_admits_neighbour`).
-/
import MudClient.Event.Filter
import MudClient.Proofs.Number.Integers

namespace MudClient.Number

open Float.Model Float.Model.UnpackedFloat

/-- A number: a rational, or an infinity. -/
inductive Amount where
  | finite (q : ℚ)
  | infinite (negative : Bool)
deriving DecidableEq

/-- The number a double stands for, read off its parts; a NaN stands for
none. -/
def amount? (x : Float) : Option Amount :=
  match parts x with
  | .finite negative m e => some (.finite ((if negative then -1 else 1) * ((m : ℚ) * 2 ^ e)))
  | .inf negative => some (.infinite negative)
  | .nan => none

def amountOf : UnpackedFloat → Option Amount
  | .zero _ => some (.finite 0)
  | .finite s m e _ => some (.finite ((if s == .negative then -1 else 1) * ((m : ℚ) * 2 ^ e)))
  | .infinity s => some (.infinite (s == .negative))
  | .notANumber => none

theorem amount?_eq (x : Float) : amount? x = amountOf x.toModel.unpack := by
  unfold amount?
  rw [parts_eq_ofUnpacked]
  cases x.toModel.unpack with
  | zero s => simp [Parts.ofUnpacked, amountOf]
  | finite s m e h => cases s <;> simp [Parts.ofUnpacked, amountOf]
  | infinity s => rfl
  | notANumber => rfl

theorem mantissa_eq_shift {m m' : Nat} {e e' : Int} (hlt : e < e') (h : (m : ℚ) * 2 ^ e = m' * 2 ^ e') :
    m = m' * 2 ^ (e' - e).toNat := by
  have hk : e' = e + ((e' - e).toNat : Int) := by omega
  rw [hk, zpow_add₀ two_ne_zero, zpow_natCast] at h
  have h2 : (2 : ℚ) ^ e ≠ 0 := zpow_ne_zero _ two_ne_zero
  have hq : (m : ℚ) = m' * 2 ^ (e' - e).toNat := mul_right_cancel₀ h2 (by rw [h]; ring)
  exact_mod_cast hq

/-- The mantissa and exponent of a finite double: a subnormal mantissa at
the least exponent, or a 53-bit one at that exponent or above. -/
def Canonical (m : Nat) (e : Int) : Prop :=
  (m < 2 ^ 52 ∧ e = -1074) ∨ (2 ^ 52 ≤ m ∧ m < 2 ^ 53 ∧ -1074 ≤ e)

theorem canonical_of_parts {x : Float} {negative : Bool} {m : Nat} {e : Int}
    (h : parts x = .finite negative m e) : Canonical m e := by
  have hfrac : (x.toBits &&& 0xFFFFFFFFFFFFF).toNat < 2 ^ 52 := by
    rw [UInt64.toNat_and]
    exact Nat.and_lt_two_pow _ (by decide)
  simp only [parts] at h
  split_ifs at h with h₁ h₂
  · injection h with _ hm he
    subst hm he
    exact .inl ⟨hfrac, rfl⟩
  · -- a normal double: the exponent field is at least one
    injection h with _ hm he
    subst hm he
    have : Nat.pow 2 52 = 2 ^ 52 := rfl
    right
    omega

theorem mantissa_eq_of_value {m m' : Nat} {e e' : Int} (hm : 0 < m) (hm' : 0 < m')
    (hc : Canonical m e) (hc' : Canonical m' e') (h : (m : ℚ) * 2 ^ e = m' * 2 ^ e') : m = m' ∧ e = e' := by
  -- a larger exponent is a normal one, whose mantissa shifted up passes 53 bits
  have hfar : ∀ {m m' : Nat} {e e' : Int}, 0 < m' → Canonical m e → Canonical m' e' → e < e' →
      (m : ℚ) * 2 ^ e = m' * 2 ^ e' → False := by
    intro m m' e e' hm' hc hc' hlt h
    have hshift := mantissa_eq_shift hlt h
    have hnorm : 2 ^ 52 ≤ m' := by
      rcases hc' with ⟨-, rfl⟩ | ⟨h52, -⟩
      · rcases hc with ⟨-, rfl⟩ | ⟨-, -, he⟩ <;> omega
      · exact h52
    have hpow : 2 ≤ 2 ^ (e' - e).toNat :=
      calc 2 = 2 ^ 1 := rfl
        _ ≤ 2 ^ (e' - e).toNat := Nat.pow_le_pow_right (by omega) (by omega)
    have hsmall : m < 2 ^ 53 := by rcases hc with ⟨h, -⟩ | ⟨-, h, -⟩ <;> omega
    have : 2 ^ 52 * 2 ≤ m' * 2 ^ (e' - e).toNat := Nat.mul_le_mul hnorm hpow
    omega
  rcases lt_trichotomy e e' with hlt | rfl | hgt
  · exact (hfar hm' hc hc' hlt h).elim
  · have h2 : (2 : ℚ) ^ e ≠ 0 := zpow_ne_zero _ two_ne_zero
    exact ⟨by exact_mod_cast mul_right_cancel₀ h2 h, rfl⟩
  · exact (hfar hm hc' hc hgt h.symm).elim

theorem beq_iff_amount? (x y : Float) : (x == y) = true ↔ ∃ n, amount? x = some n ∧ amount? y = some n := by
  have hc : ∀ z : Float, ∀ s m e h, z.toModel.unpack = .finite s m e h → Canonical m e :=
    fun z s m e h hu => @canonical_of_parts z (s == .negative) m e (by rw [parts_eq_ofUnpacked, hu]; rfl)
  have cx := hc x
  have cy := hc y
  rw [beq_eq_unpack_beq, amount?_eq, amount?_eq]
  generalize x.toModel.unpack = u at cx
  generalize y.toModel.unpack = v at cy
  constructor
  · -- equal doubles are one unpacked double, not a NaN, or two zeros
    intro h
    rcases eq_or_zeros_of_beq h with rfl | ⟨s, s', rfl, rfl⟩
    · cases hu : amountOf u with
      | some n => exact ⟨n, rfl, rfl⟩
      | none =>
        cases u with
        | notANumber => cases h
        | _ => simp [amountOf] at hu
    · exact ⟨.finite 0, rfl, rfl⟩
  · rintro ⟨n, hu, hv⟩
    have huv := hu.trans hv.symm
    cases u with
    | notANumber => cases hu
    | zero s =>
      cases v with
      | zero s' => cases s <;> cases s' <;> rfl
      | finite s' m e hm =>
        -- zero is no nonzero multiple of a power of two
        have h2 : (2 : ℚ) ^ e ≠ 0 := zpow_ne_zero _ two_ne_zero
        cases s' <;> simp [amountOf, hm.ne', h2] at huv
      | infinity s' => simp [amountOf] at huv
      | notANumber => cases hv
    | finite s m e hm =>
      have hp : (0 : ℚ) < m * 2 ^ e := by positivity
      cases v with
      | zero s' =>
        have h2 : (2 : ℚ) ^ e ≠ 0 := zpow_ne_zero _ two_ne_zero
        cases s <;> simp [amountOf, hm.ne', h2] at huv
      | finite s' m' e' hm' =>
        have hp' : (0 : ℚ) < m' * 2 ^ e' := by positivity
        -- the signs agree, and then the values fix mantissa and exponent
        have hval : s = s' ∧ (m : ℚ) * 2 ^ e = m' * 2 ^ e' := by
          cases s <;> cases s' <;> simp [amountOf] at huv
          all_goals first | exact ⟨rfl, huv⟩ | exact ⟨rfl, by linarith⟩ | linarith
        obtain ⟨hs, hq⟩ := hval
        obtain ⟨hmm, hee⟩ := mantissa_eq_of_value hm hm' (cx s m e hm rfl) (cy s' m' e' hm' rfl) hq
        exact (finite_beq_finite_iff hm hm').2 ⟨hs, hmm, hee⟩
      | infinity s' => simp [amountOf] at huv
      | notANumber => cases hv
    | infinity s =>
      cases v with
      | infinity s' => cases s <;> cases s' <;> simp [amountOf] at huv <;> rfl
      | zero s' => simp [amountOf] at huv
      | finite s' m e hm => simp [amountOf] at huv
      | notANumber => cases hv

/-- An integer within `2^53` of zero converts to a double standing for
itself. -/
theorem amount?_ofInt {a : Int} (ha : a.natAbs ≤ 2 ^ 53) : amount? (Float.ofInt a) = some (.finite a) := by
  rw [amount?_eq]
  by_cases h0 : a = 0
  · subst h0
    rfl
  by_cases h1 : a.natAbs = 1
  · -- `±1` is `2^52 · 2^-52`
    obtain rfl | rfl : a = 1 ∨ a = -1 := by omega
    · have hu : (Float.ofInt 1).toModel.unpack = .finite .positive (2 ^ 52) (-52) (by decide) := rfl
      rw [hu]
      norm_num [amountOf]
      exact fun h => by cases h
    · have hu : (Float.ofInt (-1)).toModel.unpack = .finite .negative (2 ^ 52) (-52) (by decide) := rfl
      rw [hu]
      norm_num [amountOf]
  · -- from `2` on the exponent is at least `-51`, so the value is `m · 2^e` exactly
    obtain ⟨m, e, hn, hu, hv⟩ := unpack_ofInt h0 ha
    have hm : m < 2 ^ 53 := by
      have := Nat.lt_log2_self (n := m)
      rw [hn.log2_eq] at this
      exact this
    have he : 1 ≤ e + 52 := by
      by_contra he
      rw [show (e + 52).toNat = 0 by omega, Nat.pow_zero, Nat.mul_one] at hv
      omega
    obtain ⟨t, ht⟩ : ∃ t : Nat, e + 52 = t := ⟨(e + 52).toNat, by omega⟩
    rw [ht, Int.toNat_natCast] at hv
    have hmag : (m : ℚ) * 2 ^ e = a.natAbs := by
      have hq : (a.natAbs : ℚ) * 2 ^ 52 = m * 2 ^ t := by exact_mod_cast hv
      rw [show e = (t : Int) - 52 by omega, zpow_sub₀ two_ne_zero, zpow_natCast]
      field_simp
      linarith
    rw [hu]
    obtain ⟨k, rfl | rfl⟩ : ∃ k : Nat, a = k ∨ a = -k := ⟨a.natAbs, Int.natAbs_eq a⟩
    · have hpos : ¬(k : Int) < 0 := by omega
      rw [Int.natAbs_natCast] at hmag
      simp [amountOf, hpos, hmag]
    · have hneg : -(k : Int) < 0 := by omega
      rw [Int.natAbs_neg, Int.natAbs_natCast] at hmag
      simp [amountOf, hmag]

end MudClient.Number

namespace MudClient

/-- The number a numeric value stands for: an integer's own value, or the
number its double stands for. -/
def Data.amount? : Data → Option Number.Amount
  | .int _ n => some (.finite n)
  | .float x | .float32 x => Number.amount? x
  | _ => none

/-- A number of some kind that a double holds exactly: an integer within
`2^53` of zero, or a double or single-precision value. -/
def Data.Exact : Data → Prop
  | .int _ n => n.natAbs ≤ 2 ^ 53
  | .float _ | .float32 _ => True
  | _ => False

theorem Data.amount?_number? {d : Data} (hd : d.Exact) :
    ∃ x, d.number? = some x ∧ Number.amount? x = d.amount? := by
  cases d with
  | int k n => exact ⟨_, rfl, Number.amount?_ofInt hd⟩
  | float x => exact ⟨x, rfl, rfl⟩
  | float32 x => exact ⟨x, rfl, rfl⟩
  | _ => exact hd.elim

end MudClient

namespace MudClient.Event

/-- Two numbers that doubles hold exactly are equal as field values exactly
when they stand for one number. -/
theorem fieldEquals_iff_amount? {got want : Data} (hg : got.Exact) (hw : want.Exact) :
    fieldEquals got want = true ↔ ∃ n, got.amount? = some n ∧ want.amount? = some n := by
  obtain ⟨x, hx, hxa⟩ := Data.amount?_number? hg
  obtain ⟨y, hy, hya⟩ := Data.amount?_number? hw
  simp only [fieldEquals, hx, hy]
  rw [Number.beq_iff_amount?, hxa, hya]

/-- An entry asking for a number that a double holds exactly, on a field
holding such a number, of any kinds, passes exactly when the two stand for
one number; the other entries of the filter are checked as before. -/
theorem numeric_entry_admits_iff (f : Filter) (e : Message) (name : String) {got want : Data}
    (he : e.field name = some got) (hg : got.Exact) (hw : want.Exact) :
    Filter.admits ((name, want) :: f) e = true ↔
      (∃ n, got.amount? = some n ∧ want.amount? = some n) ∧ Filter.admits f e = true := by
  simp only [Filter.admits, List.all_cons, he, Bool.and_eq_true, fieldEquals_iff_amount? hg hw]

def holding (n : Int) : Message :=
  { kind := Kind.custom, payload := some (.custom "t" [("n", .int .int64 n)]) }

theorem field_holding (n : Int) : (holding n).field "data.n" = some (.int .int64 n) := by
  have hs : ("data.n".startsWith "data.") = true := by decide +kernel
  have hd : ("data.n".drop 5).toString = "n" := by decide +kernel
  have ht : ("data.n" == "type") = false := by decide +kernel
  simp only [holding, Message.field, Payload.field, hs, hd, ht, Option.bind_some]
  simp

/-- A double entry for `2^53` on an event holding the 64-bit integer `2^53`. -/
theorem float_entry_admits_two_pow_53 :
    Filter.admits [("data.n", .float 9007199254740992.0)] (holding 9007199254740992) = true ↔
      (∃ n, (Data.int .int64 9007199254740992).amount? = some n ∧
        (Data.float 9007199254740992.0).amount? = some n) ∧
        Filter.admits [] (holding 9007199254740992) = true :=
  numeric_entry_admits_iff [] (holding 9007199254740992) "data.n" (field_holding _)
    (by norm_num [Data.Exact]) trivial

/-- An entry asking for `2^53 + 1` passes on an event holding `2^53`. -/
theorem integer_entry_admits_neighbour :
    Filter.admits [("data.n", .int .int64 9007199254740993)] (holding 9007199254740992) = true := by
  decide +kernel

end MudClient.Event
