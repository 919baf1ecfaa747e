/-
# Which tables are sequences

`toData` turns a table into a list when `sequenceLength` finds it a
sequence, and into a map otherwise.  This module says which tables those
are by their keys alone: a table whose keys are distinct has length `n > 0`
exactly when its keys are the integers `1 … n` (`Table.KeysAre`), and length
`0` when they are no such range (`sequence_detection_exact`): when it is
empty, has a hole, a key at zero or below, a key that is not a whole number
or not a number, or one past the 64-bit integers.

`sequenceLength` does not look for the integers `1 … n` themselves.  It asks
every key to convert to a 64-bit integer from `1` on and back to a double
equal to it, takes the largest of those integers, and compares it with the
number of entries.  The two meet through `Value.intKey?`: the round trip
holds of a key exactly when it is an integer exactly, distinct keys then
stand for distinct integers (`intKeys_nodup`), and `n` distinct integers from
`1` to `n` are all of them (`Table.keysAre_iff_perm`).

Nothing in `Table` itself keeps a key from being held twice, in the array
part and in the hash part, so distinct keys are the hypothesis, as they are
part of `Table.IsMap`.  Such a table that is a sequence of length `n` holds
an entry under each of `1 … n` (`getInt_mem_entries`), `n` being at most
`2^53`.

The other way, the table the conversion builds for a list sets each item
under its index in turn, in the array part below the array limit and in the
hash part from it on; at every length up to `2^53` it holds the items in
order and is a sequence of that length (`seqTable`, `entries_seqTable`,
`sequenceLength_seqTable`).
-/
import MudClient.Proofs.Number.Integers
import MudClient.Proofs.Lua.Tables

namespace MudClient.Lua

open MudClient.Number

def Value.intKey? : Value → Option Int
  | .num x => exactInt? x
  | _ => none

namespace Table

def KeysDistinct (t : Table) : Prop := t.entries.Pairwise fun a b => Value.rawEq a.1 b.1 = false

/-- The keys of a table are exactly the integers `1 … n`: each key stands for
one of them, and each of them is a key. -/
def KeysAre (t : Table) (n : Nat) : Prop :=
  (∀ e ∈ t.entries, ∃ j : Nat, 1 ≤ j ∧ j ≤ n ∧ e.1.intKey? = some (j : Int)) ∧
  ∀ j : Nat, 1 ≤ j → j ≤ n → ∃ e ∈ t.entries, e.1.intKey? = some (j : Int)

end Table

theorem intKey?_eq_some {v : Value} {j : Int} (h : v.intKey? = some j) :
    ∃ x, v = .num x ∧ exactInt? x = some j := by
  cases v with
  | num x => exact ⟨x, rfl, h⟩
  | _ => cases h

theorem intKeys_nodup {t : Table} (ht : t.KeysDistinct)
    (hpos : ∀ e ∈ t.entries, ∃ j : Nat, 0 < j ∧ e.1.intKey? = some (j : Int)) :
    (t.entries.map (·.1.intKey?)).Nodup := by
  rw [List.Nodup, List.pairwise_map]
  refine ht.imp_of_mem fun {a b} ha _ hab heq => ?_
  obtain ⟨j, hj, hja⟩ := hpos a ha
  obtain ⟨x, hx, hxj⟩ := intKey?_eq_some hja
  obtain ⟨y, hy, hyj⟩ := intKey?_eq_some (heq ▸ hja)
  -- two doubles that are exactly `j` are equal as keys
  rw [hx, hy] at hab
  have hxy : (x == y) = true := beq_of_exactInt? hxj hyj hj
  simp only [Value.rawEq, hxy] at hab
  cases hab

def rangeKeys (n : Nat) : List (Option Int) := (List.range' 1 n).map fun j : Nat => some (j : Int)

theorem rangeKeys_nodup (n : Nat) : (rangeKeys n).Nodup :=
  (List.nodup_range' ..).map fun a b h => by simpa using h

theorem mem_rangeKeys {n : Nat} {k : Option Int} : k ∈ rangeKeys n ↔ ∃ j : Nat, 1 ≤ j ∧ j ≤ n ∧ k = some (j : Int) := by
  simp only [rangeKeys, List.mem_map, List.mem_range'_1]
  constructor
  · rintro ⟨j, ⟨h1, h2⟩, rfl⟩
    exact ⟨j, h1, by omega, rfl⟩
  · rintro ⟨j, h1, h2, rfl⟩
    exact ⟨j, ⟨h1, by omega⟩, rfl⟩

theorem foldl_le {β : Type} {f : Nat → β → Nat} {n : Nat} :
    ∀ (l : List β) (init : Nat), init ≤ n → (∀ m k, m ≤ n → k ∈ l → f m k ≤ n) →
      l.foldl f init ≤ n
  | [], _, h, _ => h
  | k :: l, init, h, hf =>
    foldl_le l (f init k) (hf init k h List.mem_cons_self)
      fun m k' hm hk => hf m k' hm (List.mem_cons_of_mem k hk)

/-- A fold that never decreases, never passes `n` from below `n`, and reaches
`n` at some element of the list ends at `n`. -/
theorem foldl_eq_of_bounds {β : Type} {f : Nat → β → Nat} {l : List β} {n : Nat}
    (hup : ∀ m k, m ≤ n → k ∈ l → f m k ≤ n) (hmono : ∀ m k, m ≤ f m k) (g : β → Nat)
    (hg : ∀ m k, g k ≤ f m k) (htop : ∃ k ∈ l, g k = n) : l.foldl f 0 = n := by
  obtain ⟨k, hk, rfl⟩ := htop
  exact Nat.le_antisymm (foldl_le l 0 (Nat.zero_le _) hup) (le_foldl_of_mem hmono hg 0 hk)

/-- What `sequenceLength` asks of a table to find it a sequence of length
`n`: every key is a number that converts to a 64-bit integer from `1` to `n`
and back to a double equal to it, `n` is one of those integers, and there
are `n` entries. -/
theorem sequenceLength_of_check {t : Table} {n : Nat}
    (hkeys : ∀ e ∈ t.entries, ∃ x, e.1 = .num x ∧ (Float.ofInt (toInt64 x) == x) = true ∧
      1 ≤ toInt64 x ∧ toInt64 x ≤ n)
    (htop : ∃ e ∈ t.entries, seqIndex e.1 = n) (hlen : t.entries.length = n) :
    sequenceLength t = n := by
  have hkey : ∀ k ∈ t.entries.map (·.1), ∃ x, k = .num x ∧
      (Float.ofInt (toInt64 x) == x) = true ∧ 1 ≤ toInt64 x ∧ toInt64 x ≤ n := by
    intro k hk
    obtain ⟨e, he, rfl⟩ := List.mem_map.1 hk
    exact hkeys e he
  simp only [sequenceLength, hlen]
  -- the fold takes the greatest index of a key, which is `n`
  rw [foldl_eq_of_bounds (n := n) (fun m k hm hk => ?up) (fun m k => ?mono) seqIndex
    (fun m k => ?top) ?reach, if_pos]
  case up =>
    obtain ⟨x, rfl, -, -, hx⟩ := hkey k hk
    dsimp only
    omega
  case mono => cases k <;> simp
  case top => cases k <;> simp [seqIndex]
  case reach =>
    obtain ⟨e, he, hen⟩ := htop
    exact ⟨e.1, List.mem_map_of_mem he, hen⟩
  simp only [Bool.and_eq_true, List.all_eq_true, beq_self_eq_true, and_true]
  intro k hk
  obtain ⟨x, rfl, hb, h1, -⟩ := hkey k hk
  simp [hb, h1]


namespace Table

/-- The keys are exactly `1 … n` when the integers they stand for are
`1 … n` in some order. -/
theorem keysAre_iff_perm {t : Table} {n : Nat} (ht : t.KeysDistinct) :
    t.KeysAre n ↔ (t.entries.map (·.1.intKey?)).Perm (rangeKeys n) := by
  constructor
  · rintro ⟨hkeys, hcover⟩
    have hnd := intKeys_nodup ht fun e he => by
      obtain ⟨j, h1, -, hj⟩ := hkeys e he
      exact ⟨j, h1, hj⟩
    refine (List.perm_ext_iff_of_nodup hnd (rangeKeys_nodup n)).2 fun k => ⟨fun hk => ?_, fun hk => ?_⟩
    · obtain ⟨e, he, rfl⟩ := List.mem_map.1 hk
      exact mem_rangeKeys.2 (hkeys e he)
    · obtain ⟨j, h1, hj, rfl⟩ := mem_rangeKeys.1 hk
      obtain ⟨e, he, hek⟩ := hcover j h1 hj
      exact List.mem_map.2 ⟨e, he, hek⟩
  · intro hperm
    refine ⟨fun e he => mem_rangeKeys.1 (hperm.subset (List.mem_map_of_mem he)), fun j h1 hj => ?_⟩
    obtain ⟨e, he, hek⟩ := List.mem_map.1 (hperm.symm.subset (mem_rangeKeys.2 ⟨j, h1, hj, rfl⟩))
    exact ⟨e, he, hek⟩

theorem KeysAre.le_two_pow {t : Table} {n : Nat} (h : t.KeysAre n) : n ≤ 2 ^ 53 := by
  by_contra hn
  obtain ⟨e, -, he⟩ := h.2 (2 ^ 53 + 1) (by omega) (by omega)
  obtain ⟨x, -, hx⟩ := intKey?_eq_some he
  exact exactInt?_ne_two_pow_53_add_one x hx

end Table

/-- A table with distinct keys that `sequenceLength` finds a sequence has
exactly the keys `1 … sequenceLength t`. -/
theorem keysAre_of_sequenceLength {t : Table} (ht : t.KeysDistinct) (hn : 0 < sequenceLength t) :
    t.KeysAre (sequenceLength t) := by
  obtain ⟨hkeys, hlen⟩ := sequenceLength_spec hn
  -- each key stands for its index, from `1` to the length
  have hkey : ∀ e ∈ t.entries, ∃ j : Nat, 1 ≤ j ∧ j ≤ sequenceLength t ∧
      e.1.intKey? = some (j : Int) := by
    intro e he
    obtain ⟨x, hx, hb, h1, hle⟩ := hkeys e he
    have hj : ((seqIndex e.1 : Nat) : Int) = toInt64 x := by
      rw [hx, seqIndex]
      omega
    refine ⟨seqIndex e.1, by omega, hle, ?_⟩
    rw [hj, hx, Value.intKey?]
    exact exactInt?_of_roundTrip hb rfl h1
  have hnd := intKeys_nodup ht fun e he => by
    obtain ⟨j, h1, -, hj⟩ := hkey e he
    exact ⟨j, h1, hj⟩
  have hsub : t.entries.map (·.1.intKey?) ⊆ rangeKeys (sequenceLength t) := by
    intro k hk
    obtain ⟨e, he, rfl⟩ := List.mem_map.1 hk
    exact mem_rangeKeys.2 (hkey e he)
  -- as many distinct indices as entries fill `1 … n`
  refine (Table.keysAre_iff_perm ht).2 ((List.subperm_of_subset hnd hsub).perm_of_length_le ?_)
  simp [rangeKeys, hlen]

/-- A table whose keys are exactly `1 … n`, for some `n > 0`, is a sequence
of length `n`. -/
theorem sequenceLength_of_keysAre {t : Table} {n : Nat} (ht : t.KeysDistinct) (hn : 0 < n)
    (h : t.KeysAre n) : sequenceLength t = n := by
  have hbig := h.le_two_pow
  refine sequenceLength_of_check (fun e he => ?_) ?_ ?_
  · obtain ⟨j, h1, hj, hk⟩ := h.1 e he
    obtain ⟨x, hx, hxj⟩ := intKey?_eq_some hk
    have h64 : toInt64 x = j := toInt64_of_exactInt? hxj (by omega)
    refine ⟨x, hx, ?_, by omega, by omega⟩
    rw [h64, ofInt_natCast]
    exact ofNat_beq_of_exactInt? hxj h1 (by omega)
  · obtain ⟨e, he, hk⟩ := h.2 n hn le_rfl
    obtain ⟨x, hx, hxn⟩ := intKey?_eq_some hk
    refine ⟨e, he, ?_⟩
    rw [hx, seqIndex, toInt64_of_exactInt? hxn (by omega)]
    rfl
  · simpa [rangeKeys] using ((Table.keysAre_iff_perm ht).1 h).length_eq

/-- In a table that behaves as a finite map, a sequence of length `n` holds
an entry at each of the integer keys `1 … n`: the key that is `j` exactly
is `j`'s own double, since `n` is at most `2^53`. -/
theorem getInt_mem_entries {t : Table} (ht : t.IsMap) {i : Nat} (hi : i < sequenceLength t) :
    ∃ e ∈ t.entries, t.getInt ((i : Int) + 1) = e.2 := by
  have hk := keysAre_of_sequenceLength ht.keys_distinct (Nat.lt_of_le_of_lt (Nat.zero_le i) hi)
  have hbound := hk.le_two_pow
  obtain ⟨e, he, hek⟩ := hk.2 (i + 1) (by omega) (by omega)
  obtain ⟨x, hx, hxj⟩ := intKey?_eq_some hek
  have hxe : x = Float.ofNat (i + 1) := eq_ofNat_of_exactInt? hxj (by omega) (by omega)
  refine ⟨e, he, ?_⟩
  rw [← ht.get_entry e he, hx, hxe]
  rfl

/-! ## The table of a list

The conversion builds a list's table with room for its items and sets each
item under its integer key in turn.  Keys below the array limit fill the
array part in order; each later key is new to the hash part and goes to its
end (`SeqSpec`, `seqSpec_fill`).  So for every length up to `2^53`, past the
array limit too, the table holds the items at `1 … n` in order
(`entries_seqTable`, `getInt_seqTable`), behaves as a finite map
(`seqTable_isMap`) and is a sequence of its own length
(`sequenceLength_seqTable`). -/

def seqTable (vs : Array Value) : Table :=
  (vs.toList.zipIdx 1).foldl (fun t (v, i) => t.setInt i v) { hasArray := !vs.isEmpty, cap := vs.size }

def seqKey (j : Nat) : Key := .num (Float.ofNat j).toBits

theorem seqKey_inj {i j : Nat} (hi : 0 < i) (hi' : i ≤ 2 ^ 53) (hj : 0 < j) (hj' : j ≤ 2 ^ 53)
    (h : seqKey i = seqKey j) : i = j := by
  have hf : Float.ofNat i = Float.ofNat j := Float.toBits_inj.1 (Key.num.inj h)
  have he := exactInt?_ofNat hi hi'
  rw [hf, exactInt?_ofNat hj hj', Option.some.injEq] at he
  omega

theorem ofValue?_ofNat {j : Nat} (h0 : 0 < j) (hj : j ≤ 2 ^ 53) :
    Key.ofValue? (.num (Float.ofNat j)) = some (seqKey j) := by
  simp only [Key.ofValue?, isNaN_ofNat h0 hj, ofNat_beq_zero h0 hj, seqKey]
  rfl

theorem arrayIndex?_ofNat_of_le {j : Nat} (hL : arrayLimit ≤ j) (hj : j ≤ 2 ^ 53) :
    arrayIndex? (Float.ofNat j) = none := by
  have hlt : ¬Float.ofNat j < Float.ofNat arrayLimit := fun h =>
    absurd (lt_of_ofNat_lt_ofNat (by unfold arrayLimit at hL; omega) hj (by decide) (by decide) h) (by omega)
  simp [arrayIndex?, hlt]

namespace Table

variable {t : Table} {v : Value}

@[simp] theorem setIndex_keys (i : Nat) : (t.setIndex i v).keys = t.keys := by
  simp only [setIndex]
  split <;> rfl

@[simp] theorem setIndex_slot (i : Nat) : (t.setIndex i v).slot = t.slot := by
  simp only [setIndex]
  split <;> rfl

@[simp] theorem setIndex_vals (i : Nat) : (t.setIndex i v).vals = t.vals := by
  simp only [setIndex]
  split <;> rfl

theorem setIndex_arr_succ (h : t.arr.size = n) : (t.setIndex (n + 1) v).arr = t.arr.push v := by
  simp [setIndex, h]

end Table

/-- What setting the items of `p` under `1 … |p|` in turn leaves: the items
below the array limit in the array part, and the rest under new hash keys,
in order. -/
structure SeqSpec (t : Table) (p : List Value) : Prop where
  arr : t.arr.toList = p.take (arrayLimit - 1)
  keys : t.keys.toList = ((p.drop (arrayLimit - 1)).zipIdx (arrayLimit - 1)).map fun q => seqKey (q.2 + 1)
  slot : ∀ k, t.slot.contains k = true → k ∈ t.keys.toList
  vals : ∀ q ∈ (p.drop (arrayLimit - 1)).zipIdx (arrayLimit - 1), t.vals.get? (seqKey (q.2 + 1)) = some q.1

theorem arrayLimit_pos : 0 < arrayLimit := by decide

/-- Setting the next item keeps `SeqSpec`: below the array limit it is
appended to the array part, from the limit on it is a new hash key. -/
theorem SeqSpec.setInt {t : Table} {p : List Value} (hs : SeqSpec t p) {v : Value} (hv : v.isNil = false)
    (hlen : p.length + 1 ≤ 2 ^ 53) : SeqSpec (t.setInt ((p.length + 1 : Nat) : Int) v) (p ++ [v]) := by
  have hL := arrayLimit_pos
  have hset : t.setInt ((p.length + 1 : Nat) : Int) v = t.set (.num (Float.ofNat (p.length + 1))) v := rfl
  rw [hset]
  by_cases hlt : p.length + 1 < arrayLimit
  · -- an array index, just past the items so far; the hash part stays empty
    have hsize : t.arr.size = p.length := by
      have := congrArg List.length hs.arr
      simp only [Array.length_toList, List.length_take] at this
      omega
    have hput : t.set (.num (Float.ofNat (p.length + 1))) v = t.setIndex (p.length + 1) v := by
      simp only [Table.set, arrayIndex?_ofNat (Nat.succ_pos _) hlt]
    have hdrop : p.drop (arrayLimit - 1) = [] := List.drop_eq_nil_of_le (by omega)
    have hdrop' : (p ++ [v]).drop (arrayLimit - 1) = [] := List.drop_eq_nil_of_le (by simp; omega)
    rw [hput]
    refine ⟨?_, ?_, ?_, ?_⟩
    · rw [Table.setIndex_arr_succ hsize, Array.toList_push, hs.arr,
        List.take_of_length_le (by omega), List.take_of_length_le (by simp; omega)]
    · rw [Table.setIndex_keys, hs.keys, hdrop, hdrop']
    · simpa using hs.slot
    · intro q hq
      rw [hdrop'] at hq
      cases hq
  · -- a new hash key, after those so far
    have hput : t.set (.num (Float.ofNat (p.length + 1))) v = t.setKey (seqKey (p.length + 1)) v := by
      simp only [Table.set, arrayIndex?_ofNat_of_le (j := p.length + 1) (by omega) hlen,
        ofValue?_ofNat (Nat.succ_pos _) hlen]
    have hzip : ((p ++ [v]).drop (arrayLimit - 1)).zipIdx (arrayLimit - 1) =
        (p.drop (arrayLimit - 1)).zipIdx (arrayLimit - 1) ++ [(v, p.length)] := by
      rw [List.drop_append_of_le_length (by omega), List.zipIdx_append, List.zipIdx_singleton,
        List.length_drop, show arrayLimit - 1 + (p.length - (arrayLimit - 1)) = p.length by omega]
    -- the keys so far are those of `1 … |p|`
    have hold : ∀ q ∈ (p.drop (arrayLimit - 1)).zipIdx (arrayLimit - 1), q.2 + 1 ≤ p.length := by
      rintro ⟨x, i⟩ hq
      have := (List.mem_zipIdx hq).2.1
      simp only [List.length_drop] at this
      omega
    have hnew : t.slot.contains (seqKey (p.length + 1)) = false := by
      rw [Bool.eq_false_iff]
      intro hc
      have hk := hs.slot _ hc
      rw [hs.keys] at hk
      obtain ⟨q, hq, hqk⟩ := List.mem_map.1 hk
      have := seqKey_inj (by omega) (by have := hold q hq; omega) (by omega) hlen hqk
      have := hold q hq
      omega
    rw [hput, setKey_of_isNil hv, hnew]
    simp only [Bool.false_eq_true, if_false]
    refine ⟨?_, ?_, ?_, ?_⟩
    · rw [hs.arr, List.take_append_of_le_length (by omega)]
    · rw [Array.toList_push, hs.keys, hzip, List.map_append]
      rfl
    · intro k hk
      rw [Std.HashMap.contains_insert] at hk
      rw [Array.toList_push, List.mem_append]
      rcases Bool.or_eq_true_iff.1 hk with h | h
      · exact .inr (by simpa using (beq_iff_eq.1 h).symm)
      · exact .inl (hs.slot k h)
    · intro q hq
      rw [hzip, List.mem_append, List.mem_singleton] at hq
      rw [Std.HashMap.get?_insert]
      rcases hq with hq | rfl
      · -- an earlier key keeps the item set under it
        have hne : (seqKey (p.length + 1) == seqKey (q.2 + 1)) = false := by
          rw [beq_eq_false_iff_ne]
          intro h
          have := seqKey_inj (by omega) hlen (by omega) (by have := hold q hq; omega) h
          have := hold q hq
          omega
        rw [hne]
        simp only [Bool.false_eq_true, if_false]
        exact hs.vals q hq
      · simp

/-- Setting the items of `p` in turn, from an empty table, leaves `SeqSpec`.
By induction on the items, the last one set last. -/
theorem seqSpec_fill (b : Bool) (n : Nat) :
    ∀ p : List Value, (∀ v ∈ p, v.isNil = false) → p.length ≤ 2 ^ 53 →
      SeqSpec ((p.zipIdx 1).foldl (fun t (v, i) => t.setInt i v) { hasArray := b, cap := n }) p := by
  intro p
  induction p using List.reverseRecOn with
  | nil => exact fun _ _ => ⟨rfl, rfl, fun k hk => by simp at hk, fun q hq => by simp at hq⟩
  | append_singleton p v ih =>
    intro hv hlen
    simp only [List.length_append, List.length_singleton] at hlen
    have hs := ih (fun w hw => hv w (List.mem_append_left _ hw)) (by omega)
    rw [List.zipIdx_append, List.foldl_append, List.zipIdx_singleton, List.foldl_cons, List.foldl_nil,
      show 1 + p.length = p.length + 1 by omega]
    exact hs.setInt (hv v (by simp)) hlen

section SeqTable

variable {vs : Array Value} (hv : ∀ v ∈ vs.toList, v.isNil = false) (hlen : vs.size ≤ 2 ^ 53)
include hv hlen

theorem seqTable_spec : SeqSpec (seqTable vs) vs.toList :=
  seqSpec_fill _ _ vs.toList hv (by simpa using hlen)

theorem getInt_seqTable {i : Nat} (hi : i < vs.size) : (seqTable vs).getInt ((i : Int) + 1) = vs[i] := by
  have hs := seqTable_spec hv hlen
  by_cases hlt : i + 1 < arrayLimit
  · -- in the array part
    rw [getInt_of_lt _ hlt, Array.getD_eq_getD_getElem?, ← Array.getElem?_toList, hs.arr,
      List.getElem?_take_of_lt (by omega), Array.getElem?_toList, Array.getElem?_eq_getElem hi]
    rfl
  · -- under its hash key
    have hkey : (seqTable vs).getInt ((i : Int) + 1) = (seqTable vs).getKey (seqKey (i + 1)) := by
      simp only [Table.getInt, ofInt_natCast_add_one, Table.get,
        arrayIndex?_ofNat_of_le (j := i + 1) (by omega) (by omega), ofValue?_ofNat (Nat.succ_pos i) (by omega)]
    have hmem : (vs[i], i) ∈ (vs.toList.drop (arrayLimit - 1)).zipIdx (arrayLimit - 1) := by
      rw [List.mem_zipIdx_iff_le_and_getElem?_sub, List.getElem?_drop,
        show arrayLimit - 1 + (i - (arrayLimit - 1)) = i by omega]
      simp [hi]
      omega
    rw [hkey, Table.getKey, Std.HashMap.getD_eq_getD_getElem?, ← Std.HashMap.get?_eq_getElem?,
      hs.vals _ hmem]
    rfl

theorem entries_seqTable :
    (seqTable vs).entries = vs.toList.zipIdx.map fun p => (Value.num (Float.ofNat (p.2 + 1)), p.1) := by
  have hs := seqTable_spec hv hlen
  let f : Value × Nat → Value × Value := fun p => (Value.num (Float.ofNat (p.2 + 1)), p.1)
  have harr : (seqTable vs).arr.toList.zipIdx.filterMap
      (fun (p : Value × Nat) => if p.1.isNil then none else some (Value.num (Float.ofNat (p.2 + 1)), p.1)) =
      (vs.toList.take (arrayLimit - 1)).zipIdx.map f := by
    rw [hs.arr, ← List.filterMap_eq_map]
    refine List.filterMap_congr fun q hq => ?_
    simp [f, hv q.1 (List.mem_of_mem_take (List.fst_mem_of_mem_zipIdx hq))]
  have hhash : (seqTable vs).keys.toList.filterMap (fun k => ((seqTable vs).vals.get? k).map fun v => (k.toValue, v)) =
      ((vs.toList.drop (arrayLimit - 1)).zipIdx (arrayLimit - 1)).map f := by
    rw [hs.keys, List.filterMap_map, ← List.filterMap_eq_map]
    refine List.filterMap_congr fun q hq => ?_
    simp only [Function.comp, hs.vals q hq, Option.map_some]
    simp only [f, seqKey, Key.toValue, Float.ofBits_toBits]
  -- the two parts meet at the array limit, or the hash part is empty
  have hsplit : vs.toList.zipIdx = (vs.toList.take (arrayLimit - 1)).zipIdx ++
      (vs.toList.drop (arrayLimit - 1)).zipIdx (arrayLimit - 1) := by
    by_cases hle : arrayLimit - 1 ≤ vs.toList.length
    · conv_lhs => rw [← List.take_append_drop (arrayLimit - 1) vs.toList]
      rw [List.zipIdx_append, List.length_take, Nat.min_eq_left hle, Nat.zero_add]
    · rw [List.drop_eq_nil_of_le (by omega), List.take_of_length_le (by omega)]
      simp
  simp only [Table.entries]
  rw [harr, hhash, hsplit, List.map_append]

theorem seqTable_isMap : (seqTable vs).IsMap where
  keys_distinct := by
    have hnd : (vs.toList.zipIdx.map (·.2)).Nodup := by
      rw [List.zipIdx_map_snd]
      exact List.nodup_range' ..
    rw [entries_seqTable hv hlen, List.pairwise_map]
    refine (List.pairwise_map.1 hnd).imp_of_mem fun {a b} ha hb hab => ?_
    obtain ⟨x, i⟩ := a
    obtain ⟨y, j⟩ := b
    have hi := (List.mem_zipIdx ha).2.1
    have hj := (List.mem_zipIdx hb).2.1
    simp only [Array.length_toList, Nat.zero_add] at hi hj hab
    -- distinct positions have keys that differ as numbers
    rw [Value.rawEq, Bool.eq_false_iff]
    intro h
    have hij := (ofInt_beq_ofInt_iff (a := ((i + 1 : Nat) : Int)) (b := ((j + 1 : Nat) : Int))
      (by simp; omega) (by simp; omega)).1 h
    omega
  nonNil := by
    intro e he
    rw [entries_seqTable hv hlen] at he
    obtain ⟨p, hp, rfl⟩ := List.mem_map.1 he
    exact hv p.1 (List.fst_mem_of_mem_zipIdx hp)
  get_entry := by
    intro e he
    rw [entries_seqTable hv hlen] at he
    obtain ⟨⟨x, i⟩, hp, rfl⟩ := List.mem_map.1 he
    obtain ⟨-, hi, hx⟩ := List.mem_zipIdx hp
    simp only [Array.length_toList, Nat.zero_add, Nat.sub_zero, Array.getElem_toList] at hi hx ⊢
    rw [hx]
    exact getInt_seqTable hv hlen hi

theorem sequenceLength_seqTable : sequenceLength (seqTable vs) = vs.size := by
  rcases Nat.eq_zero_or_pos vs.size with h0 | hpos
  · have he : (seqTable vs).entries = [] := by
      rw [entries_seqTable hv hlen, List.map_eq_nil_iff, List.zipIdx_eq_nil_iff, ← Array.toList_empty,
        ← Array.size_eq_zero_iff.1 h0]
    simp [sequenceLength, he, h0]
  · -- its keys are exactly `1 … n`
    refine sequenceLength_of_keysAre (seqTable_isMap hv hlen).keys_distinct hpos ⟨fun e he => ?_, fun j h1 hj => ?_⟩
    · rw [entries_seqTable hv hlen] at he
      obtain ⟨⟨x, i⟩, hp, rfl⟩ := List.mem_map.1 he
      have hi := (List.mem_zipIdx hp).2.1
      simp only [Array.length_toList, Nat.zero_add] at hi
      exact ⟨i + 1, by omega, by omega, exactInt?_ofNat (Nat.succ_pos i) (by omega)⟩
    · refine ⟨(Value.num (Float.ofNat j), vs[j - 1]), ?_, exactInt?_ofNat (by omega) (by omega)⟩
      rw [entries_seqTable hv hlen, List.mem_map]
      refine ⟨(vs[j - 1], j - 1), ?_, by simp only [Nat.sub_add_cancel h1]⟩
      rw [List.mem_zipIdx_iff_le_and_getElem?_sub]
      simp

end SeqTable

/-- For a table whose keys are distinct, `sequenceLength` is `n > 0` exactly
when the keys are the integers `1 … n`, and `0` exactly when they are no
such range: the table is empty, or has a hole, a key at zero or below, one
that is not a whole number or not a number, or one beyond the integers. -/
theorem sequence_detection_exact (t : Table) (ht : t.KeysDistinct) :
    (∀ n, 0 < n → (sequenceLength t = n ↔ t.KeysAre n)) ∧
      (sequenceLength t = 0 ↔ ∀ n, 0 < n → ¬ t.KeysAre n) := by
  refine ⟨fun n hn => ⟨fun h => ?_, sequenceLength_of_keysAre ht hn⟩, ⟨fun h0 n hn hk => ?_, fun h => ?_⟩⟩
  · subst h
    exact keysAre_of_sequenceLength ht hn
  · have := sequenceLength_of_keysAre ht hn hk
    omega
  · by_contra h0
    have hpos := Nat.pos_of_ne_zero h0
    exact h _ hpos (keysAre_of_sequenceLength ht hpos)

/-- The table of a two-item list has exactly the keys `1` and `2`. -/
theorem seqTable_pair_keys :
    (seqTable #[.bool true, .bool false]).KeysDistinct ∧ (seqTable #[.bool true, .bool false]).KeysAre 2 := by
  have hv : ∀ v ∈ (#[.bool true, .bool false] : Array Value).toList, v.isNil = false := by
    simp [Value.isNil]
  have ht := (seqTable_isMap hv (by decide)).keys_distinct
  exact ⟨ht, ((sequence_detection_exact _ ht).1 2 (by decide)).1 (sequenceLength_seqTable hv (by decide))⟩

end MudClient.Lua
