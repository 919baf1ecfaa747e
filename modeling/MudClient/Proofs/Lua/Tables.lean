/-
# The tables the conversions build and read

Host data enters scripts as tables built by `toValue` and leaves them through
`toData`, which decides by `sequenceLength` whether a table is a list.  This
module describes the maps on both sides; lists are the subject of
`MudClient.Proofs.Lua.Sequences`.

A map becomes `mapTable`, its entries set in turn under string keys: each
key appears once, in the order keys first came, holding the last value set
under it (`entries_mapTable`), and the table is no sequence
(`sequenceLength_mapTable`).  The entries are set after sorting by key, which
is stable, so the last value of each key survives the sort
(`reverse_lookup_mergeSort`).

On the reading side, what `sequenceLength` checks of a table it finds a
sequence is read off (`sequenceLength_spec`), and a table that behaves as a
finite map is `Table.IsMap`.
-/
import MudClient.Proofs.Number.Parts
import MudClient.Lua.Bridge

namespace MudClient.Lua

open MudClient.Number

instance : LawfulBEq Key where
  eq_of_beq h := of_decide_eq_true h
  rfl := decide_eq_true rfl

theorem arrayLimit_lt : arrayLimit < 2 ^ 53 := by decide

theorem arrayIndex?_ofNat {j : Nat} (h0 : 0 < j) (hj : j < arrayLimit) :
    arrayIndex? (Float.ofNat j) = some j := by
  have hj' : j < 2 ^ 53 := Nat.lt_trans hj arrayLimit_lt
  have hpos : decide (Float.ofNat j > 0) = true := decide_eq_true (zero_lt_ofNat h0 hj')
  have hlim : decide (Float.ofNat j < Float.ofNat arrayLimit) = true :=
    decide_eq_true (ofNat_lt_ofNat h0 hj arrayLimit_lt)
  simp only [arrayIndex?, isIntegral_ofNat h0 hj', hpos, hlim, Bool.and_self, if_true,
    truncInt?_ofNat h0 hj', Int.toNat_natCast]

theorem getInt_of_lt (t : Table) {i : Nat} (hi : i + 1 < arrayLimit) :
    t.getInt ((i : Int) + 1) = t.arr.getD i .nil := by
  simp only [Table.getInt, Table.get, ofInt_natCast_add_one, arrayIndex?_ofNat (Nat.succ_pos i) hi]
  rfl

/-! ### The table of a map -/

/-- The table the conversion builds for a map: each entry set in turn
under its string key, so a later entry with a key overrides an earlier one. -/
def mapTable (kvs : List (Bytes × Value)) : Table :=
  (kvs.map fun (k, v) => (Value.str k, v)).foldl (fun t (k, v) => t.set k v) {}

theorem setKey_of_isNil {t : Table} {k : Key} {v : Value} (hv : v.isNil = false) :
    t.setKey k v = if t.slot.contains k then { t with vals := t.vals.insert k v }
      else { t with vals := t.vals.insert k v, slot := t.slot.insert k t.keys.size,
                    keys := t.keys.push k } := by
  cases v <;> first | rfl | cases hv

theorem removeAll_singleton [BEq α] [LawfulBEq α] (a : α) (l : List α) :
    [a].removeAll l = if a ∈ l then [] else [a] := by
  by_cases h : a ∈ l <;> simp [List.removeAll, h]

/-- What setting string keys in turn leaves: the keys in the order they
first came, each holding the last value set under it. -/
structure MapTableSpec (t : Table) (kvs : List (Bytes × Value)) : Prop where
  arr : t.arr = #[]
  keys : t.keys.toList = (kvs.map (·.1)).eraseDups.map Key.str
  slot : ∀ s, t.slot.contains (.str s) = decide (s ∈ kvs.map (·.1))
  vals : ∀ s, t.vals.get? (.str s) = kvs.reverse.lookup s

theorem mapTable_spec {kvs : List (Bytes × Value)} (hv : ∀ p ∈ kvs, p.2.isNil = false) :
    MapTableSpec (mapTable kvs) kvs := by
  induction kvs using List.reverseRecOn with
  | nil => exact ⟨rfl, rfl, fun _ => by simp [mapTable], fun _ => by simp [mapTable]⟩
  | append_singleton kvs p ih =>
    obtain ⟨s, v⟩ := p
    have hv' : v.isNil = false := hv (s, v) (by simp)
    obtain ⟨harr, hkeys, hslot, hvals⟩ := ih fun q hq => hv q (by simp [hq])
    have hstep : mapTable (kvs ++ [(s, v)]) = (mapTable kvs).setKey (.str s) v := by
      simp only [mapTable, List.map_append, List.foldl_append]
      rfl
    -- the new value is the last one under its key, in both branches of `setKey`
    have hvals' (s' : Bytes) : ((mapTable kvs).vals.insert (.str s) v).get? (.str s') =
        (kvs ++ [(s, v)]).reverse.lookup s' := by
      rw [Std.HashMap.get?_insert, hvals, List.reverse_append, List.reverse_singleton,
        List.singleton_append, List.lookup_cons]
      by_cases h : s' = s
      · subst h
        simp
      · have hk : (Key.str s == Key.str s') = false := by simp [Ne.symm h]
        have hb : (s' == s) = false := by simp [h]
        simp only [hk, hb, Bool.false_eq_true, if_false]
    have hmem (s' : Bytes) : s' ∈ (kvs ++ [(s, v)]).map (·.1) ↔ s' ∈ kvs.map (·.1) ∨ s' = s := by
      simp
    rw [hstep, setKey_of_isNil hv', hslot]
    -- the key is new exactly when no earlier entry has it
    by_cases hs : s ∈ kvs.map (·.1)
    · simp only [hs, decide_true, if_true]
      refine ⟨harr, ?_, fun s' => ?_, hvals'⟩
      · simp [hkeys, List.eraseDups_append, removeAll_singleton, hs]
      · show (mapTable kvs).slot.contains (.str s') = _
        rw [hslot, decide_eq_decide, hmem]
        exact ⟨Or.inl, fun h => h.elim id fun h => h ▸ hs⟩
    · simp only [hs, decide_false, Bool.false_eq_true, if_false]
      refine ⟨harr, ?_, fun s' => ?_, hvals'⟩
      · simp [hkeys, List.eraseDups_append, removeAll_singleton, hs, List.eraseDups_cons]
      · show ((mapTable kvs).slot.insert (.str s) (mapTable kvs).keys.size).contains (.str s') = _
        simp only [Std.HashMap.contains_insert, hslot, hmem]
        by_cases h : s' = s
        · subst h
          simp
        · have hk : (Key.str s == Key.str s') = false := by simp [Ne.symm h]
          simp [hk, h]

theorem lookup_isSome_of_mem [BEq α] [LawfulBEq α] {l : List (α × β)} {k : α} (h : k ∈ l.map (·.1)) :
    (l.lookup k).isSome := by
  rw [List.lookup_isSome_iff]
  obtain ⟨p, hp, rfl⟩ := List.mem_map.1 h
  exact ⟨p, hp, by simp⟩

/-- The entries of the table of a map: each key once, in the order keys
first came, with the last value set under it. -/
theorem entries_mapTable {kvs : List (Bytes × Value)} (hv : ∀ p ∈ kvs, p.2.isNil = false) :
    (mapTable kvs).entries =
      (kvs.map (·.1)).eraseDups.map fun s => (Value.str s, (kvs.reverse.lookup s).getD .nil) := by
  obtain ⟨harr, hkeys, -, hvals⟩ := mapTable_spec hv
  simp only [Table.entries, harr, hkeys, List.toList_toArray, List.zipIdx_nil,
    List.filterMap_nil, List.nil_append, List.filterMap_map]
  refine (List.filterMap_congr fun s hs => ?_).trans (congrFun List.filterMap_eq_map _)
  have hs' : s ∈ (kvs.map (·.1)).reverse := by
    rw [List.mem_reverse]
    exact List.mem_eraseDups.1 hs
  obtain ⟨x, hx⟩ := Option.isSome_iff_exists.1 (lookup_isSome_of_mem (l := kvs.reverse) (by simpa using hs'))
  simp only [Function.comp, hvals, hx, Option.map_some, Option.getD_some]
  rfl

theorem foldl_keep (l : List Bytes) (f : Nat → Value → Nat) (hf : ∀ m s, f m (.str s) = m) :
    (l.map Value.str).foldl f 0 = 0 := by
  induction l using List.reverseRecOn with
  | nil => rfl
  | append_singleton l s ih => simp [List.foldl_append, ih, hf]

theorem sequenceLength_mapTable {kvs : List (Bytes × Value)} (hv : ∀ p ∈ kvs, p.2.isNil = false) :
    sequenceLength (mapTable kvs) = 0 := by
  have hkeys : (mapTable kvs).entries.map (·.1) = (kvs.map (·.1)).eraseDups.map Value.str := by
    rw [entries_mapTable hv, List.map_map]
    rfl
  simp only [sequenceLength, hkeys]
  rw [foldl_keep _ _ (fun _ _ => rfl)]
  simp

/-! ### Sorting map entries by key -/

theorem Bytes.lt_iff (a b : Bytes) : Bytes.lt a b = true ↔ a.data.toList < b.data.toList := by
  rw [Bytes.lt, beq_iff_eq, compareOfLessAndEq_eq_lt]

/-- Entries in the order the conversion sets them: `a` may come before `b`
when `b`'s key is not below `a`'s. -/
def keyLe (a b : Bytes × α) : Bool := !Bytes.lt b.1 a.1

theorem keyLe_iff (a b : Bytes × α) : keyLe a b = true ↔ a.1.data.toList ≤ b.1.data.toList := by
  rw [keyLe, Bool.not_eq_true', ← Bool.not_eq_true, Bytes.lt_iff]
  exact List.not_lt

theorem keyLe_trans (a b c : Bytes × α) (hab : keyLe a b = true) (hbc : keyLe b c = true) :
    keyLe a c = true := by
  rw [keyLe_iff] at *
  exact List.le_trans hab hbc

theorem keyLe_total (a b : Bytes × α) : (keyLe a b || keyLe b a) = true := by
  rw [Bool.or_eq_true, keyLe_iff, keyLe_iff]
  exact List.le_total _ _

theorem lookup_eq_head?_filter [BEq κ] [LawfulBEq κ] (l : List (κ × α)) (k : κ) :
    l.lookup k = (l.filter fun p => k == p.1).head?.map (·.2) := by
  induction l with
  | nil => rfl
  | cons p l ih =>
    obtain ⟨k', b⟩ := p
    by_cases h : k = k'
    · subst h
      simp
    · have hb : (k == k') = false := by simp [h]
      simp [List.lookup_cons, hb, ih]

/-- Sorting by key keeps the entries of each key in their order (merge sort
is stable), so the last entry of each key is the same before and after. -/
theorem reverse_lookup_mergeSort (l : List (Bytes × α)) (s : Bytes) :
    (l.mergeSort keyLe).reverse.lookup s = l.reverse.lookup s := by
  let p : Bytes × α → Bool := fun q => s == q.1
  have hc : (l.filter p).Pairwise fun a b => keyLe a b := by
    refine List.Pairwise.imp_of_mem ?_ (List.pairwise_of_forall fun _ _ => trivial)
    intro a b ha hb _
    have ha' : a.1 = s := (beq_iff_eq.1 (List.mem_filter.1 ha).2).symm
    have hb' : b.1 = s := (beq_iff_eq.1 (List.mem_filter.1 hb).2).symm
    rw [keyLe_iff, ha', hb']
    exact List.le_refl _
  have hsub : (l.filter p).Sublist ((l.mergeSort keyLe).filter p) := by
    have h := List.sublist_mergeSort keyLe_trans keyLe_total hc (List.filter_sublist (p := p))
    simpa [List.filter_filter] using h.filter p
  have hfilter : (l.mergeSort keyLe).filter p = l.filter p :=
    (hsub.eq_of_length (((List.mergeSort_perm l keyLe).filter p).length_eq.symm)).symm
  rw [lookup_eq_head?_filter, lookup_eq_head?_filter, List.filter_reverse, List.filter_reverse]
  change ((l.mergeSort keyLe).filter p).reverse.head?.map _ = ((l.filter p).reverse).head?.map _
  rw [hfilter]

/-! ### Tables that behave as finite maps -/

/-- A table behaves as a finite map from keys to non-nil values: no two
entries have raw-equal keys, every value is non-nil, and reading an entry's
key gives its value. -/
structure Table.IsMap (t : Table) : Prop where
  keys_distinct : t.entries.Pairwise fun a b => Value.rawEq a.1 b.1 = false
  nonNil : ∀ e ∈ t.entries, e.2.isNil = false
  get_entry : ∀ e ∈ t.entries, t.get e.1 = e.2

theorem le_foldl {f : Nat → β → Nat} (hf : ∀ m k, m ≤ f m k) :
    ∀ (l : List β) (init : Nat), init ≤ l.foldl f init
  | [], _ => Nat.le_refl _
  | k :: l, init => Nat.le_trans (hf init k) (le_foldl hf l (f init k))

theorem le_foldl_of_mem {f : Nat → β → Nat} {g : β → Nat} (hf : ∀ m k, m ≤ f m k)
    (hg : ∀ m k, g k ≤ f m k) : ∀ {l : List β} {k : β} (init : Nat), k ∈ l → g k ≤ l.foldl f init
  | k' :: l, k, init, hk => by
    rcases List.mem_cons.1 hk with rfl | hk
    · exact Nat.le_trans (hg init k) (le_foldl hf l _)
    · exact le_foldl_of_mem (l := l) hf hg (f init k') hk

def seqIndex : Value → Nat
  | .num x => (toInt64 x).toNat
  | _ => 0

/-- What `sequenceLength` checks of a table it finds to be a sequence: every
key is a whole number from `1` up to the length, and there are as many
entries as the length. -/
theorem sequenceLength_spec {t : Table} (h : 0 < sequenceLength t) :
    (∀ e ∈ t.entries, ∃ x, e.1 = .num x ∧ (Float.ofInt (toInt64 x) == x) = true ∧
      1 ≤ toInt64 x ∧ seqIndex e.1 ≤ sequenceLength t) ∧
    t.entries.length = sequenceLength t := by
  simp only [sequenceLength] at h ⊢
  split_ifs at h ⊢ with hc
  · simp only [Bool.and_eq_true, List.all_eq_true, beq_iff_eq] at hc
    obtain ⟨hall, hlen⟩ := hc
    refine ⟨fun e he => ?_, hlen⟩
    have hk := hall e.1 (List.mem_map_of_mem he)
    obtain ⟨k, v⟩ := e
    cases k with
    | num x =>
      simp only [Bool.and_eq_true, decide_eq_true_eq] at hk
      refine ⟨x, rfl, hk.1, hk.2, ?_⟩
      exact le_foldl_of_mem (g := seqIndex) (fun m k => by cases k <;> simp)
        (fun m k => by cases k <;> simp [seqIndex]) 0 (List.mem_map_of_mem he)
    | _ => cases hk
  · exact absurd h (Nat.lt_irrefl 0)

end MudClient.Lua