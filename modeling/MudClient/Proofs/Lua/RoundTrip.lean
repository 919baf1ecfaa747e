/-
# Host data survives a trip through a script

Data read from a script value (`toData`) can be built into a script value
again (`toValue`) and read back with nothing lost: `toData_toValue_toData`.
This holds of every plain script value (`Plain`): nil, booleans, numbers,
strings and tables of them, with no table inside itself and every table
behaving as a finite map.
Nothing is lost as the host reads data (`Data.Same`): a map is the map its
entries give, the last entry with a key winning, whatever their order.

The proof goes through the shape of the data reading gives (`Decoded`):
64-bit integers that a double holds exactly, doubles that are no such
integer, non-empty lists of at most `2^53` items and maps, without nulls
(`decoded_toDataIn`).
Building a value from such data never fails, and the value reads back as
the data in any world the build leads to, inside any tables the build did
not make (`toValue_rebuilt`): a list becomes the sequence of its items, a
map the table of its keys in sorted order holding each key's last value
(`rebuilt_list`, `rebuilt_map`).
-/
import MudClient.Proofs.Lua.Sequences

namespace MudClient

/-! ### Lists of pairs -/

theorem lookup_map_of_fst {κ α : Type} [BEq κ] [LawfulBEq κ] (l : List κ) (f : κ → κ × α)
    (hf : ∀ s, (f s).1 = s) (k : κ) :
    (l.map f).lookup k = if k ∈ l then some (f k).2 else none := by
  induction l with
  | nil => simp
  | cons s l ih =>
    have hs : f s = (s, (f s).2) := Prod.ext (hf s) rfl
    by_cases h : k = s
    · subst h
      rw [List.map_cons, hs]
      simp
    · have hb : (k == s) = false := by simp [h]
      rw [List.map_cons, hs, List.lookup_cons, hb]
      simp [ih, h]

theorem lookup_of_forall₂ {κ α β : Type} [BEq κ] [LawfulBEq κ] {Q : α → β → Prop}
    {l : List (κ × α)} {l' : List (κ × β)} (h : List.Forall₂ (fun p q => q.1 = p.1 ∧ Q p.2 q.2) l l')
    {k : κ} {a : α} (hk : l.lookup k = some a) : ∃ b, l'.lookup k = some b ∧ Q a b := by
  induction h with
  | nil => cases hk
  | @cons p q l l' hpq _ ih =>
    obtain ⟨k', x⟩ := p
    obtain ⟨k'', y⟩ := q
    obtain ⟨hk', hq⟩ := hpq
    simp only at hk' hq
    subst hk'
    by_cases hkk : k = k''
    · subst hkk
      simp only [List.lookup_cons_self, Option.some.injEq] at hk
      subst hk
      exact ⟨y, by simp, hq⟩
    · have hb : (k == k'') = false := by simp [hkk]
      rw [List.lookup_cons, hb] at hk ⊢
      exact ih hk

theorem forall₂_mem_right {α β : Type} {R : α → β → Prop} {l : List α} {l' : List β}
    (h : List.Forall₂ R l l') {b : β} (hb : b ∈ l') : ∃ a ∈ l, R a b := by
  induction h with
  | nil => cases hb
  | @cons a b' l l' hab _ ih =>
    rcases List.mem_cons.1 hb with rfl | hb
    · exact ⟨a, List.mem_cons_self .., hab⟩
    · obtain ⟨a', ha', hR⟩ := ih hb
      exact ⟨a', List.mem_cons_of_mem a ha', hR⟩

/-! ### Host data as the host reads it -/

/-- The value a host map holds under a key: its last entry with the key, as
assigning the entries in turn leaves it. -/
def Data.mapGet (entries : Array (Bytes × Data)) (k : Bytes) : Option Data :=
  entries.toList.reverse.lookup k

theorem Data.mapGet_map (l : List Bytes) (f : Bytes → Bytes × Data) (hf : ∀ s, (f s).1 = s)
    (k : Bytes) : Data.mapGet (l.map f).toArray k = if k ∈ l then some (f k).2 else none := by
  rw [Data.mapGet, List.toList_toArray, ← List.map_reverse, lookup_map_of_fst _ f hf]
  simp only [List.mem_reverse]

theorem Data.mapGet_isSome_iff (a : Array (Bytes × Data)) (k : Bytes) :
    (Data.mapGet a k).isSome ↔ k ∈ a.toList.map (·.1) := by
  rw [Data.mapGet, List.lookup_isSome_iff, List.mem_map]
  constructor
  · rintro ⟨p, hp, hk⟩
    exact ⟨p, List.mem_reverse.1 hp, (beq_iff_eq.1 hk).symm⟩
  · rintro ⟨p, hp, rfl⟩
    exact ⟨p, List.mem_reverse.2 hp, beq_self_eq_true _⟩

/-- Host data as the host reads it: lists item by item, maps as maps,
whatever the order and repetition of their entries, and all else as it is
(a double not a number equal to itself). -/
inductive Data.Same : Data → Data → Prop
  | refl (d : Data) : Same d d
  | list {xs ys : Array Data} (hsize : xs.size = ys.size)
      (hitem : ∀ i (hx : i < xs.size) (hy : i < ys.size), Same xs[i] ys[i]) : Same (.list xs) (.list ys)
  | map {a b : Array (Bytes × Data)} (hkeys : ∀ k, (mapGet a k).isSome = (mapGet b k).isSome)
      (hvals : ∀ k d e, mapGet a k = some d → mapGet b k = some e → Same d e) : Same (.map a) (.map b)

end MudClient

namespace MudClient.Lua

open MudClient.Number

variable {H σ : Type}

/-! ### Worlds that only grow -/

/-- A world extends another when its tables are the other's followed by
perhaps more: building values only allocates tables. -/
def Extends (w w' : World H σ) : Prop := w.tables.toList <+: w'.tables.toList

theorem Extends.refl (w : World H σ) : Extends w w := List.prefix_refl _

theorem Extends.trans {w₁ w₂ w₃ : World H σ} (h₁ : Extends w₁ w₂) (h₂ : Extends w₂ w₃) :
    Extends w₁ w₃ :=
  List.IsPrefix.trans h₁ h₂

theorem Extends.size_le {w w' : World H σ} (h : Extends w w') : w.tables.size ≤ w'.tables.size := by
  simpa using h.length_le

theorem Extends.getD {w w' : World H σ} (h : Extends w w') {r : Nat} (hr : r < w.tables.size) :
    w'.tables.getD r {} = w.tables.getD r {} := by
  obtain ⟨rest, hrest⟩ := h
  have hr' : r < w.tables.toList.length := by simpa using hr
  simp only [Array.getD_eq_getD_getElem?, ← Array.getElem?_toList, ← hrest,
    List.getElem?_append_left hr']

theorem extends_push (w : World H σ) (t : Table) : Extends w { w with tables := w.tables.push t } := by
  simp [Extends]

theorem getD_push (w : World H σ) (t : Table) :
    ({ w with tables := w.tables.push t } : World H σ).tables.getD w.tables.size {} = t := by
  simp

theorem run_bind_of_ok {α β : Type} {x : VM H σ α} {f : α → VM H σ β} {w w' : World H σ} {a : α}
    (h : x.run w = .ok a w') : (x >>= f).run w = (f a).run w' := by
  simp only [EStateM.run] at h ⊢
  simp only [bind, EStateM.bind, h]

theorem run_mapM {α β : Type} {f : α → VM H σ β} {P : α → World H σ → World H σ → β → Prop} :
    ∀ {l : List α} (w : World H σ),
      (∀ a ∈ l, ∀ w, ∃ b w', (f a).run w = .ok b w' ∧ Extends w w' ∧ P a w w' b) →
      ∃ bs w', (l.mapM f).run w = .ok bs w' ∧ Extends w w' ∧
        List.Forall₂ (fun a b => ∃ w₁ w₂, Extends w w₁ ∧ Extends w₂ w' ∧ P a w₁ w₂ b) l bs
  | [], w, _ => ⟨[], w, rfl, Extends.refl w, .nil⟩
  | a :: l, w, hf => by
    obtain ⟨b, w₁, hb, hw₁, hP⟩ := hf a (List.mem_cons_self ..) w
    obtain ⟨bs, w', hbs, hw', hall⟩ := run_mapM w₁ fun a' ha' => hf a' (List.mem_cons_of_mem a ha')
    refine ⟨b :: bs, w', ?_, hw₁.trans hw', .cons ⟨w, w₁, Extends.refl w, hw', hP⟩ ?_⟩
    · rw [List.mapM_cons, run_bind_of_ok hb, run_bind_of_ok hbs]
      rfl
    · exact hall.imp fun a' b' ⟨w₂, w₃, h₂, h₃, hP'⟩ => ⟨w₂, w₃, hw₁.trans h₂, h₃, hP'⟩


/-! ### Reading script values -/

/-- The host data that reading a script value gives: 64-bit integers that
a double holds exactly, doubles that are no such integer, and lists and
maps of such data without nulls, lists non-empty and of at most `2^53`
items. -/
inductive Decoded : Data → Prop
  | null : Decoded .null
  | bool (b : Bool) : Decoded (.bool b)
  | int {n : Int} (hint : isInt64 (Float.ofInt n) = true) (hback : toInt64 (Float.ofInt n) = n) :
      Decoded (.int .int64 n)
  | float {x : Float} (hx : isInt64 x = false) : Decoded (.float x)
  | str (s : Bytes) : Decoded (.str s)
  | list {xs : Array Data} (hpos : 0 < xs.size) (hlim : xs.size ≤ 2 ^ 53)
      (hitem : ∀ d ∈ xs, Decoded d) (hnull : ∀ d ∈ xs, d ≠ .null) : Decoded (.list xs)
  | map {kvs : Array (Bytes × Data)} (hitem : ∀ p ∈ kvs, Decoded p.2) (hnull : ∀ p ∈ kvs, p.2 ≠ .null) :
      Decoded (.map kvs)

/-- The script values meant for reading as host data, sitting inside the
tables `inside`: nil, booleans, numbers, strings, and tables of them that
sit inside no table they hold.  Each table behaves as a finite map. -/
inductive Plain (w : World H σ) : List Nat → Value → Prop
  | nil {inside} : Plain w inside .nil
  | bool {inside} (b : Bool) : Plain w inside (.bool b)
  | num {inside} (x : Float) : Plain w inside (.num x)
  | str {inside} (s : Bytes) : Plain w inside (.str s)
  | table {inside} {r : Nat} (hr : r < w.tables.size) (hout : r ∉ inside)
      (hmap : (w.tables.getD r {}).IsMap)
      (hitem : ∀ e ∈ (w.tables.getD r {}).entries, Plain w (r :: inside) e.2) :
      Plain w inside (.table r)

theorem length_le_of_nodup {inside : List Nat} {n : Nat} (hnd : inside.Nodup)
    (hin : ∀ r ∈ inside, r < n) : inside.length ≤ n := by
  have h := (hnd.subperm fun r hr => List.mem_range.2 (hin r hr)).length_le
  simpa using h

theorem decoded_num (x : Float) :
    Decoded (if isInt64 x then .int .int64 (toInt64 x) else .float x) := by
  by_cases h : isInt64 x = true
  · rw [if_pos h]
    exact .int (isInt64_ofInt_toInt64 h).1 (isInt64_ofInt_toInt64 h).2
  · rw [if_neg h]
    exact .float (by simpa using h)

/-- Reading a plain value with enough fuel gives decoded data, and non-nil
values give non-null data.  The fuel counts the tables not yet entered. -/
theorem decoded_toDataIn {w : World H σ} {inside : List Nat} {v : Value} (hv : Plain w inside v) :
    ∀ {F : Nat}, inside.Nodup → (∀ r ∈ inside, r < w.tables.size) →
      w.tables.size < F + inside.length →
      Decoded (toDataIn w F inside v) ∧ (v.isNil = false → toDataIn w F inside v ≠ .null) := by
  -- in every case fuel is left: the tables read around the value are distinct tables of `w`
  induction hv <;> intro F hnd hin hF <;>
    obtain ⟨F, rfl⟩ : ∃ F', F = F' + 1 :=
      Nat.exists_eq_add_one.2 (by have := length_le_of_nodup hnd hin; omega)
  case nil => exact ⟨by simpa [toDataIn] using Decoded.null, by simp [Value.isNil]⟩
  case bool b => exact ⟨by simpa [toDataIn] using Decoded.bool b, by simp [toDataIn]⟩
  case num x =>
    refine ⟨by simpa [toDataIn] using decoded_num x, fun _ => ?_⟩
    simp only [toDataIn]
    split <;> simp
  case str s => exact ⟨by simpa [toDataIn] using Decoded.str s, by simp [toDataIn]⟩
  case table inside r hr hout hmap hitem ih =>
    -- the table is entered: one table more inside, one step of fuel less
    have hnd' : (r :: inside).Nodup := List.nodup_cons.2 ⟨hout, hnd⟩
    have hin' : ∀ r' ∈ r :: inside, r' < w.tables.size := by
      simpa using ⟨hr, hin⟩
    have hF' : w.tables.size < F + (r :: inside).length := by
      simp only [List.length_cons]
      omega
    have hc : inside.contains r = false := by simpa using hout
    rw [toDataIn]
    simp only [hc, Bool.false_eq_true, if_false]
    generalize w.tables.getD r {} = t at hmap hitem ih ⊢
    have hrec := fun e he => ih e he hnd' hin' hF'
    by_cases hn : 0 < sequenceLength t
    · rw [if_pos hn]
      -- a sequence of length `n` has its keys `1 … n`, so `n` is at most `2^53`
      have hlim := (keysAre_of_sequenceLength hmap.keys_distinct hn).le_two_pow
      refine ⟨.list (by simpa using hn) (by simpa using hlim) (fun d hd => ?_) (fun d hd => ?_),
        fun _ => by simp⟩
      all_goals
        obtain ⟨i, hi, rfl⟩ := List.mem_map.1 (List.mem_toArray.1 hd)
        obtain ⟨e, he, hget⟩ := getInt_mem_entries hmap (List.mem_range.1 hi)
        rw [hget]
      · exact (hrec e he).1
      · exact (hrec e he).2 (hmap.nonNil e he)
    · rw [if_neg hn]
      refine ⟨.map (fun p hp => ?_) (fun p hp => ?_), fun _ => by simp⟩
      all_goals
        obtain ⟨⟨k, x⟩, he, rfl⟩ := List.mem_map.1 (List.mem_toArray.1 hp)
      · exact (hrec _ he).1
      · exact (hrec _ he).2 (hmap.nonNil _ he)

/-! ### Building script values -/

/-- What building the script value `v` from data `g` leaves, from world `w`
to world `w'`: the tables only grow, non-null data gives a non-nil value,
and reading `v` in any later world gives `g` back as the host reads it.
Reading needs fuel for the tables built, and sees none of them as one it is
already inside. -/
structure Rebuilt (g : Data) (w w' : World H σ) (v : Value) : Prop where
  grows : Extends w w'
  nonNil : g ≠ .null → v.isNil = false
  reads : ∀ (W : World H σ) (F : Nat) (inside : List Nat), Extends w' W →
    (∀ r ∈ inside, w'.tables.size ≤ r) → w'.tables.size < F + w.tables.size →
    Data.Same (toDataIn W F inside v) g

theorem rebuilt_leaf {g : Data} {v : Value} (w : World H σ) (hnil : g ≠ .null → v.isNil = false)
    (hread : ∀ (W : World H σ) F inside, toDataIn W (F + 1) inside v = g) : Rebuilt g w w v where
  grows := Extends.refl w
  nonNil := hnil
  reads W F inside _ _ hF := by
    obtain ⟨F, rfl⟩ : ∃ F', F = F' + 1 := Nat.exists_eq_add_one.2 (by omega)
    rw [hread]
    exact .refl g

/-- Building the items of a list or the values of a map, then the table
holding them. -/
theorem run_mapM_bind {α β γ : Type} {f : α → VM H σ β} {g : List β → VM H σ γ} {l : List α}
    {P : α → World H σ → World H σ → β → Prop} {Q : γ → World H σ → Prop} {w : World H σ}
    (hf : ∀ a ∈ l, ∀ w, ∃ b w', (f a).run w = .ok b w' ∧ Extends w w' ∧ P a w w' b)
    (hg : ∀ bs wk, Extends w wk →
      List.Forall₂ (fun a b => ∃ w₁ w₂, Extends w w₁ ∧ Extends w₂ wk ∧ P a w₁ w₂ b) l bs →
      ∃ c w', (g bs).run wk = .ok c w' ∧ Q c w') :
    ∃ c w', (l.mapM f >>= g).run w = .ok c w' ∧ Q c w' := by
  obtain ⟨bs, wk, hrun, hwk, hall⟩ := run_mapM w hf
  obtain ⟨c, w', hc, hQ⟩ := hg bs wk hwk hall
  exact ⟨c, w', (run_bind_of_ok hrun).trans hc, hQ⟩

/-- Reading the table allocated last: it is inside none of the tables
around it, and it is the table allocated. -/
theorem toDataIn_alloc {wk W : World H σ} {t : Table} {inside : List Nat}
    (hW : Extends { wk with tables := wk.tables.push t } W)
    (hin : ∀ r ∈ inside, ({ wk with tables := wk.tables.push t } : World H σ).tables.size ≤ r)
    (F : Nat) :
    toDataIn W (F + 1) inside (.table wk.tables.size) =
      if sequenceLength t > 0 then
        .list ((List.range (sequenceLength t)).map fun (i : Nat) =>
          toDataIn W F (wk.tables.size :: inside) (t.getInt (i + 1))).toArray
      else
        .map (t.entries.map fun (k, x) =>
          (keyText k, toDataIn W F (wk.tables.size :: inside) x)).toArray := by
  have hc : inside.contains wk.tables.size = false := by
    rw [List.contains_eq_mem, decide_eq_false_iff_not]
    intro h
    have := hin _ h
    simp at this
  have ht : W.tables.getD wk.tables.size {} = t := by
    rw [hW.getD (by simp), getD_push]
  rw [toDataIn]
  simp only [hc, ht, Bool.false_eq_true, if_false]

/-- A value built during the build of a table reads back inside that
table: the fuel left covers the tables it built. -/
theorem Rebuilt.reads_inside {g : Data} {v : Value} {w w₁ w₂ wk W : World H σ} {t : Table}
    {F : Nat} {inside : List Nat} (hc : Rebuilt g w₁ w₂ v) (h₁ : Extends w w₁) (h₂ : Extends w₂ wk)
    (hW : Extends { wk with tables := wk.tables.push t } W)
    (hin : ∀ r ∈ inside, ({ wk with tables := wk.tables.push t } : World H σ).tables.size ≤ r)
    (hF : ({ wk with tables := wk.tables.push t } : World H σ).tables.size < F + 1 + w.tables.size) :
    Data.Same (toDataIn W F (wk.tables.size :: inside) v) g := by
  have hs₁ := h₁.size_le
  have hs₂ := h₂.size_le
  simp only [Array.size_push] at hin hF
  refine hc.reads W F _ ((h₂.trans (extends_push wk t)).trans hW) (fun r hr => ?_) (by omega)
  rcases List.mem_cons.1 hr with rfl | hr
  · exact hs₂
  · have := hin r hr
    omega


/-- The table a list builds is the sequence of its items' values, and reads
back item by item. -/
theorem rebuilt_list {xs : Array Data} (hpos : 0 < xs.size) (hlim : xs.size ≤ 2 ^ 53)
    (hnull : ∀ d ∈ xs, d ≠ .null)
    (ih : ∀ d ∈ xs, ∀ w : World H σ, ∃ v w', (toValue d).run w = .ok v w' ∧ Rebuilt d w w' v)
    (w : World H σ) : ∃ v w', (toValue (.list xs)).run w = .ok v w' ∧ Rebuilt (.list xs) w w' v := by
  rw [toValue, Array.mapM_eq_mapM_toList, bind_map_left]
  refine run_mapM_bind (P := Rebuilt) (fun d hd w => ?_) fun vs wk hwk hall => ?_
  · obtain ⟨v, w', h, hr⟩ := ih d (Array.mem_def.2 hd) w
    exact ⟨v, w', h, hr.grows, hr⟩
  have hlen : vs.length = xs.size := by simpa using hall.length_eq.symm
  -- the items built are non-nil, so the table is a sequence as long as the list
  have hnn : ∀ v ∈ vs.toArray.toList, v.isNil = false := by
    intro v hv
    obtain ⟨d, hd, w₁, w₂, -, -, hr⟩ := forall₂_mem_right hall (by simpa using hv)
    exact hr.nonNil (hnull d (Array.mem_def.2 hd))
  have hlim' : vs.toArray.size ≤ 2 ^ 53 := by simpa [hlen] using hlim
  have hseq : sequenceLength (seqTable vs.toArray) = xs.size := by
    rw [sequenceLength_seqTable hnn hlim']
    simpa using hlen
  refine ⟨.table wk.tables.size, { wk with tables := wk.tables.push (seqTable vs.toArray) }, rfl,
    hwk.trans (extends_push wk _), fun _ => rfl, fun W F inside hW hin hF => ?_⟩
  have hwk' := hwk.size_le
  obtain ⟨F, rfl⟩ : ∃ F', F = F' + 1 :=
    Nat.exists_eq_add_one.2 (by simp only [Array.size_push] at hF; omega)
  rw [toDataIn_alloc hW hin, hseq, if_pos hpos]
  refine .list (by simp) fun i hx hy => ?_
  have hi : i < vs.length := by simp at hx; omega
  simp only [List.getElem_toArray, List.getElem_map, List.getElem_range]
  rw [getInt_seqTable hnn hlim' (by simpa using hi)]
  obtain ⟨w₁, w₂, h₁, h₂, hr⟩ := hall.get (by simpa using hy) hi
  simp only [List.get_eq_getElem, Array.getElem_toList] at hr
  exact hr.reads_inside h₁ h₂ hW hin (by omega)


theorem run_fill (kvs : List (Bytes × Value)) (w : World H σ) :
    (toValue.fill ((kvs.map fun (k, v) => (Value.str k, v)).toArray) : VM H σ Value).run w =
      .ok (.table w.tables.size) { w with tables := w.tables.push (mapTable kvs) } := by
  simp only [toValue.fill, List.foldl_toArray]
  rfl

/-- The table a map builds holds each key once with the value of its last
entry, so it reads back as the same map. -/
theorem rebuilt_map {kvs : Array (Bytes × Data)} (hnull : ∀ p ∈ kvs, p.2 ≠ .null)
    (ih : ∀ p ∈ kvs, ∀ w : World H σ, ∃ v w', (toValue p.2).run w = .ok v w' ∧ Rebuilt p.2 w w' v)
    (w : World H σ) : ∃ v w', (toValue (.map kvs)).run w = .ok v w' ∧ Rebuilt (.map kvs) w w' v := by
  rw [toValue, Array.mapM_eq_mapM_toList, bind_map_left]
  refine run_mapM_bind (P := fun a w w' b => b.1 = a.1.1 ∧ Rebuilt a.1.2 w w' b.2)
    (fun a _ w => ?_) fun bs wk hwk hall => ?_
  · obtain ⟨⟨k, d⟩, hkd⟩ := a
    obtain ⟨v, w', h, hr⟩ := ih (k, d) hkd w
    exact ⟨(k, v), w', run_bind_of_ok h, hr.grows, rfl, hr⟩
  -- each entry's value was built, under the entry's key, somewhere between `w` and `wk`
  have hall' : List.Forall₂ (fun p b => b.1 = p.1 ∧
      ∃ w₁ w₂, Extends w w₁ ∧ Extends w₂ wk ∧ Rebuilt p.2 w₁ w₂ b.2) kvs.toList bs := by
    have hval : kvs.attach.toList.map Subtype.val = kvs.toList := by
      simp [List.attach_map_subtype_val]
    rw [← hval, List.forall₂_map_left_iff]
    refine hall.imp fun a b h => ?_
    obtain ⟨w₁, w₂, h₁, h₂, hk, hr⟩ := h
    exact ⟨hk, w₁, w₂, h₁, h₂, hr⟩
  have hkeys : bs.map (·.1) = kvs.toList.map (·.1) := by
    have h : List.Forall₂ (fun (a b : Bytes) => a = b) (kvs.toList.map (·.1)) (bs.map (·.1)) :=
      List.forall₂_map_left_iff.2 (List.forall₂_map_right_iff.2 (hall'.imp fun p b h => h.1.symm))
    rw [List.forall₂_eq_eq_eq] at h
    exact h.symm
  let sorted := bs.mergeSort keyLe
  have hperm : sorted.Perm bs := List.mergeSort_perm bs keyLe
  have hnn : ∀ p ∈ sorted, p.2.isNil = false := by
    intro p hp
    obtain ⟨q, hq, -, w₁, w₂, -, -, hr⟩ := forall₂_mem_right hall' (hperm.mem_iff.1 hp)
    exact hr.nonNil (hnull q (Array.mem_def.2 hq))
  refine ⟨.table wk.tables.size, { wk with tables := wk.tables.push (mapTable sorted) },
    run_fill sorted wk, hwk.trans (extends_push wk _), fun _ => rfl, fun W F inside hW hin hF => ?_⟩
  have hwk' := hwk.size_le
  obtain ⟨F, rfl⟩ : ∃ F', F = F' + 1 :=
    Nat.exists_eq_add_one.2 (by simp only [Array.size_push] at hF; omega)
  rw [toDataIn_alloc hW hin, sequenceLength_mapTable hnn, if_neg (Nat.lt_irrefl 0),
    entries_mapTable hnn, List.map_map]
  -- a key is in the table read back exactly when some entry has it
  have hmem (k : Bytes) : k ∈ (sorted.map (·.1)).eraseDups ↔ k ∈ kvs.toList.map (·.1) := by
    rw [List.mem_eraseDups, (hperm.map _).mem_iff, hkeys]
  refine .map (fun k => ?_) (fun k d e hd he => ?_)
  · rw [Data.mapGet_map _ _ (fun _ => rfl), Data.mapGet, ← Bool.coe_iff_coe]
    simp only [hmem]
    rw [← Data.mapGet, Data.mapGet_isSome_iff]
    simp
  · rw [Data.mapGet_map _ _ (fun _ => rfl)] at hd
    split_ifs at hd with hk
    cases hd
    -- the value read back is the one built for the last entry with the key
    obtain ⟨b, hb, w₁, w₂, h₁, h₂, hr⟩ :=
      lookup_of_forall₂ (Q := fun d v => ∃ w₁ w₂, Extends w w₁ ∧ Extends w₂ wk ∧ Rebuilt d w₁ w₂ v)
        (List.forall₂_reverse_iff.2 hall') he
    have hs : sorted.reverse.lookup k = some b := (reverse_lookup_mergeSort bs k).trans hb
    simp only [Function.comp, hs, Option.getD_some]
    exact hr.reads_inside h₁ h₂ hW hin (by omega)


/-- Building a script value from decoded data always succeeds, and reading
the value back gives the data again. -/
theorem toValue_rebuilt {g : Data} (hg : Decoded g) (w : World H σ) :
    ∃ v w', (toValue g).run w = .ok v w' ∧ Rebuilt g w w' v := by
  induction hg generalizing w with
  | null =>
    refine ⟨.nil, w, by rw [toValue]; rfl, rebuilt_leaf w (fun h => absurd rfl h) fun W F inside => ?_⟩
    rw [toDataIn]
  | bool b =>
    refine ⟨.bool b, w, by rw [toValue]; rfl, rebuilt_leaf w (fun _ => rfl) fun W F inside => ?_⟩
    rw [toDataIn]
  | @int n hint hback =>
    refine ⟨.num (Float.ofInt n), w, by rw [toValue]; rfl,
      rebuilt_leaf w (fun _ => rfl) fun W F inside => ?_⟩
    rw [toDataIn, if_pos hint, hback]
  | @float x hx =>
    refine ⟨.num x, w, by rw [toValue]; rfl, rebuilt_leaf w (fun _ => rfl) fun W F inside => ?_⟩
    rw [toDataIn, if_neg (by simp [hx])]
  | str s =>
    refine ⟨.str s, w, by rw [toValue]; rfl, rebuilt_leaf w (fun _ => rfl) fun W F inside => ?_⟩
    rw [toDataIn]
  | list hpos hlim _ hnull ih => exact rebuilt_list hpos hlim hnull ih w
  | map _ hnull ih => exact rebuilt_map hnull ih w

/-- Reading a plain script value as host data, building a script value from
that data in any world, and reading it back gives the same data, as the host
reads it. -/
theorem toData_toValue_toData {w : World H σ} {v : Value} (hv : Plain w [] v) (w₀ : World H σ) :
    ∃ v' w', (toValue (toData w v)).run w₀ = .ok v' w' ∧ Data.Same (toData w' v') (toData w v) := by
  -- the fuel of the first reading covers every table of `w`
  have hdec : Decoded (toData w v) :=
    (decoded_toDataIn hv (F := w.tables.size + 1) List.nodup_nil (by simp) (by simp)).1
  obtain ⟨v', w', hrun, hreb⟩ := toValue_rebuilt hdec w₀
  -- and that of the second every table built
  exact ⟨v', w', hrun, hreb.reads w' (w'.tables.size + 1) [] (Extends.refl w') (by simp) (by omega)⟩


def pairWorld : World Unit Unit := { tables := #[seqTable #[.bool true, .num 1.5]], host := () }

theorem toData_toValue_pair :
    Plain pairWorld [] (.table 0) ∧
      ∃ v' w', (toValue (toData pairWorld (.table 0))).run pairWorld = .ok v' w' ∧
        Data.Same (toData w' v') (toData pairWorld (.table 0)) := by
  have ht : pairWorld.tables.getD 0 {} = seqTable #[.bool true, .num 1.5] := rfl
  have hv : ∀ v ∈ (#[.bool true, .num 1.5] : Array Value).toList, v.isNil = false := by
    simp [Value.isNil]
  have hplain : Plain pairWorld [] (.table 0) := by
    refine .table (by decide) (by simp) ?_ ?_ <;> rw [ht]
    · exact seqTable_isMap hv (by decide)
    · intro e he
      rw [entries_seqTable hv (by decide)] at he
      simp only [List.mem_map] at he
      obtain ⟨p, hp, rfl⟩ := he
      -- every item is a boolean or a number
      have hmem := List.fst_mem_of_mem_zipIdx hp
      simp only [List.mem_cons, List.not_mem_nil, or_false] at hmem
      rcases hmem with h | h <;> rw [h]
      exacts [.bool true, .num 1.5]
  exact ⟨hplain, toData_toValue_toData hplain pairWorld⟩

end MudClient.Lua
