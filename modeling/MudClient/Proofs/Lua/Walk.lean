/-
# Converting a value walks the paths of its tables

`toData` reads a script value as host data, entering tables as it meets
them and keeping the tables it is inside.  A table met again inside itself
becomes null; the same table held side by side by two entries is read at
both places.  The reading is given fuel, the number of tables of the heap
plus one, so that it ends by construction, and this module shows that the
fuel never runs out (`conversion_walks_paths`).

The reading without fuel is `toDataOn`, defined by well-founded recursion.
Its measure is the number of tables of the heap not yet on the path: a
table on the path is never entered, and a table entered is one of the heap,
since any other reference reads as an empty table with no entries to visit,
so the measure drops at every table entered.  Each entry of a table is read
with the path extended by that table alone, which is why nothing one entry
visits makes another entry null.

`toDataIn_eq_toDataOn` says that with more fuel than tables off the path the
fuelled reading is the walk, by induction on the fuel: entering a table
costs one step of fuel and leaves one table fewer off the path.
-/
import MudClient.Proofs.Lua.Sequences

namespace MudClient.Lua

open MudClient.Number

variable {H σ : Type}

def tablesOff (w : World H σ) (path : List Nat) : Nat :=
  ((List.range w.tables.size).filter (· ∉ path)).length

theorem getD_of_size_le {w : World H σ} {r : Nat} (hr : w.tables.size ≤ r) :
    w.tables.getD r {} = {} := by
  rw [Array.getD_eq_getD_getElem?, Array.getElem?_eq_none hr]
  rfl

theorem lt_size_of_entry {w : World H σ} {r : Nat} {e : Value × Value}
    (he : e ∈ (w.tables.getD r {}).entries) : r < w.tables.size := by
  by_contra h
  rw [getD_of_size_le (Nat.le_of_not_lt h)] at he
  cases he

theorem tablesOff_cons_lt {w : World H σ} {r : Nat} {path : List Nat} (hr : r < w.tables.size)
    (hp : r ∉ path) : tablesOff w (r :: path) < tablesOff w path := by
  unfold tablesOff
  have hsplit : (List.range w.tables.size).filter (· ∉ r :: path) =
      ((List.range w.tables.size).filter (· ∉ path)).filter (· ≠ r) := by
    rw [List.filter_filter]
    congr 1
    funext x
    simp
  rw [hsplit, List.length_filter_lt_length_iff_exists]
  exact ⟨r, List.mem_filter.2 ⟨List.mem_range.2 hr, by simpa using hp⟩, by simp⟩

/-- Converts a script value to host data, walking the tables from the path
of tables it sits inside: a table already on the path becomes null, and a
table is entered with itself added to the path of its entries, whatever its
siblings held.  The tables of the heap off the path run out along every
walk, so no fuel is needed. -/
def toDataOn (w : World H σ) (path : List Nat) : Value → Data
  | .nil => .null
  | .bool b => .bool b
  | .num x => if isInt64 x then .int .int64 (toInt64 x) else .float x
  | .str s => .str s
  | .table r =>
    if path.contains r then .null
    else
      let t := w.tables.getD r {}
      let n := sequenceLength t
      if n > 0 then
        .list ((List.range n).map fun (i : Nat) => toDataOn w (r :: path) (t.getInt (i + 1))).toArray
      else
        .map (t.entries.attach.map fun e => (keyText e.1.1, toDataOn w (r :: path) e.1.2)).toArray
  | _ => .null
termination_by tablesOff w path
decreasing_by
  · -- a sequence has entries, so its table is one of the heap
    rename_i _ hr hn
    have hlen : 0 < t.entries.length := by
      rw [(sequenceLength_spec hn).2]
      exact hn
    obtain ⟨e, he⟩ := List.exists_mem_of_length_pos hlen
    exact tablesOff_cons_lt (lt_size_of_entry he) (by simpa using hr)
  · rename_i _ hr _
    exact tablesOff_cons_lt (lt_size_of_entry e.2) (by simpa using hr)

/-- The data of a table whose entries convert by `f`: a list when the table
is a sequence, otherwise a map keyed by the text of its keys. -/
def tableData (t : Table) (f : Value → Data) : Data :=
  if 0 < sequenceLength t then
    .list ((List.range (sequenceLength t)).map fun (i : Nat) => f (t.getInt (i + 1))).toArray
  else .map (t.entries.map fun e => (keyText e.1, f e.2)).toArray

theorem tableData_ne_null (t : Table) (f : Value → Data) : tableData t f ≠ .null := by
  unfold tableData
  split <;> simp

theorem toDataOn_table (w : World H σ) (path : List Nat) (r : Nat) :
    toDataOn w path (.table r) =
      if r ∈ path then .null else tableData (w.tables.getD r {}) (toDataOn w (r :: path)) := by
  rw [toDataOn]
  by_cases hp : r ∈ path
  · simp [hp]
  · simp [hp, tableData, List.map_attach_eq_pmap]

theorem toDataIn_table (w : World H σ) (F : Nat) (path : List Nat) (r : Nat) :
    toDataIn w (F + 1) path (.table r) =
      if r ∈ path then .null else tableData (w.tables.getD r {}) (toDataIn w F (r :: path)) := by
  by_cases hp : r ∈ path
  · simp [toDataIn, hp]
  · simp [toDataIn, hp, tableData]

theorem tableData_empty (f g : Value → Data) : tableData {} f = tableData {} g := rfl

/-- With more fuel than there are tables off the path, the fuelled
conversion is the walk along paths: the fuel never runs out. -/
theorem toDataIn_eq_toDataOn (w : World H σ) :
    ∀ (F : Nat) (path : List Nat) (v : Value), tablesOff w path < F → toDataIn w F path v = toDataOn w path v
  | 0, _, _, h => absurd h (Nat.not_lt_zero _)
  | F + 1, path, v, h => by
      cases v with
      | table r =>
          rw [toDataIn_table, toDataOn_table]
          by_cases hp : r ∈ path
          · simp [hp]
          · simp only [hp, if_false]
            by_cases hr : r < w.tables.size
            · -- entering the table leaves one table fewer off the path, and one step less of fuel
              have hoff := tablesOff_cons_lt hr hp
              congr 1
              funext x
              exact toDataIn_eq_toDataOn w F (r :: path) x (by omega)
            · rw [getD_of_size_le (Nat.le_of_not_lt hr)]
              exact tableData_empty _ _
      | _ =>
          -- the other values are no tables: both read them alike
          simp [toDataOn, toDataIn]

theorem tablesOff_nil (w : World H σ) : tablesOff w [] = w.tables.size := by
  simp [tablesOff]

/-- Converting any script value to host data ends, however its tables are
linked: it is the walk `toDataOn`, whose measure is the number of tables of
the heap not yet on the path, and the fuel `toData` gives never runs out.
On the walk a table already on the path becomes null, and only such a
table: any other is entered, and each of its entries is converted with the
path extended by this table alone, so a table held by two siblings is
converted in full at both places. -/
theorem conversion_walks_paths (w : World H σ) :
    (∀ v, toData w v = toDataOn w [] v) ∧
    (∀ path r, toDataOn w path (.table r) =
      if r ∈ path then .null else tableData (w.tables.getD r {}) (toDataOn w (r :: path))) ∧
    (∀ path r, toDataOn w path (.table r) = .null ↔ r ∈ path) := by
  refine ⟨fun v => ?_, toDataOn_table w, fun path r => ?_⟩
  · apply toDataIn_eq_toDataOn
    rw [tablesOff_nil]
    exact Nat.lt_succ_self _
  · rw [toDataOn_table]
    by_cases hp : r ∈ path
    · simp [hp]
    · simp [hp, tableData_ne_null]

/-- A table held twice side by side is converted at both places, and a
table inside itself becomes null there. -/
example :
    toData ({ tables := #[seqTable #[.table 1, .table 1, .table 0], seqTable #[.bool true]], host := () } :
      World Unit Unit) (.table 0) = .list #[.list #[.bool true], .list #[.bool true], .null] := rfl

end MudClient.Lua
