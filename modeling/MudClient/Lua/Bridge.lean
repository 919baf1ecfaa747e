/-
# Between host data and script values

`toValue` turns host data into a script value: strings and byte slices
become strings, every number becomes a number, lists become sequences, maps
become tables (string-keyed maps in key order), and pointers give what they
point to.

`toData` turns a script value back: a number is a 64-bit integer when it
converts to one and back unchanged, else a double; a table whose keys are
exactly `1 … n` for some `n > 0` becomes a list, any other table a map
keyed by the text of its keys.  A table met again inside itself becomes
null there, and only there: the same table side by side converts twice.
Functions and coroutines become null.
-/
import MudClient.Lua.World
import MudClient.Data.Basic

namespace MudClient.Lua

open MudClient.Number

variable {H σ : Type}

def toValue : Data → VM H σ Value
  | .null | .nilPtr => pure .nil
  | .bool b => pure (.bool b)
  | .int _ n => pure (.num (Float.ofInt n))
  | .float x | .float32 x => pure (.num x)
  | .str s | .bytes s => pure (.str s)
  | .ptr v => toValue v
  | .list items => do sequence (← items.mapM fun x => toValue x)
  | .strings items => sequence (items.map Value.str)
  | .ints items => sequence (items.map fun n => Value.num (Float.ofInt n))
  | .map entries => do
    let kvs ← entries.attach.mapM fun ⟨(k, d), _⟩ => do pure (k, ← toValue d)
    -- in key order; entries with one key keep their order, so the last is set last
    let sorted := kvs.toList.mergeSort fun a b => !Bytes.lt b.1 a.1
    fill (sorted.map fun (k, v) => (Value.str k, v)).toArray
  | .strMap entries => fill (entries.map fun (k, v) => (Value.str k, Value.str v))
  | .intMap entries => do
    fill (← entries.attach.mapM fun ⟨(k, d), _⟩ => do pure (Value.num (Float.ofInt k), ← toValue d))
termination_by d => sizeOf d
decreasing_by
  all_goals first
    | (simp only [Data.ptr.sizeOf_spec]; omega)
    | (rename_i h
       have := Array.sizeOf_lt_of_mem h
       simp only [Prod.mk.sizeOf_spec] at this
       simp only [Data.map.sizeOf_spec, Data.intMap.sizeOf_spec]
       omega)
    | decreasing_tactic
where
  /-- A new table holding values at `1 … n`, made with room for `n` in its
  array part and each value set under its integer key in turn: keys from the
  array limit on go to the hash part. -/
  sequence (vs : Array Value) : VM H σ Value := do
    let start : Table := { hasArray := !vs.isEmpty, cap := vs.size }
    let r ← allocTable ((vs.toList.zipIdx 1).foldl (fun t (v, i) => t.setInt i v) start)
    pure (.table r)
  /-- A new table holding entries. -/
  fill (kvs : Array (Value × Value)) : VM H σ Value := do
    let r ← allocTable (kvs.foldl (fun t (k, v) => t.set k v) {})
    pure (.table r)

def keyText : Value → Bytes
  | .str s => s
  | v => v.text

def sequenceLength (t : Table) : Nat :=
  let es := t.entries
  let keys := es.map (·.1)
  let ok := keys.all fun
    | .num x => Float.ofInt (toInt64 x) == x && toInt64 x ≥ 1
    | _ => false
  let top := keys.foldl (fun m k => match k with | .num x => max m (toInt64 x).toNat | _ => m) 0
  if ok && es.length == top then top else 0

/-- Converts a script value to host data, given the tables it sits inside
and fuel for the depth. -/
def toDataIn (w : World H σ) : Nat → List Nat → Value → Data
  | 0, _, _ => .null
  | fuel + 1, inside, v =>
    match v with
    | .nil => .null
    | .bool b => .bool b
    | .num x => if isInt64 x then .int .int64 (toInt64 x) else .float x
    | .str s => .str s
    | .table r =>
      if inside.contains r then .null
      else
        let t := w.tables.getD r {}
        let n := sequenceLength t
        if n > 0 then
          .list ((List.range n).map fun (i : Nat) => toDataIn w fuel (r :: inside) (t.getInt (i + 1))).toArray
        else
          .map (t.entries.map fun (k, x) => (keyText k, toDataIn w fuel (r :: inside) x)).toArray
    | _ => .null

def toData (w : World H σ) (v : Value) : Data :=
  toDataIn w (w.tables.size + 1) [] v

/-- The strings of a value: a string alone, or the strings among the
entries `1 … n` of a table of length `n`; none when there are none. -/
def stringList (w : World H σ) : Value → Option (Array Bytes)
  | .str s => some #[s]
  | .table r =>
    let t := w.tables.getD r {}
    let out := (List.range t.length).filterMap fun (i : Nat) =>
      match t.getInt (i + 1) with
      | .str s => some s
      | _ => none
    if out.isEmpty then none else some out.toArray
  | _ => none

end MudClient.Lua
