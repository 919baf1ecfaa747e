/-
# Lua values and tables

A value is nil, a boolean, a number (a double), a byte string, or a
reference to a table, a function, a coroutine or a host object kept in the
heap.  Two references are equal when they name the same object.

A table keeps its positive integer keys below `2^26` in an array part,
indexed from 1, in which a missing entry is nil; writing beyond the end of
the array part grows it, filling the gap with nils.  Every other key goes to
the hash part, which remembers the order in which keys first received a
value: traversal visits the array part in order, then the hash keys in that
order, skipping entries that are nil.  A key keeps its place in that order
when its value is cleared and set again.

The length of a table is the index of the last non-nil entry of its array
part.

The array part also has a capacity, the entries it holds room for: a table
constructor makes room for its positional fields, the first write into a
table without an array part makes room for 32, and writing past the room
there is moves the entries to a larger place, twice the room while it is
below 256 entries and then a quarter more each time, rounded up to the
sizes the memory is handed out in.  A change of capacity is how a sort
running over the array part learns that the table no longer shares it.

## Main statements

* `Table.get`, `Table.set`: reading and writing an entry without
  metamethods.
* `Table.next`: the entry after a key in traversal order.
-/
import Std.Data.HashMap
import MudClient.Text.Bytes
import MudClient.Number.Binary

namespace MudClient.Lua

/-- A Lua value. -/
inductive Value where
  | nil
  | bool (b : Bool)
  | num (x : Float)
  | str (s : Bytes)
  | table (r : Nat)
  | func (r : Nat)
  | thread (r : Nat)
  | userdata (r : Nat)
deriving Inhabited, Repr

namespace Value

/-- Raw equality: numbers by value, strings by their bytes, objects by
identity. -/
def rawEq : Value → Value → Bool
  | .nil, .nil => true
  | .bool a, .bool b => a == b
  | .num a, .num b => a == b
  | .str a, .str b => a == b
  | .table a, .table b => a == b
  | .func a, .func b => a == b
  | .thread a, .thread b => a == b
  | .userdata a, .userdata b => a == b
  | _, _ => false

def truthy : Value → Bool
  | .nil => false
  | .bool b => b
  | _ => true

def isNil : Value → Bool
  | .nil => true
  | _ => false

def typeName : Value → String
  | .nil => "nil"
  | .bool _ => "boolean"
  | .num _ => "number"
  | .str _ => "string"
  | .table _ => "table"
  | .func _ => "function"
  | .thread _ => "thread"
  | .userdata _ => "userdata"

def ofString (s : String) : Value := .str (Bytes.ofString s)

end Value

def arrayLimit : Nat := 67108864

/-- A table key: any value but nil and NaN, with the two zeros taken as one
key. -/
inductive Key where
  | bool (b : Bool)
  | num (bits : UInt64)
  | str (s : Bytes)
  | table (r : Nat)
  | func (r : Nat)
  | thread (r : Nat)
  | userdata (r : Nat)
deriving DecidableEq, Hashable, Repr, Inhabited

namespace Key

def ofValue? : Value → Option Key
  | .nil => none
  | .bool b => some (.bool b)
  | .num x => if x.isNaN then none else some (.num (if x == 0 then (0 : Float).toBits else x.toBits))
  | .str s => some (.str s)
  | .table r => some (.table r)
  | .func r => some (.func r)
  | .thread r => some (.thread r)
  | .userdata r => some (.userdata r)

def toValue : Key → Value
  | .bool b => .bool b
  | .num bits => .num (Float.ofBits bits)
  | .str s => .str s
  | .table r => .table r
  | .func r => .func r
  | .thread r => .thread r
  | .userdata r => .userdata r

end Key

instance : BEq Key := ⟨fun a b => decide (a = b)⟩

/-- The array index a number stands for, if it is an integer from 1 up to,
not including, the array limit. -/
def arrayIndex? (x : Float) : Option Nat :=
  if Number.isIntegral x && x > 0 && x < Float.ofNat arrayLimit then
    match Number.truncInt? x with
    | some n => some n.toNat
    | none => none
  else none

def blockSizes : List Nat :=
  [8, 16, 24, 32, 48, 64, 80, 96, 112, 128, 144, 160, 176, 192, 208, 224, 240, 256, 288, 320,
   352, 384, 416, 448, 480, 512, 576, 640, 704, 768, 896, 1024, 1152, 1280, 1408, 1536, 1792,
   2048, 2304, 2688, 3072, 3200, 3456, 4096, 4864, 5376, 6144, 6528, 6784, 6912, 8192, 9472,
   9728, 10240, 10880, 12288, 13568, 14336, 16384, 18432, 19072, 20480, 21760, 24576, 27264,
   28672, 32768]

/-- The bytes handed out for a request: the least block size that holds it,
or, from 32768 bytes on, whole pages of 8192 bytes. -/
def blockFor (size : Nat) : Nat :=
  if size < 32768 then (blockSizes.find? (size ≤ ·)).getD size
  else (size + 8191) / 8192 * 8192

/-- The capacity an array part of capacity `cap` moves to when it must hold
`len` entries, each taking sixteen bytes. -/
def grownCapacity (cap len : Nat) : Nat :=
  let wanted :=
    if len > 2 * cap then len
    else if cap < 256 then 2 * cap
    else
      let rec quarter (c : Nat) : Nat → Nat
        | 0 => c
        | fuel + 1 => if c < len then quarter (c + (c + 768) / 4) fuel else c
      quarter cap len
  blockFor (wanted * 16) / 16

/-- The capacity after appending entries one at a time to an array part of
capacity `cap` until it holds `len`. -/
def capacityFor (cap len : Nat) : Nat :=
  let rec go (c : Nat) : Nat → Nat
    | 0 => c
    | fuel + 1 => if len ≤ c then c else go (grownCapacity c (c + 1)) fuel
  go cap (len + 1)

/-- A table: its array part, whether that part was ever made and the room
it has, its hash keys in first-insertion order with their positions, the
current hash entries, and its metatable. -/
structure Table where
  arr : Array Value := #[]
  hasArray : Bool := false
  cap : Nat := 0
  keys : Array Key := #[]
  slot : Std.HashMap Key Nat := {}
  vals : Std.HashMap Key Value := {}
  metatable : Option Nat := none
deriving Inhabited

namespace Table

def getKey (t : Table) (k : Key) : Value := t.vals.getD k .nil

def get (t : Table) (k : Value) : Value :=
  match k with
  | .num x =>
    match arrayIndex? x with
    | some i => t.arr.getD (i - 1) .nil
    | none => match Key.ofValue? k with | some key => t.getKey key | none => .nil
  | _ => match Key.ofValue? k with | some key => t.getKey key | none => .nil

def getInt (t : Table) (i : Int) : Value := t.get (.num (Float.ofInt i))

def getStr (t : Table) (s : String) : Value := t.getKey (.str (Bytes.ofString s))

def setKey (t : Table) (k : Key) (v : Value) : Table :=
  match v with
  | .nil => { t with vals := t.vals.erase k }
  | _ =>
    if t.slot.contains k then { t with vals := t.vals.insert k v }
    else { t with vals := t.vals.insert k v, slot := t.slot.insert k t.keys.size,
                  keys := t.keys.push k }

/-- Sets the entry at array index `i ≥ 1`, growing the array part with nils
up to it. -/
def setIndex (t : Table) (i : Nat) (v : Value) : Table :=
  let n := t.arr.size
  let cap := if t.hasArray then t.cap else 32
  if i - 1 < n then { t with arr := t.arr.set! (i - 1) v, hasArray := true, cap }
  else { t with arr := (t.arr ++ Array.replicate (i - 1 - n) Value.nil).push v, hasArray := true,
                cap := capacityFor cap i }

/-- Sets the entry of a key, without metamethods; nil and NaN keys are
ignored here and refused by the callers. -/
def set (t : Table) (k : Value) (v : Value) : Table :=
  match k with
  | .num x =>
    match arrayIndex? x with
    | some i => t.setIndex i v
    | none => match Key.ofValue? k with | some key => t.setKey key v | none => t
  | _ => match Key.ofValue? k with | some key => t.setKey key v | none => t

def setInt (t : Table) (i : Int) (v : Value) : Table := t.set (.num (Float.ofInt i)) v

def setStr (t : Table) (s : String) (v : Value) : Table := t.setKey (.str (Bytes.ofString s)) v

def length (t : Table) : Nat :=
  let rec go : Nat → Nat
    | 0 => 0
    | i + 1 => if (t.arr.getD i .nil).isNil then go i else i + 1
  go t.arr.size

/-- Appends after the last non-nil entry of the array part; nil is not
appended. -/
def append (t : Table) (v : Value) : Table :=
  match v with
  | .nil => t
  | _ => t.setIndex (t.length + 1) v

def hashEmpty (t : Table) : Bool := t.vals.isEmpty

def nextHash (t : Table) (i : Nat) : Option (Value × Value) :=
  let rec go (j : Nat) (fuel : Nat) : Option (Value × Value) :=
    match fuel with
    | 0 => none
    | f + 1 =>
      match t.keys[j]? with
      | none => none
      | some k =>
        match t.vals.get? k with
        | some v => some (k.toValue, v)
        | none => go (j + 1) f
  go i (t.keys.size - i)

def nextArray (t : Table) (i : Nat) : Option (Value × Value) :=
  let rec go (j : Nat) (fuel : Nat) : Option (Value × Value) :=
    match fuel with
    | 0 => none
    | f + 1 =>
      match t.arr[j]? with
      | none => none
      | some .nil => go (j + 1) f
      | some v => some (.num (Float.ofNat (j + 1)), v)
  go i (t.arr.size - i)

/-- The entry after a key in traversal order; nil starts the traversal.  A
key the traversal does not know continues after the first hash key; so
does an integer key beyond an array part that was ever made. -/
def next (t : Table) (k : Value) : Option (Value × Value) :=
  let (start, k) : Bool × Value := match k with | .nil => (true, .num 0) | _ => (false, k)
  let afterKeys (k : Value) : Option (Value × Value) :=
    let pos := match Key.ofValue? k with
      | some key => t.slot.getD key 0
      | none => 0
    t.nextHash (pos + 1)
  let isZero := match k with | .num x => x == 0 | _ => false
  if start || !isZero then
    match k with
    | .num x =>
      if Number.isIntegral x && x ≥ 0 && x < Float.ofNat arrayLimit then
        let index := (Number.toInt64 x).toNat
        match t.nextArray index with
        | some e => some e
        | none =>
          if index ≤ t.arr.size || !t.hasArray then
            if t.hashEmpty then none
            else
              match t.keys[0]? with
              | some k0 =>
                match t.vals.get? k0 with
                | some v => some (k0.toValue, v)
                | none => afterKeys k0.toValue
              | none => none
          else afterKeys k
      else afterKeys k
    | _ => afterKeys k
  else afterKeys k

/-- Removes an entry of the array part: the one at `pos` (from 1), or the
last one when `pos` is below 1 or the last position, moving the later ones
down; answers the entry removed, nil when there is none there. -/
def removeAt (t : Table) (pos : Int) : Table × Value :=
  let n := t.arr.size
  if n = 0 then (t, .nil)
  else
    let i := pos - 1
    if i ≥ n then (t, .nil)
    else if i = n - 1 || i < 0 then
      ({ t with arr := t.arr.pop }, t.arr.getD (n - 1) .nil)
    else
      let k := i.toNat
      ({ t with arr := (t.arr.extract 0 k) ++ (t.arr.extract (k + 1) n) }, t.arr.getD k .nil)

/-- Inserts an entry at position `i` (from 1) of the array part, moving the
later ones up; beyond the array part it is an ordinary write, and at a
position below 1 a write to the hash part. -/
def insertAt (t : Table) (i : Int) (v : Value) : Table :=
  let t := { t with hasArray := true, cap := if t.hasArray then t.cap else 32 }
  if i > t.arr.size then t.setInt i v
  else if i ≤ 0 then t.setInt i v
  else
    let k := (i - 1).toNat
    { t with arr := (t.arr.extract 0 k).push v ++ t.arr.extract k t.arr.size,
             cap := capacityFor t.cap (t.arr.size + 1) }

def entries (t : Table) : List (Value × Value) :=
  let arr := (t.arr.toList.zipIdx).filterMap fun (v, i) =>
    if v.isNil then none else some (Value.num (Float.ofNat (i + 1)), v)
  let hash := t.keys.toList.filterMap fun k => (t.vals.get? k).map fun v => (k.toValue, v)
  arr ++ hash

end Table

end MudClient.Lua
