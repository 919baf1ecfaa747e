/-
# Host data

Values the client's host side hands to scripts and filters, and receives
back from them.  The host is statically typed, so a value keeps the type it
was made with: an `int32` three and a `float64` three are different values,
a list of strings is not a list of arbitrary values, and a pointer is not
the value it points to.  The distinctions matter in three places:

* filters compare numbers by value but other values only within one type;
* only some types may be compared at all (lists and maps may not);
* a typed map or list converts to a script table with its own key order.

Strings are byte strings: a script may produce any bytes.
-/
import MudClient.Text.Bytes

namespace MudClient

/-- The integer types of the host. -/
inductive IntKind where
  | int | int32 | int64 | uint8 | uint32 | uint64
deriving DecidableEq, Repr, Inhabited

def IntKind.name : IntKind → String
  | .int => "int" | .int32 => "int32" | .int64 => "int64" | .uint8 => "uint8" | .uint32 => "uint32"
  | .uint64 => "uint64"

/-- A host value, with its type. -/
inductive Data where
  | null
  | bool (b : Bool)
  | int (kind : IntKind) (n : Int)
  | float (x : Float)
  /-- A single-precision float, held as its exact value. -/
  | float32 (x : Float)
  | str (s : Bytes)
  /-- A byte slice. -/
  | bytes (b : Bytes)
  /-- A list of values of any type. -/
  | list (items : Array Data)
  | strings (items : Array Bytes)
  | ints (items : Array Int)
  /-- A map from strings to values of any type. -/
  | map (entries : Array (Bytes × Data))
  | strMap (entries : Array (Bytes × Bytes))
  /-- A map from 64-bit integers to values of any type. -/
  | intMap (entries : Array (Int × Data))
  /-- A pointer to a value. -/
  | ptr (target : Data)
  /-- A pointer to an `int64` that points nowhere. -/
  | nilPtr
deriving Inhabited, Repr

namespace Data

def text (s : String) : Data := .str (Bytes.ofString s)

def typeName : Data → String
  | .null => "<nil>"
  | .bool _ => "bool"
  | .int k _ => k.name
  | .float _ => "float64"
  | .float32 _ => "float32"
  | .str _ => "string"
  | .bytes _ => "[]uint8"
  | .list _ => "[]interface {}"
  | .strings _ => "[]string"
  | .ints _ => "[]int"
  | .map _ => "map[string]interface {}"
  | .strMap _ => "map[string]string"
  | .intMap _ => "map[int64]interface {}"
  | .ptr v => "*" ++ v.typeName
  | .nilPtr => "*int64"

def comparable : Data → Bool
  | .bytes _ | .list _ | .strings _ | .ints _ | .map _ | .strMap _ | .intMap _ => false
  | _ => true

def number? : Data → Option Float
  | .int _ n => some (Float.ofInt n)
  | .float x | .float32 x => some x
  | _ => none

def string? : Data → Option Bytes
  | .str s => some s
  | _ => none

end Data

end MudClient
