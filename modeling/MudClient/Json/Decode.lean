/-
# Reading settings from JSON

`Node.decodeInto` reads a JSON value into an existing host value of a
shape.  Object members name record fields exactly, or else in any case; a
member that names no field is refused when the reader is strict.  Reading
is in place: a record keeps the fields a value does not mention, a map its
other entries, and a list its items, which the items of an array are read
into one by one; a null assigns nothing, except that it empties a list or a
map.  A list that grows past its room is given more room as the host gives
it, and room left over from a longer list before is reused as it is.

A value of the wrong kind is refused with the kind of JSON value, the path
to it from the top (keys as written, list positions and map keys, joined by
dots) and the host type it was meant for.  A duration must be written as
text; its text is read as a duration and a fault there is reported as is.
The first fault in document order is the one reported.
-/
import MudClient.Json.Syntax
import MudClient.Schema.Basic
import MudClient.Log.Level
import MudClient.Number.Parse
import MudClient.Text.Quote
import MudClient.Time.Duration

namespace MudClient.Json

open MudClient.Schema

def Node.kindName : Node → String
  | .null => "null"
  | .bool _ => "bool"
  | .number _ => "number"
  | .string _ => "string"
  | .array _ => "array"
  | .object _ => "object"

/-- A step down into a value: a member of an object, by its key as written,
or an item of an array. -/
inductive Step where
  | key (k : String)
  | index (i : Nat)

def Step.text : Step → String
  | .key k => k
  | .index i => toString i

/-- Where a value stands: the record type at the top and the path to it. -/
structure Place where
  top : String
  path : List Step := []

def Place.down (p : Place) (step : Step) : Place := { p with path := p.path ++ [step] }

/-- The message for a value of the wrong kind at a place; the place is
called a struct field unless it is an item of a list. -/
def mismatch (p : Place) (value type : String) : String :=
  let whereText := p.top ++ "." ++ ".".intercalate (p.path.map Step.text)
  let target :=
    match p.path.getLast? with
    | none => " into Go value of type " ++ type
    | some (.index _) => " into " ++ whereText ++ " of type " ++ type
    | some (.key _) => " into Go struct field " ++ whereText ++ " of type " ++ type
  "json: cannot unmarshal " ++ value ++ target

def notText (p : Place) (value type : String) : String :=
  mismatch p value type ++ ": JSON value must be string type"

/-- The field a member name selects: the exact name, else the first name
equal to it in any case. -/
def selectField (fields : List (String × Shape)) (key : String) : Option (String × Shape) :=
  match fields.find? (·.1 == key) with
  | some f => some f
  | none => fields.find? fun f => Log.equalFold f.1 key

def wholeOf (text : String) : Option Int :=
  match Number.readInt text.toList with
  | .ok n => some n
  | .error _ => none

/-- A text map with an entry set: in place when the key is there, at the
end otherwise. -/
def putEntry (m : List (String × String)) (k v : String) : List (String × String) :=
  if m.any (·.1 == k) then m.map fun (k2, v2) => if k2 == k then (k2, v) else (k2, v2)
  else m ++ [(k, v)]

def fieldValue (fields : List (String × Held)) (name : String) (shape : Shape) : Held :=
  (fields.lookup name).getD shape.zero

def setField (fields : List (String × Held)) (name : String) (v : Held) : List (String × Held) :=
  if fields.any (·.1 == name) then fields.map fun (n, h) => if n == name then (n, v) else (n, h)
  else fields ++ [(name, v)]

/-- Reads a value into a host value of a shape, in place: a record keeps
the fields the value does not mention, a map keeps its other entries, and a
list reuses its items, spare room included, before it grows.  A null leaves
the value as it is, except that it empties a list or a map.  Answers the new
value, or the first fault in document order. -/
def Node.decodeInto (strict : Bool) : Shape → Place → Held → Node → Except String Held
  | .list _ _, _, _, .null => .ok (.list #[] 0)
  | .textMap _, _, _, .null => .ok (.map none)
  | _, _, cur, .null => .ok cur
  | .text t, p, _, n =>
    match n with
    | .string s => .ok (.text s)
    | _ => .error (mismatch p n.kindName t)
  | .flag, p, _, n =>
    match n with
    | .bool b => .ok (.flag b)
    | _ => .error (mismatch p n.kindName "bool")
  | .whole t, p, _, n =>
    match n with
    | .number text =>
      match wholeOf text with
      | some v => .ok (.whole v)
      | none => .error (mismatch p ("number " ++ text) t)
    | _ => .error (mismatch p n.kindName t)
  | .span t textual, p, _, n =>
    match n with
    | .string s =>
      match Time.parse s with
      | .ok d => .ok (.span d)
      | .error e => .error e
    | .number text =>
      if textual then .error (notText p "number" t)
      else match wholeOf text with
        | some v => .ok (.span v)
        | none => .error (mismatch p ("number " ++ text) t)
    | _ =>
      if textual then .error (notText p n.kindName t)
      else .error (mismatch p n.kindName t)
  | .list t item, p, cur, n =>
    match n with
    | .array items => do
      let store := match cur with
        | .list st _ => st
        | _ => #[]
      let (size, _, refs) := item.layout
      let final ← List.foldlM (fun (st : Array Held) (i : Nat) =>
          if h : i < items.size then do
            let st := if i < st.size then st
              else st ++ Array.replicate (grownRoom st.size (i + 1) size refs - st.size) item.zero
            let v ← Node.decodeInto strict item (p.down (.index i)) (st.getD i item.zero) items[i]
            pure (st.set! i v)
          else pure st) store (List.range items.size)
      pure (if items.size = 0 then .list #[] 0 else .list final items.size)
    | _ => .error (mismatch p n.kindName t)
  | .textMap t, p, cur, n =>
    match n with
    | .object members => do
      let start := match cur with
        | .map (some kvs) => kvs
        | _ => []
      let kvs ← members.toList.foldlM (fun m (k, v) =>
          match v with
          | .string s => .ok (putEntry m k s)
          | .null => .ok (putEntry m k "")
          | _ => .error (mismatch (p.down (.key k)) v.kindName "string")) start
      pure (.map (some kvs))
    | _ => .error (mismatch p n.kindName t)
  | .record t fields _, p, cur, n =>
    match n with
    | .object members => do
      let start := match cur with
        | .record fs => fs
        | _ => match Shape.zero (.record t fields []) with
          | .record fs => fs
          | _ => []
      let got ← members.toList.attach.foldlM (fun acc ⟨(k, v), _⟩ =>
          match selectField fields k with
          | some (name, shape) => do
            let h ← Node.decodeInto strict shape (p.down (.key k)) (fieldValue acc name shape) v
            pure (setField acc name h)
          | none =>
            if strict then .error ("json: unknown field " ++ Text.quote k) else .ok acc) start
      pure (.record got)
    | _ => .error (mismatch p n.kindName t)
termination_by _ _ _ n => sizeOf n
decreasing_by
  all_goals first
    | (have h3 := Array.sizeOf_getElem items i h
       simp only [Node.array.sizeOf_spec]
       omega)
    | (rename_i h
       have := Array.sizeOf_lt_of_mem (Array.mem_toList_iff.mp h)
       simp only [Prod.mk.sizeOf_spec] at this
       simp only [Node.object.sizeOf_spec]
       omega)

/-- The settings of a JSON text read against a record shape into a host
value: the whole value after reading, or none when the text is blank. -/
def readSettings (strict : Bool) (shape : Shape) (start : Held) (text : Bytes) :
    Except String (Option Setting) :=
  match readValue text with
  | .error e => .error e.message
  | .ok none => .ok none
  | .ok (some n) =>
    let top := ((shape.type.splitOn ".").getLast?.getD shape.type)
    (Node.decodeInto strict shape { top } start n).map fun h => some h.setting

end MudClient.Json
