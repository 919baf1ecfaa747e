/-
# Which keys a TOML document has defined

A TOML document may not define a key twice, nor reopen a table once it is
closed.  `Keys` remembers every key defined so far as a tree of entries,
each with its kind, and checks each expression against it before the
expression is acted on:

* a key and value defines its last key part as a value and every part
  before it as a table, implicitly;
* a `[table]` header defines its last part as a table, explicitly, which
  may happen once;
* an `[[array table]]` header starts a new element of an array of tables,
  forgetting what the previous element defined.

Tables defined implicitly by a dotted key are closed, with everything below
them, when the table they were defined in is left.  Inline tables are
complete in themselves: their keys are checked among themselves only.
-/
import MudClient.Toml.Syntax

namespace MudClient.Toml

/-- What a key was defined as. -/
inductive KeyKind where
  | value | table | arrayTable
deriving DecidableEq, Repr, Inhabited

def KeyKind.name : KeyKind → String
  | .value => "value"
  | .table => "table"
  | .arrayTable => "array table"

/-- A defined key: its parent's index, its name and kind, whether it is
closed to a table header, whether it was opened by a dotted key, and
whether it still counts. -/
structure KeyEntry where
  parent : Nat
  name : String
  kind : KeyKind
  closed : Bool
  dotted : Bool
  live : Bool
deriving Repr, Inhabited

/-- The keys defined so far; entry 0 is the document's root, and `current`
is the table that key-value lines go into. -/
structure Keys where
  entries : Array KeyEntry
  current : Nat
deriving Repr, Inhabited

namespace Keys

def empty : Keys :=
  { entries := #[{ parent := 0, name := "", kind := .table, closed := false, dotted := false, live := true }],
    current := 0 }

def find (ks : Keys) (parent : Nat) (name : String) : Option Nat :=
  (List.range ks.entries.size).find? fun i =>
    let e := ks.entries.getD i default
    i != 0 && e.live && e.parent == parent && e.name == name

def create (ks : Keys) (parent : Nat) (name : String) (kind : KeyKind) (closed dotted : Bool) :
    Keys × Nat :=
  ({ ks with entries := ks.entries.push { parent, name, kind, closed, dotted, live := true } },
    ks.entries.size)

def change (ks : Keys) (i : Nat) (f : KeyEntry → KeyEntry) : Keys :=
  { ks with entries := ks.entries.modify i f }

/-- Which entries lie below an entry: children come after their parents,
so one pass in order finds them all. -/
def below (ks : Keys) (top : Nat) : Array Bool :=
  (List.range ks.entries.size).foldl (fun marks i =>
    let e := ks.entries.getD i default
    let inside := i != 0 && i != top && (e.parent == top || marks.getD e.parent false)
    marks.push inside) #[]

def closeDotted (ks : Keys) (top : Nat) : Keys :=
  let marks := ks.below top
  { ks with entries := ks.entries.mapIdx fun i e =>
      if marks.getD i false && e.dotted then { e with closed := true, dotted := false } else e }

def forgetBelow (ks : Keys) (top : Nat) : Keys :=
  let marks := ks.below top
  { ks with entries := ks.entries.mapIdx fun i e =>
      if marks.getD i false then { e with live := false } else e }

/-- Walks the parts of a header's key before its last, defining the
missing ones as tables; the index of the last table walked. -/
def headerPrefix (ks : Keys) (parent : Nat) : List String → Except String (Keys × Nat)
  | [] => .ok (ks, parent)
  | k :: rest =>
    match ks.find parent k with
    | none =>
      let (ks, i) := ks.create parent k .table false false
      headerPrefix ks i rest
    | some i =>
      let e := ks.entries.getD i default
      if e.kind == .value then
        .error ("toml: expected " ++ k ++ " to be a table, not a " ++ e.kind.name)
      else headerPrefix ks i rest

def openTable (ks : Keys) (key : List String) : Except String (Keys × Bool) := do
  let ks := ks.closeDotted ks.current
  let (ks, parent) ← ks.headerPrefix 0 key.dropLast
  let k := key.getLast?.getD ""
  match ks.find parent k with
  | some i =>
    let e := ks.entries.getD i default
    if e.kind != .table then throw ("toml: key " ++ k ++ " should be a table, not a " ++ e.kind.name)
    if e.closed then throw ("toml: table " ++ k ++ " already exists")
    pure ({ ks.change i (fun e => { e with closed := true }) with current := i }, false)
  | none =>
    let (ks, i) := ks.create parent k .table true false
    pure ({ ks with current := i }, true)

def openArrayTable (ks : Keys) (key : List String) : Except String (Keys × Bool) := do
  let ks := ks.closeDotted ks.current
  let (ks, parent) ← ks.headerPrefix 0 key.dropLast
  let k := key.getLast?.getD ""
  match ks.find parent k with
  | some i =>
    let e := ks.entries.getD i default
    if e.kind != .arrayTable then
      throw ("toml: key " ++ e.kind.name ++ " already exists as a " ++ k ++ ",  but should be an array table")
    pure ({ ks.forgetBelow i with current := i }, false)
  | none =>
    let (ks, i) := ks.create parent k .arrayTable true false
    pure ({ ks with current := i }, true)

def defineParts (ks : Keys) (parent : Nat) : List String → Except String (Keys × Nat)
  | [] => .ok (ks, parent)
  | k :: rest =>
    match ks.find parent k with
    | none =>
      let (ks, i) := ks.create parent k .table false true
      defineParts ks i rest
    | some i =>
      let e := ks.entries.getD i default
      if rest.isEmpty then .error ("toml: key " ++ k ++ " is already defined")
      else if e.kind != .table then .error ("toml: expected " ++ k ++ " to be a table, not a " ++ e.kind.name)
      else if e.closed then
        .error ("toml: cannot redefine table " ++ k ++ " that has already been explicitly defined")
      else defineParts ks i rest

mutual

def checkValue : Value → Except String Unit
  | .array items => checkItems items
  | .inline pairs => do
    let _ ← checkPairs Keys.empty pairs
    pure ()
  | _ => .ok ()

def checkItems : List Value → Except String Unit
  | [] => .ok ()
  | v :: rest => do
    checkValue v
    checkItems rest

def checkPairs (ks : Keys) : List (List String × Value) → Except String Keys
  | [] => .ok ks
  | (key, v) :: rest => do
    let ks ← ks.defineValue key
    checkValue v
    checkPairs ks rest

def defineValue (ks : Keys) (key : List String) : Except String Keys := do
  let (ks, i) ← ks.defineParts ks.current key
  pure (ks.change i fun e => { e with kind := .value })

end

def define (ks : Keys) (key : List String) (v : Value) : Except String Keys := do
  let ks ← ks.defineValue key
  checkValue v
  pure ks

end Keys

end MudClient.Toml
