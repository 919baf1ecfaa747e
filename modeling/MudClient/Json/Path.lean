/-
# Paths into JSON text

A path picks a value out of JSON text without parsing the whole text: the
walk scans the text once, skipping what the path does not enter, and reads
text that is not well-formed JSON as far as it can.

A path is a list of parts separated by `.`:

* in an object, a part names a key; `*` and `?` in it match any run of
  characters and any one character, and `\` makes the next character plain;
* in an array, a part is an index counted from zero; `#` alone is the number
  of elements, and `#.rest` applies `rest` to every element, giving the
  array of the results that exist;
* `#(query)` is the first element that a query accepts, `#(query)#` the
  array of all of them; a query is a path, optionally followed by a
  comparison (`==`, `!=`, `<`, `<=`, `>`, `>=`, `%` for a wildcard match,
  `!%` for none) with a value; a value starting with `~` compares the truth
  of what the path finds;
* `|` ends a path and applies the rest to the value found;
* `@name` applies a modifier (see `MudClient.JsonPath.applyModifier`) to the
  value found, and a whole path may start with one;
* `[a,b]` and `{a,"k":b}` build an array or object of the values that
  several paths find; `!true`, `!123`, `!"text"` and the like stand for
  themselves at the start of a path;
* a path starting with `..` reads the text as a list of values, one after
  the other, as if they were the elements of an array.

Otherwise the whole text is entered at its first `{` or `[`, so a path
finds nothing in a text that is a bare number, string or literal.
-/
import MudClient.Json.Modifier

namespace MudClient.JsonPath

/-! ## Wildcards -/

/-- A piece of a wildcard pattern. -/
inductive Wild where
  /-- Any run of characters. -/
  | star
  /-- Any one character. -/
  | one
  /-- This character. -/
  | lit (c : Char)
  /-- A backslash that ends the pattern, which nothing matches. -/
  | dangling

/-- The pieces of a wildcard pattern: `*`, `?`, and a backslash that makes
the character after it plain. -/
def wildPieces : List Char → List Wild
  | [] => []
  | '*' :: r => .star :: wildPieces r
  | '?' :: r => .one :: wildPieces r
  | '\\' :: c :: r => .lit c :: wildPieces r
  | ['\\'] => [.dangling]
  | c :: r => .lit c :: wildPieces r

def wildMatches : List Wild → List Char → Bool
  | [], s => s.isEmpty
  | .star :: p, s => (List.range (s.length + 1)).any fun k => wildMatches p (s.drop k)
  | .one :: p, _ :: s => wildMatches p s
  | .lit c :: p, d :: s => c == d && wildMatches p s
  | _, _ => false

def wildMatch (text pat : Bytes) : Bool := wildMatches (wildPieces pat.chars) text.chars

/-! ## Parts of paths -/

/-- Whether the rest of a path after a dot is handed on whole, as after a
pipe: a modifier, or a path that builds an array or object. -/
def handsOn (s : Bytes) : Bool :=
  let c := s.get 0
  if c == 64 then isModifier (s.extract 1 (s.findFrom (fun b => b == 46 || b == 124 || b == 58) 1))
  else c == 91 || c == 123

/-- The first part of a path into an object: the key it names, whether
the key has wildcards, and the rest of the path, either to follow into the
value (`more`) or to apply to the value found (`piped`). -/
structure ObjectStep where
  part : Bytes := Bytes.empty
  rest : Bytes := Bytes.empty
  pipe : Bytes := Bytes.empty
  piped : Bool := false
  wild : Bool := false
  more : Bool := false

/-- The rest of a part that holds an escape, from position `k` on, with
the part so far. -/
def escapedStep (path : Bytes) (k : Nat) (part : Bytes) (wild : Bool) : ObjectStep :=
  if k < path.size then
    let c := path.get k
    if c == 92 then
      escapedStep path (k + 2) (if k + 1 < path.size then part ++ Bytes.ofByte (path.get (k + 1)) else part) wild
    else if c == 46 then
      if k + 1 < path.size && handsOn (path.drop (k + 1)) then
        { part, pipe := path.drop (k + 1), piped := true, wild }
      else { part, rest := path.drop (k + 1), more := true, wild }
    else if c == 124 then { part, pipe := path.drop (k + 1), piped := true, wild }
    else escapedStep path (k + 1) (part ++ Bytes.ofByte c) (wild || c == 42 || c == 63)
  else { part, wild }
termination_by path.size - k

/-- Splits the first part off a path into an object, from position `k`
on. -/
def objectStepFrom (path : Bytes) (k : Nat) (wild : Bool) : ObjectStep :=
  if k < path.size then
    let c := path.get k
    if c == 124 then { part := path.extract 0 k, pipe := path.drop (k + 1), piped := true, wild }
    else if c == 46 then
      if k + 1 < path.size && handsOn (path.drop (k + 1)) then
        { part := path.extract 0 k, pipe := path.drop (k + 1), piped := true, wild }
      else { part := path.extract 0 k, rest := path.drop (k + 1), more := true, wild }
    else if c == 92 then
      if k + 1 < path.size then
        escapedStep path (k + 2) (path.extract 0 k ++ Bytes.ofByte (path.get (k + 1))) wild
      else { part := path.extract 0 k, wild }
    else objectStepFrom path (k + 1) (wild || c == 42 || c == 63)
  else { part := path, wild }
termination_by path.size - k

def objectStep (path : Bytes) : ObjectStep := objectStepFrom path 0 false

/-- A query on the elements of an array: the path to follow in each, the
comparison and the value to compare with, and whether all elements that
match are wanted. -/
structure Query where
  on : Bool := false
  all : Bool := false
  path : Bytes := Bytes.empty
  op : Bytes := Bytes.empty
  value : Bytes := Bytes.empty

/-- The first part of a path into an array: the index or count it names,
a query, or a path to apply to every element (`mapKey`), and the rest of
the path as for objects. -/
structure ArrayStep where
  part : Bytes := Bytes.empty
  rest : Bytes := Bytes.empty
  pipe : Bytes := Bytes.empty
  piped : Bool := false
  more : Bool := false
  counts : Bool := false
  mapKey : Option Bytes := none
  query : Query := {}

/-- Scans a query from position `i`: where the comparison starts (`j`),
how deep in brackets the scan is, whether it is inside a string, and
whether a string held an escape; stops at the bracket that closes the
query. -/
def queryScan (q : Bytes) (i j depth : Nat) (inStr vesc : Bool) : Nat × Nat × Nat × Bool :=
  if i < q.size then
    let c := q.get i
    if inStr then
      if c == 92 then queryScan q (i + 2) j depth true true
      else if c == 34 then queryScan q (i + 1) j depth false vesc
      else queryScan q (i + 1) j depth true vesc
    else if depth == 1 && j == 0 && (c == 33 || c == 61 || c == 60 || c == 62 || c == 37) then
      queryScan q (i + 1) i depth false vesc
    else if c == 92 then queryScan q (i + 2) j depth false vesc
    else if c == 91 || c == 40 then queryScan q (i + 1) j (depth + 1) false vesc
    else if c == 93 || c == 41 then
      if depth ≤ 1 then (i, j, 0, vesc) else queryScan q (i + 1) j (depth - 1) false vesc
    else if c == 34 then queryScan q (i + 1) j depth true vesc
    else queryScan q (i + 1) j depth false vesc
  else (i, j, depth, vesc)
termination_by q.size - i

def splitComparison (v : Bytes) : Bytes × Bytes :=
  let c0 := v.get 0
  let c1 := v.get 1
  let (v, n) :=
    if v.size == 1 then (v, 1)
    else if c0 == 33 && (c1 == 61 || c1 == 37) then (v, 2)
    else if (c0 == 60 || c0 == 62) && c1 == 61 then (v, 2)
    else if c0 == 61 && c1 == 61 then (v.drop 1, 1)
    else if c0 == 60 || c0 == 62 || c0 == 61 || c0 == 37 then (v, 1)
    else (v, 0)
  (v.extract 0 n, trimBlank (v.drop n))

/-- Reads a query `#(...)` at the start of a path: its path, comparison
and value, the position after it, and whether its strings held escapes. -/
def readQuery (q : Bytes) : Option (Bytes × Bytes × Bytes × Nat × Bool) :=
  if q.size < 2 || q.get 0 != 35 || (q.get 1 != 40 && q.get 1 != 91) then none
  else
    let (i, j, depth, vesc) := queryScan q 2 0 1 false false
    if depth > 0 then none
    else if j > 0 then
      let (op, value) := splitComparison (trimBlank (q.extract j i))
      some (trimBlank (q.extract 2 j), op, value, i + 1, vesc)
    else some (trimBlank (q.extract 2 i), Bytes.empty, Bytes.empty, i + 1, vesc)

/-- Splits the first part off a path into an array, from position `k`
on. -/
def arrayStepFrom (path : Bytes) (k : Nat) (r : ArrayStep) : ArrayStep :=
  if k < path.size then
    let c := path.get k
    if c == 124 then { r with part := path.extract 0 k, pipe := path.drop (k + 1), piped := true }
    else if c == 46 then
      let r := { r with part := path.extract 0 k }
      if !r.counts && k + 1 < path.size && handsOn (path.drop (k + 1)) then
        { r with pipe := path.drop (k + 1), piped := true }
      else { r with rest := path.drop (k + 1), more := true }
    else if c == 35 then
      let r := { r with counts := true }
      if k == 0 && path.size > 1 then
        if path.get 1 == 46 then
          arrayStepFrom path (k + 1) { r with mapKey := some (path.drop 2), rest := path.extract 0 1 }
        else if path.get 1 == 91 || path.get 1 == 40 then
          match readQuery path with
          | none => { r with query := { r.query with on := true }, part := path, rest := Bytes.empty }
          | some (qpath, op, value, fi, vesc) =>
            let value :=
              if value.size ≥ 2 && value.get 0 == 34 && value.get (value.size - 1) == 34 then
                let v := value.extract 1 (value.size - 1)
                if vesc then unescape v else v
              else value
            let all := fi < path.size && path.get fi == 35
            arrayStepFrom path (max fi (k + 1))
              { r with query := { on := true, all, path := qpath, op, value } }
        else arrayStepFrom path (k + 1) r
      else arrayStepFrom path (k + 1) r
    else arrayStepFrom path (k + 1) r
  else { r with part := path, rest := Bytes.empty }
termination_by path.size - k

def arrayStep (path : Bytes) : ArrayStep := arrayStepFrom path 0 {}

/-- The index a part names: decimal digits, read as a 64-bit count; none
for anything else. -/
def indexOf? (part : Bytes) : Option Nat :=
  if part.size > 0 && part.data.all isDigit then
    let n := part.data.foldl (fun n c => (n * 10 + (c.toNat - 48)) % 18446744073709551616) 0
    if n < 9223372036854775808 then some n else none
  else none

/-- Whether a value passes a query's comparison.  A value starting with
`~` compares a truth instead: `~true` and `~false` the truth of the value,
`~null` whether it is null, `~*` whether it exists. -/
def Query.accepts (q : Query) (value : Found) : Bool :=
  let (rpv, value) : Bytes × Found :=
    if q.value.size > 0 && q.value.get 0 == 126 then
      let rpv := q.value.drop 1
      let ish : Option Bool :=
        if rpv == Bytes.ofString "*" then some value.exists
        else if rpv == Bytes.ofString "null" then some (value.kind == .null)
        else if rpv == Bytes.ofString "true" then some value.truth
        else if rpv == Bytes.ofString "false" then some !value.truth
        else none
      match ish with
      | some b => (Bytes.ofString "true", { kind := if b then .true else .false })
      | none => (Bytes.empty, {})
    else (q.value, value)
  let op := q.op.toText
  if !value.exists then false
  else if q.op.size == 0 then true
  else
    match value.kind with
    | .string =>
      let s := value.str
      if op == "=" then s == rpv
      else if op == "!=" then s != rpv
      else if op == "<" then s.lt rpv
      else if op == "<=" then !rpv.lt s
      else if op == ">" then rpv.lt s
      else if op == ">=" then !s.lt rpv
      else if op == "%" then wildMatch s rpv
      else if op == "!%" then !wildMatch s rpv
      else false
    | .number =>
      let x := value.num
      let y := numberValue rpv
      if op == "=" then x == y
      else if op == "!=" then !(x == y)
      else if op == "<" then x < y
      else if op == "<=" then x ≤ y
      else if op == ">" then x > y
      else if op == ">=" then x ≥ y
      else false
    | .true =>
      if op == "=" then rpv == Bytes.ofString "true"
      else if op == "!=" then rpv != Bytes.ofString "true"
      else if op == ">" then rpv == Bytes.ofString "false"
      else op == ">="
    | .false =>
      if op == "=" then rpv == Bytes.ofString "false"
      else if op == "!=" then rpv != Bytes.ofString "false"
      else if op == "<" then rpv == Bytes.ofString "true"
      else op == "<="
    | _ => false

/-- The position of the bracket `cl` that closes a query whose contents
start at `k`, skipping strings and escapes. -/
def closingBracket (path : Bytes) (op cl : UInt8) (k depth : Nat) (inStr : Bool) : Nat :=
  if k < path.size then
    let c := path.get k
    if inStr then
      if c == 92 then closingBracket path op cl (k + 2) depth true
      else if c == 34 then closingBracket path op cl (k + 1) depth false
      else closingBracket path op cl (k + 1) depth true
    else if c == 92 then closingBracket path op cl (k + 2) depth false
    else if c == op then closingBracket path op cl (k + 1) (depth + 1) false
    else if c == cl then (if depth ≤ 1 then k else closingBracket path op cl (k + 1) (depth - 1) false)
    else if c == 34 then closingBracket path op cl (k + 1) depth true
    else closingBracket path op cl (k + 1) depth false
  else k
termination_by path.size - k

def pipeFrom (path : Bytes) : Nat → Nat → Option (Bytes × Bytes)
  | _, 0 => none
  | i, fuel + 1 =>
    if i ≥ path.size then none
    else
      let c := path.get i
      if c == 92 then pipeFrom path (i + 2) fuel
      else if c == 124 then some (path.extract 0 i, path.drop (i + 1))
      else if c == 46 then
        if i + 1 == path.size then none
        else if path.get (i + 1) == 35 then
          let i := i + 2
          if i == path.size then none
          else
            let c := path.get i
            if c == 91 || c == 40 then
              pipeFrom path (closingBracket path c (if c == 91 then 93 else 41) (i + 1) 1 false + 1) fuel
            else pipeFrom path (i + 1) fuel
        else pipeFrom path (i + 1) fuel
      else pipeFrom path (i + 1) fuel

/-- Splits a path at its first pipe outside queries; a path that builds an
object splits only right after the object. -/
def splitPipe (path : Bytes) : Option (Bytes × Bytes) :=
  if !path.data.contains 124 then none
  else if path.get 0 == 123 then
    let sq := squashPrefix (path.drop 1)
    if sq.size < path.size - 1 then
      let left := path.extract 0 (sq.size + 1)
      let remain := path.drop (sq.size + 1)
      if remain.get 0 == 124 then some (left, remain.drop 1) else none
    else none
  else pipeFrom path 0 (path.size + 1)

/-! ## Multipaths and literals -/

/-- One path of a multipath, with the name it gives its value. -/
structure Selector where
  name : Bytes := Bytes.empty
  path : Bytes := Bytes.empty

/-- The selector between `start` and `i`, named when a colon stands at
`colon`. -/
def selectorAt (path : Bytes) (start colon i : Nat) : Selector :=
  if colon == 0 then { path := path.extract start i }
  else { name := path.extract start colon, path := path.extract (colon + 1) i }

/-- Scans the selectors of a multipath from position `i`, up to the bracket
or brace that closes it; answers the selectors and the rest of the path. -/
def selectorScan (path : Bytes) (i depth colon start modifier : Nat) (inStr : Bool)
    (sels : Array Selector) : Option (Array Selector × Bytes) :=
  if i < path.size then
    let c := path.get i
    if inStr then
      if c == 92 then selectorScan path (i + 2) depth colon start modifier true sels
      else selectorScan path (i + 1) depth colon start modifier (c != 34) sels
    else if c == 92 then selectorScan path (i + 2) depth colon start modifier false sels
    else if c == 64 then
      let modifier :=
        if modifier == 0 && i > 0 && (path.get (i - 1) == 46 || path.get (i - 1) == 124) then i else modifier
      selectorScan path (i + 1) depth colon start modifier false sels
    else if c == 58 then
      let colon := if modifier == 0 && colon == 0 && depth == 1 then i else colon
      selectorScan path (i + 1) depth colon start modifier false sels
    else if c == 44 then
      if depth == 1 then selectorScan path (i + 1) depth 0 (i + 1) 0 false (sels.push (selectorAt path start colon i))
      else selectorScan path (i + 1) depth colon start modifier false sels
    else if c == 34 then selectorScan path (i + 1) depth colon start modifier true sels
    else if c == 91 || c == 40 || c == 123 then selectorScan path (i + 1) (depth + 1) colon start modifier false sels
    else if c == 93 || c == 41 || c == 125 then
      if depth ≤ 1 then some (sels.push (selectorAt path start colon i), path.drop (i + 1))
      else selectorScan path (i + 1) (depth - 1) colon start modifier false sels
    else selectorScan path (i + 1) depth colon start modifier false sels
  else none
termination_by path.size - i

/-- The selectors of a multipath `[...]` or `{...}` and the rest of the
path. -/
def selectors (path : Bytes) : Option (List Selector × Bytes) :=
  (selectorScan path 1 1 0 1 0 false #[]).map fun (sels, rest) => (sels.toList, rest)

/-- The last part of a path: after its last dot or pipe that no backslash
escapes. -/
def lastName (path : Bytes) : Bytes :=
  let cut := (List.range path.size).reverse.find? fun i =>
    (path.get i == 124 || path.get i == 46) && !(i > 0 && path.get (i - 1) == 92)
  match cut with
  | some i => path.drop (i + 1)
  | none => path

/-- Whether a part can name a member of a built object: no control
characters, brackets, braces, parentheses, `#`, `|` or `!`. -/
def simpleName (part : Bytes) : Bool :=
  part.data.all fun c =>
    c ≥ 32 && !(c == 91 || c == 93 || c == 123 || c == 125 || c == 40 || c == 41 || c == 35 || c == 124 || c == 33)

/-- The array (`kind` a bracket) or object (`kind` a brace) text of the
values that the selectors found, those that exist; an object names each
value by its selector's name, or by the last part of its path when that is
a simple name, or else `_`. -/
def selectionText (kind : UInt8) (items : List (Selector × Found)) : Bytes :=
  let parts := items.filterMap fun (sub, res) =>
    if !res.exists then none
    else
      let key : Bytes :=
        if kind == 123 then
          let name :=
            if sub.name.size > 0 then
              if sub.name.get 0 == 34 && valid sub.name then sub.name else quoteText sub.name
            else
              let last := lastName sub.path
              quoteText (if simpleName last then last else Bytes.ofString "_")
          name ++ Bytes.ofByte 58
        else Bytes.empty
      let raw :=
        if res.raw.size > 0 then res.raw
        else
          let t := res.text
          if t.size > 0 then t else Bytes.ofString "null"
      some (key ++ raw)
  enclose kind (kind + 2) parts

/-- The end of a modifier's argument that is not JSON: up to a pipe,
taking bracketed groups and strings whole. -/
def simpleArgEnd (p : Bytes) : Nat → Nat → Nat
  | i, 0 => i
  | i, fuel + 1 =>
    if i ≥ p.size then i
    else
      let c := p.get i
      if c == 124 then i
      else
        let i := if c == 123 || c == 91 || c == 34 || c == 40 then i + max (squashPrefix (p.drop i)).size 1 - 1 else i
        simpleArgEnd p (i + 1) fuel

/-- Applies the modifier a path starts with to a text: the rest of the path
and the text the modifier makes; none when the name is no modifier's. -/
def modifierStep (json path : Bytes) : Option (Bytes × Bytes) :=
  let k := path.findFrom (fun c => c == 58 || c == 124 || c == 46) 1
  let (name, rest, hasArg) :=
    if k < path.size then
      if path.get k == 58 then (path.extract 1 k, path.drop (k + 1), decide (k + 1 < path.size))
      else (path.extract 1 k, path.drop k, false)
    else (path.drop 1, Bytes.empty, false)
  if !isModifier name then none
  else
    let (arg, rest) :=
      if hasArg then
        let c := rest.get 0
        if (c == 123 || c == 91 || c == 34) && (parseText rest).exists then
          let a := squashPrefix rest
          (a, rest.drop a.size)
        else
          let i := simpleArgEnd rest 0 (rest.size + 1)
          (rest.extract 0 i, rest.drop i)
      else (Bytes.empty, rest)
    some (rest, applyModifier name json arg)

/-- The literal a path starts with after `!`: a JSON value (taken whole by
its brackets and quotes), or `true`, `false`, `null`, `nan` or `inf` in any
case up to a dot or pipe; with the rest of the path. -/
def literalStep (path : Bytes) : Option (Bytes × Bytes) :=
  let name := path.drop 1
  let c := name.get 0
  if name.size > 0 && (c == 123 || c == 91 || c == 34 || c == 43 || c == 45 || isDigit c) then
    let (_, res) := squashAt name 0
    some (name.drop res.size, res)
  else
    let k := path.findFrom (fun b => b == 124 || b == 46) 1
    let (name, rest) := if k < path.size then (path.extract 1 k, path.drop k) else (name, Bytes.empty)
    let lower : Bytes := ⟨name.data.map fun b => if 65 ≤ b && b ≤ 90 then b + 32 else b⟩
    if ["true", "false", "null", "nan", "inf"].any (Bytes.ofString · == lower) then some (rest, name)
    else none

/-! ## Walking -/

/-- A walk through a text: the text, the value found so far, and the rest
of the path that a pipe hands on to it. -/
structure Walk where
  json : Bytes
  value : Found := {}
  pipe : Bytes := Bytes.empty
  piped : Bool := false

mutual

def get : Nat → Bytes → Bytes → Found
  | 0, _, _ => {}
  | n + 1, json, path =>
    let lead := path.get 0
    let special : Option (Bytes × Bytes) :=
      if path.size > 1 && lead == 64 then modifierStep json path
      else if path.size > 1 && lead == 33 then literalStep path
      else none
    match special with
    | some (rest, text) =>
      if rest.size > 0 && (rest.get 0 == 124 || rest.get 0 == 46) then get n text (rest.drop 1)
      else parseText text
    | none =>
      let multi : Option (List Selector × Bytes) :=
        if path.size > 1 && (lead == 91 || lead == 123) then
          match selectors path with
          | some (subs, rest) =>
            if rest.size == 0 || rest.get 0 == 124 || rest.get 0 == 46 then some (subs, rest) else none
          | none => none
        else none
      match multi with
      | some (subs, rest) =>
        let raw := selectionText lead (subs.map fun s => (s, get n json s.path))
        if rest.size > 0 then get n raw (rest.drop 1) else { kind := .json, raw }
      | none =>
        let c : Walk := { json }
        let (_, _, c) :=
          if path.size ≥ 2 && lead == 46 && path.get 1 == 46 then arrayWalk n c 0 (path.drop 2)
          else
            let k := json.findFrom (fun b => b == 123 || b == 91) 0
            if k ≥ json.size then (k, false, c)
            else if json.get k == 123 then objectWalk n c (k + 1) path
            else arrayWalk n c (k + 1) path
        if c.piped then get n c.value.raw c.pipe else c.value

/-- Walks the members of an object from position `i` for a path; answers
the position the walk stopped at, whether it found the value, and the
walk. -/
def objectWalk : Nat → Walk → Nat → Bytes → Nat × Bool × Walk
  | 0, c, i, _ => (i, false, c)
  | n + 1, c, i, path => Id.run do
    let j := c.json
    let rp := objectStep path
    let mut c := if !rp.more && rp.piped then { c with pipe := rp.pipe, piped := true } else c
    let mut i := i
    for _ in [0:j.size + 1] do
      if i ≥ j.size then break
      let q := j.findFrom (fun b => b == 34 || b == 125) i
      if q ≥ j.size then return (q, false, c)
      if j.get q == 125 then return (q + 1, false, c)
      let (e, raw, esc, ok) := stringAt j (q + 1)
      if !ok then return (e, false, c)
      let key := (Found.ofString raw esc).str
      let pmatch := if rp.wild then wildMatch key rp.part else key == rp.part
      let hit := pmatch && !rp.more
      let v := j.findFrom startsValue e
      if v ≥ j.size then return (v, false, c)
      let ch := j.get v
      if ch == 34 then
        let (e, raw, esc, ok) := stringAt j (v + 1)
        if !ok then return (e, false, c)
        if hit then
          let s := Found.ofString raw esc
          return (e, true, { c with value := { c.value with str := s.str, raw, kind := .string } })
        i := e
      else if ch == 123 || ch == 91 then
        if pmatch && !hit then
          let (e, found, c2) :=
            if ch == 123 then objectWalk n c (v + 1) rp.rest else arrayWalk n c (v + 1) rp.rest
          c := c2
          if found then return (e, true, c)
          i := e
        else
          let (e, raw) := squashAt j v
          if hit then return (e, true, { c with value := { c.value with raw, kind := .json } })
          i := e
      else if startsLiteral j v then
        let (e, raw) := literalAt j v
        if hit then
          let kind := if ch == 116 then Kind.true else if ch == 102 then Kind.false else c.value.kind
          return (e, true, { c with value := { c.value with raw, kind } })
        i := e
      else
        let (e, raw) := numberAt j v
        if hit then
          return (e, true, { c with value := { c.value with raw, kind := .number, num := numberValue raw } })
        i := e
    return (i, false, c)

/-- Walks the elements of an array from position `i` for a path; the end
of the text counts as the closing bracket.  Answers as `objectWalk`. -/
def arrayWalk : Nat → Walk → Nat → Bytes → Nat × Bool × Walk
  | 0, c, i, _ => (i, false, c)
  | n + 1, c, i, path => Id.run do
    let j := c.json
    -- Tries an element on the query: the element (or what the query's path
    -- finds in it) is compared, and a match is kept, or collected when all
    -- matches are wanted.
    let tryQuery := fun (rp : ArrayStep) (c : Walk) (multires : Bytes) (qval : Found) =>
      let multires := if rp.query.all && multires.size == 0 then Bytes.ofString "[" else multires
      let res : Option Found :=
        if qval.kind == .json then some (get n qval.raw rp.query.path)
        else if rp.query.path.size > 0 then none
        else some qval
      match res with
      | none => (false, rp, c, multires)
      | some res =>
        if !rp.query.accepts res then (false, rp, c, multires)
        else
          let (rp, c, res) :=
            if rp.more then
              match splitPipe rp.rest with
              | some (l, r) => ({ rp with rest := l }, { c with pipe := r, piped := true }, get n qval.raw l)
              | none => (rp, c, get n qval.raw rp.rest)
            else (rp, c, qval)
          if rp.query.all then
            let raw := if res.raw.size == 0 then res.text else res.raw
            if raw.size > 0 then
              (false, rp, c, (if multires.size > 1 then multires ++ Bytes.ofByte 44 else multires) ++ raw)
            else (false, rp, c, multires)
          else (true, rp, { c with value := res }, multires)
    let mut rp := arrayStep path
    let target := if rp.counts then none else indexOf? rp.part
    let mut c := if !rp.more && rp.piped then { c with pipe := rp.pipe, piped := true } else c
    let mut multires := Bytes.empty
    let mut starts : Array Nat := #[]
    let mut h := 0
    let mut i := i
    for _ in [0:j.size + 2] do
      if i > j.size then break
      let pmatch := target == some h
      let hit := pmatch && !rp.more
      h := h + 1
      if rp.mapKey.isSome then starts := starts.push i
      let v := j.findFrom (fun b => startsValue b || b == 93) i
      let ch : UInt8 := if v < j.size then j.get v else 93
      if ch == 93 then
        if rp.counts && rp.part == Bytes.ofString "#" then
          match rp.mapKey with
          | some key =>
            let (key, c2) := match splitPipe key with
              | some (l, r) => (l, { c with pipe := r, piped := true })
              | none => (key, c)
            let items := starts.toList.filterMap fun s =>
              let s := j.findFrom (fun b => !(b == 32 || b == 9 || b == 13 || b == 10)) s
              if s < j.size && j.get s != 93 then
                match anyFrom j s with
                | some (f, _) =>
                  let r := get n f.raw key
                  if r.exists then some (if r.raw.size == 0 then r.text else r.raw) else none
                | none => none
              else none
            return (v + 1, true, { c2 with value := { c2.value with kind := .json, raw := enclose 91 93 items } })
          | none =>
            let count := h - 1
            return (v + 1, true,
              { c with value := { c.value with kind := .number, num := Float.ofNat count,
                                                raw := Bytes.ofString (toString count) } })
        else
          if !c.value.exists then
            if multires.size > 0 then c := { c with value := { kind := .json, raw := multires ++ Bytes.ofByte 93 } }
            else if rp.query.all then c := { c with value := { kind := .json, raw := Bytes.ofString "[]" } }
          return (v + 1, false, c)
      else if ch == 34 then
        let (e, raw, esc, ok) := stringAt j (v + 1)
        if !ok then return (e, false, c)
        i := e
        let s := Found.ofString raw esc
        if rp.query.on then
          let (m, rp2, c2, mr) := tryQuery rp c multires s
          rp := rp2
          c := c2
          multires := mr
          if m then return (e, true, c)
        else if hit then
          return (e, true, { c with value := { c.value with str := s.str, raw, kind := .string } })
      else if ch == 123 || ch == 91 then
        if pmatch && !hit then
          let (e, found, c2) :=
            if ch == 123 then objectWalk n c (v + 1) rp.rest else arrayWalk n c (v + 1) rp.rest
          c := c2
          i := e
          if found then return (e, true, c)
        else
          let (e, raw) := squashAt j v
          i := e
          if rp.query.on then
            let (m, rp2, c2, mr) := tryQuery rp c multires { kind := .json, raw }
            rp := rp2
            c := c2
            multires := mr
            if m then return (e, true, c)
          else if hit then return (e, true, { c with value := { c.value with raw, kind := .json } })
      else if startsLiteral j v then
        let (e, raw) := literalAt j v
        i := e
        if rp.query.on then
          let (m, rp2, c2, mr) := tryQuery rp c multires { kind := literalKind ch, raw }
          rp := rp2
          c := c2
          multires := mr
          if m then return (e, true, c)
        else if hit then
          let kind := if ch == 116 then Kind.true else if ch == 102 then Kind.false else c.value.kind
          return (e, true, { c with value := { c.value with raw, kind } })
      else
        let (e, raw) := numberAt j v
        i := e
        let num := Found.ofNumber raw
        if rp.query.on then
          let (m, rp2, c2, mr) := tryQuery rp c multires num
          rp := rp2
          c := c2
          multires := mr
          if m then return (e, true, c)
        else if hit then
          return (e, true, { c with value := { c.value with raw, kind := .number, num := num.num } })
    return (i, false, c)

end

def query (json path : Bytes) : Found :=
  get (2 * (json.size + path.size) + 8) json path

end MudClient.JsonPath
