/-
# Modifiers of JSON text

A modifier turns one JSON text into another; a path applies it with
`@name`, optionally followed by `:` and an argument.  Each works on the
lenient reading of `MudClient.JsonPath.Found`, so a text that is not what a
modifier expects is mostly passed through unchanged:

* `@this` keeps the text; `@valid` keeps it only when it is well-formed;
* `@reverse` reverses an array, or the members of an object;
* `@flatten` splices nested arrays into their parent, all the way down
  with the option `deep`;
* `@join` merges an array of objects into one, the last value of a
  repeated key winning at the place of its first appearance (or keeps every
  member with the option `preserve`);
* `@keys` and `@values` list the keys and the values of an object;
* `@group` turns an object of arrays into an array of objects;
* `@tostr` writes the text as a JSON string, `@fromstr` reads a JSON string
  back as text;
* `@ugly` removes all blanks outside strings, `@pretty` lays the text out
  one member to a line, keeping short arrays on one line.
-/
import MudClient.Json.Found
import MudClient.Text.Space

namespace MudClient.JsonPath

def enclose (op cl : UInt8) (items : List Bytes) : Bytes :=
  ⟨((items.intersperse (Bytes.ofByte 44)).foldl (fun acc b => acc ++ b.data) #[op]).push cl⟩

/-- The value of an option in an argument: the last entry of the argument
whose key reads as the name. -/
def optionOf (arg : Bytes) (name : String) : Option Found :=
  (parseText arg).entries.foldl
    (fun acc (k, v) => if k.text == Bytes.ofString name then some v else acc) none

/-- Whether an option in an argument is set to a value that reads as
true. -/
def optionSet (arg : Bytes) (name : String) : Bool :=
  arg.size > 0 && ((optionOf arg name).map Found.truth).getD false

def trimSpaceBytes (s : Bytes) : Bytes :=
  let rec marks (k : Nat) (fuel : Nat) : List (Nat × Char × Nat) :=
    match fuel with
    | 0 => []
    | fuel + 1 =>
      if k < s.size then
        let (c, w) := decodeAt s.data k
        let w := max w 1
        (k, c, w) :: marks (k + w) fuel
      else []
  let ms := marks 0 (s.size + 1)
  let a := ((ms.find? fun (_, c, _) => !Text.isSpace c).map (·.1)).getD s.size
  let b := ms.foldl (fun e (k, c, w) => if k ≥ a && !Text.isSpace c then k + w else e) a
  s.extract a b

/-- The members of an array or object text without its brackets, blanks
at either end removed first. -/
def unwrap (json : Bytes) : Bytes :=
  let json := trimBlank json
  if json.size ≥ 2 && (json.get 0 == 91 || json.get 0 == 123) then json.extract 1 (json.size - 1)
  else json

/-- An array reversed, or an object with its members reversed; any other
text as it is. -/
def reverseText (json : Bytes) : Bytes :=
  let res := parseText json
  if res.isArray then enclose 91 93 (res.entries.toList.reverse.map (·.2.raw))
  else if res.isObject then
    enclose 123 125 (res.entries.toList.reverse.map fun (k, v) => k.raw ++ Bytes.ofByte 58 ++ v.raw)
  else json

/-- An array with the elements of its nested arrays spliced in, to every
depth when `deep`; any other text as it is. -/
def flattenText (deep : Bool) : Nat → Bytes → Bytes
  | 0, json => json
  | n + 1, json =>
    let res := parseText json
    if !res.isArray then json
    else
      let parts := res.entries.toList.filterMap fun (_, v) =>
        let raw := if v.isArray then unwrap (if deep then flattenText deep n v.raw else v.raw) else v.raw
        let raw := trimSpaceBytes raw
        if raw.size > 0 then some raw else none
      enclose 91 93 parts

/-- The objects of an array merged into one: every member kept when
`preserve`, otherwise each key once, at its first place, with its last
value; any other text as it is. -/
def joinText (preserve : Bool) (json : Bytes) : Bytes :=
  let res := parseText json
  if !res.isArray then json
  else
    let objects := (res.entries.toList.map (·.2)).filter (·.isObject)
    if preserve then enclose 123 125 (objects.map fun v => unwrap v.raw)
    else
      let (keys, vals) := objects.foldl (fun (acc : Array Found × Array (Bytes × Found)) v =>
        v.entries.foldl (fun (keys, vals) (k, x) =>
          let name := k.text
          if vals.any (·.1 == name) then
            (keys, vals.map fun (m, y) => if m == name then (m, x) else (m, y))
          else (keys.push k, vals.push (name, x))) acc) (#[], #[])
      enclose 123 125 (keys.toList.map fun k =>
        k.raw ++ Bytes.ofByte 58 ++ (((vals.find? (·.1 == k.text)).map (·.2.raw)).getD Bytes.empty))

/-- The keys of an object as an array; a null for each entry of anything
else, and an empty array for nothing. -/
def keysText (json : Bytes) : Bytes :=
  let v := parseText json
  if !v.exists then Bytes.ofString "[]"
  else
    let obj := v.isObject
    enclose 91 93 (v.entries.toList.map fun (k, _) => if obj then k.raw else Bytes.ofString "null")

/-- The values of an object as an array; an array as it is, and an empty
array for nothing. -/
def valuesText (json : Bytes) : Bytes :=
  let v := parseText json
  if !v.exists then Bytes.ofString "[]"
  else if v.isArray then json
  else enclose 91 93 (v.entries.toList.map (·.2.raw))

/-- An object of arrays as an array of objects: the `i`-th object holds
the `i`-th element of each array under the array's key.  Nothing when the
text is no object. -/
def groupText (json : Bytes) : Bytes :=
  let res := parseText json
  if !res.isObject then Bytes.empty
  else
    let rows : Array Bytes := res.entries.foldl (fun rows (k, v) =>
      if !v.isArray then rows
      else
        (v.entries.foldl (fun (rows, idx) (_, x) =>
          let piece := Bytes.ofByte 44 ++ k.raw ++ Bytes.ofByte 58 ++ x.raw
          (if idx < rows.size then rows.modify idx (· ++ piece) else rows.push piece, idx + 1))
          (rows, 0)).1) #[]
    enclose 91 93 (rows.toList.map fun row => Bytes.ofByte 123 ++ row.drop 1 ++ Bytes.ofByte 125)

/-! ## Layout -/

def uglyFrom (src : Bytes) : Nat → Nat → Array UInt8 → Array UInt8
  | _, 0, acc => acc
  | i, fuel + 1, acc =>
    if i ≥ src.size then acc
    else
      let c := src.get i
      if c ≤ 32 then uglyFrom src (i + 1) fuel acc
      else if c == 34 then
        let e := (stringEnd src (i + 1) (i + 1) false).1
        let stop := if e < src.size then e + 1 else src.size
        uglyFrom src stop fuel (acc ++ (src.extract i stop).data)
      else uglyFrom src (i + 1) fuel (acc.push c)

def uglyText (json : Bytes) : Bytes := ⟨uglyFrom json 0 (json.size + 1) #[]⟩

/-- How a text is laid out: the width an array may take on one line, the
margin that starts every line, and the indentation of one level. -/
structure Layout where
  width : Int := 80
  margin : Bytes := Bytes.empty
  indent : Bytes := Bytes.ofString "  "

/-- A written text with a line break at its end: the space it ends with
becomes the break. -/
def breakLine (buf : Array UInt8) : Array UInt8 :=
  if buf.back? == some 32 then buf.set! (buf.size - 1) 10 else buf.push 10

/-- A written text followed by the margin and `tabs` levels of
indentation. -/
def appendTabs (buf : Array UInt8) (o : Layout) (tabs : Nat) : Array UInt8 :=
  (List.range tabs).foldl (fun b _ => b ++ o.indent.data) (buf ++ o.margin.data)

def copyString (buf : Array UInt8) (json : Bytes) (i : Nat) : Array UInt8 × Nat :=
  let e := (stringEnd json (i + 1) (i + 1) false).1
  let stop := if e < json.size then e + 1 else json.size
  (buf ++ (json.extract i stop).data, stop)

def copyNumber (buf : Array UInt8) (json : Bytes) (i : Nat) : Array UInt8 × Nat :=
  let e := json.findFrom (fun c => c ≤ 32 || c == 44 || c == 58 || c == 93 || c == 125) (i + 1)
  (buf ++ (json.extract i e).data, e)

def startsLaid (c : UInt8) : Bool :=
  c == 34 || isDigit c || c == 45 || c == 123 || c == 91 || c == 116 || c == 102 || c == 110

mutual

/-- Writes the value from position `i` on, `tabs` levels deep, over lines
(when `pretty`) or on one line no longer than `max` (when `max` is not
`-1`); answers the text written, the position after the value, where the
last line starts, and whether the value fit. -/
def layAny : Nat → Layout → Bytes → Array UInt8 → Nat → Bool → Nat → Nat → Int →
    Array UInt8 × Nat × Nat × Bool
  | 0, _, _, buf, i, _, _, nl, _ => (buf, i, nl, true)
  | f + 1, o, json, buf, i, pretty, tabs, nl, max =>
    let k := json.findFrom startsLaid i
    if k ≥ json.size then (buf, k, nl, true)
    else
      let c := json.get k
      if c == 34 then let (b, e) := copyString buf json k; (b, e, nl, true)
      else if isDigit c || c == 45 then let (b, e) := copyNumber buf json k; (b, e, nl, true)
      else if c == 123 then layGroup f o json buf k 123 125 pretty tabs nl max
      else if c == 91 then layGroup f o json buf k 91 93 pretty tabs nl max
      else if c == 116 then (buf ++ #[116, 114, 117, 101], k + 4, nl, true)
      else if c == 102 then (buf ++ #[102, 97, 108, 115, 101], k + 5, nl, true)
      else (buf ++ #[110, 117, 108, 108], k + 4, nl, true)

/-- Writes the array or object opening with `op` at `i`: an array that fits
in the width goes on one line, otherwise each member goes on a line of its
own. -/
def layGroup : Nat → Layout → Bytes → Array UInt8 → Nat → UInt8 → UInt8 → Bool → Nat → Nat → Int →
    Array UInt8 × Nat × Nat × Bool
  | 0, _, _, buf, i, _, _, _, _, nl, _ => (buf, i, nl, false)
  | f + 1, o, json, buf, i, op, cl, pretty, tabs, nl, max =>
    let single : Option (Array UInt8 × Nat × Nat × Bool) :=
      if o.width > 0 then
        if pretty && op == 91 && max == -1 then
          let room : Int := o.width - ((buf.size : Int) - nl)
          if room > 3 then
            let (b, e, _, ok) := layGroup f { o with indent := Bytes.empty } json buf i 91 93 false 0 0 room
            if ok && (b.size : Int) - buf.size ≤ room then some (b, e, nl, true) else none
          else none
        else if max != -1 && op == 123 then some (buf, i, nl, false)
        else none
      else none
    match single with
    | some r => r
    | none => Id.run do
      let mut buf := buf.push op
      let mut k := i + 1
      let mut nl := nl
      let mut n := 0
      for _ in [0:json.size + 1] do
        if k ≥ json.size then break
        let c := json.get k
        if c ≤ 32 then
          k := k + 1
        else if c == cl then
          if pretty then
            if n > 0 then
              nl := buf.size
              buf := breakLine buf
            if buf.back? != some op then buf := appendTabs buf o tabs
          return (buf.push cl, k + 1, nl, op != 123)
        else if op == 91 || c == 34 then
          if n > 0 then
            buf := buf.push 44
            if o.width != -1 && op == 91 then buf := buf.push 32
          if pretty then
            nl := buf.size
            buf := breakLine buf
            buf := appendTabs buf o (tabs + 1)
          if op == 123 then
            let (b, e) := copyString buf json k
            buf := b.push 58
            if pretty then buf := buf.push 32
            k := e
          let (b, e, nl2, ok) := layAny f o json buf k pretty (tabs + 1) nl max
          buf := b
          k := e
          nl := nl2
          if max != -1 && !ok then return (buf, k, nl, false)
          n := n + 1
        else
          k := k + 1
      return (buf, k, nl, op != 123)

end

def prettyText (o : Layout) (json : Bytes) : Bytes :=
  let (buf, _, _, _) := layAny (2 * json.size + 2) o json o.margin.data 0 true 0 0 (-1)
  ⟨if buf.size > 0 then buf.push 10 else buf⟩

/-- The whole number a value reads as: one for true, a string of decimal
digits, a number cut toward zero; zero otherwise. -/
def Found.integer (f : Found) : Int :=
  match f.kind with
  | .true => 1
  | .string =>
    let (neg, ds) := if f.str.get 0 == 45 then (true, f.str.data.toList.drop 1) else (false, f.str.data.toList)
    if ds.isEmpty || !ds.all isDigit then 0
    else
      let n : Int := ds.foldl (fun n c => n * 10 + (c.toNat - 48 : Nat)) 0
      if neg then -n else n
  | .number =>
    if f.num.abs ≤ 9007199254740991 then
      let t := f.num.abs.floor
      if f.num < 0 then -(t.toUInt64.toNat : Int) else (t.toUInt64.toNat : Int)
    else 0
  | _ => 0

/-- The layout an argument asks for: `width`, `prefix` and `indent` change
the defaults. -/
def layoutOf (arg : Bytes) : Layout :=
  (parseText arg).entries.foldl (fun o (k, v) =>
    let name := k.text
    if name == Bytes.ofString "indent" then { o with indent := v.text }
    else if name == Bytes.ofString "prefix" then { o with margin := v.text }
    else if name == Bytes.ofString "width" then { o with width := v.integer }
    else o) {}

/-! ## Applying modifiers -/

def modifierNames : List String :=
  ["pretty", "ugly", "reverse", "this", "flatten", "join", "valid", "keys", "values", "tostr",
   "fromstr", "group"]

def isModifier (name : Bytes) : Bool := modifierNames.any fun m => Bytes.ofString m == name

def applyModifier (name json arg : Bytes) : Bytes :=
  if name == Bytes.ofString "pretty" then prettyText (layoutOf arg) json
  else if name == Bytes.ofString "ugly" then uglyText json
  else if name == Bytes.ofString "reverse" then reverseText json
  else if name == Bytes.ofString "flatten" then flattenText (optionSet arg "deep") (json.size + 1) json
  else if name == Bytes.ofString "join" then joinText (optionSet arg "preserve") json
  else if name == Bytes.ofString "valid" then (if valid json then json else Bytes.empty)
  else if name == Bytes.ofString "keys" then keysText json
  else if name == Bytes.ofString "values" then valuesText json
  else if name == Bytes.ofString "tostr" then quoteText json
  else if name == Bytes.ofString "fromstr" then (if valid json then (parseText json).text else Bytes.empty)
  else if name == Bytes.ofString "group" then groupText json
  else json

end MudClient.JsonPath
