/-
# Reading settings from TOML

`readSettings` reads a TOML document against a record shape, one
expression at a time, as a reader that fills a value in place would:

* a `[table]` header selects the table that the key-value lines after it
  go into; a header through a list selects the list's last element;
* an `[[array table]]` header adds a new element to a list of records and
  selects it;
* a key-value line sets one setting, through the records its dotted key
  names.

Record fields are found by name exactly, or else by the name in lower case.
A header that names no field skips the lines after it up to the next
header; when the reader is strict, such a header or a key that names no
field makes the whole document fail once it has been read.

The first fault stops reading: a key defined twice, a value of the wrong
type, a number that does not read, or a syntax fault in the text, which
shows only once every expression before it has been acted on.  A fault of
type names the innermost record field the value was going into, by the
host's own name of that field.  A duration is read from the value's text,
whatever its type.
-/
import MudClient.Toml.Keys
import MudClient.Schema.Basic
import MudClient.Number.Parse
import MudClient.Text.Case
import MudClient.Text.Quote
import MudClient.Time.Duration

namespace MudClient.Toml

open MudClient.Schema

/-! ### Numbers -/

/-- Removes the underscores of an integer's digits, which must each stand
between two digits. -/
def integerDigits (s : List Char) : Except String (List Char) :=
  let body := match s with
    | '+' :: r => r | '-' :: r => r | r => r
  if body.isEmpty then .ok s
  else if body.head? == some '_' then .error "number cannot start with underscore"
  else if s.getLast? == some '_' then .error "number cannot end with underscore"
  else if s.all (· != '_') then .ok s
  else
    let rec go (before : Bool) : List Char → Except String (List Char)
      | [] => .ok []
      | '_' :: r =>
        if !before then .error "number must have at least one digit between underscores"
        else go false r
      | c :: r => (go true r).map (c :: ·)
    match s with
    | c :: r => (go false r).map (c :: ·)
    | [] => .ok []

def readDigitsIn (base : Nat) (s : List Char) : Except Number.IntError Int :=
  let digit (c : Char) : Option Nat :=
    if c.isDigit then some (c.toNat - 48)
    else if 'a' ≤ c && c ≤ 'z' then some (c.toNat - 87)
    else if 'A' ≤ c && c ≤ 'Z' then some (c.toNat - 55)
    else none
  let rec go (n : Nat) : List Char → Except Number.IntError Nat
    | [] => .ok n
    | c :: r =>
      match digit c with
      | some d =>
        if d ≥ base then .error .malformed
        else
          let m := n * base + d
          if m ≥ Nat.pow 2 64 then .error .range else go m r
      | none => .error .malformed
  if s.isEmpty then .error .malformed
  else
    match go 0 s with
    | .ok n => if n ≥ Nat.pow 2 63 then .error .range else .ok n
    | .error e => .error e

def conversionFault (what : String) (text : List Char) : Number.IntError → String
  | .malformed => "couldn't parse " ++ what ++ " number: strconv.ParseInt: parsing " ++
      Text.quote (String.ofList text) ++ ": invalid syntax"
  | .range => "couldn't parse " ++ what ++ " number: strconv.ParseInt: parsing " ++
      Text.quote (String.ofList text) ++ ": value out of range"

/-- Reads an integer's text: decimal with an optional sign, or with a
`0x`, `0o` or `0b` prefix and digits after it; a prefix with nothing after
it reads as a decimal number, one with a leading zero. -/
def readInteger (text : String) : Except String Int :=
  match text.toList with
  | '0' :: p :: rest@(_ :: _) =>
    let base : Option (Nat × String) :=
      if p == 'x' then some (16, "hexadecimal") else if p == 'o' then some (8, "octal")
      else if p == 'b' then some (2, "binary") else none
    match base with
    | some (b, what) => do
      let digits ← integerDigits rest
      match readDigitsIn b digits with
      | .ok n => .ok n
      | .error e => .error (conversionFault what digits e)
    | none => decimal text.toList
  | s => decimal s
where
  decimal (s : List Char) : Except String Int := do
    let digits ← integerDigits s
    let body := match digits with
      | '+' :: r => r | '-' :: r => r | r => r
    if body.length > 1 && body.head? == some '0' then
      throw "leading zero not allowed on decimal number"
    match Number.readInt digits with
    | .ok n => pure n
    | .error e => throw (conversionFault "decimal" digits e)

/-- Removes the underscores of a float's text, which must each stand
between two digits. -/
def floatDigits (s : List Char) : Except String (List Char) :=
  if s.head? == some '_' then .error "number cannot start with underscore"
  else if s.getLast? == some '_' then .error "number cannot end with underscore"
  else if s.all (· != '_') then .ok s
  else
    let rec go (prev : Option Char) (before : Bool) : List Char → Except String (List Char)
      | [] => .ok []
      | '_' :: r =>
        if !before then .error "number must have at least one digit between underscores"
        else if r.head? == some 'e' || r.head? == some 'E' then
          .error "cannot have underscore before exponent"
        else go (some '_') false r
      | c :: r =>
        if c == '+' || c == '-' then (go (some c) false r).map (c :: ·)
        else if c == 'e' || c == 'E' then
          if r.head? == some '_' then .error "cannot have underscore after exponent"
          else (go (some c) before r).map (c :: ·)
        else if c == '.' then
          if r.head? == some '_' then .error "cannot have underscore after decimal point"
          else if prev == some '_' then .error "cannot have underscore before decimal point"
          else (go (some c) before r).map (c :: ·)
        else (go (some c) true r).map (c :: ·)
    go none false s

def checkFloat (text : String) : Except String Unit := do
  let s := text.toList
  if s == ['+', 'n', 'a', 'n'] || s == ['-', 'n', 'a', 'n'] then return ()
  let c ← floatDigits s
  if c.head? == some '.' then throw "float cannot start with a dot"
  if c.getLast? == some '.' then throw "float cannot end with a dot"
  let arr := c.toArray
  let dots := (List.range arr.size).filter fun i => arr.getD i ' ' == '.'
  if dots.length > 1 then throw "float can have at most one decimal point"
  for i in dots do
    if !(arr.getD (i - 1) ' ').isDigit then throw "float decimal point must be preceded by a digit"
    if !(arr.getD (i + 1) ' ').isDigit then throw "float decimal point must be followed by a digit"
  let body := match c with
    | '+' :: r => r | '-' :: r => r | r => r
  match body with
  | '0' :: d :: _ => if d.isDigit then throw "float integer part cannot have leading zeroes"
  | _ => pure ()
  match Number.readFloat? c with
  | some (_, true) => pure ()
  | some (_, false) => throw ("unable to parse float: strconv.ParseFloat: parsing " ++
      Text.quote (String.ofList c) ++ ": value out of range")
  | none => throw ("unable to parse float: strconv.ParseFloat: parsing " ++
      Text.quote (String.ofList c) ++ ": invalid syntax")

/-! ### Dates and times -/

def decimalOf (cs : List Char) : Except String Nat :=
  cs.foldlM (fun n c => if c.isDigit then .ok (n * 10 + (c.toNat - 48)) else .error "expected digit (0-9)") 0

def daysIn (month year : Nat) : Nat :=
  if month == 2 then
    if year % 4 == 0 && (year % 100 != 0 || year % 400 == 0) then 29 else 28
  else if month == 4 || month == 6 || month == 9 || month == 11 then 30
  else 31

def checkDate (cs : List Char) : Except String Unit := do
  if cs.length != 10 || cs.getD 4 ' ' != '-' || cs.getD 7 ' ' != '-' then
    throw "dates are expected to have the format YYYY-MM-DD"
  let year ← decimalOf (cs.take 4)
  let month ← decimalOf ((cs.drop 5).take 2)
  let day ← decimalOf ((cs.drop 8).take 2)
  if !(0 < month && month < 13 && 0 < day && day ≤ daysIn month year) then throw "impossible date"

/-- Checks a time `HH:MM:SS[.fraction]` at the start of some characters and
answers the characters after it. -/
def checkTime (cs : List Char) : Except String (List Char) := do
  if cs.length < 8 then throw "times are expected to have the format HH:MM:SS[.NNNNNN]"
  let hour ← decimalOf (cs.take 2)
  if hour > 23 then throw "hour cannot be greater 23"
  if cs.getD 2 ' ' != ':' then throw "expecting colon between hours and minutes"
  let minute ← decimalOf ((cs.drop 3).take 2)
  if minute > 59 then throw "minutes cannot be greater 59"
  if cs.getD 5 ' ' != ':' then throw "expecting colon between minutes and seconds"
  let second ← decimalOf ((cs.drop 6).take 2)
  if second > 60 then throw "seconds cannot be greater 60"
  let rest := cs.drop 8
  match rest with
  | '.' :: frac =>
    let digits := frac.takeWhile Char.isDigit
    if digits.isEmpty then
      if frac.isEmpty then throw "nanoseconds need at least one digit"
      else throw "need at least one digit after fraction point"
    pure (frac.drop digits.length)
  | _ => pure rest

/-- Checks a date and time separated by `T`, `t` or a space, and answers
the characters after it. -/
def checkLocalDateTime (cs : List Char) : Except String (List Char) := do
  if cs.length < 11 then
    throw "local datetimes are expected to have the format YYYY-MM-DDTHH:MM:SS[.NNNNNNNNN]"
  checkDate (cs.take 10)
  let sep := cs.getD 10 ' '
  if sep != 'T' && sep != ' ' && sep != 't' then throw "datetime separator is expected to be T or a space"
  checkTime (cs.drop 11)

def checkZone (cs : List Char) : Except String Unit := do
  let rest ← match cs with
    | 'Z' :: r | 'z' :: r => pure r
    | _ => do
      if cs.length != 6 then throw "invalid date-time timezone"
      let sign := cs.getD 0 ' '
      if sign != '+' && sign != '-' then throw "invalid timezone offset character"
      if cs.getD 3 ' ' != ':' then throw "expected a : separator"
      let hours ← decimalOf ((cs.drop 1).take 2)
      if hours > 23 then throw "invalid timezone offset hours"
      let minutes ← decimalOf ((cs.drop 4).take 2)
      if minutes > 59 then throw "invalid timezone offset minutes"
      pure (cs.drop 6)
  if !rest.isEmpty then throw "extra bytes at the end of the timezone"

def checkDateTime (kind : TimeKind) (t : String) : Except String Unit := do
  let cs := t.toList
  match kind with
  | .localDate => checkDate cs
  | .localTime =>
    let rest ← checkTime cs
    if !rest.isEmpty then throw "extra characters at the end of a local time"
  | .localDateTime =>
    let rest ← checkLocalDateTime cs
    if !rest.isEmpty then throw "extra characters at the end of a local date time"
  | .offsetDateTime =>
    let rest ← checkLocalDateTime cs
    if rest.isEmpty then throw "date time should have a timezone"
    checkZone rest

/-! ### Where settings go -/

/-- One step from a setting to a part of it: a named field of a record or
entry of a map, or the last element of a list. -/
inductive Step where
  | field (name : String)
  | last
deriving DecidableEq, Repr

def putNamed {α : Type} (as : List (String × α)) (k : String) (v : α) : List (String × α) :=
  if as.any (·.1 == k) then as.map fun (n, t) => if n == k then (n, v) else (n, t)
  else as ++ [(k, v)]

/-- Changes what lies at a path.  A record on the way that does not exist
yet is created when something is set in it; an element that does not
exist stays absent. -/
def alter : List Step → (Option Setting → Option Setting) → Option Setting → Option Setting
  | [], f, s => f s
  | .field k :: rest, f, some (.record as) =>
    match alter rest f (as.lookup k) with
    | some v => some (.record (putNamed as k v))
    | none => some (.record as)
  | .field k :: rest, f, none =>
    (alter rest f none).map fun v => .record [(k, v)]
  | .last :: rest, f, some (.list items) =>
    match items.getLast? with
    | some (some x) =>
      match alter rest f (some x) with
      | some v => some (.list (items.dropLast ++ [some v]))
      | none => some (.list items)
    | _ => some (.list items)
  | _, _, s => s

def lookupAt : List Step → Option Setting → Option Setting
  | [], s => s
  | .field k :: rest, some (.record as) => lookupAt rest (as.lookup k)
  | .last :: rest, some (.list items) => lookupAt rest (items.getLast?.getD none)
  | _, _ => none

def setField (path : List Step) (name : String) (s : Setting) (doc : Option Setting) : Option Setting :=
  alter path (fun cur => some (.record (putNamed (cur.map Setting.assigns |>.getD []) name s))) doc

def setEntry (path : List Step) (k v : String) (doc : Option Setting) : Option Setting :=
  alter path (fun cur =>
    let kvs := match cur with
      | some (.entries kvs) => kvs
      | _ => []
    some (.entries (putNamed kvs k v))) doc

def addElement (path : List Step) (x : Setting) (doc : Option Setting) : Option Setting :=
  alter path (fun cur =>
    let items := match cur with
      | some (.list items) => items
      | _ => []
    some (.list (items ++ [some x]))) doc

def zeroOf : Shape → Setting
  | .text _ => .text ""
  | .flag => .flag false
  | .whole _ => .whole 0
  | .span .. => .span 0
  | .list .. => .clear
  | .textMap _ => .clear
  | .record .. => .record []

def selectField (fields : List (String × Shape)) (k : String) : Option (String × Shape) :=
  match fields.find? (·.1 == k) with
  | some f => some f
  | none =>
    let low := Text.lower k
    fields.find? fun f => f.1 == low || Text.lower f.1 == low

/-- A record field as fault messages name it: the record's type, the
host's name of the field, and the field's type. -/
structure Member where
  record : String
  field : String
  type : String
deriving Repr

/-- Where a dotted key leads from a table. -/
inductive Target where
  /-- A field of the record at a path. -/
  | field (path : List Step) (name : String) (shape : Shape)
  /-- An entry of the map at a path. -/
  | entry (path : List Step) (key : String)
  /-- A field the record does not have. -/
  | unknown
  /-- Into a value that is neither a record nor a map: nothing changes. -/
  | nowhere
deriving Repr

/-- Follows a dotted key from a table of a shape at a path: the target,
the record field last passed, and whether a record field was passed. -/
def locate (shape : Shape) (path : List Step) (member : Option Member) (passed : Bool) :
    List String → Target × Option Member × Bool
  | [] => (.nowhere, member, passed)
  | k :: rest =>
    match shape with
    | .record t fields members =>
      match selectField fields k with
      | none => (.unknown, member, passed)
      | some (name, fs) =>
        let m := some ⟨t, (members.lookup name).getD name, fs.type⟩
        if rest.isEmpty then (.field path name fs, m, true)
        else locate fs (path ++ [.field name]) m true rest
    | .textMap _ => if rest.isEmpty then (.entry path k, member, passed) else (.nowhere, member, passed)
    | _ => (.nowhere, member, passed)

/-! ### Values -/

/-- What reading values keeps track of: the record field a fault of type
names, and whether a key named no field. -/
structure Marks where
  member : Option Member
  missing : Bool
deriving Repr

abbrev Decoding := StateT Marks (Except String)

def Value.kindName : Value → String
  | .string _ => "string"
  | .integer _ => "integer"
  | .float _ => "float"
  | .bool .. => "boolean"
  | .dateTime .offsetDateTime _ => "datetime"
  | .dateTime .localDateTime _ => "local datetime"
  | .dateTime .localDate _ => "local date"
  | .dateTime .localTime _ => "local time"
  | .array _ => "array"
  | .inline _ => "inline table"

def Value.text : Value → String
  | .string s => s
  | .integer t => t
  | .float t => t
  | .bool _ t => t
  | .dateTime _ t => t
  | _ => ""

/-- The kind of host value behind a shape, as faults about floats name
it. -/
def shapeKind : Shape → String
  | .text _ => "string"
  | .flag => "bool"
  | .whole t => t
  | .span _ _ => "int64"
  | .list .. => "slice"
  | .textMap _ => "map"
  | .record .. => "struct"

def mismatch {α : Type} (v : Value) (shape : Shape) : Decoding α := do
  let m ← get
  match m.member with
  | some f => throw ("toml: cannot decode TOML " ++ v.kindName ++ " into struct field " ++ f.record ++ "." ++
      f.field ++ " of type " ++ f.type)
  | none => throw ("toml: cannot decode TOML " ++ v.kindName ++ " into a Go value of type " ++ shape.type)

def orFault {α : Type} : Except String α → Decoding α
  | .ok a => pure a
  | .error e => throw ("toml: " ++ e)

def spanOf (v : Value) : Decoding Setting :=
  match Time.parse v.text with
  | .ok d => pure (.span d)
  | .error e => throw ("toml: " ++ e)

/-- What a value that is neither an array nor a table sets a setting to.
A number's text is read before its type is checked against the setting. -/
def decodeScalar (shape : Shape) (v : Value) : Decoding Setting :=
  match shape, v with
  | .span _ true, _ => spanOf v
  | .text _, .string s => pure (.text s)
  | _, .integer t => do
    let n ← orFault (readInteger t)
    match shape with
    | .whole _ => pure (.whole n)
    | .span _ false => pure (.span n)
    | _ => mismatch v shape
  | _, .float t => do
    orFault (checkFloat t)
    throw ("toml: float cannot be assigned to " ++ shapeKind shape)
  | _, .dateTime kind t => do
    orFault (checkDateTime kind t)
    mismatch v shape
  | .flag, .bool b _ => pure (.flag b)
  | _, .bool b _ => throw ("toml: cannot assign boolean to a " ++ (if b then "true" else "false"))
  | _, _ => mismatch v shape

mutual

def decodeValue (shape : Shape) : Value → Decoding Setting
  | v@(.array items) =>
    match shape with
    | .span _ true => spanOf v
    | .list _ item => do
      let xs ← decodeItems item items
      pure (.list (xs.map some))
    | _ => mismatch v shape
  | v@(.inline pairs) =>
    match shape with
    | .span _ true => spanOf v
    | .record .. => do
      let doc ← decodePairs shape [] (some (.record [])) pairs
      pure (doc.getD (.record []))
    | .textMap _ => do
      let doc ← decodePairs shape [] (some (.entries [])) pairs
      pure (doc.getD (.entries []))
    | _ => mismatch v shape
  | v => decodeScalar shape v

def decodeItems (item : Shape) : List Value → Decoding (List Setting)
  | [] => pure []
  | v :: rest => do
    let x ← decodeValue item v
    let xs ← decodeItems item rest
    pure (x :: xs)

/-- Sets what key-value pairs set in the record or map of a shape at a
path. -/
def decodePairs (shape : Shape) (base : List Step) (doc : Option Setting) :
    List (List String × Value) → Decoding (Option Setting)
  | [] => pure doc
  | (key, v) :: rest => do
    let m ← get
    let (target, member, passed) := locate shape base m.member false key
    let doc ← match target with
      | .field path name fs => do
        set { m with member }
        let s ← decodeValue fs v
        pure (setField path name s doc)
      | .entry path k => do
        set { m with member }
        let s ← decodeValue (.text "string") v
        pure (setEntry path k (s.textOr "") doc)
      | .unknown => do
        set { m with member, missing := true }
        pure doc
      | .nowhere => do
        set { m with member }
        pure doc
    if passed then modify fun m => { m with member := none }
    decodePairs shape base doc rest

end

/-! ### Tables -/

def intoLast (doc : Option Setting) (shape : Shape) (path : List Step) : Except String (Shape × List Step) :=
  match shape with
  | .list _ item =>
    match lookupAt path doc with
    | some (.list (_ :: _)) => .ok (item, path ++ [.last])
    | _ => .error "toml: cannot store a table in a slice"
  | _ => .ok (shape, path)

/-- A table a header selects: its shape and path, the record field last
passed, and the document as selecting it left it. -/
abbrev Selected := Shape × List Step × Option Member × Option Setting

def findTable (doc : Option Setting) (shape : Shape) (path : List Step) (member : Option Member) :
    List String → Except String (Option Selected)
  | [] => do
    let (shape, path) ← intoLast doc shape path
    pure (some (shape, path, member, doc))
  | k :: rest => do
    let (shape, path) ← intoLast doc shape path
    match shape with
    | .record t fields members =>
      match selectField fields k with
      | none => pure none
      | some (name, fs) =>
        findTable doc fs (path ++ [.field name]) (some ⟨t, (members.lookup name).getD name, fs.type⟩) rest
    | .textMap _ =>
      let kept := match lookupAt path doc with
        | some (.entries kvs) => (kvs.lookup k).getD ""
        | _ => ""
      findTable (setEntry path k kept doc) (.text "string") (path ++ [.field k]) member rest
    | _ => pure (some (shape, path, member, doc))

/-- Follows an `[[array table]]` header's key and adds the new element;
none when a part names no field. -/
def findArrayTable (doc : Option Setting) (shape : Shape) (path : List Step) (member : Option Member) :
    List String → Except String (Option Selected)
  | [] => pure (some (shape, path, member, doc))
  | k :: rest =>
    match shape with
    | .record t fields members =>
      match selectField fields k with
      | none => pure none
      | some (name, fs) =>
        let member := some ⟨t, (members.lookup name).getD name, fs.type⟩
        let path := path ++ [.field name]
        match fs, rest with
        | .list _ item, [] =>
          pure (some (item, path ++ [.last], member, addElement path (zeroOf item) doc))
        | .list _ item, _ => do
          let (_, path) ← intoLast doc fs path
          findArrayTable doc item path member rest
        | _, _ => findArrayTable doc fs path member rest
    | _ => pure (some (shape, path, member, doc))

/-- The state of reading a document: what it has set, the keys it has
defined, the table key-value lines go into, and whether they are being
skipped under a header that named no field. -/
structure Walk where
  doc : Option Setting
  keys : Keys
  table : List Step
  shape : Shape
  skipping : Bool
  marks : Marks

def Walk.start (root : Shape) : Walk :=
  { doc := some (.record []), keys := Keys.empty, table := [], shape := root, skipping := false,
    marks := { member := none, missing := false } }

def Walk.select (w : Walk) (found : Option Selected) : Walk :=
  match found with
  | none => { w with skipping := true, marks := { w.marks with missing := true } }
  | some (shape, path, member, doc) => { w with shape, table := path, doc, marks := { w.marks with member } }

def Walk.step (root : Shape) (w : Walk) : Expr → Except String Walk
  | .keyValue key v =>
    if w.skipping then .ok w
    else do
      let keys ← w.keys.define key v
      let (doc, marks) ← (decodePairs w.shape w.table w.doc [(key, v)]).run w.marks
      pure { w with keys, doc, marks }
  | .table key => do
    let (keys, _) ← w.keys.openTable key
    let w := { w with keys, skipping := false, marks := { w.marks with member := none } }
    pure (w.select (← findTable w.doc root [] none key))
  | .arrayTable key => do
    let (keys, _) ← w.keys.openArrayTable key
    let w := { w with keys, skipping := false, marks := { w.marks with member := none } }
    pure (w.select (← findArrayTable w.doc root [] none key))

/-- The settings a TOML text assigns to a record shape.  A strict reader
refuses a document with a key that names no field, once the rest of it
has been read without fault. -/
def readSettings (strict : Bool) (shape : Shape) (text : Bytes) : Except String (Option Setting) :=
  let (exprs, fault) := readExpressions text
  match exprs.foldlM (Walk.step shape) (Walk.start shape) with
  | .error e => .error e
  | .ok w =>
    match fault with
    | some e => .error ("toml: " ++ e)
    | none =>
      if strict && w.marks.missing then
        .error "strict mode: fields in the document are missing in the target struct"
      else .ok w.doc

end MudClient.Toml
