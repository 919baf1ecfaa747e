/-
# Requests and answers as JSON

The wire interface drives the client's parts from outside: a request is a
JSON object that names an operation and gives its inputs, and the answer
is a JSON object.  This module holds what every operation shares: reading
fields of a request, writing answers, and the JSON forms of failures,
host values, input lines and output.

Reading a field that is absent or null gives its default; a field of the
wrong type makes the request unreadable.  Paths in requests are relative
to a root directory, written `<root>` in answers.  Host values use tagged
objects such as `{"$int32": 5}` for types JSON cannot tell apart.
-/
import MudClient.Json.Syntax
import MudClient.Failure
import MudClient.Data.Basic
import MudClient.Session.Basic
import MudClient.Number.Format
import MudClient.Number.Parse

namespace MudClient.Wire

open MudClient.Json (Node)
open MudClient.Session

abbrev Decode := Except String

def quoteText (s : String) : String :=
  "\"" ++ s.foldl (fun acc c =>
    if c == '"' then acc ++ "\\\"" else if c == '\\' then acc ++ "\\\\"
    else if c == '\n' then acc ++ "\\n" else if c == '\r' then acc ++ "\\r"
    else if c == '\t' then acc ++ "\\t"
    else if c.toNat < 0x20 then
      let h := Nat.toDigits 16 c.toNat
      acc ++ "\\u" ++ String.ofList (List.replicate (4 - h.length) '0' ++ h)
    else acc.push c) "" ++ "\""

/-! ### Reading fields -/

def get? (j : Node) (k : String) : Option Node :=
  match j with
  | .object ms =>
    match ms.toList.reverse.lookup k with
    | some .null => none
    | v => v
  | _ => none

def member (j : Node) (k : String) : Node := (get? j k).getD (.object #[])

def intOf? (text : String) : Option Int := text.toInt?

def textOr (j : Node) (k : String) (d : String) : Decode String :=
  match get? j k with
  | none => .ok d
  | some (.string s) => .ok s
  | some _ => .error ("field " ++ quoteText k ++ " must be a string")

def text (j : Node) (k : String) : Decode String := textOr j k ""

def wholeOr (j : Node) (k : String) (d : Int) : Decode Int :=
  match get? j k with
  | none => .ok d
  | some (.number t) => match intOf? t with
    | some n => .ok n
    | none => .error ("field " ++ quoteText k ++ " must be an integer")
  | some _ => .error ("field " ++ quoteText k ++ " must be an integer")

def whole (j : Node) (k : String) : Decode Int := wholeOr j k 0

def flagOr (j : Node) (k : String) (d : Bool) : Decode Bool :=
  match get? j k with
  | none => .ok d
  | some (.bool b) => .ok b
  | some _ => .error ("field " ++ quoteText k ++ " must be a boolean")

def flag (j : Node) (k : String) : Decode Bool := flagOr j k false

def items (j : Node) (k : String) : Decode (List Node) :=
  match get? j k with
  | none => .ok []
  | some (.array xs) => .ok xs.toList
  | some _ => .error ("field " ++ quoteText k ++ " must be a list")

def texts (j : Node) (k : String) : Decode (List String) := do
  (← items j k).mapM fun
    | .string s => .ok s
    | _ => .error ("field " ++ quoteText k ++ " must be a list of strings")

/-- The members of an object, each name once with its last value, in the
order of their names. -/
def sortedMembers (ms : Array (String × Node)) : List (String × Node) :=
  let last := ms.toList.foldl (fun acc (k, v) => (acc.filter (·.1 != k)) ++ [(k, v)]) []
  last.mergeSort fun a b => decide (a.1 ≤ b.1)

def entries (j : Node) (k : String) : List (String × Node) :=
  match get? j k with
  | some (.object ms) => sortedMembers ms
  | _ => []

/-! ### Writing answers -/

def obj (kvs : List (String × Node)) : Node := .object kvs.toArray

def str (s : String) : Node := .string s

def num (n : Int) : Node := .number (toString n)

def arr (xs : List Node) : Node := .array xs.toArray

def strs (xs : List String) : Node := arr (xs.map str)

def withMembers (j : Node) (more : List (String × Node)) : Node :=
  match j with
  | .object ms => .object ((ms.filter fun (k, _) => !more.any (·.1 == k)) ++ more.toArray)
  | x => x

/-- A double as the host writes it: the shortest text that reads back, with
`.0` added to whole numbers; JSON has no number for infinities and NaN, so
they are written as texts. -/
def float (x : Float) : Node :=
  if x.isNaN then .string "NaN"
  else if x.isInf then .string (if x > 0 then "Infinity" else "-Infinity")
  else
    let t := Number.writeShortest x
    .number (if t.any (fun c => c == '.' || c == 'e') then t else t ++ ".0")

/-! ### Failures -/

def conditionNames : String :=
  "key.ErrEmptySpec key.ErrInvalidSpec command.ErrEmptyName command.ErrNilHandler " ++
  "command.ErrMissingOwner event.ErrInvalidHandler event.ErrMalformedFilter event.ErrUnknownKind " ++
  "event.ErrMissingOwner event.ErrSubscriptionNotFound event.ErrHandlerPanic plugin.ErrModuleNotFound " ++
  "plugin.ErrAlreadyRegistered plugin.ErrAlreadyLoaded plugin.ErrNilModule plugin.ErrInvalidID " ++
  "plugin.ErrReservedID plugin.ErrNoEntryPoint plugin.ErrNilManifest plugin.ErrNoCommands " ++
  "plugin.ErrInvalidManifest plugin.ErrMissingName plugin.ErrInvalidName plugin.ErrInvalidVersion " ++
  "plugin.ErrInvalidMain plugin.ErrInvalidCapability plugin.ErrInvalidTimeout lua.ErrStateClosed " ++
  "lua.ErrExecutionTimeout lua.ErrNotFunction config.ErrFileNotFound config.ErrUnsupportedFormat " ++
  "config.ErrValidationFailed host.ErrUnknownSession app.ErrUnknownSession app.ErrNotRunning " ++
  "app.ErrAlreadyRunning watcher.ErrPathNotExist watcher.ErrWatcherClosed"

def conditionName (c : Condition) : String :=
  ((Condition.all.zip (conditionNames.splitOn " ")).lookup c).getD ""

def kindName : FailureKind → String
  | .startup => "InitError" | .component => "ComponentError" | .load => "LoadError"
  | .registration => "RegistrationError" | .delivery => "DispatchError" | .parse => "ParseError"
  | .validation => "ValidationError" | .capability => "CapabilityError" | .panic => "PanicError"
  | .script => "LuaError"

def failure (f : Failure) : Node :=
  let is := f.reported.map conditionName
  let kind := match f.kind?, is with
    | some k, _ => kindName k
    | none, c :: _ => c
    | none, [] => "error"
  obj ([("error", str kind), ("message", str f.message)] ++ (if is.isEmpty then [] else [("is", strs is)]))

def orNull (e : Except Failure Unit) : Node :=
  match e with
  | .ok _ => .null
  | .error f => failure f

/-! ### Lines and output -/

def lineOf (v : Node) : Decode InputLine :=
  match v with
  | .string s => .ok (InputLine.ofText s)
  | .null => .ok {}
  | j => do
    let original ← match get? j "original" with
      | none => pure none
      | some (.string s) => pure (some s)
      | some _ => throw "field \"original\" must be a string"
    pure { sent := ← text j "sent", original, scripted := ← flag j "scripted",
           echoSuppressed := ← flag j "echo_suppressed" }

def lineField (j : Node) (k : String) : Decode InputLine := lineOf ((get? j k).getD .null)

def lineJson (l : InputLine) : Node :=
  obj ([("sent", str l.sent), ("scripted", .bool l.scripted), ("echo_suppressed", .bool l.echoSuppressed)] ++
    (match l.original with | some o => [("original", str o)] | none => []))

def outputJson (o : Output) : Node := obj [("kind", str o.kind.name), ("text", str o.text)]

def infoOf (j : Node) : Decode Info := do
  pure { id := (← whole j "id").toNat, mud := ← text j "mud", character := ← text j "character",
         host := ← text j "host", port := ← whole j "port", tls := ← flag j "tls" }

/-! ### Host values -/

def floatOfText (s : String) : Decode Float :=
  match Number.parseFloat? s.toList with
  | some x => .ok x
  | none => .error ("bad float " ++ s)

def intOfNode : Node → Decode Int
  | .number t => match intOf? t with | some n => .ok n | none => .error "bad integer"
  | .string s => match s.toInt? with | some n => .ok n | none => .error "bad integer"
  | _ => .error "bad integer"

/-- A host value: numbers that are whole and fit 64 bits are `int64`,
other numbers doubles, and tagged objects give other types. -/
def dataOf : Nat → Node → Decode Data
  | 0, _ => .error "value nested too deeply"
  | _ + 1, .null => .ok .null
  | _ + 1, .bool b => .ok (.bool b)
  | _ + 1, .number t =>
    match intOf? t with
    | some n => if -(Int.pow 2 63) ≤ n && n < Int.pow 2 63 then .ok (.int .int64 n) else
        .ok (.float ((Number.parseFloat? t.toList).getD 0))
    | none => .ok (.float ((Number.parseFloat? t.toList).getD 0))
  | _ + 1, .string s => .ok (.str (Bytes.ofString s))
  | fuel + 1, .array xs => do pure (.list (← xs.mapM (dataOf fuel)))
  | fuel + 1, .object ms =>
    match sortedMembers ms with
    | [(k, v)] =>
      match k, v with
      | "$int", v => do pure (.int .int64 (← intOfNode v))
      | "$int32", v => do pure (.int .int32 (← intOfNode v))
      | "$uint8", v => do pure (.int .uint8 (← intOfNode v))
      | "$uint64", v => do pure (.int .uint64 (← intOfNode v))
      | "$float", .string s => do pure (.float (← floatOfText s))
      | "$float32", .string s => do pure (.float32 (← floatOfText s).toFloat32.toFloat)
      | "$bytes", .string s => .ok (.bytes (Bytes.ofString s))
      | "$strings", .array xs => do
        pure (.strings (← xs.mapM fun | .string s => .ok (Bytes.ofString s) | _ => .error "bad $strings"))
      | "$ints", .array xs => do pure (.ints (← xs.mapM intOfNode))
      | "$strmap", .object m => do
        pure (.strMap (← m.mapM fun (k, v) => match v with
          | .string s => .ok (Bytes.ofString k, Bytes.ofString s)
          | _ => .error "bad $strmap"))
      | "$intmap", .object m => do
        pure (.intMap (← m.mapM fun (k, v) => do
          match k.toInt? with
          | some i => pure (i, ← dataOf fuel v)
          | none => throw "bad $intmap"))
      | "$ptr", v => do pure (.ptr (← dataOf fuel v))
      | "$nilptr", _ => .ok .nilPtr
      | k, v => do pure (.map #[(Bytes.ofString k, ← dataOf fuel v)])
    | es => do pure (.map (← es.toArray.mapM fun (k, v) => do pure (Bytes.ofString k, ← dataOf fuel v)))

def depthLimit : Nat := 10000

def dataField (j : Node) (k : String) : Decode Data := dataOf depthLimit ((get? j k).getD .null)

def dataJson : Nat → Data → Node
  | 0, _ => .null
  | _ + 1, .null | _ + 1, .nilPtr => .null
  | _ + 1, .bool b => .bool b
  | _ + 1, .int _ n => num n
  | _ + 1, .float x | _ + 1, .float32 x => float x
  | _ + 1, .str s => str s.toText
  | _ + 1, .bytes b => .array (b.data.map fun c => num c.toNat)
  | fuel + 1, .list xs => .array (xs.map (dataJson fuel))
  | _ + 1, .strings xs => .array (xs.map fun s => str s.toText)
  | _ + 1, .ints xs => .array (xs.map num)
  | fuel + 1, .map es => .object (es.map fun (k, v) => (k.toText, dataJson fuel v))
  | _ + 1, .strMap es => .object (es.map fun (k, v) => (k.toText, str v.toText))
  | fuel + 1, .intMap es => .object (es.map fun (k, v) => (toString k, dataJson fuel v))
  | fuel + 1, .ptr v => dataJson fuel v

def dataNode (d : Data) : Node := dataJson depthLimit d

/-! ### Files -/

def root : String := "<root>"

def underRoot (p : String) : String := root ++ "/" ++ p

def fromRoot (p : String) : String :=
  if p.startsWith (root ++ "/") then (p.drop (root.length + 1)).toString else p

/-- The files of a request, below the root: contents by path, and empty
directories, written with a final slash. -/
def filesOf (j : Node) : Decode (List (String × Bytes) × List String) := do
  let mut files := []
  let mut dirs := []
  for (k, v) in entries j "files" do
    if k.endsWith "/" then dirs := underRoot (k.dropEnd 1).toString :: dirs
    else match v with
      | .string c => files := (underRoot k, Bytes.ofString c) :: files
      | _ => throw "field \"files\" must map paths to strings"
  pure (files, dirs)

/-! ### Writing JSON text -/

def isHex (c : Char) : Bool := c.isDigit || ('a' ≤ c && c ≤ 'f')

/-- Replaces the heap address after a value's kind, as in `table: 0x1f`,
with a placeholder, since addresses differ from run to run. -/
def maskAddresses (s : String) : String :=
  let kinds := ["table: 0x", "function: 0x", "userdata: 0x", "thread: 0x"]
  let rec go (rest : List Char) (acc : List Char) (fuel : Nat) : List Char :=
    match fuel, rest with
    | 0, _ => acc.reverse ++ rest
    | _, [] => acc.reverse
    | fuel + 1, c :: cs =>
      match kinds.find? (fun k => k.toList.isPrefixOf rest) with
      | some k =>
        let after := rest.drop k.length
        let digits := after.takeWhile isHex
        if digits.isEmpty then go cs (c :: acc) fuel
        else go (after.drop digits.length) (("<addr>".toList.reverse) ++ ((k.dropEnd 2).toString.toList.reverse) ++ acc) fuel
      | none => go cs (c :: acc) fuel
  String.ofList (go s.toList [] (s.length + 1))

def render : Nat → Node → String
  | 0, _ => "null"
  | _ + 1, .null => "null"
  | _ + 1, .bool b => toString b
  | _ + 1, .number t => t
  | _ + 1, .string s => quoteText (maskAddresses s)
  | fuel + 1, .array xs => "[" ++ ",".intercalate (xs.toList.map (render fuel)) ++ "]"
  | fuel + 1, .object ms => "\x7b" ++ ",".intercalate (ms.toList.map fun (k, v) =>
      quoteText k ++ ":" ++ render fuel v) ++ "\x7d"

end MudClient.Wire
