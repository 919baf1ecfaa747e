/-
# YAML nodes

The composer builds the first document of a stream as a tree of nodes:
scalars with their text and style, sequences and mappings, and aliases,
which carry a copy of the node their anchor names.  Every node has a tag
and the line and column where it starts, counted from one.  A scalar
without a tag gets one from its text when it is plain, and `!!str` when it
is quoted or a block scalar.

`resolve` reads a plain scalar's text: the words for null, true, false,
infinity and not-a-number, integers in decimal, octal, hexadecimal and
binary with underscores between digits, decimal fractions, and dates.
-/
import MudClient.Yaml.Event
import MudClient.Number.Parse
import MudClient.Text.Bytes

namespace MudClient.Yaml

/-- A node of a document. -/
inductive Node where
  | scalar (tag value : String) (style : ScalarStyle) (line column : Nat)
  | sequence (tag : String) (items : Array Node) (line column : Nat)
  | mapping (tag : String) (entries : Array (Node × Node)) (line column : Nat)
  /-- An alias and the node its anchor names; none when the alias stands
  inside that very node. -/
  | alias (name : String) (target : Option Node) (line column : Nat)
deriving Inhabited

namespace Node

def line : Node → Nat
  | .scalar _ _ _ l _ | .sequence _ _ l _ | .mapping _ _ l _ | .alias _ _ l _ => l

def tag : Node → String
  | .scalar t .. | .sequence t .. | .mapping t .. => t
  | .alias .. => ""

def text : Node → String
  | .scalar _ v .. => v
  | .alias n .. => n
  | _ => ""

def kindNumber : Node → Nat
  | .scalar .. => 0 | .sequence .. => 1 | .mapping .. => 2 | .alias .. => 3

end Node

def standardPrefix : String := "tag:yaml.org,2002:"

def shortTag (t : String) : String :=
  if t.startsWith standardPrefix then "!!" ++ (t.drop standardPrefix.length).toString else t

/-- The value a scalar's text stands for. -/
inductive Resolved where
  | null
  | bool (b : Bool)
  | int (n : Int)
  | float (f : Float)
  | str (s : String)
  | timestamp
deriving Inhabited

def fixedWords (s : String) : Option (String × Resolved) :=
  match s with
  | "" | "~" | "null" | "Null" | "NULL" => some ("!!null", .null)
  | "true" | "True" | "TRUE" => some ("!!bool", .bool true)
  | "false" | "False" | "FALSE" => some ("!!bool", .bool false)
  | ".nan" | ".NaN" | ".NAN" => some ("!!float", .float (0.0 / 0.0))
  | ".inf" | ".Inf" | ".INF" | "+.inf" | "+.Inf" | "+.INF" => some ("!!float", .float (1.0 / 0.0))
  | "-.inf" | "-.Inf" | "-.INF" => some ("!!float", .float (-(1.0 / 0.0)))
  | _ => none

def readUnsigned (s : List Char) : Option Nat :=
  let (base, digits) : Nat × List Char :=
    match s with
    | '0' :: c :: d :: r =>
      let l := Number.lowerAscii c
      if l == 'b' then (2, d :: r) else if l == 'o' then (8, d :: r)
      else if l == 'x' then (16, d :: r) else (8, c :: d :: r)
    | '0' :: r => (8, r)
    | r => (10, r)
  if s.isEmpty then none
  else (Number.readDigits base false (Nat.pow 2 64 - 1) digits 0 false).map (·.1)

/-- Whether a text is a decimal fraction: digits with an optional point
and exponent, or a point and digits. -/
def isDecimalFraction (s : List Char) : Bool :=
  let s := match s with | '+' :: r | '-' :: r => r | r => r
  let digits (l : List Char) : List Char × List Char := (l.takeWhile Char.isDigit, l.dropWhile Char.isDigit)
  let mantissa : Option (List Char) :=
    match s with
    | '.' :: r =>
      let (d, rest) := digits r
      if d.isEmpty then none else some rest
    | _ =>
      let (d, rest) := digits s
      if d.isEmpty then none
      else match rest with
        | '.' :: r => some (digits r).2
        | _ => some rest
  match mantissa with
  | none => false
  | some [] => true
  | some (e :: r) =>
    if e != 'e' && e != 'E' then false
    else
      let r := match r with | '+' :: t | '-' :: t => t | t => t
      let (d, rest) := digits r
      !d.isEmpty && rest.isEmpty

def isTimestamp (s : String) : Bool :=
  let cs := s.toList
  let num (l : List Char) (lo hi : Nat) : Option (Nat × List Char) :=
    let d := l.takeWhile Char.isDigit
    if d.length < lo || d.length > hi then none
    else some (d.foldl (fun n c => n * 10 + (c.toNat - 48)) 0, l.drop d.length)
  let leap (y : Nat) := (y % 4 == 0 && y % 100 != 0) || y % 400 == 0
  let daysIn (y m : Nat) : Nat :=
    if m == 2 then (if leap y then 29 else 28)
    else if m == 4 || m == 6 || m == 9 || m == 11 then 30 else 31
  let time (l : List Char) (zoned : Bool) : Bool :=
    match num l 1 2 with
    | some (h, ':' :: r) =>
      match num r 1 2 with
      | some (mi, ':' :: r) =>
        match num r 1 2 with
        | some (sec, r) =>
          let r := match r with
            | '.' :: t => if (t.takeWhile Char.isDigit).isEmpty then '.' :: t else t.dropWhile Char.isDigit
            | t => t
          let zoneOk := if !zoned then r.isEmpty else
            match r with
            | ['Z'] => true
            | c :: t => (c == '+' || c == '-') && (match num t 2 2 with
                | some (zh, ':' :: t2) => (match num t2 2 2 with
                    | some (zm, []) => zh < 24 && zm < 60
                    | _ => false)
                | _ => false)
            | [] => false
          h < 24 && mi < 60 && sec < 60 && zoneOk
        | none => false
      | _ => false
    | _ => false
  match num cs 4 4 with
  | some (y, '-' :: r) =>
    match num r 1 2 with
    | some (m, '-' :: r) =>
      match num r 1 2 with
      | some (d, r) =>
        let dateOk := 1 ≤ m && m ≤ 12 && 1 ≤ d && d ≤ daysIn y m
        dateOk && (match r with
          | [] => true
          | c :: t => if c == 'T' || c == 't' then time t true else if c == ' ' then time t false else false)
      | none => false
    | _ => false
  | _ => false

/-- The tag and value of a scalar's text under a tag, which may be empty;
a tag that the text cannot have is refused. -/
def resolve (tag text : String) : Except String (String × Resolved) :=
  let tag := shortTag tag
  if tag == "!!null" then .ok ("!!null", .null)
  else if !(tag == "" || tag == "!!str" || tag == "!!bool" || tag == "!!int" || tag == "!!float" ||
      tag == "!!timestamp") then .ok (tag, .str text)
  else
    let hint : Char := match text.toList with
      | [] => 'N'
      | c :: _ =>
        if c == '+' || c == '-' then 'S' else if c.isDigit then 'D'
        else if "yYnNtTfFoO~".toList.contains c then 'M' else if c == '.' then '.' else ' '
    let (rtag, v) : String × Resolved :=
      if hint == ' ' || tag == "!!str" then ("!!str", .str text)
      else match fixedWords text with
        | some r => r
        | none =>
          if hint == '.' then
            match Number.parseFloat? text.toList with
            | some f => ("!!float", .float f)
            | none => ("!!str", .str text)
          else if hint == 'D' || hint == 'S' then
            if (tag == "" || tag == "!!timestamp") && isTimestamp text then ("!!timestamp", .timestamp)
            else
              let plain := text.toList.filter (· != '_')
              match Number.parseInt? plain 0 with
              | some n => ("!!int", .int n)
              | none =>
                match readUnsigned plain with
                | some n => ("!!int", .int n)
                | none =>
                  if isDecimalFraction plain then
                    match Number.parseFloat? plain with
                    | some f => ("!!float", .float f)
                    | none => ("!!str", .str text)
                  else ("!!str", .str text)
          else ("!!str", .str text)
    if tag == "" || tag == rtag || tag == "!!str" then .ok (rtag, v)
    else if tag == "!!float" && rtag == "!!int" then
      match v with
      | .int n => .ok ("!!float", .float (Float.ofInt n))
      | _ => .ok (rtag, v)
    else .error ("cannot decode " ++ rtag ++ " `" ++ text ++ "` as a " ++ tag)

/-- The tag a node gets: its own, else the default for its kind or style,
else, for a plain scalar, the tag its text resolves to. -/
def nodeTag (explicit : String) (default : String) (plainText : Option String) : String :=
  if explicit != "" && explicit != "!" then shortTag explicit
  else if default != "" then default
  else match plainText with
    | some t => match resolve "" t with
      | .ok (tag, _) => tag
      | .error _ => ""
    | none => ""

/-- The composer: the parser under it and the anchors seen so far, the
latest first, with the names of the anchored nodes still open. -/
structure Composer where
  parser : Parser
  anchors : List (String × Node) := []
  opened : List String := []

def composeFault (problem : String) : Fault := { stage := .composer, problem }

namespace Composer

def nextEvent (c : Composer) : Except Fault (Event × Composer) := do
  let (e, p) ← c.parser.next
  pure (e, { c with parser := p })

def anchor (c : Composer) (name : String) (n : Node) : Composer :=
  if name.isEmpty then c
  else { c with anchors := (name, n) :: c.anchors, opened := c.opened.filter (· != name) }

mutual

def node (c : Composer) (e : Event) : Nat → Except Fault (Node × Composer)
  | 0 => .error (composeFault "document is nested too deeply")
  | fuel + 1 =>
    let line := e.start.line + 1
    let column := e.start.column + 1
    match e.kind with
    | .alias name =>
      match c.anchors.lookup name with
      | some n => .ok (.alias name (some n) line column, c)
      | none =>
        if c.opened.contains name then .ok (.alias name none line column, c)
        else .error (composeFault ("unknown anchor '" ++ name ++ "' referenced"))
    | .scalar anch tag value style =>
      let default := if style != .plain then "!!str" else if value == "<<" then "!!merge" else ""
      let n := Node.scalar (nodeTag tag default (some value)) value style line column
      .ok (n, c.anchor anch n)
    | .sequenceStart anch tag _ =>
      let c := if anch.isEmpty then c else { c with opened := anch :: c.opened }
      match items c #[] fuel with
      | .error f => .error f
      | .ok (ns, c) =>
        let n := Node.sequence (nodeTag tag "!!seq" none) ns line column
        .ok (n, c.anchor anch n)
    | .mappingStart anch tag _ =>
      let c := if anch.isEmpty then c else { c with opened := anch :: c.opened }
      match entries c #[] fuel with
      | .error f => .error f
      | .ok (es, c) =>
        let n := Node.mapping (nodeTag tag "!!map" none) es line column
        .ok (n, c.anchor anch n)
    | _ => .error (composeFault "did not expect an event here")

def items (c : Composer) (acc : Array Node) : Nat → Except Fault (Array Node × Composer)
  | 0 => .error (composeFault "document is nested too deeply")
  | fuel + 1 => do
    let (e, c) ← c.nextEvent
    match e.kind with
    | .sequenceEnd => pure (acc, c)
    | _ =>
      let (n, c) ← node c e fuel
      items c (acc.push n) fuel

def entries (c : Composer) (acc : Array (Node × Node)) : Nat → Except Fault (Array (Node × Node) × Composer)
  | 0 => .error (composeFault "document is nested too deeply")
  | fuel + 1 => do
    let (e, c) ← c.nextEvent
    match e.kind with
    | .mappingEnd => pure (acc, c)
    | _ =>
      let (key, c) ← node c e fuel
      let (e2, c) ← c.nextEvent
      let (v, c) ← node c e2 fuel
      entries c (acc.push (key, v)) fuel

end

end Composer

/-- Reads the first document of a text: none when the stream holds no
document at all. -/
def firstDocument (text : Bytes) : Except Fault (Option Node) := do
  let chars ← checkCharacters text.data
  let c : Composer := { parser := { scanner := { text := chars } } }
  let (e, c) ← c.nextEvent
  match e.kind with
  | .streamStart => pure ()
  | _ => throw (composeFault "expected STREAM-START")
  let (e, c) ← c.nextEvent
  match e.kind with
  | .streamEnd => pure none
  | .documentStart _ =>
    let (e, c) ← c.nextEvent
    let (n, c) ← c.node e (4 * chars.size + 16)
    let (e, _) ← c.nextEvent
    match e.kind with
    | .documentEnd _ => pure (some n)
    | _ => throw (composeFault "expected DOCUMENT-END")
  | _ => throw (composeFault "expected DOCUMENT-START")

end MudClient.Yaml
