/-
# Flags of a command line

A flag has a long name, written after two dashes, and may have a one-letter
shorthand, written after one dash.  A flag holds a text, a switch, or a
list of texts.  `--name=value`, `--name value`, `-n value`, `-nvalue` and
`-n=value` give a value; a switch needs none, so `--name` and `-n` turn it
on, and several switch letters may share one dash (`-ab`).  A list flag
reads each value as one record of comma-separated fields; its first value
replaces the default and later ones add to it.

Words that are not flags are kept as arguments, in order; a lone `--`
ends the flags, and every word after it is an argument.

A flag set lists its flags in name order as usage lines: the flag's names
and the kind of value it takes, then its description, aligned in one
column, with the default when it is not the empty one.
-/
import MudClient.Text.Csv
import MudClient.Text.Quote
import MudClient.Config.Env

namespace MudClient.CommandLine

/-- The kind of value a flag holds, with its default. -/
inductive FlagKind where
  | text (default : String)
  | switch
  | texts
deriving DecidableEq, Repr

/-- A flag: its long name, its shorthand, what it is for, and its kind. -/
structure Flag where
  name : String
  shorthand : Option Char := none
  usage : String
  kind : FlagKind
deriving DecidableEq, Repr

/-- The value a flag was given. -/
inductive FlagValue where
  | text (s : String)
  | switch (on : Bool)
  | texts (items : List String)
deriving DecidableEq, Repr

/-- The flags given so far, with their values, and the arguments. -/
structure Parsed where
  values : List (String × FlagValue) := []
  args : List String := []
deriving Repr

namespace Parsed

def value? (p : Parsed) (name : String) : Option FlagValue := p.values.lookup name

def text (p : Parsed) (f : Flag) : String :=
  match p.value? f.name, f.kind with
  | some (.text s), _ => s
  | _, .text d => d
  | _, _ => ""

def switch (p : Parsed) (name : String) : Bool :=
  match p.value? name with
  | some (.switch b) => b
  | _ => false

def texts (p : Parsed) (name : String) : List String :=
  match p.value? name with
  | some (.texts xs) => xs
  | _ => []

end Parsed

def Flag.title (f : Flag) : String :=
  match f.shorthand with
  | some c => "-" ++ String.singleton c ++ ", --" ++ f.name
  | none => "--" ++ f.name

def Parsed.set (p : Parsed) (f : Flag) (v : String) : Except String Parsed := do
  let fault (why : String) := "invalid argument " ++ Text.quote v ++ " for " ++ Text.quote f.title ++ " flag: " ++ why
  let given : FlagValue ← match f.kind with
    | .text _ => pure (.text v)
    | .switch => match Config.readSwitch v with
      | .ok b => pure (.switch b)
      | .error why => throw (fault why)
    | .texts =>
      let items ← if v.isEmpty then pure []
        else match Text.Csv.firstRecord v with
          | .ok xs => pure xs
          | .error e => throw (fault e.message)
      pure (match p.value? f.name with
        | some (.texts before) => .texts (before ++ items)
        | _ => .texts items)
  pure { p with values := (p.values.filter (·.1 != f.name)) ++ [(f.name, given)] }

def lookupName (fs : List Flag) (name : String) : Option Flag := fs.find? (·.name == name)

def lookupShort (fs : List Flag) (c : Char) : Option Flag := fs.find? (·.shorthand == some c)

/-- Reads a word of two dashes, with the words after it; answers the words
left. -/
def longFlag (fs : List Flag) (word : String) (rest : List String) (p : Parsed) :
    Except String (List String × Parsed) := do
  let name := (word.drop 2).toString
  if name.startsWith "-" || name.startsWith "=" then throw ("bad flag syntax: " ++ word)
  let (key, inline) := match name.splitOn "=" with
    | k :: v :: more => (k, some ("=".intercalate (v :: more)))
    | _ => (name, none)
  let some f := lookupName fs key | throw ("unknown flag: --" ++ key)
  match inline, f.kind, rest with
  | some v, _, _ => pure (rest, ← p.set f v)
  | none, .switch, _ => pure (rest, ← p.set f "true")
  | none, _, v :: more => pure (more, ← p.set f v)
  | none, _, [] => throw ("flag needs an argument: " ++ word)

def letter (c : Char) : String := "'" ++ String.singleton c ++ "'"

/-- Reads the shorthand letters after one dash,
with the words after the whole word. -/
def shortFlags (fs : List Flag) (rest : List String) : List Char → Nat → Parsed →
    Except String (List String × Parsed)
  | [], _, p => pure (rest, p)
  | _, 0, p => pure (rest, p)
  | c :: more, fuel + 1, p => do
    let here := String.ofList (c :: more)
    let some f := lookupShort fs c | throw ("unknown shorthand flag: " ++ letter c ++ " in -" ++ here)
    match more, f.kind with
    | '=' :: v, _ =>
      if v.isEmpty && f.kind != .switch then
        -- a lone "=" after a letter that takes a value is the value
        pure (rest, ← p.set f "=")
      else if v.isEmpty then shortFlags fs rest more fuel (← p.set f "true")
      else pure (rest, ← p.set f (String.ofList v))
    | _, .switch => shortFlags fs rest more fuel (← p.set f "true")
    | _ :: _, _ => pure (rest, ← p.set f (String.ofList more))
    | [], _ =>
      match rest with
      | v :: after => pure (after, ← p.set f v)
      | [] => throw ("flag needs an argument: " ++ letter c ++ " in -" ++ here)

def parseWords (fs : List Flag) : Nat → List String → Parsed → Except String Parsed
  | 0, _, p => pure p
  | _, [], p => pure p
  | fuel + 1, w :: rest, p => do
    if w.length < 2 || !w.startsWith "-" then parseWords fs fuel rest { p with args := p.args ++ [w] }
    else if w == "--" then pure { p with args := p.args ++ rest }
    else if w.startsWith "--" then
      let (rest, p) ← longFlag fs w rest p
      parseWords fs fuel rest p
    else
      let letters := (w.drop 1).toString.toList
      let (rest, p) ← shortFlags fs rest letters letters.length p
      parseWords fs fuel rest p

def parse (fs : List Flag) (words : List String) : Except String Parsed :=
  parseWords fs (words.length + 1) words {}

/-! ## Usage lines -/

def Flag.valueWord (f : Flag) : String :=
  match f.kind with
  | .text _ => "string"
  | .switch => ""
  | .texts => "strings"

def Flag.head (f : Flag) : String :=
  let names := match f.shorthand with
    | some c => "  -" ++ String.singleton c ++ ", --" ++ f.name
    | none => "      --" ++ f.name
  if f.valueWord.isEmpty then names else names ++ " " ++ f.valueWord

def Flag.tail (f : Flag) : String :=
  match f.kind with
  | .text d => if d.isEmpty then f.usage else f.usage ++ " (default " ++ Text.quote d ++ ")"
  | _ => f.usage

def byName (fs : List Flag) : List Flag := fs.mergeSort fun a b => decide (a.name ≤ b.name)

/-- The usage lines of some flags, in name order, descriptions aligned two
columns after the longest head. -/
def usageLines (fs : List Flag) : List String :=
  let fs := byName fs
  let widest := (fs.map (·.head.length)).foldl max 0
  fs.map fun f => f.head ++ String.ofList (List.replicate (widest + 3 - f.head.length) ' ') ++ f.tail

end MudClient.CommandLine
