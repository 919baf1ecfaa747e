/-
# YAML tokens and reading faults

A YAML text is first read as a stream of tokens: indicators, scalars with
their style, and the block structure that indentation implies, each with
the place it starts and ends.  Places count characters and lines from
zero.

A fault while reading is reported with the problem and, for the scanner
and the parser, a line: the line of the context the fault arose in when
that is not the first line, else the line of the problem itself.  Lines in
messages count from one for faults of the scanner, which has not yet moved
past the line, and from zero for faults of the parser, which sees the next
token's line.
-/

namespace MudClient.Yaml

/-- A place in the text: characters from the start, line and column from
zero. -/
structure Mark where
  index : Nat := 0
  line : Nat := 0
  column : Nat := 0
deriving Inhabited, Repr, DecidableEq

/-- How a scalar was written. -/
inductive ScalarStyle where
  | plain | single | double | literal | folded
deriving Inhabited, Repr, DecidableEq

/-- What a token is. -/
inductive TokenKind where
  | streamStart | streamEnd
  | versionDirective (major minor : Nat)
  | tagDirective (handle pre : String)
  | documentStart | documentEnd
  | blockSequenceStart | blockMappingStart | blockEnd
  | flowSequenceStart | flowSequenceEnd | flowMappingStart | flowMappingEnd
  | blockEntry | flowEntry | key | value
  | alias (name : String)
  | anchor (name : String)
  | tag (handle suffix : String)
  | scalar (text : String) (style : ScalarStyle)
deriving Inhabited, Repr

/-- A token and where it lies. -/
structure Token where
  kind : TokenKind
  start : Mark
  stop : Mark
deriving Inhabited, Repr

/-- Which stage of reading found a fault. -/
inductive Stage where
  | reader | scanner | parser | composer
deriving Inhabited, Repr, DecidableEq

/-- A fault in reading a YAML text. -/
structure Fault where
  stage : Stage
  problem : String
  /-- The place of the construct being read, if any. -/
  context : Mark := {}
  /-- The place of the problem. -/
  at_ : Mark := {}
deriving Inhabited, Repr

def Fault.message (f : Fault) : String :=
  let line :=
    if f.context.line != 0 then f.context.line
    else f.at_.line
  let line := if line != 0 && f.stage == .scanner then line + 1 else line
  if f.stage == .composer || line == 0 then "yaml: " ++ f.problem
  else "yaml: line " ++ toString line ++ ": " ++ f.problem

def scanFault (context at_ : Mark) (problem : String) : Fault :=
  { stage := .scanner, problem, context, at_ }

def parseFault (context at_ : Mark) (problem : String) : Fault :=
  { stage := .parser, problem, context, at_ }

end MudClient.Yaml
