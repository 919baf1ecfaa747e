/-
# Log levels

The levels of the client's logger, from `trace` (-1) up to `panic` (5),
then `disabled` (7) and the empty level (6) that logs everything.  A level
is read by name in any case, or as a number from -128 to 127.

A logger writes either lines for the console or JSON objects; its settings
name a level and a format, where the empty level is `info` and the empty
format is the console's.
-/
import MudClient.Number.Parse
import MudClient.Text.Quote

namespace MudClient.Log

open MudClient.Number

/-- A character folded for caseless comparison: ASCII letters to lower
case, and the Kelvin sign and long s to the letters they fold to. -/
def foldChar (c : Char) : Char :=
  if c == 'K' then 'k' else if c == 'ſ' then 's' else lowerAscii c

def equalFold (a b : String) : Bool :=
  a.toList.map foldChar == b.toList.map foldChar

def namedLevels : List (String × Int) :=
  [("trace", -1), ("debug", 0), ("info", 1), ("warn", 2), ("error", 3), ("fatal", 4),
   ("panic", 5), ("disabled", 7), ("", 6)]

def parseLevel (s : String) : Except String Int :=
  match namedLevels.find? (fun (n, _) => equalFold s n) with
  | some (_, l) => .ok l
  | none =>
    match readInt s.toList with
    | .ok i =>
      if i > 127 || i < -128 then .error s!"Out-Of-Bounds Level: '{i}', defaulting to NoLevel"
      else .ok i
    | .error _ => .error s!"Unknown Level String: '{s}', defaulting to NoLevel"

/-- What a logger writes. -/
inductive Style where
  | console | json
deriving DecidableEq, Repr

/-- The level and style of a logger with the given settings, or why the
settings are refused. -/
def loggerSettings (level format : String) : Except String (Int × Style) := do
  let l ← if level.isEmpty then pure 1 else
    match parseLevel level with
    | .ok l => pure l
    | .error e => throw ("log level: " ++ e)
  match format with
  | "" | "console" => pure (l, .console)
  | "json" => pure (l, .json)
  | _ => throw ("log format " ++ Text.quote format ++ ": want console or json")

end MudClient.Log
