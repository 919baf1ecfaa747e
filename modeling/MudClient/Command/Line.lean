/-
# Command lines

A command line is a line of input that starts, after leading blanks and tabs,
with the command prefix (`/` unless another is chosen) and then at once with a
letter, a decimal digit or an underscore.  Its words are split at white
space: the first, in lower case, names the command and the others are its
arguments.  The remainder is the text after the first word, trimmed, with its
inner spacing kept, which is what a command's handler receives.

## Main statements

* `Line.parse?`: reads a command line, or answers `none` for any other input.
-/
import MudClient.Text.Case
import MudClient.Text.Letter
import MudClient.Text.Space

namespace MudClient.Command

def defaultPrefix : String := "/"

/-- A command line split into its parts. -/
structure Line where
  /-- The command's name, in lower case. -/
  name : String
  /-- The words after the name. -/
  args : List String
  /-- The line after the prefix, trimmed. -/
  raw : String
  /-- The text after the name, trimmed. -/
  remainder : String
deriving DecidableEq, Repr

def isNameStart (c : Char) : Bool := c = '_' || Text.isLetter c || Text.isDigit c

/-- The separators that end the first word when the remainder is cut: the
blank, tab, line feed and carriage return. -/
def isGap (c : Char) : Bool := c = ' ' || c = '\t' || c = '\n' || c = '\r'

/-- The text after the first word of a trimmed line, itself trimmed; empty
when the word runs to the end. -/
def remainderOf (raw : String) : String :=
  match (raw.toList.dropWhile isGap).dropWhile (fun c => !isGap c) with
  | [] => ""
  | rest => Text.trimSpace (String.ofList rest)

def afterPrefix (pre : List Char) (cs : List Char) : Option (List Char) :=
  if pre.isPrefixOf cs then some (cs.drop pre.length) else none

/-- Reads a command line under a prefix; the empty prefix is the default
one. -/
def Line.parse? (input pre : String) : Option Line :=
  let pre := if pre.isEmpty then defaultPrefix else pre
  let trimmed := input.toList.dropWhile (fun c => c = ' ' || c = '\t')
  match afterPrefix pre.toList trimmed with
  | some (c :: cs) =>
    if isNameStart c then
      let raw := Text.trimSpace (String.ofList (c :: cs))
      match Text.fields raw with
      | [] => none
      | w :: args => some { name := Text.lower w, args, raw, remainder := remainderOf raw }
    else none
  | _ => none

end MudClient.Command
