/-
# Key codes

A key code is the canonical text of a key press: the held modifiers in the
order ctrl, alt, shift, meta, each followed by `+`, then the key's name.  A
special key is named in lower case (`up`, `pgdn`, `f5`, `space`); any other key
is the one character it types.

A key specification is read into its code.  It may be a single character, a
special key name or one of its aliases, modifiers and a key joined by `+` or
`-` (`Ctrl+P`, `ctrl-shift-up`), or a chord in angle brackets joined by `-`
(`<C-p>`, `<A-F4>`, `<CR>`).  A doubled separator at the end is the separator
key itself, so `ctrl++` is control with the plus key.

## Main statements

* `Code.ofSpec?`: reads a specification; it fails on an empty specification,
  an unknown modifier, a missing key or an unknown key.
* `Code.ofEvent`: the code of a terminal key event, in the same canonical form.
-/
import MudClient.Failure
import MudClient.Text.Quote
import MudClient.Key.Modifier
import MudClient.Key.Terminal

namespace MudClient.Key

/-- Why a key specification was refused. -/
inductive SpecError where
  /-- The specification holds nothing but white space. -/
  | empty
  /-- A part before the key names no modifier. -/
  | unknownModifier (part : String)
  /-- The key part is empty. -/
  | missingKey
  /-- The key part is neither a special key nor a single character. -/
  | unknownKey (part : String)
deriving DecidableEq, Repr

def SpecError.toFailure : SpecError → Failure
  | .empty => { message := "empty key specification", conditions := [.keyEmpty] }
  | .unknownModifier p =>
    { message := "invalid key specification: unknown modifier " ++ Text.quote p,
      conditions := [.keyInvalid] }
  | .missingKey =>
    { message := "invalid key specification: missing key", conditions := [.keyInvalid] }
  | .unknownKey p =>
    { message := "invalid key specification: unknown key " ++ Text.quote p,
      conditions := [.keyInvalid] }

/-- A canonical key code: the held modifiers and the key's name. -/
structure Code where
  mods : Modifiers
  name : String
deriving DecidableEq, Repr

def Code.render (c : Code) : String :=
  if c.mods.bits = 0 then c.name else c.mods.render ++ "+" ++ c.name

def aliases : List (String × String) :=
  [("escape", "esc"), ("return", "enter"), ("cr", "enter"), ("bs", "backspace"),
   ("backspace2", "backspace"), ("del", "delete"), ("ins", "insert"),
   ("pageup", "pgup"), ("pagedown", "pgdn"), ("arrowup", "up"), ("arrowdown", "down"),
   ("arrowleft", "left"), ("arrowright", "right"), ("printscreen", "print"),
   (" ", "space"), ("lt", "<"), ("gt", ">"), ("bar", "|"), ("bslash", "\\")]

/-- The special key names: every terminal key name that is not a control
chord, in lower case, and `space`. -/
def specialNames : List String :=
  "space" :: (Terminal.allNames.filter (fun n => !n.startsWith "Ctrl-")).map Text.lower

/-- A name in lower case with its alias resolved, and whether that is a
special key name. -/
def canonicalName (name : String) : String × Bool :=
  let lower := Text.lower name
  let resolved := (aliases.lookup lower).getD lower
  (resolved, specialNames.contains resolved)

def isSpecial (name : String) : Bool := (canonicalName name).2

def charName (c : Char) : String := String.singleton c

def readKey (part : String) (mods : Modifiers) : Except SpecError Code :=
  if part.isEmpty then .error .missingKey
  else
    let part := if part = " " then part else Text.trimSpace part
    match canonicalName part with
    | (name, true) => .ok ⟨mods, name⟩
    | (name, false) =>
      match part.toList with
      | [c] =>
        if c = ' ' then .ok ⟨mods, "space"⟩
        else if mods.has .ctrl then .ok ⟨mods, charName (Text.lowerChar c)⟩
        else .ok ⟨mods, charName c⟩
      | _ =>
        if name.utf8ByteSize = 1 then .ok ⟨mods, name⟩ else .error (.unknownKey part)

def readChord : List String → Except SpecError Code
  | [] => .error .missingKey
  | [key] => readKey key .none
  | parts =>
    let rec readMods (acc : Modifiers) : List String → Except SpecError Code
      | [] => .error .missingKey
      | [key] => readKey key acc
      | p :: rest =>
        let m := Modifiers.ofName p
        if m.bits = 0 then .error (.unknownModifier p) else readMods (acc.union m) rest
    readMods .none parts

def splitAt (sep : Char) (s : String) : List String :=
  let rec go : List Char → List Char → List String
    | [], cur => [String.ofList cur.reverse]
    | c :: cs, cur => if c = sep then String.ofList cur.reverse :: go cs [] else go cs (c :: cur)
  go s.toList []

/-- Splits a chord at a separator; a doubled separator at the end is the
separator key itself. -/
def splitChord (s : String) (sep : Char) : List String :=
  let cs := s.toList
  if cs.length ≥ 2 ∧ cs.reverse.take 2 = [sep, sep] then
    splitAt sep (String.ofList (cs.take (cs.length - 2))) ++ [String.singleton sep]
  else splitAt sep s

def Code.ofSpec? (spec : String) : Except SpecError Code :=
  let spec := Text.trimSpace spec
  let cs := spec.toList
  if cs.isEmpty then .error .empty
  else if spec.utf8ByteSize > 2 ∧ cs.head? = some '<' ∧ cs.getLast? = some '>' then
    readChord (splitChord (String.ofList ((cs.drop 1).take (cs.length - 2))) '-')
  else if cs.length = 1 then readKey spec .none
  else if (cs.drop 1).contains '+' then readChord (splitChord spec '+')
  else if (cs.drop 1).contains '-' then readChord (splitChord spec '-')
  else readKey spec .none

def sameKey (a b : String) : Bool :=
  match Code.ofSpec? a, Code.ofSpec? b with
  | .ok x, .ok y => x.render == y.render
  | _, _ => false

/-- The text of a typed character: a code that is no character gives the
replacement character. -/
def runeText (r : Int) : String :=
  if r < 0 ∨ r > 0x10FFFF ∨ (0xD800 ≤ r ∧ r ≤ 0xDFFF) then "�"
  else String.singleton (Char.ofNat r.toNat)

/-- The code of a terminal key event.  A key without a name gives the empty
code. -/
def Code.ofEvent (e : Terminal.Event) : Code :=
  let mods : Modifiers :=
    ⟨(if e.holds Terminal.ctrlBit then 1 else 0) ||| (if e.holds Terminal.altBit then 2 else 0) |||
      (if e.holds Terminal.shiftBit then 4 else 0) ||| (if e.holds Terminal.metaBit then 8 else 0)⟩
  if e.key = Terminal.runeKey then
    if e.rune = 32 then ⟨mods, "space"⟩
    else if mods.has .ctrl then ⟨mods, Text.lower (runeText e.rune)⟩
    else ⟨mods.remove .shift, runeText e.rune⟩
  else
    match Terminal.keyName? e.key with
    | none => ⟨.none, ""⟩
    | some name =>
      if name.startsWith "Ctrl-" then ⟨mods.union .ctrl, Text.lower (String.ofList (name.toList.drop 5))⟩
      else ⟨mods, (canonicalName name).1⟩

end MudClient.Key
