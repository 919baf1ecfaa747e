/-
# Terminal key events

The terminal reports a key press as a key number, the character typed (for
key number 256, a typed character) and a mask of modifiers.  Numbers below 32
are the control chords, 127 is the second backspace, 257 to 278 are the
navigation and editing keys, and 279 to 342 the function keys F1 to F64.
Key 256 has no name of its own, and neither has 272.

An event is normalised when it is made: a typed character below the space, or
DEL, becomes the key of that number, and a control character other than
backspace, tab, escape and enter typed without modifiers gains the control
modifier.
-/

namespace MudClient.Key.Terminal

def runeKey : Int := 256

def controlNames : List String :=
  ["Ctrl-Space", "Ctrl-A", "Ctrl-B", "Ctrl-C", "Ctrl-D", "Ctrl-E", "Ctrl-F", "Ctrl-G",
   "Backspace", "Tab", "Ctrl-J", "Ctrl-K", "Ctrl-L", "Enter", "Ctrl-N", "Ctrl-O",
   "Ctrl-P", "Ctrl-Q", "Ctrl-R", "Ctrl-S", "Ctrl-T", "Ctrl-U", "Ctrl-V", "Ctrl-W",
   "Ctrl-X", "Ctrl-Y", "Ctrl-Z", "Esc", "Ctrl-\\", "Ctrl-]", "Ctrl-^", "Ctrl-_"]

def navigationNames : List (Option String) :=
  [some "Up", some "Down", some "Right", some "Left", some "UpLeft", some "UpRight",
   some "DownLeft", some "DownRight", some "Center", some "PgUp", some "PgDn", some "Home",
   some "End", some "Insert", some "Delete", none, some "Exit", some "Clear", some "Cancel",
   some "Print", some "Pause", some "Backtab"]

def keyName? (k : Int) : Option String :=
  if 0 ≤ k ∧ k < 32 then controlNames[k.toNat]?
  else if k = 127 then some "Backspace2"
  else if 257 ≤ k ∧ k ≤ 278 then (navigationNames[(k - 257).toNat]?).join
  else if 279 ≤ k ∧ k ≤ 342 then some ("F" ++ toString (k - 278))
  else none

def allNames : List String :=
  controlNames ++ ["Backspace2"] ++ navigationNames.filterMap id ++
    (List.range 64).map fun i => "F" ++ toString (i + 1)

def shiftBit : Nat := 1
def ctrlBit : Nat := 2
def altBit : Nat := 4
def metaBit : Nat := 8

/-- A normalised key event: the key number (a signed 16-bit word), the typed
character's code (a signed 32-bit word) and the modifier mask (16 bits). -/
structure Event where
  key : Int
  rune : Int
  mods : Nat
deriving DecidableEq, Repr

/-- The event for a key number, a typed character and a modifier mask, each
first narrowed to its width, after the normalisation described above. -/
def Event.make (key rune mods : Int) : Event :=
  let key := Int.bmod key 65536
  let rune := Int.bmod rune 4294967296
  let mods := (mods % 65536).toNat
  if key = runeKey ∧ (rune < 32 ∨ rune = 127) then
    let typeable := rune = 8 ∨ rune = 9 ∨ rune = 27 ∨ rune = 13
    let key := Int.bmod rune 65536
    if mods = 0 ∧ rune < 32 ∧ ¬ typeable then ⟨key, rune, ctrlBit⟩ else ⟨key, rune, mods⟩
  else ⟨key, rune, mods⟩

def Event.holds (e : Event) (bit : Nat) : Bool := e.mods &&& bit != 0

end MudClient.Key.Terminal
