/-
# Modifier keys

A set of modifier keys held with a key press, kept as a byte of flags: ctrl,
alt, shift and meta are the four low bits, in the order in which a written key
names them.  Higher bits can be carried but are never named.
-/
import MudClient.Text.Case
import MudClient.Text.Space

namespace MudClient.Key

/-- A set of modifier keys. -/
structure Modifiers where
  bits : UInt8
deriving DecidableEq, Repr

namespace Modifiers

def none : Modifiers := ⟨0⟩
def ctrl : Modifiers := ⟨1⟩
def alt : Modifiers := ⟨2⟩
def shift : Modifiers := ⟨4⟩
def metaKey : Modifiers := ⟨8⟩

def has (s m : Modifiers) : Bool := m.bits != 0 && s.bits &&& m.bits == m.bits

def union (s m : Modifiers) : Modifiers := ⟨s.bits ||| m.bits⟩

def remove (s m : Modifiers) : Modifiers := ⟨s.bits &&& ~~~m.bits⟩

def named : List (Modifiers × String) :=
  [(ctrl, "ctrl"), (alt, "alt"), (shift, "shift"), (metaKey, "meta")]

def render (s : Modifiers) : String :=
  "+".intercalate ((named.filter fun p => s.has p.1).map (·.2))

def spellings : List (String × Modifiers) :=
  [("ctrl", ctrl), ("control", ctrl), ("c", ctrl),
   ("alt", alt), ("a", alt), ("option", alt), ("opt", alt),
   ("shift", shift), ("s", shift),
   ("meta", metaKey), ("m", metaKey), ("cmd", metaKey), ("super", metaKey)]

/-- The modifier a name spells, ignoring case and surrounding white space;
an unknown name gives the empty set. -/
def ofName (name : String) : Modifiers :=
  ((spellings.lookup (Text.lower (Text.trimSpace name)))).getD none

end Modifiers

end MudClient.Key
