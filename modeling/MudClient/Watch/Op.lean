/-
# File operations

A file operation is a set of the four changes a watcher reports: a file
was created, written, removed or renamed.  Sets are kept as bits, one per
change in that order, and written as the names of their changes joined by
`|`, or `none` for the empty set.  Bits beyond the four are ignored.
-/

namespace MudClient.Watch

/-- A set of file changes, as bits: create, write, remove, rename. -/
structure Op where
  bits : Nat
deriving DecidableEq, Repr, Inhabited

namespace Op

def empty : Op := ⟨0⟩

def create : Op := ⟨1⟩

def write : Op := ⟨2⟩

def remove : Op := ⟨4⟩

def rename : Op := ⟨8⟩

def union (a b : Op) : Op := ⟨a.bits ||| b.bits⟩

def has (a b : Op) : Bool := a.bits &&& b.bits != 0

def isEmpty (a : Op) : Bool := a.bits % 16 == 0

def named : List (Op × String) :=
  [(create, "create"), (write, "write"), (remove, "remove"), (rename, "rename")]

def render (a : Op) : String :=
  match (named.filter fun (o, _) => a.has o).map (·.2) with
  | [] => "none"
  | names => "|".intercalate names

end Op

end MudClient.Watch
