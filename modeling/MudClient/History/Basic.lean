/-
# Input history

The history keeps the last lines sent, at most its capacity, oldest first.
Blank lines are not kept.  Scrolling walks it from the newest line back
(`prev`) and forward again (`next`); the line that was being typed when
scrolling began is kept aside and given back when scrolling runs past the
newest line.  A line that the user types while scrolling ends the scroll; a
line a script sends does not.

While scrolling, the cursor is the index of the line shown.  Lines that were
sent empty and never typed are passed over, and so are lines a script sent
when they are to be skipped.

## Main statements

* `Buffer.append`: keeps a non-blank line and drops the oldest beyond the
  capacity.
* `Buffer.prev`, `Buffer.next`: one step of scrolling.
-/
import MudClient.Session.Basic

namespace MudClient.History

open Session

def defaultCapacity : Nat := 1000

/-- A history of input lines with its scrolling state. -/
structure Buffer where
  capacity : Nat
  lines : List InputLine := []
  cursor : Nat := 0
  scrolling : Bool := false
  /-- The line being typed when scrolling began. -/
  saved : Option InputLine := none
deriving Repr

/-- What a step forward shows. -/
inductive Step where
  /-- Not scrolling: nothing changes. -/
  | none
  /-- A newer line of the history. -/
  | line (l : InputLine)
  /-- Scrolling ended: the line that was being typed. -/
  | restore (l : InputLine)
deriving DecidableEq, Repr

namespace Buffer

def new (capacity : Int) : Buffer :=
  { capacity := if capacity < 1 then defaultCapacity else capacity.toNat }

def reset (h : Buffer) : Buffer :=
  { h with scrolling := false, cursor := 0, saved := none }

def passes (skipScripted : Bool) (l : InputLine) : Bool :=
  (l.scripted && skipScripted) || (l.sent.isEmpty && l.original.isNone)

/-- Keeps a line unless it is blank; answers whether it was kept.  The
oldest lines beyond the capacity are dropped, and the cursor moves with the
lines it points into. -/
def append (h : Buffer) (l : InputLine) : Bool × Buffer :=
  if l.blank then (false, h)
  else
    let h := if h.scrolling && !l.scripted then h.reset else h
    let lines := h.lines ++ [l]
    let extra := lines.length - h.capacity
    (true, { h with lines := lines.drop extra,
                    cursor := if h.scrolling then h.cursor - extra else h.cursor })

/-- The nearest line before index `i` that scrolling does not pass over,
with its index. -/
def findBefore (lines : List InputLine) (skipScripted : Bool) : Nat → Option (Nat × InputLine)
  | 0 => none
  | i + 1 =>
    match lines[i]? with
    | some l => if passes skipScripted l then findBefore lines skipScripted i else some (i, l)
    | none => findBefore lines skipScripted i

/-- The nearest line after index `i` that scrolling does not pass over,
with its index. -/
def findAfter (lines : List InputLine) (skipScripted : Bool) (i : Nat) : Option (Nat × InputLine) :=
  ((lines.zipIdx.drop (i + 1)).find? (fun p => !passes skipScripted p.1)).map fun p => (p.2, p.1)

/-- One step back, given the line being typed; answers the line to show.
The first step starts scrolling and keeps the typed line aside. -/
def prev (h : Buffer) (current : InputLine) (skipScripted : Bool) : Option InputLine × Buffer :=
  if h.lines.isEmpty then (none, h)
  else
    let h := if h.scrolling then h
      else { h with scrolling := true, cursor := h.lines.length, saved := some current }
    match findBefore h.lines skipScripted h.cursor with
    | some (i, l) => (some l, { h with cursor := i })
    | none => (none, { h with cursor := 0 })

def next (h : Buffer) (skipScripted : Bool) : Step × Buffer :=
  if !h.scrolling then (.none, h)
  else
    match findAfter h.lines skipScripted h.cursor with
    | some (i, l) => (.line l, { h with cursor := i })
    | none => (.restore (h.saved.getD {}), h.reset)

end Buffer

end MudClient.History
