/-
# Debouncing changes

Changes are grouped by the module that owns them.  A module's first change
starts a group that is due one delay later; every further change of the
module joins the group, adds its path when the group does not have it yet,
and makes the group due one delay after it arrived.  When a group falls due
it is reported, and the module starts afresh.

Time is a clock in milliseconds that the caller moves forward: moving it
reports, in order of when they fell due, every group due by then.  A flush
reports every group at once, in the order of the module names.  Once
stopped, the debouncer drops every group and accepts no more changes.
-/
import MudClient.Watch.Op

namespace MudClient.Watch

/-- A group of changes of one module: the paths in the order they first
changed, and every operation seen on them.  The module is empty when no
module owns the paths. -/
structure Change where
  module : String
  paths : List String
  op : Op
deriving DecidableEq, Repr, Inhabited

/-- A group waiting to be reported, and when it falls due. -/
structure Pending where
  change : Change
  due : Nat
deriving DecidableEq, Repr, Inhabited

/-- Groups of changes waiting for a quiet period. -/
structure Debouncer where
  /-- The quiet period, in milliseconds. -/
  delay : Nat
  /-- The time now, in milliseconds. -/
  now : Nat := 0
  pending : List Pending := []
  stopped : Bool := false
  /-- The groups reported so far, in order. -/
  fired : List Change := []
deriving Repr, Inhabited

namespace Debouncer

def add (d : Debouncer) (module path : String) (op : Op) : Debouncer :=
  if d.stopped then d
  else
    let due := d.now + d.delay
    match d.pending.find? (·.change.module == module) with
    | some p =>
      let c := p.change
      let c := { c with op := c.op.union op,
                        paths := if c.paths.contains path then c.paths else c.paths ++ [path] }
      { d with pending := d.pending.map fun q => if q.change.module == module then ⟨c, due⟩ else q }
    | none => { d with pending := d.pending ++ [⟨⟨module, [path], op⟩, due⟩] }

def fire (d : Debouncer) (module : String) : Debouncer :=
  match d.pending.find? (·.change.module == module) with
  | some p =>
    if d.stopped then d
    else { d with pending := d.pending.filter (·.change.module != module), fired := d.fired ++ [p.change] }
  | none => d

def flush (d : Debouncer) : Debouncer :=
  let ids := (d.pending.map (·.change.module)).mergeSort fun a b => decide (a ≤ b)
  ids.foldl fire d

def stop (d : Debouncer) : Debouncer := { d with stopped := true, pending := [] }

def next? (d : Debouncer) : Option Pending :=
  d.pending.foldl (fun best p => match best with
    | some b => if p.due < b.due || (p.due == b.due && p.change.module < b.change.module) then some p else some b
    | none => some p) none

def reportDue (fuel : Nat) (d : Debouncer) (time : Nat) : Debouncer :=
  match fuel with
  | 0 => d
  | fuel + 1 =>
    match d.next? with
    | some p => if p.due ≤ time then reportDue fuel (d.fire p.change.module) time else d
    | none => d

def advance (d : Debouncer) (time : Nat) : Debouncer :=
  let d := d.reportDue d.pending.length time
  { d with now := max d.now time }

/-- Waits until at least `count` groups were reported in all, or nothing is
left to wait for; `fuel` bounds the waiting. -/
def waitFor (fuel : Nat) (d : Debouncer) (count : Nat) : Debouncer :=
  match fuel with
  | 0 => d
  | fuel + 1 =>
    if d.fired.length ≥ count then d
    else match d.next? with
      | some p => waitFor fuel (d.advance p.due) count
      | none => d

end Debouncer

end MudClient.Watch
