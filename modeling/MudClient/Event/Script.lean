/-
# Scripted handlers

A scripted handler is a handler given as data: it notes its name in the
journal of the publication that called it, performs a list of bus actions,
and then returns, fails or panics as it was told.  Bus actions are the
operations of the bus itself, named by labels instead of handles: make a
subscription or a spec, publish, retract an owner, remove a subscription,
and look at the bus.  Scripted handlers make it possible to describe a
whole conversation with the bus as data, including handlers that use the
bus while an event is being delivered.

Every action answers with a report.  A publication's report holds the
journal its handlers wrote, in order: their names, the reports of the
publications they made, and the reports of their actions that failed.
Handlers can nest publications only so deep: at the limit a handler with
actions notes that it reached the limit and performs none of them.  A
handler may remove its own subscription, and naming any other label in a
removal does nothing.
-/
import MudClient.Event.Registrar

namespace MudClient.Event

open MudClient.Session

mutual

/-- An operation on the bus. -/
inductive Action where
  | subscribe (label : String) (kind : Kind) (owner : String) (filter : Filter) (handler : Option Script)
  | register (label : String) (spec : Spec) (handler : Option Script)
  | publish (ev : Message) (cancelled : Bool)
  | retract (owner : String)
  | unsubscribe (label : String)
  | active (label : String)
  | stats
  | owners (kind : Kind)
  | count (kind : Kind) (owner : String)

/-- A handler given as data: its name, how it ends, and what it does first. -/
inductive Script where
  | mk (label : String) (outcome : Outcome) (actions : List Action)

end

def Script.label : Script → String
  | .mk l _ _ => l

mutual

/-- What an action answers. -/
inductive Report where
  | subscribed (label : String) (handle : Handle)
  | refused (f : Failure)
  | registered (owner : String) (handles : List (String × Handle))
  | refusedSpec (f : Failure)
  | published (journal : List Note) (faults : List (PublishFault × String))
  | removed (n : Nat)
  | unsubscribed (result : Option Failure)
  | activity (label : String) (active : Bool) (handle : Option Handle)
  | totals (stats : BusStats) (calls : SequencerStats) (active : Nat)
  | ownerList (owners : List String)
  | counts (total byKind byOwner : Nat)

/-- An entry of a publication's journal. -/
inductive Note where
  | called (label : String)
  | depthLimit
  | nested (r : Report)
  | failedAction (r : Report)

end

/-- Whether a report is of an action that failed.  Removing a subscription
that is already gone is not counted as a failure here. -/
def Report.failed : Report → Bool
  | .refused _ | .refusedSpec _ => true
  | .published _ faults => !faults.isEmpty
  | _ => false

/-- The bus with its scripted handlers, the labels given to subscriptions,
the journals of the publications in progress, innermost first, and the
sessions guards look up. -/
structure Stage where
  bus : Bus (Guarded Script)
  handles : List (String × Handle) := []
  names : List (Nat × String) := []
  journals : List (List Note) := []
  sessions : List Info := []
  /-- The label of the handler whose actions are running, if any. -/
  scope : Option String := none

namespace Stage

def session? (s : Stage) (id : SessionId) : Option Info := s.sessions.find? (·.id == id)

def nameOf (s : Stage) (serial : Nat) : String := (s.names.lookup serial).getD ""

def label (s : Stage) (named : List (String × Handle)) : Stage :=
  { s with handles := named.reverse ++ s.handles, names := named.map (fun (l, h) => (h.serial, l)) ++ s.names }

def note (s : Stage) (n : Note) : Stage :=
  match s.journals with
  | j :: rest => { s with journals := (j ++ [n]) :: rest }
  | [] => s

end Stage

def nestingLimit : Nat := 8

def registerSpec (label : String) (spec : Spec) (handler : Option Script) : StateM Stage Report := do
  let s ← get
  match spec.register s.bus handler with
  | (.error f, bus) =>
    set { s with bus }
    pure (.refusedSpec f)
  | (.ok hs, bus) =>
    let named := ((List.range hs.length).zip hs).map fun (i, h) => (label ++ "#" ++ toString i, h)
    set ({ s with bus }.label named)
    pure (.registered spec.owner named)

mutual

def perform (fuel depth : Nat) : Action → StateM Stage Report
  | .subscribe label kind owner filter handler => do
    let s ← get
    match s.bus.subscribe kind owner filter (handler.map fun h => ⟨[], h⟩) with
    | .error f => pure (.refused f)
    | .ok (h, bus) =>
      set ({ s with bus }.label [(label, h)])
      pure (.subscribed label h)
  | .register label spec handler => registerSpec label spec handler
  | .publish ev cancelled => do
    modify fun s => { s with journals := [] :: s.journals }
    let faults ← match fuel with
      | 0 => pure []
      | fuel + 1 =>
        Bus.publish (do pure (← get).bus) (fun b => modify fun s => { s with bus := b })
          (fun sub _ => call fuel depth ev sub.handler) ev (pure cancelled)
    let s ← get
    let journal := s.journals.headD []
    let s := { s with journals := s.journals.drop 1 }
    let r := Report.published journal (faults.map fun f => match f with
      | .handler serial .. => (f, s.nameOf serial)
      | _ => (f, ""))
    set (if depth > 0 then s.note (.nested r) else s)
    pure r
  | .retract owner => do
    let s ← get
    let (n, bus) := s.bus.retract owner
    set { s with bus }
    pure (.removed n)
  | .unsubscribe label => do
    let s ← get
    if s.scope.any (· != label) then return .unsubscribed none
    match s.bus.unsubscribe (s.handles.lookup label) with
    | .ok bus => set { s with bus }; pure (.unsubscribed none)
    | .error f => pure (.unsubscribed (some f))
  | .active label => do
    let s ← get
    let h := s.handles.lookup label
    pure (.activity label (match h with | some h => s.bus.active h | none => false) h)
  | .stats => do
    let s ← get
    pure (.totals s.bus.stats s.bus.calls s.bus.count)
  | .owners kind => do pure (.ownerList ((← get).bus.owners kind))
  | .count kind owner => do
    let b := (← get).bus
    pure (.counts b.count (b.ofKind kind).length (b.countOwned owner))
termination_by (fuel, 0, 0)

/-- Runs a guarded scripted handler for an event published at a depth;
nothing happens when a guard fails. -/
def call (fuel depth : Nat) (ev : Message) (g : Guarded Script) : StateM Stage Outcome := do
  let s ← get
  if !g.guards.all (Guard.holds s.session? ev) then return .ok
  match g.body with
  | .mk label outcome actions =>
    modify fun s => s.note (.called label)
    if !actions.isEmpty && depth ≥ nestingLimit then
      modify fun s => s.note .depthLimit
    else
      let outer := (← get).scope
      modify fun s => { s with scope := some label }
      performAll fuel (depth + 1) actions
      modify fun s => { s with scope := outer }
    pure outcome
termination_by (fuel, 2, 0)

def performAll (fuel depth : Nat) : List Action → StateM Stage Unit
  | [] => pure ()
  | a :: rest => do
    let r ← perform fuel depth a
    if r.failed then modify fun s => s.note (.failedAction r)
    performAll fuel depth rest
termination_by as => (fuel, 1, as.length)

end

end MudClient.Event
