/-
# Subscribing on behalf of a module

A `Spec` describes subscriptions before they are made: the module that
will own them, the kinds they are for, the fields events must hold, and
guards that the handler checks itself once an event has passed the
filter.  Each way of refining a spec gives a new spec, so a spec can be
shared and refined in different ways.

Registering a spec subscribes its handler to every kind in turn; when one
subscription is refused, those already made are removed again and the
refusal is the answer.

The usual specs have names of their own: a session finishing or losing its
connection, a new session or one resumed for the module after a reload, a
GMCP package, a custom event type, and events of the sessions of one MUD,
whose name compares without regard to case.
-/
import MudClient.Event.Bus
import MudClient.Text.Case

namespace MudClient.Event

open MudClient.Session

/-- A condition a handler checks before it runs. -/
inductive Guard where
  /-- Holds for every event but a resumed session meant for another module. -/
  | resumedFor (owner : String)
  /-- Holds for events of sessions connected to the named MUD. -/
  | forMud (mud : String)
deriving DecidableEq, Repr

def Guard.holds (lookup : SessionId → Option Info) (ev : Message) : Guard → Bool
  | .resumedFor owner =>
    if ev.kind != Kind.resumeSession then true
    else match ev.payload with
      | some (.session _ m) => m.isEmpty || m == owner
      | _ => true
  | .forMud mud =>
    match ev.session with
    | some id => match lookup id with
      | some info => Text.equalFold info.mud mud
      | none => false
    | none => false

/-- A handler with the guards it checks first. -/
structure Guarded (η : Type) where
  guards : List Guard
  body : η

/-- Subscriptions to be made. -/
structure Spec where
  owner : String
  kinds : List Kind
  filter : Filter := []
  guards : List Guard := []
deriving Repr

namespace Spec

def on (owner : String) (kinds : List Kind) : Spec := { owner, kinds }

def require (s : Spec) (name : String) (value : Data) : Spec :=
  { s with filter := s.filter.where name value }

def matching (s : Spec) (f : Filter) : Spec := f.foldl (fun s (k, v) => s.require k v) s

def guard (s : Spec) (g : Guard) : Spec := { s with guards := s.guards ++ [g] }

def connected (s : Spec) : Spec := s.require "status" (.text Status.connected.name)

def disconnected (s : Spec) : Spec := s.require "status" (.text Status.disconnected.name)

variable {η : Type}

/-- Subscribes to each kind in turn; see above.  The bus is answered in
either case: after a refusal it is the bus from which the subscriptions
already made were removed again. -/
def register (s : Spec) (b : Bus (Guarded η)) (handler : Option η) :
    Except Failure (List Handle) × Bus (Guarded η) :=
  if s.kinds.isEmpty then
    (.error (registrationFailure ⟨""⟩ s.owner (unknownKindFailure "no kinds given")), b)
  else
    let h := handler.map fun body => ({ guards := s.guards, body } : Guarded η)
    let rec go (b : Bus (Guarded η)) (done : List Handle) :
        List Kind → Except Failure (List Handle) × Bus (Guarded η)
      | [] => (.ok done, b)
      | k :: rest =>
        match b.subscribe k s.owner s.filter h with
        | .ok (hd, b) => go b (done ++ [hd]) rest
        | .error f => (.error f, b.unsubscribeAll done)
    go b [] s.kinds

end Spec

def Spec.onConnected (owner : String) : Spec := (Spec.on owner [Kind.connectionStatus]).connected

def Spec.onDisconnected (owner : String) : Spec := (Spec.on owner [Kind.connectionStatus]).disconnected

def Spec.onNewSessionOrResume (owner : String) : Spec :=
  (Spec.on owner [Kind.newSession, Kind.resumeSession]).guard (.resumedFor owner)

def Spec.onGmcp (owner pkg : String) : Spec := (Spec.on owner [Kind.gmcpMessage]).require "package" (.text pkg)

def Spec.onCustom (owner type : String) : Spec := (Spec.on owner [Kind.custom]).require "type" (.text type)

def Spec.onMud (owner mud : String) (kind : Kind) : Spec := (Spec.on owner [kind]).guard (.forMud mud)

def Spec.onMudConnected (owner mud : String) : Spec := (Spec.onConnected owner).guard (.forMud mud)

end MudClient.Event
