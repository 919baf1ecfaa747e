/-
# The event bus

The bus keeps subscriptions, each a kind, an owning module, a filter and a
handler, in its registry, and delivers each published event to the
subscriptions of its kind in the order they were made.

A subscription needs a kind the host knows, an owner, a handler and a well
formed filter; otherwise it is refused with a registration failure that
names the kind and the owner.  Subscriptions can be removed one at a time
or all those of one owner at once.

Publishing takes the subscriptions of the event's kind as they are when
publishing starts.  Handlers run one after another and may change the
subscriptions while the event is being delivered: new subscriptions wait
for the next event, but one removed before its turn is passed over.  A
subscription whose filter the event fails is counted as filtered.  A
handler's failure or panic is collected and never stops the handlers
after it.  The context is looked at before each handler due, as it stands
then: once it is done, that handler is skipped and delivery stops there.

Handlers are of any type: the bus only stores them, and publishing runs
them through the caller's function, in the caller's monad, so that a
handler can itself use the bus.
-/
import MudClient.Event.Registry
import MudClient.Event.Dispatch

namespace MudClient.Event

/-- What callers keep of a subscription; the zero handle refers to none. -/
structure Handle where
  serial : Nat
  kind : Kind
  owner : String
deriving DecidableEq, Repr, Inhabited

def subscriptionText (serial : Nat) : String :=
  let hex := String.ofList (Nat.toDigits 16 serial)
  let pad := String.ofList (List.replicate (12 - min 12 hex.length) '0') ++ hex
  "00000000-0000-4000-8000-" ++ pad

/-- Running totals of a bus. -/
structure BusStats where
  published : Nat := 0
  delivered : Nat := 0
  filtered : Nat := 0
  handlerErrors : Nat := 0
  handlerPanics : Nat := 0
  retracted : Nat := 0
deriving DecidableEq, Repr, Inhabited

/-- A bus with handlers of type `η`. -/
structure Bus (η : Type) where
  registry : Registry η := {}
  issued : Nat := 0
  stats : BusStats := {}
  calls : SequencerStats := {}
  /-- The deadline given to each handler call, in milliseconds; zero for none. -/
  timeout : Nat := 0

/-- Why a publication did not reach every handler cleanly. -/
inductive PublishFault where
  | unknownKind (kind : Kind)
  | cancelled (kind : Kind)
  /-- A handler failed or panicked. -/
  | handler (serial : Nat) (owner : String) (kind : Kind) (cause : Outcome)
deriving DecidableEq, Repr

def registrationFailure (kind : Kind) (owner : String) (inner : Failure) : Failure :=
  { message := "register " ++ kind.name ++ " handler for module " ++ Text.quote owner ++ ": " ++
      inner.message,
    conditions := inner.conditions, kinds := .registration :: inner.kinds }

def unknownKindFailure (detail : String) : Failure :=
  { message := "unknown event kind: " ++ detail, conditions := [.eventUnknownKind] }

def notSubscribed : Failure :=
  { message := "subscription not found", conditions := [.eventNoSubscription] }

def Outcome.conditions : Outcome → List Condition
  | .panicked _ => [.eventHandlerPanic]
  | _ => []

def Outcome.cause : Outcome → String
  | .ok => ""
  | .failed m => m
  | .panicked v => "handler panic: " ++ v

namespace PublishFault

def toFailure : PublishFault → Failure
  | .unknownKind k =>
    let message := "publish: unknown event kind: " ++ Text.quote k.name
    { message, conditions := [.eventUnknownKind] }
  | .cancelled k => .plain ("publish " ++ k.name ++ ": " ++ cancelledReason)
  | .handler serial owner k cause =>
    let message := k.name ++ " handler " ++ subscriptionText serial ++ " of module " ++ Text.quote owner ++
      ": " ++ cause.cause
    { message, conditions := cause.conditions, kinds := [.delivery] }

end PublishFault

def publishFailure (faults : List PublishFault) : Option Failure :=
  match faults with
  | [] => none
  | fs =>
    let parts := fs.map PublishFault.toFailure
    some { message := "\n".intercalate (parts.map (·.message)) }

namespace Bus

variable {η : Type}

def withTimeout (ms : Nat) : Bus η := { timeout := ms }

def active (b : Bus η) (h : Handle) : Bool := !b.registry.isCancelled h.serial

def subscribe (b : Bus η) (kind : Kind) (owner : String) (filter : Filter) (handler : Option η) :
    Except Failure (Handle × Bus η) := do
  let refuse (f : Failure) : Except Failure (Handle × Bus η) := .error (registrationFailure kind owner f)
  if !kind.valid then return ← refuse (unknownKindFailure (Text.quote kind.name))
  if owner.isEmpty then
    return ← refuse { message := "subscription owner is required", conditions := [.eventNoOwner] }
  let some h := handler
    | refuse { message := "handler is not callable", conditions := [.eventBadHandler] }
  match filter.validate with
  | .error f => refuse f
  | .ok _ =>
    let serial := b.issued + 1
    pure (⟨serial, kind, owner⟩,
      { b with registry := b.registry.add ⟨serial, kind, owner, filter, h⟩, issued := serial })

def unsubscribe (b : Bus η) (h : Option Handle) : Except Failure (Bus η) :=
  match h with
  | some h =>
    match b.registry.remove h.serial with
    | some registry => .ok { b with registry }
    | none => .error notSubscribed
  | none => .error notSubscribed

/-- Removes the subscriptions of some handles, in order; a handle whose
subscription is already gone is passed over. -/
def unsubscribeAll (b : Bus η) : List Handle → Bus η
  | [] => b
  | h :: hs =>
    match b.unsubscribe (some h) with
    | .ok b => b.unsubscribeAll hs
    | .error _ => b.unsubscribeAll hs

def retract (b : Bus η) (owner : String) : Nat × Bus η :=
  let (n, registry) := b.registry.removeOwner owner
  (n, { b with registry, stats := { b.stats with retracted := b.stats.retracted + n } })

def ofKind (b : Bus η) (kind : Kind) : List (Subscription η) := b.registry.snapshot kind

def owners (b : Bus η) (kind : Kind) : List String := (b.ofKind kind).map (·.owner)

def count (b : Bus η) : Nat := b.registry.count

def countOwned (b : Bus η) (owner : String) : Nat := b.registry.countByOwner owner

def noteDelivery (b : Bus η) (o : Outcome) : Bus η :=
  let s := b.stats
  let s := { s with delivered := s.delivered + 1 }
  let s := match o with
    | .failed _ => { s with handlerErrors := s.handlerErrors + 1 }
    | .panicked _ => { s with handlerPanics := s.handlerPanics + 1 }
    | .ok => s
  { b with stats := s, calls := b.calls.note (.ran o) }

def deliver {m : Type → Type} [Monad m] (get : m (Bus η)) (set : Bus η → m Unit)
    (run : Subscription η → Bool → m Outcome) (ev : Message) (done : m Bool) :
    List (Subscription η) → m (List PublishFault)
  | [] => pure []
  | sub :: rest => do
    let b ← get
    if b.registry.isCancelled sub.serial then deliver get set run ev done rest
    else if !sub.filter.admits ev then
      set { b with stats := { b.stats with filtered := b.stats.filtered + 1 } }
      deliver get set run ev done rest
    else if ← done then
      let b ← get
      set { b with calls := b.calls.note (.skipped cancelledReason) }
      pure [.cancelled ev.kind]
    else
      let o ← run sub (b.timeout > 0)
      set ((← get).noteDelivery o)
      let more ← deliver get set run ev done rest
      match o with
      | .ok => pure more
      | cause => pure (.handler sub.serial sub.owner ev.kind cause :: more)

/-- Publishes an event; `done` tells whether the context is done at the
moment it is asked.  See above. -/
def publish {m : Type → Type} [Monad m] (get : m (Bus η)) (set : Bus η → m Unit)
    (run : Subscription η → Bool → m Outcome) (ev : Message) (done : m Bool) : m (List PublishFault) := do
  if !ev.kind.valid then return [.unknownKind ev.kind]
  let b ← get
  set { b with stats := { b.stats with published := b.stats.published + 1 } }
  deliver get set run ev done (b.ofKind ev.kind)

end Bus

end MudClient.Event
