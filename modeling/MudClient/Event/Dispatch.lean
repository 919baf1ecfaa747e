/-
# Running handler calls in sequence

A handler call ends in one of three ways: it returns, it fails with a
message, or it panics with a value.  The sequencer runs calls one after
another and keeps running totals of how each ended.  A call that comes
after its context was cancelled never runs: it is skipped, and the
cancellation is its error.  A failing or panicking call never stops the
calls after it; a panic is passed to the panic handler, if there is one,
and a panic in the panic handler itself is ignored.

With a timeout each call runs under a deadline; the call is told so, and
it is up to the call to respect it.
-/

namespace MudClient.Event

/-- How a call that ran ended. -/
inductive Outcome where
  | ok
  | failed (message : String)
  | panicked (value : String)
deriving DecidableEq, Repr, Inhabited

/-- The result of one call: how it ended, or that it was skipped, with the
reason. -/
inductive CallResult where
  | ran (o : Outcome)
  | skipped (reason : String)
deriving DecidableEq, Repr, Inhabited

namespace CallResult

def ok : CallResult → Bool
  | .ran .ok => true
  | _ => false

def error? : CallResult → Option String
  | .ran (.failed m) => some m
  | .skipped r => some r
  | _ => none

def panic? : CallResult → Option String
  | .ran (.panicked v) => some v
  | _ => none

end CallResult

/-- Running totals of the calls a sequencer made. -/
structure SequencerStats where
  executed : Nat := 0
  succeeded : Nat := 0
  failed : Nat := 0
  panicked : Nat := 0
  skipped : Nat := 0
deriving DecidableEq, Repr, Inhabited

def SequencerStats.note (s : SequencerStats) : CallResult → SequencerStats
  | .skipped _ => { s with executed := s.executed + 1, skipped := s.skipped + 1 }
  | .ran .ok => { s with executed := s.executed + 1, succeeded := s.succeeded + 1 }
  | .ran (.failed _) => { s with executed := s.executed + 1, failed := s.failed + 1 }
  | .ran (.panicked _) => { s with executed := s.executed + 1, panicked := s.panicked + 1 }

def cancelledReason : String := "context canceled"

/-- Runs one call: skipped when the context is cancelled, otherwise run,
with a deadline when there is a timeout; a panic goes to the panic
handler. -/
def runCall {m : Type → Type} [Monad m] (timeout : Nat) (cancelled : Bool)
    (onPanic : String → m Unit) (call : Bool → m Outcome) : m CallResult := do
  if cancelled then return .skipped cancelledReason
  let o ← call (timeout > 0)
  if let .panicked v := o then onPanic v
  pure (.ran o)

def runCalls {m : Type → Type} [Monad m] {α : Type} (timeout : Nat) (cancelled : Bool)
    (onPanic : String → m Unit) (call : α → Bool → m Outcome) :
    List α → SequencerStats → m (List CallResult × SequencerStats)
  | [], s => pure ([], s)
  | c :: rest, s => do
    let r ← runCall timeout cancelled onPanic (call c)
    let (rs, s) ← runCalls timeout cancelled onPanic call rest (s.note r)
    pure (r :: rs, s)

end MudClient.Event
