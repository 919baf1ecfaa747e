/-
# Failures

Every fallible operation of the library reports a `Failure`: the text a user
reads, the named conditions a caller may test the failure for, and the kinds
of failure it passed through on its way out, innermost last.  Each part of
the library has its own error type with the causes it knows about; each of
those turns into a `Failure` in one place, so the wording lives beside its
cause.
-/

namespace MudClient

/-- A named condition that a caller can test a failure for. -/
inductive Condition where
  | keyEmpty | keyInvalid
  | commandEmptyName | commandNoHandler | commandNoOwner
  | eventBadHandler | eventMalformedFilter | eventUnknownKind | eventNoOwner
  | eventNoSubscription | eventHandlerPanic
  | moduleNotFound | moduleAlreadyRegistered | moduleAlreadyLoaded | moduleMissing
  | moduleBadId | moduleReservedId | moduleNoEntryPoint | manifestMissing
  | moduleNoCommands | manifestInvalid | manifestNoName | manifestBadName
  | manifestBadVersion | manifestBadMain | manifestBadCapability | manifestBadTimeout
  | scriptClosed | scriptTimeout | scriptNotFunction
  | configNotFound | configBadFormat | configInvalid
  | hostUnknownSession | runtimeUnknownSession | runtimeNotRunning | runtimeAlreadyRunning
  | watchNoPath | watcherClosed
deriving DecidableEq, Repr

def Condition.all : List Condition :=
  [.keyEmpty, .keyInvalid,
   .commandEmptyName, .commandNoHandler, .commandNoOwner,
   .eventBadHandler, .eventMalformedFilter, .eventUnknownKind, .eventNoOwner,
   .eventNoSubscription, .eventHandlerPanic,
   .moduleNotFound, .moduleAlreadyRegistered, .moduleAlreadyLoaded, .moduleMissing,
   .moduleBadId, .moduleReservedId, .moduleNoEntryPoint, .manifestMissing,
   .moduleNoCommands, .manifestInvalid, .manifestNoName, .manifestBadName,
   .manifestBadVersion, .manifestBadMain, .manifestBadCapability, .manifestBadTimeout,
   .scriptClosed, .scriptTimeout, .scriptNotFunction,
   .configNotFound, .configBadFormat, .configInvalid,
   .hostUnknownSession, .runtimeUnknownSession, .runtimeNotRunning, .runtimeAlreadyRunning,
   .watchNoPath, .watcherClosed]

/-- The kinds of failure that carry data of their own, in the order in which a
report prefers them. -/
inductive FailureKind where
  | startup | component | load | registration | delivery | parse | validation
  | capability | panic | script
deriving DecidableEq, Repr

def FailureKind.all : List FailureKind :=
  [.startup, .component, .load, .registration, .delivery, .parse, .validation,
   .capability, .panic, .script]

/-- A failure as callers see it. -/
structure Failure where
  /-- The text of the failure. -/
  message : String
  /-- The named conditions the failure stands for. -/
  conditions : List Condition := []
  /-- The kinds of failure it passed through. -/
  kinds : List FailureKind := []
deriving Repr

namespace Failure

def plain (message : String) : Failure := { message }

def reported (f : Failure) : List Condition :=
  Condition.all.filter (· ∈ f.conditions)

def kind? (f : Failure) : Option FailureKind :=
  FailureKind.all.find? (· ∈ f.kinds)

/-- The failure wrapped by an outer one: the outer text comes first, followed
by the inner text after a colon. -/
def wrap (prefix_ : String) (f : Failure) : Failure :=
  { f with message := prefix_ ++ ": " ++ f.message }

def withCondition (c : Condition) (f : Failure) : Failure :=
  { f with conditions := c :: f.conditions }

def withKind (k : FailureKind) (f : Failure) : Failure :=
  { f with kinds := k :: f.kinds }

end Failure

end MudClient
