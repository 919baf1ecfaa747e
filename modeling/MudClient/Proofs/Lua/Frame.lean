/-
# A script changes its host only through host calls

The machine runs a script against a host state `σ` that it never looks
into: only the host functions `H` it calls read or change it.  This module
says so of every computation of the machine, in the form its users need.
Given an invariant of the host (`HostInvariant`), a computation *keeps* it
when, started from a world whose host satisfies it, it ends in one that
does, whether it returns or stops with an error, a yield or an unwinding.

Every library function, every helper on frames, the heap and arguments, and
the opening of libraries keeps every invariant, with nothing to assume:
none of them writes the host.  The sort of the table library keeps what its
comparison and swap keep.  The machine itself (running code, calling
values, metamethods, coroutines and `require`) keeps every invariant that
the host functions keep when they are given a way of calling Lua that keeps
it: the one hypothesis of the main statements.

## Main statements

* `machine_keeps`: the run, the step and the calls of the machine keep the
  invariant, for every fuel.
* `callTop_keeps`, `Script.exec_keeps`: so do a call made by the host and a
  run of a script.

The invariant is a class so that the generator of verification conditions
finds it in every spec without being told which one is meant: each spec
below is then one call of the generator over the function's body.
-/
import Mathlib
import MudClient.Lua.Sandbox

open Std.Do

set_option mvcgen.warning false

namespace MudClient.Lua

/-- An invariant of the host state a script runs against. -/
class HostInvariant (σ : Type) where
  holds : σ → Prop

variable {H σ : Type} [HostInvariant σ]

abbrev hostHolds : Assertion (.except Signal (.arg (World H σ) .pure)) :=
  fun w => ⌜HostInvariant.holds w.host⌝

/-- The invariant holds again when the computation returns and when it
stops with a signal. -/
abbrev hostKept (α : Type) : PostCond α (.except Signal (.arg (World H σ) .pure)) :=
  post⟨fun _ w => ⌜HostInvariant.holds w.host⌝, fun _ w => ⌜HostInvariant.holds w.host⌝⟩

/-! ## The heap, errors and arguments -/

section World

variable {α : Type}

@[spec] theorem allocTable_keeps (t : Table) : ⦃hostHolds⦄ (allocTable t : VM H σ Nat) ⦃hostKept _⦄ := by
  mvcgen [allocTable]

@[spec] theorem tableAt_keeps (r : Nat) : ⦃hostHolds⦄ (tableAt r : VM H σ Table) ⦃hostKept _⦄ := by
  mvcgen [tableAt]

@[spec] theorem modifyTable_keeps (r : Nat) (f : Table → Table) :
    ⦃hostHolds⦄ (modifyTable r f : VM H σ Unit) ⦃hostKept _⦄ := by
  mvcgen [modifyTable]

@[spec] theorem allocFunc_keeps (f : Func H) : ⦃hostHolds⦄ (allocFunc f : VM H σ Nat) ⦃hostKept _⦄ := by
  mvcgen [allocFunc]

@[spec] theorem funcAt_keeps (r : Nat) : ⦃hostHolds⦄ (funcAt r : VM H σ (Func H)) ⦃hostKept _⦄ := by
  mvcgen [funcAt]

@[spec] theorem allocCell_keeps (v : Value) : ⦃hostHolds⦄ (allocCell v : VM H σ Nat) ⦃hostKept _⦄ := by
  mvcgen [allocCell]

@[spec] theorem allocUserdata_keeps (u : Userdata) : ⦃hostHolds⦄ (allocUserdata u : VM H σ Nat) ⦃hostKept _⦄ := by
  mvcgen [allocUserdata]

@[spec] theorem globalField_keeps (name : String) : ⦃hostHolds⦄ (globalField name : VM H σ Value) ⦃hostKept _⦄ := by
  mvcgen [globalField]

@[spec] theorem metatableOf_keeps (v : Value) : ⦃hostHolds⦄ (metatableOf v : VM H σ (Option Nat)) ⦃hostKept _⦄ := by
  mvcgen [metatableOf]

@[spec] theorem metaField_keeps (v : Value) (e : String) : ⦃hostHolds⦄ (metaField v e : VM H σ Value) ⦃hostKept _⦄ := by
  mvcgen [metaField]

@[spec] theorem metaField2_keeps (a b : Value) (e : String) :
    ⦃hostHolds⦄ (metaField2 a b e : VM H σ Value) ⦃hostKept _⦄ := by
  mvcgen [metaField2]

@[spec] theorem frameEnv_keeps : ⦃hostHolds⦄ (frameEnv : VM H σ Nat) ⦃hostKept _⦄ := by
  mvcgen [frameEnv]

@[spec] theorem threadEnv_keeps : ⦃hostHolds⦄ (threadEnv : VM H σ Nat) ⦃hostKept _⦄ := by
  mvcgen [threadEnv]

@[spec] theorem throwValue_keeps (v : Value) : ⦃hostHolds⦄ (throwValue v : VM H σ α) ⦃hostKept _⦄ := by
  mvcgen [throwValue, currentTraceback]

@[spec] theorem raiseAt_keeps (l : Nat) (m : Bytes) : ⦃hostHolds⦄ (raiseAt l m : VM H σ α) ⦃hostKept _⦄ := by
  mvcgen [raiseAt]

@[spec] theorem raise_keeps (m : String) : ⦃hostHolds⦄ (raise m : VM H σ α) ⦃hostKept _⦄ := by
  mvcgen [raise]

@[spec] theorem crash_keeps (m : String) : ⦃hostHolds⦄ (crash m : VM H σ α) ⦃hostKept _⦄ := by
  mvcgen [crash]

@[spec] theorem argError_keeps (n : Nat) (m : String) : ⦃hostHolds⦄ (argError n m : VM H σ α) ⦃hostKept _⦄ := by
  mvcgen [argError, runningName]

@[spec] theorem typeError_keeps (args : Array Value) (n : Nat) (m : String) :
    ⦃hostHolds⦄ (typeError args n m : VM H σ α) ⦃hostKept _⦄ := by
  mvcgen [typeError]

@[spec] theorem checkAny_keeps (args : Array Value) (n : Nat) :
    ⦃hostHolds⦄ (checkAny args n : VM H σ Value) ⦃hostKept _⦄ := by
  mvcgen [checkAny]

@[spec] theorem checkString_keeps (args : Array Value) (n : Nat) :
    ⦃hostHolds⦄ (checkString args n : VM H σ Bytes) ⦃hostKept _⦄ := by
  mvcgen [checkString]

@[spec] theorem optString_keeps (args : Array Value) (n : Nat) (d : Bytes) :
    ⦃hostHolds⦄ (optString args n d : VM H σ Bytes) ⦃hostKept _⦄ := by
  mvcgen [optString]

@[spec] theorem checkNumber_keeps (args : Array Value) (n : Nat) :
    ⦃hostHolds⦄ (checkNumber args n : VM H σ Float) ⦃hostKept _⦄ := by
  mvcgen [checkNumber]

@[spec] theorem optNumber_keeps (args : Array Value) (n : Nat) (d : Float) :
    ⦃hostHolds⦄ (optNumber args n d : VM H σ Float) ⦃hostKept _⦄ := by
  mvcgen [optNumber]

@[spec] theorem checkInt_keeps (args : Array Value) (n : Nat) :
    ⦃hostHolds⦄ (checkInt args n : VM H σ Int) ⦃hostKept _⦄ := by
  mvcgen [checkInt]

@[spec] theorem optInt_keeps (args : Array Value) (n : Nat) (d : Int) :
    ⦃hostHolds⦄ (optInt args n d : VM H σ Int) ⦃hostKept _⦄ := by
  mvcgen [optInt]

@[spec] theorem checkTable_keeps (args : Array Value) (n : Nat) :
    ⦃hostHolds⦄ (checkTable args n : VM H σ Nat) ⦃hostKept _⦄ := by
  mvcgen [checkTable]

@[spec] theorem checkFunction_keeps (args : Array Value) (n : Nat) :
    ⦃hostHolds⦄ (checkFunction args n : VM H σ Nat) ⦃hostKept _⦄ := by
  mvcgen [checkFunction]

@[spec] theorem checkThread_keeps (args : Array Value) (n : Nat) :
    ⦃hostHolds⦄ (checkThread args n : VM H σ Nat) ⦃hostKept _⦄ := by
  mvcgen [checkThread]

@[spec] theorem setFuncEnv_keeps (r e : Nat) : ⦃hostHolds⦄ (setFuncEnv r e : VM H σ Bool) ⦃hostKept _⦄ := by
  mvcgen [setFuncEnv]

@[spec] theorem setThreadEnv_keeps (e : Nat) : ⦃hostHolds⦄ (setThreadEnv e : VM H σ Unit) ⦃hostKept _⦄ := by
  mvcgen [setThreadEnv]
  simp +zetaDelta only
  split <;> assumption

@[spec] theorem rawGet_keeps (r : Nat) (k : Value) : ⦃hostHolds⦄ (rawGet r k : VM H σ Value) ⦃hostKept _⦄ := by
  mvcgen [rawGet]

@[spec] theorem rawSet_keeps (r : Nat) (k v : Value) : ⦃hostHolds⦄ (rawSet r k v : VM H σ Unit) ⦃hostKept _⦄ := by
  mvcgen [rawSet]

theorem mapM_list_keeps {α β : Type} (f : α → VM H σ β) :
    ∀ xs : List α, (∀ x ∈ xs, ⦃hostHolds⦄ f x ⦃hostKept _⦄) → ⦃hostHolds⦄ xs.mapM f ⦃hostKept _⦄
  | [], _ => by mvcgen [List.mapM_nil]
  | x :: xs, hf => by
    have hx := hf x List.mem_cons_self
    have hrest := mapM_list_keeps f xs fun y hy => hf y (List.mem_cons_of_mem x hy)
    mvcgen [List.mapM_cons, hx, hrest]

@[spec] theorem mapM_array_keeps {α β : Type} (f : α → VM H σ β) (xs : Array α)
    (hf : ∀ x ∈ xs, ⦃hostHolds⦄ f x ⦃hostKept _⦄) : ⦃hostHolds⦄ xs.mapM f ⦃hostKept _⦄ := by
  have hlist := mapM_list_keeps f xs.toList fun x hx => hf x (Array.mem_toList_iff.mp hx)
  rw [Array.mapM_eq_mapM_toList]
  mvcgen [hlist]

end World

/-! ## The running frame -/

section Frames

@[spec] theorem push_keeps (v : Value) : ⦃hostHolds⦄ (push v : VM H σ Unit) ⦃hostKept _⦄ := by
  mvcgen [push]

@[spec] theorem pushMany_keeps (vs : Array Value) : ⦃hostHolds⦄ (pushMany vs : VM H σ Unit) ⦃hostKept _⦄ := by
  mvcgen [pushMany]

@[spec] theorem pop1_keeps : ⦃hostHolds⦄ (pop1 : VM H σ Value) ⦃hostKept _⦄ := by
  mvcgen [pop1]

@[spec] theorem popN_keeps (k : Nat) : ⦃hostHolds⦄ (popN k : VM H σ (Array Value)) ⦃hostKept _⦄ := by
  mvcgen [popN]

@[spec] theorem peekAt_keeps (d : Nat) : ⦃hostHolds⦄ (peekAt d : VM H σ Value) ⦃hostKept _⦄ := by
  mvcgen [peekAt]

@[spec] theorem pushResults_keeps (want : Option Nat) (vs : Array Value) :
    ⦃hostHolds⦄ (pushResults want vs : VM H σ Unit) ⦃hostKept _⦄ := by
  mvcgen [pushResults]

@[spec] theorem localValue_keeps (s : Nat) : ⦃hostHolds⦄ (localValue s : VM H σ Value) ⦃hostKept _⦄ := by
  mvcgen [localValue]

@[spec] theorem setCell_keeps (c : Nat) (v : Value) : ⦃hostHolds⦄ (setCell c v : VM H σ Unit) ⦃hostKept _⦄ := by
  mvcgen [setCell]

@[spec] theorem setLocalValue_keeps (s : Nat) (v : Value) :
    ⦃hostHolds⦄ (setLocalValue s v : VM H σ Unit) ⦃hostKept _⦄ := by
  mvcgen [setLocalValue]

@[spec] theorem declareSlot_keeps (s : Nat) (v : Value) :
    ⦃hostHolds⦄ (declareSlot s v : VM H σ Unit) ⦃hostKept _⦄ := by
  mvcgen [declareSlot]

@[spec] theorem jumpTo_keeps (t : Nat) : ⦃hostHolds⦄ (jumpTo t : VM H σ Unit) ⦃hostKept _⦄ := by
  mvcgen [jumpTo]

@[spec] theorem newFrame_keeps (fid : Nat) (proto : Proto) (caps : Array Nat) (args : Array Value)
    (want : Option Nat) (tailcalls base : Nat) :
    ⦃hostHolds⦄ (newFrame fid proto caps args want tailcalls base : VM H σ Frame) ⦃hostKept _⦄ := by
  mvcgen [newFrame] invariants
  · hostKept _

@[spec] theorem checkRoom_keeps (fr : Frame) : ⦃hostHolds⦄ (checkRoom fr : VM H σ Unit) ⦃hostKept _⦄ := by
  mvcgen [checkRoom]

@[spec] theorem finishFrame_keeps (base : Nat) (vs : Array Value) :
    ⦃hostHolds⦄ (finishFrame base vs : VM H σ (Option (Array Value))) ⦃hostKept _⦄ := by
  mvcgen [finishFrame]

@[spec] theorem pushFrame_keeps (fr : Frame) : ⦃hostHolds⦄ (pushFrame fr : VM H σ Unit) ⦃hostKept _⦄ := by
  mvcgen [pushFrame]

@[spec] theorem popFrame_keeps : ⦃hostHolds⦄ (popFrame : VM H σ Unit) ⦃hostKept _⦄ := by
  mvcgen [popFrame]

@[spec] theorem callable_keeps (f : Value) (args : Array Value) :
    ⦃hostHolds⦄ (callable f args : VM H σ (Nat × Array Value)) ⦃hostKept _⦄ := by
  mvcgen [callable]

@[spec] theorem compareError_keeps {α : Type} (a b : Value) :
    ⦃hostHolds⦄ (compareError a b : VM H σ α) ⦃hostKept _⦄ := by
  mvcgen [compareError]

@[spec] theorem packageTables_keeps :
    ⦃hostHolds⦄ (packageTables : VM H σ (Option Nat × Option Nat)) ⦃hostKept _⦄ := by
  mvcgen [packageTables]

@[spec] theorem storeModule_keeps (loaded : Option Nat) (name : Bytes) (v : Value) :
    ⦃hostHolds⦄ (storeModule loaded name v : VM H σ (Array Value)) ⦃hostKept _⦄ := by
  mvcgen [storeModule]

@[spec] theorem replacementText_keeps (src r : Bytes) (m : Pattern.Found) :
    ⦃hostHolds⦄ (replacementText src r m : VM H σ Bytes) ⦃hostKept _⦄ := by
  mvcgen -trivial [replacementText] invariants
  · hostKept _
  all_goals first | assumption | exact fun _ h => h

@[spec] theorem setThreadStatus_keeps (k : Nat) (st : ThreadStatus) :
    ⦃hostHolds⦄ (setThreadStatus k st : VM H σ Unit) ⦃hostKept _⦄ := by
  mvcgen [setThreadStatus]

@[spec] theorem settleResume_keeps (t : Nat) (wrapped : Bool) (savedCur : Frame) (savedCallers : Array Frame)
    (parent : Option Nat) (outer : Option Nat × Option (Array Value) × Option Nat) (outcome : Outcome) :
    ⦃hostHolds⦄ (settleResume t wrapped savedCur savedCallers parent outer outcome : VM H σ (Array Value))
      ⦃hostKept _⦄ := by
  mvcgen [settleResume]

end Frames

/-! ## The library functions that call nothing back -/

section Library

@[spec] theorem captureValues_keeps (src : Bytes) (m : Pattern.Found) (whole : Bool) :
    ⦃hostHolds⦄ (captureValues src m whole : VM H σ (Array Value)) ⦃hostKept _⦄ := by
  mvcgen [captureValues]

@[spec] theorem findMatches_keeps (src pat : Bytes) (init : Nat) (limit : Int) :
    ⦃hostHolds⦄ (findMatches src pat init limit : VM H σ (Array Pattern.Found)) ⦃hostKept _⦄ := by
  mvcgen [findMatches]

@[spec] theorem baseCall_keeps (f : BaseFn) (args : Array Value) :
    ⦃hostHolds⦄ (baseCall f args : VM H σ (Array Value)) ⦃hostKept _⦄ := by
  mvcgen -leave [baseCall]

@[spec] theorem stringCall_keeps (f : StringFn) (args : Array Value) :
    ⦃hostHolds⦄ (stringCall f args : VM H σ (Array Value)) ⦃hostKept _⦄ := by
  mvcgen [stringCall] invariants
  · hostKept _

@[spec] theorem tableCall_keeps (f : TableFn) (args : Array Value) :
    ⦃hostHolds⦄ (tableCall f args : VM H σ (Array Value)) ⦃hostKept _⦄ := by
  mvcgen [tableCall] invariants
  · hostKept _

@[spec] theorem mathCall_keeps (f : MathFn) (args : Array Value) :
    ⦃hostHolds⦄ (mathCall f args : VM H σ (Array Value)) ⦃hostKept _⦄ := by
  -- `max` and `min` share one loop, which the match elaborates twice
  mvcgen [mathCall] invariants
  · hostKept _
  · hostKept _

@[spec] theorem coroutineCall_keeps (f : CoroutineFn) (args : Array Value) :
    ⦃hostHolds⦄ (coroutineCall f args : VM H σ (Array Value)) ⦃hostKept _⦄ := by
  mvcgen [coroutineCall]

@[spec] theorem osCall_keeps (f : OsFn) (args : Array Value) :
    ⦃hostHolds⦄ (osCall f args : VM H σ (Array Value)) ⦃hostKept _⦄ := by
  mvcgen [osCall]

@[spec] theorem ioCall_keeps (f : IoFn) (args : Array Value) :
    ⦃hostHolds⦄ (ioCall f args : VM H σ (Array Value)) ⦃hostKept _⦄ := by
  mvcgen [ioCall]

@[spec] theorem debugCall_keeps (f : DebugFn) (args : Array Value) :
    ⦃hostHolds⦄ (debugCall f args : VM H σ (Array Value)) ⦃hostKept _⦄ := by
  mvcgen -leave [debugCall, Functor.discard, map_const, Function.comp_apply]

@[spec] theorem libraryCall_keeps (b : Builtin) (args : Array Value) :
    ⦃hostHolds⦄ (libraryCall b args : VM H σ (Array Value)) ⦃hostKept _⦄ := by
  mvcgen [libraryCall]

end Library

@[spec] theorem toValue_keeps (d : Data) : ⦃hostHolds⦄ (toValue d : VM H σ Value) ⦃hostKept _⦄ := by
  induction d using toValue.induct with
  | case9 v ih => mvcgen [toValue, ih]
  | case10 items ih =>
    rw [toValue]
    mvcgen [toValue.sequence, ih]
    -- what is left is that each element walked over is one of the items
    exact fun _ _ => ‹_›
  | case13 entries ih =>
    have hd : ∀ e : { x // x ∈ entries }, ⦃hostHolds⦄ (toValue e.1.2 : VM H σ Value) ⦃hostKept _⦄ :=
      fun e => ih e.1.1 e.1.2 e.2
    mvcgen [toValue, toValue.fill, hd]
  | case15 entries ih =>
    have hd : ∀ e : { x // x ∈ entries }, ⦃hostHolds⦄ (toValue e.1.2 : VM H σ Value) ⦃hostKept _⦄ :=
      fun e => ih e.1.1 e.1.2 e.2
    mvcgen [toValue, toValue.fill, hd]
  | _ => mvcgen [toValue, toValue.sequence, toValue.fill]

end MudClient.Lua

/-! ## The sort keeps what its operations keep -/

namespace MudClient.Order

open Std.Do

section

-- every function of the sort is stated with both operations, whichever it uses
set_option linter.unusedSectionVars false

variable {m : Type → Type} {ps : PostShape} [Monad m] [WPMonad m ps] (o : Ops m)
  {P : Assertion ps} {E : ExceptConds ps}
  (hless : ∀ i j, ⦃P⦄ o.less i j ⦃(fun _ => P, E)⦄)
  (hswap : ∀ i j, ⦃P⦄ o.swap i j ⦃(fun _ => P, E)⦄)
include hless hswap

theorem shiftDown_keeps (a : Nat) : ∀ fuel j, ⦃P⦄ shiftDown o a j fuel ⦃(fun _ => P, E)⦄
  | 0, _ => by mvcgen [shiftDown]
  | fuel + 1, j => by
    have ih := shiftDown_keeps a fuel (j - 1)
    mvcgen [shiftDown, hless, hswap, ih]

theorem insertionSort_keeps (a b : Nat) : ⦃P⦄ insertionSort o a b ⦃(fun _ => P, E)⦄ := by
  have hshift := shiftDown_keeps o hless hswap a
  mvcgen [insertionSort, hshift] invariants
  · (fun _ => P, E)

theorem siftDown_keeps (hi first : Nat) : ∀ fuel root, ⦃P⦄ siftDown o hi first root fuel ⦃(fun _ => P, E)⦄
  | 0, _ => by mvcgen [siftDown]
  | fuel + 1, root => by
    have ih := fun child => siftDown_keeps hi first fuel child
    mvcgen [siftDown, hless, hswap, ih]

theorem heapSort_keeps (a b : Nat) : ⦃P⦄ heapSort o a b ⦃(fun _ => P, E)⦄ := by
  have hsift := siftDown_keeps o hless hswap
  mvcgen [heapSort, hswap, hsift] invariants
  · (fun _ => P, E)
  · (fun _ => P, E)

theorem scanUp_keeps (a j : Nat) : ∀ fuel i, ⦃P⦄ scanUp o a j i fuel ⦃(fun _ => P, E)⦄
  | 0, _ => by mvcgen [scanUp]
  | fuel + 1, i => by
    have ih := scanUp_keeps a j fuel (i + 1)
    mvcgen [scanUp, hless, ih]

theorem scanDown_keeps (a i : Nat) : ∀ fuel j, ⦃P⦄ scanDown o a i j fuel ⦃(fun _ => P, E)⦄
  | 0, _ => by mvcgen [scanDown]
  | fuel + 1, j => by
    have ih := scanDown_keeps a i fuel (j - 1)
    mvcgen [scanDown, hless, ih]

theorem exchange_keeps (a : Nat) : ∀ fuel i j, ⦃P⦄ exchange o a i j fuel ⦃(fun _ => P, E)⦄
  | 0, _, _ => by mvcgen [exchange]
  | fuel + 1, i, j => by
    have hup := scanUp_keeps o hless hswap a j
    have hdown := fun i => scanDown_keeps o hless hswap a i
    have ih := fun i j => exchange_keeps a fuel i j
    mvcgen [exchange, hswap, hup, hdown, ih]

theorem partition_keeps (a b pivot : Nat) : ⦃P⦄ partition o a b pivot ⦃(fun _ => P, E)⦄ := by
  have hup := scanUp_keeps o hless hswap a (b - 1)
  have hdown := fun i => scanDown_keeps o hless hswap a i
  have hex := exchange_keeps o hless hswap a
  mvcgen [partition, hswap, hup, hdown, hex]

theorem scanEqual_keeps (a j : Nat) : ∀ fuel i, ⦃P⦄ scanEqual o a j i fuel ⦃(fun _ => P, E)⦄
  | 0, _ => by mvcgen [scanEqual]
  | fuel + 1, i => by
    have ih := scanEqual_keeps a j fuel (i + 1)
    mvcgen [scanEqual, hless, ih]

theorem scanGreater_keeps (a i : Nat) : ∀ fuel j, ⦃P⦄ scanGreater o a i j fuel ⦃(fun _ => P, E)⦄
  | 0, _ => by mvcgen [scanGreater]
  | fuel + 1, j => by
    have ih := scanGreater_keeps a i fuel (j - 1)
    mvcgen [scanGreater, hless, ih]

theorem gatherEqual_keeps (a : Nat) : ∀ fuel i j, ⦃P⦄ gatherEqual o a i j fuel ⦃(fun _ => P, E)⦄
  | 0, _, _ => by mvcgen [gatherEqual]
  | fuel + 1, i, j => by
    have heq := scanEqual_keeps o hless hswap a j
    have hgt := fun i => scanGreater_keeps o hless hswap a i
    have ih := fun i j => gatherEqual_keeps a fuel i j
    mvcgen [gatherEqual, hswap, heq, hgt, ih]

theorem partitionEqual_keeps (a b pivot : Nat) : ⦃P⦄ partitionEqual o a b pivot ⦃(fun _ => P, E)⦄ := by
  have hgather := gatherEqual_keeps o hless hswap a
  mvcgen [partitionEqual, hswap, hgather]

theorem sortedUpTo_keeps (b : Nat) : ∀ fuel i, ⦃P⦄ sortedUpTo o b i fuel ⦃(fun _ => P, E)⦄
  | 0, _ => by mvcgen [sortedUpTo]
  | fuel + 1, i => by
    have ih := sortedUpTo_keeps b fuel (i + 1)
    mvcgen [sortedUpTo, hless, ih]

theorem shiftLeft_keeps : ∀ fuel j, ⦃P⦄ shiftLeft o j fuel ⦃(fun _ => P, E)⦄
  | 0, _ => by mvcgen [shiftLeft]
  | fuel + 1, j => by
    have ih := shiftLeft_keeps fuel (j - 1)
    mvcgen [shiftLeft, hless, hswap, ih]

theorem shiftRight_keeps (b : Nat) : ∀ fuel j, ⦃P⦄ shiftRight o b j fuel ⦃(fun _ => P, E)⦄
  | 0, _ => by mvcgen [shiftRight]
  | fuel + 1, j => by
    have ih := shiftRight_keeps b fuel (j + 1)
    mvcgen [shiftRight, hless, hswap, ih]

theorem partialInsertionSort_keeps (a b : Nat) : ⦃P⦄ partialInsertionSort o a b ⦃(fun _ => P, E)⦄ := by
  have hsorted := sortedUpTo_keeps o hless hswap b
  have hleft := shiftLeft_keeps o hless hswap
  have hright := shiftRight_keeps o hless hswap b
  mvcgen [partialInsertionSort, hswap, hsorted, hleft, hright] invariants
  · (fun _ => P, E)

theorem breakPatterns_keeps (a b : Nat) : ⦃P⦄ breakPatterns o a b ⦃(fun _ => P, E)⦄ := by
  mvcgen [breakPatterns, hswap] invariants
  · (fun _ => P, E)

theorem median_keeps (x y z swaps : Nat) : ⦃P⦄ median o x y z swaps ⦃(fun _ => P, E)⦄ := by
  mvcgen [median, order2, hless]

theorem choosePivot_keeps (a b : Nat) : ⦃P⦄ choosePivot o a b ⦃(fun _ => P, E)⦄ := by
  have hmedian := median_keeps o hless hswap
  mvcgen [choosePivot, hmedian]

theorem reverseRange_keeps (a b : Nat) : ⦃P⦄ reverseRange o a b ⦃(fun _ => P, E)⦄ := by
  mvcgen [reverseRange, hswap] invariants
  · (fun _ => P, E)

theorem pdqsort_keeps : ∀ fuel a b limit balanced partitioned,
    ⦃P⦄ pdqsort o fuel a b limit balanced partitioned ⦃(fun _ => P, E)⦄
  | 0, _, _, _, _, _ => by mvcgen [pdqsort]
  | fuel + 1, a, b, limit, balanced, partitioned => by
    have hins := insertionSort_keeps o hless hswap a b
    have hheap := heapSort_keeps o hless hswap a b
    have hbreak := breakPatterns_keeps o hless hswap a b
    have hpivot := choosePivot_keeps o hless hswap a b
    have hrev := reverseRange_keeps o hless hswap a b
    have hpartial := partialInsertionSort_keeps o hless hswap a b
    have heq := partitionEqual_keeps o hless hswap a b
    have hpart := partition_keeps o hless hswap a b
    have ih := pdqsort_keeps fuel
    mvcgen [pdqsort, hless, hins, hheap, hbreak, hpivot, hrev, hpartial, heq, hpart, ih]

/-- The sort acts on the sequence only through its operations: whatever
they keep, it keeps. -/
theorem sort_keeps (n : Nat) : ⦃P⦄ sort o n ⦃(fun _ => P, E)⦄ := by
  have hpdq := pdqsort_keeps o hless hswap
  mvcgen [sort, hpdq]

end

end MudClient.Order

/-! ## The machine keeps what the host functions keep -/

namespace MudClient.Lua

open Std.Do

variable {H σ : Type} [HostInvariant σ]

/-- The host functions keep the invariant whenever the way of calling Lua
they are given keeps it. -/
def HostCall.Keeps (hostCall : HostCall H σ) : Prop :=
  ∀ h (call : Value → Array Value → VM H σ (Array Value)) args,
    (∀ f as, ⦃hostHolds⦄ call f as ⦃hostKept _⦄) → ⦃hostHolds⦄ hostCall h call args ⦃hostKept _⦄

/-- Every function of the machine, at one fuel, keeps the invariant. -/
structure MachineKeeps (hostCall : HostCall H σ) (n : Nat) : Prop where
  run : ∀ base, ⦃hostHolds⦄ run hostCall n base ⦃hostKept _⦄
  step : ∀ base, ⦃hostHolds⦄ step hostCall n base ⦃hostKept _⦄
  invokeNative : ∀ fid fn args base, ⦃hostHolds⦄ invokeNative hostCall n fid fn args base ⦃hostKept _⦄
  callValue : ∀ f args, ⦃hostHolds⦄ callValue hostCall n f args ⦃hostKept _⦄
  callMeta : ∀ f args, ⦃hostHolds⦄ callMeta hostCall n f args ⦃hostKept _⦄
  getIndex : ∀ hops obj key, ⦃hostHolds⦄ getIndex hostCall n hops obj key ⦃hostKept _⦄
  setIndexV : ∀ hops obj key v, ⦃hostHolds⦄ setIndexV hostCall n hops obj key v ⦃hostKept _⦄
  arith : ∀ op a b, ⦃hostHolds⦄ arith hostCall n op a b ⦃hostKept _⦄
  concat : ∀ a b, ⦃hostHolds⦄ concat hostCall n a b ⦃hostKept _⦄
  rational : ∀ a b e, ⦃hostHolds⦄ rational hostCall n a b e ⦃hostKept _⦄
  equals : ∀ a b, ⦃hostHolds⦄ equals hostCall n a b ⦃hostKept _⦄
  lessThan : ∀ a b, ⦃hostHolds⦄ lessThan hostCall n a b ⦃hostKept _⦄
  lessEqual : ∀ a b, ⦃hostHolds⦄ lessEqual hostCall n a b ⦃hostKept _⦄
  negate : ∀ v, ⦃hostHolds⦄ negate hostCall n v ⦃hostKept _⦄
  lengthOf : ∀ v, ⦃hostHolds⦄ lengthOf hostCall n v ⦃hostKept _⦄
  toStringMeta : ∀ v, ⦃hostHolds⦄ toStringMeta hostCall n v ⦃hostKept _⦄
  builtinCall : ∀ b args, ⦃hostHolds⦄ builtinCall hostCall n b args ⦃hostKept _⦄
  resume : ∀ t args wrapped, ⦃hostHolds⦄ resume hostCall n t args wrapped ⦃hostKept _⦄
  require : ∀ args, ⦃hostHolds⦄ require hostCall n args ⦃hostKept _⦄

/-- The sort of the table library, run from the view it starts with, keeps
the invariant when its comparison and swap do. -/
@[spec] theorem sortRun_keeps (o : Order.Ops (StateT SortView (VM H σ))) (n : Nat) (v : SortView)
    (hless : ∀ i j, ⦃fun _ => hostHolds⦄ o.less i j
      ⦃(fun _ _ => hostHolds, (fun _ w => ⌜HostInvariant.holds w.host⌝, ()))⦄)
    (hswap : ∀ i j, ⦃fun _ => hostHolds⦄ o.swap i j
      ⦃(fun _ _ => hostHolds, (fun _ w => ⌜HostInvariant.holds w.host⌝, ()))⦄) :
    ⦃hostHolds⦄ (Order.sort o n v : VM H σ (Unit × SortView)) ⦃hostKept _⦄ :=
  Order.sort_keeps o hless hswap n v

theorem machineKeeps_zero (hostCall : HostCall H σ) : MachineKeeps hostCall 0 where
  run _ := by mvcgen [run]
  step _ := by mvcgen [step]
  invokeNative _ _ _ _ := by mvcgen [invokeNative]
  callValue _ _ := by mvcgen [callValue]
  callMeta _ _ := by mvcgen [callMeta]
  getIndex _ _ _ := by mvcgen [getIndex]
  setIndexV _ _ _ _ := by mvcgen [setIndexV]
  arith _ _ _ := by mvcgen [arith]
  concat _ _ := by mvcgen [concat]
  rational _ _ _ := by mvcgen [rational]
  equals _ _ := by mvcgen [equals]
  lessThan _ _ := by mvcgen [lessThan]
  lessEqual _ _ := by mvcgen [lessEqual]
  negate _ := by mvcgen [negate]
  lengthOf _ := by mvcgen [lengthOf]
  toStringMeta _ := by mvcgen [toStringMeta]
  builtinCall _ _ := by mvcgen [builtinCall]
  resume _ _ _ := by mvcgen [resume]
  require _ := by mvcgen [require]

section Succ

/-! One more fuel: each function runs its body, whose calls of the machine
have the fuel below, and whose host calls are given a call of Lua that
keeps the invariant. -/

variable {hostCall : HostCall H σ} {n : Nat}

theorem run_succ_keeps (ih : MachineKeeps hostCall n) (base : Nat) :
    ⦃hostHolds⦄ run hostCall (n + 1) base ⦃hostKept _⦄ := by
  have hstep := ih.step
  have hrun := ih.run
  mvcgen [run, hstep, hrun]

theorem step_succ_keeps (ih : MachineKeeps hostCall n) (base : Nat) :
    ⦃hostHolds⦄ step hostCall (n + 1) base ⦃hostKept _⦄ := by
  have hnative := ih.invokeNative
  have hget := ih.getIndex
  have hset := ih.setIndexV
  have harith := ih.arith
  have hconcat := ih.concat
  have hequals := ih.equals
  have hlt := ih.lessThan
  have hle := ih.lessEqual
  have hneg := ih.negate
  have hlen := ih.lengthOf
  rw [step.eq_def]
  mvcgen [hnative, hget, hset, harith, hconcat, hequals, hlt, hle, hneg, hlen, Functor.discard,
    map_const, Function.comp_apply] invariants
  · hostKept _
  · hostKept _
  -- the budget is spent in a match the generator keeps whole: the host is
  -- the same in each of its cases
  all_goals (simp +zetaDelta only at *; split at * <;> assumption)

theorem invokeNative_succ_keeps (hk : HostCall.Keeps hostCall) (ih : MachineKeeps hostCall n)
    (fid : Nat) (fn : Func H) (args : Array Value) (base : Nat) :
    ⦃hostHolds⦄ invokeNative hostCall (n + 1) fid fn args base ⦃hostKept _⦄ := by
  have hbuiltin := ih.builtinCall
  have hhost := fun h args => hk h (callValue hostCall n) args ih.callValue
  mvcgen [invokeNative, hbuiltin, hhost]

theorem callValue_succ_keeps (ih : MachineKeeps hostCall n) (f : Value) (args : Array Value) :
    ⦃hostHolds⦄ callValue hostCall (n + 1) f args ⦃hostKept _⦄ := by
  have hrun := ih.run
  have hnative := ih.invokeNative
  mvcgen [callValue, hrun, hnative]

theorem meta_succ_keeps (ih : MachineKeeps hostCall n) :
    (∀ f args, ⦃hostHolds⦄ callMeta hostCall (n + 1) f args ⦃hostKept _⦄) ∧
    (∀ op a b, ⦃hostHolds⦄ arith hostCall (n + 1) op a b ⦃hostKept _⦄) ∧
    (∀ a b, ⦃hostHolds⦄ concat hostCall (n + 1) a b ⦃hostKept _⦄) ∧
    (∀ a b e, ⦃hostHolds⦄ rational hostCall (n + 1) a b e ⦃hostKept _⦄) ∧
    (∀ v, ⦃hostHolds⦄ negate hostCall (n + 1) v ⦃hostKept _⦄) ∧
    (∀ v, ⦃hostHolds⦄ lengthOf hostCall (n + 1) v ⦃hostKept _⦄) ∧
    (∀ v, ⦃hostHolds⦄ toStringMeta hostCall (n + 1) v ⦃hostKept _⦄) := by
  have hcall := ih.callValue
  have hmeta := ih.callMeta
  refine ⟨fun f args => ?_, fun op a b => ?_, fun a b => ?_, fun a b e => ?_, fun v => ?_, fun v => ?_,
    fun v => ?_⟩
  · mvcgen [callMeta, hcall]
  · mvcgen [arith.eq_def, hmeta]
  · mvcgen [concat.eq_def, hmeta]
  · mvcgen [rational.eq_def, hmeta]
  · mvcgen [negate.eq_def, hmeta]
  · mvcgen [lengthOf.eq_def, hmeta]
  · mvcgen [toStringMeta.eq_def, hmeta]

theorem compare_succ_keeps (ih : MachineKeeps hostCall n) :
    (∀ a b, ⦃hostHolds⦄ equals hostCall (n + 1) a b ⦃hostKept _⦄) ∧
    (∀ a b, ⦃hostHolds⦄ lessThan hostCall (n + 1) a b ⦃hostKept _⦄) ∧
    (∀ a b, ⦃hostHolds⦄ lessEqual hostCall (n + 1) a b ⦃hostKept _⦄) := by
  have hrational := ih.rational
  refine ⟨fun a b => ?_, fun a b => ?_, fun a b => ?_⟩
  · mvcgen [equals.eq_def, hrational]
  · mvcgen [lessThan.eq_def, hrational]
  · mvcgen [lessEqual.eq_def, hrational]

/-- The walks of `__index` and `__newindex`, which call themselves: each is
unfolded once. -/
theorem index_succ_keeps (ih : MachineKeeps hostCall n) :
    (∀ hops obj key, ⦃hostHolds⦄ getIndex hostCall (n + 1) hops obj key ⦃hostKept _⦄) ∧
    (∀ hops obj key v, ⦃hostHolds⦄ setIndexV hostCall (n + 1) hops obj key v ⦃hostKept _⦄) := by
  have hcall := ih.callValue
  have hmeta := ih.callMeta
  have hget := ih.getIndex
  have hset := ih.setIndexV
  refine ⟨fun hops obj key => ?_, fun hops obj key v => ?_⟩
  · rw [getIndex.eq_def]
    mvcgen [hmeta, hget]
  · rw [setIndexV.eq_def]
    mvcgen [hcall, hset, Functor.discard, map_const, Function.comp_apply]

theorem builtinCall_succ_keeps (ih : MachineKeeps hostCall n) (b : Builtin) (args : Array Value) :
    ⦃hostHolds⦄ builtinCall hostCall (n + 1) b args ⦃hostKept _⦄ := by
  have hcall := ih.callValue
  have hmeta := ih.callMeta
  have hget := ih.getIndex
  have hlt := ih.lessThan
  have hstr := ih.toStringMeta
  have hresume := ih.resume
  have hrequire := ih.require
  rw [builtinCall.eq_def]
  mvcgen -leave [hcall, hmeta, hget, hlt, hstr, hresume, hrequire, Functor.discard, map_const,
    Function.comp_apply] invariants
  · hostKept _
  · hostKept _
  · hostKept _
  · hostKept _
  · hostKept _
  · hostKept _

theorem resume_succ_keeps (hk : HostCall.Keeps hostCall) (ih : MachineKeeps hostCall n)
    (t : Nat) (args : Array Value) (wrapped : Bool) :
    ⦃hostHolds⦄ resume hostCall (n + 1) t args wrapped ⦃hostKept _⦄ := by
  have hrun := ih.run
  have hbuiltin := ih.builtinCall
  have hhost := fun h args => hk h (callValue hostCall n) args ih.callValue
  rw [resume.eq_def]
  mvcgen -leave [hrun, hbuiltin, hhost]

theorem require_succ_keeps (ih : MachineKeeps hostCall n) (args : Array Value) :
    ⦃hostHolds⦄ require hostCall (n + 1) args ⦃hostKept _⦄ := by
  have hmeta := ih.callMeta
  mvcgen -trivial [require.eq_def, hmeta]
  all_goals assumption

theorem machineKeeps_succ (hk : HostCall.Keeps hostCall) (ih : MachineKeeps hostCall n) :
    MachineKeeps hostCall (n + 1) :=
  have hmeta := meta_succ_keeps ih
  have hcompare := compare_succ_keeps ih
  have hindex := index_succ_keeps ih
  { run := run_succ_keeps ih
    step := step_succ_keeps ih
    invokeNative := invokeNative_succ_keeps hk ih
    callValue := callValue_succ_keeps ih
    callMeta := hmeta.1
    getIndex := hindex.1
    setIndexV := hindex.2
    arith := hmeta.2.1
    concat := hmeta.2.2.1
    rational := hmeta.2.2.2.1
    equals := hcompare.1
    lessThan := hcompare.2.1
    lessEqual := hcompare.2.2
    negate := hmeta.2.2.2.2.1
    lengthOf := hmeta.2.2.2.2.2.1
    toStringMeta := hmeta.2.2.2.2.2.2
    builtinCall := builtinCall_succ_keeps ih
    resume := resume_succ_keeps hk ih
    require := require_succ_keeps ih }

end Succ

/-- The machine keeps every invariant its host functions keep, at every
fuel. -/
theorem machine_keeps {hostCall : HostCall H σ} (hk : HostCall.Keeps hostCall) :
    ∀ n, MachineKeeps hostCall n
  | 0 => machineKeeps_zero hostCall
  | n + 1 => machineKeeps_succ hk (machine_keeps hk n)

/-- A call the host makes keeps what the machine keeps; the frames of the
call are put back whether it returns or raises. -/
theorem callTop_keeps {hostCall : HostCall H σ} (hk : HostCall.Keeps hostCall) (n : Nat)
    (f : Value) (args : Array Value) : ⦃hostHolds⦄ callTop hostCall n f args ⦃hostKept _⦄ := by
  have hm := machine_keeps hk n
  have hrun := hm.run
  have hbuiltin := hm.builtinCall
  have hhost := fun h args => hk h (callValue hostCall n) args hm.callValue
  mvcgen [callTop, hrun, hbuiltin, hhost]

/-! ## Runs of a script -/

def endWorld {α : Type} : EStateM.Result Signal (World H σ) α → World H σ
  | .ok _ w => w
  | .error _ w => w

/-- A computation that keeps the invariant ends every run started where it
holds in a world where it holds. -/
theorem run_keeps {α : Type} {x : VM H σ α} (hx : ⦃hostHolds⦄ x ⦃hostKept _⦄) {w : World H σ}
    {r : EStateM.Result Signal (World H σ) α} (hr : x.run w = r) (hw : HostInvariant.holds w.host) :
    HostInvariant.holds (endWorld r).host :=
  EStateM.of_wp_run_eq hr (fun r => HostInvariant.holds (endWorld r).host) fun _ => hx w hw

namespace Script

theorem update_keeps {α : Type} (s : Script H σ) {m : VM H σ α} (hm : ⦃hostHolds⦄ m ⦃hostKept _⦄)
    (hs : HostInvariant.holds s.world.host) : HostInvariant.holds (s.update m).world.host := by
  unfold update
  split
  next heq => exact run_keeps hm heq hs
  next heq => exact run_keeps hm heq hs

theorem exec_keeps {α : Type} (s : Script H σ) {m : Nat → VM H σ α}
    (hm : ∀ n, ⦃hostHolds⦄ m n ⦃hostKept _⦄) (hs : HostInvariant.holds s.world.host) :
    HostInvariant.holds (s.exec m).2.world.host := by
  unfold exec
  split
  · exact hs
  · -- the run starts from the script's world with a fresh deadline and no
    -- frames, so from the same host
    dsimp only
    split
    next heq => exact run_keeps (hm _) heq hs
    next heq => exact run_keeps (hm _) heq hs

section Calls

variable {hostCall : HostCall H σ} (hk : HostCall.Keeps hostCall)
include hk

/-- The chunk a run of code or of a file makes is called as a function of
the running thread's environment. -/
theorem chunk_keeps (proto : Proto) (n : Nat) :
    ⦃hostHolds⦄ (do
        let fid ← allocFunc (.lua proto #[] (← threadEnv))
        discard (callTop hostCall n (.func fid) #[]) : VM H σ Unit) ⦃hostKept _⦄ := by
  have hcall := callTop_keeps hk n
  mvcgen [hcall, Functor.discard, map_const, Function.comp_apply]

variable {s : Script H σ} (hs : HostInvariant.holds s.world.host)
include hs

theorem invoke_keeps (f : Value) {args : VM H σ (Array Value)} (hargs : ⦃hostHolds⦄ args ⦃hostKept _⦄) :
    HostInvariant.holds (s.invoke hostCall f args).2.world.host :=
  s.exec_keeps (fun n => by
    have hcall := callTop_keeps hk n
    mvcgen [hargs, hcall]) hs

theorem doString_keeps (code : Bytes) : HostInvariant.holds (s.doString hostCall code).2.world.host := by
  unfold doString
  split
  · exact hs
  · split
    · exact hs
    · exact s.exec_keeps (chunk_keeps hk _) hs

theorem doFile_keeps (path : String) : HostInvariant.holds (s.doFile hostCall path).2.world.host := by
  unfold doFile
  split
  · exact hs
  · dsimp only
    split
    · exact hs
    · split
      · exact hs
      · exact s.exec_keeps (chunk_keeps hk _) hs

end Calls

end Script

end MudClient.Lua
