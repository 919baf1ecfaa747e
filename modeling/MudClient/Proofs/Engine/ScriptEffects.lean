/-
# What a script can do to the engine

A script's code runs on a Lua machine that never looks into the engine: the
functions of the `mud` table are its only way in.  `MudClient.Lua.machine_keeps`
says so for any host: the machine keeps every invariant of the host that the
host functions keep.  This module says what the host functions of the engine,
the entries of the `mud` table, do to the binding of the running script, and
carries the machine's guarantee up to the engine.

`ApiClosed I` lists the changes, one field per function that writes: a
subscription of the running load with its handle kept, the subscriptions of a
spec owned by the running module, forgetting a handle of the load and removing
its subscription, queueing a custom event, sending a line or showing output
in a session, registering a command owned by the running module, and adding a
setup or before-reload hook to the running load.  Every other function only
reads the binding or allocates in the Lua heap.

## Main statements

* `api_keeps`: the `mud` table keeps every invariant of the binding closed
  under those changes.
* `withState_run`: what running work on a module's Lua state does to the
  engine: the core goes into the state and back, and nothing else changes but
  the slot.
* `callLua_keeps`, `loadScript_keeps`: a call of a script's function and the
  load of a script keep every property of the core that the changes of the
  `mud` table keep.
-/
import Mathlib
import MudClient.Proofs.Lua.Frame
import MudClient.Engine.Loop

open Std.Do

set_option mvcgen.warning false

namespace MudClient.Engine

open MudClient.Lua

/-! ## The changes the `mud` table makes -/

/-- An invariant of the binding that every change the functions of the `mud`
table make keeps.  `b` is the binding of the running script when the function
is called. -/
structure ApiClosed (I : Binding → Prop) : Prop where
  /-- `on`: one subscription owned by the running module, its handle kept. -/
  subscribe : ∀ (b : Binding) kind filter fn h bus,
    b.core.bus.subscribe kind b.module filter (some ⟨[], .lua ⟨b.module, b.load, fn⟩⟩) = .ok (h, bus) → I b →
    I { b with core := { b.core with bus }, handles := b.handles ++ [(Event.subscriptionText h.serial, h)] }
  /-- The specs behind `on_connected` and the others: the bus after the
  subscriptions of a spec owned by the running module, or after their removal
  when one is refused; the handles are kept when all are made. -/
  register : ∀ (b : Binding) (spec : Event.Spec) fn, spec.owner = b.module → I b →
    let r := spec.register b.core.bus (some (.lua ⟨b.module, b.load, fn⟩))
    I { b with core := { b.core with bus := r.2 } } ∧
      ∀ hs, r.1 = .ok hs →
        I { b with core := { b.core with bus := r.2 },
                   handles := b.handles ++ hs.map fun h => (Event.subscriptionText h.serial, h) }
  /-- `off`: forgets a handle of the load, then removes its subscription. -/
  off : ∀ (b : Binding) id h, b.handles.lookup id = some h → I b →
    I { b with handles := b.handles.filter (·.1 != id) } ∧
      ∀ bus, b.core.bus.unsubscribe (some h) = .ok bus →
        I { b with core := { b.core with bus }, handles := b.handles.filter (·.1 != id) }
  /-- `emit`: queues a custom event. -/
  emit : ∀ (b : Binding) ty data session, I b →
    I { b with core := b.core.emit { kind := Event.Kind.custom, session, payload := some (.custom ty data) } }
  /-- `send`: sends a line and queues its announcement as a scripted line. -/
  send : ∀ (b : Binding) id text c, b.core.sendLine id text = .ok c → I b → I { b with core := c }
  /-- `output`: shows text in a session. -/
  output : ∀ (b : Binding) id text c, b.core.addOutput id ⟨.text, text⟩ = .ok c → I b → I { b with core := c }
  /-- `command`: registers a command owned by the running module. -/
  command : ∀ (b : Binding) id name aliases description fn commands,
    b.core.commands.register id
      { name, aliases, description, owner := b.env.module, handler := some (.lua ⟨b.module, b.load, fn⟩) } =
        .ok commands → I b → I { b with core := { b.core with commands } }
  /-- `on_setup`: a setup hook of the running load. -/
  setup : ∀ (b : Binding) fn, I b →
    I { b with core := b.core.withManager (·.addSetup b.env (.lua ⟨b.module, b.load, fn⟩)) }
  /-- `before_reload`: a before-reload hook of the running load. -/
  beforeReload : ∀ (b : Binding) fn, I b →
    I { b with core := b.core.withManager (·.addBeforeReload b.env (.lua ⟨b.module, b.load, fn⟩)) }

theorem subscribe_map_ok {η : Type} {b bus : Event.Bus η} {kind : Event.Kind} {owner : String}
    {filter : Event.Filter} {x : Option η} {hs : List Event.Handle}
    (h : Except.map (fun r => ([r.1], r.2)) (b.subscribe kind owner filter x) = .ok (hs, bus)) :
    ∃ hd, b.subscribe kind owner filter x = .ok (hd, bus) ∧ hs = [hd] := by
  cases hsub : b.subscribe kind owner filter x with
  | error f => simp [hsub, Except.map] at h
  | ok r =>
    simp only [hsub, Except.map, Except.ok.injEq, Prod.mk.injEq] at h
    exact ⟨r.1, by rw [← h.2], h.1.symm⟩

theorem map_pair_ok {α β : Type} {x : Except Failure α} {y b : β} {a : α}
    (h : Except.map (fun a => (a, y)) x = .ok (a, b)) : x = .ok a ∧ b = y := by
  cases x with
  | error f => simp [Except.map] at h
  | ok r =>
    simp only [Except.map, Except.ok.injEq, Prod.mk.injEq] at h
    exact ⟨by rw [h.1], h.2.symm⟩

/-! ## The functions of the `mud` table -/

section Api

variable [HostInvariant Binding]

/-! Functions that only read the binding or allocate keep every invariant. -/

@[spec] theorem record_keeps (fields : List (String × Value)) :
    ⦃hostHolds⦄ (record fields : Api Value) ⦃hostKept _⦄ := by
  mvcgen [record]

@[spec] theorem sequence_keeps (vs : List Value) : ⦃hostHolds⦄ (sequence vs : Api Value) ⦃hostKept _⦄ := by
  mvcgen [sequence]

@[spec] theorem infoTable_keeps (info : Session.Info) : ⦃hostHolds⦄ (infoTable info : Api Value) ⦃hostKept _⦄ := by
  mvcgen [infoTable]

@[spec] theorem lineTable_keeps (l : Session.InputLine) : ⦃hostHolds⦄ (lineTable l : Api Value) ⦃hostKept _⦄ := by
  mvcgen [lineTable]

@[spec] theorem payloadFields_keeps (p : Event.Payload) :
    ⦃hostHolds⦄ (payloadFields p : Api (List (String × Value))) ⦃hostKept _⦄ := by
  cases p <;> mvcgen [payloadFields]

@[spec] theorem eventTable_keeps (ev : Event.Message) : ⦃hostHolds⦄ (eventTable ev : Api Value) ⦃hostKept _⦄ := by
  mvcgen [eventTable]

@[spec] theorem checkInt64_keeps (args : Array Value) (n : Nat) :
    ⦃hostHolds⦄ (checkInt64 args n : Api Int) ⦃hostKept _⦄ := by
  mvcgen [checkInt64]

@[spec] theorem checkSession_keeps (args : Array Value) (n : Nat) :
    ⦃hostHolds⦄ (checkSession args n : Api Session.SessionId) ⦃hostKept _⦄ := by
  mvcgen [checkSession]

@[spec] theorem checkText_keeps (args : Array Value) (n : Nat) :
    ⦃hostHolds⦄ (checkText args n : Api String) ⦃hostKept _⦄ := by
  mvcgen [checkText]

@[spec] theorem filterOfTable_keeps (r : Nat) :
    ⦃hostHolds⦄ (filterOfTable r : Api Event.Filter) ⦃hostKept _⦄ := by
  mvcgen [filterOfTable] invariants
  · hostKept _

@[spec] theorem commandOptions_keeps (v : Value) :
    ⦃hostHolds⦄ (commandOptions v : Api (List String × String)) ⦃hostKept _⦄ := by
  mvcgen [commandOptions]

/-! Functions that write: each change is one field of `ApiClosed`. -/

variable (hI : ApiClosed HostInvariant.holds)
include hI

theorem onKind_keeps (args : Array Value) : ⦃hostHolds⦄ (onKind args : Api (Array Value)) ⦃hostKept _⦄ := by
  mvcgen [onKind, track, modifyBinding, binding, luaFn]
  all_goals
    obtain ⟨hd, hsub, rfl⟩ := subscribe_map_ok ‹Except.map _ _ = _›
    exact hI.subscribe _ _ _ _ _ _ hsub ‹_›

theorem subscribeBy_keeps (spec : Event.Spec) (fn : Nat) :
    ⦃fun w => ⌜HostInvariant.holds w.host ∧ spec.owner = w.host.module⌝⦄ (subscribeBy spec fn : Api (Array Value))
      ⦃hostKept _⦄ := by
  mvcgen [subscribeBy, track, modifyBinding, binding, luaFn]
  case vc1 => exact (hI.register _ spec fn ‹_ ∧ _›.2 ‹_ ∧ _›.1).1
  all_goals
    obtain ⟨hmade, rfl⟩ := map_pair_ok ‹Except.map _ _ = .ok _›
    exact (hI.register _ spec fn ‹_ ∧ _›.2 ‹_ ∧ _›.1).2 _ hmade

theorem offId_keeps (args : Array Value) : ⦃hostHolds⦄ (offId args : Api (Array Value)) ⦃hostKept _⦄ := by
  mvcgen [offId, modifyBinding, modifyCoreApi, binding]
  case vc3 => exact (hI.off _ _ _ ‹List.lookup _ _ = _› (by assumption)).2 _ ‹_ = Except.ok _›
  case vc4 => exact (hI.off _ _ _ ‹List.lookup _ _ = _› (by assumption)).1

theorem emitCustom_keeps (args : Array Value) : ⦃hostHolds⦄ (emitCustom args : Api (Array Value)) ⦃hostKept _⦄ := by
  mvcgen [emitCustom, modifyCoreApi, modifyBinding]
  all_goals exact hI.emit _ _ _ _ (by assumption)

attribute [local irreducible] Command.Registry.register in
theorem registerCommand_keeps (args : Array Value) :
    ⦃hostHolds⦄ (registerCommand args : Api (Array Value)) ⦃hostKept _⦄ := by
  mvcgen [registerCommand, modifyCoreApi, modifyBinding, binding, luaFn]
  all_goals exact hI.command _ _ _ _ _ _ _ ‹_ = Except.ok _› (by assumption)

theorem api_keeps : HostCall.Keeps (api : HostCall ApiFn Binding) := by
  intro fn call args _
  have hon := onKind_keeps hI args
  have hoff := offId_keeps hI args
  have hemit := emitCustom_keeps hI args
  have hcommand := registerCommand_keeps hI args
  have hby := subscribeBy_keeps hI
  cases fn
  all_goals mvcgen [api, hon, hoff, hemit, hcommand, hby, orRaise, modifyCoreApi, modifyBinding, binding, luaFn,
    Functor.discard, map_const, Function.comp_apply]
  all_goals first
    | exact hI.send _ _ _ _ ‹_› (by assumption)
    | exact hI.output _ _ _ _ ‹_› (by assumption)
    | exact hI.setup _ _ (by assumption)
    | exact hI.beforeReload _ _ (by assumption)
    | exact ⟨by assumption, by split <;> rfl⟩

end Api

/-! ## Lua states in the engine -/

def LuaState.holding (st : LuaState) (c : Core) : LuaState :=
  { st with world := { st.world with host := { st.world.host with core := c } } }

@[simp] theorem LuaState.holding_core (st : LuaState) (c : Core) : (st.holding c).world.host.core = c := rfl

/-- Work on a module's Lua state: without the state, or with that of another
load, nothing runs; otherwise the work runs with the core in the state, and
the core comes back out when it ends. -/
theorem withState_run {α : Type} (module : String) (load : Nat) (work : LuaState → Except Failure α × LuaState)
    (e : Runtime) :
    (withState module load work).run e =
      match e.slots.lookup module with
      | some slot =>
        if slot.load = load then
          let r := work (slot.state.holding e.core)
          (r.1, { core := r.2.world.host.core,
                  slots := (module, { slot with state := r.2.holding {} }) :: e.slots.filter (·.1 != module) })
        else (.error Lua.Script.closedFailure, { e with slots := (module, slot) :: e.slots.filter (·.1 != module) })
      | none => (.error Lua.Script.closedFailure, e) := by
  cases h : e.slots.lookup module with
  | none => simp [withState, takeSlot, h]; rfl
  | some slot =>
    by_cases hl : slot.load = load
    · simp [withState, takeSlot, putSlot, h, hl, LuaState.holding, List.filter_filter]; rfl
    · simp [withState, takeSlot, putSlot, h, hl, List.filter_filter]; rfl

/-! ## What a script's work leaves in the core -/

section Cores

variable (P : Core → Prop)

/-- Work on a Lua state that keeps `P` of the core the state holds keeps `P`
of the engine's core. -/
theorem withState_keeps {α : Type} (module : String) (load : Nat) (work : LuaState → Except Failure α × LuaState)
    (hwork : ∀ st, P st.world.host.core → P (work st).2.world.host.core) :
    ⦃fun e => ⌜P e.core⌝⦄ withState module load work ⦃⇓ _ e => ⌜P e.core⌝⦄ := by
  intro e he
  show P ((withState module load work).run e).2.core
  rw [withState_run]
  split
  · split
    · exact hwork _ he
    · exact he
  · exact he

variable (hP : ApiClosed fun b => P b.core)
include hP

/-- A call of a script's function, with arguments made by reading and
allocating only, keeps every property of the core that the changes of the
`mud` table keep. -/
theorem callLua_keeps (f : LuaFn) {args : Api (Array Value)}
    (hargs : ∀ [HostInvariant Binding], ⦃hostHolds⦄ args ⦃hostKept _⦄) :
    ⦃fun e => ⌜P e.core⌝⦄ callLua f args ⦃⇓ _ e => ⌜P e.core⌝⦄ :=
  let _ : HostInvariant Binding := ⟨fun b => P b.core⟩
  withState_keeps P _ _ _ fun _ hs => Script.invoke_keeps (api_keeps hP) hs (.func f.fn) hargs

theorem loadScript_keeps (hloads : ∀ c n, P c → P { c with loads := n }) (id : String) (env : Plugin.Env) :
    ⦃fun e => ⌜P e.core⌝⦄ loadScript id env ⦃⇓ _ e => ⌜P e.core⌝⦄ := by
  let _ : HostInvariant Binding := ⟨fun b => P b.core⟩
  have hfile := fun load path => withState_keeps P id load (fun st => st.doFile api path)
    fun _ hs => Script.doFile_keeps (api_keeps hP) hs path
  mvcgen [loadScript, core, modifyCore, putSlot, hfile]
  all_goals exact hloads _ _ ‹_›

end Cores

end MudClient.Engine
