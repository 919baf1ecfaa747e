/-
# The order of the modules

The manager keeps its modules in the order they were registered, and that
order is what loading every module, reloading every module and setting up a
session walk.  Whatever the modules' code does:

* `Op.Orders`: registering a module (alone or with its load) puts its id
  last, when the id is new, or changes nothing; unloading a module takes out
  exactly its id; every other operation, reloading one module or all of them
  included, leaves the order as it was (`World.perform_orders`);
* so no id is ever listed twice (`World.nodup_runAll`).

A module's code changes records only through the hooks it adds, which keep
every record's id (`World.exec_ids`); everything else is one triple per
operation.
-/
import Mathlib
import MudClient.Proofs.Plugin.Isolation

set_option mvcgen.warning false

namespace MudClient.Plugin

open MudClient.Session Std.Do

/-- What an operation may do to the order of the modules, from `ids` to
`ids'`: registering adds the new id last or does nothing, unloading takes one
id out, and nothing else changes the order. -/
def Op.Orders : Op → List String → List String → Prop
  | .register id _, ids, ids' | .add id _, ids, ids' => ids' = ids ∨ id ∉ ids ∧ ids' = ids ++ [id]
  | .unload id, ids, ids' => ids' = ids.filter (· != id)
  | _, ids, ids' => ids' = ids

theorem Op.Orders.nodup {op : Op} {ids ids' : List String} (h : op.Orders ids ids') (hn : ids.Nodup) : ids'.Nodup := by
  cases op with
  | register id _ | add id _ =>
    rcases h with rfl | ⟨hid, rfl⟩
    · exact hn
    · exact hn.append (List.nodup_singleton id) (by simpa using hid)
  | unload id =>
    rw [h]
    exact hn.filter _
  | _ => exact h ▸ hn

namespace Manager

variable {μ σ ρ : Type} (mg : Manager μ σ ρ) (id : String)

@[simp] theorem ids_mk (reloads loadFailures setupErrors retracted : Nat) :
    ({ records := mg.records, reloads, loadFailures, setupErrors, retracted } : Manager μ σ ρ).ids = mg.ids := rfl

@[simp] theorem ids_advance : (mg.advance id).ids = mg.ids :=
  ids_update (f := fun r => { r with generation := r.generation + 1, setup := [], beforeReload := [] })
    (fun _ => rfl) id

@[simp] theorem ids_addSetup (env : Env) (hook : σ) : (mg.addSetup env hook).ids = mg.ids :=
  ids_update (f := fun r => if r.generation == env.generation then { r with setup := r.setup ++ [hook] } else r)
    (fun r => by split <;> rfl) env.module

@[simp] theorem ids_addBeforeReload (env : Env) (hook : ρ) : (mg.addBeforeReload env hook).ids = mg.ids :=
  ids_update
    (f := fun r => if r.generation == env.generation then { r with beforeReload := r.beforeReload ++ [hook] } else r)
    (fun r => by split <;> rfl) env.module

end Manager

@[simp] theorem World.manager_mark (w : World) (id : String) : (w.mark id).manager = w.manager := rfl

@[simp] theorem World.manager_retract (w : World) (owner : String) : (w.retract owner).manager = w.manager := rfl

@[simp] theorem World.exec_ids (code : Code) (env : Env) (p : Plan) (w : World) :
    (w.exec code env p).2.manager.ids = w.manager.ids := by
  obtain ⟨acts, failure⟩ := p
  unfold World.exec
  dsimp only
  induction acts generalizing w with
  | nil => rfl
  | cons x xs ih =>
    rw [List.foldl_cons, ih]
    cases x <;> simp [World.act]

/-! ## Each operation -/

section Operations

variable (id : String) (I : List String)

theorem loadModule_ids :
    ⦃fun w => ⌜w.manager.ids = I⌝⦄ loadModule World.runner id ⦃⇓ _ w => ⌜w.manager.ids = I⌝⦄ := by
  mvcgen [loadModule, takeBack, Runner.modify]
  all_goals simp_all [Manager.ids_update]

theorem load_ids : ⦃fun w => ⌜w.manager.ids = I⌝⦄ load World.runner id ⦃⇓ _ w => ⌜w.manager.ids = I⌝⦄ := by
  mvcgen [load, loadModule_ids]

theorem loadAll_ids : ⦃fun w => ⌜w.manager.ids = I⌝⦄ loadAll World.runner ⦃⇓ _ w => ⌜w.manager.ids = I⌝⦄ := by
  have hkeep := @filterMapM_keeps World String Failure (·.manager.ids = I)
  mvcgen [loadAll, hkeep, loadModule_ids]

theorem prepareReload_ids :
    ⦃fun w => ⌜w.manager.ids = I⌝⦄ prepareReload World.runner id
    ⦃⇓ res w => ⌜w.manager.ids = I ∧ (res ≠ none → id ∉ I)⌝⦄ := by
  mvcgen [prepareReload, takeBack, Runner.modify] invariants
  · ⇓ _ w => ⌜w.manager.ids = I⌝
  next w h hnone => exact ⟨h, fun _ => h ▸ Manager.not_mem_ids_of_record? hnone⟩
  all_goals simp_all [Manager.ids_update]

theorem resumeSessions_ids :
    ⦃fun w => ⌜w.manager.ids = I⌝⦄ resumeSessions World.runner id ⦃⇓ _ w => ⌜w.manager.ids = I⌝⦄ := by
  mvcgen [resumeSessions] invariants
  · ⇓ _ w => ⌜w.manager.ids = I⌝

theorem completeReload_ids :
    ⦃fun w => ⌜w.manager.ids = I⌝⦄ completeReload World.runner id ⦃⇓ _ w => ⌜w.manager.ids = I⌝⦄ := by
  mvcgen [completeReload, Runner.modify, loadModule_ids, resumeSessions_ids]
  all_goals simp_all [Manager.ids_update]

theorem reload_ids : ⦃fun w => ⌜w.manager.ids = I⌝⦄ reload World.runner id ⦃⇓ _ w => ⌜w.manager.ids = I⌝⦄ := by
  mvcgen [reload, prepareReload_ids, completeReload_ids]
  all_goals simp_all

theorem reloadAll_ids : ⦃fun w => ⌜w.manager.ids = I⌝⦄ reloadAll World.runner ⦃⇓ _ w => ⌜w.manager.ids = I⌝⦄ := by
  have hkeep := @mapM_keeps World String (String × Option Failure) (·.manager.ids = I)
  mvcgen [reloadAll, hkeep, reload_ids]
  all_goals simp_all

theorem unload_ids :
    ⦃fun w => ⌜w.manager.ids = I⌝⦄ unload World.runner id ⦃⇓ _ w => ⌜w.manager.ids = I.filter (· != id)⌝⦄ := by
  mvcgen [unload, Runner.modify, prepareReload_ids]
  next w h res f hf w' h' =>
    -- a module that is not registered leaves nothing to take out
    have hid : id ∉ I := h ▸ h'.2 (by simp)
    rw [h'.1, h, List.filter_eq_self.2 fun x hx => by simpa using ne_of_mem_of_not_mem hx hid]
  next w h res hn w' h' =>
    rw [← h, ← h'.1, Manager.ids, Manager.ids, List.filter_map]
    rfl

theorem setupSession_ids (info : Info) :
    ⦃fun w => ⌜w.manager.ids = I⌝⦄ setupSession World.runner info id ⦃⇓ _ w => ⌜w.manager.ids = I⌝⦄ := by
  have houter := @flatMapM_keeps World (Record Code Hook Hook) Failure (·.manager.ids = I)
  have hinner := @filterMapM_keeps World Hook Failure (·.manager.ids = I)
  mvcgen [setupSession, Runner.modify, houter, hinner]
  all_goals simp_all

theorem register_ids (code : Code) :
    ⦃fun w => ⌜w.manager.ids = I⌝⦄ (Op.register id code).run
    ⦃⇓ _ w => ⌜w.manager.ids = I ∨ id ∉ I ∧ w.manager.ids = I ++ [id]⌝⦄ := by
  mvcgen [Op.run]
  next w h mg hmg =>
    obtain ⟨hnone, rfl⟩ := Manager.register_eq_ok hmg
    refine .inr ⟨h ▸ Manager.not_mem_ids_of_record? hnone, ?_⟩
    simp [← h, Manager.ids]
  next w h f hf => exact .inl h

theorem add_ids (code : Code) :
    ⦃fun w => ⌜w.manager.ids = I⌝⦄ add World.runner id code
    ⦃⇓ _ w => ⌜w.manager.ids = I ∨ id ∉ I ∧ w.manager.ids = I ++ [id]⌝⦄ := by
  mvcgen [add, load_ids]
  next w h f hf => exact .inl h
  next w h mg hmg res w' =>
    intro h'
    obtain ⟨hnone, rfl⟩ := Manager.register_eq_ok hmg
    refine .inr ⟨h ▸ Manager.not_mem_ids_of_record? hnone, ?_⟩
    rw [h', ← h]
    simp [Manager.ids]

end Operations

namespace World

theorem perform_orders (w : World) : ∀ op : Op, op.Orders w.manager.ids (w.perform op).manager.ids
  | .register id code => run_of_triple (register_ids id _ code) rfl
  | .add id code => run_of_triple (add_ids id _ code) rfl
  | .load id => run_of_triple (load_ids id _) rfl
  | .loadAll => run_of_triple (loadAll_ids _) rfl
  | .prepareReload id => (run_of_triple (prepareReload_ids id _) rfl).1
  | .completeReload id => run_of_triple (completeReload_ids id _) rfl
  | .reload id => run_of_triple (reload_ids id _) rfl
  | .reloadAll => run_of_triple (reloadAll_ids _) rfl
  | .unload id => run_of_triple (unload_ids id _) rfl
  | .setupSession info only => run_of_triple (setupSession_ids only _ info) rfl

/-- No run of operations from a fresh world lists a module twice.  By
induction on the run, one operation at a time. -/
theorem nodup_runAll (sessions : List Info) (ops : List Op) : (({ sessions } : World).runAll ops).manager.ids.Nodup := by
  suffices ∀ w : World, w.manager.ids.Nodup → (w.runAll ops).manager.ids.Nodup from this _ List.nodup_nil
  induction ops with
  | nil => exact fun _ h => h
  | cons op ops ih => exact fun w h => ih _ ((w.perform_orders op).nodup h)

end World

end MudClient.Plugin
