/-
# Managing modules

The manager keeps modules in the order they were registered, each with its
state (unloaded, loaded, or failed with an error), the setup hooks and
before-reload hooks its current load added, and how often it was reloaded.
Modules are loaded, set up and reloaded in registration order.

Loading a module runs its code with a fresh environment: the module's id
and a generation that every load moves on.  Hooks reach the module only
while the environment that added them is current, so a hook added through
the environment of an earlier load is dropped.  A load that fails takes
back everything the module registered, closes it, and leaves it in the
error state; the failure is reported as a load error of the module.

Reloading takes back the module's registrations, runs its before-reload
hooks, closes it, and loads it again; a successful reload counts, and
resumes every live session for the module.  Unloading does the first half
and forgets the module.  Setting up a session runs the setup hooks of the
loaded modules; a failing hook does not stop the others.

The manager holds only bookkeeping.  What a module's code does, how hooks
run and what taking back registrations means belong to the caller, who
hands them in as a `Runner` over a monad of its own: a module's load may
then register hooks with the very manager that is loading it.
-/
import MudClient.Plugin.Manifest
import MudClient.Event.Basic

namespace MudClient.Plugin

open MudClient.Session

/-- The state of a module. -/
inductive ModuleState where
  | unloaded
  | loaded
  | failed
deriving DecidableEq, Repr, Inhabited

def ModuleState.name : ModuleState → String
  | .unloaded => "unloaded"
  | .loaded => "loaded"
  | .failed => "error"

/-- What one load of a module is given: the module's id and the generation
of the load. -/
structure Env where
  module : String
  generation : Nat
deriving DecidableEq, Repr, Inhabited

/-- The manager's record of one module, with code of type `μ`, setup hooks
of type `σ` and before-reload hooks of type `ρ`. -/
structure Record (μ σ ρ : Type) where
  id : String
  module : μ
  state : ModuleState := .unloaded
  error : Option Failure := none
  generation : Nat := 0
  setup : List σ := []
  beforeReload : List ρ := []
  reloads : Nat := 0

/-- A change of a module's life the manager announces. -/
inductive Change where
  | loaded
  | unloaded
  | reloaded
  | failed
deriving DecidableEq, Repr, Inhabited

def Change.name : Change → String
  | .loaded => "loaded"
  | .unloaded => "unloaded"
  | .reloaded => "reloaded"
  | .failed => "error"

/-- An announcement: what changed, for which module, and why it failed. -/
structure Announcement where
  change : Change
  module : String
  error : Option Failure := none

/-- The modules and the running totals of a manager. -/
structure Manager (μ σ ρ : Type) where
  records : List (Record μ σ ρ) := []
  reloads : Nat := 0
  loadFailures : Nat := 0
  setupErrors : Nat := 0
  retracted : Nat := 0

/-- What a module looks like from outside. -/
structure ModuleInfo where
  id : String
  state : ModuleState
  error : Option Failure
  reloads : Nat
  setupHooks : Nat

/-- The totals a manager reports. -/
structure ManagerStats where
  modules : Nat
  loaded : Nat
  errored : Nat
  reloads : Nat
  loadFailures : Nat
  setupErrors : Nat
  retracted : Nat

def moduleNotFound (id : String) : Failure :=
  { message := "module not found: " ++ id, conditions := [.moduleNotFound] }

def nilModule : Failure := { message := "module is nil", conditions := [.moduleMissing] }

def alreadyRegistered (id : String) : Failure :=
  { message := "module is already registered: " ++ id, conditions := [.moduleAlreadyRegistered] }

def alreadyLoaded (id : String) : Failure :=
  { message := "module is already loaded: " ++ id, conditions := [.moduleAlreadyLoaded] }

def reservedId (id : String) : Failure :=
  { message := "module id is reserved: " ++ id, conditions := [.moduleReservedId] }

def invalidId (id : String) : Failure :=
  { message := "invalid module id: " ++ Text.quote id, conditions := [.moduleBadId] }

def noCommands : Failure := { message := "no command registry configured", conditions := [.moduleNoCommands] }

def loadFailure (id : String) (f : Failure) : Failure :=
  { f with message := "load module " ++ id ++ ": " ++ f.message, kinds := .load :: f.kinds }

def joinFailures : List Failure → Option Failure
  | [] => none
  | fs => some { message := "\n".intercalate (fs.map (·.message)),
                 conditions := fs.flatMap (·.conditions), kinds := fs.flatMap (·.kinds) }

/-- What a manager needs from its caller, in the caller's monad `m`: the
manager itself, running a module's code, closing a module, taking back
everything an owner registered, running hooks, announcing changes,
publishing events, and the live sessions. -/
structure Runner (m : Type → Type) (μ σ ρ : Type) where
  get : m (Manager μ σ ρ)
  set : Manager μ σ ρ → m Unit
  load : μ → Env → m (Option Failure)
  close : μ → m Unit
  retract : String → m Nat
  setup : σ → Info → m (Option Failure)
  beforeReload : ρ → m (Option Failure)
  announce : Announcement → m Unit
  publish : Event.Message → m Unit
  sessions : m (List Info)

namespace Manager

variable {μ σ ρ : Type}

def record? (mg : Manager μ σ ρ) (id : String) : Option (Record μ σ ρ) := mg.records.find? (·.id == id)

def update (mg : Manager μ σ ρ) (id : String) (f : Record μ σ ρ → Record μ σ ρ) : Manager μ σ ρ :=
  { mg with records := mg.records.map fun r => if r.id == id then f r else r }

def ids (mg : Manager μ σ ρ) : List String := mg.records.map (·.id)

def register (mg : Manager μ σ ρ) (id : String) (module : μ) : Except Failure (Manager μ σ ρ) :=
  if id == coreModule then .error (reservedId id)
  else if !validId id then .error (invalidId id)
  else if (mg.record? id).isSome then .error (alreadyRegistered id)
  else .ok { mg with records := mg.records ++ [{ id, module }] }

def addSetup (mg : Manager μ σ ρ) (env : Env) (hook : σ) : Manager μ σ ρ :=
  mg.update env.module fun r => if r.generation == env.generation then { r with setup := r.setup ++ [hook] } else r

def addBeforeReload (mg : Manager μ σ ρ) (env : Env) (hook : ρ) : Manager μ σ ρ :=
  mg.update env.module fun r =>
    if r.generation == env.generation then { r with beforeReload := r.beforeReload ++ [hook] } else r

def current (mg : Manager μ σ ρ) (env : Env) : Bool :=
  (mg.record? env.module).any (·.generation == env.generation)

def Record.info (r : Record μ σ ρ) : ModuleInfo :=
  { id := r.id, state := r.state, error := r.error, reloads := r.reloads, setupHooks := r.setup.length }

def modules (mg : Manager μ σ ρ) : List ModuleInfo := mg.records.map Record.info

def module? (mg : Manager μ σ ρ) (id : String) : Option ModuleInfo := (mg.record? id).map Record.info

def errors (mg : Manager μ σ ρ) : List (String × Failure) :=
  mg.records.filterMap fun r => if r.state == .failed then r.error.map (r.id, ·) else none

def stats (mg : Manager μ σ ρ) : ManagerStats :=
  { modules := mg.records.length, loaded := (mg.records.filter (·.state == .loaded)).length,
    errored := (mg.records.filter (·.state == .failed)).length, reloads := mg.reloads,
    loadFailures := mg.loadFailures, setupErrors := mg.setupErrors, retracted := mg.retracted }

def advance (mg : Manager μ σ ρ) (id : String) : Manager μ σ ρ :=
  mg.update id fun r => { r with generation := r.generation + 1, setup := [], beforeReload := [] }

/-! ## Looking modules up -/

section Lookup

variable {mg : Manager μ σ ρ}

theorem record?_id {id : String} {r : Record μ σ ρ} (h : mg.record? id = some r) : r.id = id := by
  simpa using List.find?_some h

theorem mem_of_record? {id : String} {r : Record μ σ ρ} (h : mg.record? id = some r) : r ∈ mg.records :=
  List.mem_of_find?_eq_some h

theorem find?_id_of_mem {r : Record μ σ ρ} :
    ∀ {rs : List (Record μ σ ρ)}, (rs.map (·.id)).Nodup → r ∈ rs → rs.find? (·.id == r.id) = some r
  | [], _, hr => absurd hr List.not_mem_nil
  | r₀ :: rs, hnd, hr => by
      rw [List.map_cons, List.nodup_cons] at hnd
      rcases List.mem_cons.1 hr with rfl | hr
      · simp
      · have hne : r₀.id ≠ r.id := fun h => hnd.1 (h ▸ List.mem_map.2 ⟨r, hr, rfl⟩)
        rw [List.find?_cons_of_neg (by simpa using hne)]
        exact find?_id_of_mem hnd.2 hr

theorem record?_of_mem (hnd : mg.ids.Nodup) {r : Record μ σ ρ} (hr : r ∈ mg.records) :
    mg.record? r.id = some r :=
  find?_id_of_mem hnd hr

/-- Changing one module's record, keeping its id, changes what that id finds
and nothing else. -/
theorem record?_update {f : Record μ σ ρ → Record μ σ ρ} (hf : ∀ r, (f r).id = r.id) (id id' : String) :
    (mg.update id f).record? id' = if id' = id then (mg.record? id).map f else mg.record? id' := by
  unfold record? update
  rw [List.find?_map]
  have hp : ((fun r : Record μ σ ρ => r.id == id') ∘ fun r => if r.id == id then f r else r) =
      (·.id == id') := by
    funext r
    by_cases h : r.id = id <;> simp [h, hf]
  rw [hp]
  -- what the id finds is changed exactly when it is the changed module
  by_cases h : id' = id
  · subst h
    refine (if_pos rfl).symm ▸ Option.map_congr fun r hr => ?_
    simp [show r.id = id' by simpa using List.find?_some hr]
  · refine (if_neg h).symm ▸ (Option.map_congr fun r hr => ?_).trans Option.map_id'
    simp [show r.id = id' by simpa using List.find?_some hr, h]

theorem ids_update {f : Record μ σ ρ → Record μ σ ρ} (hf : ∀ r, (f r).id = r.id) (id : String) :
    (mg.update id f).ids = mg.ids := by
  unfold ids update
  rw [List.map_map]
  apply List.map_congr_left
  intro r _
  by_cases h : r.id = id <;> simp [h, hf]

theorem register_eq_ok {id : String} {module : μ} {mg' : Manager μ σ ρ}
    (h : mg.register id module = .ok mg') :
    mg.record? id = none ∧ mg' = { mg with records := mg.records ++ [{ id, module }] } := by
  unfold register at h
  split at h
  · cases h
  · split at h
    · cases h
    · split at h
      · cases h
      · rename_i hnew
        cases h
        exact ⟨by simpa using hnew, rfl⟩

theorem record?_append {r : Record μ σ ρ} (h : mg.record? r.id = none) (id : String) :
    ({ mg with records := mg.records ++ [r] } : Manager μ σ ρ).record? id =
      if id = r.id then some r else mg.record? id := by
  unfold record? at h ⊢
  rw [List.find?_append]
  by_cases hid : id = r.id
  · subst hid
    simp [h]
  · have hne : ¬r.id = id := fun h' => hid h'.symm
    simp [hid, hne]

theorem record?_filter (id id' : String) :
    ({ mg with records := mg.records.filter (·.id != id) } : Manager μ σ ρ).record? id' =
      if id' = id then none else mg.record? id' := by
  unfold record?
  rw [List.find?_filter]
  by_cases h : id' = id
  · subst h
    simp
  · rw [if_neg h]
    congr 1
    funext r
    by_cases hr : r.id = id'
    · subst hr
      simp [h]
    · simp [hr]

end Lookup

end Manager

section Running

variable {m : Type → Type} [Monad m] {μ σ ρ : Type} (run : Runner m μ σ ρ)

def Runner.modify (f : Manager μ σ ρ → Manager μ σ ρ) : m Unit := do run.set (f (← run.get))

def takeBack (id : String) : m Nat := do
  let n ← run.retract id
  run.modify fun mg => { mg with retracted := mg.retracted + n }
  pure n

def loadModule (id : String) : m (Option Failure) := do
  run.modify (·.advance id)
  match (← run.get).record? id with
  | none => pure (some (moduleNotFound id))
  | some r =>
    match ← run.load r.module ⟨id, r.generation⟩ with
    | some f =>
      let _ ← takeBack run id
      run.close r.module
      run.modify fun mg =>
        let mg := mg.advance id
        let mg := mg.update id fun r => { r with state := .failed, error := some f }
        { mg with loadFailures := mg.loadFailures + 1 }
      let lf := loadFailure id f
      run.announce ⟨.failed, id, some lf⟩
      pure (some lf)
    | none =>
      run.modify fun mg => mg.update id fun r => { r with state := .loaded, error := none }
      run.announce ⟨.loaded, id, none⟩
      pure none

def load (id : String) : m (Option Failure) := do
  match (← run.get).record? id with
  | none => pure (some (moduleNotFound id))
  | some r => if r.state == .loaded then pure (some (alreadyLoaded id)) else loadModule run id

def add (id : String) (module : μ) : m (Option Failure) := do
  match (← run.get).register id module with
  | .error f => pure (some f)
  | .ok mg => run.set mg; load run id

/-- Loads every registered module that is not loaded; the failures are
joined. -/
def loadAll : m (Option Failure) := do
  let ids := (← run.get).ids
  let fails ← ids.filterMapM fun id => do
    match (← run.get).record? id with
    | some r => if r.state == .loaded then pure none else loadModule run id
    | none => pure none
  pure (joinFailures fails)

/-- Takes back a module's registrations, runs its before-reload hooks and
closes it, leaving it unloaded. -/
def prepareReload (id : String) : m (Option Failure) := do
  match (← run.get).record? id with
  | none => pure (some (moduleNotFound id))
  | some r =>
    let _ ← takeBack run id
    let r := ((← run.get).record? id).getD r
    run.modify fun mg => (mg.advance id).update id fun r => { r with state := .unloaded }
    for hook in r.beforeReload do
      let _ ← run.beforeReload hook
    run.close r.module
    pure none

def resumeSessions (id : String) : m Unit := do
  for info in ← run.sessions do
    run.publish { kind := Event.Kind.resumeSession, session := some info.id, payload := some (.session info id) }

/-- Loads a module again; on success counts the reload and resumes every
live session for it. -/
def completeReload (id : String) : m (Option Failure) := do
  match (← run.get).record? id with
  | none => pure (some (moduleNotFound id))
  | some _ =>
    match ← loadModule run id with
    | some f => pure (some f)
    | none =>
      run.modify fun mg =>
        let mg := mg.update id fun r => { r with reloads := r.reloads + 1 }
        { mg with reloads := mg.reloads + 1 }
      run.announce ⟨.reloaded, id, none⟩
      resumeSessions run id
      pure none

def reload (id : String) : m (Option Failure) := do
  match ← prepareReload run id with
  | some f => pure (some f)
  | none => completeReload run id

/-- Reloads every module in registration order, then publishes which were
reloaded and which failed. -/
def reloadAll : m (Option Failure) := do
  let ids := (← run.get).ids
  let results ← ids.mapM fun id => do pure (id, ← reload run id)
  let failed := results.filterMap fun (id, r) => r.map fun _ => id
  run.publish { kind := Event.Kind.modulesReloaded, payload := some (.reload ids failed) }
  pure (joinFailures (results.filterMap (·.2)))

def unload (id : String) : m (Option Failure) := do
  match ← prepareReload run id with
  | some f => pure (some f)
  | none =>
    run.modify fun mg => { mg with records := mg.records.filter (·.id != id) }
    run.announce ⟨.unloaded, id, none⟩
    pure none

/-- Runs the setup hooks of the loaded modules for a session, only those of
one module when `only` is not empty; the failures are joined. -/
def setupSession (info : Info) (only : String) : m (Option Failure) := do
  let work := (← run.get).records.filter fun r =>
    (only.isEmpty || r.id == only) && r.state == .loaded && !r.setup.isEmpty
  let fails ← work.flatMapM fun r => r.setup.filterMapM fun hook => do
    match ← run.setup hook info with
    | some f =>
      run.modify fun mg => { mg with setupErrors := mg.setupErrors + 1 }
      pure (some { f with message := "setup " ++ r.id ++ ": " ++ f.message })
    | none => pure none
  pure (joinFailures fails)

end Running

end MudClient.Plugin
