/-
# Setting up a session

Setting up a session runs the setup hooks of the loaded modules, only those
of one module when it is named.  What is proved here holds from every state
a run of the manager's operations reaches, whatever the modules' code does:

* the hooks run are exactly those of the loaded modules picked, module by
  module in the order of the modules and within a module in the order of its
  list; a failing hook stops none of the others, each failure is counted,
  and the failures are joined in the order the hooks ran;
* the order of the modules has no repeats; registering a new module puts it
  last, unloading a module takes out just that one, and nothing else
  (reloading one module or all of them included) changes it
  (`MudClient.Proofs.Plugin.Order`);
* the hook list of a loaded module is exactly the setup hooks offered through
  its current environment since its latest load began, in the order they
  were offered: a hook offered through the environment of an earlier load,
  as a before-reload hook does, is dropped, and none survives a new load.

The manager runs against a chronicle: the world of
`MudClient.Proofs.Plugin.World` with the hooks the manager ran, every setup
hook offered through an environment, current or not, and for each module how
many had been offered when its latest load began.  `Chronicle.Tracks` states
the third point; every step of the manager and every act of a module's code
keeps it (`Tracks.exec`, `Tracks.start`, `Tracks.finish`, `Tracks.settle`),
so every operation does, and every run (`Chronicle.tracks_runAll`).
-/
import Mathlib
import MudClient.Proofs.Plugin.Order

set_option mvcgen.warning false

namespace MudClient.Plugin

open MudClient.Session Std.Do

/-! ## Offering setup hooks -/

def Act.offer (code : Code) (env : Env) : Act → List Hook
  | .onSetup n => [⟨env, code, n⟩]
  | _ => []

def Plan.offers (code : Code) (env : Env) (p : Plan) : List Hook := p.acts.flatMap (Act.offer code env)

/-- A record that took, of the setup hooks offered, those of its current
environment: the same module, state and generation, with those hooks added
at the end of its list. -/
structure Record.Took (offered : List Hook) (r r' : Record Code Hook Hook) : Prop where
  id : r'.id = r.id
  state : r'.state = r.state
  generation : r'.generation = r.generation
  setup : r'.setup = r.setup ++ offered.filter (·.env == ⟨r.id, r.generation⟩)

theorem Record.Took.trans {xs ys : List Hook} {r r' r'' : Record Code Hook Hook} (h : r.Took xs r')
    (h' : r'.Took ys r'') : r.Took (xs ++ ys) r'' where
  id := h'.id.trans h.id
  state := h'.state.trans h.state
  generation := h'.generation.trans h.generation
  setup := by rw [h'.setup, h.setup, h.id, h.generation, List.filter_append, List.append_assoc]

theorem Record.took_self {xs : List Hook} (r : Record Code Hook Hook) (h : ∀ x ∈ xs, x.env ≠ ⟨r.id, r.generation⟩) :
    r.Took xs r :=
  ⟨rfl, rfl, rfl, by simpa using h⟩

theorem Record.took_addSetup (r : Record Code Hook Hook) {env : Env} {hook : Hook} (he : hook.env = env) :
    r.Took [hook] (if r.id == env.module then
      (if r.generation == env.generation then { r with setup := r.setup ++ [hook] } else r) else r) := by
  subst he
  split_ifs with hid hgen
  · simp only [beq_iff_eq] at hid hgen
    exact ⟨rfl, rfl, rfl, by simp [hid, hgen]⟩
  · exact r.took_self fun x hx h => hgen (by simp only [List.mem_singleton] at hx; simp [← hx, h])
  · exact r.took_self fun x hx h => hid (by simp only [List.mem_singleton] at hx; simp [← hx, h])

namespace Manager

variable {μ σ ρ : Type} {mg : Manager μ σ ρ} {id : String} {f : Record μ σ ρ → Record μ σ ρ} {r' : Record μ σ ρ}

theorem mem_of_mem_update (hf : ∀ r, (f r).id = r.id) (h : r' ∈ (mg.update id f).records) (hid : r'.id ≠ id) :
    r' ∈ mg.records := by
  obtain ⟨r, hr, rfl⟩ := List.mem_map.1 h
  by_cases hr' : r.id = id
  · simp [hr', hf] at hid
  · simpa [hr'] using hr

theorem eq_of_mem_update (h : r' ∈ (mg.update id f).records) (hid : r'.id = id) :
    ∃ r ∈ mg.records, r' = f r := by
  obtain ⟨r, hr, rfl⟩ := List.mem_map.1 h
  by_cases hr' : r.id = id
  · exact ⟨r, hr, by simp [hr']⟩
  · simp [hr'] at hid

theorem mem_of_mem_advance (h : r' ∈ (mg.advance id).records) (hid : r'.id ≠ id) : r' ∈ mg.records :=
  mem_of_mem_update (f := fun r => { r with generation := r.generation + 1, setup := [], beforeReload := [] })
    (fun _ => rfl) h hid

end Manager

namespace World

theorem act_took (w : World) (code : Code) (env : Env) (x : Act) :
    ∀ r' ∈ (w.act code env x).manager.records, ∃ r ∈ w.manager.records, r.Took (x.offer code env) r' := by
  intro r' hr'
  cases x with
  | onSetup n =>
    obtain ⟨r, hr, rfl⟩ := List.mem_map.1 hr'
    exact ⟨r, hr, r.took_addSetup rfl⟩
  | beforeReload n =>
    obtain ⟨r, hr, rfl⟩ := List.mem_map.1 hr'
    refine ⟨r, hr, ?_⟩
    dsimp only
    split_ifs <;> exact ⟨rfl, rfl, rfl, by simp [Act.offer]⟩
  | subscribe _ _ | unsubscribe _ | command _ _ _ =>
    exact ⟨r', hr', r'.took_self (by simp [Act.offer])⟩

theorem exec_took (code : Code) (env : Env) (p : Plan) :
    ∀ w : World, ∀ r' ∈ (w.exec code env p).2.manager.records, ∃ r ∈ w.manager.records,
      r.Took (p.offers code env) r' := by
  obtain ⟨acts, failure⟩ := p
  unfold exec Plan.offers
  dsimp only
  -- by induction on the acts, from any world
  induction acts with
  | nil => exact fun w r' hr' => ⟨r', hr', rfl, rfl, rfl, by simp⟩
  | cons x xs ih =>
    intro w r'' hr''
    obtain ⟨r', hr', h'⟩ := ih (w.act code env x) r'' hr''
    obtain ⟨r, hr, h⟩ := act_took w code env x r' hr'
    exact ⟨r, hr, by simpa using h.trans h'⟩

theorem exec_setupErrors (code : Code) (env : Env) (p : Plan) (w : World) :
    (w.exec code env p).2.manager.setupErrors = w.manager.setupErrors := by
  obtain ⟨acts, failure⟩ := p
  unfold exec
  dsimp only
  induction acts generalizing w with
  | nil => rfl
  | cons x xs ih =>
    rw [List.foldl_cons, ih]
    cases x <;> rfl

end World

/-! ## The chronicle -/

/-- A world with the hooks the manager ran, every setup hook offered through
an environment, current or not, in order, and for each module how many had
been offered when its latest load began. -/
structure Chronicle where
  world : World
  ran : List Hook := []
  offered : List Hook := []
  since : String → Nat := fun _ => 0

namespace Chronicle

def exec (c : Chronicle) (code : Code) (env : Env) (p : Plan) : Option Failure × Chronicle :=
  ((c.world.exec code env p).1, { c with world := (c.world.exec code env p).2, offered := c.offered ++ p.offers code env })

@[simp] theorem exec_fst (c : Chronicle) (code : Code) (env : Env) (p : Plan) : (c.exec code env p).1 = p.failure := rfl

@[simp] theorem exec_world (c : Chronicle) (code : Code) (env : Env) (p : Plan) :
    (c.exec code env p).2.world = (c.world.exec code env p).2 := rfl

@[simp] theorem exec_ran (c : Chronicle) (code : Code) (env : Env) (p : Plan) : (c.exec code env p).2.ran = c.ran := rfl

@[simp] theorem exec_offered (c : Chronicle) (code : Code) (env : Env) (p : Plan) :
    (c.exec code env p).2.offered = c.offered ++ p.offers code env := rfl

@[simp] theorem exec_since (c : Chronicle) (code : Code) (env : Env) (p : Plan) : (c.exec code env p).2.since = c.since :=
  rfl

/-- Notes, as a module's load begins, where the world's counters and the
offered hooks stand. -/
def mark (c : Chronicle) (id : String) : Chronicle :=
  { c with world := c.world.mark id, since := Function.update c.since id c.offered.length }

/-- The manager's runner over a chronicle: the world's runner, noting the
hooks run and the setup hooks offered. -/
def runner : Runner (StateM Chronicle) Code Hook Hook where
  get := do pure (← get).world.manager
  set mg := modify fun c => { c with world := { c.world with manager := mg } }
  load code env := modifyGet fun c => (c.mark env.module).exec code env (code.load env.generation)
  close _ := pure ()
  retract owner := modifyGet fun c => (c.world.taken owner, { c with world := c.world.retract owner })
  setup h info := modifyGet fun c =>
    ((c.exec h.code h.env (h.code.setup h.index info)).1,
      { (c.exec h.code h.env (h.code.setup h.index info)).2 with ran := c.ran ++ [h] })
  beforeReload h := modifyGet fun c =>
    ((c.exec h.code h.env (h.code.reload h.index)).1,
      { (c.exec h.code h.env (h.code.reload h.index)).2 with ran := c.ran ++ [h] })
  announce _ := pure ()
  publish _ := pure ()
  sessions := do pure (← get).world.sessions

@[spec] theorem runner_get {Q : PostCond (Manager Code Hook Hook) (.arg Chronicle .pure)} :
    ⦃fun c => Q.1 c.world.manager c⦄ runner.get ⦃Q⦄ := by
  mvcgen [runner]

@[spec] theorem runner_set {mg : Manager Code Hook Hook} {Q : PostCond Unit (.arg Chronicle .pure)} :
    ⦃fun c => Q.1 () { c with world := { c.world with manager := mg } }⦄ runner.set mg ⦃Q⦄ := by
  mvcgen [runner]

@[spec] theorem runner_load {code : Code} {env : Env} {Q : PostCond (Option Failure) (.arg Chronicle .pure)} :
    ⦃fun c => Q.1 ((c.mark env.module).exec code env (code.load env.generation)).1
      ((c.mark env.module).exec code env (code.load env.generation)).2⦄ runner.load code env ⦃Q⦄ := by
  mvcgen [runner]

@[spec] theorem runner_close {code : Code} {Q : PostCond Unit (.arg Chronicle .pure)} :
    ⦃fun c => Q.1 () c⦄ runner.close code ⦃Q⦄ := by
  mvcgen [runner]

@[spec] theorem runner_retract {owner : String} {Q : PostCond Nat (.arg Chronicle .pure)} :
    ⦃fun c => Q.1 (c.world.taken owner) { c with world := c.world.retract owner }⦄ runner.retract owner ⦃Q⦄ := by
  mvcgen [runner]

@[spec] theorem runner_setup {h : Hook} {info : Info} {Q : PostCond (Option Failure) (.arg Chronicle .pure)} :
    ⦃fun c => Q.1 (c.exec h.code h.env (h.code.setup h.index info)).1
      { (c.exec h.code h.env (h.code.setup h.index info)).2 with ran := c.ran ++ [h] }⦄
    runner.setup h info ⦃Q⦄ := by
  mvcgen [runner]

@[spec] theorem runner_beforeReload {h : Hook} {Q : PostCond (Option Failure) (.arg Chronicle .pure)} :
    ⦃fun c => Q.1 (c.exec h.code h.env (h.code.reload h.index)).1
      { (c.exec h.code h.env (h.code.reload h.index)).2 with ran := c.ran ++ [h] }⦄
    runner.beforeReload h ⦃Q⦄ := by
  mvcgen [runner]

@[spec] theorem runner_announce {x : Announcement} {Q : PostCond Unit (.arg Chronicle .pure)} :
    ⦃fun c => Q.1 () c⦄ runner.announce x ⦃Q⦄ := by
  mvcgen [runner]

@[spec] theorem runner_publish {ev : Event.Message} {Q : PostCond Unit (.arg Chronicle .pure)} :
    ⦃fun c => Q.1 () c⦄ runner.publish ev ⦃Q⦄ := by
  mvcgen [runner]

@[spec] theorem runner_sessions {Q : PostCond (List Info) (.arg Chronicle .pure)} :
    ⦃fun c => Q.1 c.world.sessions c⦄ runner.sessions ⦃Q⦄ := by
  mvcgen [runner]

end Chronicle

def Op.runBy {m : Type → Type} [Monad m] (run : Runner m Code Hook Hook) : Op → m (Option Failure)
  | .register id code => do
    match (← run.get).register id code with
    | .ok mg => run.set mg; pure none
    | .error f => pure (some f)
  | .add id code => Plugin.add run id code
  | .load id => Plugin.load run id
  | .loadAll => Plugin.loadAll run
  | .prepareReload id => Plugin.prepareReload run id
  | .completeReload id => Plugin.completeReload run id
  | .reload id => Plugin.reload run id
  | .reloadAll => Plugin.reloadAll run
  | .unload id => Plugin.unload run id
  | .setupSession info only => Plugin.setupSession run info only

/-- Running an operation against the world is running it through the
world's runner. -/
theorem Op.run_eq_runBy (op : Op) : op.run = op.runBy World.runner := by
  cases op <;> rfl

/-! ## The chronicle runs the manager as the world does

The chronicle's runner only notes things beside the world, so every
operation does to the chronicle's world exactly what it does to a world. -/

namespace Chronicle

/-- A program over chronicles that answers as a program over worlds does
and leaves the world as it does. -/
def Mirrors {α : Type} (p : StateM Chronicle α) (q : StateM World α) : Prop :=
  ∀ c, ((p.run c).1, (p.run c).2.world) = q.run c.world

namespace Mirrors

variable {α β : Type}

theorem pure (a : α) : Mirrors (Pure.pure a) (Pure.pure a) := fun _ => rfl

theorem bind {p : StateM Chronicle α} {q : StateM World α} {f : α → StateM Chronicle β} {g : α → StateM World β}
    (hp : Mirrors p q) (hf : ∀ a, Mirrors (f a) (g a)) : Mirrors (p >>= f) (q >>= g) := by
  intro c
  have hpc := hp c
  rw [Prod.ext_iff] at hpc
  show (((f (p.run c).1).run (p.run c).2).1, ((f (p.run c).1).run (p.run c).2).2.world) =
    (g (q.run c.world).1).run (q.run c.world).2
  rw [← hpc.1, ← hpc.2]
  exact hf _ _

theorem filterMapM {f : α → StateM Chronicle (Option β)} {g : α → StateM World (Option β)}
    (h : ∀ x, Mirrors (f x) (g x)) : ∀ xs : List α, Mirrors (xs.filterMapM f) (xs.filterMapM g)
  | [] => pure _
  | x :: xs => by
    rw [List.filterMapM_cons, List.filterMapM_cons]
    refine (h x).bind fun b => ?_
    cases b with
    | none => exact filterMapM h xs
    | some b => exact (filterMapM h xs).bind fun _ => pure _

theorem flatMapM {f : α → StateM Chronicle (List β)} {g : α → StateM World (List β)}
    (h : ∀ x, Mirrors (f x) (g x)) : ∀ xs : List α, Mirrors (xs.flatMapM f) (xs.flatMapM g)
  | [] => pure _
  | x :: xs => by
    rw [List.flatMapM_cons, List.flatMapM_cons]
    exact (h x).bind fun _ => (flatMapM h xs).bind fun _ => pure _

theorem mapM {f : α → StateM Chronicle β} {g : α → StateM World β}
    (h : ∀ x, Mirrors (f x) (g x)) : ∀ xs : List α, Mirrors (xs.mapM f) (xs.mapM g)
  | [] => pure _
  | x :: xs => by
    rw [List.mapM_cons, List.mapM_cons]
    exact (h x).bind fun _ => (mapM h xs).bind fun _ => pure _

theorem forIn {f : α → β → StateM Chronicle (ForInStep β)} {g : α → β → StateM World (ForInStep β)}
    (h : ∀ x b, Mirrors (f x b) (g x b)) : ∀ (xs : List α) (b : β), Mirrors (ForIn.forIn xs b f) (ForIn.forIn xs b g)
  | [], b => pure b
  | x :: xs, b => by
    rw [List.forIn_cons, List.forIn_cons]
    refine (h x b).bind fun s => ?_
    cases s with
    | done b => exact pure b
    | yield b => exact forIn h xs b

end Mirrors

section Steps

variable {code : Code} {env : Env} {h : Hook} {info : Info} {owner : String} {mg : Manager Code Hook Hook}
  {x : Announcement} {ev : Event.Message}

theorem mirrors_get : Mirrors runner.get World.runner.get := fun _ => rfl
theorem mirrors_set : Mirrors (runner.set mg) (World.runner.set mg) := fun _ => rfl
theorem mirrors_loadCode : Mirrors (runner.load code env) (World.runner.load code env) := fun _ => rfl
theorem mirrors_close : Mirrors (runner.close code) (World.runner.close code) := fun _ => rfl
theorem mirrors_retract : Mirrors (runner.retract owner) (World.runner.retract owner) := fun _ => rfl
theorem mirrors_setup : Mirrors (runner.setup h info) (World.runner.setup h info) := fun _ => rfl
theorem mirrors_beforeReload : Mirrors (runner.beforeReload h) (World.runner.beforeReload h) := fun _ => rfl
theorem mirrors_announce : Mirrors (runner.announce x) (World.runner.announce x) := fun _ => rfl
theorem mirrors_publish : Mirrors (runner.publish ev) (World.runner.publish ev) := fun _ => rfl
theorem mirrors_sessions : Mirrors runner.sessions World.runner.sessions := fun _ => rfl

theorem mirrors_modify (f : Manager Code Hook Hook → Manager Code Hook Hook) :
    Mirrors (runner.modify f) (World.runner.modify f) :=
  mirrors_get.bind fun _ => mirrors_set

end Steps

section Operations

variable (id : String)

theorem mirrors_takeBack : Mirrors (takeBack runner id) (takeBack World.runner id) :=
  mirrors_retract.bind fun _ => (mirrors_modify _).bind fun _ => .pure _

theorem mirrors_loadModule : Mirrors (loadModule runner id) (loadModule World.runner id) := by
  refine (mirrors_modify _).bind fun _ => mirrors_get.bind fun mg => ?_
  cases mg.record? id with
  | none => exact .pure _
  | some r =>
    refine mirrors_loadCode.bind fun res => ?_
    cases res with
    | some f =>
      exact (mirrors_takeBack id).bind fun _ => mirrors_close.bind fun _ => (mirrors_modify _).bind fun _ =>
        mirrors_announce.bind fun _ => .pure _
    | none => exact (mirrors_modify _).bind fun _ => mirrors_announce.bind fun _ => .pure _

theorem mirrors_load : Mirrors (load runner id) (load World.runner id) := by
  refine mirrors_get.bind fun mg => ?_
  cases mg.record? id with
  | none => exact .pure _
  | some r =>
    dsimp only
    split
    · exact .pure _
    · exact mirrors_loadModule id

theorem mirrors_add (code : Code) : Mirrors (add runner id code) (add World.runner id code) := by
  refine mirrors_get.bind fun mg => ?_
  cases mg.register id code with
  | error f => exact .pure _
  | ok mg => exact mirrors_set.bind fun _ => mirrors_load id

theorem mirrors_loadAll : Mirrors (loadAll runner) (loadAll World.runner) := by
  refine mirrors_get.bind fun mg => (Mirrors.filterMapM (fun id => ?_) _).bind fun _ => .pure _
  refine mirrors_get.bind fun mg => ?_
  cases mg.record? id with
  | none => exact .pure _
  | some r =>
    dsimp only
    split
    · exact .pure _
    · exact mirrors_loadModule id

theorem mirrors_prepareReload : Mirrors (prepareReload runner id) (prepareReload World.runner id) := by
  refine mirrors_get.bind fun mg => ?_
  cases mg.record? id with
  | none => exact .pure _
  | some r =>
    exact (mirrors_takeBack id).bind fun _ => mirrors_get.bind fun _ => (mirrors_modify _).bind fun _ =>
      (Mirrors.forIn (fun _ _ => mirrors_beforeReload.bind fun _ => .pure _) _ _).bind fun _ =>
        mirrors_close.bind fun _ => .pure _

theorem mirrors_completeReload : Mirrors (completeReload runner id) (completeReload World.runner id) := by
  refine mirrors_get.bind fun mg => ?_
  cases mg.record? id with
  | none => exact .pure _
  | some r =>
    refine (mirrors_loadModule id).bind fun res => ?_
    cases res with
    | some f => exact .pure _
    | none =>
      exact (mirrors_modify _).bind fun _ => mirrors_announce.bind fun _ =>
        (mirrors_sessions.bind fun _ => Mirrors.forIn (fun _ _ => mirrors_publish.bind fun _ => .pure _) _ _).bind
          fun _ => .pure _

theorem mirrors_reload : Mirrors (reload runner id) (reload World.runner id) := by
  refine (mirrors_prepareReload id).bind fun res => ?_
  cases res with
  | some f => exact .pure _
  | none => exact mirrors_completeReload id

theorem mirrors_reloadAll : Mirrors (reloadAll runner) (reloadAll World.runner) :=
  mirrors_get.bind fun _ => (Mirrors.mapM (fun id => (mirrors_reload id).bind fun _ => .pure _) _).bind fun _ =>
    mirrors_publish.bind fun _ => .pure _

theorem mirrors_unload : Mirrors (unload runner id) (unload World.runner id) := by
  refine (mirrors_prepareReload id).bind fun res => ?_
  cases res with
  | some f => exact .pure _
  | none => exact (mirrors_modify _).bind fun _ => mirrors_announce.bind fun _ => .pure _

theorem mirrors_setupSession (info : Info) : Mirrors (setupSession runner info id) (setupSession World.runner info id) := by
  refine mirrors_get.bind fun mg => (Mirrors.flatMapM (fun r => Mirrors.filterMapM (fun hook => ?_) _) _).bind
    fun _ => .pure _
  refine mirrors_setup.bind fun res => ?_
  cases res with
  | some f => exact (mirrors_modify _).bind fun _ => .pure _
  | none => exact .pure _

end Operations

theorem mirrors_runBy : ∀ op : Op, Mirrors (op.runBy runner) op.run
  | .register id code => by
    rw [Op.run_eq_runBy]
    refine mirrors_get.bind fun mg => ?_
    cases mg.register id code with
    | ok mg => exact mirrors_set.bind fun _ => .pure _
    | error f => exact .pure _
  | .add id code => mirrors_add id code
  | .load id => mirrors_load id
  | .loadAll => mirrors_loadAll
  | .prepareReload id => mirrors_prepareReload id
  | .completeReload id => mirrors_completeReload id
  | .reload id => mirrors_reload id
  | .reloadAll => mirrors_reloadAll
  | .unload id => mirrors_unload id
  | .setupSession info only => mirrors_setupSession only info

def start (sessions : List Info) : Chronicle := { world := { sessions } }

def perform (c : Chronicle) (op : Op) : Chronicle := ((op.runBy runner).run c).2

def runAll (c : Chronicle) (ops : List Op) : Chronicle := ops.foldl perform c

@[simp] theorem world_start (sessions : List Info) : (start sessions).world = { sessions } := rfl

@[simp] theorem world_perform (c : Chronicle) (op : Op) : (c.perform op).world = c.world.perform op :=
  congrArg Prod.snd (mirrors_runBy op c)

@[simp] theorem world_runAll (ops : List Op) : ∀ c : Chronicle, (c.runAll ops).world = c.world.runAll ops := by
  induction ops with
  | nil => exact fun _ => rfl
  | cons op ops ih => exact fun c => (ih (c.perform op)).trans (congrArg (World.runAll · ops) (world_perform c op))

/-! ## Tracking the setup hooks of each module -/

/-- The setup hooks offered through a record's current environment since
its module's latest load began, in the order they were offered. -/
def addedSince (c : Chronicle) (r : Record Code Hook Hook) : List Hook :=
  (c.offered.drop (c.since r.id)).filter (·.env == ⟨r.id, r.generation⟩)

/-- The hook list of each loaded module, and of the module being loaded, is
what was offered through its current environment since its latest load
began. -/
structure Tracks (c : Chronicle) (busy : Option String) : Prop where
  since_le : ∀ id, c.since id ≤ c.offered.length
  setup : ∀ r ∈ c.world.manager.records, r.state = .loaded ∨ busy = some r.id → r.setup = c.addedSince r

variable {c : Chronicle} {busy : Option String}

/-- Running a plan through any environment keeps tracking: what a record
takes of the plan's offers is what its environment's filter keeps. -/
theorem Tracks.exec (ht : c.Tracks busy) (code : Code) (env : Env) (p : Plan) : (c.exec code env p).2.Tracks busy where
  since_le id := (ht.since_le id).trans (by simp)
  setup r' hr' hl' := by
    obtain ⟨r, hr, htook⟩ := World.exec_took code env p c.world r' hr'
    have hl : r.state = .loaded ∨ busy = some r.id := by rwa [← htook.state, ← htook.id]
    rw [htook.setup, ht.setup r hr hl]
    simp only [addedSince, exec_since, exec_offered, htook.id, htook.generation]
    rw [List.drop_append_of_le_length (ht.since_le r.id), List.filter_append]

/-- A change of the manager that only restates, or forgets, records that
were loaded or being loaded keeps tracking. -/
theorem Tracks.restate (ht : c.Tracks busy) {busy' : Option String} {mg : Manager Code Hook Hook}
    (h : ∀ r' ∈ mg.records, r'.state = .loaded ∨ busy' = some r'.id →
      ∃ r ∈ c.world.manager.records, (r.state = .loaded ∨ busy = some r.id) ∧
        r'.id = r.id ∧ r'.generation = r.generation ∧ r'.setup = r.setup) :
    Tracks { c with world := { c.world with manager := mg } } busy' where
  since_le := ht.since_le
  setup r' hr' hl' := by
    obtain ⟨r, hr, hl, hid, hgen, hset⟩ := h r' hr' hl'
    rw [hset, ht.setup r hr hl]
    simp only [addedSince, hid, hgen]

theorem Tracks.records (ht : c.Tracks busy) {mg : Manager Code Hook Hook} (h : mg.records = c.world.manager.records) :
    Tracks { c with world := { c.world with manager := mg } } busy :=
  ht.restate fun r' hr' hl' => ⟨r', h ▸ hr', hl', rfl, rfl, rfl⟩

theorem Tracks.retract (ht : c.Tracks busy) (owner : String) :
    Tracks { c with world := c.world.retract owner } busy := ⟨ht.since_le, ht.setup⟩

/-- A module's load begins: a new generation with no hooks, and nothing
offered yet since. -/
theorem Tracks.start (ht : c.Tracks none) (id : String) :
    Tracks ({ c with world := { c.world with manager := c.world.manager.advance id } }.mark id) (some id) where
  since_le id' := by
    simp only [mark, Function.update_apply]
    split
    · exact Nat.le_refl _
    · exact ht.since_le id'
  setup r' hr' hl' := by
    obtain ⟨r, hr, rfl⟩ := List.mem_map.1 hr'
    by_cases hid : r.id = id
    · simp [hid, addedSince, mark]
    · simp only [hid, beq_iff_eq, if_false] at hl' ⊢
      rw [ht.setup r hr (hl'.imp_right fun h => absurd (Option.some.inj h).symm hid)]
      simp [addedSince, mark, Function.update_of_ne hid]

/-- A load that ends well leaves its module loaded, with the hooks it took
while being loaded. -/
theorem Tracks.finish {id : String} (ht : c.Tracks (some id)) :
    let mg := c.world.manager.update id fun r => { r with state := .loaded, error := none }
    Tracks { c with world := { c.world with manager := mg } } none :=
  ht.restate fun r' hr' _ => by
    obtain ⟨r, hr, rfl⟩ := List.mem_map.1 hr'
    by_cases hid : r.id = id
    · exact ⟨r, hr, .inr (by rw [hid]), by simp [hid]⟩
    · refine ⟨r, hr, ?_, by simp [hid]⟩
      simp_all

/-- Leaving one module in a state other than loaded, or forgetting it, and
every other module as it was, keeps tracking. -/
theorem Tracks.settle (ht : c.Tracks busy) (id : String) {mg : Manager Code Hook Hook}
    (hkeep : ∀ r' ∈ mg.records, r'.id ≠ id → r' ∈ c.world.manager.records)
    (hnot : ∀ r' ∈ mg.records, r'.id = id → r'.state ≠ .loaded) :
    Tracks { c with world := { c.world with manager := mg } } none :=
  ht.restate fun r' hr' hl' => by
    have hl : r'.state = .loaded := hl'.resolve_right (by simp)
    have hid : r'.id ≠ id := fun h => hnot r' hr' h hl
    exact ⟨r', hkeep r' hr' hid, .inl hl, rfl, rfl, rfl⟩

/-- A change of one module that keeps its state, generation and hooks keeps
tracking. -/
theorem Tracks.update_same (ht : c.Tracks busy) (id : String) (f : Record Code Hook Hook → Record Code Hook Hook)
    (hf : ∀ r, (f r).id = r.id ∧ (f r).state = r.state ∧ (f r).generation = r.generation ∧ (f r).setup = r.setup) :
    Tracks { c with world := { c.world with manager := c.world.manager.update id f } } busy :=
  ht.restate fun r' hr' hl' => by
    obtain ⟨r, hr, rfl⟩ := List.mem_map.1 hr'
    refine ⟨r, hr, ?_⟩
    by_cases hid : r.id = id
    · simp only [hid, beq_self_eq_true, if_true] at hl' ⊢
      obtain ⟨hid', hst, hgen, hset⟩ := hf r
      rw [hid', hst] at hl'
      exact ⟨hid ▸ hl', hid'.trans hid, hgen, hset⟩
    · simp only [beq_iff_eq, hid, if_false] at hl' ⊢
      simpa using hl'

theorem Tracks.advance_absent (ht : c.Tracks busy) {id : String} (h : (c.world.manager.advance id).record? id = none) :
    Tracks { c with world := { c.world with manager := c.world.manager.advance id } } busy :=
  ht.restate fun r' hr' hl' => by
    have hne : r'.id ≠ id := by simpa using List.find?_eq_none.1 h r' hr'
    have hr : r' ∈ c.world.manager.records := Manager.mem_of_mem_advance hr' hne
    exact ⟨r', hr, hl', rfl, rfl, rfl⟩

/-- A module's load that failed, or its records taken back, leaves it in a
state other than loaded; every other module is as it was. -/
theorem Tracks.leave (ht : c.Tracks busy) (id : String) {mg : Manager Code Hook Hook}
    (hmg : mg.records = c.world.manager.records) {f : Record Code Hook Hook → Record Code Hook Hook}
    (hf : ∀ r, (f r).id = r.id ∧ (f r).state ≠ .loaded) {mg' : Manager Code Hook Hook}
    (hmg' : mg'.records = ((mg.advance id).update id f).records) :
    Tracks { c with world := { c.world with manager := mg' } } none :=
  ht.settle id
    (fun r' hr' hid => by
      rw [hmg'] at hr'
      have h₁ := Manager.mem_of_mem_update (fun r => (hf r).1) hr' hid
      exact hmg ▸ Manager.mem_of_mem_advance h₁ hid)
    (fun r' hr' hid => by
      rw [hmg'] at hr'
      obtain ⟨r, -, rfl⟩ := Manager.eq_of_mem_update hr' hid
      exact (hf r).2)

theorem Tracks.register (ht : c.Tracks none) {id : String} {code : Code} {mg : Manager Code Hook Hook}
    (h : c.world.manager.register id code = .ok mg) : Tracks { c with world := { c.world with manager := mg } } none :=
  ht.restate fun r' hr' hl' => by
    obtain ⟨-, rfl⟩ := Manager.register_eq_ok h
    rcases List.mem_append.1 hr' with hr' | hr'
    · exact ⟨r', hr', hl', rfl, rfl, rfl⟩
    · rw [List.mem_singleton.1 hr'] at hl'
      simp at hl'

theorem Tracks.ran (ht : c.Tracks busy) (hooks : List Hook) : Tracks { c with ran := hooks } busy :=
  ⟨ht.since_le, ht.setup⟩

end Chronicle

/-! ## Every operation keeps tracking -/

open Chronicle

theorem loadModule_tracks (id : String) :
    ⦃fun c => ⌜c.Tracks none⌝⦄ loadModule runner id ⦃⇓ _ c => ⌜c.Tracks none⌝⦄ := by
  mvcgen [loadModule, takeBack, Runner.modify]
  next c h hnone => exact h.advance_absent hnone
  next c h r hr f hf lf =>
    have h₁ := (h.start id).exec r.module ⟨id, r.generation⟩ (r.module.load r.generation)
    exact (h₁.retract id).leave id (f := fun r => { r with state := .failed, error := some f }) rfl
      (fun _ => ⟨rfl, by simp⟩) rfl
  next c h r hr hf =>
    exact ((h.start id).exec r.module ⟨id, r.generation⟩ (r.module.load r.generation)).finish

theorem load_tracks (id : String) :
    ⦃fun c => ⌜c.Tracks none⌝⦄ load runner id ⦃⇓ _ c => ⌜c.Tracks none⌝⦄ := by
  mvcgen [load, loadModule_tracks]

theorem add_tracks (id : String) (code : Code) :
    ⦃fun c => ⌜c.Tracks none⌝⦄ add runner id code ⦃⇓ _ c => ⌜c.Tracks none⌝⦄ := by
  mvcgen [add, load_tracks]
  next c h mg hmg => exact h.register hmg

theorem loadAll_tracks : ⦃fun c => ⌜c.Tracks none⌝⦄ loadAll runner ⦃⇓ _ c => ⌜c.Tracks none⌝⦄ := by
  have hkeep := @filterMapM_keeps Chronicle String Failure (Tracks · none)
  mvcgen [loadAll, hkeep, loadModule_tracks]

theorem prepareReload_tracks (id : String) :
    ⦃fun c => ⌜c.Tracks none⌝⦄ prepareReload runner id ⦃⇓ _ c => ⌜c.Tracks none⌝⦄ := by
  mvcgen [prepareReload, takeBack, Runner.modify] invariants
  · ⇓ _ c => ⌜c.Tracks none⌝
  next c h r₀ hr r pref cur suff hsplit _ c' hc => exact (hc.exec cur.code cur.env _).ran _
  next c h r₀ hr r =>
    exact ((h.retract id).records rfl).leave id (f := fun r => { r with state := .unloaded }) rfl
      (fun _ => ⟨rfl, by simp⟩) rfl

theorem resumeSessions_tracks (id : String) :
    ⦃fun c => ⌜c.Tracks none⌝⦄ resumeSessions runner id ⦃⇓ _ c => ⌜c.Tracks none⌝⦄ := by
  mvcgen [resumeSessions] invariants
  · ⇓ _ c => ⌜c.Tracks none⌝

theorem completeReload_tracks (id : String) :
    ⦃fun c => ⌜c.Tracks none⌝⦄ completeReload runner id ⦃⇓ _ c => ⌜c.Tracks none⌝⦄ := by
  mvcgen [completeReload, Runner.modify, loadModule_tracks, resumeSessions_tracks]
  next c h r₀ hr res hres c' hc =>
    exact (hc.update_same id (fun r => { r with reloads := r.reloads + 1 }) fun _ => ⟨rfl, rfl, rfl, rfl⟩).records rfl

theorem reload_tracks (id : String) :
    ⦃fun c => ⌜c.Tracks none⌝⦄ reload runner id ⦃⇓ _ c => ⌜c.Tracks none⌝⦄ := by
  mvcgen [reload, prepareReload_tracks, completeReload_tracks]

theorem reloadAll_tracks : ⦃fun c => ⌜c.Tracks none⌝⦄ reloadAll runner ⦃⇓ _ c => ⌜c.Tracks none⌝⦄ := by
  have hkeep := @mapM_keeps Chronicle String (String × Option Failure) (Tracks · none)
  mvcgen [reloadAll, hkeep, reload_tracks]

theorem unload_tracks (id : String) :
    ⦃fun c => ⌜c.Tracks none⌝⦄ unload runner id ⦃⇓ _ c => ⌜c.Tracks none⌝⦄ := by
  mvcgen [unload, Runner.modify, prepareReload_tracks]
  next c h res hres c' hc =>
    exact hc.restate fun r' hr' hl' => ⟨r', (List.mem_filter.1 hr').1, hl', rfl, rfl, rfl⟩

theorem setupSession_tracks (info : Info) (only : String) :
    ⦃fun c => ⌜c.Tracks none⌝⦄ setupSession runner info only ⦃⇓ _ c => ⌜c.Tracks none⌝⦄ := by
  have houter := @flatMapM_keeps Chronicle (Record Code Hook Hook) Failure (Tracks · none)
  have hinner := @filterMapM_keeps Chronicle Hook Failure (Tracks · none)
  mvcgen [setupSession, Runner.modify, houter, hinner]
  next c₀ h₀ work r hr c₁ h₁ hook hh c h f hf =>
    have h' := (h.exec hook.code hook.env (hook.code.setup hook.index info)).ran (c.ran ++ [hook])
    exact h'.records rfl
  next c₀ h₀ work r hr c₁ h₁ hook hh c h hf => exact (h.exec hook.code hook.env _).ran _

theorem register_tracks (id : String) (code : Code) :
    ⦃fun c => ⌜c.Tracks none⌝⦄ (Op.register id code).runBy runner ⦃⇓ _ c => ⌜c.Tracks none⌝⦄ := by
  mvcgen [Op.runBy]
  next c h mg hmg => exact h.register hmg

namespace Chronicle

theorem Tracks.perform {c : Chronicle} (h : c.Tracks none) : ∀ op : Op, (c.perform op).Tracks none
  | .register id code => run_of_triple (register_tracks id code) h
  | .add id code => run_of_triple (add_tracks id code) h
  | .load id => run_of_triple (load_tracks id) h
  | .loadAll => run_of_triple loadAll_tracks h
  | .prepareReload id => run_of_triple (prepareReload_tracks id) h
  | .completeReload id => run_of_triple (completeReload_tracks id) h
  | .reload id => run_of_triple (reload_tracks id) h
  | .reloadAll => run_of_triple reloadAll_tracks h
  | .unload id => run_of_triple (unload_tracks id) h
  | .setupSession info only => run_of_triple (setupSession_tracks info only) h

theorem tracks_start (sessions : List Info) : (start sessions).Tracks none where
  since_le _ := Nat.zero_le _
  setup _ h := by simp [start] at h

/-- Every run from a fresh chronicle keeps tracking.  By induction on the
run, one operation at a time. -/
theorem tracks_runAll (sessions : List Info) (ops : List Op) : ((start sessions).runAll ops).Tracks none := by
  suffices ∀ c : Chronicle, c.Tracks none → (c.runAll ops).Tracks none from this _ (tracks_start sessions)
  induction ops with
  | nil => exact fun _ h => h
  | cons op ops ih => exact fun c h => ih _ (h.perform op)

end Chronicle

/-! ## Walks that answer exactly

A walk over a list whose step on each element answers what `g` gives it and
takes an invariant over the elements walked so far one element further
answers what `g` gives the whole list. -/

section Walks

variable {σ α β : Type}

/-- A triple's conclusion read at one state, against any postcondition that
the triple's implies. -/
theorem wp_of_triple {prog : StateM σ α} {P : σ → Prop} {R : α → σ → Prop}
    (hp : ⦃fun s => ⌜P s⌝⦄ prog ⦃⇓ a s => ⌜R a s⌝⦄) {Q : PostCond α (.arg σ .pure)} {s : σ} (hs : P s)
    (hQ : ∀ a s', R a s' → (Q.1 a s').down) : (wp⟦prog⟧ Q s).down :=
  hQ _ _ (run_of_triple hp hs)

theorem filterMapM_exact {f : α → StateM σ (Option β)} (g : α → Option β) (I : List α → σ → Prop)
    (hf : ∀ pre x, ⦃fun s => ⌜I pre s⌝⦄ f x ⦃⇓ b s => ⌜b = g x ∧ I (pre ++ [x]) s⌝⦄) :
    ∀ xs pre : List α,
      ⦃fun s => ⌜I pre s⌝⦄ xs.filterMapM f ⦃⇓ bs s => ⌜bs = xs.filterMap g ∧ I (pre ++ xs) s⌝⦄
  | [], pre => by
    rw [List.filterMapM_nil]
    mvcgen
    next s h => exact ⟨rfl, by rwa [List.append_nil]⟩
  | x :: xs, pre => by
    rw [List.filterMapM_cons]
    have hx := hf pre x
    have hrest := filterMapM_exact g I hf xs (pre ++ [x])
    mvcgen [hx, hrest]
    all_goals grind

theorem flatMapM_exact {f : α → StateM σ (List β)} (g : α → List β) (I : List α → σ → Prop)
    (hf : ∀ pre x, ⦃fun s => ⌜I pre s⌝⦄ f x ⦃⇓ b s => ⌜b = g x ∧ I (pre ++ [x]) s⌝⦄) :
    ∀ xs pre : List α,
      ⦃fun s => ⌜I pre s⌝⦄ xs.flatMapM f ⦃⇓ bs s => ⌜bs = xs.flatMap g ∧ I (pre ++ xs) s⌝⦄
  | [], pre => by
    rw [List.flatMapM_nil]
    mvcgen
    next s h => exact ⟨rfl, by rwa [List.append_nil]⟩
  | x :: xs, pre => by
    rw [List.flatMapM_cons]
    have hx := hf pre x
    have hrest := flatMapM_exact g I hf xs (pre ++ [x])
    mvcgen [hx, hrest]
    all_goals grind

end Walks

/-! ## Setting up a session -/

/-- The loaded modules setting up a session picks, in order: every one, or
the one `only` names. -/
def Manager.picked (mg : Manager Code Hook Hook) (only : String) : List (Record Code Hook Hook) :=
  mg.records.filter fun r => (only.isEmpty || r.id == only) && r.state == .loaded

def Hook.fails (info : Info) (h : Hook) : Bool := (h.code.setup h.index info).failure.isSome

/-- The failure a setup hook's run reports in a session, named for its
module. -/
def Hook.setupFailure (id : String) (info : Info) (h : Hook) : Option Failure :=
  (h.code.setup h.index info).failure.map fun f => { f with message := "setup " ++ id ++ ": " ++ f.message }

theorem flatMap_filter_hooked {γ : Type} (F : Record Code Hook Hook → List γ) (hF : ∀ r, r.setup = [] → F r = [])
    (p : Record Code Hook Hook → Bool) :
    ∀ rs : List (Record Code Hook Hook),
      (rs.filter fun r => p r && !r.setup.isEmpty).flatMap F = (rs.filter p).flatMap F
  | [] => rfl
  | r :: rs => by
    have ih := flatMap_filter_hooked F hF p rs
    by_cases hp : p r
    · by_cases he : r.setup = []
      · simp [hp, he, hF r he, ih]
      · simp [hp, he, ih]
    · simp [hp, ih]

namespace Chronicle

/-- A chronicle in the middle of setting up a session: tracking, with the
hooks `ps` run after those noted before, `R`, and each failure among them
counted after the `E` counted before. -/
def SettingUp (info : Info) (R : List Hook) (E : Nat) (ps : List Hook) (c : Chronicle) : Prop :=
  c.Tracks none ∧ c.ran = R ++ ps ∧ c.world.manager.setupErrors = E + ps.countP (Hook.fails info)

variable {info : Info} {R : List Hook} {E : Nat} {ps : List Hook} {c : Chronicle}

theorem SettingUp.failed (h : c.SettingUp info R E ps) {hook : Hook} {f : Failure}
    (hf : (hook.code.setup hook.index info).failure = some f) :
    let c' := (c.exec hook.code hook.env (hook.code.setup hook.index info)).2
    SettingUp info R E (ps ++ [hook]) { c' with
      world := { c'.world with manager := { c'.world.manager with setupErrors := c'.world.manager.setupErrors + 1 } }
      ran := c.ran ++ [hook] } := by
  intro c'
  have hfails : hook.fails info = true := by simp [Hook.fails, hf]
  have ht := (h.1.exec hook.code hook.env (hook.code.setup hook.index info)).ran (c.ran ++ [hook])
  refine ⟨ht.records rfl, by simp [h.2.1], ?_⟩
  simp [c', World.exec_setupErrors, h.2.2, hfails, Nat.add_assoc]

theorem SettingUp.passed (h : c.SettingUp info R E ps) {hook : Hook}
    (hn : (hook.code.setup hook.index info).failure = none) :
    SettingUp info R E (ps ++ [hook])
      { (c.exec hook.code hook.env (hook.code.setup hook.index info)).2 with ran := c.ran ++ [hook] } := by
  have hfails : hook.fails info = false := by simp [Hook.fails, hn]
  refine ⟨(h.1.exec _ _ _).ran _, by simp [h.2.1], ?_⟩
  simp [World.exec_setupErrors, h.2.2, hfails]

end Chronicle

/-- Setting up a session from a tracking chronicle: the hooks of the picked
modules run in order, each failure is counted and reported in the order the
hooks ran, and the chronicle keeps tracking.  Hooks added while the session
is set up wait for the next one: the modules and their lists are read once,
at the start. -/
theorem setupSession_exact (info : Info) (only : String) (R : List Hook) (mg : Manager Code Hook Hook) :
    ⦃fun c => ⌜c.Tracks none ∧ c.ran = R ∧ c.world.manager = mg⌝⦄ setupSession runner info only
    ⦃⇓ res c => ⌜c.SettingUp info R mg.setupErrors ((mg.picked only).flatMap (·.setup)) ∧
      res = joinFailures ((mg.picked only).flatMap fun r => r.setup.filterMap (Hook.setupFailure r.id info))⌝⦄ := by
  mvcgen [setupSession]
  next c hc work =>
    refine wp_of_triple (flatMapM_exact (fun r => r.setup.filterMap (Hook.setupFailure r.id info))
      (fun pre => SettingUp info R mg.setupErrors (pre.flatMap (·.setup))) (fun pre r => ?_) work []) ?_ ?_
    · intro c₁ h₁
      refine wp_of_triple (filterMapM_exact (Hook.setupFailure r.id info)
        (fun ps => SettingUp info R mg.setupErrors (pre.flatMap (·.setup) ++ ps)) (fun ps hook => ?_) r.setup [])
        (by simpa using h₁) ?_
      · mvcgen [Runner.modify]
        next c₂ h₂ f hf =>
          rw [exec_fst] at hf
          exact ⟨by simp [Hook.setupFailure, hf], by simpa only [List.append_assoc] using h₂.failed hf⟩
        next c₂ h₂ hn =>
          rw [exec_fst] at hn
          exact ⟨by simp [Hook.setupFailure, hn], by simpa only [List.append_assoc] using h₂.passed hn⟩
      · rintro bs c₂ ⟨hbs, h₂⟩
        exact ⟨hbs, by simpa using h₂⟩
    · exact ⟨hc.1, by simp [hc.2.1], by simp [hc.2.2]⟩
    · rintro bs c' ⟨rfl, h'⟩
      -- the modules with no hook, which setting up skips, add nothing
      have hpick : ∀ {γ : Type} (F : Record Code Hook Hook → List γ), (∀ r, r.setup = [] → F r = []) →
          work.flatMap F = (mg.picked only).flatMap F := fun F hF => by
        simp only [work, Manager.picked, ← hc.2.2]
        exact flatMap_filter_hooked F hF _ _
      rw [List.nil_append, hpick _ fun r hr => by rw [hr]] at h'
      exact ⟨h', by rw [hpick _ fun r hr => by rw [hr]; rfl]⟩

/-! ## From every state a run reaches -/

/-- From every state a run of the manager's operations reaches, whatever the
modules' code does: the chronicle's world is the world the run reaches, and
setting up a session does to it what it does to that world; the setup hooks
run are those of the loaded modules picked, module by module in the order of
the modules and within a module in the order of its list, each failure
counted and the failures joined in the order the hooks ran; the list of a
loaded module is the hooks offered through its current environment since its
latest load began; and the order of the modules has no repeats and changes
only as `Op.Orders` says. -/
theorem setup_runs_loaded_hooks_in_order (sessions : List Info) (ops : List Op) (info : Info) (only : String) :
    let c := (Chronicle.start sessions).runAll ops
    let mg := c.world.manager
    let r := (setupSession runner info only).run c
    c.world = ({ sessions } : World).runAll ops ∧
    r.2.world = c.world.perform (.setupSession info only) ∧
    r.2.ran = c.ran ++ (mg.picked only).flatMap (·.setup) ∧
    r.2.world.manager.setupErrors = mg.setupErrors + ((mg.picked only).flatMap (·.setup)).countP (Hook.fails info) ∧
    r.1 = joinFailures ((mg.picked only).flatMap fun r => r.setup.filterMap (Hook.setupFailure r.id info)) ∧
    (∀ r ∈ mg.records, r.state = .loaded → r.setup = c.addedSince r) ∧
    mg.ids.Nodup ∧ ∀ op : Op, op.Orders mg.ids (c.world.perform op).manager.ids := by
  intro c mg r
  have ht : c.Tracks none := tracks_runAll sessions ops
  have hworld : c.world = ({ sessions } : World).runAll ops := world_runAll ops _
  obtain ⟨⟨-, hran, herr⟩, hres⟩ := run_of_triple (setupSession_exact info only c.ran mg) ⟨ht, rfl, rfl⟩
  refine ⟨hworld, world_perform c (.setupSession info only), hran, herr, hres, fun r hr hl => ht.setup r hr (.inl hl),
    ?_, c.world.perform_orders⟩
  show c.world.manager.ids.Nodup
  rw [hworld]
  exact World.nodup_runAll sessions ops

/-- Four modules: `first` adds a hook that ends well and one that fails,
`nohooks` adds none, `second` one that fails and one that ends well, `third`
one that ends well.  Setting up a session runs the five hooks in the order
the modules were added and counts the two failures. -/
example :
    let first : Code :=
      { load := fun _ => { acts := [.onSetup 1, .onSetup 2] }
        setup := fun n _ => if n = 2 then { failure := some { message := "broken" } } else {}
        reload := fun _ => {} }
    let nohooks : Code := { load := fun _ => {}, setup := fun _ _ => {}, reload := fun _ => {} }
    let second : Code :=
      { load := fun _ => { acts := [.onSetup 1, .onSetup 2] }
        setup := fun n _ => if n = 1 then { failure := some { message := "oops" } } else {}
        reload := fun _ => {} }
    let third : Code := { load := fun _ => { acts := [.onSetup 1] }, setup := fun _ _ => {}, reload := fun _ => {} }
    let info : Info := { id := 1, mud := "dune" }
    let c := (Chronicle.start [info]).runAll
      [.add "first" first, .add "nohooks" nohooks, .add "second" second, .add "third" third]
    let r := (setupSession runner info "").run c
    r.2.ran.map (fun h => (h.env.module, h.index)) =
      [("first", 1), ("first", 2), ("second", 1), ("second", 2), ("third", 1)] ∧
    r.2.world.manager.setupErrors = 2 := by
  decide +kernel

end MudClient.Plugin
