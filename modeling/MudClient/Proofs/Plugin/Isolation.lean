/-
# Modules stay apart

Every operation of the manager, run against the world of
`MudClient.Proofs.Plugin.World`, keeps that world calm (`World.Calm`: the
invariant holds with no module being loaded), provided two things the
manager itself does not check:

* a module's before-reload hooks register nothing: they run after the
  module's registrations were taken back, and what they register is never
  taken back;
* a reload is completed only for a module that is not loaded, as after it
  was prepared: completing one loads the module again without taking
  anything back first.

Each operation has a Hoare triple over the world's runner (`loadModule_spec`,
`prepareReload_spec`, …); the triples of the operations that call others are
proved from the triples of the callees.  A calm world is one where modules
stay apart (`World.Calm.isolated`): a module that is not loaded owns no
subscription, no command and no hook, and a loaded one owns only what was
registered after its latest load began.  So every run of operations that
keeps the two conditions, from an empty manager, ends in such a world
(`modules_stay_isolated`).  Without the second condition a module completed
while loaded keeps the subscription of its earlier load
(`complete_reload_of_loaded_keeps_stale`).
-/
import Mathlib
import MudClient.Proofs.Plugin.World

set_option mvcgen.warning false

namespace MudClient.Plugin

open MudClient.Session Std.Do

/-! ## What the runner does -/

namespace World

@[spec] theorem runner_get {Q : PostCond (Manager Code Hook Hook) (.arg World .pure)} :
    ⦃fun w => Q.1 w.manager w⦄ runner.get ⦃Q⦄ := by
  mvcgen [runner]

@[spec] theorem runner_set {mg : Manager Code Hook Hook} {Q : PostCond Unit (.arg World .pure)} :
    ⦃fun w => Q.1 () { w with manager := mg }⦄ runner.set mg ⦃Q⦄ := by
  mvcgen [runner]

@[spec] theorem runner_load {code : Code} {env : Env} {Q : PostCond (Option Failure) (.arg World .pure)} :
    ⦃fun w => Q.1 ((w.mark env.module).exec code env (code.load env.generation)).1
      ((w.mark env.module).exec code env (code.load env.generation)).2⦄ runner.load code env ⦃Q⦄ := by
  mvcgen [runner]

@[spec] theorem runner_close {code : Code} {Q : PostCond Unit (.arg World .pure)} :
    ⦃fun w => Q.1 () w⦄ runner.close code ⦃Q⦄ := by
  mvcgen [runner]

@[spec] theorem runner_retract {owner : String} {Q : PostCond Nat (.arg World .pure)} :
    ⦃fun w => Q.1 (w.taken owner) (w.retract owner)⦄ runner.retract owner ⦃Q⦄ := by
  mvcgen [runner]

@[spec] theorem runner_setup {h : Hook} {info : Info} {Q : PostCond (Option Failure) (.arg World .pure)} :
    ⦃fun w => Q.1 (w.exec h.code h.env (h.code.setup h.index info)).1
      (w.exec h.code h.env (h.code.setup h.index info)).2⦄ runner.setup h info ⦃Q⦄ := by
  mvcgen [runner]

@[spec] theorem runner_beforeReload {h : Hook} {Q : PostCond (Option Failure) (.arg World .pure)} :
    ⦃fun w => Q.1 (w.exec h.code h.env (h.code.reload h.index)).1
      (w.exec h.code h.env (h.code.reload h.index)).2⦄ runner.beforeReload h ⦃Q⦄ := by
  mvcgen [runner]

@[spec] theorem runner_announce {a : Announcement} {Q : PostCond Unit (.arg World .pure)} :
    ⦃fun w => Q.1 () w⦄ runner.announce a ⦃Q⦄ := by
  mvcgen [runner]

@[spec] theorem runner_publish {e : Event.Message} {Q : PostCond Unit (.arg World .pure)} :
    ⦃fun w => Q.1 () w⦄ runner.publish e ⦃Q⦄ := by
  mvcgen [runner]

@[spec] theorem runner_sessions {Q : PostCond (List Info) (.arg World .pure)} :
    ⦃fun w => Q.1 w.sessions w⦄ runner.sessions ⦃Q⦄ := by
  mvcgen [runner]

end World

/-! ## Walking lists in a state

A property of the state that every step keeps is kept by the walk. -/

section Walks

variable {σ α β : Type} (P : σ → Prop)

theorem filterMapM_keeps {f : α → StateM σ (Option β)} :
    ∀ {xs : List α}, (∀ x ∈ xs, ⦃fun w => ⌜P w⌝⦄ f x ⦃⇓ _ w => ⌜P w⌝⦄) →
      ⦃fun w => ⌜P w⌝⦄ xs.filterMapM f ⦃⇓ _ w => ⌜P w⌝⦄
  | [], _ => by mvcgen
  | x :: xs, hf => by
      rw [List.filterMapM_cons]
      have hx := hf x List.mem_cons_self
      have hrest := filterMapM_keeps fun y hy => hf y (List.mem_cons_of_mem x hy)
      mvcgen [hx, hrest]

theorem flatMapM_keeps {f : α → StateM σ (List β)} :
    ∀ {xs : List α}, (∀ x ∈ xs, ⦃fun w => ⌜P w⌝⦄ f x ⦃⇓ _ w => ⌜P w⌝⦄) →
      ⦃fun w => ⌜P w⌝⦄ xs.flatMapM f ⦃⇓ _ w => ⌜P w⌝⦄
  | [], _ => by mvcgen
  | x :: xs, hf => by
      rw [List.flatMapM_cons]
      have hx := hf x List.mem_cons_self
      have hrest := flatMapM_keeps fun y hy => hf y (List.mem_cons_of_mem x hy)
      mvcgen [hx, hrest]

theorem mapM_keeps {f : α → StateM σ β} :
    ∀ {xs : List α}, (∀ x ∈ xs, ⦃fun w => ⌜P w⌝⦄ f x ⦃⇓ _ w => ⌜P w⌝⦄) →
      ⦃fun w => ⌜P w⌝⦄ xs.mapM f ⦃⇓ _ w => ⌜P w⌝⦄
  | [], _ => by mvcgen
  | x :: xs, hf => by
      rw [List.mapM_cons]
      have hx := hf x List.mem_cons_self
      have hrest := mapM_keeps fun y hy => hf y (List.mem_cons_of_mem x hy)
      mvcgen [hx, hrest]

end Walks

/-! ## Every operation keeps the world calm -/

theorem loadModule_spec (id : String) :
    ⦃fun w => ⌜w.Calm ∧ w.manager.isLoaded id = false⌝⦄ loadModule World.runner id ⦃⇓ _ w => ⌜w.Calm⌝⦄ := by
  mvcgen [loadModule, takeBack, Runner.modify]
  next s h hnone =>
    obtain ⟨⟨l, b, hi⟩, -⟩ := h
    exact ⟨l, b, hi.advance id⟩
  next s h r hr e he le =>
    obtain ⟨⟨l, b, hi⟩, hl⟩ := h
    obtain ⟨l', b', hi'⟩ := hi.load hl hr
    -- the module is taken back, starts a new generation with no hook, and is left failed
    have hi'' := (hi'.retract id).advance id
    exact ⟨_, _, (hi''.settle (.inr rfl) (ownsNothing_retract _ _ id) (fun _ hr => Manager.bare_of_advance hr)
      (fun r => { r with state := .failed, error := some e })
      fun _ => ⟨rfl, by simp, rfl, rfl, rfl, rfl⟩).records rfl⟩
  next s h r hr hf =>
    obtain ⟨⟨l, b, hi⟩, hl⟩ := h
    obtain ⟨l', b', hi'⟩ := hi.load hl hr
    exact ⟨_, _, hi'.finish⟩

theorem load_spec (id : String) :
    ⦃fun w => ⌜w.Calm⌝⦄ load World.runner id ⦃⇓ _ w => ⌜w.Calm⌝⦄ := by
  mvcgen [load, loadModule_spec]
  next s h r hr hnot =>
    exact ⟨h, by simp [Manager.isLoaded, hr, hnot]⟩

theorem add_spec (id : String) (code : Code) (hq : code.Quiet) :
    ⦃fun w => ⌜w.Calm⌝⦄ add World.runner id code ⦃⇓ _ w => ⌜w.Calm⌝⦄ := by
  mvcgen [add, load_spec]
  next s h mg hmg =>
    obtain ⟨l, b, hi⟩ := h
    exact ⟨l, b, hi.register hq hmg⟩

theorem loadAll_spec : ⦃fun w => ⌜w.Calm⌝⦄ loadAll World.runner ⦃⇓ _ w => ⌜w.Calm⌝⦄ := by
  have hkeep := @filterMapM_keeps World String Failure World.Calm
  mvcgen [loadAll, hkeep, loadModule_spec]
  next s h id hid s' h' r hr hnot =>
    exact ⟨h', by simp [Manager.isLoaded, hr, hnot]⟩

/-- Taking a module back: its registrations go, its before-reload hooks run
through an environment that is no longer current, and it is left unloaded. -/
theorem prepareReload_spec (id : String) :
    ⦃fun w => ⌜w.Calm⌝⦄ prepareReload World.runner id
    ⦃⇓ res w => ⌜w.Calm ∧ (res = none → w.manager.isLoaded id = false)⌝⦄ := by
  mvcgen [prepareReload, takeBack, Runner.modify] invariants
  · ⇓ p w => ⌜w.Calm ∧ w.manager.isLoaded id = false ∧ ∀ h ∈ p.1.suffix,
      (∀ r, w.manager.record? h.env.module = some r → r.generation ≠ h.env.generation) ∧ h.code.Quiet⌝
  next s h hnone => exact ⟨h, fun h => by cases h⟩
  next s h r₀ hr r pref cur suff hsplit _ w hw =>
    -- a before-reload hook registers nothing and adds hooks only through a stale environment
    obtain ⟨⟨l, b, hi⟩, hl, hstale⟩ := hw
    obtain ⟨hcur, hquiet⟩ := hstale cur List.mem_cons_self
    obtain ⟨l', b', hi', hs⟩ := hi.exec fun a ha => licensed_of_stale hcur a (hquiet _ a ha)
    refine ⟨⟨l', b', hi'⟩, (Manager.isLoaded_of_standing hs id).trans hl, fun h hh => ⟨fun r' hr' => ?_,
      (hstale h (List.mem_cons_of_mem cur hh)).2⟩⟩
    obtain ⟨r'', hr'', -, hgen, -⟩ := Manager.record?_of_standing hs hr'
    exact hgen ▸ (hstale h (List.mem_cons_of_mem cur hh)).1 r'' hr''
  next s h r₀ hr r =>
    obtain ⟨l, b, hi⟩ := h
    have hr' : r = r₀ := by simp only [r]; exact congrArg (·.getD r₀) hr |>.trans rfl
    -- the module is taken back, starts a new generation with no hook, and is left unloaded
    have hi' := ((hi.retract id).advance id).settle (.inl rfl) (ownsNothing_retract l b id)
      (fun _ hr => Manager.bare_of_advance hr) (fun r => { r with state := .unloaded })
      fun _ => ⟨rfl, by simp, rfl, rfl, rfl, rfl⟩
    refine ⟨⟨_, _, hi'.records rfl⟩, ?_, fun h hh => ?_⟩
    · rw [Manager.isLoaded_update_self (by intro; rfl)]
      cases Manager.record? _ id <;> rfl
    -- its before-reload hooks were added in the generation that just ended
    rw [hr'] at hh
    obtain ⟨henv, hcode⟩ := hi.hooks id r₀ hr h (List.mem_append_right _ hh)
    refine ⟨fun r' hr'' => ?_, hcode ▸ hi.quiet id r₀ hr⟩
    rw [henv] at hr'' ⊢
    obtain ⟨ra, hra, rfl⟩ := Manager.eq_of_record?_update (by intro; rfl) hr''
    rw [if_pos rfl]
    obtain ⟨rb, hrb, rfl⟩ := Manager.eq_of_record?_update (by intro; rfl) hra
    rw [if_pos rfl]
    cases hr.symm.trans hrb
    show r₀.generation + 1 ≠ r₀.generation
    omega
  next s h r₀ hr r _ w hw => exact ⟨hw.1, hw.2.1⟩

theorem resumeSessions_spec (id : String) :
    ⦃fun w => ⌜w.Calm⌝⦄ resumeSessions World.runner id ⦃⇓ _ w => ⌜w.Calm⌝⦄ := by
  mvcgen [resumeSessions] invariants
  · ⇓ _ w => ⌜w.Calm⌝

theorem completeReload_spec (id : String) :
    ⦃fun w => ⌜w.Calm ∧ w.manager.isLoaded id = false⌝⦄ completeReload World.runner id
    ⦃⇓ _ w => ⌜w.Calm⌝⦄ := by
  mvcgen [completeReload, Runner.modify, loadModule_spec, resumeSessions_spec]
  next s h hnone => exact h.1
  next s h r₀ hr res hres w hw =>
    obtain ⟨l, b, hi⟩ := hw
    exact ⟨l, b, (hi.countReload id).records rfl⟩

theorem reload_spec (id : String) :
    ⦃fun w => ⌜w.Calm⌝⦄ reload World.runner id ⦃⇓ _ w => ⌜w.Calm⌝⦄ := by
  mvcgen [reload, prepareReload_spec, completeReload_spec]
  next s h res e he w hw => exact hw.1
  next s h res hres w hw => exact hw

theorem reloadAll_spec : ⦃fun w => ⌜w.Calm⌝⦄ reloadAll World.runner ⦃⇓ _ w => ⌜w.Calm⌝⦄ := by
  have hkeep := @mapM_keeps World String (String × Option Failure) World.Calm
  mvcgen [reloadAll, hkeep, reload_spec]

theorem unload_spec (id : String) :
    ⦃fun w => ⌜w.Calm⌝⦄ unload World.runner id ⦃⇓ _ w => ⌜w.Calm⌝⦄ := by
  mvcgen [unload, Runner.modify, prepareReload_spec]
  next s h res e he w hw => exact hw.1
  next s h res hres w hw =>
    obtain ⟨⟨l, b, hi⟩, hl⟩ := hw
    exact ⟨l, b, hi.forget hl⟩

/-- A setup hook of a module loaded in an earlier world keeps a calm world
calm, so long as no module's standing has changed since. -/
theorem World.Calm.exec_setup {s₀ s : World} (h₀ : s₀.Calm) (hs : s.Calm)
    (hst : s.manager.standing = s₀.manager.standing) {r : Record Code Hook Hook}
    (hr : r ∈ s₀.manager.records) (hl : r.state = .loaded) {hook : Hook} (hh : hook ∈ r.setup) (info : Info) :
    (s.exec hook.code hook.env (hook.code.setup hook.index info)).2.Calm ∧
      (s.exec hook.code hook.env (hook.code.setup hook.index info)).2.manager.standing = s.manager.standing := by
  obtain ⟨l₀, b₀, hi₀⟩ := h₀
  obtain ⟨l, b, hi⟩ := hs
  have hp : ∀ a ∈ (hook.code.setup hook.index info).acts, a.Licensed s.manager none hook.code hook.env :=
    fun a _ => (hi₀.licensed_setup hr hl hh a).of_standing hst
  obtain ⟨l', b', hi', hs'⟩ := hi.exec hp
  exact ⟨⟨l', b', hi'⟩, hs'⟩

/-- Setting up a session runs the setup hooks of loaded modules, each
through its module's current environment; no hook changes which modules are
loaded, in which generation and with which code, so every hook still runs
through a current environment when its turn comes. -/
theorem setupSession_spec (info : Info) (only : String) (S : String → Option (ModuleState × Nat × Code)) :
    ⦃fun w => ⌜w.Calm ∧ w.manager.standing = S⌝⦄ setupSession World.runner info only
    ⦃⇓ _ w => ⌜w.Calm ∧ w.manager.standing = S⌝⦄ := by
  have houter := @flatMapM_keeps World (Record Code Hook Hook) Failure fun w => w.Calm ∧ w.manager.standing = S
  have hinner := @filterMapM_keeps World Hook Failure fun w => w.Calm ∧ w.manager.standing = S
  mvcgen [setupSession, Runner.modify, houter, hinner]
  -- each hook belongs to a record loaded when the session's setup began
  next s₀ h₀ work r hr s₁ h₁ hook hh s h f hf =>
    obtain ⟨hr, hp⟩ := List.mem_filter.1 hr
    simp only [Bool.and_eq_true, beq_iff_eq] at hp
    obtain ⟨⟨l, b, hi⟩, hst⟩ := World.Calm.exec_setup h₀.1 h.1 (h.2.trans h₀.2.symm) hr hp.1.2 hh info
    exact ⟨⟨l, b, hi.records rfl⟩, hst.trans h.2⟩
  next s₀ h₀ work r hr s₁ h₁ hook hh s h hf =>
    obtain ⟨hr, hp⟩ := List.mem_filter.1 hr
    simp only [Bool.and_eq_true, beq_iff_eq] at hp
    obtain ⟨hc, hst⟩ := World.Calm.exec_setup h₀.1 h.1 (h.2.trans h₀.2.symm) hr hp.1.2 hh info
    exact ⟨hc, hst.trans h.2⟩

/-! ## Runs of operations -/

/-- One operation of the manager, as its callers issue them. -/
inductive Op where
  | register (id : String) (code : Code)
  | add (id : String) (code : Code)
  | load (id : String)
  | loadAll
  | prepareReload (id : String)
  | completeReload (id : String)
  | reload (id : String)
  | reloadAll
  | unload (id : String)
  | setupSession (info : Info) (only : String)

namespace Op

def run : Op → StateM World (Option Failure)
  | .register id code => do
    match (← World.runner.get).register id code with
    | .ok mg => World.runner.set mg; pure none
    | .error f => pure (some f)
  | .add id code => Plugin.add World.runner id code
  | .load id => Plugin.load World.runner id
  | .loadAll => Plugin.loadAll World.runner
  | .prepareReload id => Plugin.prepareReload World.runner id
  | .completeReload id => Plugin.completeReload World.runner id
  | .reload id => Plugin.reload World.runner id
  | .reloadAll => Plugin.reloadAll World.runner
  | .unload id => Plugin.unload World.runner id
  | .setupSession info only => Plugin.setupSession World.runner info only

/-- What isolation asks of an operation issued in a world: code whose
before-reload hooks register nothing, and a reload completed only for a
module that is not loaded. -/
def Admissible (w : World) : Op → Prop
  | .register _ code | .add _ code => code.Quiet
  | .completeReload id => w.manager.isLoaded id = false
  | _ => True

end Op

namespace World

def perform (w : World) (op : Op) : World := (op.run.run w).2

def runAll (w : World) (ops : List Op) : World := ops.foldl perform w

def Admits : World → List Op → Prop
  | _, [] => True
  | w, op :: ops => op.Admissible w ∧ (w.perform op).Admits ops

end World

/-- What a triple over a state says of one run from a state that meets its
precondition. -/
theorem run_of_triple {σ α : Type} {prog : StateM σ α} {P : σ → Prop} {Q : α → σ → Prop}
    (hp : ⦃fun w => ⌜P w⌝⦄ prog ⦃⇓ a w => ⌜Q a w⌝⦄) {w : σ} (hw : P w) :
    Q (prog.run w).1 (prog.run w).2 :=
  StateM.of_wp_run_eq rfl (fun p => Q p.1 p.2) fun _ => hp w hw

theorem register_spec (id : String) (code : Code) (hq : code.Quiet) :
    ⦃fun w => ⌜w.Calm⌝⦄ (Op.register id code).run ⦃⇓ _ w => ⌜w.Calm⌝⦄ := by
  mvcgen [Op.run]
  next s h mg hmg =>
    obtain ⟨l, b, hi⟩ := h
    exact ⟨l, b, hi.register hq hmg⟩

theorem World.Calm.perform {w : World} (h : w.Calm) {op : Op} (ha : op.Admissible w) : (w.perform op).Calm := by
  cases op with
  | register id code => exact run_of_triple (register_spec id code ha) h
  | add id code => exact run_of_triple (add_spec id code ha) h
  | load id => exact run_of_triple (load_spec id) h
  | loadAll => exact run_of_triple loadAll_spec h
  | prepareReload id => exact (run_of_triple (prepareReload_spec id) h).1
  | completeReload id => exact run_of_triple (completeReload_spec id) ⟨h, ha⟩
  | reload id => exact run_of_triple (reload_spec id) h
  | reloadAll => exact run_of_triple reloadAll_spec h
  | unload id => exact run_of_triple (unload_spec id) h
  | setupSession info only => exact (run_of_triple (setupSession_spec info only w.manager.standing) ⟨h, rfl⟩).1

/-- A run of admissible operations keeps the world calm.  By induction on
the run, one operation at a time. -/
theorem World.Calm.runAll {w : World} (h : w.Calm) {ops : List Op} (ha : w.Admits ops) : (w.runAll ops).Calm := by
  induction ops generalizing w with
  | nil => exact h
  | cons op ops ih => exact ih (h.perform ha.1) ha.2

/-! ## Isolation -/

/-- Modules are isolated from one another's past: a module that is not
loaded — failed, taken back for a reload, or forgotten — owns no
subscription, no command in any session and no hook, and everything a
loaded module owns was registered after its latest load began. -/
structure World.Isolated (w : World) : Prop where
  idle : ∀ id, w.manager.isLoaded id = false →
    w.bus.countOwned id = 0 ∧ (∀ sid, ∀ c ∈ w.commands.commands sid, c.owner ≠ id) ∧
      ∀ r ∈ w.manager.records, r.id = id → r.setup = [] ∧ r.beforeReload = []
  fresh : ∀ id, w.manager.isLoaded id = true →
    (∀ s ∈ w.bus.registry.byId.values, s.owner = id → (w.marks id).1 < s.serial) ∧
      ∀ sid, ∀ e ∈ w.commands.registrations sid, e.command.owner = id → (w.marks id).2 < e.serial

/-- A calm world is isolated: the bus and the command tables hold exactly
the live subscriptions of the history and the registrations of the book. -/
theorem World.Calm.isolated {w : World} (h : w.Calm) : w.Isolated := by
  obtain ⟨l, b, hi⟩ := h
  constructor
  · intro id hl
    have hact : ¬w.manager.Active none id := by simp [Manager.Active, hl]
    obtain ⟨⟨hsubs, hcmds⟩, hhooks⟩ := hi.idle id hact
    refine ⟨?_, ?_, ?_⟩
    · rw [hi.bus.countOwned_eq id, List.length_eq_zero_iff, List.filter_eq_nil_iff]
      intro s hs
      simpa using hsubs s hs
    · intro sid c hc
      obtain ⟨e, he, rfl⟩ := List.mem_map.1 ((hi.commands.commands_perm hi.book sid).mem_iff.1 hc)
      exact hcmds sid e he
    · rintro r hr rfl
      exact hhooks r (Manager.record?_of_mem hi.ids hr)
  · intro id hl
    obtain ⟨hsubs, hcmds⟩ := hi.fresh id (.inl hl)
    exact ⟨fun s hs => hsubs s (hi.bus.values_perm.mem_iff.1 hs),
      fun sid e he => hcmds sid e ((hi.commands.registrations_perm hi.book sid).mem_iff.1 he)⟩

theorem World.calm_start (sessions : List Info) : ({ sessions } : World).Calm := by
  refine ⟨{}, {}, ?_⟩
  exact {
    bus := Event.follows_fresh rfl
    ledger := Event.Ledger.sound_empty
    commands := Command.refines_empty
    book := Command.Book.sound_empty
    ids := List.nodup_nil
    hooks := by simp [Manager.record?]
    quiet := by simp [Manager.record?]
    marks := fun _ => ⟨Nat.zero_le _, Nat.zero_le _⟩
    idle := fun _ _ => ⟨⟨by simp [Event.Ledger.live], by simp⟩, by simp [Manager.record?]⟩
    fresh := fun _ ha => by simp [Manager.Active, Manager.isLoaded, Manager.record?] at ha
    busy := by simp }

/-- Every run of admissible operations from a fresh manager leaves the
modules isolated. -/
theorem modules_stay_isolated (sessions : List Info) (ops : List Op) (h : ({ sessions } : World).Admits ops) :
    (({ sessions } : World).runAll ops).Isolated :=
  ((World.calm_start sessions).runAll h).isolated

/-- A module that registers on its loads, reloaded and then taken back for
a reload that is completed, and unloaded. -/
theorem modules_stay_isolated_through_reloads :
    let code : Code := { load := fun _ => { acts := [.subscribe ⟨"line_received"⟩ [], .command 1 "go" []] },
                         setup := fun _ _ => {}, reload := fun _ => {} }
    let ops := [Op.add "a" code, .reload "a", .prepareReload "a", .completeReload "a", .unload "a"]
    ({} : World).Admits ops ∧ (({} : World).runAll ops).Isolated := by
  intro code ops
  have hq : code.Quiet := fun _ _ ha => by simp [code] at ha
  have ha : ({} : World).Admits ops := ⟨hq, trivial, trivial, by unfold Op.Admissible; decide, trivial, trivial⟩
  exact ⟨ha, modules_stay_isolated [] ops ha⟩

/-- Completing a reload of a module that is still loaded loads it again
without taking it back: the subscription of its first load survives into
the second, beside the new one. -/
theorem complete_reload_of_loaded_keeps_stale :
    let code : Code := { load := fun _ => { acts := [.subscribe ⟨"line_received"⟩ [], .command 1 "go" []] },
                         setup := fun _ _ => {}, reload := fun _ => {} }
    let w := ({} : World).runAll [.add "a" code, .completeReload "a"]
    w.manager.isLoaded "a" = true ∧ w.bus.countOwned "a" = 2 ∧ ¬w.Isolated := by
  intro code w
  have hl : w.manager.isLoaded "a" = true := by decide
  -- the first load's subscription has a serial no larger than the counter at the second load
  have hstale : ∃ s ∈ w.bus.registry.byId.values, s.owner = "a" ∧ s.serial ≤ (w.marks "a").1 := by decide
  refine ⟨hl, by decide, fun hiso => ?_⟩
  obtain ⟨s, hs, ho, hserial⟩ := hstale
  exact absurd ((hiso.fresh "a" hl).1 s hs ho) (Nat.not_lt.2 hserial)

end MudClient.Plugin
