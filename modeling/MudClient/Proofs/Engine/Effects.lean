/-
# What the engine's work does to the loop

The loop runs one task at a time, and its discipline rests on what the work
it runs may do to three things: the queue, the bus's counts of publications
and retractions, and the manager's modules.  Four relations between a core
and the core some work leaves say how much the work changed, each weaker
than the one before:

* `Core.Calm`: the queue, the stop, the count of markers, the bus and the
  manager are as they were, as after showing output, keeping a history or
  registering a command;
* `Core.Quiet`: tasks are only added at the end of the queue, none once the
  engine stopped; nothing is published and nothing taken back; every module
  stands in the state and generation it stood in;
* `Core.Steady`: as quiet, but publications may be counted;
* `Core.Grows`: only the growth of the queue at its end is left.

A script reaches the engine only through the `mud` table, whose every change
is quiet (`apiClosed_of_quiet`), so every handler's run is quiet
(`react_quiet`), and so is delivering an event to its subscriptions
(`deliver_quiet`).  A publication is then one pass: it counts one
publication and is steady otherwise (`publishNow_pass`).  The manager
changes the engine only through its runner (`Plugin.Runner.Keeps`), every
operation of which grows the queue (`runner_grows`), so that every task
grows it (`runTask_grows`).
-/
import Mathlib
import MudClient.Proofs.Engine.ScriptEffects
import MudClient.Proofs.Plugin.Isolation

open Std.Do

set_option mvcgen.warning false

/-! ## The manager keeps what its runner keeps

The manager holds only bookkeeping: whatever it does to the state of its
caller goes through its runner.  An invariant that every operation of the
runner keeps is kept by every operation of the manager. -/

namespace MudClient.Plugin

open MudClient.Session

variable {σ μ η ρ : Type}

/-- The events a manager publishes: a session resumed for a module loaded
again, and the report of a reload of every module. -/
def Publishes (ev : Event.Message) : Prop :=
  ev.kind = Event.Kind.resumeSession ∨ ev.kind = Event.Kind.modulesReloaded

/-- Every operation of a runner keeps `I`, whatever it is given, and so does
publishing every event a manager publishes. -/
structure Runner.Keeps (run : Runner (StateM σ) μ η ρ) (I : σ → Prop) : Prop where
  get : ⦃fun s => ⌜I s⌝⦄ run.get ⦃⇓ _ s => ⌜I s⌝⦄
  set : ∀ mg, ⦃fun s => ⌜I s⌝⦄ run.set mg ⦃⇓ _ s => ⌜I s⌝⦄
  load : ∀ code env, ⦃fun s => ⌜I s⌝⦄ run.load code env ⦃⇓ _ s => ⌜I s⌝⦄
  close : ∀ code, ⦃fun s => ⌜I s⌝⦄ run.close code ⦃⇓ _ s => ⌜I s⌝⦄
  retract : ∀ owner, ⦃fun s => ⌜I s⌝⦄ run.retract owner ⦃⇓ _ s => ⌜I s⌝⦄
  setup : ∀ hook info, ⦃fun s => ⌜I s⌝⦄ run.setup hook info ⦃⇓ _ s => ⌜I s⌝⦄
  beforeReload : ∀ hook, ⦃fun s => ⌜I s⌝⦄ run.beforeReload hook ⦃⇓ _ s => ⌜I s⌝⦄
  announce : ∀ a, ⦃fun s => ⌜I s⌝⦄ run.announce a ⦃⇓ _ s => ⌜I s⌝⦄
  publish : ∀ ev, Publishes ev → ⦃fun s => ⌜I s⌝⦄ run.publish ev ⦃⇓ _ s => ⌜I s⌝⦄
  sessions : ⦃fun s => ⌜I s⌝⦄ run.sessions ⦃⇓ _ s => ⌜I s⌝⦄

section Keeps

variable {run : Runner (StateM σ) μ η ρ} {I : σ → Prop} (hk : run.Keeps I)
include hk

theorem modify_keeps (f : Manager μ η ρ → Manager μ η ρ) : ⦃fun s => ⌜I s⌝⦄ run.modify f ⦃⇓ _ s => ⌜I s⌝⦄ := by
  have hget := hk.get
  have hset := hk.set
  mvcgen [Runner.modify, hget, hset]

theorem takeBack_keeps (id : String) : ⦃fun s => ⌜I s⌝⦄ takeBack run id ⦃⇓ _ s => ⌜I s⌝⦄ := by
  have hretract := hk.retract
  have hmodify := modify_keeps hk
  mvcgen [takeBack, hretract, hmodify]

theorem loadModule_keeps (id : String) : ⦃fun s => ⌜I s⌝⦄ loadModule run id ⦃⇓ _ s => ⌜I s⌝⦄ := by
  have hget := hk.get
  have hload := hk.load
  have hclose := hk.close
  have hannounce := hk.announce
  have hmodify := modify_keeps hk
  have htake := takeBack_keeps hk
  mvcgen [loadModule, hget, hload, hclose, hannounce, hmodify, htake]

theorem load_keeps (id : String) : ⦃fun s => ⌜I s⌝⦄ load run id ⦃⇓ _ s => ⌜I s⌝⦄ := by
  have hget := hk.get
  have hload := loadModule_keeps hk
  mvcgen [load, hget, hload]

theorem add_keeps (id : String) (module : μ) : ⦃fun s => ⌜I s⌝⦄ add run id module ⦃⇓ _ s => ⌜I s⌝⦄ := by
  have hget := hk.get
  have hset := hk.set
  have hload := load_keeps hk
  mvcgen [add, hget, hset, hload]

theorem loadAll_keeps : ⦃fun s => ⌜I s⌝⦄ loadAll run ⦃⇓ _ s => ⌜I s⌝⦄ := by
  have hget := hk.get
  have hload := loadModule_keeps hk
  have hwalk := @filterMapM_keeps σ String Failure I
  mvcgen [loadAll, hget, hload, hwalk]

theorem prepareReload_keeps (id : String) : ⦃fun s => ⌜I s⌝⦄ prepareReload run id ⦃⇓ _ s => ⌜I s⌝⦄ := by
  have hget := hk.get
  have hbefore := hk.beforeReload
  have hclose := hk.close
  have hmodify := modify_keeps hk
  have htake := takeBack_keeps hk
  mvcgen [prepareReload, hget, htake, hmodify, hbefore, hclose] invariants
  · ⇓ _ s => ⌜I s⌝

theorem resumeSessions_keeps (id : String) : ⦃fun s => ⌜I s⌝⦄ resumeSessions run id ⦃⇓ _ s => ⌜I s⌝⦄ := by
  have hsessions := hk.sessions
  have hpublish := fun info : Info =>
    hk.publish { kind := Event.Kind.resumeSession, session := some info.id, payload := some (.session info id) }
      (.inl rfl)
  mvcgen [resumeSessions, hsessions, hpublish] invariants
  · ⇓ _ s => ⌜I s⌝

theorem completeReload_keeps (id : String) : ⦃fun s => ⌜I s⌝⦄ completeReload run id ⦃⇓ _ s => ⌜I s⌝⦄ := by
  have hget := hk.get
  have hannounce := hk.announce
  have hload := loadModule_keeps hk
  have hmodify := modify_keeps hk
  have hresume := resumeSessions_keeps hk
  mvcgen [completeReload, hget, hload, hmodify, hannounce, hresume]

theorem reload_keeps (id : String) : ⦃fun s => ⌜I s⌝⦄ reload run id ⦃⇓ _ s => ⌜I s⌝⦄ := by
  have hprepare := prepareReload_keeps hk
  have hcomplete := completeReload_keeps hk
  mvcgen [reload, hprepare, hcomplete]

theorem reloadAll_keeps : ⦃fun s => ⌜I s⌝⦄ reloadAll run ⦃⇓ _ s => ⌜I s⌝⦄ := by
  have hget := hk.get
  have hpublish := fun ids failed =>
    hk.publish { kind := Event.Kind.modulesReloaded, payload := some (.reload ids failed) } (.inr rfl)
  have hreload := reload_keeps hk
  have hwalk := @mapM_keeps σ String (String × Option Failure) I
  mvcgen [reloadAll, hget, hreload, hpublish, hwalk]

theorem unload_keeps (id : String) : ⦃fun s => ⌜I s⌝⦄ unload run id ⦃⇓ _ s => ⌜I s⌝⦄ := by
  have hannounce := hk.announce
  have hprepare := prepareReload_keeps hk
  have hmodify := modify_keeps hk
  mvcgen [unload, hprepare, hmodify, hannounce]

theorem setupSession_keeps (info : Info) (only : String) :
    ⦃fun s => ⌜I s⌝⦄ setupSession run info only ⦃⇓ _ s => ⌜I s⌝⦄ := by
  have hget := hk.get
  have hsetup := hk.setup
  have hmodify := modify_keeps hk
  have hflat := @flatMapM_keeps σ (Record μ η ρ) Failure I
  have hwalk := @filterMapM_keeps σ η Failure I
  mvcgen [setupSession, hget, hsetup, hmodify, hflat, hwalk]

end Keeps

end MudClient.Plugin

/-! ## The bus's totals under subscriptions -/

namespace MudClient.Event

variable {η : Type}

namespace Bus

variable {b b' : Bus η}

theorem subscribe_stats {kind : Kind} {owner : String} {filter : Filter} {x : Option η} {hd : Handle}
    (h : b.subscribe kind owner filter x = .ok (hd, b')) : b'.stats = b.stats := by
  unfold subscribe at h
  split at h
  · simp at h
  · split at h
    · simp at h
    · cases x with
      | none => simp at h
      | some g =>
        cases hv : filter.validate with
        | error f => simp [hv] at h
        | ok _ =>
          simp [hv, pure, Except.pure] at h
          rw [← h.2]

theorem unsubscribe_stats {x : Option Handle} (h : b.unsubscribe x = .ok b') : b'.stats = b.stats := by
  unfold unsubscribe at h
  split at h
  · split at h
    · cases h
      rfl
    · cases h
  · cases h

theorem unsubscribeAll_stats : ∀ (b : Bus η) (hs : List Handle), (b.unsubscribeAll hs).stats = b.stats
  | _, [] => rfl
  | b, h :: hs => by
    unfold unsubscribeAll
    split
    · rename_i b₁ hb
      rw [unsubscribeAll_stats b₁ hs, unsubscribe_stats hb]
    · exact unsubscribeAll_stats b hs

theorem noteDelivery_published (b : Bus η) (o : Outcome) : (b.noteDelivery o).stats.published = b.stats.published := by
  cases o <;> rfl

theorem noteDelivery_retracted (b : Bus η) (o : Outcome) : (b.noteDelivery o).stats.retracted = b.stats.retracted := by
  cases o <;> rfl

end Bus

theorem Spec.register_stats (s : Spec) (b : Bus (Guarded η)) (x : Option η) : (s.register b x).2.stats = b.stats := by
  unfold Spec.register
  split
  · rfl
  · -- every subscription made keeps the totals, and so does taking them out again
    suffices ∀ (b₁ : Bus (Guarded η)) done ks, b₁.stats = b.stats → (Spec.register.go s _ b₁ done ks).2.stats = b.stats from
      this b [] s.kinds rfl
    intro b₁ done ks hb
    induction ks generalizing b₁ done with
    | nil => exact hb
    | cons k ks ih =>
      unfold Spec.register.go
      split
      · rename_i hd b₂ hsub
        exact ih b₂ _ ((Bus.subscribe_stats hsub).trans hb)
      · exact (Bus.unsubscribeAll_stats b₁ done).trans hb

end MudClient.Event

namespace MudClient.Engine

open MudClient.Session MudClient.Lua


namespace Core

/-- Two cores the loop cannot tell apart: the same queue, stopped or not
alike, the same count of markers, the same bus, the same manager and the
same record of publications. -/
def Calm (c c' : Core) : Prop :=
  c'.queue = c.queue ∧ c'.stopped = c.stopped ∧ c'.drains = c.drains ∧ c'.bus = c.bus ∧ c'.manager = c.manager ∧
    c'.published = c.published

/-- Work that only queues: tasks go to the end of the queue, none once the
engine stopped; the engine neither stops nor starts again, and no marker is
counted. -/
def Grows (c c' : Core) : Prop :=
  c.queue <+: c'.queue ∧ (c.stopped = true → c'.queue = c.queue) ∧ c'.stopped = c.stopped ∧ c'.drains = c.drains

/-- Work that only queues and takes nothing back: no subscription is
retracted, the manager takes back nothing, and every module stands as it
stood, in the same state and generation. -/
def Steady (c c' : Core) : Prop :=
  c.Grows c' ∧ c'.bus.stats.retracted = c.bus.stats.retracted ∧ c'.manager.retracted = c.manager.retracted ∧
    c'.manager.standing = c.manager.standing

def Quiet (c c' : Core) : Prop :=
  c.Steady c' ∧ c'.bus.stats.published = c.bus.stats.published

variable {c₀ c c' c'' : Core}

@[refl] theorem Calm.refl (c : Core) : c.Calm c := ⟨rfl, rfl, rfl, rfl, rfl, rfl⟩

theorem Calm.trans (h : c.Calm c') (h' : c'.Calm c'') : c.Calm c'' :=
  ⟨h'.1.trans h.1, h'.2.1.trans h.2.1, h'.2.2.1.trans h.2.2.1, h'.2.2.2.1.trans h.2.2.2.1,
    h'.2.2.2.2.1.trans h.2.2.2.2.1, h'.2.2.2.2.2.trans h.2.2.2.2.2⟩

@[refl] theorem Grows.refl (c : Core) : c.Grows c := ⟨List.prefix_refl _, fun _ => rfl, rfl, rfl⟩

theorem Grows.trans (h : c.Grows c') (h' : c'.Grows c'') : c.Grows c'' :=
  ⟨h.1.trans h'.1, fun hs => (h'.2.1 (h.2.2.1 ▸ hs)).trans (h.2.1 hs), h'.2.2.1.trans h.2.2.1,
    h'.2.2.2.trans h.2.2.2⟩

@[refl] theorem Steady.refl (c : Core) : c.Steady c := ⟨Grows.refl c, rfl, rfl, rfl⟩

theorem Steady.trans (h : c.Steady c') (h' : c'.Steady c'') : c.Steady c'' :=
  ⟨h.1.trans h'.1, h'.2.1.trans h.2.1, h'.2.2.1.trans h.2.2.1, h'.2.2.2.trans h.2.2.2⟩

@[refl] theorem Quiet.refl (c : Core) : c.Quiet c := ⟨Steady.refl c, rfl⟩

theorem Quiet.trans (h : c.Quiet c') (h' : c'.Quiet c'') : c.Quiet c'' :=
  ⟨h.1.trans h'.1, h'.2.trans h.2⟩

theorem Steady.grows (h : c.Steady c') : c.Grows c' := h.1

theorem Quiet.steady (h : c.Quiet c') : c.Steady c' := h.1

theorem Calm.quiet (h : c.Calm c') : c.Quiet c' := by
  obtain ⟨hq, hs, hd, hb, hm, -⟩ := h
  exact ⟨⟨⟨hq ▸ List.prefix_refl _, fun _ => hq, hs, hd⟩, by rw [hb], by rw [hm], by rw [hm]⟩, by rw [hb]⟩

theorem quiet_enqueue (c : Core) (t : Task) : c.Quiet (c.enqueue t) := by
  unfold enqueue
  split
  · exact Quiet.refl c
  · rename_i hs
    exact ⟨⟨⟨List.prefix_append _ _, fun h => absurd h hs, rfl, rfl⟩, rfl, rfl, rfl⟩, rfl⟩

theorem quiet_emit (c : Core) (ev : Event.Message) : c.Quiet (c.emit ev) := quiet_enqueue c (.publish ev)

theorem Quiet.calm (h : c₀.Quiet c) (h' : c.Calm c') : c₀.Quiet c' := h.trans h'.quiet

theorem Quiet.enqueue (h : c₀.Quiet c) (t : Task) : c₀.Quiet (c.enqueue t) := h.trans (quiet_enqueue c t)

theorem Quiet.emit (h : c₀.Quiet c) (ev : Event.Message) : c₀.Quiet (c.emit ev) := h.trans (quiet_emit c ev)

/-! ### The changes of a core that leave the loop alone -/

theorem calm_addOutput {id : SessionId} {o : Output} (h : c.addOutput id o = .ok c') : c.Calm c' := by
  unfold addOutput at h
  cases hh : c.host.addOutput id o with
  | error f => simp [hh] at h
  | ok host =>
    simp [hh] at h
    subst h
    exact ⟨rfl, rfl, rfl, rfl, rfl, rfl⟩

theorem quiet_sendLine {id : SessionId} {text : String} (h : c.sendLine id text = .ok c') : c.Quiet c' := by
  unfold sendLine at h
  cases hh : c.host.send id text with
  | error f => simp [hh] at h
  | ok host =>
    simp [hh] at h
    subst h
    refine Quiet.emit ?_ _
    exact Calm.quiet ⟨rfl, rfl, rfl, rfl, rfl, rfl⟩

theorem calm_registerAll {id : SessionId} :
    ∀ {cmds : List (Command.Spec (Option Action))} {c c' : Core}, registerAll c id cmds = .ok c' → c.Calm c'
  | [], c, c', h => by
    simp only [registerAll, List.foldlM_nil, pure, Except.pure, Except.ok.injEq] at h
    exact h ▸ Calm.refl c
  | cmd :: cmds, c, c', h => by
    unfold registerAll at h
    rw [List.foldlM_cons] at h
    cases hr : c.commands.register id cmd with
    | error e => simp [hr, bind, Except.bind] at h
    | ok commands =>
      simp only [hr, bind, Except.bind] at h
      exact Calm.trans ⟨rfl, rfl, rfl, rfl, rfl, rfl⟩ (@calm_registerAll id cmds { c with commands } c' h)

theorem calm_prepareHistory {info : Info} (h : c.prepareHistory info = .ok c') : c.Calm c' := by
  unfold prepareHistory at h
  cases hp : historyKey "prev" info.mud (c.config.historyKeys info.mud).1 with
  | error f => simp [hp, bind, Except.bind] at h
  | ok prev =>
    cases hn : historyKey "next" info.mud (c.config.historyKeys info.mud).2 with
    | error f => simp [hp, hn, bind, Except.bind] at h
    | ok next =>
      simp [hp, hn, bind, Except.bind, pure, Except.pure] at h
      subst h
      exact ⟨rfl, rfl, rfl, rfl, rfl, rfl⟩

theorem calm_setupHistory {owner : String} {info : Info} (h : setupHistory c owner info = .ok c') : c.Calm c' := by
  unfold setupHistory at h
  cases hp : c.prepareHistory info with
  | error f => simp [hp, bind, Except.bind] at h
  | ok c₁ =>
    simp only [hp, bind, Except.bind] at h
    exact (calm_prepareHistory hp).trans (calm_registerAll h)

theorem calm_navigate (c : Core) (id : SessionId) (dir : History.Direction) : c.Calm (c.navigate id dir).2 := by
  unfold navigate
  split
  · exact Calm.refl c
  · dsimp only
    split <;> exact ⟨rfl, rfl, rfl, rfl, rfl, rfl⟩

theorem calm_recordInput (c : Core) (ev : Event.Message) : c.Calm (c.recordInput ev) := by
  unfold recordInput
  split
  · exact ⟨rfl, rfl, rfl, rfl, rfl, rfl⟩
  · exact Calm.refl c

theorem calm_forgetHistory (c : Core) (ev : Event.Message) : c.Calm (c.forgetHistory ev) := by
  unfold forgetHistory
  split
  · exact ⟨rfl, rfl, rfl, rfl, rfl, rfl⟩
  · exact Calm.refl c

theorem calm_scrollByKey (c : Core) (ev : Event.Message) : c.Calm (c.scrollByKey ev).2 := by
  unfold scrollByKey
  split
  · split
    · split
      · exact calm_navigate c _ _
      · split
        · exact calm_navigate c _ _
        · exact Calm.refl c
    · exact Calm.refl c
  · exact Calm.refl c

theorem calm_scrollByShortcut (c : Core) (ev : Event.Message) : c.Calm (c.scrollByShortcut ev).2 := by
  unfold scrollByShortcut
  split
  · split
    · exact calm_navigate c _ _
    · split
      · exact calm_navigate c _ _
      · exact Calm.refl c
  · exact Calm.refl c

theorem quiet_bus (c : Core) {b : Event.Bus (Event.Guarded Reaction)}
    (hp : b.stats.published = c.bus.stats.published) (hr : b.stats.retracted = c.bus.stats.retracted) :
    c.Quiet { c with bus := b } :=
  ⟨⟨Grows.refl c, hr, rfl, rfl⟩, hp⟩

theorem quiet_bus_of_stats (c : Core) {b : Event.Bus (Event.Guarded Reaction)} (hb : b.stats = c.bus.stats) :
    c.Quiet { c with bus := b } :=
  quiet_bus c (by rw [hb]) (by rw [hb])

theorem quiet_addSetup (c : Core) (env : Plugin.Env) (hook : SetupHook) :
    c.Quiet (c.withManager (·.addSetup env hook)) := by
  refine ⟨⟨Grows.refl c, rfl, rfl, Plugin.Manager.standing_update_hooks (fun r => ?_) _⟩, rfl⟩
  split <;> exact ⟨rfl, rfl, rfl, rfl⟩

theorem quiet_addBeforeReload (c : Core) (env : Plugin.Env) (hook : ReloadHook) :
    c.Quiet (c.withManager (·.addBeforeReload env hook)) := by
  refine ⟨⟨Grows.refl c, rfl, rfl, Plugin.Manager.standing_update_hooks (fun r => ?_) _⟩, rfl⟩
  split <;> exact ⟨rfl, rfl, rfl, rfl⟩

end Core

/-! ## What a script can do is quiet -/

/-- Every property of the core that quiet work keeps is one the `mud` table
keeps. -/
theorem apiClosed_of_quiet (P : Core → Prop) (hP : ∀ c c', P c → c.Quiet c' → P c') :
    ApiClosed fun b => P b.core where
  subscribe _ _ _ _ _ _ hsub h := hP _ _ h (Core.quiet_bus_of_stats _ (Event.Bus.subscribe_stats hsub))
  register _ spec _ _ h := ⟨hP _ _ h (Core.quiet_bus_of_stats _ (spec.register_stats _ _)),
    fun _ _ => hP _ _ h (Core.quiet_bus_of_stats _ (spec.register_stats _ _))⟩
  off _ _ _ _ h := ⟨h, fun _ hbus => hP _ _ h (Core.quiet_bus_of_stats _ (Event.Bus.unsubscribe_stats hbus))⟩
  emit b _ _ _ h := hP _ _ h (Core.quiet_emit b.core _)
  send _ _ _ _ hsend h := hP _ _ h (Core.quiet_sendLine hsend)
  output _ _ _ _ hout h := hP _ _ h (Core.calm_addOutput hout).quiet
  command b _ _ _ _ _ _ _ h := hP _ _ h (Core.Calm.quiet (c := b.core) ⟨rfl, rfl, rfl, rfl, rfl, rfl⟩)
  setup b _ h := hP _ _ h (Core.quiet_addSetup b.core _ _)
  beforeReload b _ h := hP _ _ h (Core.quiet_addBeforeReload b.core _ _)

/-! ## Handlers -/

@[spec] theorem core_spec {Q : PostCond Core (.arg Runtime .pure)} : ⦃fun e => Q.1 e.core e⦄ core ⦃Q⦄ := by
  mvcgen [core]

@[spec] theorem modifyCore_spec (f : Core → Core) {Q : PostCond Unit (.arg Runtime .pure)} :
    ⦃fun e => Q.1 () { e with core := f e.core }⦄ modifyCore f ⦃Q⦄ := by
  mvcgen [modifyCore]

/-- `P` is closed under every change a handler's run makes to the core:
those of the `mud` table, calm ones, queueing a reload, changing the bus
without counting a publication or a retraction, and counting a failed
setup. -/
structure HandlerClosed (P : Core → Prop) : Prop where
  api : ApiClosed fun b => P b.core
  calm : ∀ c c', P c → c.Calm c' → P c'
  reload : ∀ c m, P c → P (c.enqueue (.reload m))
  bus : ∀ c (b : Event.Bus (Event.Guarded Reaction)), b.stats.published = c.bus.stats.published →
    b.stats.retracted = c.bus.stats.retracted → P c → P { c with bus := b }
  setupError : ∀ c, P c → P { c with manager := { c.manager with setupErrors := c.manager.setupErrors + 1 } }

section Handlers

variable {P : Core → Prop} (hP : HandlerClosed P)
include hP

theorem callLua_holds (f : LuaFn) (args : Api (Array Value))
    (hargs : ∀ [HostInvariant Binding], ⦃hostHolds⦄ args ⦃hostKept _⦄) :
    ⦃fun e => ⌜P e.core⌝⦄ callLua f args ⦃⇓ _ e => ⌜P e.core⌝⦄ :=
  callLua_keeps _ hP.api f hargs

attribute [local irreducible] Text.trimSpace in
theorem reloadCommand_holds (id : SessionId) (args : String) :
    ⦃fun e => ⌜P e.core⌝⦄ reloadCommand id args ⦃⇓ _ e => ⌜P e.core⌝⦄ := by
  mvcgen [reloadCommand, requestReload, reply]
  all_goals first
    | exact hP.calm _ _ (hP.reload _ _ ‹_›) (Core.calm_addOutput ‹_›)
    | exact hP.reload _ _ ‹_›

theorem runAction_holds (a : Action) (id : SessionId) (args : String) :
    ⦃fun e => ⌜P e.core⌝⦄ runAction a id args ⦃⇓ _ e => ⌜P e.core⌝⦄ := by
  have hreload := reloadCommand_holds hP id args
  have hlua := fun f => callLua_holds hP f (pure #[.num (Float.ofNat id), text args]) (by intro; mvcgen)
  mvcgen [runAction, hreload, hlua, reply]
  all_goals exact hP.calm _ _ ‹_› (Core.calm_addOutput ‹_›)

theorem dispatchLine_holds (ev : Event.Message) :
    ⦃fun e => ⌜P e.core⌝⦄ dispatchLine ev ⦃⇓ _ e => ⌜P e.core⌝⦄ := by
  have haction := runAction_holds hP
  mvcgen [dispatchLine, haction, changed]
  all_goals exact hP.calm _ _ ‹_› (Core.calm_addOutput ‹_›)

attribute [local irreducible] registerAll setupHistory in
theorem runSetup_holds (hook : SetupHook) (info : Info) :
    ⦃fun e => ⌜P e.core⌝⦄ runSetup hook info ⦃⇓ _ e => ⌜P e.core⌝⦄ := by
  have hlua := fun f => callLua_holds hP f (do pure #[← infoTable info]) (by intro; mvcgen)
  mvcgen [runSetup, hlua, settle]
  all_goals first
    | exact hP.calm _ _ ‹_› (Core.calm_registerAll ‹_›)
    | exact hP.calm _ _ ‹_› (Core.calm_setupHistory ‹_›)
    | exact hP.calm _ _ ‹_› (Core.calm_addOutput ‹_›)

theorem setupSession_holds (info : Info) (only : String) :
    ⦃fun e => ⌜P e.core⌝⦄ Plugin.setupSession (runnerWith fun _ => pure ()) info only
      ⦃⇓ _ e => ⌜P e.core⌝⦄ := by
  have hsetup := runSetup_holds hP
  have hflat := @Plugin.flatMapM_keeps Runtime (Plugin.Record Code SetupHook ReloadHook) Failure
    fun e => P e.core
  have hwalk := @Plugin.filterMapM_keeps Runtime SetupHook Failure fun e => P e.core
  mvcgen [Plugin.setupSession, runnerWith, Plugin.Runner.modify, hsetup, hflat, hwalk]
  exact hP.setupError _ ‹_›

theorem react_holds (ev : Event.Message) (g : Event.Guarded Reaction) :
    ⦃fun e => ⌜P e.core⌝⦄ react ev g ⦃⇓ _ e => ⌜P e.core⌝⦄ := by
  have hsetup := setupSession_holds hP
  have hdispatch := dispatchLine_holds hP ev
  have hlua := fun f => callLua_holds hP f (do pure #[← eventTable ev]) (by intro; mvcgen)
  mvcgen [react, hsetup, hdispatch, hlua, outcomeOf, Functor.discard, map_const,
    Function.comp_apply]
  all_goals first
    | exact hP.calm _ _ ‹_› (by exact ⟨rfl, rfl, rfl, rfl, rfl, rfl⟩)
    | exact hP.calm _ _ ‹_› (Core.calm_recordInput _ _)
    | exact hP.calm _ _ ‹_› (Core.calm_scrollByKey _ _)
    | exact hP.calm _ _ ‹_› (Core.calm_scrollByShortcut _ _)
    | exact hP.calm _ _ ‹_› (Core.calm_forgetHistory _ _)

abbrev getBus : Run (Event.Bus (Event.Guarded Reaction)) := do pure (← core).bus
abbrev setBus (b : Event.Bus (Event.Guarded Reaction)) : Run Unit := modifyCore fun c => { c with bus := b }

theorem deliver_holds (ev : Event.Message) (cancelled : Bool) :
    ∀ subs : List (Event.Subscription (Event.Guarded Reaction)),
      ⦃fun e => ⌜P e.core⌝⦄
        Event.Bus.deliver getBus setBus (fun sub _ => react ev sub.handler) ev (pure cancelled) subs
      ⦃⇓ _ e => ⌜P e.core⌝⦄
  | [] => by mvcgen [Event.Bus.deliver]
  | sub :: rest => by
    have hrest := deliver_holds ev cancelled rest
    have hreact := react_holds hP ev sub.handler
    mvcgen [Event.Bus.deliver, hrest, hreact]
    all_goals first
      | exact hP.bus _ _ rfl rfl ‹_›
      | exact hP.bus _ _ (Event.Bus.noteDelivery_published _ _) (Event.Bus.noteDelivery_retracted _ _) ‹_›

end Handlers

/-- Quiet work is closed under what handlers do: a script reaches the
engine only through the `mud` table. -/
theorem quiet_closed (c₀ : Core) : HandlerClosed (c₀.Quiet ·) where
  api := apiClosed_of_quiet _ fun _ _ h h' => h.trans h'
  calm _ _ h h' := h.calm h'
  reload _ _ h := h.enqueue _
  bus c _ hp hr h := h.trans (Core.quiet_bus c hp hr)
  setupError c h := h.trans ⟨⟨Core.Grows.refl c, rfl, rfl, rfl⟩, rfl⟩

/-- A publication is one pass: it counts one publication when the kind is
known, and everything else it does is steady. -/
theorem publishNow_pass (ev : Event.Message) (c : Core) :
    ⦃fun e => ⌜e.core = c⌝⦄ publishNow ev
    ⦃⇓ _ e => ⌜c.Steady e.core ∧ e.core.bus.stats.published = c.bus.stats.published + if ev.kind.valid then 1 else 0⌝⦄ := by
  -- the core once the publication is recorded and counted, from which delivering is quiet
  let c₁ : Core := { c with published := c.published ++ [ev],
                            bus := { c.bus with stats := { c.bus.stats with published := c.bus.stats.published + 1 } } }
  have hdeliver := deliver_holds (quiet_closed c₁) ev false
  mvcgen [publishNow, Event.Bus.publish, hdeliver]
  case vc2 =>
    rename_i e he _
    subst he
    exact Core.Quiet.refl _
  case vc3 =>
    rename_i hv _ _ _ _ e
    intro hq
    -- recording and counting the publication is the one change that is not quiet
    have hc : c.Steady c₁ := ⟨Core.Grows.refl c, rfl, rfl, rfl⟩
    exact ⟨hc.trans hq.steady, by rw [hq.2, if_pos hv]⟩
  case vc4 =>
    rename_i hv _ e he
    subst he
    rw [if_neg hv]
    exact ⟨Core.Steady.refl _, rfl⟩
  all_goals simp_all

/-! ## Tasks -/

/-- `I` is closed under every change a task's run makes to the core but
publishing an announced line: a handler's changes, changes that keep the
queue, the stop, the count of markers and the record of publications, and
publishing an event that announces no line. -/
structure TaskClosed (I : Core → Prop) : Prop where
  handler : HandlerClosed I
  flow : ∀ c c', I c → c'.queue = c.queue → c'.stopped = c.stopped → c'.drains = c.drains →
    c'.published = c.published → I c'
  record : ∀ c ev, ev.kind ≠ Event.Kind.inputLineSent → I c → I { c with published := c.published ++ [ev] }

theorem calm_noteAll (ids : List SessionId) (note : Output) (c : Core) :
    c.Calm (ids.foldl (fun c id =>
      match c.addOutput id note with
      | .ok c => c
      | .error _ => c) c) := by
  induction ids generalizing c with
  | nil => exact Core.Calm.refl c
  | cons id ids ih =>
    rw [List.foldl_cons]
    split
    · rename_i c' h
      exact (Core.calm_addOutput h).trans (ih c')
    · exact ih c

section Tasks

variable {I : Core → Prop} (hI : TaskClosed I)
include hI

theorem TaskClosed.frame {c c' : Core} (h : I c) (hq : c'.queue = c.queue) (hs : c'.stopped = c.stopped)
    (hd : c'.drains = c.drains) (hp : c'.published = c.published) : I c' :=
  hI.flow c c' h hq hs hd hp

/-- Publishing an event that announces no line keeps `I`: recording and
counting it keeps it, and so does delivering it. -/
theorem publishNow_holds (ev : Event.Message) (hev : ev.kind ≠ Event.Kind.inputLineSent) :
    ⦃fun e => ⌜I e.core⌝⦄ publishNow ev ⦃⇓ _ e => ⌜I e.core⌝⦄ := by
  have hdeliver := deliver_holds hI.handler ev false
  mvcgen [publishNow, Event.Bus.publish, hdeliver]
  all_goals first
    | (have h := ‹I _›; exact hI.frame (hI.record _ _ hev h) rfl rfl rfl rfl)
    | (apply hI.frame <;> first | assumption | rfl)

theorem runner_holds : (runner : Plugin.Runner Run Code SetupHook ReloadHook).Keeps fun e => I e.core where
  get := by mvcgen [runner, runnerWith]
  set _ := by
    mvcgen [runner, runnerWith]
    (apply hI.frame <;> first | assumption | rfl)
  load code env := by
    have hscript := loadScript_keeps _ hI.handler.api fun _ _ h => hI.frame h rfl rfl rfl rfl
    mvcgen [runner, runnerWith, loadCode, hscript] invariants
    · ⇓ _ e => ⌜I e.core⌝
    all_goals (apply hI.frame <;> first | assumption | rfl)
  close code := by
    cases code <;> mvcgen [runner, runnerWith, closeCode, dropSlot]
  retract owner := by
    mvcgen [runner, runnerWith, retractOwner]
    (apply hI.frame <;> first | assumption | rfl)
  setup hook info := by
    have hsetup := runSetup_holds hI.handler hook info
    mvcgen [runner, runnerWith, hsetup]
  beforeReload hook := by
    have hlua := fun f => callLua_holds hI.handler f (pure #[]) (by intro; mvcgen)
    cases hook
    mvcgen [runner, runnerWith, runReloadHook, hlua]
  announce a := by
    mvcgen [runner, runnerWith, announce]
    all_goals first
      | exact hI.handler.calm _ _ ‹_› ((calm_noteAll _ _ _).trans (by exact ⟨rfl, rfl, rfl, rfl, rfl, rfl⟩))
      | (apply hI.frame <;> first | assumption | rfl)
  publish ev hev := by
    have hline : ev.kind ≠ Event.Kind.inputLineSent := by rcases hev with h | h <;> rw [h] <;> decide
    have hpublish := publishNow_holds hI ev hline
    mvcgen [runner, runnerWith, hpublish, Functor.discard, map_const, Function.comp_apply]
  sessions := by mvcgen [runner, runnerWith]

theorem discover_holds : ⦃fun e => ⌜I e.core⌝⦄ discover ⦃⇓ _ e => ⌜I e.core⌝⦄ := by
  mvcgen [discover] invariants
  · ⇓ _ e => ⌜I e.core⌝
  all_goals (apply hI.frame <;> first | assumption | rfl)

theorem unloadScript_holds (id : String) : ⦃fun e => ⌜I e.core⌝⦄ unloadScript id ⦃⇓ _ e => ⌜I e.core⌝⦄ := by
  have hunload := Plugin.unload_keeps (runner_holds hI) id
  mvcgen [unloadScript, hunload, Functor.discard, map_const, Function.comp_apply]
  (apply hI.frame <;> first | assumption | rfl)

theorem refreshScript_holds (id : String) : ⦃fun e => ⌜I e.core⌝⦄ refreshScript id ⦃⇓ _ e => ⌜I e.core⌝⦄ := by
  have hunload := unloadScript_holds hI id
  mvcgen [refreshScript, hunload]
  all_goals (apply hI.frame <;> first | assumption | rfl)

theorem announceReload_holds (modules failed : List String) :
    ⦃fun e => ⌜I e.core⌝⦄ announceReload modules failed ⦃⇓ _ e => ⌜I e.core⌝⦄ := by
  have hkind : Event.Kind.modulesReloaded ≠ Event.Kind.inputLineSent := by decide
  have hpublish := publishNow_holds hI { kind := .modulesReloaded, payload := some (.reload modules failed) } hkind
  mvcgen [announceReload, hpublish, Functor.discard, map_const, Function.comp_apply]

theorem loadNew_holds (id : String) : ⦃fun e => ⌜I e.core⌝⦄ loadNew id ⦃⇓ _ e => ⌜I e.core⌝⦄ := by
  have hdiscover := discover_holds hI
  have hreload := Plugin.reload_keeps (runner_holds hI)
  have hannounce := announceReload_holds hI
  mvcgen [loadNew, hdiscover, hreload, hannounce] invariants
  · ⇓ _ e => ⌜I e.core⌝

theorem reloadModules_holds (id : String) : ⦃fun e => ⌜I e.core⌝⦄ reloadModules id ⦃⇓ _ e => ⌜I e.core⌝⦄ := by
  have hdiscover := discover_holds hI
  have hrefresh := refreshScript_holds hI
  have hall := Plugin.reloadAll_keeps (runner_holds hI)
  have hreload := Plugin.reload_keeps (runner_holds hI)
  have hnew := loadNew_holds hI id
  have hannounce := announceReload_holds hI
  mvcgen [reloadModules, hdiscover, hrefresh, hall, hreload, hnew, hannounce, Functor.discard, map_const,
    Function.comp_apply] invariants
  · ⇓ _ e => ⌜I e.core⌝
  all_goals (apply hI.frame <;> first | assumption | rfl)

theorem applyConfigNow_holds (cfg : Config.Settings) :
    ⦃fun e => ⌜I e.core⌝⦄ applyConfigNow cfg ⦃⇓ _ e => ⌜I e.core⌝⦄ := by
  have hconfig := publishNow_holds hI { kind := .configReloaded } (by decide)
  have hkind : Event.Kind.resumeSession ≠ Event.Kind.inputLineSent := by decide
  have hresume := fun info : Info => publishNow_holds hI
    { kind := .resumeSession, session := some info.id, payload := some (.session info "history") } hkind
  mvcgen [applyConfigNow, hconfig, hresume, Functor.discard, map_const, Function.comp_apply] invariants
  · ⇓ _ e => ⌜I e.core⌝
  all_goals (apply hI.frame <;> first | assumption | rfl)

end Tasks

section Grows

variable (c₀ : Core)

theorem grows_closed : TaskClosed (c₀.Grows ·) where
  handler :=
    { api := apiClosed_of_quiet _ fun _ _ h h' => h.trans h'.steady.grows
      calm _ _ h h' := h.trans h'.quiet.steady.grows
      reload c _ h := h.trans (Core.quiet_enqueue c _).steady.grows
      bus c _ _ _ h := h.trans (Core.Grows.refl c)
      setupError c h := h.trans (Core.Grows.refl c) }
  flow _ _ h hq hs hd _ := by
    obtain ⟨hp, hstop, hs', hd'⟩ := h
    exact ⟨hq ▸ hp, fun h₀ => hq ▸ hstop h₀, hs.trans hs', hd.trans hd'⟩
  record _ _ _ h := h

theorem publishNow_grows (ev : Event.Message) :
    ⦃fun e => ⌜c₀.Grows e.core⌝⦄ publishNow ev ⦃⇓ _ e => ⌜c₀.Grows e.core⌝⦄ := by
  intro e he
  show c₀.Grows ((publishNow ev).run e).2.core
  exact he.trans (Plugin.run_of_triple (publishNow_pass ev e.core) rfl).1.grows

theorem runner_grows : (runner : Plugin.Runner Run Code SetupHook ReloadHook).Keeps fun e => c₀.Grows e.core :=
  runner_holds (grows_closed c₀)

theorem submitLine_grows (id : SessionId) (line : InputLine) :
    ⦃fun e => ⌜c₀.Grows e.core⌝⦄ submitLine id line ⦃⇓ _ e => ⌜c₀.Grows e.core⌝⦄ := by
  have hpublish := publishNow_grows c₀
  mvcgen [submitLine, hpublish, Functor.discard, map_const, Function.comp_apply]
  all_goals split <;> exact ‹c₀.Grows _›

theorem calm_navigate_answer (c : Core) (id : SessionId) (dir : History.Direction) :
    c.Calm (let (r, c) := c.navigate id dir
            { c with answer := some r }) := by
  have h := Core.calm_navigate c id dir
  revert h
  cases c.navigate id dir
  exact fun h => h

theorem runTask_grows (t : Task) : ⦃fun e => ⌜c₀.Grows e.core⌝⦄ runTask t ⦃⇓ _ e => ⌜c₀.Grows e.core⌝⦄ := by
  have hpublish := publishNow_grows c₀
  have hsubmit := submitLine_grows c₀
  have hreload := reloadModules_holds (grows_closed c₀)
  have hconfig := applyConfigNow_holds (grows_closed c₀)
  cases t <;> mvcgen [runTask, hpublish, hsubmit, hreload, hconfig, Functor.discard, map_const, Function.comp_apply]
  exact ‹c₀.Grows _›.trans (calm_navigate_answer _ _ _).quiet.steady.grows

end Grows

end MudClient.Engine
