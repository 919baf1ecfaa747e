/-
# A world of modules

The manager runs here against a world that holds everything its runner
touches: the manager, an event bus, a command registry and the live
sessions.  A module's code is data: a plan for the load of each generation,
for each setup hook and session, and for each before-reload hook.  A plan
is a list of acts — subscribing, unsubscribing, registering a command,
adding a setup or before-reload hook through the environment at hand —
and then how the run ends.  A hook remembers the environment it was added
through and the code that added it, and acts through that environment when
it runs, so a hook of an earlier load acts through an environment that is
no longer current.

The world also notes, for every module, where the two serial counters stood
when its latest load began (`marks`): whatever was registered since has a
larger serial.

## What is proved

`World.Inv w l b busy` says what holds of a world `w` whose bus follows the
history `l` and whose command tables stand for the book `b`, between the
manager's operations (`busy = none`) or while the module `busy` is being
loaded: a module that is neither loaded nor being loaded owns no
subscription, no command and no hook, and one that is owns only what was
registered since its mark.  Every licensed act keeps it (`Inv.exec`): a
registration only for a module that is loaded or being loaded, a hook only
through a stale environment or by a live module's own code.  So do the
steps the manager takes around the acts: a new generation, the start and
the end of a load, taking a module back, registering and forgetting one.
-/
import MudClient.Plugin.Manager
import MudClient.Proofs.Event.Ledger
import MudClient.Proofs.Command.Table

namespace MudClient.Plugin

open MudClient.Session

/-! ## Modules as data -/

/-- One thing a module's code does through an environment. -/
inductive Act where
  | subscribe (kind : Event.Kind) (filter : Event.Filter)
  | unsubscribe (handle : Event.Handle)
  | command (session : SessionId) (name : String) (aliases : List String)
  | onSetup (hook : Nat)
  | beforeReload (hook : Nat)

def Act.registers : Act → Bool
  | .subscribe _ _ | .command _ _ _ => true
  | _ => false

/-- What a run of a module's code does, and how it ends. -/
structure Plan where
  acts : List Act := []
  failure : Option Failure := none

/-- A module's code: the plan of its load in each generation, of its setup
hook with each index in each session, and of its before-reload hook with
each index. -/
structure Code where
  load : Nat → Plan
  setup : Nat → Info → Plan
  reload : Nat → Plan

def Code.Quiet (c : Code) : Prop := ∀ n, ∀ a ∈ (c.reload n).acts, a.registers = false

/-- A hook: the environment it was added through, the code that added it,
and its index. -/
structure Hook where
  env : Env
  code : Code
  index : Nat

/-- Everything the manager's runner touches, and where the serial counters
stood when each module's latest load began. -/
structure World where
  manager : Manager Code Hook Hook := {}
  bus : Event.Bus Unit := {}
  commands : Command.Registry Unit := {}
  sessions : List Info := []
  marks : String → Nat × Nat := fun _ => (0, 0)

namespace World

def act (code : Code) (env : Env) (w : World) : Act → World
  | .subscribe kind filter => { w with bus := w.bus.perform (.subscribe kind env.module filter (some ())) }
  | .unsubscribe h => { w with bus := w.bus.perform (.unsubscribe (some h)) }
  | .command session name aliases =>
    { w with commands := w.commands.perform (.register session ⟨name, aliases, "", env.module, some ()⟩) }
  | .onSetup n => { w with manager := w.manager.addSetup env ⟨env, code, n⟩ }
  | .beforeReload n => { w with manager := w.manager.addBeforeReload env ⟨env, code, n⟩ }

def exec (code : Code) (env : Env) (p : Plan) (w : World) : Option Failure × World :=
  (p.failure, p.acts.foldl (act code env) w)

def mark (w : World) (id : String) : World :=
  { w with marks := Function.update w.marks id (w.bus.issued, w.commands.issued) }

def retract (w : World) (owner : String) : World :=
  { w with bus := w.bus.perform (.retract owner), commands := w.commands.perform (.retract owner) }

def taken (w : World) (owner : String) : Nat := (w.bus.retract owner).1 + (w.commands.retract owner).1

def runner : Runner (StateM World) Code Hook Hook where
  get := do pure (← get).manager
  set mg := modify fun w => { w with manager := mg }
  load code env := modifyGet fun w => (w.mark env.module).exec code env (code.load env.generation)
  close _ := pure ()
  retract owner := modifyGet fun w => (w.taken owner, w.retract owner)
  setup h info := modifyGet fun w => w.exec h.code h.env (h.code.setup h.index info)
  beforeReload h := modifyGet fun w => w.exec h.code h.env (h.code.reload h.index)
  announce _ := pure ()
  publish _ := pure ()
  sessions := do pure (← get).sessions

end World

/-! ## Loaded modules -/

namespace Manager

variable {μ σ ρ : Type} {mg mg' : Manager μ σ ρ}

def isLoaded (mg : Manager μ σ ρ) (id : String) : Bool := (mg.record? id).any (·.state == .loaded)

def Active (mg : Manager μ σ ρ) (busy : Option String) (id : String) : Prop :=
  mg.isLoaded id = true ∨ busy = some id

theorem active_congr {id : String} (h : mg'.isLoaded id = mg.isLoaded id) (busy : Option String) :
    mg'.Active busy id ↔ mg.Active busy id := by
  unfold Active
  rw [h]

def standing (mg : Manager μ σ ρ) (id : String) : Option (ModuleState × Nat × μ) :=
  (mg.record? id).map fun r => (r.state, r.generation, r.module)

theorem isLoaded_of_standing (h : mg'.standing = mg.standing) (id : String) :
    mg'.isLoaded id = mg.isLoaded id := by
  have hid := congrFun h id
  unfold standing at hid
  unfold isLoaded
  cases h' : mg'.record? id <;> cases h'' : mg.record? id <;> simp_all

/-- Two managers that agree on every module's standing find records of the
same generation and code. -/
theorem record?_of_standing (h : mg'.standing = mg.standing) {id : String} {r' : Record μ σ ρ}
    (hr : mg'.record? id = some r') : ∃ r, mg.record? id = some r ∧ r.state = r'.state ∧
      r.generation = r'.generation ∧ r.module = r'.module := by
  have hid := congrFun h id
  unfold standing at hid
  rw [hr] at hid
  cases h'' : mg.record? id with
  | none => simp [h''] at hid
  | some r =>
      simp only [h'', Option.map_some, Option.some.injEq, Prod.mk.injEq] at hid
      exact ⟨r, rfl, hid.1.symm, hid.2.1.symm, hid.2.2.symm⟩

/-- What an id finds after one module's record was changed: its old record,
changed when it is that module's. -/
theorem eq_of_record?_update {f : Record μ σ ρ → Record μ σ ρ} (hf : ∀ r, (f r).id = r.id)
    {id id' : String} {r' : Record μ σ ρ} (h : (mg.update id f).record? id' = some r') :
    ∃ r, mg.record? id' = some r ∧ r' = if id' = id then f r else r := by
  rw [record?_update hf] at h
  split at h
  · rename_i hid
    subst hid
    obtain ⟨r, hr, rfl⟩ := Option.map_eq_some_iff.1 h
    exact ⟨r, hr, (if_pos rfl).symm⟩
  · rename_i hid
    exact ⟨r', h, (if_neg hid).symm⟩

theorem isSome_record?_update {f : Record μ σ ρ → Record μ σ ρ} (hf : ∀ r, (f r).id = r.id)
    (id id' : String) : ((mg.update id f).record? id').isSome = (mg.record? id').isSome := by
  rw [record?_update hf]
  split
  · rename_i h
    subst h
    exact Option.isSome_map
  · rfl

theorem isLoaded_update_of_ne {f : Record μ σ ρ → Record μ σ ρ} (hf : ∀ r, (f r).id = r.id)
    {id id' : String} (h : id' ≠ id) : (mg.update id f).isLoaded id' = mg.isLoaded id' := by
  unfold isLoaded
  rw [record?_update hf, if_neg h]

theorem isLoaded_update_self {f : Record μ σ ρ → Record μ σ ρ} (hf : ∀ r, (f r).id = r.id) (id : String) :
    (mg.update id f).isLoaded id = (mg.record? id).any fun r => (f r).state == .loaded := by
  unfold isLoaded
  rw [record?_update hf, if_pos rfl]
  cases mg.record? id <;> rfl

theorem isLoaded_update {f : Record μ σ ρ → Record μ σ ρ} (hf : ∀ r, (f r).id = r.id ∧ (f r).state = r.state)
    (id id' : String) : (mg.update id f).isLoaded id' = mg.isLoaded id' := by
  by_cases h : id' = id
  · subst h
    rw [isLoaded_update_self (fun r => (hf r).1)]
    unfold isLoaded
    cases mg.record? id' <;> simp [(hf _).2]
  · exact isLoaded_update_of_ne (fun r => (hf r).1) h

theorem standing_update_hooks {f : Record μ σ ρ → Record μ σ ρ}
    (hf : ∀ r, (f r).id = r.id ∧ (f r).state = r.state ∧ (f r).generation = r.generation ∧ (f r).module = r.module)
    (id : String) : (mg.update id f).standing = mg.standing := by
  funext id'
  unfold standing
  rw [record?_update (fun r => (hf r).1)]
  split
  · rename_i h
    subst h
    rw [Option.map_map]
    exact Option.map_congr fun r _ => by simp [hf]
  · rfl

/-- A fact about every record that a change of one record keeps, when the
changed record has it. -/
theorem forall_record?_update (P : String → Record μ σ ρ → Prop) {f : Record μ σ ρ → Record μ σ ρ}
    (hf : ∀ r, (f r).id = r.id) {id : String} (h : ∀ id r, mg.record? id = some r → P id r)
    (hk : ∀ r, mg.record? id = some r → P id (f r)) :
    ∀ id' r', (mg.update id f).record? id' = some r' → P id' r' := by
  intro id' r' hr'
  obtain ⟨r, hr, rfl⟩ := eq_of_record?_update hf hr'
  by_cases hid : id' = id
  · subst hid
    rw [if_pos rfl]
    exact hk r hr
  · rw [if_neg hid]
    exact h id' r hr

theorem isLoaded_advance (mg : Manager μ σ ρ) (id id' : String) :
    (mg.advance id).isLoaded id' = mg.isLoaded id' := by
  unfold advance
  exact isLoaded_update (by intro; exact ⟨rfl, rfl⟩) id id'

theorem bare_of_advance {id : String} {r : Record μ σ ρ} (h : (mg.advance id).record? id = some r) :
    r.setup = [] ∧ r.beforeReload = [] := by
  rw [advance, record?_update (by intro; rfl), if_pos rfl] at h
  obtain ⟨r₀, -, rfl⟩ := Option.map_eq_some_iff.1 h
  exact ⟨rfl, rfl⟩

theorem not_mem_ids_of_record? {id : String} (h : mg.record? id = none) : id ∉ mg.ids := by
  intro hid
  obtain ⟨r, hr, rfl⟩ := List.mem_map.1 hid
  exact absurd (List.find?_eq_none.1 h r hr) (by simp)

end Manager

/-! ## Owners in a history -/

section Owners

variable {η α : Type} {l : Event.Ledger η} {b : Command.Book α} {id : String} {m : Nat × Nat}

def OwnsNothing (l : Event.Ledger η) (b : Command.Book α) (id : String) : Prop :=
  (∀ s ∈ l.live, s.owner ≠ id) ∧ ∀ sid, ∀ e ∈ b.sets sid, e.command.owner ≠ id

/-- Every live subscription and every command of an owner came after the
counters stood at `m`. -/
def OwnsSince (l : Event.Ledger η) (b : Command.Book α) (id : String) (m : Nat × Nat) : Prop :=
  (∀ s ∈ l.live, s.owner = id → m.1 < s.serial) ∧
    ∀ sid, ∀ e ∈ b.sets sid, e.command.owner = id → m.2 < e.serial

theorem OwnsNothing.since (h : OwnsNothing l b id) (m : Nat × Nat) : OwnsSince l b id m :=
  ⟨fun s hs ho => (h.1 s hs ho).elim, fun sid e he ho => (h.2 sid e he ho).elim⟩

theorem ownsNothing_retract (l : Event.Ledger η) (b : Command.Book α) (id : String) :
    OwnsNothing (l.step (.retract id)) (b.step (.retract id)) id :=
  ⟨fun _ hs => (Event.Ledger.mem_live_retract hs).2, fun _ _ he => (Command.Book.mem_step_retract he).2⟩

theorem OwnsNothing.retract (h : OwnsNothing l b id) (owner : String) :
    OwnsNothing (l.step (.retract owner)) (b.step (.retract owner)) id :=
  ⟨fun s hs => h.1 s (Event.Ledger.mem_live_retract hs).1,
    fun sid e he => h.2 sid e (Command.Book.mem_step_retract he).1⟩

theorem OwnsSince.retract (h : OwnsSince l b id m) (owner : String) :
    OwnsSince (l.step (.retract owner)) (b.step (.retract owner)) id m :=
  ⟨fun s hs => h.1 s (Event.Ledger.mem_live_retract hs).1,
    fun sid e he => h.2 sid e (Command.Book.mem_step_retract he).1⟩

theorem OwnsNothing.unsubscribe (h : OwnsNothing l b id) (handle : Option Event.Handle) :
    OwnsNothing (l.step (.unsubscribe handle)) b id :=
  ⟨fun s hs => h.1 s (Event.Ledger.mem_live_unsubscribe hs), h.2⟩

theorem OwnsSince.unsubscribe (h : OwnsSince l b id m) (handle : Option Event.Handle) :
    OwnsSince (l.step (.unsubscribe handle)) b id m :=
  ⟨fun s hs => h.1 s (Event.Ledger.mem_live_unsubscribe hs), h.2⟩

theorem OwnsNothing.subscribe (h : OwnsNothing l b id) {owner : String} (ho : owner ≠ id)
    (kind : Event.Kind) (filter : Event.Filter) (x : Option η) :
    OwnsNothing (l.step (.subscribe kind owner filter x)) b id := by
  refine ⟨fun s hs => ?_, h.2⟩
  rcases Event.Ledger.mem_live_subscribe hs with hs | ⟨hown, -⟩
  · exact h.1 s hs
  · exact hown ▸ ho

theorem OwnsSince.subscribe (h : OwnsSince l b id m) (hm : m.1 ≤ l.issued) (kind : Event.Kind)
    (owner : String) (filter : Event.Filter) (x : Option η) :
    OwnsSince (l.step (.subscribe kind owner filter x)) b id m := by
  refine ⟨fun s hs ho => ?_, h.2⟩
  rcases Event.Ledger.mem_live_subscribe hs with hs | ⟨-, hserial⟩
  · exact h.1 s hs ho
  · omega

theorem OwnsNothing.register (h : OwnsNothing l b id) {c : Command.Spec (Option α)}
    (ho : c.owner ≠ id) (sid : SessionId) : OwnsNothing l (b.step (.register sid c)) id := by
  refine ⟨h.1, fun sid' e he => ?_⟩
  rcases Command.Book.mem_step_register he with he | ⟨hown, -⟩
  · exact h.2 sid' e he
  · exact hown ▸ ho

theorem OwnsSince.register (h : OwnsSince l b id m) (hm : m.2 ≤ b.issued) (sid : SessionId)
    (c : Command.Spec (Option α)) : OwnsSince l (b.step (.register sid c)) id m := by
  refine ⟨h.1, fun sid' e he ho => ?_⟩
  rcases Command.Book.mem_step_register he with he | ⟨-, hserial⟩
  · exact h.2 sid' e he ho
  · omega

end Owners

/-! ## Licensed acts -/

/-- What an act of code `code` through `env` may do beside a manager `mg`:
register only for a module loaded or being loaded, and add a hook only
through a stale environment, or through a current one of such a module
running its own code. -/
def Act.Licensed (mg : Manager Code Hook Hook) (busy : Option String) (code : Code) (env : Env) : Act → Prop
  | .subscribe _ _ | .command _ _ _ => mg.Active busy env.module
  | .unsubscribe _ => True
  | .onSetup _ | .beforeReload _ => ∀ r, mg.record? env.module = some r → r.generation = env.generation →
      mg.Active busy env.module ∧ r.module = code

theorem Act.Licensed.of_standing {mg mg' : Manager Code Hook Hook} (h : mg'.standing = mg.standing)
    {busy : Option String} {code : Code} {env : Env} :
    ∀ {a : Act}, a.Licensed mg busy code env → a.Licensed mg' busy code env
  | .subscribe _ _, ha | .command _ _ _, ha =>
      (Manager.active_congr (Manager.isLoaded_of_standing h env.module) busy).2 ha
  | .unsubscribe _, _ => trivial
  | .onSetup _, ha | .beforeReload _, ha => fun r' hr' hgen => by
      obtain ⟨r, hr, -, hg, hm⟩ := Manager.record?_of_standing h hr'
      obtain ⟨hact, hcode⟩ := ha r hr (hg.trans hgen)
      exact ⟨(Manager.active_congr (Manager.isLoaded_of_standing h env.module) busy).2 hact, hm ▸ hcode⟩

/-- A module loaded or being loaded may do anything with its own code:
a hook it adds checks the generation only when it runs. -/
theorem licensed_of_current {mg : Manager Code Hook Hook} {busy : Option String} {env : Env}
    {r : Record Code Hook Hook} (hr : mg.record? env.module = some r)
    (hact : mg.Active busy env.module) : ∀ a : Act, a.Licensed mg busy r.module env
  | .subscribe _ _ | .command _ _ _ => hact
  | .unsubscribe _ => trivial
  | .onSetup _ | .beforeReload _ => fun r' hr' _ => ⟨hact, by rw [hr] at hr'; cases hr'; rfl⟩

theorem licensed_of_stale {mg : Manager Code Hook Hook} {busy : Option String} {code : Code} {env : Env}
    (hstale : ∀ r, mg.record? env.module = some r → r.generation ≠ env.generation) :
    ∀ a : Act, a.registers = false → a.Licensed mg busy code env
  | .subscribe _ _, h | .command _ _ _, h => by cases h
  | .unsubscribe _, _ => trivial
  | .onSetup _, _ | .beforeReload _, _ => fun r hr hgen => absurd hgen (hstale r hr)

/-! ## The invariant -/

namespace World

/-- What holds of a world whose bus follows the history `l` and whose
command tables stand for the book `b`, between the manager's operations
(`busy = none`) or while the module `busy` is being loaded. -/
structure Inv (w : World) (l : Event.Ledger Unit) (b : Command.Book Unit) (busy : Option String) :
    Prop where
  bus : Event.Follows w.bus l
  ledger : l.Sound
  commands : Command.Refines w.commands b
  book : b.Sound
  ids : w.manager.ids.Nodup
  /-- A module's hooks were added through its current environment, by its own code. -/
  hooks : ∀ id r, w.manager.record? id = some r → ∀ h ∈ r.setup ++ r.beforeReload,
    h.env = ⟨id, r.generation⟩ ∧ h.code = r.module
  quiet : ∀ id r, w.manager.record? id = some r → r.module.Quiet
  marks : ∀ id, (w.marks id).1 ≤ l.issued ∧ (w.marks id).2 ≤ b.issued
  /-- A module neither loaded nor being loaded owns nothing and has no hook. -/
  idle : ∀ id, ¬w.manager.Active busy id →
    OwnsNothing l b id ∧ ∀ r, w.manager.record? id = some r → r.setup = [] ∧ r.beforeReload = []
  /-- A module loaded or being loaded owns only what came after its mark. -/
  fresh : ∀ id, w.manager.Active busy id → OwnsSince l b id (w.marks id)
  /-- The module being loaded is registered and not loaded. -/
  busy : ∀ id, busy = some id → w.manager.isLoaded id = false ∧ (w.manager.record? id).isSome

def Calm (w : World) : Prop := ∃ l b, w.Inv l b none

variable {w : World} {l : Event.Ledger Unit} {b : Command.Book Unit} {busy : Option String}

/-! ### Acts on the bus and the command registry -/

theorem Inv.subscribe (hi : w.Inv l b busy) {owner : String} (ha : w.manager.Active busy owner)
    (kind : Event.Kind) (filter : Event.Filter) :
    Inv { w with bus := w.bus.perform (.subscribe kind owner filter (some ())) }
      (l.step (.subscribe kind owner filter (some ()))) b busy :=
  { hi with
    bus := hi.bus.perform hi.ledger (.subscribe kind owner filter (some ()))
    ledger := hi.ledger.step _
    marks := fun id => ⟨(hi.marks id).1.trans (l.issued_le_step (.subscribe kind owner filter (some ()))),
      (hi.marks id).2⟩
    idle := fun id hid =>
      ⟨(hi.idle id hid).1.subscribe (fun h => hid (h ▸ ha)) kind filter _, (hi.idle id hid).2⟩
    fresh := fun id hid => (hi.fresh id hid).subscribe (hi.marks id).1 kind owner filter _ }

theorem Inv.unsubscribe (hi : w.Inv l b busy) (handle : Event.Handle) :
    Inv { w with bus := w.bus.perform (.unsubscribe (some handle)) }
      (l.step (.unsubscribe (some handle))) b busy :=
  { hi with
    bus := hi.bus.perform hi.ledger (.unsubscribe (some handle))
    ledger := hi.ledger.step _
    marks := fun id => ⟨(hi.marks id).1.trans (l.issued_le_step (.unsubscribe (some handle))),
      (hi.marks id).2⟩
    idle := fun id hid => ⟨(hi.idle id hid).1.unsubscribe _, (hi.idle id hid).2⟩
    fresh := fun id hid => (hi.fresh id hid).unsubscribe _ }

/-- A new command registry keeps the invariant when the book it follows is
sound, issues on from the old one, and gives idle modules nothing and busy
ones nothing older than their marks. -/
theorem Inv.withCommands (hi : w.Inv l b busy) {r : Command.Registry Unit} {b' : Command.Book Unit}
    (hr : Command.Refines r b') (hb : b'.Sound) (hle : b.issued ≤ b'.issued)
    (hidle : ∀ id, ¬w.manager.Active busy id → OwnsNothing l b id → OwnsNothing l b' id)
    (hfresh : ∀ id, w.manager.Active busy id → OwnsSince l b id (w.marks id) → OwnsSince l b' id (w.marks id)) :
    Inv { w with commands := r } l b' busy where
  bus := hi.bus
  ledger := hi.ledger
  commands := hr
  book := hb
  ids := hi.ids
  hooks := hi.hooks
  quiet := hi.quiet
  marks id := ⟨(hi.marks id).1, (hi.marks id).2.trans hle⟩
  idle id hid := ⟨hidle id hid (hi.idle id hid).1, (hi.idle id hid).2⟩
  fresh id hid := hfresh id hid (hi.fresh id hid)
  busy := hi.busy

theorem Inv.command (hi : w.Inv l b busy) (c : Command.Spec (Option Unit)) (ha : w.manager.Active busy c.owner)
    (sid : SessionId) :
    Inv { w with commands := w.commands.perform (.register sid c) } l (b.step (.register sid c)) busy :=
  hi.withCommands (hi.commands.perform hi.book (.register sid c)) (hi.book.step (.register sid c))
    (b.issued_le_step (.register sid c)) (fun _ hid h => h.register (fun h => hid (h ▸ ha)) sid)
    (fun id _ h => h.register (hi.marks id).2 sid c)

theorem Inv.retract (hi : w.Inv l b busy) (owner : String) :
    (w.retract owner).Inv (l.step (.retract owner)) (b.step (.retract owner)) busy where
  bus := hi.bus.perform hi.ledger (.retract owner)
  ledger := hi.ledger.step (.retract owner)
  commands := hi.commands.perform hi.book (.retract owner)
  book := hi.book.step (.retract owner)
  ids := hi.ids
  hooks := hi.hooks
  quiet := hi.quiet
  marks := hi.marks
  idle id hid := ⟨(hi.idle id hid).1.retract owner, (hi.idle id hid).2⟩
  fresh id hid := (hi.fresh id hid).retract owner
  busy := hi.busy

/-! ### Changing one module's record -/

/-- A change of one record that keeps its id and state keeps the invariant,
when the changed record keeps what the invariant says of hooks and code,
and gains no hook while the module is idle. -/
theorem Inv.update (hi : w.Inv l b busy) {id : String} {f : Record Code Hook Hook → Record Code Hook Hook}
    (hf : ∀ r, (f r).id = r.id ∧ (f r).state = r.state)
    (hhooks : ∀ r, w.manager.record? id = some r → ∀ h ∈ (f r).setup ++ (f r).beforeReload,
      h.env = ⟨id, (f r).generation⟩ ∧ h.code = (f r).module)
    (hquiet : ∀ r, w.manager.record? id = some r → (f r).module.Quiet)
    (hidle : ∀ r, w.manager.record? id = some r → ¬w.manager.Active busy id →
      (f r).setup = [] ∧ (f r).beforeReload = []) :
    Inv { w with manager := w.manager.update id f } l b busy := by
  have hactive (id' : String) : (w.manager.update id f).Active busy id' ↔ w.manager.Active busy id' :=
    Manager.active_congr (Manager.isLoaded_update hf id id') busy
  refine { hi with
    ids := by simpa only [Manager.ids_update (fun r => (hf r).1)] using hi.ids
    hooks := Manager.forall_record?_update _ (fun r => (hf r).1) hi.hooks hhooks
    quiet := Manager.forall_record?_update _ (fun r => (hf r).1) hi.quiet hquiet
    idle := fun id' hid' => ?_
    fresh := fun id' hid' => hi.fresh id' ((hactive id').1 hid')
    busy := fun id' hb => ⟨(Manager.isLoaded_update hf id id').trans (hi.busy id' hb).1,
      (Manager.isSome_record?_update (fun r => (hf r).1) _ _).trans (hi.busy id' hb).2⟩ }
  -- a module idle after is idle before, and its record gained no hook
  have hold : ¬w.manager.Active busy id' := fun h => hid' ((hactive id').2 h)
  refine ⟨(hi.idle id' hold).1, fun r' hr' => ?_⟩
  exact Manager.forall_record?_update
    (fun id r => ¬w.manager.Active busy id → r.setup = [] ∧ r.beforeReload = [])
    (fun r => (hf r).1) (fun id r hr hn => (hi.idle id hn).2 r hr) hidle id' r' hr' hold

/-! ### Hooks -/

/-- Adding a hook through an environment keeps the invariant when, should
the environment be current, its module is loaded or being loaded and the
hook is that module's own code. -/
theorem Inv.addHook (hi : w.Inv l b busy) {env : Env} (hook : Hook)
    (g : Record Code Hook Hook → Record Code Hook Hook)
    (hg : ∀ r, (g r).id = r.id ∧ (g r).state = r.state ∧ (g r).generation = r.generation ∧
      (g r).module = r.module ∧ ∀ h ∈ (g r).setup ++ (g r).beforeReload, h ∈ r.setup ++ r.beforeReload ∨ h = hook)
    (henv : hook.env = env)
    (hl : ∀ r, w.manager.record? env.module = some r → r.generation = env.generation →
      w.manager.Active busy env.module ∧ r.module = hook.code) :
    Inv { w with manager := w.manager.update env.module fun r =>
      if r.generation == env.generation then g r else r } l b busy := by
  refine hi.update (fun r => ?_) (fun r hr h hh => ?_) (fun r hr => ?_) (fun r hr hn => ?_)
  · split
    · exact ⟨(hg r).1, (hg r).2.1⟩
    · exact ⟨rfl, rfl⟩
  · -- a hook of the changed record is an old one, or the new one, current and its own
    by_cases hgen : r.generation = env.generation
    · rw [if_pos (beq_iff_eq.2 hgen)] at hh ⊢
      rw [(hg r).2.2.1, (hg r).2.2.2.1]
      rcases (hg r).2.2.2.2 h hh with hh | rfl
      · exact hi.hooks _ r hr h hh
      · rw [henv, hgen]
        exact ⟨rfl, (hl r hr hgen).2.symm⟩
    · rw [if_neg (by simpa using hgen)] at hh ⊢
      exact hi.hooks _ r hr h hh
  · split
    · rw [(hg r).2.2.2.1]
      exact hi.quiet _ r hr
    · exact hi.quiet _ r hr
  · -- through a current environment only a live module gains a hook
    by_cases hgen : r.generation = env.generation
    · exact absurd (hl r hr hgen).1 hn
    · rw [if_neg (by simpa using hgen)]
      exact (hi.idle _ hn).2 r hr

/-! ### Plans -/

/-- Every licensed act keeps the invariant, for some history and book, and
changes no module's standing. -/
theorem Inv.act (hi : w.Inv l b busy) {code : Code} {env : Env} {a : Act}
    (ha : a.Licensed w.manager busy code env) :
    ∃ l' b', (w.act code env a).Inv l' b' busy ∧ (w.act code env a).manager.standing = w.manager.standing := by
  cases a with
  | subscribe kind filter => exact ⟨_, _, hi.subscribe ha kind filter, rfl⟩
  | unsubscribe h => exact ⟨_, _, hi.unsubscribe h, rfl⟩
  | command sid name aliases => exact ⟨_, _, hi.command ⟨name, aliases, "", env.module, some ()⟩ ha sid, rfl⟩
  | onSetup n =>
      refine ⟨l, b, hi.addHook ⟨env, code, n⟩ (fun r => { r with setup := r.setup ++ [⟨env, code, n⟩] })
        (fun r => ⟨rfl, rfl, rfl, rfl, fun h hh => ?_⟩) rfl ha, ?_⟩
      · simp only [List.mem_append, List.mem_singleton] at hh ⊢
        grind
      · exact Manager.standing_update_hooks (fun r => by split <;> exact ⟨rfl, rfl, rfl, rfl⟩) _
  | beforeReload n =>
      refine ⟨l, b, hi.addHook ⟨env, code, n⟩
        (fun r => { r with beforeReload := r.beforeReload ++ [⟨env, code, n⟩] })
        (fun r => ⟨rfl, rfl, rfl, rfl, fun h hh => ?_⟩) rfl ha, ?_⟩
      · simp only [List.mem_append, List.mem_singleton] at hh ⊢
        grind
      · exact Manager.standing_update_hooks (fun r => by split <;> exact ⟨rfl, rfl, rfl, rfl⟩) _

/-- A plan whose every act is licensed keeps the invariant and every
module's standing.  By induction on the acts: the licence depends only on
the standing, which each act keeps. -/
theorem Inv.exec (hi : w.Inv l b busy) {code : Code} {env : Env} {p : Plan}
    (hp : ∀ a ∈ p.acts, a.Licensed w.manager busy code env) :
    ∃ l' b', (w.exec code env p).2.Inv l' b' busy ∧
      (w.exec code env p).2.manager.standing = w.manager.standing := by
  unfold World.exec
  generalize p.acts = acts at hp
  induction acts generalizing w l b with
  | nil => exact ⟨l, b, hi, rfl⟩
  | cons a acts ih =>
      obtain ⟨l₁, b₁, hi₁, hs₁⟩ := hi.act (hp a List.mem_cons_self)
      obtain ⟨l', b', hi', hs'⟩ :=
        ih hi₁ fun a' ha' => (hp a' (List.mem_cons_of_mem a ha')).of_standing hs₁
      exact ⟨l', b', hi', hs'.trans hs₁⟩

/-- A setup hook of a loaded module runs through that module's current
environment, so everything it does is licensed. -/
theorem Inv.licensed_setup (hi : w.Inv l b busy) {r : Record Code Hook Hook} (hr : r ∈ w.manager.records)
    (hl : r.state = .loaded) {hook : Hook} (hh : hook ∈ r.setup) :
    ∀ a : Act, a.Licensed w.manager busy hook.code hook.env := by
  have hrec := Manager.record?_of_mem hi.ids hr
  obtain ⟨henv, hcode⟩ := hi.hooks r.id r hrec hook (List.mem_append_left _ hh)
  have hact : w.manager.Active busy r.id := .inl (by simp [Manager.isLoaded, hrec, hl])
  rw [henv, hcode]
  exact licensed_of_current hrec hact

/-! ### The manager's own steps -/

theorem Inv.records (hi : w.Inv l b busy) {mg : Manager Code Hook Hook} (h : mg.records = w.manager.records) :
    Inv { w with manager := mg } l b busy := by
  obtain ⟨records, reloads, loadFailures, setupErrors, retracted⟩ := mg
  subst h
  exact { hi with }

/-- A change of one record that keeps its generation, code and hooks keeps
what the invariant says of hooks and code. -/
theorem Inv.restate_hooks (hi : w.Inv l b busy) (id : String) (f : Record Code Hook Hook → Record Code Hook Hook)
    (hf : ∀ r, (f r).id = r.id ∧ (f r).generation = r.generation ∧ (f r).module = r.module ∧
      (f r).setup = r.setup ∧ (f r).beforeReload = r.beforeReload) :
    (∀ id' r', (w.manager.update id f).record? id' = some r' → ∀ h ∈ r'.setup ++ r'.beforeReload,
      h.env = ⟨id', r'.generation⟩ ∧ h.code = r'.module) ∧
    (∀ id' r', (w.manager.update id f).record? id' = some r' → r'.module.Quiet) := by
  refine ⟨Manager.forall_record?_update _ (fun r => (hf r).1) hi.hooks fun r hr h hh => ?_,
    Manager.forall_record?_update _ (fun r => (hf r).1) hi.quiet fun r hr => ?_⟩
  · obtain ⟨-, hgen, hmod, hset, hrel⟩ := hf r
    rw [hset, hrel] at hh
    rw [hgen, hmod]
    exact hi.hooks id r hr h hh
  · rw [(hf r).2.2.1]
    exact hi.quiet id r hr

theorem Inv.advance (hi : w.Inv l b busy) (id : String) :
    Inv { w with manager := w.manager.advance id } l b busy :=
  hi.update (fun _ => ⟨rfl, rfl⟩) (fun _ _ _ hh => by simp at hh) (fun r hr => hi.quiet id r hr)
    fun _ _ _ => ⟨rfl, rfl⟩

theorem Inv.countReload (hi : w.Inv l b busy) (id : String) :
    Inv { w with manager := w.manager.update id fun r => { r with reloads := r.reloads + 1 } } l b busy :=
  hi.update (fun _ => ⟨rfl, rfl⟩) (fun r hr => hi.hooks id r hr) (fun r hr => hi.quiet id r hr)
    fun r hr hn => (hi.idle id hn).2 r hr

/-- Noting the counters as a module's load begins: the module, not loaded
and so owning nothing, becomes the one being loaded. -/
theorem Inv.start (hi : w.Inv l b none) {id : String} (hl : w.manager.isLoaded id = false)
    (hs : (w.manager.record? id).isSome) : (w.mark id).Inv l b (some id) := by
  have hidle : ¬w.manager.Active none id := by simp [Manager.Active, hl]
  refine { hi with
    marks := fun id' => ?_
    idle := fun id' hid' => hi.idle id' fun h => hid' (h.imp_right fun h => by cases h)
    fresh := fun id' hid' => ?_
    busy := fun id' hb => ?_ }
  · -- the counters stand where the history and the book have brought them
    dsimp only [mark]
    rw [Function.update_apply]
    split
    · rw [hi.bus.issued, hi.commands.issued]
      exact ⟨Nat.le_refl _, Nat.le_refl _⟩
    · exact hi.marks id'
  · dsimp only [mark]
    by_cases hid : id' = id
    · subst hid
      exact (hi.idle id' hidle).1.since _
    · rw [Function.update_of_ne hid]
      refine hi.fresh id' (.inl (hid'.resolve_right fun h => hid ?_))
      cases h
      rfl
  · cases hb
    exact ⟨hl, hs⟩

/-- Loading a module that is not loaded, up to the end of its code's run: a
new generation, the counters noted, and the code run with the new
environment, with the module the one being loaded throughout. -/
theorem Inv.load (hi : w.Inv l b none) {id : String} (hl : w.manager.isLoaded id = false)
    {r : Record Code Hook Hook} (hr : (w.manager.advance id).record? id = some r) :
    ∃ l' b', (({ w with manager := w.manager.advance id }.mark id).exec r.module ⟨id, r.generation⟩
      (r.module.load r.generation)).2.Inv l' b' (some id) := by
  have hi₁ := (hi.advance id).start ((Manager.isLoaded_advance _ id id).trans hl) (by rw [hr]; rfl)
  have hp : ∀ a ∈ (r.module.load r.generation).acts,
      a.Licensed (w.manager.advance id) (some id) r.module ⟨id, r.generation⟩ :=
    fun a _ => licensed_of_current hr (.inr rfl) a
  obtain ⟨l', b', hi', -⟩ := hi₁.exec hp
  exact ⟨l', b', hi'⟩

theorem Inv.finish {id : String} (hi : w.Inv l b (some id)) :
    Inv { w with manager := w.manager.update id fun r => { r with state := .loaded, error := none } } l b none := by
  have hf : ∀ r : Record Code Hook Hook,
      ({ r with state := .loaded, error := none } : Record Code Hook Hook).id = r.id := fun _ => rfl
  obtain ⟨hhooks, hquiet⟩ := hi.restate_hooks id (fun r => { r with state := .loaded, error := none })
    fun _ => ⟨rfl, rfl, rfl, rfl, rfl⟩
  have hloaded : (w.manager.update id fun r => { r with state := .loaded, error := none }).isLoaded id = true := by
    rw [Manager.isLoaded_update_self hf]
    obtain ⟨r, hr⟩ := Option.isSome_iff_exists.1 (hi.busy id rfl).2
    rw [hr]
    rfl
  refine { hi with
    ids := by simpa only [Manager.ids_update hf] using hi.ids
    hooks := hhooks
    quiet := hquiet
    idle := fun id' hid' => ?_
    fresh := fun id' hid' => ?_
    busy := fun _ h => by cases h }
  · -- an idle module is another one, and was idle before
    have hne : id' ≠ id := fun h => hid' (.inl (h ▸ hloaded))
    have hold : ¬w.manager.Active (some id) id' := by
      rintro (h | h)
      · exact hid' (.inl (by rwa [Manager.isLoaded_update_of_ne hf hne]))
      · exact hne (Option.some.inj h).symm
    refine ⟨(hi.idle id' hold).1, fun r' hr' => ?_⟩
    rw [Manager.record?_update hf, if_neg hne] at hr'
    exact (hi.idle id' hold).2 r' hr'
  · by_cases hid : id' = id
    · subst hid
      exact hi.fresh id' (.inr rfl)
    · refine hi.fresh id' (.inl ?_)
      rcases hid' with h | h
      · rwa [Manager.isLoaded_update_of_ne hf hid] at h
      · cases h

/-- A module that owns nothing and has no hook may be left in a state other
than loaded, ending a load that failed or taking the module back. -/
theorem Inv.settle (hi : w.Inv l b busy) {id : String} (hbusy : busy = none ∨ busy = some id)
    (hq : OwnsNothing l b id) (hh : ∀ r, w.manager.record? id = some r → r.setup = [] ∧ r.beforeReload = [])
    (f : Record Code Hook Hook → Record Code Hook Hook)
    (hf : ∀ r, (f r).id = r.id ∧ (f r).state ≠ .loaded ∧ (f r).generation = r.generation ∧
      (f r).module = r.module ∧ (f r).setup = r.setup ∧ (f r).beforeReload = r.beforeReload) :
    Inv { w with manager := w.manager.update id f } l b none := by
  have hfid : ∀ r, (f r).id = r.id := fun r => (hf r).1
  obtain ⟨hhooks, hquiet⟩ := hi.restate_hooks id f fun r => ⟨(hf r).1, (hf r).2.2⟩
  have hnot : (w.manager.update id f).isLoaded id = false := by
    rw [Manager.isLoaded_update_self hfid]
    cases w.manager.record? id with
    | none => rfl
    | some r => simpa using (hf r).2.1
  -- every other module keeps its state, and only `id` was busy
  have hold : ∀ id', id' ≠ id → ¬(w.manager.update id f).Active none id' → ¬w.manager.Active busy id' := by
    intro id' hne hid' h
    rcases h with h | h
    · exact hid' (.inl (by rwa [Manager.isLoaded_update_of_ne hfid hne]))
    · rcases hbusy with rfl | rfl
      · cases h
      · exact hne (Option.some.inj h).symm
  refine { hi with
    ids := by simpa only [Manager.ids_update hfid] using hi.ids
    hooks := hhooks
    quiet := hquiet
    idle := fun id' hid' => ?_
    fresh := fun id' hid' => ?_
    busy := fun _ h => by cases h }
  · by_cases hne : id' = id
    · subst hne
      refine ⟨hq, fun r' hr' => ?_⟩
      obtain ⟨r, hr, rfl⟩ := Manager.eq_of_record?_update hfid hr'
      rw [if_pos rfl, (hf r).2.2.2.2.1, (hf r).2.2.2.2.2]
      exact hh r hr
    · refine ⟨(hi.idle id' (hold id' hne hid')).1, fun r' hr' => ?_⟩
      rw [Manager.record?_update hfid, if_neg hne] at hr'
      exact (hi.idle id' (hold id' hne hid')).2 r' hr'
  · have hne : id' ≠ id := by
      rintro rfl
      rcases hid' with h | h
      · rw [hnot] at h
        cases h
      · cases h
    refine hi.fresh id' (.inl ?_)
    rcases hid' with h | h
    · rwa [Manager.isLoaded_update_of_ne hfid hne] at h
    · cases h

/-- Registering a module whose code is quiet keeps the invariant: the new
module is not loaded and, being new, owns nothing. -/
theorem Inv.register (hi : w.Inv l b none) {id : String} {code : Code} {mg : Manager Code Hook Hook}
    (hq : code.Quiet) (h : w.manager.register id code = .ok mg) : Inv { w with manager := mg } l b none := by
  obtain ⟨hnone, rfl⟩ := Manager.register_eq_ok h
  -- the new record is what its id finds; every other id finds its old record
  have hfind := @Manager.record?_append _ _ _ w.manager { id, module := code } hnone
  have hold (id' : String) (hne : id' ≠ id) :
      ({ w.manager with records := w.manager.records ++ [{ id, module := code }] } :
        Manager Code Hook Hook).isLoaded id' = w.manager.isLoaded id' := by
    unfold Manager.isLoaded
    rw [hfind, if_neg hne]
  have hidle : ¬w.manager.Active none id := by
    rintro (h | h)
    · unfold Manager.isLoaded at h
      rw [hnone] at h
      cases h
    · cases h
  refine { hi with
    ids := ?_
    hooks := fun id' r' hr' => ?_
    quiet := fun id' r' hr' => ?_
    idle := fun id' hid' => ?_
    fresh := fun id' hid' => ?_
    busy := fun _ h => by cases h }
  · show (List.map (·.id) (w.manager.records ++ [{ id, module := code }])).Nodup
    rw [List.map_append]
    refine List.nodup_append.2 ⟨hi.ids, List.nodup_singleton _, fun a ha b hb => ?_⟩
    rw [List.mem_singleton.1 hb]
    rintro rfl
    exact Manager.not_mem_ids_of_record? hnone ha
  · rw [hfind] at hr'
    split at hr'
    · cases hr'
      intro h hh
      simp at hh
    · exact hi.hooks id' r' hr'
  · rw [hfind] at hr'
    split at hr'
    · cases hr'
      exact hq
    · exact hi.quiet id' r' hr'
  · by_cases hne : id' = id
    · subst hne
      refine ⟨(hi.idle id' hidle).1, fun r' hr' => ?_⟩
      rw [hfind, if_pos rfl] at hr'
      cases hr'
      exact ⟨rfl, rfl⟩
    · have hid'' : ¬w.manager.Active none id' := fun h => hid' (h.imp_left fun h => (hold id' hne).trans h)
      refine ⟨(hi.idle id' hid'').1, fun r' hr' => ?_⟩
      rw [hfind, if_neg hne] at hr'
      exact (hi.idle id' hid'').2 r' hr'
  · have hne : id' ≠ id := by
      rintro rfl
      rcases hid' with h | h
      · unfold Manager.isLoaded at h
        rw [hfind, if_pos rfl] at h
        cases h
      · cases h
    exact hi.fresh id' (hid'.imp_left fun h => (hold id' hne).symm.trans h)

theorem Inv.forget (hi : w.Inv l b none) {id : String} (hl : w.manager.isLoaded id = false) :
    Inv { w with manager := { w.manager with records := w.manager.records.filter (·.id != id) } } l b none := by
  have hfind := @Manager.record?_filter _ _ _ w.manager id
  have hold (id' : String) (hne : id' ≠ id) :
      ({ w.manager with records := w.manager.records.filter (·.id != id) } :
        Manager Code Hook Hook).isLoaded id' = w.manager.isLoaded id' := by
    unfold Manager.isLoaded
    rw [hfind, if_neg hne]
  have hidle : ¬w.manager.Active none id := by
    rintro (h | h)
    · rw [hl] at h
      cases h
    · cases h
  refine { hi with
    ids := (List.filter_sublist.map _).nodup hi.ids
    hooks := fun id' r' hr' => ?_
    quiet := fun id' r' hr' => ?_
    idle := fun id' hid' => ?_
    fresh := fun id' hid' => ?_
    busy := fun _ h => by cases h }
  · rw [hfind] at hr'
    split at hr'
    · cases hr'
    · exact hi.hooks id' r' hr'
  · rw [hfind] at hr'
    split at hr'
    · cases hr'
    · exact hi.quiet id' r' hr'
  · by_cases hne : id' = id
    · subst hne
      refine ⟨(hi.idle id' hidle).1, fun r' hr' => ?_⟩
      rw [hfind, if_pos rfl] at hr'
      cases hr'
    · have hid'' : ¬w.manager.Active none id' := fun h => hid' (h.imp_left fun h => (hold id' hne).trans h)
      refine ⟨(hi.idle id' hid'').1, fun r' hr' => ?_⟩
      rw [hfind, if_neg hne] at hr'
      exact (hi.idle id' hid'').2 r' hr'
  · have hne : id' ≠ id := by
      rintro rfl
      rcases hid' with h | h
      · unfold Manager.isLoaded at h
        rw [hfind, if_pos rfl] at h
        cases h
      · cases h
    exact hi.fresh id' (hid'.imp_left fun h => (hold id' hne).symm.trans h)

end World

end MudClient.Plugin
