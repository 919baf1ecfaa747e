/-
# Reloading one module leaves the others alone

Reloading or unloading a module `a` runs only `a`'s code: its before-reload
hooks and, for a reload, its next load.  Whatever that code does through its
environment, every other module keeps its record (state, generation, code,
hooks and reload count) and its place among the modules, and keeps every
subscription exactly as it was, in delivery order.  That last point needs
one thing the manager cannot check: `a`'s code names no subscription of
another module when it unsubscribes (a handle is only ever given to the
module that subscribed).

Commands are different.  Registering a command takes every command of the
session that shares a name with it, whoever owns it, so `a`'s code may take
a command from another module; taking `a` back after a failed load removes
`a`'s own commands and gives nothing back.  What is proved is that another
module gains no command and loses one only to a command the reload itself
registered, through `a`'s load or one of its before-reload hooks, in the
same session under one of its names, and that such a loss is real even when
the new load fails (`failed_reload_takes_command`).

The manager runs here against a journal: the world of
`MudClient.Proofs.Plugin.World` together with the events the manager
published, the hooks it ran and the acts of the loads and hooks it ran.  A reload publishes one resume event per
live session, naming `a`, and only once the new load succeeded; an unload
publishes nothing.  A resume event naming `a` is rejected by every other
module's resume guard, and the runtime's setup of a session for `a` runs
only `a`'s setup hooks.

## The one hypothesis

`World.HandlesOwn`: the handles `a`'s code unsubscribes name no live
subscription of another module.  The bus removes a subscription by its
handle alone, so nothing less keeps the other modules' subscriptions; a
handle is given only to the module that subscribed, so every module that
keeps its handles to itself meets it.

## Main statements

* `Start.Keeps`: what holds of a world while `a` is reloaded or unloaded,
  against the world it started from; each act of `a`'s code and each step
  of the manager keeps it (`Keeps.act`, `Keeps.retract`, `Keeps.update`, …).
* `Start.prepareReload_keeps`, `Start.completeReload_keeps`,
  `Start.reload_keeps`, `Start.unload_keeps`: the operations keep it, and
  publish and run what is said above; `setupSession_runs_own`: setting up a
  session for one module runs only that module's hooks.
* `World.Spares`: the same seen from outside, through the records, the
  subscriptions each kind delivers to and the commands each session holds.
* `reload_spares_other_modules`: the whole statement, from any world a run
  of the manager's operations reaches.
-/
import Mathlib
import MudClient.Proofs.Plugin.Reachable
import MudClient.Event.Registrar

set_option mvcgen.warning false

namespace MudClient.Event.Ledger

variable {η : Type} {l : Ledger η} {a : String}

/-! ## Subscriptions of the other owners

A call that acts for one owner leaves the live subscriptions of every other
owner as they were, in order. -/

theorem live_others_subscribe (hl : l.Sound) (kind : Kind) (filter : Filter) (x : Option η) :
    (l.step (.subscribe kind a filter x)).live.filter (·.owner != a) = l.live.filter (·.owner != a) := by
  cases x with
  | none => rfl
  | some h =>
    simp only [step]
    split
    · -- the new serial was never given out, so it was never removed
      have hfresh : l.issued + 1 ∉ l.gone := fun hg => hl.fresh (hl.goneMade _ hg)
      rw [live_make hfresh, List.filter_append]
      simp
    · rfl

theorem live_others_unsubscribe (h : Handle) (hown : ∀ s ∈ l.live, s.serial = h.serial → s.owner = a) :
    (l.step (.unsubscribe (some h))).live.filter (·.owner != a) = l.live.filter (·.owner != a) := by
  simp only [step]
  split
  · rw [live_drop, List.filter_filter]
    apply List.filter_congr
    intro s hs
    by_cases ho : s.owner = a
    · simp [ho]
    · have hne : s.serial ≠ h.serial := fun he => ho (hown s hs he)
      simp [hne]
  · rfl

theorem live_others_retract (hl : l.Sound) :
    (l.step (.retract a)).live.filter (·.owner != a) = l.live.filter (·.owner != a) := by
  simp only [step]
  rw [live_drop, List.filter_filter]
  apply List.filter_congr
  intro s hs
  by_cases ho : s.owner = a
  · simp [ho]
  · -- serials are distinct, so no subscription of the owner shares one with `s`
    have hnot : s.serial ∉ (l.live.filter (·.owner == a)).map (·.serial) := by
      intro hm
      obtain ⟨t, ht, hts⟩ := List.mem_map.1 hm
      obtain ⟨htl, hto⟩ := List.mem_filter.1 ht
      have hst := hl.eq_of_serial (mem_live.1 htl).1 (mem_live.1 hs).1 hts
      exact ho (hst ▸ beq_iff_eq.1 hto)
    simp [hnot]

end MudClient.Event.Ledger

namespace MudClient.Event

/-- The subscriptions of the other owners a kind delivers to, in order, are
read off the history. -/
theorem Follows.snapshot_others {η : Type} {b : Bus η} {l : Ledger η} (hf : Follows b l) (k : Kind) (a : String) :
    (b.registry.snapshot k).filter (·.owner != a) = (l.live.filter (·.owner != a)).filter (·.kind == k) := by
  rw [hf.snapshot k, List.filter_filter, List.filter_filter]
  congr 1
  funext x
  exact Bool.and_comm _ _

end MudClient.Event

namespace MudClient.Command.Book

variable {α : Type} {b : Book α} {sid sid' : Session.SessionId} {e : Registration α}

/-- A registration keeps every command of another owner, or takes it
because it shares a name with the new one. -/
theorem lost_register {c : Spec (Option α)} (he : e ∈ b.sets sid')
    (hne : e ∉ (b.step (.register sid c)).sets sid') :
    sid' = sid ∧ ∃ d, Registration.ofCommand (b.issued + 1) c = .ok d ∧ d.clashes e = true := by
  cases hc : Registration.ofCommand (b.issued + 1) c with
  | error err =>
    simp only [step, hc] at hne
    exact absurd he hne
  | ok d =>
    simp only [step, hc] at hne
    by_cases hs : sid' = sid
    · subst hs
      refine ⟨rfl, d, rfl, ?_⟩
      -- staying out of the new set means clashing with the new command
      rw [Function.update_self, List.mem_append, List.mem_filter, not_or] at hne
      have hcl : e.clashes d = true := by simpa [he] using hne.1
      rwa [Registration.clashes_comm]
    · rw [Function.update_of_ne hs] at hne
      exact absurd he hne

theorem sets_retract (owner : String) (sid : Session.SessionId) :
    (b.step (.retract owner)).sets sid = (b.sets sid).filter (·.command.owner != owner) := rfl

end MudClient.Command.Book

namespace MudClient.Plugin

open MudClient.Session Std.Do

/-! ## What a module's code does -/

def Code.Does (c : Code) (x : Act) : Prop :=
  (∃ n, x ∈ (c.load n).acts) ∨ (∃ n info, x ∈ (c.setup n info).acts) ∨ ∃ n, x ∈ (c.reload n).acts

def Record.Runs (r : Record Code Hook Hook) (c : Code) : Prop :=
  c = r.module ∨ ∃ h ∈ r.setup ++ r.beforeReload, h.code = c

/-- Registering a command for `owner` in session `sid` takes the
registration `e` from its set: their names meet. -/
def Act.Takes (owner : String) (sid : SessionId) (e : Command.Registration Unit) : Act → Prop
  | .command sid' name aliases =>
    sid' = sid ∧ ∃ n d, Command.Registration.ofCommand n ⟨name, aliases, "", owner, some ()⟩ = .ok d ∧
      d.clashes e = true
  | _ => False

/-! ## A journal of the manager's calls -/

/-- A world with the events the manager published, the hooks it ran and
the acts of the loads and before-reload hooks it ran, in order. -/
structure Journal where
  world : World
  published : List Event.Message := []
  ran : List Hook := []
  acted : List Act := []

namespace Journal

/-- The manager's runner over a journal: the world's runner, noting every
event published and every hook run. -/
def runner : Runner (StateM Journal) Code Hook Hook where
  get := do pure (← get).world.manager
  set mg := modify fun j => { j with world := { j.world with manager := mg } }
  load code env := modifyGet fun j =>
    let (r, w) := (j.world.mark env.module).exec code env (code.load env.generation)
    (r, { j with world := w, acted := j.acted ++ (code.load env.generation).acts })
  close _ := pure ()
  retract owner := modifyGet fun j => (j.world.taken owner, { j with world := j.world.retract owner })
  setup h info := modifyGet fun j =>
    let (r, w) := j.world.exec h.code h.env (h.code.setup h.index info)
    (r, { j with world := w, ran := j.ran ++ [h] })
  beforeReload h := modifyGet fun j =>
    let (r, w) := j.world.exec h.code h.env (h.code.reload h.index)
    (r, { j with world := w, ran := j.ran ++ [h], acted := j.acted ++ (h.code.reload h.index).acts })
  announce _ := pure ()
  publish ev := modify fun j => { j with published := j.published ++ [ev] }
  sessions := do pure (← get).world.sessions

@[spec] theorem runner_get {Q : PostCond (Manager Code Hook Hook) (.arg Journal .pure)} :
    ⦃fun j => Q.1 j.world.manager j⦄ runner.get ⦃Q⦄ := by
  mvcgen [runner]

@[spec] theorem runner_set {mg : Manager Code Hook Hook} {Q : PostCond Unit (.arg Journal .pure)} :
    ⦃fun j => Q.1 () { j with world := { j.world with manager := mg } }⦄ runner.set mg ⦃Q⦄ := by
  mvcgen [runner]

@[spec] theorem runner_load {code : Code} {env : Env} {Q : PostCond (Option Failure) (.arg Journal .pure)} :
    ⦃fun j => Q.1 ((j.world.mark env.module).exec code env (code.load env.generation)).1
      { j with world := ((j.world.mark env.module).exec code env (code.load env.generation)).2,
               acted := j.acted ++ (code.load env.generation).acts }⦄
    runner.load code env ⦃Q⦄ := by
  mvcgen [runner]

@[spec] theorem runner_close {code : Code} {Q : PostCond Unit (.arg Journal .pure)} :
    ⦃fun j => Q.1 () j⦄ runner.close code ⦃Q⦄ := by
  mvcgen [runner]

@[spec] theorem runner_retract {owner : String} {Q : PostCond Nat (.arg Journal .pure)} :
    ⦃fun j => Q.1 (j.world.taken owner) { j with world := j.world.retract owner }⦄ runner.retract owner ⦃Q⦄ := by
  mvcgen [runner]

@[spec] theorem runner_setup {h : Hook} {info : Info} {Q : PostCond (Option Failure) (.arg Journal .pure)} :
    ⦃fun j => Q.1 (j.world.exec h.code h.env (h.code.setup h.index info)).1
      { j with world := (j.world.exec h.code h.env (h.code.setup h.index info)).2, ran := j.ran ++ [h] }⦄
    runner.setup h info ⦃Q⦄ := by
  mvcgen [runner]

@[spec] theorem runner_beforeReload {h : Hook} {Q : PostCond (Option Failure) (.arg Journal .pure)} :
    ⦃fun j => Q.1 (j.world.exec h.code h.env (h.code.reload h.index)).1
      { j with world := (j.world.exec h.code h.env (h.code.reload h.index)).2, ran := j.ran ++ [h],
               acted := j.acted ++ (h.code.reload h.index).acts }⦄
    runner.beforeReload h ⦃Q⦄ := by
  mvcgen [runner]

@[spec] theorem runner_announce {x : Announcement} {Q : PostCond Unit (.arg Journal .pure)} :
    ⦃fun j => Q.1 () j⦄ runner.announce x ⦃Q⦄ := by
  mvcgen [runner]

@[spec] theorem runner_publish {ev : Event.Message} {Q : PostCond Unit (.arg Journal .pure)} :
    ⦃fun j => Q.1 () { j with published := j.published ++ [ev] }⦄ runner.publish ev ⦃Q⦄ := by
  mvcgen [runner]

@[spec] theorem runner_sessions {Q : PostCond (List Info) (.arg Journal .pure)} :
    ⦃fun j => Q.1 j.world.sessions j⦄ runner.sessions ⦃Q⦄ := by
  mvcgen [runner]

end Journal

def resumeEvent (id : String) (info : Info) : Event.Message :=
  { kind := Event.Kind.resumeSession, session := some info.id, payload := some (.session info id) }

/-! ## What a reload keeps -/

namespace World

/-- Code of module `a` in a world: its module's code, or the code of one of
its hooks. -/
def Runs (w : World) (a : String) (c : Code) : Prop :=
  ∃ r, w.manager.record? a = some r ∧ r.Runs c

/-- The handles `a`'s code unsubscribes name no live subscription of another
module.  A handle is given only to the module that subscribed, so this
holds of every module that keeps its handles to itself. -/
def HandlesOwn (w : World) (a : String) : Prop :=
  ∀ c, w.Runs a c → ∀ h, c.Does (.unsubscribe h) →
    ∀ sub ∈ w.bus.registry.byId.values, sub.serial = h.serial → sub.owner = a

/-- An act a reload of `a` from `w` may run: one of a load of `a`'s code or
of one of its before-reload hooks. -/
def Reloads (w : World) (a : String) (x : Act) : Prop :=
  ∃ r, w.manager.record? a = some r ∧
    ((∃ n, x ∈ (r.module.load n).acts) ∨ ∃ h ∈ r.beforeReload, x ∈ (h.code.reload h.index).acts)

theorem Reloads.runs {w : World} {a : String} {x : Act} (hx : w.Reloads a x) : ∃ c, w.Runs a c ∧ c.Does x := by
  obtain ⟨r, hr, ⟨n, hn⟩ | ⟨h, hh, hn⟩⟩ := hx
  · exact ⟨r.module, ⟨r, hr, .inl rfl⟩, .inl ⟨n, hn⟩⟩
  · exact ⟨h.code, ⟨r, hr, .inr ⟨h, List.mem_append_right _ hh, rfl⟩⟩, .inr (.inr ⟨h.index, hn⟩)⟩

end World

/-- A world a reload starts from, with the history its bus follows and the
book its command tables stand for. -/
structure Start where
  world : World
  ledger : Event.Ledger Unit
  book : Command.Book Unit
  sound : world.Sound
  follows : Event.Follows world.bus ledger
  ledger_sound : ledger.Sound
  refines : Command.Refines world.commands book
  book_sound : book.Sound

namespace Start

variable (s : Start) (a : String)

/-- What holds of a world `w` while module `a` is reloaded or unloaded from
`s`, once `a`'s code has run the acts `acts`: every other module keeps its
record, its place, its subscriptions in order and its commands but those
one of `acts` takes; `a`'s record, while there is one, keeps its code; and
every act run is one of a load of `a`'s code or of a before-reload hook. -/
structure Keeps (w : World) (acts : List Act) : Prop where
  sound : w.Sound
  bus : ∃ l, Event.Follows w.bus l ∧ l.Sound ∧
    l.live.filter (·.owner != a) = s.ledger.live.filter (·.owner != a)
  commands : ∃ b, Command.Refines w.commands b ∧ b.Sound ∧
    (∀ sid e, e ∈ b.sets sid → e.command.owner ≠ a → e ∈ s.book.sets sid) ∧
    (∀ sid e, e ∈ s.book.sets sid → e.command.owner ≠ a → e ∈ b.sets sid ∨ ∃ x ∈ acts, x.Takes a sid e)
  records : ∀ id, id ≠ a → w.manager.record? id = s.world.manager.record? id
  order : w.manager.ids.filter (· != a) = s.world.manager.ids.filter (· != a)
  sessions : w.sessions = s.world.sessions
  module : ∀ r, w.manager.record? a = some r → ∃ r₀, s.world.manager.record? a = some r₀ ∧ r.module = r₀.module
  acted : ∀ x ∈ acts, s.world.Reloads a x

theorem keeps_start : s.Keeps a s.world [] where
  sound := s.sound
  bus := ⟨s.ledger, s.follows, s.ledger_sound, rfl⟩
  commands := ⟨s.book, s.refines, s.book_sound, fun _ _ he _ => he, fun _ _ he _ => .inl he⟩
  records _ _ := rfl
  order := rfl
  sessions := rfl
  module r hr := ⟨r, hr, rfl⟩
  acted _ hx := nomatch hx

variable {s a} {w : World} {acts : List Act}

theorem Keeps.append (hk : s.Keeps a w acts) {more : List Act} (hm : ∀ x ∈ more, s.world.Reloads a x) :
    s.Keeps a w (acts ++ more) := by
  obtain ⟨b, hr, hb, hgain, hloss⟩ := hk.commands
  refine { hk with
    commands := ⟨b, hr, hb, hgain, fun sid e he ho => ?_⟩
    acted := fun x hx => (List.mem_append.1 hx).elim (hk.acted x) (hm x) }
  rcases hloss sid e he ho with hin | ⟨x, hx, ht⟩
  · exact .inl hin
  · exact .inr ⟨x, List.mem_append_left _ hx, ht⟩

/-- What is kept reads only the bus, the command tables, the records and
the sessions. -/
theorem Keeps.of_eq (hk : s.Keeps a w acts) {w' : World} (hb : w'.bus = w.bus) (hc : w'.commands = w.commands)
    (hr : w'.manager.records = w.manager.records) (hs : w'.sessions = w.sessions) : s.Keeps a w' acts := by
  obtain ⟨⟨records, reloads, loadFailures, setupErrors, retracted⟩, bus, commands, sessions, marks⟩ := w'
  dsimp only at hb hc hr hs
  subst hb hc hr hs
  exact ⟨hk.sound.of_eq rfl rfl rfl, hk.bus, hk.commands, hk.records, hk.order, hk.sessions, hk.module, hk.acted⟩

theorem Keeps.update (hk : s.Keeps a w acts) (f : Record Code Hook Hook → Record Code Hook Hook)
    (hf : ∀ r, (f r).id = r.id ∧ (f r).module = r.module)
    (hs : World.Sound { w with manager := w.manager.update a f }) :
    s.Keeps a { w with manager := w.manager.update a f } acts where
  sound := hs
  bus := hk.bus
  commands := hk.commands
  records id hid := by
    rw [← hk.records id hid]
    exact (Manager.record?_update (fun r => (hf r).1) a id).trans (if_neg hid)
  order := by
    rw [Manager.ids_update (fun r => (hf r).1)]
    exact hk.order
  sessions := hk.sessions
  module r hr := by
    obtain ⟨r₀, hr₀, rfl⟩ := Manager.eq_of_record?_update (fun r => (hf r).1) hr
    rw [if_pos rfl, (hf r₀).2]
    exact hk.module r₀ hr₀
  acted := hk.acted

theorem Keeps.advance (hk : s.Keeps a w acts) : s.Keeps a { w with manager := w.manager.advance a } acts :=
  hk.update _ (fun _ => ⟨rfl, rfl⟩) (hk.sound.advance a)

theorem Keeps.restate (hk : s.Keeps a w acts) (f : Record Code Hook Hook → Record Code Hook Hook)
    (hf : ∀ r, (f r).id = r.id ∧ (f r).module = r.module ∧ (f r).setup = r.setup ∧
      (f r).beforeReload = r.beforeReload) :
    s.Keeps a { w with manager := w.manager.update a f } acts :=
  hk.update f (fun r => ⟨(hf r).1, (hf r).2.1⟩)
    (hk.sound.update_same_hooks a f fun r => ⟨(hf r).1, (hf r).2.2⟩)

theorem Keeps.forget (hk : s.Keeps a w acts) :
    s.Keeps a { w with manager := { w.manager with records := w.manager.records.filter (·.id != a) } } acts where
  sound := hk.sound.forget a
  bus := hk.bus
  commands := hk.commands
  records id hid := by
    rw [Manager.record?_filter, if_neg hid]
    exact hk.records id hid
  order := by
    rw [← hk.order]
    simp only [Manager.ids, List.filter_map, List.filter_filter, Function.comp_def, Bool.and_self]
  sessions := hk.sessions
  module r hr := by
    rw [Manager.record?_filter, if_pos rfl] at hr
    cases hr
  acted := hk.acted

/-- Taking back `a` takes back none of the other modules' subscriptions and
commands. -/
theorem Keeps.retract (hk : s.Keeps a w acts) : s.Keeps a (w.retract a) acts := by
  obtain ⟨l, hf, hl, hlive⟩ := hk.bus
  obtain ⟨b, hr, hb, hgain, hloss⟩ := hk.commands
  refine { hk with
    sound := hk.sound.retract a
    bus := ⟨_, hf.perform hl (.retract a), hl.step _, (Event.Ledger.live_others_retract hl).trans hlive⟩
    commands := ⟨_, hr.perform hb (.retract a), hb.step _,
      fun sid e he ho => hgain sid e (Command.Book.mem_step_retract he).1 ho,
      fun sid e he ho => ?_⟩ }
  rcases hloss sid e he ho with hin | htaken
  · left
    rw [Command.Book.sets_retract]
    exact List.mem_filter.2 ⟨hin, by simpa using ho⟩
  · exact .inr htaken

theorem Keeps.mark (hk : s.Keeps a w acts) (id : String) : s.Keeps a (w.mark id) acts :=
  hk.of_eq rfl rfl rfl rfl

/-! ### What `a`'s code does -/

theorem Keeps.subscribe (hk : s.Keeps a w acts) (kind : Event.Kind) (filter : Event.Filter) :
    s.Keeps a { w with bus := w.bus.perform (.subscribe kind a filter (some ())) } acts := by
  obtain ⟨l, hf, hl, hlive⟩ := hk.bus
  exact { hk with
    sound := hk.sound.perform_bus _
    bus := ⟨_, hf.perform hl (.subscribe kind a filter (some ())), hl.step _,
      (Event.Ledger.live_others_subscribe hl kind filter (some ())).trans hlive⟩ }

/-- Unsubscribing by a handle that names no live subscription of another
module at the start. -/
theorem Keeps.unsubscribe (hk : s.Keeps a w acts) (h : Event.Handle)
    (hown : ∀ sub ∈ s.ledger.live, sub.serial = h.serial → sub.owner = a) :
    s.Keeps a { w with bus := w.bus.perform (.unsubscribe (some h)) } acts := by
  obtain ⟨l, hf, hl, hlive⟩ := hk.bus
  -- a live subscription of another module was live at the start
  have hmine : ∀ sub ∈ l.live, sub.serial = h.serial → sub.owner = a := by
    intro sub hsub hser
    by_contra hne
    have hkept : sub ∈ s.ledger.live.filter (·.owner != a) :=
      hlive ▸ List.mem_filter.2 ⟨hsub, by simpa using hne⟩
    exact hne (hown sub (List.mem_filter.1 hkept).1 hser)
  exact { hk with
    sound := hk.sound.perform_bus _
    bus := ⟨_, hf.perform hl (.unsubscribe (some h)), hl.step _,
      (Event.Ledger.live_others_unsubscribe h hmine).trans hlive⟩ }

/-- Registering a command for `a` gives no other module a command, and takes
one only by sharing a name with it in its session. -/
theorem Keeps.register (hk : s.Keeps a w acts) {sid : SessionId} {name : String} {aliases : List String}
    (hx : .command sid name aliases ∈ acts) :
    s.Keeps a { w with commands := w.commands.perform (.register sid ⟨name, aliases, "", a, some ()⟩) } acts := by
  obtain ⟨b, hr, hb, hgain, hloss⟩ := hk.commands
  refine { hk with
    sound := hk.sound.perform_commands _
    commands := ⟨_, hr.perform hb (.register sid ⟨name, aliases, "", a, some ()⟩), hb.step _,
      fun sid' e he ho => ?_, fun sid' e he ho => ?_⟩ }
  · rcases Command.Book.mem_step_register he with he | ⟨hown, -⟩
    · exact hgain sid' e he ho
    · exact absurd hown ho
  · rcases hloss sid' e he ho with hin | htaken
    · by_cases hstay : e ∈ (b.step (.register sid ⟨name, aliases, "", a, some ()⟩)).sets sid'
      · exact .inl hstay
      · obtain ⟨rfl, d, hd, hcl⟩ := Command.Book.lost_register hin hstay
        exact .inr ⟨_, hx, rfl, _, d, hd, hcl⟩
    · exact .inr htaken

/-- Whatever `a`'s code does through an environment of `a`, once the act is
among those run. -/
theorem Keeps.act (hk : s.Keeps a w acts) (hown : s.world.HandlesOwn a) (code : Code) (gen : Nat) :
    ∀ {x : Act}, x ∈ acts → s.Keeps a (w.act code ⟨a, gen⟩ x) acts
  | .subscribe kind filter, _ => hk.subscribe kind filter
  | .unsubscribe h, hx => by
    obtain ⟨c, hc, hd⟩ := (hk.acted _ hx).runs
    exact hk.unsubscribe h fun sub hsub => hown c hc h hd sub (s.follows.values_perm.mem_iff.2 hsub)
  | .command _ _ _, hx => hk.register hx
  | .onSetup n, _ =>
    hk.update (fun r => if r.generation == gen then
        { r with setup := r.setup ++ [⟨⟨a, gen⟩, code, n⟩] } else r)
      (fun r => by split <;> exact ⟨rfl, rfl⟩) (hk.sound.act code ⟨a, gen⟩ (.onSetup n))
  | .beforeReload n, _ =>
    hk.update (fun r => if r.generation == gen then
        { r with beforeReload := r.beforeReload ++ [⟨⟨a, gen⟩, code, n⟩] } else r)
      (fun r => by split <;> exact ⟨rfl, rfl⟩) (hk.sound.act code ⟨a, gen⟩ (.beforeReload n))

theorem Keeps.exec (hk : s.Keeps a w acts) (hown : s.world.HandlesOwn a) (code : Code) (gen : Nat) (p : Plan)
    (hp : ∀ x ∈ p.acts, x ∈ acts) : s.Keeps a (w.exec code ⟨a, gen⟩ p).2 acts := by
  unfold World.exec
  obtain ⟨xs, failure⟩ := p
  dsimp only at hp ⊢
  -- by induction on the acts still to run, from any world that keeps
  induction xs generalizing w with
  | nil => exact hk
  | cons x xs ih =>
    exact ih (hk.act hown code gen (hp x List.mem_cons_self)) fun y hy => hp y (List.mem_cons_of_mem x hy)

theorem Keeps.load_run (hk : s.Keeps a w acts) (hown : s.world.HandlesOwn a) {r : Record Code Hook Hook}
    (hr : w.manager.record? a = some r) (gen : Nat) :
    s.Keeps a ((w.mark a).exec r.module ⟨a, gen⟩ (r.module.load gen)).2 (acts ++ (r.module.load gen).acts) := by
  obtain ⟨r₀, hr₀, hm⟩ := hk.module r hr
  have hk' := hk.append fun x hx => ⟨r₀, hr₀, .inl ⟨gen, hm ▸ hx⟩⟩
  exact (hk'.mark a).exec hown _ gen _ fun _ hx => List.mem_append_right _ hx

theorem Keeps.run_hook (hk : s.Keeps a w acts) (hown : s.world.HandlesOwn a) {r : Record Code Hook Hook}
    (hr : s.world.manager.record? a = some r) {h : Hook} (hh : h ∈ r.beforeReload) :
    s.Keeps a (w.exec h.code h.env (h.code.reload h.index)).2 (acts ++ (h.code.reload h.index).acts) := by
  have hk' := hk.append fun x hx => ⟨r, hr, .inr ⟨h, hh, hx⟩⟩
  obtain ⟨⟨m, gen⟩, code, n⟩ := h
  have henv : m = a := s.sound.beforeReload_module hr hh
  dsimp only at henv hk' ⊢
  subst henv
  exact hk'.exec hown code gen _ fun _ hx => List.mem_append_right _ hx

end Start

/-! ## The manager's operations on `a`

Run on a journal from the start world, preparing a reload takes `a` back
and runs its before-reload hooks, in order; completing it publishes one
resume event per live session once the new load succeeded, and nothing
otherwise; unloading prepares and forgets.  Each keeps `Keeps`. -/

namespace Start

variable (s : Start) (a : String)

theorem loadModule_keeps (hown : s.world.HandlesOwn a) (P : List Event.Message) (R : List Hook) :
    ⦃fun j => ⌜s.Keeps a j.world j.acted ∧ j.published = P ∧ j.ran = R⌝⦄ loadModule Journal.runner a
    ⦃⇓ _ j => ⌜s.Keeps a j.world j.acted ∧ j.published = P ∧ j.ran = R⌝⦄ := by
  mvcgen [loadModule, takeBack, Runner.modify]
  next j h hnone => exact ⟨h.1.advance, h.2⟩
  next j h r hr e he le =>
    -- the failed load's world, with `a`'s subscriptions and commands taken back
    have hk := ((h.1.advance.load_run hown hr r.generation).retract).advance
    exact ⟨(hk.restate (fun r => { r with state := .failed, error := some e })
      fun _ => ⟨rfl, rfl, rfl, rfl⟩).of_eq (by rfl) (by rfl) (by rfl) (by rfl), h.2⟩
  next j h r hr hf =>
    exact ⟨(h.1.advance.load_run hown hr r.generation).restate
      (fun r => { r with state := .loaded, error := none }) fun _ => ⟨rfl, rfl, rfl, rfl⟩, h.2⟩


theorem prepareReload_keeps (hown : s.world.HandlesOwn a) (P : List Event.Message) (R : List Hook) :
    ⦃fun j => ⌜j.world = s.world ∧ j.acted = [] ∧ j.published = P ∧ j.ran = R⌝⦄ prepareReload Journal.runner a
    ⦃⇓ res j => ⌜s.Keeps a j.world j.acted ∧ j.published = P ∧
      j.ran = R ++ ((s.world.manager.record? a).map (·.beforeReload)).getD [] ∧
      (res = none → ∃ r, s.world.manager.record? a = some r)⌝⦄ := by
  mvcgen [prepareReload, takeBack, Runner.modify] invariants
  · ⇓ p j => ⌜s.Keeps a j.world j.acted ∧ j.published = P ∧ j.ran = R ++ p.fst.prefix⌝
  next j h hnone =>
    obtain ⟨hw, ha, hp, hr⟩ := h
    rw [hw, ha] at ⊢
    rw [hw] at hnone
    rw [hnone]
    exact ⟨keeps_start s a, hp, by simpa using hr, fun h => by cases h⟩
  next j₀ h₀ r₀ hr₀ r pref cur suff hsplit _ j h =>
    -- `cur` is one of `a`'s before-reload hooks at the start
    have hr : r = r₀ := by simp only [r]; exact congrArg (·.getD r₀) hr₀ |>.trans rfl
    have hs : s.world.manager.record? a = some r₀ := h₀.1 ▸ hr₀
    have hcur : cur ∈ r₀.beforeReload := by
      rw [← hr, hsplit]
      exact List.mem_append_right _ List.mem_cons_self
    refine ⟨h.1.run_hook hown hs hcur, h.2.1, ?_⟩
    rw [h.2.2, List.append_assoc]
  next j h r₀ hr₀ r =>
    obtain ⟨hw, ha, hp, hr⟩ := h
    have hk : s.Keeps a j.world j.acted := by
      rw [hw, ha]
      exact keeps_start s a
    -- `a` is taken back, starts a new generation with no hook, and is left unloaded
    refine ⟨(hk.retract.advance.restate (fun r => { r with state := .unloaded })
      fun _ => ⟨rfl, rfl, rfl, rfl⟩).of_eq (by rfl) (by rfl) (by rfl) (by rfl), hp, ?_⟩
    rw [hr, List.append_nil]
  next j₀ h₀ r₀ hr₀ r _ j h =>
    have hr : r = r₀ := by simp only [r]; exact congrArg (·.getD r₀) hr₀ |>.trans rfl
    have hs : s.world.manager.record? a = some r₀ := h₀.1 ▸ hr₀
    refine ⟨h.1, h.2.1, ?_, r₀, hs⟩
    rw [h.2.2, hr, hs]
    rfl


theorem resumeSessions_keeps (P : List Event.Message) (R : List Hook) :
    ⦃fun j => ⌜s.Keeps a j.world j.acted ∧ j.published = P ∧ j.ran = R⌝⦄ resumeSessions Journal.runner a
    ⦃⇓ _ j => ⌜s.Keeps a j.world j.acted ∧ j.published = P ++ s.world.sessions.map (resumeEvent a) ∧
      j.ran = R⌝⦄ := by
  mvcgen [resumeSessions] invariants
  · ⇓ p j => ⌜s.Keeps a j.world j.acted ∧ j.published = P ++ p.fst.prefix.map (resumeEvent a) ∧ j.ran = R⌝
  next j₀ h₀ pref cur suff hsplit _ j h =>
    refine ⟨h.1, ?_, h.2.2⟩
    rw [h.2.1, List.map_append, List.append_assoc]
    rfl
  next j h => exact ⟨h.1, by simpa using h.2.1, h.2.2⟩
  next j₀ h₀ _ j h =>
    rw [← h₀.1.sessions]
    exact h

theorem completeReload_keeps (hown : s.world.HandlesOwn a) (P : List Event.Message) (R : List Hook) :
    ⦃fun j => ⌜s.Keeps a j.world j.acted ∧ j.published = P ∧ j.ran = R⌝⦄ completeReload Journal.runner a
    ⦃⇓ res j => ⌜s.Keeps a j.world j.acted ∧
      j.published = P ++ (if res = none then s.world.sessions.map (resumeEvent a) else []) ∧ j.ran = R⌝⦄ := by
  mvcgen [completeReload, Runner.modify, loadModule_keeps, resumeSessions_keeps]
  next j h hnone => exact ⟨h.1, by simp [h.2.1], h.2.2⟩
  next j₀ h₀ r₀ hr₀ res f hf j h => exact ⟨h.1, by simp [h.2.1], h.2.2⟩
  next j₀ h₀ r₀ hr₀ res hres j h =>
    exact ⟨(h.1.restate (fun r => { r with reloads := r.reloads + 1 })
      fun _ => ⟨rfl, rfl, rfl, rfl⟩).of_eq (by rfl) (by rfl) (by rfl) (by rfl), h.2⟩

theorem reload_keeps (hown : s.world.HandlesOwn a) (P : List Event.Message) (R : List Hook) :
    ⦃fun j => ⌜j.world = s.world ∧ j.acted = [] ∧ j.published = P ∧ j.ran = R⌝⦄ reload Journal.runner a
    ⦃⇓ res j => ⌜s.Keeps a j.world j.acted ∧
      j.published = P ++ (if res = none then s.world.sessions.map (resumeEvent a) else []) ∧
      j.ran = R ++ ((s.world.manager.record? a).map (·.beforeReload)).getD [] ∧
      (res = none → ∃ r, s.world.manager.record? a = some r)⌝⦄ := by
  mvcgen [reload, prepareReload_keeps, completeReload_keeps]
  -- completing the reload starts from the journal the preparation left
  case vc9 => exact fun _ _ => s
  case vc10 => exact fun j _ => j.published
  case vc11 => exact fun j _ => j.ran
  next j₀ h₀ res f hf j h => exact ⟨h.1, by simp [h.2.1], h.2.2.1, h.2.2.2⟩
  next j₀ h₀ res hres j h => exact ⟨h.1, rfl, rfl⟩
  next j₀ h₀ res hres j₁ h₁ res' j =>
    intro hk hp hr
    refine ⟨hk, by rw [hp, h₁.2.1], hr.trans h₁.2.2.1, fun _ => h₁.2.2.2 rfl⟩
  next j₀ h₀ res hres => exact fun _ _ => hown

theorem unload_keeps (hown : s.world.HandlesOwn a) (P : List Event.Message) (R : List Hook) :
    ⦃fun j => ⌜j.world = s.world ∧ j.acted = [] ∧ j.published = P ∧ j.ran = R⌝⦄ unload Journal.runner a
    ⦃⇓ _ j => ⌜s.Keeps a j.world j.acted ∧ j.published = P ∧
      j.ran = R ++ ((s.world.manager.record? a).map (·.beforeReload)).getD []⌝⦄ := by
  mvcgen [unload, Runner.modify, prepareReload_keeps]
  next j₀ h₀ res f hf j h => exact ⟨h.1, h.2.1, h.2.2.1⟩
  next j₀ h₀ res hres j h => exact ⟨h.1.forget, h.2.1, h.2.2.1⟩

end Start

theorem setupSession_runs_own (info : Info) (only : String) (honly : only.isEmpty = false) (R : List Hook) :
    ⦃fun j => ⌜j.world.Sound ∧ j.ran = R⌝⦄ setupSession Journal.runner info only
    ⦃⇓ _ j => ⌜∀ h ∈ j.ran, h ∈ R ∨ h.env.module = only⌝⦄ := by
  have houter := @flatMapM_keeps Journal (Record Code Hook Hook) Failure
    fun j => ∀ h ∈ j.ran, h ∈ R ∨ h.env.module = only
  have hinner := @filterMapM_keeps Journal Hook Failure fun j => ∀ h ∈ j.ran, h ∈ R ∨ h.env.module = only
  mvcgen [setupSession, Runner.modify, houter, hinner]
  next j₀ h₀ work r hr j₁ h₁ hook hh j h f hf =>
    exact List.forall_mem_append.2 ⟨h, List.forall_mem_singleton.2 (.inr (h₀.1.setup_module honly hr hh))⟩
  next j₀ h₀ work r hr j₁ h₁ hook hh j h hf =>
    exact List.forall_mem_append.2 ⟨h, List.forall_mem_singleton.2 (.inr (h₀.1.setup_module honly hr hh))⟩
  next j h work => exact fun _ hh => .inl (h.2 ▸ hh)

/-! ## What the other modules see -/

/-- A module's guard for resumed sessions rejects a session resumed for
another module. -/
theorem resumedFor_resumeEvent {a b : String} (ha : a.isEmpty = false) (hab : b ≠ a)
    (lookup : SessionId → Option Info) (info : Info) :
    Event.Guard.holds lookup (resumeEvent a info) (.resumedFor b) = false := by
  simp [Event.Guard.holds, resumeEvent, ha, Ne.symm hab]

namespace World

/-- What a reload or an unload of `a` from `w` to `w'` leaves of every other
module: its record and its place among the modules, its subscriptions of
every kind in delivery order, and its commands, but those a registration of
`a`'s code takes by sharing a name with them in their session. -/
structure Spares (w : World) (a : String) (acts : List Act) (w' : World) : Prop where
  records : ∀ b, b ≠ a → w'.manager.record? b = w.manager.record? b
  order : w'.manager.ids.filter (· != a) = w.manager.ids.filter (· != a)
  subscriptions : ∀ k, (w'.bus.registry.snapshot k).filter (·.owner != a) =
    (w.bus.registry.snapshot k).filter (·.owner != a)
  gains : ∀ sid e, e ∈ w'.commands.registrations sid → e.command.owner ≠ a →
    e ∈ w.commands.registrations sid
  losses : ∀ sid e, e ∈ w.commands.registrations sid → e.command.owner ≠ a →
    e ∈ w'.commands.registrations sid ∨ ∃ x ∈ acts, x.Takes a sid e
  acted : ∀ x ∈ acts, w.Reloads a x

end World

namespace Start

variable {s : Start} {a : String} {w : World}

theorem Keeps.spares (hk : s.Keeps a w acts) : s.world.Spares a acts w where
  records := hk.records
  order := hk.order
  subscriptions k := by
    obtain ⟨l, hf, -, hlive⟩ := hk.bus
    rw [hf.snapshot_others, s.follows.snapshot_others, hlive]
  gains sid e he ho := by
    obtain ⟨b, hr, hb, hgain, -⟩ := hk.commands
    exact (s.refines.registrations_perm s.book_sound sid).mem_iff.2
      (hgain sid e ((hr.registrations_perm hb sid).mem_iff.1 he) ho)
  losses sid e he ho := by
    obtain ⟨b, hr, hb, -, hloss⟩ := hk.commands
    rcases hloss sid e ((s.refines.registrations_perm s.book_sound sid).mem_iff.1 he) ho with h | h
    · exact .inl ((hr.registrations_perm hb sid).mem_iff.2 h)
    · exact .inr h
  acted := hk.acted

end Start

theorem reload_spares_other_modules (sessions : List Info) (ops : List Op) (a : String)
    (hown : (({ sessions } : World).runAll ops).HandlesOwn a) :
    let w := ({ sessions } : World).runAll ops
    let r := (reload Journal.runner a).run { world := w }
    let u := (unload Journal.runner a).run { world := w }
    w.Spares a r.2.acted r.2.world ∧ (∀ h ∈ r.2.ran, h.env.module = a) ∧
      r.2.published = (if r.1 = none then w.sessions.map (resumeEvent a) else []) ∧
      (∀ ev ∈ r.2.published,
        (∀ b, b ≠ a → ∀ lookup, Event.Guard.holds lookup ev (.resumedFor b) = false) ∧
        ∃ info, ev.payload = some (.session info a) ∧
          ∀ h ∈ ((setupSession Journal.runner info a).run { world := r.2.world }).2.ran, h.env.module = a) ∧
      w.Spares a u.2.acted u.2.world ∧ (∀ h ∈ u.2.ran, h.env.module = a) ∧ u.2.published = [] := by
  intro w r u
  have hs : w.Sound := World.sound_runAll sessions ops
  obtain ⟨l, hf, hl⟩ := hs.bus
  obtain ⟨b, hr, hb⟩ := hs.commands
  let st : Start := ⟨w, l, b, hs, hf, hl, hr, hb⟩
  obtain ⟨hk, hpub, hran, hfound⟩ :=
    @run_of_triple _ _ _ _ _ (Start.reload_keeps st a hown [] []) { world := w } ⟨rfl, rfl, rfl, rfl⟩
  obtain ⟨hk', hpub', hran'⟩ :=
    @run_of_triple _ _ _ _ _ (Start.unload_keeps st a hown [] []) { world := w } ⟨rfl, rfl, rfl, rfl⟩
  -- both run `a`'s before-reload hooks at the start, and no other hook
  have hhooks : ∀ h ∈ [] ++ ((st.world.manager.record? a).map (·.beforeReload)).getD [], h.env.module = a := by
    intro h hh
    cases hr₀ : w.manager.record? a with
    | none => simp [st, hr₀] at hh
    | some r₀ =>
      rw [List.nil_append, show st.world = w from rfl, hr₀] at hh
      exact hs.beforeReload_module hr₀ hh
  refine ⟨hk.spares, fun h hh => hhooks h (hran ▸ hh), hpub, fun ev hev => ?_, hk'.spares,
    fun h hh => hhooks h (hran' ▸ hh), hpub'⟩
  -- an event is published only after the new load succeeded, so `a` is registered and named
  rw [hpub] at hev
  split at hev
  · rename_i hres
    obtain ⟨r₀, hr₀⟩ := hfound hres
    have ha : a.isEmpty = false :=
      isEmpty_of_validId (hs.valid a
        (List.mem_map.2 ⟨r₀, Manager.mem_of_record? hr₀, Manager.record?_id hr₀⟩))
    obtain ⟨info, -, rfl⟩ := List.mem_map.1 hev
    refine ⟨fun b hb lookup => resumedFor_resumeEvent ha hb lookup info, info, rfl, fun h hh => ?_⟩
    have hsetup : ∀ h ∈ ((setupSession Journal.runner info a).run { world := r.2.world }).2.ran,
        h ∈ [] ∨ h.env.module = a :=
      @run_of_triple _ _ _ _ _ (setupSession_runs_own info a ha []) { world := r.2.world } ⟨hk.sound, rfl⟩
    rcases hsetup h hh with hh | hh
    · cases hh
    · exact hh
  · cases hev

/-- Module `b` registers the command `x` in session 1 on every load; `a`
loads quietly first and, on its next load, registers `x` too and fails.
Reloading `a` fails, and `b`'s command is gone: the registration took it,
and taking `a` back does not give it back. -/
theorem failed_reload_takes_command :
    let codeB : Code :=
      { load := fun _ => { acts := [.command 1 "x" []] }, setup := fun _ _ => {}, reload := fun _ => {} }
    let codeA : Code :=
      { load := fun n => if n = 1 then {} else
          { acts := [.command 1 "x" []], failure := some { message := "second load fails" } }
        setup := fun _ _ => {}, reload := fun _ => {} }
    let w := ({ sessions := [{ id := 1, mud := "dune" }] } : World).runAll [.add "b" codeB, .add "a" codeA]
    let r := (reload Journal.runner "a").run { world := w }
    (w.commands.lookup 1 "x").map (·.owner) = some "b" ∧ r.1.isSome ∧
      (r.2.world.commands.lookup 1 "x").isNone := by
  intro codeB codeA w r
  decide +kernel


/-- The statement at the world of `failed_reload_takes_command`, where the
reload of `a` takes `b`'s command and `a`'s code keeps its handles. -/
theorem reload_spares_other_modules_on_clash :
    let codeB : Code :=
      { load := fun _ => { acts := [.command 1 "x" []] }, setup := fun _ _ => {}, reload := fun _ => {} }
    let codeA : Code :=
      { load := fun n => if n = 1 then {} else
          { acts := [.command 1 "x" []], failure := some { message := "second load fails" } }
        setup := fun _ _ => {}, reload := fun _ => {} }
    let sessions : List Info := [{ id := 1, mud := "dune" }]
    let ops := [Op.add "b" codeB, .add "a" codeA]
    (({ sessions } : World).runAll ops).HandlesOwn "a" ∧
      let w := ({ sessions } : World).runAll ops
      let r := (reload Journal.runner "a").run { world := w }
      let u := (unload Journal.runner "a").run { world := w }
      w.Spares "a" r.2.acted r.2.world ∧ (∀ h ∈ r.2.ran, h.env.module = "a") ∧
        r.2.published = (if r.1 = none then w.sessions.map (resumeEvent "a") else []) ∧
        (∀ ev ∈ r.2.published,
          (∀ b, b ≠ "a" → ∀ lookup, Event.Guard.holds lookup ev (.resumedFor b) = false) ∧
          ∃ info, ev.payload = some (.session info "a") ∧
            ∀ h ∈ ((setupSession Journal.runner info "a").run { world := r.2.world }).2.ran,
              h.env.module = "a") ∧
        w.Spares "a" u.2.acted u.2.world ∧ (∀ h ∈ u.2.ran, h.env.module = "a") ∧ u.2.published = [] := by
  intro codeB codeA sessions ops
  -- `a`'s record holds its code and no hook
  have hrec : ((({ sessions } : World).runAll ops).manager.record? "a").map
      (fun r => (r.module, r.setup ++ r.beforeReload)) = some (codeA, []) := rfl
  have hown : (({ sessions } : World).runAll ops).HandlesOwn "a" := by
    rintro c ⟨r, hr, hc⟩ h hx
    rw [hr, Option.map_some, Option.some.injEq, Prod.mk.injEq] at hrec
    rcases hc with rfl | ⟨k, hk, -⟩
    · -- `a`'s code never unsubscribes
      rw [hrec.1] at hx
      rcases hx with ⟨n, hn⟩ | ⟨n, info, hn⟩ | ⟨n, hn⟩
      · simp only [codeA] at hn
        split at hn <;> simp at hn
      · simp [codeA] at hn
      · simp [codeA] at hn
    · rw [hrec.2] at hk
      cases hk
  exact ⟨hown, reload_spares_other_modules sessions ops "a" hown⟩


end MudClient.Plugin
