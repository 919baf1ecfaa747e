/-
# The loop's dispatch discipline

The engine does its work on one loop, fed by a queue.  Calls from outside
(`Request`) only add tasks at the end of the queue; a step of the loop
(`step`) takes the task at its head and runs it.  A run of the engine is
any interleaving of the two (`Move`, `runMoves`), and of such runs this
module proves:

* the loop takes the tasks in the order they were queued, each once, and
  nothing once the engine stopped (`runMoves_takes_in_order`), so nothing
  after a shutdown (`runMoves_after_shutdown`);
* a flush that answers nothing waited until the queue was empty: every task
  queued before it, and every task those queued meanwhile, ran before it
  answered (`flush_drained`).

With `publishNow_pass`, which says a publication is one pass that counts
itself once and takes nothing back, this is `loop_keeps_dispatch_discipline`.
-/
import Mathlib
import MudClient.Proofs.Engine.Effects
import MudClient.Engine.Sessions

open Std.Do

set_option mvcgen.warning false

namespace MudClient.Engine

open MudClient.Session

/-- A step takes the task at the head of the queue: a marker with nothing
behind it is counted, one with work behind it goes to the end, and any other
task runs on the core it was taken from.  What holds of the core each way
holds after the step. -/
theorem step_takes (c : Core) {t : Task} {rest : List Task} (hq : c.queue = t :: rest) (Q : Core → Prop)
    (hlast : t = .drain → rest = [] → Q { c with queue := rest, tasks := c.tasks + 1, drains := c.drains + 1 })
    (hback : t = .drain → rest ≠ [] → Q ({ c with queue := rest, tasks := c.tasks + 1 }.enqueue .drain))
    (hrun : ∀ t', t' = t → t' ≠ .drain →
      ⦃fun e => ⌜e.core = { c with queue := rest, tasks := c.tasks + 1 }⌝⦄ runTask t' ⦃⇓ _ e => ⌜Q e.core⌝⦄) :
    ⦃fun e => ⌜e.core = c⌝⦄ step ⦃⇓ r e => ⌜r = true ∧ Q e.core⌝⦄ := by
  mvcgen [step, hrun]
  case vc1 =>
    next e he hnil =>
    subst he
    simp [hq] at hnil
  case vc2 =>
    next e he t' rest' hq' _ hd hr =>
    subst he
    rw [hq] at hq'
    cases hq'
    exact ⟨trivial, hlast hd (List.isEmpty_iff.1 hr)⟩
  case vc3 =>
    next e he t' rest' hq' _ hd hr =>
    subst he
    rw [hq] at hq'
    cases hq'
    exact ⟨trivial, hback hd fun h => hr (List.isEmpty_iff.2 h)⟩
  case vc4 =>
    next e he t' rest' hq' _ t'' hd ht =>
    subst he ht
    rw [hq] at hq'
    cases hq'
    rfl
  case vc6 =>
    next e he t' rest' hq' _ t'' hd ht =>
    subst he
    rw [hq] at hq'
    cases hq'
    rfl

/-- One step of the loop runs the task at the head of the queue, and what it
queues goes behind the rest; a marker that finds nothing behind it is
counted and leaves the queue empty. -/
theorem step_spec (c : Core) {t : Task} {rest : List Task} (hq : c.queue = t :: rest) :
    ⦃fun e => ⌜e.core = c⌝⦄ step
    ⦃⇓ r e => ⌜r = true ∧ ({ c with queue := rest }.Grows e.core ∨
      t = .drain ∧ rest = [] ∧ e.core.queue = [] ∧ e.core.stopped = c.stopped ∧ e.core.drains = c.drains + 1)⌝⦄ :=
  step_takes c hq (fun c' => { c with queue := rest }.Grows c' ∨
      t = .drain ∧ rest = [] ∧ c'.queue = [] ∧ c'.stopped = c.stopped ∧ c'.drains = c.drains + 1)
    (fun hd hr => .inr ⟨hd, hr, hr, rfl, rfl⟩)
    (fun _ _ => .inl (Core.quiet_enqueue { c with queue := rest, tasks := c.tasks + 1 } _).steady.grows)
    fun t' _ _ => by
      have htask := runTask_grows { c with queue := rest } t'
      mvcgen [htask]
      case vc1 =>
        next e he =>
        rw [he]
        exact Core.Grows.refl _
      case vc2 => exact .inl

theorem step_nil {e : Runtime} (hq : e.core.queue = []) : step.run e = (false, e) := by
  simp [step, core, hq]
  rfl

/-! ## Calls from outside the loop -/

/-- A call made on the engine from outside its loop. -/
inductive Request where
  | openSession (info : Info)
  | closeSession (id : SessionId)
  | setStatus (id : SessionId) (status : Status)
  | submit (id : SessionId) (line : InputLine)
  | submitInput (id : SessionId)
  | pressKey (id : SessionId) (spec : String)
  | invokeShortcut (id : SessionId) (name : String)
  | receiveLine (id : SessionId) (text : String) (prompt gag : Bool)
  | receiveGmcp (id : SessionId) (topic body : String)
  | applyConfig (cfg : Option Config.Settings)
  | requestReload (module : String)
  | emit (ev : Event.Message)

def Request.run : Request → Run Unit
  | .openSession info => discard (MudClient.Engine.openSession info)
  | .closeSession id => discard (MudClient.Engine.closeSession id)
  | .setStatus id status => discard (MudClient.Engine.setStatus id status)
  | .submit id line => discard (MudClient.Engine.submit id line)
  | .submitInput id => discard (MudClient.Engine.submitInput id)
  | .pressKey id spec => discard (MudClient.Engine.pressKey id spec)
  | .invokeShortcut id name => discard (MudClient.Engine.invokeShortcut id name)
  | .receiveLine id text prompt gag => discard (MudClient.Engine.receiveLine id text prompt gag)
  | .receiveGmcp id topic body => discard (MudClient.Engine.receiveGmcp id topic body)
  | .applyConfig cfg => discard (MudClient.Engine.applyConfig cfg)
  | .requestReload module => MudClient.Engine.requestReload module
  | .emit ev => modifyCore (·.emit ev)

section Requests

variable (c₀ : Core)

theorem announceFor_quiet (id : SessionId) (kind : Event.Kind) (payload : Event.Payload) :
    ⦃fun e => ⌜c₀.Quiet e.core⌝⦄ announceFor id kind payload ⦃⇓ _ e => ⌜c₀.Quiet e.core⌝⦄ := by
  mvcgen [announceFor, forSession, known]
  exact ‹c₀.Quiet _›.emit _

attribute [local irreducible] Key.Code.ofSpec? in
theorem Request.run_quiet (r : Request) : ⦃fun e => ⌜c₀.Quiet e.core⌝⦄ r.run ⦃⇓ _ e => ⌜c₀.Quiet e.core⌝⦄ := by
  have hannounce := announceFor_quiet c₀
  cases r <;> mvcgen [Request.run, MudClient.Engine.openSession, MudClient.Engine.closeSession,
    MudClient.Engine.setStatus, MudClient.Engine.submit, MudClient.Engine.submitInput, MudClient.Engine.pressKey,
    MudClient.Engine.invokeShortcut, MudClient.Engine.receiveLine, MudClient.Engine.receiveGmcp,
    MudClient.Engine.applyConfig, MudClient.Engine.requestReload, forSession, known, hannounce, Functor.discard,
    map_const, Function.comp_apply]
  all_goals first
    | exact ‹c₀.Quiet _›.enqueue _
    | exact ‹c₀.Quiet _›.emit _
    | refine Core.Quiet.emit ?_ _
      exact ‹c₀.Quiet _›.calm (Core.calm_addOutput ‹_›)

end Requests

/-! ## Runs of the engine -/

theorem run_discard {α : Type} (x : Run α) (e : Runtime) : (discard x).run e = ((), (x.run e).2) := rfl

/-- What can happen to the engine next: a call from outside, or a step of
its loop. -/
inductive Move where
  | call (r : Request)
  | step

def Move.run : Move → Run Unit
  | .call r => r.run
  | .step => discard MudClient.Engine.step

def Move.taken : Move → Runtime → List Task
  | .call _, _ => []
  | .step, e => e.core.queue.take 1

/-- Makes moves in turn; answers the tasks the loop took, in order, and the
engine the moves end with. -/
def runMoves : List Move → Runtime → List Task × Runtime
  | [], e => ([], e)
  | m :: ms, e =>
    let r := runMoves ms (m.run.run e).2
    (m.taken e ++ r.1, r.2)

/-- A move takes tasks from the head of the queue and adds tasks at its end,
none once the engine stopped. -/
theorem Move.takes_head (m : Move) (e : Runtime) :
    ∃ added, m.taken e ++ (m.run.run e).2.core.queue = e.core.queue ++ added ∧
      (e.core.stopped = true → added = []) ∧ (m.run.run e).2.core.stopped = e.core.stopped := by
  cases m with
  | call r =>
    obtain ⟨⟨⟨⟨added, hq⟩, hclosed, hstop, -⟩, -⟩, -⟩ :=
      Plugin.run_of_triple (Request.run_quiet e.core r) (Core.Quiet.refl e.core)
    simp only [Move.taken, Move.run, List.nil_append]
    refine ⟨added, hq.symm, fun hs => ?_, hstop⟩
    simpa [← hq] using hclosed hs
  | step =>
    cases hq : e.core.queue with
    | nil =>
      refine ⟨[], ?_, fun _ => rfl, ?_⟩ <;> simp [Move.run, Move.taken, hq, run_discard, step_nil hq]
    | cons t rest =>
      obtain ⟨-, hs⟩ := Plugin.run_of_triple (step_spec e.core hq) rfl
      simp only [Move.taken, Move.run, run_discard, hq, List.take_succ_cons, List.take_zero]
      rcases hs with ⟨⟨added, hadd⟩, hclosed, hstop, -⟩ | ⟨-, rfl, hnil, hstop, -⟩
      · refine ⟨added, by simp [← hadd], fun hs => ?_, hstop⟩
        simpa [← hadd] using hclosed hs
      · exact ⟨[], by simp [hnil], fun _ => rfl, hstop⟩

/-- A run of moves takes the tasks in the order they were queued, each once:
what it took, followed by what is left, is what was queued followed by what
was added meanwhile, and nothing is added once the engine stopped.  The
induction is on the moves, each of which takes from the head and adds at
the end (`Move.takes_head`). -/
theorem runMoves_takes_in_order : ∀ (ms : List Move) (e : Runtime),
    ∃ added, (runMoves ms e).1 ++ (runMoves ms e).2.core.queue = e.core.queue ++ added ∧
      (e.core.stopped = true → added = []) ∧ (runMoves ms e).2.core.stopped = e.core.stopped
  | [], e => ⟨[], by simp [runMoves], fun _ => rfl, rfl⟩
  | m :: ms, e => by
    obtain ⟨a₁, h₁, hc₁, hs₁⟩ := m.takes_head e
    obtain ⟨a₂, h₂, hc₂, hs₂⟩ := runMoves_takes_in_order ms (m.run.run e).2
    refine ⟨a₁ ++ a₂, ?_, fun hs => ?_, hs₂.trans hs₁⟩
    · calc (m.taken e ++ (runMoves ms (m.run.run e).2).1) ++ (runMoves ms (m.run.run e).2).2.core.queue
          = m.taken e ++ ((m.run.run e).2.core.queue ++ a₂) := by rw [List.append_assoc, h₂]
        _ = e.core.queue ++ (a₁ ++ a₂) := by rw [← List.append_assoc, h₁, List.append_assoc]
    · rw [hc₁ hs, hc₂ (hs₁.trans hs), List.append_nil]

theorem keeps_of_grows {α : Type} {x : Run α} (P : Core → Prop) (hP : ∀ c c', P c → c.Grows c' → P c')
    (hx : ∀ c₀ : Core, ⦃fun e => ⌜c₀.Grows e.core⌝⦄ x ⦃⇓ _ e => ⌜c₀.Grows e.core⌝⦄) :
    ⦃fun e => ⌜P e.core⌝⦄ x ⦃⇓ _ e => ⌜P e.core⌝⦄ := by
  intro e he
  show P (x.run e).2.core
  exact hP _ _ he (Plugin.run_of_triple (hx e.core) (Core.Grows.refl e.core))

theorem closed_of_grows (c c' : Core) (h : c.stopped = true ∧ c.queue = []) (hg : c.Grows c') :
    c'.stopped = true ∧ c'.queue = [] :=
  ⟨hg.2.2.1.trans h.1, (hg.2.1 h.1).trans h.2⟩

/-- A shutdown stops the engine and drops what is queued; unloading the
modules afterwards queues nothing. -/
theorem shutdown_closes : ⦃fun _ => ⌜True⌝⦄ shutdown ⦃⇓ _ e => ⌜e.core.stopped = true ∧ e.core.queue = []⌝⦄ := by
  have hunload := fun id => keeps_of_grows _ closed_of_grows fun c₀ => Plugin.unload_keeps (runner_grows c₀) id
  mvcgen [shutdown, hunload, Functor.discard, map_const, Function.comp_apply] invariants
  · ⇓ _ e => ⌜e.core.stopped = true ∧ e.core.queue = []⌝

theorem runMoves_after_shutdown (e : Runtime) (ms : List Move) : (runMoves ms (shutdown.run e).2).1 = [] := by
  have hclosed := Plugin.run_of_triple shutdown_closes (w := e) trivial
  obtain ⟨added, h, hc, -⟩ := runMoves_takes_in_order ms (shutdown.run e).2
  rw [hclosed.2, hc hclosed.1, List.append_nil] at h
  exact List.append_eq_nil_iff.1 h |>.1

/-! ## Waiting for the loop -/

/-- One round of a wait: it ends when its condition holds or the loop finds
nothing to do, and otherwise steps and waits on. -/
theorem runWhile_succ_run (done : Core → Bool) (fuel : Nat) (e : Runtime) :
    (runWhile done (fuel + 1)).run e =
      if done e.core then ((), e)
      else if (step.run e).1 then (runWhile done fuel).run (step.run e).2 else ((), (step.run e).2) := by
  cases hd : done e.core with
  | true => simp [runWhile, core, hd]; rfl
  | false =>
    rcases hs : step.run e with ⟨b, e'⟩
    cases b <;> simp [runWhile, core, hd, hs, StateT.run_bind] <;> rfl

theorem runWhile_steps (done : Core → Bool) : ∀ (fuel : Nat) (e : Runtime),
    ∃ n, ((runWhile done fuel).run e).2 = (runMoves (List.replicate n .step) e).2
  | 0, _ => ⟨0, rfl⟩
  | fuel + 1, e => by
    rw [runWhile_succ_run]
    split
    · exact ⟨0, rfl⟩
    · split
      · obtain ⟨n, hn⟩ := runWhile_steps done fuel (step.run e).2
        exact ⟨n + 1, hn⟩
      · exact ⟨1, rfl⟩

/-- Waiting for a marker to be counted: when the count grew past `before`,
the marker that did it found nothing behind it, and the wait ended there,
with the queue empty.  The induction is on the fuel; a step keeps the count
unless it is that marker (`step_spec`). -/
theorem runWhile_drained (before : Nat) : ∀ (fuel : Nat) (e : Runtime), e.core.drains ≤ before →
    ((runWhile (·.drains > before) fuel).run e).2.core.drains ≤ before ∨
      ((runWhile (·.drains > before) fuel).run e).2.core.queue = []
  | 0, _, h => .inl h
  | fuel + 1, e, h => by
    rw [runWhile_succ_run, if_neg (by simpa using h)]
    cases hq : e.core.queue with
    | nil =>
      rw [step_nil hq]
      exact .inl h
    | cons t rest =>
      obtain ⟨htrue, hs⟩ := Plugin.run_of_triple (step_spec e.core hq) rfl
      rw [if_pos htrue]
      rcases hs with hg | ⟨-, -, hnil, -, -⟩
      · exact runWhile_drained before fuel _ (hg.2.2.2 ▸ h)
      · by_cases h' : (step.run e).2.core.drains ≤ before
        · exact runWhile_drained before fuel _ h'
        · -- the marker was counted: the wait ends on the empty queue it left
          cases fuel with
          | zero => exact .inr hnil
          | succ f =>
            rw [runWhile_succ_run, if_pos (by simpa using h')]
            exact .inr hnil

/-- A flush queues its marker and waits for it to be counted, unless the
engine stopped. -/
theorem flush_run (e : Runtime) : flush.run e =
    if e.core.stopped then (some notRunning, e)
    else
      let e' := ((runWhile (·.drains > e.core.drains) taskLimit).run { e with core := e.core.enqueue .drain }).2
      (if e'.core.drains > e.core.drains then none else some waitExpired, e') := by
  cases hs : e.core.stopped with
  | true => simp [flush, core, hs]; rfl
  | false =>
    simp [flush, core, modifyCore, hs, StateT.run_bind]
    generalize StateT.run (runWhile _ taskLimit) _ = p
    obtain ⟨_, e'⟩ := p
    change StateT.run (if e.core.drains < e'.core.drains then pure none else pure (some waitExpired)) e' = _
    by_cases hlt : e.core.drains < e'.core.drains
    · rw [if_pos hlt, if_pos hlt]
      rfl
    · rw [if_neg hlt, if_neg hlt]
      rfl

/-- A flush that answers nothing waited until the queue was empty: the steps
it ran took every task queued before it, then its marker, then what was
queued meanwhile, in order. -/
theorem flush_drained (e : Runtime) (h : (flush.run e).1 = none) :
    ∃ n added, (flush.run e).2 = (runMoves (List.replicate n .step) { e with core := e.core.enqueue .drain }).2 ∧
      (runMoves (List.replicate n .step) { e with core := e.core.enqueue .drain }).1 = e.core.queue ++ .drain :: added ∧
      (flush.run e).2.core.queue = [] := by
  rw [flush_run] at h ⊢
  cases hs : e.core.stopped with
  | true => simp [hs] at h
  | false =>
    simp only [hs, Bool.false_eq_true, if_false] at h ⊢
    have hq : (e.core.enqueue .drain).queue = e.core.queue ++ [.drain] := by simp [Core.enqueue, hs]
    have hd : (e.core.enqueue .drain).drains = e.core.drains := by simp [Core.enqueue, hs]
    obtain ⟨n, hn⟩ := runWhile_steps (·.drains > e.core.drains) taskLimit { e with core := e.core.enqueue .drain }
    -- the answer is none only when the count grew, and then the queue is empty
    have hgrew : ¬ ((runWhile (·.drains > e.core.drains) taskLimit).run
        { e with core := e.core.enqueue .drain }).2.core.drains ≤ e.core.drains := by
      intro hle
      simp [Nat.not_lt.2 hle] at h
    have hempty := (runWhile_drained e.core.drains taskLimit _ hd.le).resolve_left hgrew
    obtain ⟨added, htaken, -, -⟩ := runMoves_takes_in_order (List.replicate n .step) { e with core := e.core.enqueue .drain }
    rw [← hn, hempty, List.append_nil] at htaken
    refine ⟨n, added, hn, ?_, hempty⟩
    simpa [hq] using htaken

/-! ## The discipline -/

/-- The loop's discipline.  However calls from outside interleave with the
loop's steps, the loop takes the queued tasks one at a time, in the order
they were queued and each once, and nothing after a shutdown; a publication
is one pass, which counts itself once, takes nothing back and sends what
its handlers emit to the end of the queue; and a flush that answers nothing
waited until every task queued before it, and every task those queued
before the queue was next empty, had run. -/
theorem loop_keeps_dispatch_discipline :
    (∀ (ms : List Move) (e : Runtime), ∃ added,
      (runMoves ms e).1 ++ (runMoves ms e).2.core.queue = e.core.queue ++ added ∧
        (e.core.stopped = true → added = [])) ∧
    (∀ (e : Runtime) (ms : List Move), (runMoves ms (shutdown.run e).2).1 = []) ∧
    (∀ (ev : Event.Message) (e : Runtime),
      e.core.Steady ((publishNow ev).run e).2.core ∧
        ((publishNow ev).run e).2.core.bus.stats.published =
          e.core.bus.stats.published + if ev.kind.valid then 1 else 0) ∧
    (∀ e : Runtime, (flush.run e).1 = none → ∃ n added,
      (flush.run e).2 = (runMoves (List.replicate n .step) { e with core := e.core.enqueue .drain }).2 ∧
      (runMoves (List.replicate n .step) { e with core := e.core.enqueue .drain }).1 =
        e.core.queue ++ .drain :: added ∧
      (flush.run e).2.core.queue = []) := by
  refine ⟨fun ms e => ?_, runMoves_after_shutdown, fun ev e => ?_, flush_drained⟩
  · obtain ⟨added, h, hc, -⟩ := runMoves_takes_in_order ms e
    exact ⟨added, h, hc⟩
  · exact Plugin.run_of_triple (publishNow_pass ev e.core) rfl

end MudClient.Engine
