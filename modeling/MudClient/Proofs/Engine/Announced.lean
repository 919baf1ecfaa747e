/-
# Where announced lines come from

The dispatcher runs a command for every announced line that reads as a
command line (`Proofs.Engine.Input`), so which lines are announced decides
which commands run.  Two things announce a line: the loop's handling of a
line the user entered (`submitLine`), which sends it only when it does not
read as a command line, and a script's `send` (`Core.sendLine`), which sends
it whatever it is and queues its announcement as a scripted line.

This module follows announcements through every run of the engine.  The
queue holds no announcement of a line but a script's (`Core.ScriptedQueue`):
the `mud` table queues one only through `send`, and calls from outside the
loop queue none when they emit no line themselves.  The record of
publications grows by no announcement of a line but those a task allows
(`Core.Announced`), a property closed under everything a task does but
publishing (`announced_closed`).  So a step publishes no announcement of a
line but that of the task it takes (`step_announced`), and a run none but
those of the tasks it took: each is a script's line taken from the queue or
a line the user entered, with its text and origin (`runMoves_announced`).
With the facts of each path this is `lines_sent_and_commands_run`.
-/
import MudClient.Proofs.Engine.Dispatch
import MudClient.Proofs.Engine.Input

open Std.Do

set_option mvcgen.warning false

namespace MudClient.Engine

open MudClient.Session Command

/-! ## Announcements of lines -/

/-- The announcement of a line a script sent, as `Core.sendLine` queues it. -/
def scriptedLine (id : SessionId) (text : String) : Event.Message :=
  { kind := .inputLineSent, session := some id, payload := some (.input { sent := text, scripted := true }) }

/-- The announcements of a line a task may publish: a queued publication its
own event, and the handling of a line the user entered the line's
announcement, with the text and origin it was entered with. -/
def Task.Announces : Task → Event.Message → Prop
  | .publish ev', ev => ev = ev'
  | .submit id line, ev => ∃ l : InputLine,
      ev = { kind := .inputLineSent, session := some id, payload := some (.input l) } ∧
        l.sent = line.sent ∧ l.scripted = line.scripted
  | _, _ => False

def Task.Scripted (t : Task) : Prop :=
  ∀ ev, t = .publish ev → ev.kind = .inputLineSent → ∃ id text, ev = scriptedLine id text

/-- Every announcement of a line waiting in the queue is of a line a script
sent. -/
def Core.ScriptedQueue (c : Core) : Prop := ∀ t ∈ c.queue, t.Scripted

/-- The queue announces no line but scripts', and the record of publications
is `p` followed by publications whose announcements of lines `A` allows. -/
def Core.Announced (p : List Event.Message) (A : Event.Message → Prop) (c : Core) : Prop :=
  c.ScriptedQueue ∧ ∃ new, c.published = p ++ new ∧ ∀ ev ∈ new, ev.kind = .inputLineSent → A ev

theorem custom_ne_inputLineSent : Event.Kind.custom ≠ Event.Kind.inputLineSent := by decide

theorem Task.scripted_of_ne_publish {t : Task} (h : ∀ ev, t ≠ .publish ev) : t.Scripted :=
  fun ev ht => absurd ht (h ev)

theorem Task.scripted_of_kind {ev : Event.Message} (h : ev.kind ≠ .inputLineSent) : (Task.publish ev).Scripted := by
  rintro _ ⟨⟩ hk
  exact absurd hk h

theorem Core.ScriptedQueue.enqueue {c : Core} (h : c.ScriptedQueue) {t : Task} (ht : t.Scripted) :
    (c.enqueue t).ScriptedQueue := by
  intro t' ht'
  unfold Core.enqueue at ht'
  split at ht'
  · exact h t' ht'
  · rcases List.mem_append.1 ht' with ht' | ht'
    · exact h t' ht'
    · exact (List.mem_singleton.1 ht') ▸ ht

section Announced

variable {p : List Event.Message} {A : Event.Message → Prop} {c c' : Core}

theorem Core.Announced.of_flow (h : c.Announced p A) (hq : c'.queue = c.queue) (hp : c'.published = c.published) :
    c'.Announced p A := by
  obtain ⟨hs, new, hpub, hnew⟩ := h
  exact ⟨fun t ht => hs t (hq ▸ ht), new, hp.trans hpub, hnew⟩

theorem Core.Announced.record (h : c.Announced p A) {ev : Event.Message} (hev : ev.kind = .inputLineSent → A ev) :
    { c with published := c.published ++ [ev] }.Announced p A := by
  obtain ⟨hs, new, hpub, hnew⟩ := h
  refine ⟨hs, new ++ [ev], by rw [hpub, List.append_assoc], fun x hx hk => ?_⟩
  rcases List.mem_append.1 hx with hx | hx
  · exact hnew x hx hk
  · obtain rfl := List.mem_singleton.1 hx
    exact hev hk

theorem Core.Announced.calm (h : c.Announced p A) (hc : c.Calm c') : c'.Announced p A :=
  h.of_flow hc.1 hc.2.2.2.2.2

theorem Core.Announced.enqueue (h : c.Announced p A) {t : Task} (ht : t.Scripted) : (c.enqueue t).Announced p A := by
  obtain ⟨hs, hrest⟩ := h
  refine ⟨hs.enqueue ht, ?_⟩
  unfold Core.enqueue
  split <;> exact hrest

theorem Core.Announced.refl (hs : c.ScriptedQueue) : c.Announced c.published A :=
  ⟨hs, [], by simp, by simp⟩

theorem Core.Announced.mono (h : c.Announced p A) {B : Event.Message → Prop} (hAB : ∀ ev, A ev → B ev) :
    c.Announced p B := by
  obtain ⟨hs, new, hpub, hnew⟩ := h
  exact ⟨hs, new, hpub, fun ev hev hk => hAB ev (hnew ev hev hk)⟩

theorem Core.Announced.trans (h : c.Announced p A) {B : Event.Message → Prop} (h' : c'.Announced c.published B) :
    c'.Announced p fun ev => A ev ∨ B ev := by
  obtain ⟨-, new, hpub, hnew⟩ := h
  obtain ⟨hs', new', hpub', hnew'⟩ := h'
  refine ⟨hs', new ++ new', by rw [hpub', hpub, List.append_assoc], fun ev hev hk => ?_⟩
  rcases List.mem_append.1 hev with hev | hev
  · exact .inl (hnew ev hev hk)
  · exact .inr (hnew' ev hev hk)

theorem Core.Announced.emit (h : c.Announced p A) {ev : Event.Message} (hev : ev.kind ≠ .inputLineSent) :
    (c.emit ev).Announced p A :=
  h.enqueue (Task.scripted_of_kind hev)

theorem sendLine_eq_emit {id : SessionId} {text : String} (h : c.sendLine id text = .ok c') :
    ∃ host, c' = { c with host }.emit (scriptedLine id text) := by
  unfold Core.sendLine at h
  cases hh : c.host.send id text with
  | error f => simp [hh] at h
  | ok host =>
    simp only [hh, bind, Except.bind, pure, Except.pure, Except.ok.injEq] at h
    exact ⟨host, h.symm⟩

end Announced

/-- The record of publications grows by announcements of lines only where
it is published, and the queue gains no announcement of a line but a
script's: the `mud` table queues lines only through `send`. -/
theorem announced_closed (p : List Event.Message) (A : Event.Message → Prop) : TaskClosed (Core.Announced p A) where
  handler :=
    { api :=
        { subscribe := fun _ _ _ _ _ _ _ h => h
          register := fun _ _ _ _ h => ⟨h, fun _ _ => h⟩
          off := fun _ _ _ _ h => ⟨h, fun _ _ => h⟩
          emit := fun _ _ _ _ h => h.enqueue (Task.scripted_of_kind custom_ne_inputLineSent)
          send := fun b id text _ hsend h => by
            obtain ⟨host, rfl⟩ := sendLine_eq_emit hsend
            have hhost : ({ b.core with host } : Core).Announced p A := h.of_flow rfl rfl
            exact hhost.enqueue fun _ ht _ => ⟨id, text, (Task.publish.inj ht).symm⟩
          output := fun _ _ _ _ hout h => h.calm (Core.calm_addOutput hout)
          command := fun _ _ _ _ _ _ _ _ h => h
          setup := fun _ _ h => h
          beforeReload := fun _ _ h => h }
      calm := fun _ _ h hc => h.calm hc
      reload := fun _ _ h => h.enqueue (Task.scripted_of_ne_publish (by simp))
      bus := fun _ _ _ _ h => h
      setupError := fun _ h => h }
  flow _ _ h hq _ _ hp := h.of_flow hq hp
  record _ _ hev h := h.record fun hk => absurd hk hev

/-! ## What a step publishes -/

section Steps

variable (p : List Event.Message)

/-- Publishing an event keeps the record's announcements of lines to those
`A` allows when `A` allows the event. -/
theorem publishNow_announced (A : Event.Message → Prop) (ev : Event.Message)
    (hev : ev.kind = .inputLineSent → A ev) :
    ⦃fun e => ⌜e.core.Announced p A⌝⦄ publishNow ev ⦃⇓ _ e => ⌜e.core.Announced p A⌝⦄ := by
  have hdeliver := deliver_holds (announced_closed p A).handler ev false
  mvcgen [publishNow, Event.Bus.publish, hdeliver]
  all_goals (have h := ‹Core.Announced _ _ _›; exact (h.record hev).of_flow rfl rfl)

/-- Handling a line the user entered announces it, with the text and origin
it was entered with. -/
theorem submitLine_announced (id : SessionId) (line : InputLine) :
    ⦃fun e => ⌜e.core.Announced p (Task.submit id line).Announces⌝⦄ submitLine id line
      ⦃⇓ _ e => ⌜e.core.Announced p (Task.submit id line).Announces⌝⦄ := by
  have hpublish := fun hidden : Bool => publishNow_announced p (Task.submit id line).Announces
    { kind := .inputLineSent, session := some id,
      payload := some (.input (if hidden then { line with echoSuppressed := true } else line)) }
    fun _ => ⟨_, rfl, by split <;> rfl, by split <;> rfl⟩
  mvcgen [submitLine, hpublish, Functor.discard, map_const, Function.comp_apply]
  all_goals split <;> (have h := ‹Core.Announced _ _ _›; exact h.of_flow rfl rfl)

theorem runTask_announced (t : Task) :
    ⦃fun e => ⌜e.core.Announced p t.Announces⌝⦄ runTask t ⦃⇓ _ e => ⌜e.core.Announced p t.Announces⌝⦄ := by
  have hc := announced_closed p t.Announces
  cases t with
  | publish ev =>
    have hpublish := publishNow_announced p (Task.publish ev).Announces ev fun _ => rfl
    mvcgen [runTask, hpublish, Functor.discard, map_const, Function.comp_apply]
  | closeSession id info =>
    have hkind : Event.Kind.sessionClosed ≠ Event.Kind.inputLineSent := by decide
    have hpublish := publishNow_holds hc { kind := .sessionClosed, session := some id, payload := some (.session info "") } hkind
    mvcgen [runTask, hpublish, Functor.discard, map_const, Function.comp_apply]
  | submit id line => exact submitLine_announced p id line
  | reload m => exact reloadModules_holds hc m
  | applyConfig cfg => exact applyConfigNow_holds hc cfg
  | navigate id dir =>
    mvcgen [runTask]
    exact hc.handler.calm _ _ ‹_› (calm_navigate_answer _ _ _)
  | crash message => mvcgen [runTask]
  | probe => mvcgen [runTask]
  | drain => mvcgen [runTask]

/-- A step publishes no announcement of a line but those the task it takes
allows, and queues none but scripts'. -/
theorem step_announced (c : Core) {t : Task} {rest : List Task} (hq : c.queue = t :: rest)
    (hs : c.ScriptedQueue) :
    ⦃fun e => ⌜e.core = c⌝⦄ step ⦃⇓ r e => ⌜r = true ∧ e.core.Announced c.published t.Announces⌝⦄ := by
  have hpop : ∀ A, ({ c with queue := rest, tasks := c.tasks + 1 } : Core).Announced c.published A :=
    fun _ => ⟨fun t' ht' => hs t' (by rw [hq]; exact List.mem_cons_of_mem _ ht'), [], by simp, by simp⟩
  refine step_takes c hq _ (fun _ _ => (hpop _).of_flow rfl rfl)
    (fun _ _ => (hpop _).enqueue (Task.scripted_of_ne_publish (by simp))) fun t' ht' _ e he => ?_
  subst ht'
  have he' : e.core = { c with queue := rest, tasks := c.tasks + 1 } := he
  exact runTask_announced c.published t' e (show Core.Announced _ _ e.core from he' ▸ hpop _)

end Steps

/-! ## Runs of the engine -/

section Calls

variable (p : List Event.Message) (A : Event.Message → Prop)

theorem announceFor_announced (id : SessionId) (kind : Event.Kind) (payload : Event.Payload) :
    ⦃fun e => ⌜e.core.Announced p A ∧ kind ≠ .inputLineSent⌝⦄ announceFor id kind payload
      ⦃⇓ _ e => ⌜e.core.Announced p A⌝⦄ := by
  mvcgen [announceFor, forSession, known]
  all_goals
    obtain ⟨h, hk⟩ := ‹_ ∧ _›
    first | exact h.emit hk | exact h

attribute [local irreducible] Key.Code.ofSpec? in
/-- A call from outside the loop queues no announcement of a line unless it
emits one itself. -/
theorem Request.run_announced (r : Request) (hr : ∀ ev, r = .emit ev → ev.kind ≠ .inputLineSent) :
    ⦃fun e => ⌜e.core.Announced p A⌝⦄ r.run ⦃⇓ _ e => ⌜e.core.Announced p A⌝⦄ := by
  have hannounce := announceFor_announced p A
  cases r <;> mvcgen [Request.run, MudClient.Engine.openSession, MudClient.Engine.closeSession,
    MudClient.Engine.setStatus, MudClient.Engine.submit, MudClient.Engine.submitInput, MudClient.Engine.pressKey,
    MudClient.Engine.invokeShortcut, MudClient.Engine.receiveLine, MudClient.Engine.receiveGmcp,
    MudClient.Engine.applyConfig, MudClient.Engine.requestReload, forSession, known, hannounce, Functor.discard,
    map_const, Function.comp_apply]
  all_goals first
    | exact ‹Core.Announced _ _ _›.emit (hr _ rfl)
    | exact (‹Core.Announced _ _ _›.of_flow rfl rfl).emit (by dsimp only; decide)
    | exact (‹Core.Announced _ _ _›.calm (Core.calm_addOutput ‹_›)).emit (by dsimp only; decide)
    | exact ‹Core.Announced _ _ _›.enqueue (Task.scripted_of_ne_publish (by simp))

end Calls

def Move.Announcing (taken : List Task) (ev : Event.Message) : Prop :=
  ∃ t ∈ taken, t.Scripted ∧ t.Announces ev

/-- A move publishes no announcement of a line but those of the task it
takes, unless it is a call that emits one itself. -/
theorem Move.announced (m : Move) (e : Runtime) (hs : e.core.ScriptedQueue)
    (hm : ∀ ev, m = .call (.emit ev) → ev.kind ≠ .inputLineSent) :
    (m.run.run e).2.core.Announced e.core.published (Move.Announcing (m.taken e)) := by
  cases m with
  | call r =>
    exact Plugin.run_of_triple (Request.run_announced _ _ r fun ev h => hm ev (h ▸ rfl)) (Core.Announced.refl hs)
  | step =>
    cases hq : e.core.queue with
    | nil =>
      simp only [Move.run, run_discard, step_nil hq]
      exact Core.Announced.refl hs
    | cons t rest =>
      have ht := hs t (by simp [hq])
      obtain ⟨-, h⟩ := Plugin.run_of_triple (step_announced e.core hq hs) rfl
      simp only [Move.run, run_discard, Move.taken, hq, List.take_succ_cons, List.take_zero]
      exact h.mono fun ev hev => ⟨t, List.mem_singleton_self t, ht, hev⟩

/-- A run publishes no announcement of a line but those of the tasks it
takes, as long as no call emits one itself.  The induction is on the moves;
the queue announcing no line but scripts' carries it. -/
theorem runMoves_announced : ∀ (ms : List Move) (e : Runtime), e.core.ScriptedQueue →
    (∀ ev, Move.call (.emit ev) ∈ ms → ev.kind ≠ .inputLineSent) →
    (runMoves ms e).2.core.Announced e.core.published (Move.Announcing (runMoves ms e).1)
  | [], e, hs, _ => Core.Announced.refl hs
  | m :: ms, e, hs, hm => by
    have h₁ := m.announced e hs fun ev h => hm ev (h ▸ List.mem_cons_self ..)
    have h₂ := runMoves_announced ms _ h₁.1 fun ev h => hm ev (List.mem_cons_of_mem _ h)
    simp only [runMoves]
    refine (h₁.trans h₂).mono fun ev hev => ?_
    rcases hev with ⟨t, ht, hst⟩ | ⟨t, ht, hst⟩
    · exact ⟨t, List.mem_append_left _ ht, hst⟩
    · exact ⟨t, List.mem_append_right _ ht, hst⟩

/-- Where an announcement of a line comes from: a script's line, in the form
`Core.sendLine` queues it, taken from the queue; or a line the user entered,
announced by its handling with the text and origin it was entered with. -/
def LineSource (taken : List Task) (ev : Event.Message) : Prop :=
  (∃ id text, ev = scriptedLine id text ∧ Task.publish ev ∈ taken) ∨
    ∃ id line, Task.submit id line ∈ taken ∧ (Task.submit id line).Announces ev

theorem Move.Announcing.source {taken : List Task} {ev : Event.Message} (h : Move.Announcing taken ev)
    (hk : ev.kind = .inputLineSent) : LineSource taken ev := by
  obtain ⟨t, ht, hs, ha⟩ := h
  cases t with
  | publish ev' =>
    obtain ⟨id, text, rfl⟩ := hs ev' rfl (ha ▸ hk)
    exact .inl ⟨id, text, ha, ha ▸ ht⟩
  | submit id line => exact .inr ⟨id, line, ht, ha⟩
  | _ => exact ha.elim

/-! ## Sent or run -/

/-- Every announcement of a line that a run of the engine publishes comes
from the handling of a line the user entered or from a script's `send`, as
long as no call from outside emits one itself.  And wherever the engine
stands, for an open session: a line the user enters goes to the MUD exactly
when it does not read as a command line, and is announced with the text and
origin it was entered with; a line a script sends goes to the MUD whatever
it is, and is queued for announcement as a scripted line; and the
dispatcher runs a command for an announced line exactly when it reads as a
command line, doing nothing for the others. -/
theorem lines_sent_and_commands_run (ms : List Move) (e : Runtime) (hs : e.core.ScriptedQueue)
    (hm : ∀ ev, Move.call (.emit ev) ∈ ms → ev.kind ≠ .inputLineSent) :
    (∃ new, (runMoves ms e).2.core.published = e.core.published ++ new ∧
      ∀ ev ∈ new, ev.kind = .inputLineSent → LineSource (runMoves ms e).1 ev) ∧
    ∀ (e : Runtime) (id : SessionId) (line : InputLine) (text : String), e.core.host.isOpen id = true →
      (∃ (host : Host) (line₁ : InputLine), line₁.sent = line.sent ∧ line₁.scripted = line.scripted ∧
        host.sentLines id = e.core.host.sentLines id ++
          (if (Line.parse? line.sent e.core.leader).isNone then [line.sent] else []) ∧
        (submitLine id line).run e =
          (discard (publishNow
            { kind := .inputLineSent, session := some id, payload := some (.input line₁) })).run
            { e with core := { e.core with host } }) ∧
      (∃ host, host.sentLines id = e.core.host.sentLines id ++ [text] ∧
        e.core.sendLine id text = .ok ({ e.core with host }.emit (scriptedLine id text))) ∧
      (∀ l : InputLine, e.core.commands.route e.core.leader id l.sent = .ignored ↔
        Line.parse? l.sent e.core.leader = none) ∧
      (∀ l : InputLine, Line.parse? l.sent e.core.leader = none →
        (dispatchLine { kind := .inputLineSent, session := some id, payload := some (.input l) }).run e =
          (.ok, e)) := by
  refine ⟨?_, fun e id line text ho => ?_⟩
  · obtain ⟨-, new, hpub, hnew⟩ := runMoves_announced ms e hs hm
    exact ⟨new, hpub, fun ev hev hk => (hnew ev hev hk).source hk⟩
  · obtain ⟨host, hsent, hrun⟩ := submitLine_run e id line ho
    refine ⟨⟨host, _, ?_, ?_, hsent, hrun⟩, Core.sendLine_eq e.core id text ho,
      fun l => route_eq_ignored_iff _ _ _ _, fun l hl => dispatchLine_of_parse?_none e id l hl⟩
    · split <;> rfl
    · split <;> rfl

/-- A script that sends `/modules` on a newly opened session sends it to the
MUD, and the dispatcher runs the command for its announcement all the same;
a run in which the user enters a line and the loop handles it announces no
line but from where the lines come. -/
theorem scripted_command_line_sent_and_run :
    let e : Runtime := { core := { host := (({} : Host).openSession {}).2 } }
    let ms := [Move.call (.submit 1 { sent := "look" }), .step]
    e.core.ScriptedQueue ∧
      (∃ new, (runMoves ms e).2.core.published = e.core.published ++ new ∧
        ∀ ev ∈ new, ev.kind = .inputLineSent → LineSource (runMoves ms e).1 ev) ∧
      e.core.host.isOpen 1 = true ∧
      (∃ host, host.sentLines 1 = ["/modules"] ∧
        e.core.sendLine 1 "/modules" = .ok ({ e.core with host }.emit (scriptedLine 1 "/modules"))) ∧
      e.core.commands.route e.core.leader 1 "/modules" ≠ .ignored := by
  intro e ms
  have hs : e.core.ScriptedQueue := fun _ h => absurd h List.not_mem_nil
  have hm : ∀ ev, Move.call (.emit ev) ∈ ms → ev.kind ≠ .inputLineSent := by simp [ms]
  have ho : e.core.host.isOpen 1 = true := by decide
  obtain ⟨hrun, hcall⟩ := lines_sent_and_commands_run ms e hs hm
  obtain ⟨-, ⟨host, hsent, hsend⟩, hroute, -⟩ := hcall e 1 {} "/modules" ho
  have hnone : e.core.host.sentLines 1 = [] := by decide
  have hcmd : (Line.parse? "/modules" e.core.leader).isSome = true := by decide +kernel
  refine ⟨hs, hrun, ho, ⟨host, by rw [hsent, hnone, List.nil_append], hsend⟩, fun h => ?_⟩
  have := (hroute { sent := "/modules" }).1 h
  rw [this] at hcmd
  cases hcmd

end MudClient.Engine
