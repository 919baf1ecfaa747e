/-
# Delivery while handlers use the bus

A publication takes the subscriptions of the event's kind as they are when
it starts and walks them in order; the handlers it runs may subscribe,
unsubscribe and take back owners on the same bus while the walk goes on,
and the context of the publication may end at any moment of it.  This
module says which handlers such a pass runs, whatever they do.

A handler is given here as a behaviour: from its subscription, its own
state and the bus as it finds it, the calls it makes on the bus, how it
ends (returns, fails or panics) and its next state.  The context is read
off that state (`doneOf`), so a handler may end it, and so may anything
else that acts between two turns.  The pass runs in a state monad over the
bus, the handlers' state and the record of the turns taken, each turn the
subscription run, the calls its handler made, its outcome and whether the
context was done when it returned.

The answer is stated against the history of the bus (see
`MudClient.Proofs.Event.Ledger`): `RunsDue` says that a pass runs each
subscription of the snapshot exactly when its filter admits the event and
the history so far, including the calls of the handlers that ran before
it, has not removed it, until the first such subscription that finds the
context done, where it stops.  Nothing about a handler's outcome enters
that rule, so a failure never stops the handlers after it, and a
subscription made during the pass is not in the snapshot and never runs.
The answer is one fault per failed handler, in the order they ran, and the
context's error after them when the pass stopped (`publish_runs_due`).
-/
import MudClient.Proofs.Event.Ledger

namespace MudClient.Event

/-! ## Handlers as behaviours -/

/-- One handler run by a pass: its subscription, the calls it made on the
bus, how it ended, and whether the context was done when it returned. -/
structure Turn (η : Type) where
  sub : Subscription η
  calls : List (Call η)
  outcome : Outcome
  done : Bool

/-- What a handler does when it runs, from its subscription, the handlers'
own state and the bus: its calls, its outcome and the next state. -/
def Behaviour (η σ : Type) : Type :=
  Subscription η → σ → Bus η → List (Call η) × Outcome × σ

/-- The world a pass runs in: the bus, the handlers' own state, and the
turns taken so far. -/
structure Pass (η σ : Type) where
  bus : Bus η
  mine : σ
  turns : List (Turn η) := []

variable {η σ : Type}

/-- The fault a turn adds to the publication's answer, if its handler
failed or panicked. -/
def Turn.fault (kind : Kind) (t : Turn η) : Option PublishFault :=
  match t.outcome with
  | .ok => none
  | cause => some (.handler t.sub.serial t.sub.owner kind cause)

namespace Pass

def getBus : StateM (Pass η σ) (Bus η) := do pure (← get).bus

def setBus (b : Bus η) : StateM (Pass η σ) Unit := modify fun w => { w with bus := b }

def isDone (doneOf : σ → Bool) : StateM (Pass η σ) Bool := do pure (doneOf (← get).mine)

/-- Runs the handler of a subscription: its calls are made on the bus and
the turn is recorded. -/
def turn (behave : Behaviour η σ) (doneOf : σ → Bool) (sub : Subscription η) (_ : Bool) :
    StateM (Pass η σ) Outcome := do
  let w ← get
  let (calls, outcome, mine) := behave sub w.mine w.bus
  set ({ bus := w.bus.performAll calls, mine,
         turns := w.turns ++ [⟨sub, calls, outcome, doneOf mine⟩] } : Pass η σ)
  pure outcome

/-! ## One subscription of a pass

One lemma for each way the pass can treat the next subscription; the
proofs below cite these and never unfold the pass. -/

section Deliver

variable (behave : Behaviour η σ) (doneOf : σ → Bool) (ev : Message) (w : Pass η σ)
  (sub : Subscription η) (rest : List (Subscription η))

abbrev walk (subs : List (Subscription η)) : StateM (Pass η σ) (List PublishFault) :=
  Bus.deliver getBus setBus (turn behave doneOf) ev (isDone doneOf) subs

theorem deliver_nil : (walk behave doneOf ev []).run w = ([], w) := rfl

theorem deliver_removed (h : w.bus.registry.isCancelled sub.serial = true) :
    (walk behave doneOf ev (sub :: rest)).run w = (walk behave doneOf ev rest).run w := by
  simp [walk, Bus.deliver, getBus, h]

theorem deliver_refused (h : w.bus.registry.isCancelled sub.serial = false)
    (ha : sub.filter.admits ev = false) :
    (walk behave doneOf ev (sub :: rest)).run w =
      (walk behave doneOf ev rest).run
        { w with bus := { w.bus with stats := { w.bus.stats with filtered := w.bus.stats.filtered + 1 } } } := by
  simp [walk, Bus.deliver, getBus, setBus, h, ha]

theorem deliver_stopped (h : w.bus.registry.isCancelled sub.serial = false)
    (ha : sub.filter.admits ev = true) (hd : doneOf w.mine = true) :
    (walk behave doneOf ev (sub :: rest)).run w =
      ([.cancelled ev.kind],
        { w with bus := { w.bus with calls := w.bus.calls.note (.skipped cancelledReason) } }) := by
  simp [walk, Bus.deliver, getBus, setBus, isDone, h, ha, hd]
  rfl

/-- Otherwise the subscription's handler runs, and the pass goes on from
the bus its calls left, whatever its outcome. -/
theorem deliver_turn (h : w.bus.registry.isCancelled sub.serial = false)
    (ha : sub.filter.admits ev = true) (hd : doneOf w.mine = false) {calls : List (Call η)} {o : Outcome}
    {mine : σ} (hb : behave sub w.mine w.bus = (calls, o, mine)) :
    (walk behave doneOf ev (sub :: rest)).run w =
      let r := (walk behave doneOf ev rest).run
        { bus := (w.bus.performAll calls).noteDelivery o, mine,
          turns := w.turns ++ [⟨sub, calls, o, doneOf mine⟩] }
      ((Turn.fault ev.kind ⟨sub, calls, o, doneOf mine⟩).toList ++ r.1, r.2) := by
  simp [walk, Bus.deliver, getBus, setBus, isDone, turn, h, ha, hd, hb]
  cases o <;> rfl

/-- A publication of a known kind counts itself and walks the kind's
subscriptions as they are when it starts. -/
theorem publish_run (hk : ev.kind.valid = true) :
    (Bus.publish getBus setBus (turn behave doneOf) ev (isDone doneOf)).run w =
      (walk behave doneOf ev (w.bus.ofKind ev.kind)).run
        { w with bus := { w.bus with stats := { w.bus.stats with published := w.bus.stats.published + 1 } } } := by
  simp [Bus.publish, hk]
  rfl

end Deliver

end Pass

/-! ## Which subscriptions a pass runs -/

/-- `RunsDue ev l d subs T stopped`: walking `subs` from the history `l`,
with the context done or not as `d` says, the turns `T` run each
subscription whose filter admits `ev` and that has not been removed, until
the first such one that finds the context done, where the walk stops
(`stopped`).  Each turn's calls extend the history the next subscriptions
are judged by, and the context as the turn left it is the one the next
subscription due finds.  A turn's outcome plays no part. -/
inductive RunsDue (ev : Message) : Ledger η → Bool → List (Subscription η) → List (Turn η) → Bool → Prop
  | nil {l : Ledger η} {d : Bool} : RunsDue ev l d [] [] false
  | skip {l : Ledger η} {d : Bool} {sub : Subscription η} {rest : List (Subscription η)} {T : List (Turn η)}
      {stopped : Bool} (h : ¬(sub.filter.admits ev = true ∧ sub.serial ∉ l.gone))
      (tail : RunsDue ev l d rest T stopped) :
      RunsDue ev l d (sub :: rest) T stopped
  | stop {l : Ledger η} {sub : Subscription η} {rest : List (Subscription η)}
      (ha : sub.filter.admits ev = true) (hl : sub.serial ∉ l.gone) :
      RunsDue ev l true (sub :: rest) [] true
  | run {l : Ledger η} {sub : Subscription η} {rest : List (Subscription η)} {calls : List (Call η)}
      {outcome : Outcome} {done : Bool} {T : List (Turn η)} {stopped : Bool}
      (ha : sub.filter.admits ev = true) (hl : sub.serial ∉ l.gone)
      (tail : RunsDue ev (l.run calls) done rest T stopped) :
      RunsDue ev l false (sub :: rest) (⟨sub, calls, outcome, done⟩ :: T) stopped

theorem RunsDue.sublist {ev : Message} {l : Ledger η} {d stopped : Bool} {subs : List (Subscription η)}
    {T : List (Turn η)} (h : RunsDue ev l d subs T stopped) : (T.map (·.sub)).Sublist subs := by
  induction h with
  | nil => exact .slnil
  | skip _ _ ih => exact ih.cons _
  | stop => exact List.nil_sublist _
  | run _ _ _ ih => exact ih.cons_cons _

theorem RunsDue.of_done {ev : Message} {l : Ledger η} {stopped : Bool} {subs : List (Subscription η)}
    {T : List (Turn η)} (h : RunsDue ev l true subs T stopped) : T = [] := by
  generalize hd : true = d at h
  induction h with
  | nil => rfl
  | skip _ _ ih => exact ih hd
  | stop => rfl
  | run => cases hd

/-- Publishing's own writes touch only the totals, so a bus they leave
follows the history the bus before followed. -/
theorem Follows.of_registry {b b' : Bus η} {l : Ledger η} (hf : Follows b l)
    (hr : b'.registry = b.registry) (hi : b'.issued = b.issued) : Follows b' l := by
  obtain ⟨h₁, h₂, h₃, h₄, h₅, h₆⟩ := hf
  exact ⟨hi.trans h₁, hr ▸ h₂, hr ▸ h₃, hr ▸ h₄, hr ▸ h₅, hr ▸ h₆⟩

/-- Counting a publication or a filtered subscription keeps the bus on its
history. -/
theorem Follows.stats {b : Bus η} {l : Ledger η} (hf : Follows b l) (s : BusStats) :
    Follows { b with stats := s } l :=
  hf.of_registry rfl rfl

theorem Follows.noteDelivery {b : Bus η} {l : Ledger η} (hf : Follows b l) (o : Outcome) :
    Follows (b.noteDelivery o) l :=
  hf.of_registry rfl rfl

theorem Follows.isCancelled_iff {b : Bus η} {l : Ledger η} (hf : Follows b l) (n : Nat) :
    b.registry.isCancelled n = true ↔ n ∈ l.gone := by
  rw [Registry.isCancelled, List.contains_iff_mem, hf.cancelled n]

/-! ## A whole pass -/

section Walk

variable (behave : Behaviour η σ) (doneOf : σ → Bool) (ev : Message)

/-- Walking subscriptions from a bus that follows a sound history runs
exactly the due ones, until one finds the context done: the turns it
records are `RunsDue`, its answer is one fault per failed handler in the
order they ran and then the context's error if it stopped, and the bus it
leaves follows the history extended by all the handlers' calls. -/
theorem deliver_runsDue (subs : List (Subscription η)) (w w' : Pass η σ) (l : Ledger η)
    (faults : List PublishFault) (hr : (Pass.walk behave doneOf ev subs).run w = (faults, w'))
    (hf : Follows w.bus l) (hl : l.Sound) :
    ∃ T stopped, w'.turns = w.turns ++ T ∧ RunsDue ev l (doneOf w.mine) subs T stopped ∧
      faults = T.filterMap (Turn.fault ev.kind) ++ (if stopped then [.cancelled ev.kind] else []) ∧
      Follows w'.bus (l.run (T.flatMap (·.calls))) := by
  induction subs generalizing w l faults with
  | nil =>
      rw [Pass.deliver_nil] at hr
      obtain ⟨rfl, rfl⟩ := Prod.mk.inj hr
      exact ⟨[], false, by simp, .nil, rfl, hf⟩
  | cons sub rest ih =>
      cases hc : w.bus.registry.isCancelled sub.serial with
      | true =>
          -- removed by the history so far: passed over
          have hgone : sub.serial ∈ l.gone := (hf.isCancelled_iff _).1 hc
          rw [Pass.deliver_removed behave doneOf ev w sub rest hc] at hr
          obtain ⟨T, s, h₁, h₂, h₃, h₄⟩ := ih w l faults hr hf hl
          exact ⟨T, s, h₁, .skip (fun h => h.2 hgone) h₂, h₃, h₄⟩
      | false =>
          have hlive : sub.serial ∉ l.gone := fun h => by
            rw [(hf.isCancelled_iff _).2 h] at hc
            cases hc
          cases ha : sub.filter.admits ev with
          | false =>
              rw [Pass.deliver_refused behave doneOf ev w sub rest hc ha] at hr
              obtain ⟨T, s, h₁, h₂, h₃, h₄⟩ := ih _ l faults hr (hf.stats _) hl
              exact ⟨T, s, h₁, .skip (fun h => by simp [ha] at h) h₂, h₃, h₄⟩
          | true =>
              cases hd : doneOf w.mine with
              | true =>
                  -- the context is done: this subscription is skipped and the pass ends
                  rw [Pass.deliver_stopped behave doneOf ev w sub rest hc ha hd] at hr
                  obtain ⟨rfl, rfl⟩ := Prod.mk.inj hr
                  exact ⟨[], true, by simp, .stop ha hlive, rfl, hf.of_registry rfl rfl⟩
              | false =>
                  -- the handler runs; the rest of the pass starts from the history its
                  -- calls extend, and from the context as it left it
                  rcases hb : behave sub w.mine w.bus with ⟨calls, o, mine⟩
                  rw [Pass.deliver_turn behave doneOf ev w sub rest hc ha hd hb] at hr
                  have hf' := (follows_performAll hf hl calls).noteDelivery o
                  cases hrest : (Pass.walk behave doneOf ev rest).run
                      { bus := (w.bus.performAll calls).noteDelivery o, mine,
                        turns := w.turns ++ [⟨sub, calls, o, doneOf mine⟩] } with
                  | mk more w₁ =>
                      rw [hrest] at hr
                      simp only at hr
                      obtain ⟨rfl, rfl⟩ := Prod.mk.inj hr
                      obtain ⟨T, s, h₁, h₂, h₃, h₄⟩ := ih _ (l.run calls) more hrest hf' (hl.run calls)
                      refine ⟨⟨sub, calls, o, doneOf mine⟩ :: T, s, by simp [h₁], .run ha hlive h₂, ?_, ?_⟩
                      · rw [h₃, List.filterMap_cons]
                        cases Turn.fault ev.kind ⟨sub, calls, o, doneOf mine⟩ <;> rfl
                      · rw [List.flatMap_cons, Ledger.run_append]
                        exact h₄

end Walk

/-! ## Publishing -/

/-- Publishing an event of a known kind on a bus with any history, with
handlers that behave in any way and a context that may end at any turn: the
handlers run are subscriptions of the event's kind as they were when
publishing started, that is its live subscriptions in the order they were
made.  They are exactly those whose filter admits the event and that had
not been removed before their turn, whatever the handlers before them did
or how they ended, up to the first of them that finds the context done,
where the pass stops; the answer holds one fault per failed or panicked
handler, in the order they ran, followed by the context's error when the
pass stopped; and the bus left follows the history extended by the
handlers' calls. -/
theorem publish_runs_due (ms : Nat) (history : List (Call η)) (behave : Behaviour η σ)
    (doneOf : σ → Bool) (mine : σ) (ev : Message) (hk : ev.kind.valid = true) :
    let b := (Bus.withTimeout ms : Bus η).performAll history
    let l := ({} : Ledger η).run history
    let r := (Bus.publish Pass.getBus Pass.setBus (Pass.turn behave doneOf) ev (Pass.isDone doneOf)).run
      ({ bus := b, mine } : Pass η σ)
    b.ofKind ev.kind = l.live.filter (·.kind == ev.kind) ∧
    (r.2.turns.map (·.sub)).Sublist (b.ofKind ev.kind) ∧
    ∃ stopped, RunsDue ev l (doneOf mine) (b.ofKind ev.kind) r.2.turns stopped ∧
      r.1 = r.2.turns.filterMap (Turn.fault ev.kind) ++ (if stopped then [.cancelled ev.kind] else []) ∧
      ∀ k, r.2.bus.ofKind k = (l.run (r.2.turns.flatMap (·.calls))).live.filter (·.kind == k) := by
  intro b l
  have hl : l.Sound := Ledger.sound_empty.run history
  have hf : Follows b l := follows_performAll (follows_fresh rfl) Ledger.sound_empty history
  cases hr : (Bus.publish Pass.getBus Pass.setBus (Pass.turn behave doneOf) ev (Pass.isDone doneOf)).run
      ({ bus := b, mine } : Pass η σ) with
  | mk faults w' =>
      rw [Pass.publish_run behave doneOf ev _ hk] at hr
      obtain ⟨T, stopped, h₁, h₂, h₃, h₄⟩ :=
        deliver_runsDue behave doneOf ev _ _ _ l faults hr (hf.stats _) hl
      simp only [List.nil_append] at h₁
      subst h₁
      exact ⟨hf.snapshot _, h₂.sublist, stopped, h₂, h₃, h₄.snapshot⟩

/-- An instance: two subscriptions to new sessions; the first one's handler
fails and ends the context, so the second, due next, is skipped and the
answer is the failure and then the context's error. -/
theorem publish_runs_due_cancelling :
    Kind.newSession.valid = true ∧
      let b := (Bus.withTimeout 0 : Bus Unit).performAll
        [.subscribe Kind.newSession "m" [] (some ()), .subscribe Kind.newSession "n" [] (some ())]
      let l := ({} : Ledger Unit).run
        [.subscribe Kind.newSession "m" [] (some ()), .subscribe Kind.newSession "n" [] (some ())]
      let behave : Behaviour Unit Bool := fun _ _ _ => ([], .failed "boom", true)
      let r := (Bus.publish Pass.getBus Pass.setBus (Pass.turn behave id) { kind := Kind.newSession }
        (Pass.isDone id)).run ({ bus := b, mine := false } : Pass Unit Bool)
      b.ofKind Kind.newSession = l.live.filter (·.kind == Kind.newSession) ∧
      (r.2.turns.map (·.sub)).Sublist (b.ofKind Kind.newSession) ∧
      ∃ stopped, RunsDue { kind := Kind.newSession } l (id false) (b.ofKind Kind.newSession) r.2.turns stopped ∧
        r.1 = r.2.turns.filterMap (Turn.fault Kind.newSession) ++
          (if stopped then [.cancelled Kind.newSession] else []) ∧
        ∀ k, r.2.bus.ofKind k = (l.run (r.2.turns.flatMap (·.calls))).live.filter (·.kind == k) :=
  ⟨by decide, publish_runs_due 0
    [.subscribe Kind.newSession "m" [] (some ()), .subscribe Kind.newSession "n" [] (some ())]
    (fun _ _ _ => ([], .failed "boom", true)) id false { kind := Kind.newSession } (by decide)⟩

end MudClient.Event
