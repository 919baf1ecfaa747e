/-
# The totals of a bus keep a ledger

## What is proved

A bus counts as it goes: events published, handler calls delivered,
filtered, failed and panicked, subscriptions taken back, and, in its
sequencer, every call made and how it ended or that it was skipped.  Two
parts of the code count the same handler call under different case splits
of its result, and a cancelled publication stops at the first call it
skips.  `bus_totals_keep_ledger` shows that whatever calls are made on a
new bus, and whatever its handlers do, the totals agree: every call that
ran is delivered and ended one way, each skip belongs to a publication of
its own, and the count of active subscriptions is what the calls that went
through say it is.

## Against what

Calls are made by `exec`, on a bus in `Use` with the handlers' own state and
a `Tally` of the subscriptions and removals that went through.  A handler
is a `Conduct`: from what it finds, the calls it makes, publications
included, and how it ends.  The fuel of `exec` bounds how deep handlers
nest publications; any run that stops does so within some fuel, and the
result holds for every fuel.

`Use.Sound` is the invariant: balanced totals, a registry that follows a
sound history (`Follows`), and the count of active subscriptions.  A skip
is not a matter of one state: a publication may skip one call, after
counting itself and after its handlers' own publications.  So every
computation is asked to keep the invariant and not to skip more calls than
it publishes (`Keeps`); a pass over subscriptions may skip one more
(`deliver_keeps`), which the publication has counted before it starts.
-/
import MudClient.Proofs.Event.Delivery

namespace MudClient.Event

/-- A call on a bus: one that changes its subscriptions, or a publication. -/
inductive Op (η : Type) where
  | call (c : Call η)
  | publish (ev : Message) (cancelled : Bool)

/-- The calls that went through: subscriptions the bus took, and removals
of one subscription that found it. -/
structure Tally where
  subscribed : Nat := 0
  unsubscribed : Nat := 0

/-- What a handler does when it runs: from its subscription, the handlers'
own state and the bus as it finds it, the calls it makes in order,
publications included, how it ends, and the next state. -/
def Conduct (η σ : Type) : Type := Subscription η → σ → Bus η → List (Op η) × Outcome × σ

/-- A bus in use: the bus, the state its handlers keep, and the tally of
the calls made on it. -/
structure Use (η σ : Type) where
  bus : Bus η
  mine : σ
  tally : Tally := {}

variable {η σ : Type}

def Tally.note (t : Tally) (b : Bus η) : Call η → Tally
  | .subscribe kind owner filter handler =>
    if (b.subscribe kind owner filter handler).isOk then { t with subscribed := t.subscribed + 1 } else t
  | .unsubscribe h =>
    if (b.unsubscribe h).isOk then { t with unsubscribed := t.unsubscribed + 1 } else t
  | .retract _ => t

namespace Use

def getBus : StateM (Use η σ) (Bus η) := do pure (← get).bus

def setBus (b : Bus η) : StateM (Use η σ) Unit := modify fun u => { u with bus := b }

def perform (u : Use η σ) (c : Call η) : Use η σ :=
  { u with bus := u.bus.perform c, tally := u.tally.note u.bus c }

end Use

/-- Makes a call.  `fuel` bounds how deep handlers nest publications: a
publication beyond it is not made. -/
def exec (conduct : Conduct η σ) : Nat → Op η → StateM (Use η σ) Unit
  | _, .call c => modify (·.perform c)
  | 0, .publish _ _ => pure ()
  | fuel + 1, .publish ev cancelled => do
    let _ ← Bus.publish Use.getBus Use.setBus (fun sub _ => do
        let u ← get
        let (ops, o, mine) := conduct sub u.mine u.bus
        set { u with mine }
        ops.forM (exec conduct fuel)
        pure o) ev (pure cancelled)

/-- A handler's run: its reaction's calls are made, and its outcome is
answered. -/
def respond (conduct : Conduct η σ) (fuel : Nat) (sub : Subscription η) (_ : Bool) :
    StateM (Use η σ) Outcome := do
  let u ← get
  let (ops, o, mine) := conduct sub u.mine u.bus
  set { u with mine }
  ops.forM (exec conduct fuel)
  pure o

theorem exec_publish (conduct : Conduct η σ) (fuel : Nat) (ev : Message) (c : Bool) :
    exec conduct (fuel + 1) (.publish ev c) =
      (do let _ ← Bus.publish Use.getBus Use.setBus (respond conduct fuel) ev (pure c)) := rfl

theorem exec_call (conduct : Conduct η σ) (fuel : Nat) (c : Call η) :
    exec conduct fuel (.call c) = modify (·.perform c) := by
  cases fuel <;> rfl

/-! ## The totals balance -/

/-- Totals that every change of a bus keeps in balance: each handler call
that ran is delivered and ended in one way, and each call of the sequencer
ran or was skipped. -/
structure Balanced (b : Bus η) : Prop where
  delivered : b.stats.delivered = b.calls.succeeded + b.calls.failed + b.calls.panicked
  errors : b.stats.handlerErrors = b.calls.failed
  panics : b.stats.handlerPanics = b.calls.panicked
  executed : b.calls.executed = b.stats.delivered + b.calls.skipped

theorem balanced_fresh (ms : Nat) : Balanced (Bus.withTimeout ms : Bus η) := ⟨rfl, rfl, rfl, rfl⟩

variable {b : Bus η}

theorem Balanced.noteDelivery (h : Balanced b) (o : Outcome) : Balanced (b.noteDelivery o) := by
  obtain ⟨h₁, h₂, h₃, h₄⟩ := h
  cases o <;> constructor <;> simp [Bus.noteDelivery, SequencerStats.note] <;> omega

theorem Balanced.skip (h : Balanced b) (r : String) :
    Balanced { b with calls := b.calls.note (.skipped r) } := by
  obtain ⟨h₁, h₂, h₃, h₄⟩ := h
  constructor <;> simp [SequencerStats.note] <;> omega

theorem Balanced.stats (h : Balanced b) (s : BusStats) (hd : s.delivered = b.stats.delivered)
    (he : s.handlerErrors = b.stats.handlerErrors) (hp : s.handlerPanics = b.stats.handlerPanics) :
    Balanced { b with stats := s } := by
  obtain ⟨h₁, h₂, h₃, h₄⟩ := h
  constructor <;> simp only [hd, he, hp] <;> assumption

/-- A call that changes subscriptions touches no total but the count of
subscriptions taken back, which grows by those a taking back finds. -/
theorem perform_totals (b : Bus η) (c : Call η) :
    (b.perform c).calls = b.calls ∧
      (b.perform c).stats = { b.stats with retracted := b.stats.retracted +
        match c with
        | .retract owner => (b.retract owner).1
        | _ => 0 } := by
  cases c with
  | subscribe kind owner filter handler =>
      cases handler with
      | none => simp
      | some x =>
          rw [Bus.perform_subscribe_some]
          split <;> simp
  | unsubscribe handle =>
      cases handle with
      | none => simp
      | some h =>
          rw [Bus.perform_unsubscribe_some]
          split <;> simp
  | retract owner => simp [Bus.perform, Bus.retract]

theorem Balanced.perform (h : Balanced b) (c : Call η) : Balanced (b.perform c) := by
  obtain ⟨hc, hs⟩ := perform_totals b c
  obtain ⟨h₁, h₂, h₃, h₄⟩ := h
  constructor <;> rw [hc, hs] <;> assumption


/-! ## The count of subscriptions against the calls that went through -/

namespace Ledger

variable {l : Ledger η}

theorem Sound.fresh_gone (hl : l.Sound) : l.issued + 1 ∉ l.gone := fun h => hl.fresh (hl.goneMade _ h)

theorem live_length_subscribe (hl : l.Sound) (kind : Kind) (owner : String) (filter : Filter)
    (handler : Option η) :
    (l.step (.subscribe kind owner filter handler)).live.length =
      l.live.length + if handler.isSome && Bus.takes kind owner filter then 1 else 0 := by
  cases handler with
  | none => simp [step]
  | some x =>
      simp only [step]
      split
      · rename_i ht
        rw [live_make hl.fresh_gone]
        simp [ht]
      · rename_i ht
        simp [ht]

theorem live_length_unsubscribe (hl : l.Sound) (h : Handle) :
    (l.step (.unsubscribe (some h))).live.length +
      (if l.live.any (·.serial == h.serial) then 1 else 0) = l.live.length := by
  simp only [step]
  split
  · rename_i hany
    obtain ⟨s, hs, he⟩ := List.any_eq_true.1 hany
    -- exactly one live subscription has the serial, since live serials differ
    have hone : (l.live.filter (·.serial == h.serial)).length = 1 := by
      have hc := List.count_eq_one_of_mem hl.live_serials_nodup
        (List.mem_map.2 ⟨s, hs, beq_iff_eq.1 he⟩)
      rw [List.count, List.countP_map, List.countP_eq_length_filter] at hc
      exact hc
    have hrest : l.live.filter (fun s => s.serial ∉ [h.serial]) =
        l.live.filter (fun s => !(s.serial == h.serial)) :=
      List.filter_congr fun s _ => by by_cases he : s.serial = h.serial <;> simp [he]
    rw [live_drop, hrest, List.length_eq_length_filter_add (fun s => s.serial == h.serial) (l := l.live),
      hone, Nat.add_comm]
  · simp

theorem live_length_retract (hl : l.Sound) (owner : String) :
    (l.step (.retract owner)).live.length + (l.live.filter (·.owner == owner)).length = l.live.length := by
  -- a live serial is the owner's exactly when its subscription is
  have hothers : l.live.filter (fun s => s.serial ∉ (l.live.filter (·.owner == owner)).map (·.serial)) =
      l.live.filter (fun s => !(s.owner == owner)) := by
    refine List.filter_congr fun s hs => ?_
    have hiff : s.serial ∈ (l.live.filter (·.owner == owner)).map (·.serial) ↔ s.owner = owner := by
      constructor
      · intro hm
        obtain ⟨t, ht, he⟩ := List.mem_map.1 hm
        obtain ⟨ht, hown⟩ := List.mem_filter.1 ht
        rw [hl.eq_of_serial (mem_live.1 ht).1 (mem_live.1 hs).1 he] at hown
        exact beq_iff_eq.1 hown
      · intro hown
        exact List.mem_map.2 ⟨s, List.mem_filter.2 ⟨hs, beq_iff_eq.2 hown⟩, rfl⟩
    by_cases hown : s.owner = owner <;> simp [hiff, hown]
  simp only [step]
  rw [live_drop, hothers, List.length_eq_length_filter_add (fun s => s.owner == owner) (l := l.live),
    Nat.add_comm]

end Ledger

namespace Bus

/-- A subscription goes through exactly when it has a handler and the bus
takes its kind, owner and filter. -/
theorem subscribe_isOk (b : Bus η) (kind : Kind) (owner : String) (filter : Filter) (handler : Option η) :
    (b.subscribe kind owner filter handler).isOk = (handler.isSome && takes kind owner filter) := by
  unfold subscribe
  cases hk : kind.valid
  · simp [takes, hk, Except.isOk, Except.toBool]
  · cases ho : owner.isEmpty
    · cases handler with
      | none => simp [takes, hk, ho, Except.isOk, Except.toBool]
      | some x =>
          cases hf : filter.validate with
          | error e => simp [takes, hk, ho, hf, Except.isOk, Except.toBool]
          | ok u =>
              simp only [takes, hk, ho, hf, Option.isSome_some, Except.toBool]
              rfl
    · simp [takes, hk, ho, Except.isOk, Except.toBool]

/-- Counting a handler's run leaves alone the skips, the publications and
the subscriptions taken back. -/
theorem noteDelivery_keeps (b : Bus η) (o : Outcome) :
    (b.noteDelivery o).calls.skipped = b.calls.skipped ∧
      (b.noteDelivery o).stats.published = b.stats.published ∧
      (b.noteDelivery o).stats.retracted = b.stats.retracted := by
  cases o <;> exact ⟨rfl, rfl, rfl⟩

end Bus

section Follows

variable {b : Bus η} {l : Ledger η}

theorem Follows.unsubscribe_isOk (hf : Follows b l) (hl : l.Sound) (h : Handle) :
    (b.unsubscribe (some h)).isOk = l.live.any (·.serial == h.serial) := by
  cases hget : b.registry.byId.get? h.serial with
  | some s =>
      obtain ⟨hs, he⟩ := (hf.get?_byId hl).1 hget
      simp only [Bus.unsubscribe, Registry.remove_of_get? hget]
      symm
      exact List.any_eq_true.2 ⟨s, hs, beq_iff_eq.2 he⟩
  | none =>
      simp only [Bus.unsubscribe, Registry.remove_eq_none hget, Except.isOk, Except.toBool]
      symm
      rw [List.any_eq_false]
      intro s hs he
      rw [(hf.get?_byId hl).2 ⟨hs, beq_iff_eq.1 he⟩] at hget
      cases hget

end Follows

/-! ## A bus in use -/

/-- What a bus in use keeps: balanced totals, a registry on a sound
history, and as many subscriptions as went through less those removed one
by one and those taken back. -/
structure Use.Sound (u : Use η σ) : Prop where
  balanced : Balanced u.bus
  history : ∃ l : Ledger η, l.Sound ∧ Follows u.bus l
  active : u.bus.count + u.tally.unsubscribed + u.bus.stats.retracted = u.tally.subscribed

theorem use_fresh_sound (ms : Nat) (mine : σ) : ({ bus := Bus.withTimeout ms, mine } : Use η σ).Sound :=
  ⟨balanced_fresh ms, ⟨_, Ledger.sound_empty, follows_fresh rfl⟩, rfl⟩

theorem Use.Sound.perform {u : Use η σ} (hu : u.Sound) (c : Call η) : (u.perform c).Sound := by
  obtain ⟨hb, ⟨l, hl, hf⟩, hc⟩ := hu
  have hf' := hf.perform hl c
  refine ⟨hb.perform c, ⟨l.step c, hl.step c, hf'⟩, ?_⟩
  simp only [Use.perform]
  rw [hf'.count_eq_length, (perform_totals u.bus c).2]
  rw [hf.count_eq_length] at hc
  cases c with
  | subscribe kind owner filter handler =>
      have := Ledger.live_length_subscribe hl kind owner filter handler
      simp only [Tally.note, Bus.subscribe_isOk]
      split
      · rename_i ht
        rw [this, if_pos ht]
        dsimp only
        omega
      · rename_i ht
        rw [this, if_neg ht]
        omega
  | unsubscribe handle =>
      cases handle with
      | none => simpa [Tally.note, Ledger.step, Bus.unsubscribe, Except.isOk, Except.toBool] using hc
      | some h =>
          have := Ledger.live_length_unsubscribe hl h
          simp only [Tally.note, hf.unsubscribe_isOk hl]
          split
          · rename_i hany
            rw [if_pos hany] at this
            dsimp only
            omega
          · rename_i hany
            rw [if_neg hany] at this
            omega
  | retract owner =>
      have := Ledger.live_length_retract hl owner
      simp only [Tally.note]
      rw [(hf.retract_spec hl owner).1]
      omega

/-- Publishing's own writes keep a bus in use sound when they leave the
registry and the subscriptions taken back alone and keep the totals
balanced. -/
theorem Use.Sound.withBus {u : Use η σ} (hu : u.Sound) {b : Bus η} (hb : Balanced b)
    (hr : b.registry = u.bus.registry) (hi : b.issued = u.bus.issued)
    (ht : b.stats.retracted = u.bus.stats.retracted) : ({ u with bus := b } : Use η σ).Sound := by
  obtain ⟨-, ⟨l, hl, hf⟩, hc⟩ := hu
  refine ⟨hb, ⟨l, hl, hf.of_registry hr hi⟩, ?_⟩
  simp only [Bus.count] at hc ⊢
  rw [hr, ht]
  exact hc

theorem Use.Sound.stats {u : Use η σ} (hu : u.Sound) (s : BusStats) (hd : s.delivered = u.bus.stats.delivered)
    (he : s.handlerErrors = u.bus.stats.handlerErrors) (hp : s.handlerPanics = u.bus.stats.handlerPanics)
    (hr : s.retracted = u.bus.stats.retracted) :
    ({ u with bus := { u.bus with stats := s } } : Use η σ).Sound :=
  hu.withBus (hu.balanced.stats s hd he hp) rfl rfl hr

theorem Use.Sound.skip {u : Use η σ} (hu : u.Sound) (r : String) :
    ({ u with bus := { u.bus with calls := u.bus.calls.note (.skipped r) } } : Use η σ).Sound :=
  hu.withBus (hu.balanced.skip r) rfl rfl rfl

theorem Use.Sound.noteDelivery {u : Use η σ} (hu : u.Sound) (o : Outcome) :
    ({ u with bus := u.bus.noteDelivery o } : Use η σ).Sound :=
  hu.withBus (hu.balanced.noteDelivery o) rfl rfl (u.bus.noteDelivery_keeps o).2.2

/-- From one use of a bus to a later one, no more calls were skipped than
publications made. -/
def Use.Grows (u u' : Use η σ) : Prop :=
  u'.bus.calls.skipped + u.bus.stats.published ≤ u.bus.calls.skipped + u'.bus.stats.published

theorem Use.Grows.refl (u : Use η σ) : u.Grows u := Nat.le_refl _

theorem Use.Grows.trans {u₁ u₂ u₃ : Use η σ} (h₁ : u₁.Grows u₂) (h₂ : u₂.Grows u₃) : u₁.Grows u₃ := by
  unfold Use.Grows at *
  omega

theorem Use.grows_perform (u : Use η σ) (c : Call η) : u.Grows (u.perform c) := by
  obtain ⟨hc, hs⟩ := perform_totals u.bus c
  unfold Use.Grows Use.perform
  rw [hc, hs]

@[simp] theorem Use.getBus_run (u : Use η σ) : Use.getBus.run u = pure (u.bus, u) := rfl

@[simp] theorem Use.setBus_run (b : Bus η) (u : Use η σ) :
    (Use.setBus b).run u = pure ((), { u with bus := b }) := rfl

section Deliver

variable (run : Subscription η → Bool → StateM (Use η σ) Outcome) (ev : Message) (c : Bool)
  (sub : Subscription η) (rest : List (Subscription η)) (u : Use η σ)

theorem Use.deliver_nil : (Bus.deliver Use.getBus Use.setBus run ev (pure c) []).run u = ([], u) := rfl

theorem Use.deliver_removed (h : u.bus.registry.isCancelled sub.serial = true) :
    (Bus.deliver Use.getBus Use.setBus run ev (pure c) (sub :: rest)).run u =
      (Bus.deliver Use.getBus Use.setBus run ev (pure c) rest).run u := by
  rw [Bus.deliver]
  simp [h]

theorem Use.deliver_refused (h : u.bus.registry.isCancelled sub.serial = false)
    (ha : sub.filter.admits ev = false) :
    (Bus.deliver Use.getBus Use.setBus run ev (pure c) (sub :: rest)).run u =
      (Bus.deliver Use.getBus Use.setBus run ev (pure c) rest).run
        { u with bus := { u.bus with stats := { u.bus.stats with filtered := u.bus.stats.filtered + 1 } } } := by
  rw [Bus.deliver]
  simp [h, ha]

/-- In a cancelled publication the first subscription due is skipped and
the pass stops there. -/
theorem Use.deliver_stopped (h : u.bus.registry.isCancelled sub.serial = false)
    (ha : sub.filter.admits ev = true) :
    (Bus.deliver Use.getBus Use.setBus run ev (pure true) (sub :: rest)).run u =
      ([.cancelled ev.kind],
        { u with bus := { u.bus with calls := u.bus.calls.note (.skipped cancelledReason) } }) := by
  rw [Bus.deliver]
  simp [h, ha]
  rfl

theorem Use.deliver_turn (h : u.bus.registry.isCancelled sub.serial = false)
    (ha : sub.filter.admits ev = true) :
    ((Bus.deliver Use.getBus Use.setBus run ev (pure false) (sub :: rest)).run u).2 =
      let r := (run sub (u.bus.timeout > 0)).run u
      ((Bus.deliver Use.getBus Use.setBus run ev (pure false) rest).run
        { r.2 with bus := r.2.bus.noteDelivery r.1 }).2 := by
  rw [Bus.deliver]
  simp only [h, ha, StateT.run_bind, Use.getBus_run, Use.setBus_run, if_false, Bool.not_true,
    Bool.false_eq_true, pure_bind]
  obtain ⟨o, u₁⟩ := (run sub (u.bus.timeout > 0)).run u
  cases o <;> rfl

/-- A publication of a known kind counts itself and walks the kind's
subscriptions as they are when it starts; one of an unknown kind does
nothing. -/
theorem Use.publish_run :
    (Bus.publish Use.getBus Use.setBus run ev (pure c)).run u =
      if ev.kind.valid then
        (Bus.deliver Use.getBus Use.setBus run ev (pure c) (u.bus.ofKind ev.kind)).run
          { u with bus := { u.bus with stats := { u.bus.stats with published := u.bus.stats.published + 1 } } }
      else ([.unknownKind ev.kind], u) := by
  cases hk : ev.kind.valid
  · simp [Bus.publish, hk]
    rfl
  · simp [Bus.publish, hk]

end Deliver

/-! ## Every run keeps the totals -/

/-- A computation on a bus in use keeps it sound, and skips no more handler
calls than it makes publications. -/
def Keeps {α : Type} (prog : StateM (Use η σ) α) : Prop :=
  ∀ u : Use η σ, u.Sound → ((prog.run u).2).Sound ∧ u.Grows (prog.run u).2

theorem keeps_pure {α : Type} (a : α) : Keeps (pure a : StateM (Use η σ) α) :=
  fun u hu => ⟨hu, Use.Grows.refl u⟩

theorem keeps_forM {α : Type} {f : α → StateM (Use η σ) PUnit} (hf : ∀ a, Keeps (f a)) :
    ∀ l : List α, Keeps (l.forM f)
  | [] => keeps_pure _
  | a :: l => by
      intro u hu
      obtain ⟨h₁, g₁⟩ := hf a u hu
      obtain ⟨h₂, g₂⟩ := keeps_forM hf l _ h₁
      simp only [List.forM_eq_forM, List.forM_cons, StateT.run_bind]
      exact ⟨h₂, g₁.trans g₂⟩

section Deliver

variable {run : Subscription η → Bool → StateM (Use η σ) Outcome}

/-- A pass over subscriptions whose handlers keep the bus sound keeps it
sound, and skips at most one call more than it publishes: the call that
stops a cancelled pass. -/
theorem deliver_keeps (hrun : ∀ sub t, Keeps (run sub t)) (ev : Message) (c : Bool) :
    ∀ (subs : List (Subscription η)) (u : Use η σ), u.Sound →
      ((Bus.deliver Use.getBus Use.setBus run ev (pure c) subs).run u).2.Sound ∧
      ((Bus.deliver Use.getBus Use.setBus run ev (pure c) subs).run u).2.bus.calls.skipped +
          u.bus.stats.published ≤
        u.bus.calls.skipped + ((Bus.deliver Use.getBus Use.setBus run ev (pure c) subs).run u).2.bus.stats.published + 1
  | [], u, hu => by
      rw [Use.deliver_nil]
      exact ⟨hu, Nat.le_succ _⟩
  | sub :: rest, u, hu => by
      cases hcan : u.bus.registry.isCancelled sub.serial with
      | true =>
          rw [Use.deliver_removed run ev c sub rest u hcan]
          exact deliver_keeps hrun ev c rest u hu
      | false =>
          cases ha : sub.filter.admits ev with
          | false =>
              -- filtered: counted, and the pass goes on
              rw [Use.deliver_refused run ev c sub rest u hcan ha]
              exact deliver_keeps hrun ev c rest _ (hu.stats _ rfl rfl rfl rfl)
          | true =>
              cases c with
              | true =>
                  -- the first call due is skipped and the pass stops
                  rw [Use.deliver_stopped run ev sub rest u hcan ha]
                  refine ⟨hu.skip _, ?_⟩
                  simp only [SequencerStats.note]
                  omega
              | false =>
                  rw [Use.deliver_turn run ev sub rest u hcan ha]
                  obtain ⟨h₁, g₁⟩ := hrun sub (u.bus.timeout > 0) u hu
                  generalize (run sub (u.bus.timeout > 0)).run u = r at h₁ g₁ ⊢
                  obtain ⟨o, u₁⟩ := r
                  dsimp only at h₁ g₁ ⊢
                  obtain ⟨h₃, g₃⟩ := deliver_keeps hrun ev false rest _ (h₁.noteDelivery o)
                  obtain ⟨hskip, hpub, -⟩ := u₁.bus.noteDelivery_keeps o
                  rw [hskip, hpub] at g₃
                  unfold Use.Grows at g₁
                  exact ⟨h₃, by omega⟩

/-- Publishing with handlers that keep the bus sound keeps it sound, and
skips no more calls than it publishes. -/
theorem keeps_publish (hrun : ∀ sub t, Keeps (run sub t)) (ev : Message) (c : Bool) :
    Keeps (Bus.publish Use.getBus Use.setBus run ev (pure c)) := by
  intro u hu
  rw [Use.publish_run]
  split
  · obtain ⟨h₁, g₁⟩ := deliver_keeps hrun ev c _ _
      (hu.stats { u.bus.stats with published := u.bus.stats.published + 1 } rfl rfl rfl rfl)
    refine ⟨h₁, ?_⟩
    unfold Use.Grows
    dsimp only at g₁ ⊢
    omega
  · exact ⟨hu, Use.Grows.refl u⟩

end Deliver

/-- Every call, publications and the handlers' own calls inside them
included, keeps a bus in use sound. -/
theorem keeps_exec (conduct : Conduct η σ) : ∀ (fuel : Nat) (op : Op η), Keeps (exec conduct fuel op)
  | fuel, .call c => by
      rw [exec_call]
      exact fun u hu => ⟨hu.perform c, Use.grows_perform u c⟩
  | 0, .publish _ _ => keeps_pure ()
  | fuel + 1, .publish ev c => by
      rw [exec_publish]
      -- a handler makes calls of one level less
      have hrespond : ∀ sub t, Keeps (respond conduct fuel sub t) := by
        intro sub t u hu
        have hu' : ({ u with mine := (conduct sub u.mine u.bus).2.2 } : Use η σ).Sound :=
          ⟨hu.balanced, hu.history, hu.active⟩
        obtain ⟨h₁, g₁⟩ := keeps_forM (keeps_exec conduct fuel) (conduct sub u.mine u.bus).1 _ hu'
        simp only [respond, StateT.run_bind]
        exact ⟨h₁, g₁⟩
      intro u hu
      obtain ⟨h₁, g₁⟩ := keeps_publish hrespond ev c u hu
      simp only [StateT.run_bind]
      exact ⟨h₁, g₁⟩

/-- Whatever calls are made on a new bus (subscriptions, removals, takings
back and publications, in any order) and whatever its handlers do when
they run (make calls of their own, publications included, and return, fail
or panic, in publications cancelled or not), its totals keep a ledger:
each handler call that ran is delivered and ended in one way, failures and
panics are counted as such, each call of the sequencer ran or was skipped,
no more calls were skipped than events published, and the active
subscriptions are those that went through, less those removed one by one
and those taken back. -/
theorem bus_totals_keep_ledger (ms fuel : Nat) (conduct : Conduct η σ) (mine : σ) (ops : List (Op η)) :
    let u := ((ops.forM (exec conduct fuel)).run { bus := Bus.withTimeout ms, mine }).2
    u.bus.stats.delivered = u.bus.calls.succeeded + u.bus.calls.failed + u.bus.calls.panicked ∧
    u.bus.stats.handlerErrors = u.bus.calls.failed ∧
    u.bus.stats.handlerPanics = u.bus.calls.panicked ∧
    u.bus.calls.executed = u.bus.stats.delivered + u.bus.calls.skipped ∧
    u.bus.calls.skipped ≤ u.bus.stats.published ∧
    (u.bus.count : Int) = u.tally.subscribed - u.tally.unsubscribed - u.bus.stats.retracted := by
  intro u
  obtain ⟨⟨⟨h₁, h₂, h₃, h₄⟩, -, h₅⟩, g⟩ : u.Sound ∧ Use.Grows { bus := Bus.withTimeout ms, mine } u :=
    keeps_forM (keeps_exec conduct fuel) ops _ (use_fresh_sound ms mine)
  -- a new bus has skipped and published nothing
  have hskip : u.bus.calls.skipped + 0 ≤ 0 + u.bus.stats.published := g
  exact ⟨h₁, h₂, h₃, h₄, by omega, by omega⟩

end MudClient.Event
