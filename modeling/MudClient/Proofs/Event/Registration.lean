/-
# Registering a spec is all or nothing

Registering a spec subscribes its handler to each of the spec's kinds in
turn, and when the bus refuses one kind it removes again the subscriptions
it made for the kinds before.  On a bus reached by any history of calls
(`register_all_or_nothing`):

* registering succeeds exactly when the spec lists some kind, a handler is
  given, and the bus takes every listed kind for the spec's owner and
  filter;
* then it answers one handle per listed kind, in order, with the serials
  after the bus's last one, and each kind's list gains at its end the new
  subscriptions of that kind, owned by the spec's owner, with the spec's
  filter and the handler wrapped in the spec's guards;
* otherwise every kind's list and the count are as they were, repeated
  kinds included;
* a wrapped handler, run by scripted handlers or by the engine, runs the
  handler only when each guard holds for the event, and does nothing
  otherwise.

Registering is read as calls on the bus: subscriptions for the kinds taken
before the refusal, then one removal for each of them.  The bus follows
its ledger through both (`MudClient.Proofs.Event.Ledger`), and on the
ledger the removals take back exactly the subscriptions just made, since
their serials are new.
-/
import MudClient.Proofs.Event.Ledger
import MudClient.Event.Script
import MudClient.Engine.Loop

namespace MudClient.Event

variable {η : Type}

def Subscription.handle (t : Subscription η) : Handle := ⟨t.serial, t.kind, t.owner⟩

namespace Spec

/-- The subscriptions registering a spec makes on a bus whose last serial
is `n`: one for each kind, in order, with the serials after `n`. -/
def subscriptionsAfter (s : Spec) (g : Guarded η) : Nat → List Kind → List (Subscription (Guarded η))
  | _, [] => []
  | n, k :: ks => ⟨n + 1, k, s.owner, s.filter, g⟩ :: s.subscriptionsAfter g (n + 1) ks

def subscribeCalls (s : Spec) (h : Option (Guarded η)) (ks : List Kind) : List (Call (Guarded η)) :=
  ks.map fun k => .subscribe k s.owner s.filter h

variable {s : Spec} {g : Guarded η}

theorem map_kind_subscriptionsAfter (n : Nat) (ks : List Kind) :
    (s.subscriptionsAfter g n ks).map (·.kind) = ks := by
  induction ks generalizing n with
  | nil => rfl
  | cons k ks ih => simp [subscriptionsAfter, ih]

theorem map_serial_subscriptionsAfter (n : Nat) (ks : List Kind) :
    (s.subscriptionsAfter g n ks).map (·.serial) = List.range' (n + 1) ks.length := by
  induction ks generalizing n with
  | nil => rfl
  | cons k ks ih => simp [subscriptionsAfter, ih, List.range'_succ]

theorem length_subscriptionsAfter (n : Nat) (ks : List Kind) :
    (s.subscriptionsAfter g n ks).length = ks.length := by
  induction ks generalizing n with
  | nil => rfl
  | cons k ks ih => simp [subscriptionsAfter, ih]

theorem mem_subscriptionsAfter {n : Nat} {ks : List Kind} {t : Subscription (Guarded η)}
    (ht : t ∈ s.subscriptionsAfter g n ks) :
    n < t.serial ∧ t.owner = s.owner ∧ t.filter = s.filter ∧ t.handler = g := by
  induction ks generalizing n with
  | nil => cases ht
  | cons k ks ih =>
    rcases List.mem_cons.1 ht with rfl | ht
    · exact ⟨Nat.lt_succ_self n, rfl, rfl, rfl⟩
    · obtain ⟨hn, hrest⟩ := ih ht
      exact ⟨by omega, hrest⟩

theorem serials_nodup_subscriptionsAfter (n : Nat) (ks : List Kind) :
    ((s.subscriptionsAfter g n ks).map (·.serial)).Nodup := by
  rw [map_serial_subscriptionsAfter]
  exact List.nodup_range'

end Spec

/-! ## Subscribing and removing, one call at a time -/

namespace Bus

variable {b : Bus η} {kind : Kind} {owner : String} {filter : Filter}

theorem issued_perform_subscribe (ht : takes kind owner filter = true) (x : η) :
    (b.perform (.subscribe kind owner filter (some x))).issued = b.issued + 1 := by
  rw [perform_subscribe_some, if_pos ht]

theorem subscribe_of_takes (ht : takes kind owner filter = true) (x : η) :
    b.subscribe kind owner filter (some x) =
      .ok (⟨b.issued + 1, kind, owner⟩, b.perform (.subscribe kind owner filter (some x))) := by
  obtain ⟨hk, ho, hf⟩ := takes_iff.1 ht
  rw [perform_subscribe_some, if_pos ht]
  simp [subscribe, hk, ho, hf]
  rfl

/-- A subscription is made only with a handler, for arguments the bus
takes. -/
theorem subscribe_eq_ok {x : Option η} {hd : Handle} {b' : Bus η}
    (h : b.subscribe kind owner filter x = .ok (hd, b')) :
    ∃ y, x = some y ∧ takes kind owner filter = true ∧ hd = ⟨b.issued + 1, kind, owner⟩ ∧
      b' = b.perform (.subscribe kind owner filter x) := by
  cases x with
  | none => cases hk : kind.valid <;> cases ho : owner.isEmpty <;> simp [subscribe, hk, ho] at h
  | some y =>
    by_cases ht : takes kind owner filter = true
    · rw [subscribe_of_takes ht] at h
      cases h
      exact ⟨y, rfl, ht, rfl, rfl⟩
    · -- one of the checks refuses it
      rw [takes_iff] at ht
      cases hk : kind.valid
      · simp [subscribe, hk] at h
      · cases ho : owner.isEmpty
        · cases hf : filter.validate with
          | error e => simp [subscribe, hk, ho, hf] at h
          | ok u => exact absurd ⟨hk, ho, hf⟩ ht
        · simp [subscribe, hk, ho] at h

theorem subscribe_refused {x : Option η} (h : ¬ (takes kind owner filter = true ∧ x.isSome = true)) :
    ∃ e, b.subscribe kind owner filter x = .error e := by
  cases hs : b.subscribe kind owner filter x with
  | error e => exact ⟨e, rfl⟩
  | ok p =>
    obtain ⟨y, rfl, ht, -⟩ := subscribe_eq_ok hs
    exact absurd ⟨ht, rfl⟩ h

/-- Removing the subscriptions of some handles is one removal call for
each, in order. -/
theorem unsubscribeAll_eq (b : Bus η) (hs : List Handle) :
    b.unsubscribeAll hs = b.performAll (hs.map fun h => .unsubscribe (some h)) := by
  induction hs generalizing b with
  | nil => rfl
  | cons h hs ih => cases hu : b.unsubscribe (some h) <;> simp [unsubscribeAll, perform, hu, ih]

end Bus

/-! ## Registering, kind by kind -/

namespace Spec

variable {s : Spec}

theorem register_of_ne_nil (hne : s.kinds ≠ []) (b : Bus (Guarded η)) (x : Option η) :
    s.register b x = register.go s (x.map fun body => ⟨s.guards, body⟩) b [] s.kinds := by
  simp [register, List.isEmpty_iff, hne]

/-- A kind the bus takes is subscribed with the next serial, and
registering goes on with the next kind. -/
theorem register_go_cons_of_takes (g : Guarded η) {k : Kind} (ht : Bus.takes k s.owner s.filter = true)
    (b : Bus (Guarded η)) (done : List Handle) (ks : List Kind) :
    register.go s (some g) b done (k :: ks) =
      register.go s (some g) (b.perform (.subscribe k s.owner s.filter (some g)))
        (done ++ [⟨b.issued + 1, k, s.owner⟩]) ks := by
  rw [register.go, Bus.subscribe_of_takes ht]

theorem register_go_of_takes (g : Guarded η) {ks : List Kind}
    (hall : ∀ k ∈ ks, Bus.takes k s.owner s.filter = true) (b : Bus (Guarded η)) (done : List Handle) :
    register.go s (some g) b done ks =
      (.ok (done ++ (s.subscriptionsAfter g b.issued ks).map Subscription.handle),
        b.performAll (s.subscribeCalls (some g) ks)) := by
  induction ks generalizing b done with
  | nil => simp [register.go, subscriptionsAfter, subscribeCalls]
  | cons k ks ih =>
    simp only [List.mem_cons, forall_eq_or_imp] at hall
    rw [register_go_cons_of_takes g hall.1, ih hall.2, Bus.issued_perform_subscribe hall.1]
    simp [subscriptionsAfter, subscribeCalls, Subscription.handle]

/-- When the bus refuses some kind, registering answers the refusal and
removes the subscriptions made for the kinds before it. -/
theorem register_go_of_refused (g : Guarded η) {ks : List Kind}
    (hk : ∃ k ∈ ks, Bus.takes k s.owner s.filter = false) (b : Bus (Guarded η)) (done : List Handle) :
    ∃ f pre, (∀ k ∈ pre, Bus.takes k s.owner s.filter = true) ∧
      register.go s (some g) b done ks =
        (.error f, (b.performAll (s.subscribeCalls (some g) pre)).unsubscribeAll
          (done ++ (s.subscriptionsAfter g b.issued pre).map Subscription.handle)) := by
  induction ks generalizing b done with
  | nil => simp at hk
  | cons k ks ih =>
    by_cases ht : Bus.takes k s.owner s.filter = true
    · -- the first kind is taken, so the refusal comes later
      have hk' : ∃ k ∈ ks, Bus.takes k s.owner s.filter = false := by simpa [ht] using hk
      obtain ⟨f, pre, hpre, hgo⟩ :=
        ih hk' (b.perform (.subscribe k s.owner s.filter (some g))) (done ++ [⟨b.issued + 1, k, s.owner⟩])
      refine ⟨f, k :: pre, List.forall_mem_cons.2 ⟨ht, hpre⟩, ?_⟩
      rw [register_go_cons_of_takes g ht, hgo, Bus.issued_perform_subscribe ht]
      simp [subscriptionsAfter, subscribeCalls, Subscription.handle]
    · obtain ⟨e, he⟩ := Bus.subscribe_refused (b := b)
        (show ¬ (Bus.takes k s.owner s.filter = true ∧ (some g).isSome = true) by simp [ht])
      refine ⟨e, [], by simp, ?_⟩
      rw [register.go, he]
      simp [subscriptionsAfter, subscribeCalls]

theorem register_go_none {ks : List Kind} (hne : ks ≠ []) (b : Bus (Guarded η)) (done : List Handle) :
    ∃ f, register.go s none b done ks = (.error f, b.unsubscribeAll done) := by
  obtain ⟨k, ks, rfl⟩ := List.exists_cons_of_ne_nil hne
  obtain ⟨e, he⟩ := Bus.subscribe_refused (b := b)
    (show ¬ (Bus.takes k s.owner s.filter = true ∧ (none : Option (Guarded η)).isSome = true) by simp)
  exact ⟨e, by rw [register.go, he]⟩

theorem register_of_takes (hne : s.kinds ≠ []) (hall : ∀ k ∈ s.kinds, Bus.takes k s.owner s.filter = true)
    (b : Bus (Guarded η)) (body : η) :
    s.register b (some body) =
      (.ok ((s.subscriptionsAfter ⟨s.guards, body⟩ b.issued s.kinds).map Subscription.handle),
        b.performAll (s.subscribeCalls (some ⟨s.guards, body⟩) s.kinds)) := by
  rw [register_of_ne_nil hne, Option.map_some, register_go_of_takes _ hall, List.nil_append]

end Spec

/-! ## What the calls of a registration do to the ledger -/

namespace Ledger

variable {l : Ledger η}

theorem Sound.not_mem_gone (hl : l.Sound) {n : Nat} (hn : l.issued < n) : n ∉ l.gone := by
  intro h
  obtain ⟨t, ht, rfl⟩ := List.mem_map.1 (hl.goneMade n h)
  have := hl.below t ht
  omega

/-- Subscribing to kinds the bus takes makes the subscriptions of a
registration. -/
theorem run_subscribeCalls {l : Ledger (Guarded η)} {s : Spec} (g : Guarded η) {ks : List Kind}
    (hall : ∀ k ∈ ks, Bus.takes k s.owner s.filter = true) :
    l.run (s.subscribeCalls (some g) ks) =
      { l with made := l.made ++ s.subscriptionsAfter g l.issued ks, issued := l.issued + ks.length } := by
  induction ks generalizing l with
  | nil => simp [Spec.subscribeCalls, Spec.subscriptionsAfter]
  | cons k ks ih =>
    simp only [List.mem_cons, forall_eq_or_imp] at hall
    simp only [Spec.subscribeCalls, List.map_cons, run_cons, step, hall.1, if_true] at ih ⊢
    rw [ih hall.2]
    simp only [Spec.subscriptionsAfter, List.append_assoc, List.singleton_append, List.length_cons,
      Nat.add_assoc, Nat.add_comm 1]

theorem run_unsubscribes {ts : List (Subscription η)} (hlive : ∀ t ∈ ts, t ∈ l.live)
    (hnd : (ts.map (·.serial)).Nodup) :
    l.run ((ts.map Subscription.handle).map fun h => .unsubscribe (some h)) =
      { l with gone := l.gone ++ ts.map (·.serial) } := by
  induction ts generalizing l with
  | nil => simp
  | cons t ts ih =>
    simp only [List.mem_cons, forall_eq_or_imp] at hlive
    rw [List.map_cons, List.nodup_cons] at hnd
    have hany : l.live.any (·.serial == t.handle.serial) = true :=
      List.any_eq_true.2 ⟨t, hlive.1, beq_self_eq_true _⟩
    -- the others stay live once `t` is removed, their serials being other than its
    have hrest : ∀ u ∈ ts, u ∈ ({ l with gone := l.gone ++ [t.serial] } : Ledger η).live := by
      intro u hu
      rw [live_drop]
      have hne : u.serial ≠ t.serial := fun he => hnd.1 (he ▸ List.mem_map_of_mem hu)
      exact List.mem_filter.2 ⟨hlive.2 u hu, by simpa using hne⟩
    rw [List.map_cons, List.map_cons, run_cons, step, if_pos hany]
    rw [show t.handle.serial = t.serial from rfl, ih hrest hnd.2]
    simp

/-- New subscriptions, with serials beyond the last one given out, are live
after the others. -/
theorem live_append_fresh (hl : l.Sound) {subs : List (Subscription η)}
    (hfresh : ∀ t ∈ subs, l.issued < t.serial) (m : Nat) :
    ({ l with made := l.made ++ subs, issued := m } : Ledger η).live = l.live ++ subs := by
  simp only [live, List.filter_append]
  congr 1
  exact List.filter_eq_self.2 fun t ht => by simpa using hl.not_mem_gone (hfresh t ht)

theorem live_rolled_back (hl : l.Sound) {subs : List (Subscription η)}
    (hfresh : ∀ t ∈ subs, l.issued < t.serial) (m : Nat) :
    ({ made := l.made ++ subs, gone := l.gone ++ subs.map (·.serial), issued := m } : Ledger η).live =
      l.live := by
  simp only [live, List.filter_append]
  -- an old subscription's serial is not a new one; a new one's is
  have hold : ∀ t ∈ l.made, t.serial ∉ subs.map (·.serial) := by
    intro t ht hmem
    obtain ⟨u, hu, he⟩ := List.mem_map.1 hmem
    have := hl.below t ht
    have := hfresh u hu
    omega
  have hnew : subs.filter (fun t => t.serial ∉ l.gone ++ subs.map (·.serial)) = [] :=
    List.filter_eq_nil_iff.2 fun t ht h =>
      of_decide_eq_true h (List.mem_append_right _ (List.mem_map_of_mem ht))
  rw [hnew, List.append_nil]
  apply List.filter_congr
  intro t ht
  simp [hold t ht]

end Ledger

/-! ## Registering on a bus that follows its ledger -/

section Follows

variable {b : Bus (Guarded η)} {l : Ledger (Guarded η)} {s : Spec}

/-- Subscribing to kinds the bus takes adds the new subscriptions at the end
of their kinds' lists. -/
theorem Follows.register_made (hf : Follows b l) (hl : l.Sound) (g : Guarded η) {ks : List Kind}
    (hall : ∀ k ∈ ks, Bus.takes k s.owner s.filter = true) :
    (∀ k, (b.performAll (s.subscribeCalls (some g) ks)).ofKind k =
        b.ofKind k ++ (s.subscriptionsAfter g b.issued ks).filter (·.kind == k)) ∧
      (b.performAll (s.subscribeCalls (some g) ks)).count = b.count + ks.length := by
  have hf' := follows_performAll hf hl (s.subscribeCalls (some g) ks)
  rw [Ledger.run_subscribeCalls g hall] at hf'
  have hfresh : ∀ t ∈ s.subscriptionsAfter g l.issued ks, l.issued < t.serial :=
    fun t ht => (Spec.mem_subscriptionsAfter ht).1
  have hlive := Ledger.live_append_fresh hl hfresh (l.issued + ks.length)
  rw [hf.issued]
  constructor
  · intro k
    show Registry.snapshot _ k = b.registry.snapshot k ++ _
    rw [hf'.snapshot k, hlive, hf.snapshot k, List.filter_append]
  · rw [hf'.count_eq_length, hlive, hf.count_eq_length, List.length_append,
      Spec.length_subscriptionsAfter]

/-- Subscribing to kinds the bus takes and then removing those
subscriptions again leaves every kind's list and the count as they were. -/
theorem Follows.register_undone (hf : Follows b l) (hl : l.Sound) (g : Guarded η) {pre : List Kind}
    (hall : ∀ k ∈ pre, Bus.takes k s.owner s.filter = true) :
    let b' := (b.performAll (s.subscribeCalls (some g) pre)).unsubscribeAll
      ((s.subscriptionsAfter g b.issued pre).map Subscription.handle)
    (∀ k, b'.ofKind k = b.ofKind k) ∧ b'.count = b.count := by
  intro b'
  have hfresh : ∀ t ∈ s.subscriptionsAfter g l.issued pre, l.issued < t.serial :=
    fun t ht => (Spec.mem_subscriptionsAfter ht).1
  have hf1 := follows_performAll hf hl (s.subscribeCalls (some g) pre)
  have hl1 := hl.run (s.subscribeCalls (some g) pre)
  rw [Ledger.run_subscribeCalls g hall] at hf1 hl1
  have hlive : ∀ t ∈ s.subscriptionsAfter g l.issued pre,
      t ∈ ({ l with made := l.made ++ s.subscriptionsAfter g l.issued pre,
                    issued := l.issued + pre.length } : Ledger (Guarded η)).live := by
    intro t ht
    rw [Ledger.live_append_fresh hl hfresh]
    exact List.mem_append_right _ ht
  have hf2 := follows_performAll hf1 hl1
    (((s.subscriptionsAfter g l.issued pre).map Subscription.handle).map fun h => .unsubscribe (some h))
  rw [Ledger.run_unsubscribes hlive (Spec.serials_nodup_subscriptionsAfter _ _)] at hf2
  have hback := Ledger.live_rolled_back hl hfresh (l.issued + pre.length)
  have hb' : b' = _ := Bus.unsubscribeAll_eq _ _
  rw [hf.issued] at hb'
  rw [hb']
  constructor
  · intro k
    show Registry.snapshot _ k = b.registry.snapshot k
    rw [hf2.snapshot k, hf.snapshot k]
    exact congrArg (List.filter _) hback
  · rw [hf2.count_eq_length, hf.count_eq_length]
    exact congrArg List.length hback

/-- A registration that is refused leaves every kind's list and the count
as they were. -/
theorem Follows.register_refused (hf : Follows b l) (hl : l.Sound) {x : Option η}
    (hbad : ¬ (s.kinds ≠ [] ∧ x.isSome = true ∧ ∀ k ∈ s.kinds, Bus.takes k s.owner s.filter = true)) :
    ∃ f, (s.register b x).1 = .error f ∧
      (∀ k, (s.register b x).2.ofKind k = b.ofKind k) ∧ (s.register b x).2.count = b.count := by
  by_cases hne : s.kinds = []
  · -- no kinds
    simp [Spec.register, hne]
  rw [Spec.register_of_ne_nil hne]
  cases x with
  | none =>
    -- no handler
    obtain ⟨f, hgo⟩ := Spec.register_go_none (s := s) hne b []
    simp [hgo, Bus.unsubscribeAll]
  | some body =>
    -- a kind the bus refuses
    have hk : ∃ k ∈ s.kinds, Bus.takes k s.owner s.filter = false := by
      by_contra hno
      push Not at hno
      exact hbad ⟨hne, rfl, fun k hk => by simpa using hno k hk⟩
    obtain ⟨f, pre, hpre, hgo⟩ := Spec.register_go_of_refused ⟨s.guards, body⟩ hk b []
    rw [Option.map_some, hgo, List.nil_append]
    exact ⟨f, rfl, hf.register_undone hl _ hpre⟩

end Follows

/-! ## Guarded handlers -/

/-- A scripted handler with guards runs as the bare handler when every
guard holds, and does nothing otherwise. -/
theorem call_guarded (fuel depth : Nat) (ev : Message) (gs : List Guard) (body : Script) (st : Stage) :
    (call fuel depth ev ⟨gs, body⟩).run st =
      if gs.all (Guard.holds st.session? ev) then (call fuel depth ev ⟨[], body⟩).run st else (.ok, st) := by
  rw [call, call]
  simp only [StateT.run_bind, StateT.run_get, pure_bind]
  cases gs.all (Guard.holds st.session? ev) <;>
    simp only [List.all_nil, Bool.not_true, Bool.not_false, Bool.false_eq_true, ↓reduceIte]
  rfl

end MudClient.Event

namespace MudClient.Engine

/-- The engine runs a reaction with guards as the bare reaction when every
guard holds for the sessions it knows, and does nothing otherwise. -/
theorem react_guarded (ev : Event.Message) (gs : List Event.Guard) (body : Reaction) (e : Runtime) :
    (react ev ⟨gs, body⟩).run e =
      if gs.all (Event.Guard.holds e.core.info? ev) then (react ev ⟨[], body⟩).run e else (.ok, e) := by
  unfold react
  simp only [core, StateT.run_bind, StateT.run_get, StateT.run_pure, pure_bind]
  cases gs.all (Event.Guard.holds e.core.info? ev) <;>
    simp only [List.all_nil, Bool.not_true, Bool.not_false, Bool.false_eq_true, ↓reduceIte]
  rfl

end MudClient.Engine

namespace MudClient.Event

variable {η : Type}

/-! ## Registering over any history -/

/-- Whatever calls a new bus has seen, registering a spec on it is all or
nothing:

* it succeeds exactly when the spec lists some kind, a handler is given,
  and the bus takes every listed kind for the spec's owner and filter;
* then it answers one handle per listed kind, in order, with the serials
  after the bus's last one, and each kind's list gains at its end the new
  subscriptions of that kind, owned by the spec's owner, with its filter
  and the handler wrapped in its guards;
* otherwise every kind's list and the count are as they were;
* and the wrapped handler, whether a scripted handler runs it or the
  engine, runs the handler only when every guard of the spec holds for the
  event, doing nothing otherwise. -/
theorem register_all_or_nothing (ms : Nat) (cs : List (Call (Guarded η))) (s : Spec) (x : Option η) :
    let b := (Bus.withTimeout ms : Bus (Guarded η)).performAll cs
    let r := s.register b x
    ((∃ hs, r.1 = .ok hs) ↔
      s.kinds ≠ [] ∧ x.isSome = true ∧ ∀ k ∈ s.kinds, Bus.takes k s.owner s.filter = true) ∧
    (∀ hs, r.1 = .ok hs → ∃ (body : η) (subs : List (Subscription (Guarded η))), x = some body ∧ hs = subs.map Subscription.handle ∧
      subs.map (·.kind) = s.kinds ∧ subs.map (·.serial) = List.range' (b.issued + 1) s.kinds.length ∧
      (∀ t ∈ subs, t.owner = s.owner ∧ t.filter = s.filter ∧ t.handler = ⟨s.guards, body⟩) ∧
      (∀ k, r.2.ofKind k = b.ofKind k ++ subs.filter (·.kind == k)) ∧
      r.2.count = b.count + s.kinds.length) ∧
    (∀ f, r.1 = .error f → (∀ k, r.2.ofKind k = b.ofKind k) ∧ r.2.count = b.count) ∧
    (∀ fuel depth ev (body : Script) (st : Stage),
      (call fuel depth ev ⟨s.guards, body⟩).run st =
        if s.guards.all (Guard.holds st.session? ev) then (call fuel depth ev ⟨[], body⟩).run st
        else (.ok, st)) ∧
    (∀ ev (body : Engine.Reaction) (e : Engine.Runtime),
      (Engine.react ev ⟨s.guards, body⟩).run e =
        if s.guards.all (Guard.holds e.core.info? ev) then (Engine.react ev ⟨[], body⟩).run e
        else (.ok, e)) := by
  intro b r
  have hl : ({} : Ledger (Guarded η)).run cs |>.Sound := Ledger.sound_empty.run cs
  have hf : Follows b (({} : Ledger (Guarded η)).run cs) :=
    follows_performAll (follows_fresh rfl) Ledger.sound_empty cs
  have hguards := fun fuel depth ev body st => call_guarded fuel depth ev s.guards body st
  have hreact := fun ev body e => Engine.react_guarded ev s.guards body e
  by_cases hgood : s.kinds ≠ [] ∧ x.isSome = true ∧ ∀ k ∈ s.kinds, Bus.takes k s.owner s.filter = true
  · -- every kind is taken: the subscriptions are made
    obtain ⟨hne, hsome, hall⟩ := hgood
    obtain ⟨body, rfl⟩ := Option.isSome_iff_exists.1 hsome
    have hr : r = _ := Spec.register_of_takes hne hall b body
    have hmade := hf.register_made hl ⟨s.guards, body⟩ hall
    rw [hr]
    refine ⟨⟨fun _ => ⟨hne, hsome, hall⟩, fun _ => ⟨_, rfl⟩⟩, ?_, (fun _ h => by cases h), hguards, hreact⟩
    rintro hs ⟨⟩
    exact ⟨body, _, rfl, rfl, Spec.map_kind_subscriptionsAfter _ _, Spec.map_serial_subscriptionsAfter _ _,
      fun t ht => (Spec.mem_subscriptionsAfter ht).2, hmade⟩
  · -- some condition fails: the registration is refused and undone
    obtain ⟨f, hf1, hsame⟩ := hf.register_refused hl hgood
    have hr : r.1 = .error f := hf1
    rw [hr]
    exact ⟨⟨(fun ⟨_, h⟩ => by cases h), fun h => absurd h hgood⟩, (fun _ h => by cases h), fun _ _ => hsame,
      hguards, hreact⟩

end MudClient.Event
