/-
# The registry keeps its ledger

## What is proved

For every sequence of calls that change subscriptions — subscribing,
unsubscribing and taking back an owner — made on a bus that starts with an
empty registry, the registry holds exactly what the history of the calls
says it should:

* its two indexes hold the same subscriptions: each kind's list holds the
  kind's subscriptions, each once, no kind is kept with an empty list, and
  the serial index holds every one of them under its own serial;
* a serial is marked cancelled exactly when its subscription was removed;
* each kind's list is the kind's subscriptions that were made and not yet
  removed, in the order they were made;
* taking back an owner removes exactly the owner's subscriptions, answers
  how many there were, and keeps the order of the others, so that doing it
  again at once removes nothing;
* the count of subscriptions is the sum of the lengths of the kind lists.

## Against what

The history is read by a `Ledger`, which knows nothing of indexes: it keeps
the subscriptions made, in order, and the serials removed since.  Its
`live` list — made and not removed — is the registry's meaning.  The
relation `Follows` says that a bus holds what a ledger says; every call
keeps it (`Follows.perform`), so every run does (`follows_performAll`).

A publication changes no subscription by itself: the calls its handlers
make are calls like any other, in the order they are made, and the lemmas
of `MudClient.Proofs.Event.Delivery` show that the registry after a
publication is the registry after those calls.
-/
import Mathlib
import MudClient.Event.Bus

namespace MudClient.Event

/-- A call that changes the subscriptions of a bus. -/
inductive Call (η : Type) where
  | subscribe (kind : Kind) (owner : String) (filter : Filter) (handler : Option η)
  | unsubscribe (handle : Option Handle)
  | retract (owner : String)

namespace Bus

variable {η : Type}

/-- Whether the bus takes a subscription of a kind, for an owner, with a
filter, given a handler. -/
def takes (kind : Kind) (owner : String) (filter : Filter) : Bool :=
  kind.valid && !owner.isEmpty && filter.validate.toBool

def perform (b : Bus η) : Call η → Bus η
  | .subscribe kind owner filter handler =>
    match b.subscribe kind owner filter handler with
    | .ok (_, b') => b'
    | .error _ => b
  | .unsubscribe h =>
    match b.unsubscribe h with
    | .ok b' => b'
    | .error _ => b
  | .retract owner => (b.retract owner).2

def performAll (b : Bus η) (cs : List (Call η)) : Bus η := cs.foldl perform b

@[simp] theorem performAll_nil (b : Bus η) : b.performAll [] = b := rfl

@[simp] theorem performAll_cons (b : Bus η) (c : Call η) (cs : List (Call η)) :
    b.performAll (c :: cs) = (b.perform c).performAll cs := rfl

theorem performAll_append (b : Bus η) (cs ds : List (Call η)) :
    b.performAll (cs ++ ds) = (b.performAll cs).performAll ds := by
  simp [performAll, List.foldl_append]

end Bus

/-- What a history of calls says about the subscriptions: every
subscription made, in the order of the calls, the serials of those removed
since, and the last serial given out. -/
structure Ledger (η : Type) where
  made : List (Subscription η) := []
  gone : List Nat := []
  issued : Nat := 0

namespace Ledger

variable {η : Type}

def live (l : Ledger η) : List (Subscription η) := l.made.filter fun s => s.serial ∉ l.gone

/-- What a call adds to the history.  A subscription with arguments the bus
takes is made with the next serial; a removal notes the serial of a live
subscription; taking back an owner notes the serials of all its live
subscriptions. -/
def step (l : Ledger η) : Call η → Ledger η
  | .subscribe kind owner filter (some h) =>
    if Bus.takes kind owner filter then
      { l with made := l.made ++ [⟨l.issued + 1, kind, owner, filter, h⟩], issued := l.issued + 1 }
    else l
  | .subscribe _ _ _ none => l
  | .unsubscribe (some h) =>
    if l.live.any (·.serial == h.serial) then { l with gone := l.gone ++ [h.serial] } else l
  | .unsubscribe none => l
  | .retract owner => { l with gone := l.gone ++ (l.live.filter (·.owner == owner)).map (·.serial) }

def run (l : Ledger η) (cs : List (Call η)) : Ledger η := cs.foldl step l

@[simp] theorem run_nil (l : Ledger η) : l.run [] = l := rfl

@[simp] theorem run_cons (l : Ledger η) (c : Call η) (cs : List (Call η)) :
    l.run (c :: cs) = (l.step c).run cs := rfl

theorem run_append (l : Ledger η) (cs ds : List (Call η)) :
    l.run (cs ++ ds) = (l.run cs).run ds := by
  simp [run, List.foldl_append]

/-! ## A sound history

Serials are given out in increasing order and never again, and only made
subscriptions are removed.  Every history from the empty one is sound. -/

/-- The facts every history keeps. -/
structure Sound (l : Ledger η) : Prop where
  ordered : (l.made.map (·.serial)).Pairwise (· < ·)
  below : ∀ s ∈ l.made, s.serial ≤ l.issued
  goneMade : ∀ n ∈ l.gone, n ∈ l.made.map (·.serial)

theorem sound_empty : Sound ({} : Ledger η) :=
  ⟨List.Pairwise.nil, fun _ h => by simp at h, fun _ h => by simp at h⟩

theorem mem_live {l : Ledger η} {s : Subscription η} : s ∈ l.live ↔ s ∈ l.made ∧ s.serial ∉ l.gone := by
  simp [live]

theorem Sound.serials_nodup {l : Ledger η} (hl : l.Sound) : (l.made.map (·.serial)).Nodup :=
  hl.ordered.imp Nat.ne_of_lt

theorem Sound.eq_of_serial {l : Ledger η} (hl : l.Sound) {s t : Subscription η}
    (hs : s ∈ l.made) (ht : t ∈ l.made) (h : s.serial = t.serial) : s = t :=
  List.inj_on_of_nodup_map hl.serials_nodup hs ht h

theorem Sound.live_serials_nodup {l : Ledger η} (hl : l.Sound) : (l.live.map (·.serial)).Nodup :=
  (List.filter_sublist.map _).nodup hl.serials_nodup

theorem Sound.live_nodup {l : Ledger η} (hl : l.Sound) : l.live.Nodup :=
  List.Nodup.of_map _ hl.live_serials_nodup

theorem Sound.fresh {l : Ledger η} (hl : l.Sound) : l.issued + 1 ∉ l.made.map (·.serial) := by
  intro h
  obtain ⟨s, hs, he⟩ := List.mem_map.1 h
  have := hl.below s hs
  omega

theorem Sound.step {l : Ledger η} (hl : l.Sound) (c : Call η) : (l.step c).Sound := by
  cases c with
  | subscribe kind owner filter handler =>
      cases handler with
      | none => exact hl
      | some h =>
          simp only [Ledger.step]
          split
          · refine ⟨?_, ?_, ?_⟩
            · rw [List.map_append, List.pairwise_append]
              refine ⟨hl.ordered, List.pairwise_singleton _ _, ?_⟩
              intro a ha b hb
              simp only [List.map_cons, List.map_nil, List.mem_singleton] at hb
              obtain ⟨s, hs, rfl⟩ := List.mem_map.1 ha
              have := hl.below s hs
              omega
            · intro s hs
              show s.serial ≤ l.issued + 1
              rcases List.mem_append.1 hs with hs | hs
              · have := hl.below s hs
                omega
              · simp only [List.mem_singleton] at hs
                subst hs
                exact Nat.le_refl _
            · intro n hn
              exact List.map_subset _ (List.subset_append_left _ _) (hl.goneMade n hn)
          · exact hl
  | unsubscribe handle =>
      cases handle with
      | none => exact hl
      | some h =>
          simp only [Ledger.step]
          split
          · rename_i hlive
            refine ⟨hl.ordered, hl.below, ?_⟩
            intro n hn
            rcases List.mem_append.1 hn with hn | hn
            · exact hl.goneMade n hn
            · simp only [List.mem_singleton] at hn
              subst hn
              obtain ⟨s, hs, he⟩ := List.any_eq_true.1 hlive
              rw [beq_iff_eq] at he
              exact List.mem_map.2 ⟨s, (mem_live.1 hs).1, he⟩
          · exact hl
  | retract owner =>
      refine ⟨hl.ordered, hl.below, ?_⟩
      intro n hn
      rcases List.mem_append.1 hn with hn | hn
      · exact hl.goneMade n hn
      · obtain ⟨s, hs, rfl⟩ := List.mem_map.1 hn
        exact List.mem_map.2 ⟨s, (mem_live.1 (List.mem_filter.1 hs).1).1, rfl⟩

theorem Sound.run {l : Ledger η} (hl : l.Sound) (cs : List (Call η)) : (l.run cs).Sound := by
  induction cs generalizing l with
  | nil => exact hl
  | cons c cs ih => exact ih (hl.step c)

/-! ## What a call does to the history -/

theorem live_make {l : Ledger η} {s : Subscription η} (hs : s.serial ∉ l.gone) :
    ({ l with made := l.made ++ [s], issued := l.issued + 1 } : Ledger η).live = l.live ++ [s] := by
  simp [live, List.filter_append, hs]

theorem live_drop (l : Ledger η) (ns : List Nat) :
    ({ l with gone := l.gone ++ ns } : Ledger η).live = l.live.filter fun s => s.serial ∉ ns := by
  simp only [live, List.filter_filter, List.mem_append, not_or]
  congr 1
  funext s
  simp [Bool.and_comm]

theorem issued_le_step (l : Ledger η) (c : Call η) : l.issued ≤ (l.step c).issued := by
  cases c with
  | subscribe kind owner filter handler =>
      cases handler with
      | none => exact Nat.le_refl _
      | some h =>
          simp only [step]
          split
          · exact Nat.le_succ _
          · exact Nat.le_refl _
  | unsubscribe handle =>
      cases handle with
      | none => exact Nat.le_refl _
      | some h =>
          simp only [step]
          split <;> exact Nat.le_refl _
  | retract owner => exact Nat.le_refl _

/-- A subscription live after subscribing was live before, or is the new
one: its owner's, with the next serial. -/
theorem mem_live_subscribe {l : Ledger η} {kind : Kind} {owner : String} {filter : Filter}
    {x : Option η} {s : Subscription η} (hs : s ∈ (l.step (.subscribe kind owner filter x)).live) :
    s ∈ l.live ∨ (s.owner = owner ∧ s.serial = l.issued + 1) := by
  cases x with
  | none => exact .inl hs
  | some h =>
      simp only [step] at hs
      split at hs
      · obtain ⟨hm, hg⟩ := mem_live.1 hs
        rcases List.mem_append.1 hm with hm | hm
        · exact .inl (mem_live.2 ⟨hm, hg⟩)
        · rw [List.mem_singleton.1 hm]
          exact .inr ⟨rfl, rfl⟩
      · exact .inl hs

theorem mem_live_unsubscribe {l : Ledger η} {h : Option Handle} {s : Subscription η}
    (hs : s ∈ (l.step (.unsubscribe h)).live) : s ∈ l.live := by
  cases h with
  | none => exact hs
  | some h =>
      simp only [step] at hs
      split at hs
      · rw [live_drop] at hs
        exact (List.mem_filter.1 hs).1
      · exact hs

theorem mem_live_retract {l : Ledger η} {owner : String} {s : Subscription η}
    (hs : s ∈ (l.step (.retract owner)).live) : s ∈ l.live ∧ s.owner ≠ owner := by
  simp only [step] at hs
  rw [live_drop] at hs
  obtain ⟨hs, hnot⟩ := List.mem_filter.1 hs
  refine ⟨hs, fun ho => ?_⟩
  exact of_decide_eq_true hnot (List.mem_map.2 ⟨s, List.mem_filter.2 ⟨hs, beq_iff_eq.2 ho⟩, rfl⟩)

end Ledger

/-! ## What a call does to the bus -/

namespace Bus

variable {η : Type}

theorem takes_iff {kind : Kind} {owner : String} {filter : Filter} :
    takes kind owner filter = true ↔
      kind.valid = true ∧ owner.isEmpty = false ∧ filter.validate = .ok () := by
  unfold takes
  cases filter.validate with
  | error e => simp [Except.toBool]
  | ok u => simp [Except.toBool]

theorem perform_subscribe_some (b : Bus η) (kind : Kind) (owner : String) (filter : Filter) (x : η) :
    b.perform (.subscribe kind owner filter (some x)) =
      if takes kind owner filter then
        { b with registry := b.registry.add ⟨b.issued + 1, kind, owner, filter, x⟩, issued := b.issued + 1 }
      else b := by
  unfold perform subscribe
  cases hk : kind.valid
  · simp [takes, hk]
  · cases ho : owner.isEmpty
    · cases hf : filter.validate with
      | error e => simp [takes, hk, ho, hf, Except.toBool]
      | ok u =>
          simp [takes, hk, ho, hf, Except.toBool]
          rfl
    · simp [takes, hk, ho]

@[simp] theorem perform_subscribe_none (b : Bus η) (kind : Kind) (owner : String) (filter : Filter) :
    b.perform (.subscribe kind owner filter none) = b := by
  unfold perform subscribe
  cases hk : kind.valid <;> cases ho : owner.isEmpty <;> simp [hk, ho]

theorem perform_unsubscribe_some (b : Bus η) (h : Handle) :
    b.perform (.unsubscribe (some h)) =
      match b.registry.remove h.serial with
      | some registry => { b with registry }
      | none => b := by
  unfold perform unsubscribe
  cases hr : b.registry.remove h.serial <;> simp [hr]

@[simp] theorem perform_unsubscribe_none (b : Bus η) : b.perform (.unsubscribe none) = b := rfl

@[simp] theorem retract_registry (b : Bus η) (owner : String) :
    (b.retract owner).2.registry = (b.registry.removeOwner owner).2 := rfl

@[simp] theorem retract_issued (b : Bus η) (owner : String) :
    (b.retract owner).2.issued = b.issued := rfl

@[simp] theorem retract_count (b : Bus η) (owner : String) :
    (b.retract owner).1 = (b.registry.ownedBy owner).length := rfl

end Bus

/-! ## The registry follows its history

`Follows b l` says that the registry of `b` holds what the ledger `l`
says, index by index.  The kind lists are the only place the order of the
subscriptions is kept; the serial index is a permutation of the live
subscriptions under their serials, since the order of a map's entries
means nothing. -/

/-- A bus whose registry holds what a ledger says. -/
structure Follows (b : Bus η) (l : Ledger η) : Prop where
  issued : b.issued = l.issued
  kinds : b.registry.byKind.keys.Nodup
  nonempty : ∀ e ∈ b.registry.byKind.entries, e.2 ≠ []
  snapshot : ∀ k, b.registry.snapshot k = l.live.filter (·.kind == k)
  ids : b.registry.byId.entries.Perm (l.live.map fun s => (s.serial, s))
  cancelled : ∀ n, n ∈ b.registry.cancelled ↔ n ∈ l.gone

section Follows

variable {η : Type} {b : Bus η} {l : Ledger η}

theorem follows_fresh {b : Bus η} (hb : b.registry = {}) : Follows b { issued := b.issued } := by
  refine ⟨rfl, ?_, ?_, ?_, ?_, ?_⟩
  · simp [hb, KeyMap.keys]
  · simp [hb]
  · intro k
    simp [hb, Registry.snapshot, Ledger.live]
  · simp [hb, Ledger.live]
  · simp [hb]

theorem Follows.byId_keys (hf : Follows b l) (hl : l.Sound) : b.registry.byId.keys.Nodup := by
  have hp := hf.ids.map (·.1)
  simp only [List.map_map] at hp
  exact hp.nodup_iff.2 (by simpa [Function.comp_def] using hl.live_serials_nodup)

theorem Follows.mem_byId (hf : Follows b l) {n : Nat} {s : Subscription η} :
    (n, s) ∈ b.registry.byId.entries ↔ s ∈ l.live ∧ s.serial = n := by
  rw [hf.ids.mem_iff]
  constructor
  · intro h
    obtain ⟨t, ht, he⟩ := List.mem_map.1 h
    simp only [Prod.mk.injEq] at he
    obtain ⟨rfl, rfl⟩ := he
    exact ⟨ht, rfl⟩
  · rintro ⟨hs, rfl⟩
    exact List.mem_map.2 ⟨s, hs, rfl⟩

theorem Follows.get?_byId (hf : Follows b l) (hl : l.Sound) {n : Nat} {s : Subscription η} :
    b.registry.byId.get? n = some s ↔ s ∈ l.live ∧ s.serial = n := by
  rw [KeyMap.get?_eq_some_iff (hf.byId_keys hl)]
  exact hf.mem_byId

theorem Follows.entry_eq (hf : Follows b l) {k : Kind} {subs : List (Subscription η)}
    (he : (k, subs) ∈ b.registry.byKind.entries) : subs = l.live.filter (·.kind == k) := by
  have hsnap := hf.snapshot k
  rw [Registry.snapshot, KeyMap.get?_eq_some_of_mem hf.kinds he, Option.getD_some] at hsnap
  exact hsnap

theorem Follows.mem_kinds (hf : Follows b l) {s : Subscription η} :
    (∃ e ∈ b.registry.byKind.entries, s ∈ e.2) ↔ s ∈ l.live := by
  constructor
  · rintro ⟨⟨k, subs⟩, he, hs⟩
    rw [hf.entry_eq he] at hs
    exact (List.mem_filter.1 hs).1
  · intro hs
    have hsnap := hf.snapshot s.kind
    have hin : s ∈ b.registry.snapshot s.kind := by
      rw [hsnap]
      exact List.mem_filter.2 ⟨hs, by simp⟩
    unfold Registry.snapshot at hin
    cases hget : b.registry.byKind.get? s.kind with
    | none => simp [hget] at hin
    | some subs =>
        rw [hget, Option.getD_some] at hin
        exact ⟨(s.kind, subs), KeyMap.mem_of_get?_eq_some hget, hin⟩

theorem Follows.kinds_perm (hf : Follows b l) (hl : l.Sound) :
    (b.registry.byKind.entries.flatMap (·.2)).Perm l.live := by
  have hflat : (b.registry.byKind.entries.flatMap (·.2)).Nodup := by
    rw [List.nodup_flatMap]
    constructor
    · rintro ⟨k, subs⟩ he
      rw [hf.entry_eq he]
      exact hl.live_nodup.filter _
    · have hkeys : b.registry.byKind.entries.Pairwise (fun e e' => e.1 ≠ e'.1) := by
        have := hf.kinds
        unfold KeyMap.keys at this
        exact List.pairwise_map.1 this
      refine hkeys.imp_of_mem ?_
      rintro ⟨k, subs⟩ ⟨k', subs'⟩ he he' hne
      intro s hs hs'
      rw [hf.entry_eq he] at hs
      rw [hf.entry_eq he'] at hs'
      have e1 := (List.mem_filter.1 hs).2
      have e2 := (List.mem_filter.1 hs').2
      simp only [beq_iff_eq] at e1 e2
      exact hne (e1.symm.trans e2)
  rw [List.perm_ext_iff_of_nodup hflat hl.live_nodup]
  intro s
  rw [List.mem_flatMap]
  exact hf.mem_kinds

theorem Follows.ownedBy_perm (hf : Follows b l) (hl : l.Sound) (owner : String) :
    (b.registry.ownedBy owner).Perm (l.live.filter (·.owner == owner)) := by
  have := (hf.kinds_perm hl).filter (·.owner == owner)
  rw [List.filter_flatMap] at this
  exact this

/-! ## Every call keeps the registry on its history -/

theorem Follows.add (hf : Follows b l) (hl : l.Sound) (kind : Kind) (owner : String)
    (filter : Filter) (x : η) :
    Follows { b with registry := b.registry.add ⟨b.issued + 1, kind, owner, filter, x⟩,
                     issued := b.issued + 1 }
      { l with made := l.made ++ [⟨l.issued + 1, kind, owner, filter, x⟩], issued := l.issued + 1 } := by
  rw [hf.issued]
  -- the new serial is neither made nor removed, so the new subscription is live
  have hfresh := hl.fresh
  have hgone : l.issued + 1 ∉ l.gone := fun h => hfresh (hl.goneMade _ h)
  have hlive := Ledger.live_make (l := l) (s := ⟨l.issued + 1, kind, owner, filter, x⟩) hgone
  refine ⟨rfl, KeyMap.keys_set_nodup hf.kinds _ _, ?_, ?_, ?_, hf.cancelled⟩
  · intro e he
    rcases KeyMap.mem_set.1 he with ⟨he, -⟩ | rfl
    · exact hf.nonempty e he
    · simp
  · intro k
    rw [Registry.snapshot_add, hlive, List.filter_append, hf.snapshot k]
    by_cases hk : k = kind
    · subst hk
      simp
    · have : (kind == k) = false := by simpa using Ne.symm hk
      simp [hk, this]
  · rw [hlive, List.map_append]
    have hkey : l.issued + 1 ∉ b.registry.byId.keys := by
      intro h
      have hp := hf.ids.map (·.1)
      simp only [List.map_map] at hp
      apply hfresh
      have := hp.subset h
      simp only [Function.comp_def, List.mem_map] at this ⊢
      obtain ⟨s, hs, he⟩ := this
      exact ⟨s, (Ledger.mem_live.1 hs).1, he⟩
    show ((b.registry.byId.erase _).entries ++ _).Perm _
    rw [KeyMap.erase_of_not_mem hkey]
    exact hf.ids.append_right _

theorem Follows.remove (hf : Follows b l) (hl : l.Sound) {s : Subscription η} (hs : s ∈ l.live) :
    ∃ r, b.registry.remove s.serial = some r ∧
      Follows { b with registry := r } { l with gone := l.gone ++ [s.serial] } := by
  have hget : b.registry.byId.get? s.serial = some s := (hf.get?_byId hl).2 ⟨hs, rfl⟩
  refine ⟨_, Registry.remove_of_get? hget, ?_⟩
  have hlive := Ledger.live_drop l [s.serial]
  -- the only live subscription with this serial is `s` itself
  have hsame : ∀ t ∈ l.live, t.serial = s.serial → t = s := fun t ht he =>
    hl.eq_of_serial (Ledger.mem_live.1 ht).1 (Ledger.mem_live.1 hs).1 he
  refine ⟨hf.issued, ?_, ?_, ?_, ?_, ?_⟩
  · unfold Registry.setKind
    split
    · exact KeyMap.keys_erase_nodup hf.kinds _
    · exact KeyMap.keys_set_nodup hf.kinds _ _
  · intro e he
    unfold Registry.setKind at he
    split at he
    · exact hf.nonempty e (KeyMap.mem_erase.1 he).1
    · rename_i hne
      rcases KeyMap.mem_set.1 he with ⟨he, -⟩ | rfl
      · exact hf.nonempty e he
      · simpa using hne
  · intro k
    show ((Registry.setKind _ _ _).get? k).getD [] = _
    rw [Registry.getD_setKind, hlive, List.filter_comm]
    split
    · rename_i hk
      subst hk
      rw [hf.snapshot]
      congr 1
      funext t
      by_cases h : t.serial = s.serial <;> simp [h]
    · rename_i hk
      rw [← Registry.snapshot, hf.snapshot k]
      symm
      apply List.filter_eq_self.2
      intro t ht
      have hkind := (List.mem_filter.1 ht).2
      simp only [beq_iff_eq] at hkind
      simp only [List.mem_singleton, decide_not, Bool.not_eq_eq_eq_not, Bool.not_true,
        decide_eq_false_iff_not]
      intro he
      exact hk (hkind ▸ (hsame t (List.mem_filter.1 ht).1 he).symm ▸ rfl)
  · rw [hlive]
    have hp := hf.ids.filter (fun e => e.1 != s.serial)
    refine hp.trans ?_
    rw [List.filter_map]
    apply List.Perm.of_eq
    congr 1
    apply List.filter_congr
    intro t _
    by_cases h : t.serial = s.serial <;> simp [h]
  · intro n
    simp [hf.cancelled n]

theorem Follows.removeOwner (hf : Follows b l) (hl : l.Sound) (owner : String) :
    Follows (b.retract owner).2
      { l with gone := l.gone ++ (l.live.filter (·.owner == owner)).map (·.serial) } := by
  -- a live serial is among the owner's serials exactly when its subscription is the owner's
  have hmine : ∀ t ∈ l.live,
      t.serial ∈ (l.live.filter (·.owner == owner)).map (·.serial) ↔ t.owner = owner := by
    intro t ht
    constructor
    · intro h
      obtain ⟨u, hu, he⟩ := List.mem_map.1 h
      have hu' := List.mem_filter.1 hu
      have := hl.eq_of_serial (Ledger.mem_live.1 hu'.1).1 (Ledger.mem_live.1 ht).1 he
      subst this
      simpa using hu'.2
    · intro h
      exact List.mem_map.2 ⟨t, List.mem_filter.2 ⟨ht, by simpa using h⟩, rfl⟩
  have hlive : ({ l with gone := l.gone ++ (l.live.filter (·.owner == owner)).map (·.serial) }
      : Ledger η).live = l.live.filter (·.owner != owner) := by
    rw [Ledger.live_drop]
    apply List.filter_congr
    intro t ht
    by_cases h : t.owner = owner <;> simp [h, hmine t ht]
  have hgone := (hf.ownedBy_perm hl owner).map (·.serial)
  refine ⟨hf.issued, ?_, ?_, ?_, ?_, ?_⟩
  · exact (Registry.keys_filterMap_keepOthers owner _).nodup hf.kinds
  · intro e he
    obtain ⟨e₀, he₀, hkeep⟩ := List.mem_filterMap.1 he
    exact Registry.keepOthers_nonempty hkeep (hf.nonempty e₀ he₀)
  · intro k
    rw [Bus.retract_registry, Registry.snapshot_removeOwner hf.kinds, hf.snapshot k, hlive,
      List.filter_comm]
  · show (b.registry.byId.entries.filter _).Perm _
    refine (hf.ids.filter _).trans ?_
    rw [hlive, List.filter_map]
    apply List.Perm.of_eq
    congr 1
    apply List.filter_congr
    intro t ht
    have hany : (b.registry.ownedBy owner).any (·.serial == t.serial) = true ↔ t.owner = owner := by
      rw [← hmine t ht, List.any_eq_true]
      constructor
      · rintro ⟨u, hu, he⟩
        exact hgone.subset (List.mem_map.2 ⟨u, hu, beq_iff_eq.1 he⟩)
      · intro h
        obtain ⟨u, hu, he⟩ := List.mem_map.1 (hgone.symm.subset h)
        exact ⟨u, hu, beq_iff_eq.2 he⟩
    by_cases h : t.owner = owner
    · simp [h, hany.2 h]
    · have : (b.registry.ownedBy owner).any (·.serial == t.serial) = false :=
        Bool.eq_false_iff.2 fun h' => h (hany.1 h')
      simp [h, this]
  · intro n
    show n ∈ b.registry.cancelled ++ (b.registry.ownedBy owner).map (·.serial) ↔ _
    rw [List.mem_append, List.mem_append, hf.cancelled n, hgone.mem_iff]

theorem Follows.perform (hf : Follows b l) (hl : l.Sound) (c : Call η) :
    Follows (b.perform c) (l.step c) := by
  cases c with
  | subscribe kind owner filter handler =>
      cases handler with
      | none => simpa [Ledger.step] using hf
      | some x =>
          rw [Bus.perform_subscribe_some]
          simp only [Ledger.step]
          split
          · exact hf.add hl kind owner filter x
          · exact hf
  | unsubscribe handle =>
      cases handle with
      | none => simpa [Ledger.step] using hf
      | some h =>
          rw [Bus.perform_unsubscribe_some]
          simp only [Ledger.step]
          -- the registry removes exactly what the ledger still has live
          by_cases hany : l.live.any (·.serial == h.serial) = true
          · obtain ⟨s, hs, he⟩ := List.any_eq_true.1 hany
            rw [beq_iff_eq] at he
            obtain ⟨r, hr, hfr⟩ := hf.remove hl hs
            rw [if_pos hany, ← he, hr]
            exact hfr
          · have hnone : b.registry.byId.get? h.serial = none := by
              cases hget : b.registry.byId.get? h.serial with
              | none => rfl
              | some t =>
                  obtain ⟨ht, he⟩ := (hf.get?_byId hl).1 hget
                  exact (hany (List.any_eq_true.2 ⟨t, ht, beq_iff_eq.2 he⟩)).elim
            rw [if_neg hany, Registry.remove_eq_none hnone]
            exact hf
  | retract owner => exact hf.removeOwner hl owner

theorem follows_performAll (hf : Follows b l) (hl : l.Sound) (cs : List (Call η)) :
    Follows (b.performAll cs) (l.run cs) := by
  induction cs generalizing b l with
  | nil => exact hf
  | cons c cs ih => exact ih (hf.perform hl c) (hl.step c)

/-! ## What a registry on its history looks like -/

theorem Follows.count_eq_length (hf : Follows b l) : b.count = l.live.length := by
  rw [Bus.count, Registry.count, hf.ids.length_eq, List.length_map]

theorem Follows.count_eq (hf : Follows b l) (hl : l.Sound) :
    b.count = (b.registry.byKind.values.map List.length).sum := by
  have h2 := (hf.kinds_perm hl).length_eq
  rw [List.length_flatMap] at h2
  rw [hf.count_eq_length, ← h2, KeyMap.values, List.map_map]
  rfl

theorem Follows.values_perm (hf : Follows b l) : b.registry.byId.values.Perm l.live := by
  have h := hf.ids.map Prod.snd
  have hlive : (l.live.map fun s => (s.serial, s)).map Prod.snd = l.live := by
    rw [List.map_map]
    exact List.map_id' l.live
  rwa [hlive] at h

theorem Follows.countOwned_eq (hf : Follows b l) (owner : String) :
    b.countOwned owner = (l.live.filter (·.owner == owner)).length :=
  (hf.values_perm.filter _).length_eq

/-- Taking back an owner answers the number of its live subscriptions,
removes exactly those from each kind's list, keeps the others in order,
and leaves nothing for the owner, so that doing it again removes none. -/
theorem Follows.retract_spec (hf : Follows b l) (hl : l.Sound) (owner : String) :
    (b.retract owner).1 = (l.live.filter (·.owner == owner)).length ∧
      (∀ k, (b.retract owner).2.registry.snapshot k = (b.registry.snapshot k).filter (·.owner != owner)) ∧
      ((b.retract owner).2.retract owner).1 = 0 := by
  refine ⟨?_, ?_, ?_⟩
  · rw [Bus.retract_count, (hf.ownedBy_perm hl owner).length_eq]
  · intro k
    rw [Bus.retract_registry, Registry.snapshot_removeOwner hf.kinds]
  · have hf' := hf.removeOwner hl owner
    have hl' := hl.step (.retract owner)
    rw [Bus.retract_count, (hf'.ownedBy_perm hl' owner).length_eq, List.length_eq_zero_iff,
      List.filter_eq_nil_iff]
    intro t ht
    have hlive := Ledger.live_drop l ((l.live.filter (·.owner == owner)).map (·.serial))
    rw [hlive] at ht
    obtain ⟨ht, hnot⟩ := List.mem_filter.1 ht
    intro hown
    exact of_decide_eq_true hnot (List.mem_map.2 ⟨t, List.mem_filter.2 ⟨ht, hown⟩, rfl⟩)

end Follows

/-! ## The registry over any history -/

/-- Whatever subscriptions, removals and retractions are made, in whatever
order, the registry of a new bus keeps to what they mean:

* every kind is listed once, never with an empty list, and each kind's
  list holds only subscriptions of that kind, each subscription once;
* the serial index holds exactly the subscriptions of the kind lists,
  each under its own serial;
* a serial is marked cancelled exactly when its subscription was removed;
* each kind's list is that kind's subscriptions not yet removed, in the
  order they were made;
* taking back an owner answers how many live subscriptions it had,
  removes exactly those from every kind's list and keeps the others in
  order, and a second taking back right after removes none;
* the count of subscriptions is the sum of the kind lists' lengths. -/
theorem registry_follows_history (ms : Nat) (cs : List (Call η)) :
    let b := (Bus.withTimeout ms : Bus η).performAll cs
    let l := ({} : Ledger η).run cs
    (b.registry.byKind.keys.Nodup ∧
      (∀ e ∈ b.registry.byKind.entries, e.2 ≠ [] ∧ ∀ s ∈ e.2, s.kind = e.1) ∧
      (b.registry.byKind.entries.flatMap (·.2)).Nodup) ∧
    (b.registry.byId.keys.Nodup ∧
      ∀ n s, (n, s) ∈ b.registry.byId.entries ↔
        (∃ e ∈ b.registry.byKind.entries, s ∈ e.2) ∧ s.serial = n) ∧
    (∀ n, b.registry.isCancelled n = true ↔ n ∈ l.gone) ∧
    (∀ k, b.ofKind k = l.live.filter (·.kind == k)) ∧
    (∀ o, (b.retract o).1 = (l.live.filter (·.owner == o)).length ∧
      (∀ k, (b.retract o).2.ofKind k = (b.ofKind k).filter (·.owner != o)) ∧
      ((b.retract o).2.retract o).1 = 0) ∧
    b.count = (b.registry.byKind.values.map List.length).sum := by
  intro b l
  have hl : l.Sound := Ledger.sound_empty.run cs
  have hf : Follows b l := follows_performAll (follows_fresh rfl) Ledger.sound_empty cs
  refine ⟨⟨hf.kinds, ?_, (hf.kinds_perm hl).nodup_iff.2 hl.live_nodup⟩,
    ⟨hf.byId_keys hl, ?_⟩, ?_, hf.snapshot, fun o => hf.retract_spec hl o, hf.count_eq hl⟩
  · rintro ⟨k, subs⟩ he
    refine ⟨hf.nonempty _ he, fun s hs => ?_⟩
    rw [hf.entry_eq he] at hs
    simpa using (List.mem_filter.1 hs).2
  · intro n s
    rw [hf.mem_byId, hf.mem_kinds]
  · intro n
    rw [Registry.isCancelled, List.contains_iff_mem, hf.cancelled n]

end MudClient.Event
