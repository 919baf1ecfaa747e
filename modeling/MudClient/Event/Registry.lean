/-
# The subscription registry

The registry holds the subscriptions of a bus twice over: each kind's
subscriptions in the order they were made, and every subscription by its
serial number.  A kind left with no subscription is forgotten.  Removing a
subscription also marks it cancelled, and the mark outlives the removal:
a publication that took a kind's list before the removal can still tell
that the subscription is gone.

Every change builds new lists for the kinds it touches, so a list handed
out earlier never changes underneath its holder.
-/
import MudClient.KeyMap
import MudClient.Event.Filter

namespace MudClient.Event

/-- A subscription: its serial number, what it is for, and its handler. -/
structure Subscription (η : Type) where
  serial : Nat
  kind : Kind
  owner : String
  filter : Filter
  handler : η

/-- The subscriptions by kind and by serial, and the serials of those that
were removed. -/
structure Registry (η : Type) where
  byKind : KeyMap Kind (List (Subscription η)) := {}
  byId : KeyMap Nat (Subscription η) := {}
  cancelled : List Nat := []

namespace Registry

variable {η : Type}

def snapshot (r : Registry η) (kind : Kind) : List (Subscription η) :=
  (r.byKind.get? kind).getD []

def isCancelled (r : Registry η) (serial : Nat) : Bool := r.cancelled.contains serial

def setKind (t : KeyMap Kind (List (Subscription η))) (kind : Kind) (subs : List (Subscription η)) :
    KeyMap Kind (List (Subscription η)) :=
  if subs.isEmpty then t.erase kind else t.set kind subs

def add (r : Registry η) (sub : Subscription η) : Registry η :=
  { r with byKind := r.byKind.set sub.kind (r.snapshot sub.kind ++ [sub]),
           byId := r.byId.set sub.serial sub }

/-- Removes and cancels the subscription with a serial; none when there is
no such subscription. -/
def remove (r : Registry η) (serial : Nat) : Option (Registry η) :=
  match r.byId.get? serial with
  | none => none
  | some sub =>
    some { byKind := setKind r.byKind sub.kind ((r.snapshot sub.kind).filter (·.serial != serial)),
           byId := r.byId.erase serial,
           cancelled := r.cancelled ++ [serial] }

/-- What taking back an owner leaves of one kind's list: the list without
the owner's subscriptions, or nothing when none is left.  A list the owner
has nothing in stays as it is. -/
def keepOthers (owner : String) (e : Kind × List (Subscription η)) :
    Option (Kind × List (Subscription η)) :=
  if e.2.any (·.owner == owner) then
    let rest := e.2.filter (·.owner != owner)
    if rest.isEmpty then none else some (e.1, rest)
  else some e

def ownedBy (r : Registry η) (owner : String) : List (Subscription η) :=
  r.byKind.entries.flatMap fun e => e.2.filter (·.owner == owner)

/-- Removes and cancels every subscription of an owner, across all kinds;
answers how many there were. -/
def removeOwner (r : Registry η) (owner : String) : Nat × Registry η :=
  let gone := r.ownedBy owner
  (gone.length,
    { byKind := ⟨r.byKind.entries.filterMap (keepOthers owner)⟩,
      byId := ⟨r.byId.entries.filter fun e => !gone.any (·.serial == e.1)⟩,
      cancelled := r.cancelled ++ gone.map (·.serial) })

def count (r : Registry η) : Nat := r.byId.entries.length

def countByOwner (r : Registry η) (owner : String) : Nat :=
  (r.byId.values.filter (·.owner == owner)).length

/-! ## What each change does to a kind's list -/

theorem getD_setKind (t : KeyMap Kind (List (Subscription η))) (kind : Kind)
    (subs : List (Subscription η)) (k : Kind) :
    ((setKind t kind subs).get? k).getD [] = if k = kind then subs else (t.get? k).getD [] := by
  unfold setKind
  by_cases hk : k = kind
  · subst hk
    split
    · rename_i he
      simp [List.isEmpty_iff.1 he]
    · simp
  · split <;> simp [hk]

@[simp] theorem snapshot_add (r : Registry η) (sub : Subscription η) (k : Kind) :
    (r.add sub).snapshot k = if k = sub.kind then r.snapshot k ++ [sub] else r.snapshot k := by
  by_cases hk : k = sub.kind
  · subst hk
    simp [add, snapshot]
  · simp [add, snapshot, hk]

theorem remove_of_get? {r : Registry η} {serial : Nat} {sub : Subscription η}
    (h : r.byId.get? serial = some sub) :
    r.remove serial = some { byKind := setKind r.byKind sub.kind ((r.snapshot sub.kind).filter (·.serial != serial)),
                             byId := r.byId.erase serial, cancelled := r.cancelled ++ [serial] } := by
  simp [remove, h]

theorem remove_eq_none {r : Registry η} {serial : Nat} (h : r.byId.get? serial = none) :
    r.remove serial = none := by
  simp [remove, h]

theorem keepOthers_key {owner : String} {e e' : Kind × List (Subscription η)}
    (h : keepOthers owner e = some e') : e'.1 = e.1 := by
  unfold keepOthers at h
  dsimp only at h
  split at h
  · split at h
    · cases h
    · cases h
      rfl
  · cases h
    rfl

theorem keepOthers_list (owner : String) (e : Kind × List (Subscription η)) :
    ((keepOthers owner e).map (·.2)).getD [] = e.2.filter (·.owner != owner) := by
  unfold keepOthers
  dsimp only
  split
  · split
    · rename_i he
      simp [List.isEmpty_iff.1 he]
    · rfl
  · rename_i hany
    have : ∀ s ∈ e.2, (s.owner != owner) = true := by
      intro s hs
      have := List.any_eq_false.1 (Bool.eq_false_iff.2 hany) s hs
      simpa using this
    simp [List.filter_eq_self.2 this]

theorem keepOthers_nonempty {owner : String} {e e' : Kind × List (Subscription η)}
    (h : keepOthers owner e = some e') (he : e.2 ≠ []) : e'.2 ≠ [] := by
  unfold keepOthers at h
  dsimp only at h
  split at h
  · split at h
    · cases h
    · rename_i hne
      cases h
      simpa using hne
  · cases h
    exact he

/-- Taking back an owner leaves each kind's list without the owner's
subscriptions, when each kind is listed once. -/
theorem lookup_filterMap_keepOthers (owner : String) (k : Kind) :
    ∀ (es : List (Kind × List (Subscription η))), (es.map (·.1)).Nodup →
      ((es.filterMap (keepOthers owner)).lookup k).getD [] = ((es.lookup k).getD []).filter (·.owner != owner)
  | [], _ => rfl
  | (k₀, subs) :: es, hk => by
      simp only [List.map_cons, List.nodup_cons] at hk
      have ih := lookup_filterMap_keepOthers owner k es hk.2
      have hlist := keepOthers_list owner (k₀, subs)
      rw [List.filterMap_cons]
      by_cases h₀ : k = k₀
      · subst h₀
        have hrest : es.lookup k = none := by
          rw [List.lookup_eq_none_iff]
          intro p hp
          rw [bne_iff_ne]
          intro he
          exact hk.1 (List.mem_map.2 ⟨p, hp, he.symm⟩)
        rw [List.lookup_cons_self]
        cases hkeep : keepOthers owner (k, subs) with
        | none =>
            rw [hkeep] at hlist
            rw [ih, hrest]
            simpa using hlist
        | some e' =>
            rw [hkeep] at hlist
            obtain ⟨k', l'⟩ := e'
            have hk' : k' = k := keepOthers_key hkeep
            subst hk'
            rw [List.lookup_cons_self]
            simpa using hlist
      · have hb : (k == k₀) = false := by simpa using h₀
        cases hkeep : keepOthers owner (k₀, subs) with
        | none => simp [List.lookup_cons, hb, ih]
        | some e' =>
            obtain ⟨k', l'⟩ := e'
            have hk' : k' = k₀ := keepOthers_key hkeep
            subst hk'
            simp [List.lookup_cons, hb, ih]

theorem keys_filterMap_keepOthers (owner : String) :
    ∀ (es : List (Kind × List (Subscription η))),
      ((es.filterMap (keepOthers owner)).map (·.1)).Sublist (es.map (·.1))
  | [] => List.Sublist.slnil
  | e :: es => by
      have ih := keys_filterMap_keepOthers owner es
      rw [List.filterMap_cons]
      cases hkeep : keepOthers owner e with
      | none => exact ih.cons _
      | some e' =>
          rw [List.map_cons, List.map_cons, keepOthers_key hkeep]
          exact ih.cons_cons _

theorem snapshot_removeOwner {r : Registry η} (hk : r.byKind.keys.Nodup) (owner : String) (k : Kind) :
    (r.removeOwner owner).2.snapshot k = (r.snapshot k).filter (·.owner != owner) :=
  lookup_filterMap_keepOthers owner k r.byKind.entries hk

end Registry

end MudClient.Event
