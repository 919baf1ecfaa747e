/-
# Key maps

A key map maps keys to values, each key at most once.  It stands for the
hash maps the client keeps: setting a key replaces its value, erasing it
forgets the key, and looking a key up finds its value.  A key map is a
list of entries underneath, and the order of the entries is not part of
its meaning: nothing the client answers may depend on it, so lemmas about
a walk over the entries hold for every order of them.

The lemmas beside the definitions say what each operation does to a
lookup and to the entries, so that later proofs never unfold them.
-/

namespace MudClient

/-- A map from keys to values, as its list of entries. -/
structure KeyMap (κ ν : Type) where
  entries : List (κ × ν) := []

namespace KeyMap

variable {κ ν : Type} [DecidableEq κ]

def get? (t : KeyMap κ ν) (k : κ) : Option ν := t.entries.lookup k

def erase (t : KeyMap κ ν) (k : κ) : KeyMap κ ν := ⟨t.entries.filter (·.1 != k)⟩

def set (t : KeyMap κ ν) (k : κ) (v : ν) : KeyMap κ ν := ⟨(t.erase k).entries ++ [(k, v)]⟩

def keys (t : KeyMap κ ν) : List κ := t.entries.map (·.1)

def values (t : KeyMap κ ν) : List ν := t.entries.map (·.2)

def isEmpty (t : KeyMap κ ν) : Bool := t.entries.isEmpty

/-! ## Lookups -/

theorem lookup_cons_of_ne {es : List (κ × ν)} {a k : κ} {b : ν} (h : k ≠ a) :
    ((a, b) :: es).lookup k = es.lookup k := by
  have hb : (k == a) = false := by simpa using h
  rw [List.lookup_cons, hb]

@[simp] theorem get?_empty (k : κ) : ({} : KeyMap κ ν).get? k = none := rfl

theorem get?_eq_some_of_mem {t : KeyMap κ ν} (hk : t.keys.Nodup) {k : κ} {v : ν}
    (h : (k, v) ∈ t.entries) : t.get? k = some v := by
  obtain ⟨es⟩ := t
  induction es with
  | nil => simp at h
  | cons e es ih =>
      obtain ⟨a, b⟩ := e
      simp only [keys, List.map_cons, List.nodup_cons, List.mem_map] at hk
      simp only [List.mem_cons] at h
      rcases h with h | h
      · simp_all [get?]
      · have hne : k ≠ a := fun he => hk.1 ⟨(k, v), h, he⟩
        simpa [get?, lookup_cons_of_ne hne] using ih hk.2 h

theorem mem_of_get?_eq_some {t : KeyMap κ ν} {k : κ} {v : ν} (h : t.get? k = some v) :
    (k, v) ∈ t.entries := by
  obtain ⟨l₁, l₂, he, -⟩ := List.lookup_eq_some_iff.1 h
  simp [he]

theorem get?_eq_some_iff {t : KeyMap κ ν} (hk : t.keys.Nodup) {k : κ} {v : ν} :
    t.get? k = some v ↔ (k, v) ∈ t.entries :=
  ⟨mem_of_get?_eq_some, get?_eq_some_of_mem hk⟩

theorem get?_eq_none_iff {t : KeyMap κ ν} {k : κ} : t.get? k = none ↔ k ∉ t.keys := by
  simp only [get?, List.lookup_eq_none_iff, keys, List.mem_map]
  constructor
  · rintro h ⟨e, he, rfl⟩
    simpa using h e he
  · intro h e he
    simpa using fun hk => h ⟨e, he, hk.symm⟩

theorem lookup_filter_ne (es : List (κ × ν)) (k k' : κ) (hk : k' ≠ k) :
    (es.filter (·.1 != k)).lookup k' = es.lookup k' := by
  induction es with
  | nil => rfl
  | cons e es ih =>
      obtain ⟨a, b⟩ := e
      by_cases he : a = k
      · subst he
        simp [lookup_cons_of_ne hk, ih]
      · by_cases ha : k' = a
        · subst ha
          simp [he]
        · simp [he, lookup_cons_of_ne ha, ih]

theorem lookup_filter_self (es : List (κ × ν)) (k : κ) :
    (es.filter (·.1 != k)).lookup k = none := by
  simp only [List.lookup_eq_none_iff, List.mem_filter, bne_iff_ne, ne_eq]
  intro p hp
  simpa [eq_comm] using hp.2

@[simp] theorem get?_erase (t : KeyMap κ ν) (k k' : κ) :
    (t.erase k).get? k' = if k' = k then none else t.get? k' := by
  split
  · subst k'
    exact lookup_filter_self t.entries k
  · exact lookup_filter_ne t.entries k k' ‹_›

@[simp] theorem get?_set (t : KeyMap κ ν) (k : κ) (v : ν) (k' : κ) :
    (t.set k v).get? k' = if k' = k then some v else t.get? k' := by
  have h := get?_erase t k k'
  simp only [get?, set] at h ⊢
  rw [List.lookup_append, h]
  by_cases hk : k' = k
  · subst hk
    simp
  · rw [lookup_cons_of_ne hk, List.lookup_nil]
    simp [hk]

/-! ## Entries -/

@[simp] theorem mem_erase {t : KeyMap κ ν} {k : κ} {e : κ × ν} :
    e ∈ (t.erase k).entries ↔ e ∈ t.entries ∧ e.1 ≠ k := by
  simp [erase]

@[simp] theorem mem_set {t : KeyMap κ ν} {k : κ} {v : ν} {e : κ × ν} :
    e ∈ (t.set k v).entries ↔ (e ∈ t.entries ∧ e.1 ≠ k) ∨ e = (k, v) := by
  simp [set]

theorem erase_of_not_mem {t : KeyMap κ ν} {k : κ} (hk : k ∉ t.keys) : t.erase k = t := by
  obtain ⟨es⟩ := t
  simp only [erase, KeyMap.mk.injEq]
  apply List.filter_eq_self.2
  intro e he
  simp only [bne_iff_ne, ne_eq]
  intro hek
  exact hk (List.mem_map.2 ⟨e, he, hek⟩)

theorem keys_erase_nodup {t : KeyMap κ ν} (hk : t.keys.Nodup) (k : κ) : (t.erase k).keys.Nodup := by
  simp only [keys, erase]
  exact (List.filter_sublist.map _).nodup hk

theorem keys_set_nodup {t : KeyMap κ ν} (hk : t.keys.Nodup) (k : κ) (v : ν) :
    (t.set k v).keys.Nodup := by
  have he := keys_erase_nodup hk k
  simp only [keys, set, List.map_append, List.map_cons, List.map_nil] at he ⊢
  refine List.nodup_append.2 ⟨he, by simp, ?_⟩
  intro a ha b hb
  simp only [List.mem_singleton] at hb
  subst hb
  simp only [erase, List.mem_map, List.mem_filter, bne_iff_ne] at ha
  obtain ⟨e, ⟨_, hne⟩, rfl⟩ := ha
  exact hne

/-! ## Walks over the entries -/

/-- Keeping the entries whose values pass a test keeps exactly the lookups
that pass it, when each key is listed once. -/
theorem get?_filter {t : KeyMap κ ν} (hk : t.keys.Nodup) (p : ν → Bool) (k : κ) :
    (⟨t.entries.filter fun e => p e.2⟩ : KeyMap κ ν).get? k = (t.get? k).filter p := by
  have hk' : (⟨t.entries.filter fun e => p e.2⟩ : KeyMap κ ν).keys.Nodup :=
    (List.filter_sublist.map _).nodup hk
  cases hget : t.get? k with
  | none =>
      rw [Option.filter_none, get?_eq_none_iff]
      rw [get?_eq_none_iff] at hget
      intro hmem
      exact hget ((List.filter_sublist.map _).subset hmem)
  | some v =>
      have hv := mem_of_get?_eq_some hget
      cases hp : p v with
      | true =>
          rw [show (some v).filter p = some v by simp [hp]]
          exact get?_eq_some_of_mem hk' (List.mem_filter.2 ⟨hv, hp⟩)
      | false =>
          rw [show (some v).filter p = none by simp [hp]]
          -- the one entry under `k` fails the test, so none is kept
          cases hget' : (⟨t.entries.filter fun e => p e.2⟩ : KeyMap κ ν).get? k with
          | none => rfl
          | some w =>
              have hw := List.mem_filter.1 (mem_of_get?_eq_some hget')
              rw [get?_eq_some_of_mem hk hw.1, Option.some.injEq] at hget
              rw [hget, hp] at hw
              cases hw.2

/-- A walk that drops some entries and changes the values of others, never
their keys, looks a key up through the entry it had. -/
theorem lookup_filterMap {f : κ × ν → Option (κ × ν)} (hf : ∀ e e', f e = some e' → e'.1 = e.1)
    (k : κ) : ∀ es : List (κ × ν), (es.map (·.1)).Nodup →
      (es.filterMap f).lookup k = (es.lookup k).bind fun v => (f (k, v)).map (·.2)
  | [], _ => rfl
  | (k₀, v₀) :: es, hn => by
      simp only [List.map_cons, List.nodup_cons] at hn
      have ih := lookup_filterMap hf k es hn.2
      rw [List.filterMap_cons]
      by_cases h₀ : k = k₀
      · subst h₀
        -- the key is listed once, so the rest of the entries do not have it
        have hrest : es.lookup k = none := by
          rw [List.lookup_eq_none_iff]
          intro e he
          rw [bne_iff_ne]
          intro hek
          exact hn.1 (List.mem_map.2 ⟨e, he, hek.symm⟩)
        rw [List.lookup_cons_self, Option.bind_some]
        cases hfk : f (k, v₀) with
        | none => rw [ih, hrest]; rfl
        | some e' =>
            obtain ⟨k', v'⟩ := e'
            have hk' : k' = k := hf _ _ hfk
            subst hk'
            rw [List.lookup_cons_self]
            rfl
      · cases hfk : f (k₀, v₀) with
        | none => rw [ih, lookup_cons_of_ne h₀]
        | some e' =>
            obtain ⟨k', v'⟩ := e'
            have hk' : k' = k₀ := hf _ _ hfk
            subst hk'
            rw [lookup_cons_of_ne h₀, lookup_cons_of_ne h₀, ih]

omit [DecidableEq κ] in
theorem keys_filterMap_sublist {f : κ × ν → Option (κ × ν)} (hf : ∀ e e', f e = some e' → e'.1 = e.1) :
    ∀ es : List (κ × ν), ((es.filterMap f).map (·.1)).Sublist (es.map (·.1))
  | [] => List.Sublist.slnil
  | e :: es => by
      have ih := keys_filterMap_sublist hf es
      rw [List.filterMap_cons]
      cases he : f e with
      | none => exact ih.cons _
      | some e' =>
          rw [List.map_cons, List.map_cons, hf e e' he]
          exact ih.cons_cons _

end KeyMap

end MudClient
