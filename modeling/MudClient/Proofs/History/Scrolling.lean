/-
# The scrolling state of a history

A history is used through four calls: keeping a line, a step back, a step
forward, and ending the scroll.  Whatever sequence of them is made on a
history made with any capacity, the history stays well formed
(`Buffer.Valid`):

* it holds at most its capacity of lines, and no blank one;
* it scrolls exactly when it keeps a line aside;
* a history that does not scroll has its cursor at the start, and one that
  scrolls has a line under its cursor.

The last point is what makes every read of a step back or forward fall
inside the history: a step back reads only below where it starts, the
cursor or the length when scrolling begins, and a step forward only above
the cursor and below the length.

Each call keeps the invariant (`Valid.append`, `Valid.prev`, `Valid.next`,
`Valid.reset`); a new history has it (`valid_new`), so every run of calls
keeps it (`Valid.runAll`), and never changes the capacity
(`capacity_runAll`).  The searches of the two steps answer an index on the
right side of where they start (`findBefore_lt`, `findAfter_gt`), inside the
history.
-/
import MudClient.History.Basic

namespace MudClient.History

open Session

namespace Buffer

/-! ## The searches of a step -/

section Search

variable {lines : List InputLine} {skip : Bool}

theorem findBefore_lt : ∀ {i j : Nat} {l : InputLine}, findBefore lines skip i = some (j, l) → j < i
  | 0, _, _, h => by simp [findBefore] at h
  | i + 1, j, l, h => by
    simp only [findBefore] at h
    split at h
    · split at h
      · exact Nat.lt_succ_of_lt (findBefore_lt h)
      · cases h
        exact Nat.lt_succ_self i
    · exact Nat.lt_succ_of_lt (findBefore_lt h)

/-- A step forward finds a line strictly above where it starts, inside the
history. -/
theorem findAfter_gt {i j : Nat} {l : InputLine} (h : findAfter lines skip i = some (j, l)) :
    i < j ∧ j < lines.length := by
  unfold findAfter at h
  obtain ⟨p, hp, hpl⟩ := Option.map_eq_some_iff.1 h
  cases hpl
  have hmem : p ∈ lines.zipIdx.drop (i + 1) := List.mem_of_find?_eq_some hp
  -- the entries past the start are numbered from one above it
  obtain ⟨k, hk, hpk⟩ := List.mem_drop_iff_getElem.1 hmem
  have hsnd : p.2 = i + 1 + k := by
    rw [← hpk, List.getElem_zipIdx]
    simp
  have hlt := List.snd_lt_of_mem_zipIdx (List.mem_of_mem_drop hmem)
  simp only [Nat.add_zero] at hlt
  omega

end Search

/-! ## Calls keep the capacity -/

@[simp] theorem capacity_reset (h : Buffer) : h.reset.capacity = h.capacity := rfl

@[simp] theorem capacity_append (h : Buffer) (l : InputLine) : (h.append l).2.capacity = h.capacity := by
  unfold append
  split
  · rfl
  · split <;> rfl

@[simp] theorem capacity_prev (h : Buffer) (current : InputLine) (skip : Bool) :
    (h.prev current skip).2.capacity = h.capacity := by
  unfold prev
  split
  · rfl
  · dsimp only
    split <;> split <;> rfl

@[simp] theorem capacity_next (h : Buffer) (skip : Bool) : (h.next skip).2.capacity = h.capacity := by
  unfold next
  split
  · rfl
  · split <;> rfl

/-- A history made with a capacity below one keeps the default number of
lines. -/
theorem capacity_new (c : Int) : (new c).capacity = if c < 1 then defaultCapacity else c.toNat := by
  unfold new
  split <;> rfl

/-! ## The invariant -/

/-- A well-formed history. -/
structure Valid (h : Buffer) : Prop where
  capacity_pos : 0 < h.capacity
  bounded : h.lines.length ≤ h.capacity
  not_blank : ∀ l ∈ h.lines, l.blank = false
  /-- Scrolling exactly when a typed line is kept aside. -/
  saved : h.scrolling = h.saved.isSome
  idle : h.scrolling = false → h.cursor = 0
  /-- While scrolling, the cursor is on a line of the history. -/
  cursor_lt : h.scrolling = true → h.cursor < h.lines.length

variable {h : Buffer}

theorem valid_new (c : Int) : (new c).Valid where
  capacity_pos := by
    rw [capacity_new]
    split
    · decide
    · omega
  bounded := Nat.zero_le _
  not_blank := fun _ hl => absurd hl List.not_mem_nil
  saved := rfl
  idle := fun _ => rfl
  cursor_lt := fun hs => absurd hs Bool.false_ne_true

theorem Valid.reset (hv : h.Valid) : h.reset.Valid where
  capacity_pos := hv.capacity_pos
  bounded := hv.bounded
  not_blank := hv.not_blank
  saved := rfl
  idle := fun _ => rfl
  cursor_lt := fun hs => absurd hs Bool.false_ne_true

/-- Keeping a line: a user's line ends the scroll first, and the oldest
line beyond the capacity goes, taking the cursor down with it.  A history
within its capacity holds at most one line too many, so the cursor, moved
down by that one, stays on a line. -/
theorem Valid.append (hv : h.Valid) (l : InputLine) : (h.append l).2.Valid := by
  unfold Buffer.append
  split
  · exact hv
  rename_i hl
  obtain ⟨g, hg, hgv⟩ : ∃ g, g = (if h.scrolling && !l.scripted then h.reset else h) ∧ g.Valid := by
    refine ⟨_, rfl, ?_⟩
    split
    · exact hv.reset
    · exact hv
  rw [← hg]
  have hcap := hgv.capacity_pos
  have hlen := hgv.bounded
  refine ⟨hcap, ?_, ?_, hgv.saved, ?_, ?_⟩
  · simp only [List.length_drop, List.length_append, List.length_singleton]
    omega
  · intro x hx
    rcases List.mem_append.1 (List.mem_of_mem_drop hx) with hx | hx
    · exact hgv.not_blank x hx
    · rw [List.mem_singleton.1 hx]
      simpa using hl
  · intro (hs : g.scrolling = false)
    simp only [hs, Bool.false_eq_true, ↓reduceIte]
    exact hgv.idle hs
  · intro (hs : g.scrolling = true)
    have hc := hgv.cursor_lt hs
    simp only [hs, ↓reduceIte, List.length_drop, List.length_append, List.length_singleton]
    omega

/-- A step back: starting to scroll puts the cursor past the newest line,
and the search moves it below; finding nothing leaves it on the oldest. -/
theorem Valid.prev (hv : h.Valid) (current : InputLine) (skip : Bool) : (h.prev current skip).2.Valid := by
  unfold Buffer.prev
  split
  · exact hv
  rename_i hne
  have hpos : 0 < h.lines.length := List.length_pos_iff.2 (by simpa using hne)
  obtain ⟨g, hg, hlines, hcap, hscroll, hsaved, hcur⟩ : ∃ g, g = (if h.scrolling then h
      else { h with scrolling := true, cursor := h.lines.length, saved := some current }) ∧
      g.lines = h.lines ∧ g.capacity = h.capacity ∧ g.scrolling = true ∧ g.saved.isSome = true ∧
      g.cursor ≤ h.lines.length := by
    refine ⟨_, rfl, ?_⟩
    by_cases hs : h.scrolling = true
    · rw [if_pos hs]
      exact ⟨rfl, rfl, hs, hv.saved.symm.trans hs, Nat.le_of_lt (hv.cursor_lt hs)⟩
    · rw [if_neg hs]
      exact ⟨rfl, rfl, rfl, rfl, Nat.le_refl _⟩
  rw [← hg]
  dsimp only
  have hbase : ∀ c, c < h.lines.length → ({ g with cursor := c } : Buffer).Valid := fun c hc =>
    { capacity_pos := hcap ▸ hv.capacity_pos
      bounded := by simpa [hlines, hcap] using hv.bounded
      not_blank := by simpa [hlines] using hv.not_blank
      saved := by simpa [hscroll] using hsaved.symm
      idle := fun hs => absurd hscroll (by simpa using hs)
      cursor_lt := fun _ => by simpa [hlines] using hc }
  split
  · rename_i i x hfound
    exact hbase i (Nat.lt_of_lt_of_le (findBefore_lt hfound) (hlines ▸ hcur))
  · exact hbase 0 hpos

/-- A step forward: the search lands on a line of the history, or the
scroll ends. -/
theorem Valid.next (hv : h.Valid) (skip : Bool) : (h.next skip).2.Valid := by
  unfold Buffer.next
  split
  · exact hv
  rename_i hs
  have hs : h.scrolling = true := by simpa using hs
  split
  · rename_i i x hfound
    exact { hv with
      idle := fun hs' => absurd hs (by simpa using hs')
      cursor_lt := fun _ => (findAfter_gt hfound).2 }
  · exact hv.reset

/-! ## Runs of calls -/

/-- A call made on a history. -/
inductive Call where
  | append (l : InputLine)
  | prev (current : InputLine) (skipScripted : Bool)
  | next (skipScripted : Bool)
  | reset

def perform (h : Buffer) : Call → Buffer
  | .append l => (h.append l).2
  | .prev current skip => (h.prev current skip).2
  | .next skip => (h.next skip).2
  | .reset => h.reset

def runAll (h : Buffer) (calls : List Call) : Buffer := calls.foldl perform h

theorem Valid.perform (hv : h.Valid) : ∀ c : Call, (h.perform c).Valid
  | .append l => hv.append l
  | .prev current skip => hv.prev current skip
  | .next skip => hv.next skip
  | .reset => hv.reset

@[simp] theorem capacity_perform (h : Buffer) : ∀ c : Call, (h.perform c).capacity = h.capacity
  | .append l => capacity_append h l
  | .prev current skip => capacity_prev h current skip
  | .next skip => capacity_next h skip
  | .reset => capacity_reset h

/-- The invariant holds after every run; by induction on the run, one call
at a time. -/
theorem Valid.runAll (hv : h.Valid) (calls : List Call) : (h.runAll calls).Valid := by
  induction calls generalizing h with
  | nil => exact hv
  | cons c cs ih => exact ih (hv.perform c)

theorem capacity_runAll (h : Buffer) (calls : List Call) : (h.runAll calls).capacity = h.capacity := by
  induction calls generalizing h with
  | nil => rfl
  | cons c cs ih => exact (ih (h.perform c)).trans (capacity_perform h c)

/-- Every run of calls on a new history, of any capacity, leaves it within
the capacity it was made with (the default one below one), holding no blank
line, scrolling exactly when a typed line is kept aside, with the cursor at
the start when not scrolling and on a line of a non-empty history when
scrolling. -/
theorem history_stays_well_formed (c : Int) (calls : List Call) :
    let h := (new c).runAll calls
    h.capacity = (if c < 1 then defaultCapacity else c.toNat) ∧
      h.lines.length ≤ h.capacity ∧ (∀ l ∈ h.lines, l.blank = false) ∧
      h.scrolling = h.saved.isSome ∧ (h.scrolling = false → h.cursor = 0) ∧
      (h.scrolling = true → 0 < h.lines.length ∧ h.cursor < h.lines.length) := by
  intro h
  have hv : h.Valid := (valid_new c).runAll calls
  refine ⟨(capacity_runAll _ calls).trans (capacity_new c), hv.bounded, hv.not_blank, hv.saved, hv.idle,
    fun hs => ⟨Nat.lt_of_le_of_lt (Nat.zero_le _) (hv.cursor_lt hs), hv.cursor_lt hs⟩⟩

end Buffer

end MudClient.History
