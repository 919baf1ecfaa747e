/-
# Where scrolling stops

Scrolling passes over some lines of a history and stops at the others
(`stopsAt`).  A step back stops at the nearest stop below where it starts
(the cursor, or the length when the step begins a scroll), and a step
forward at the nearest stop above the cursor (`findBefore_eq_some_iff`,
`findAfter_eq_some_iff`).  With no stop there, a step back leaves the cursor
on the oldest line and a step forward ends the scroll, giving back the line
that was being typed (`prev_stops`, `next_stops`).

So a step back that finds a line, followed by a step forward, puts the
history back as it was (`next_prev`).  Once a step back has begun a scroll,
steps back and forward and lines a script sends keep the typed line aside,
and the first step forward that ends the scroll gives it back
(`restores_typed_line`).  A history with no line begins no scroll, so a
step back there keeps nothing aside.

A line a script sends while scrolling may push the oldest line out.  The
cursor moves down with the lines and stays on its line, and every later
step answers as the same history with room for one more line would, so
long as that history's cursor keeps above the lines pushed out (`Shifted`,
`Shifted.run`).  Once a step back takes it onto the line pushed out, the
other shows nothing and both rest on their oldest lines (`Parked`).  A step
forward then shows the same in both, unless scrolling stops at the shorter
history's oldest line: there the fuller history shows that line and the
other is a step ahead (`Parked.forth_of_stop`).  Either way they are one
line apart again.
-/
import MudClient.Proofs.History.Scrolling

namespace MudClient.History

open Session

namespace Buffer

/-! ## Stops -/

section Stops

variable {lines : List InputLine} {skip : Bool}

def stopsAt (lines : List InputLine) (skip : Bool) (j : Nat) : Prop :=
  ∃ l, lines[j]? = some l ∧ passes skip l = false

def NearestBelow (lines : List InputLine) (skip : Bool) (i j : Nat) (l : InputLine) : Prop :=
  j < i ∧ lines[j]? = some l ∧ passes skip l = false ∧ ∀ k, j < k → k < i → ¬stopsAt lines skip k

def NearestAbove (lines : List InputLine) (skip : Bool) (i j : Nat) (l : InputLine) : Prop :=
  i < j ∧ lines[j]? = some l ∧ passes skip l = false ∧ ∀ k, i < k → k < j → ¬stopsAt lines skip k

theorem not_stopsAt_of_passes {k : Nat} {l : InputLine} (hl : lines[k]? = some l) (hp : passes skip l = true) :
    ¬stopsAt lines skip k := by
  rintro ⟨l', hl', hp'⟩
  rw [hl] at hl'
  cases hl'
  simp [hp] at hp'

theorem not_stopsAt_of_none {k : Nat} (hl : lines[k]? = none) : ¬stopsAt lines skip k := by
  rintro ⟨l', hl', -⟩
  simp [hl] at hl'

theorem lt_length_of_stopsAt {k : Nat} (h : stopsAt lines skip k) : k < lines.length := by
  obtain ⟨l, hl, -⟩ := h
  exact (List.getElem?_eq_some_iff.1 hl).1

theorem nearestBelow_succ {i j : Nat} {l : InputLine} (h : ¬stopsAt lines skip i) :
    NearestBelow lines skip (i + 1) j l ↔ NearestBelow lines skip i j l := by
  constructor
  · rintro ⟨hj, hl, hp, hk⟩
    have hji : j ≠ i := fun hji => h ⟨l, hji ▸ hl, hp⟩
    exact ⟨by omega, hl, hp, fun k h₁ h₂ => hk k h₁ (by omega)⟩
  · rintro ⟨hj, hl, hp, hk⟩
    refine ⟨by omega, hl, hp, fun k h₁ h₂ => ?_⟩
    rcases Nat.lt_or_ge k i with h₃ | h₃
    · exact hk k h₁ h₃
    · exact (show k = i by omega) ▸ h

theorem nearestBelow_succ_of_stop {i j : Nat} {l l' : InputLine} (hl' : lines[i]? = some l')
    (hp' : passes skip l' = false) : NearestBelow lines skip (i + 1) j l ↔ i = j ∧ l' = l := by
  constructor
  · rintro ⟨hj, hl, -, hk⟩
    have hji : j = i := by
      rcases Nat.lt_or_ge j i with hlt | hge
      · exact absurd ⟨l', hl', hp'⟩ (hk i hlt (by omega))
      · omega
    subst hji
    rw [hl'] at hl
    exact ⟨rfl, Option.some.inj hl⟩
  · rintro ⟨rfl, rfl⟩
    exact ⟨by omega, hl', hp', fun k h₁ h₂ => absurd h₂ (by omega)⟩

theorem findBefore_eq_some_iff : ∀ {i j : Nat} {l : InputLine},
    findBefore lines skip i = some (j, l) ↔ NearestBelow lines skip i j l
  | 0, j, l => by simp [findBefore, NearestBelow]
  | i + 1, j, l => by
    -- the index just below the start is a stop, or it is passed over
    cases hl' : lines[i]? with
    | none =>
      simp only [findBefore, hl']
      exact findBefore_eq_some_iff.trans (nearestBelow_succ (not_stopsAt_of_none hl')).symm
    | some l' =>
      cases hp' : passes skip l' with
      | true =>
        simp only [findBefore, hl', hp', if_true]
        exact findBefore_eq_some_iff.trans (nearestBelow_succ (not_stopsAt_of_passes hl' hp')).symm
      | false =>
        simp only [findBefore, hl', hp', Bool.false_eq_true, if_false, Option.some.injEq, Prod.mk.injEq]
        exact (nearestBelow_succ_of_stop hl' hp').symm

theorem findBefore_eq_none_iff : ∀ {i : Nat},
    findBefore lines skip i = none ↔ ∀ k < i, ¬stopsAt lines skip k
  | 0 => by simp [findBefore]
  | i + 1 => by
    have hsucc : ∀ P : Nat → Prop, (∀ k < i + 1, P k) ↔ P i ∧ ∀ k < i, P k := fun P =>
      ⟨fun h => ⟨h i (by omega), fun k hk => h k (by omega)⟩,
        fun h k hk => (Nat.lt_succ_iff_lt_or_eq.1 hk).elim (h.2 k) fun e => e ▸ h.1⟩
    rw [hsucc]
    cases hl' : lines[i]? with
    | none =>
      simp only [findBefore, hl', not_stopsAt_of_none hl', not_false_eq_true, true_and]
      exact findBefore_eq_none_iff
    | some l' =>
      cases hp' : passes skip l' with
      | true =>
        simp only [findBefore, hl', hp', if_true, not_stopsAt_of_passes hl' hp', not_false_eq_true, true_and]
        exact findBefore_eq_none_iff
      | false => simp [findBefore, stopsAt, hl', hp']

/-- A step forward looks at the next line: it stops there unless that line
is passed over. -/
theorem findAfter_eq (lines : List InputLine) (skip : Bool) (i : Nat) :
    findAfter lines skip i =
      match lines[i + 1]? with
      | none => none
      | some l => if passes skip l then findAfter lines skip (i + 1) else some (i + 1, l) := by
  unfold findAfter
  cases hl : lines[i + 1]? with
  | none =>
    have hlen : lines.zipIdx.length ≤ i + 1 := by
      simpa using List.getElem?_eq_none_iff.1 hl
    simp [List.drop_eq_nil_of_le hlen]
  | some l =>
    obtain ⟨hlt, hget⟩ := List.getElem?_eq_some_iff.1 hl
    have hlt' : i + 1 < lines.zipIdx.length := by simpa using hlt
    rw [List.drop_eq_getElem_cons hlt', List.find?_cons]
    simp only [List.getElem_zipIdx, hget, Nat.zero_add]
    cases passes skip l <;> rfl

theorem nearestAbove_succ {i j : Nat} {l : InputLine} (h : ¬stopsAt lines skip (i + 1)) :
    NearestAbove lines skip i j l ↔ NearestAbove lines skip (i + 1) j l := by
  constructor
  · rintro ⟨hj, hl, hp, hk⟩
    have hji : j ≠ i + 1 := fun hji => h ⟨l, hji ▸ hl, hp⟩
    exact ⟨by omega, hl, hp, fun k h₁ h₂ => hk k (by omega) h₂⟩
  · rintro ⟨hj, hl, hp, hk⟩
    refine ⟨by omega, hl, hp, fun k h₁ h₂ => ?_⟩
    rcases Nat.lt_or_ge (i + 1) k with h₃ | h₃
    · exact hk k h₃ h₂
    · exact (show k = i + 1 by omega) ▸ h

theorem nearestAbove_of_stop {i j : Nat} {l l' : InputLine} (hl' : lines[i + 1]? = some l')
    (hp' : passes skip l' = false) : NearestAbove lines skip i j l ↔ i + 1 = j ∧ l' = l := by
  constructor
  · rintro ⟨hj, hl, -, hk⟩
    have hji : j = i + 1 := by
      rcases Nat.lt_or_ge (i + 1) j with hlt | hge
      · exact absurd ⟨l', hl', hp'⟩ (hk (i + 1) (by omega) hlt)
      · omega
    subst hji
    rw [hl'] at hl
    exact ⟨rfl, Option.some.inj hl⟩
  · rintro ⟨rfl, rfl⟩
    exact ⟨by omega, hl', hp', fun k h₁ h₂ => absurd h₂ (by omega)⟩

theorem findAfter_eq_some_iff {i j : Nat} {l : InputLine} :
    findAfter lines skip i = some (j, l) ↔ NearestAbove lines skip i j l := by
  rw [findAfter_eq]
  cases hl' : lines[i + 1]? with
  | none =>
    -- past the end there is no line, so no stop above
    simp only [reduceCtorEq, false_iff]
    rintro ⟨hj, hl, -, -⟩
    have := (List.getElem?_eq_some_iff.1 hl).1
    have := List.getElem?_eq_none_iff.1 hl'
    omega
  | some l' =>
    have hlt : i + 1 < lines.length := (List.getElem?_eq_some_iff.1 hl').1
    cases hp' : passes skip l' with
    | true =>
      simp only [hp', if_true]
      exact findAfter_eq_some_iff.trans (nearestAbove_succ (not_stopsAt_of_passes hl' hp')).symm
    | false =>
      simp only [hp', Bool.false_eq_true, if_false, Option.some.injEq, Prod.mk.injEq]
      exact (nearestAbove_of_stop hl' hp').symm
termination_by lines.length - i

theorem findAfter_succ {i : Nat} (h : ¬stopsAt lines skip (i + 1)) :
    findAfter lines skip i = findAfter lines skip (i + 1) := by
  apply Option.ext
  rintro ⟨j, l⟩
  rw [findAfter_eq_some_iff, findAfter_eq_some_iff]
  exact nearestAbove_succ h

theorem findAfter_eq_none_iff {i : Nat} :
    findAfter lines skip i = none ↔ ∀ k, i < k → ¬stopsAt lines skip k := by
  have hsucc : ∀ P : Nat → Prop, (∀ k, i < k → P k) ↔ P (i + 1) ∧ ∀ k, i + 1 < k → P k := fun P =>
    ⟨fun h => ⟨h (i + 1) (by omega), fun k hk => h k (by omega)⟩,
      fun h k hk => (Nat.lt_or_eq_of_le (Nat.succ_le_of_lt hk)).elim (h.2 k) fun e => e ▸ h.1⟩
  rw [findAfter_eq, hsucc]
  cases hl' : lines[i + 1]? with
  | none =>
    -- past the end there is no line, so no stop above
    simp only [not_stopsAt_of_none hl', not_false_eq_true, true_and, true_iff]
    intro k hk hstop
    have := lt_length_of_stopsAt hstop
    have := List.getElem?_eq_none_iff.1 hl'
    omega
  | some l' =>
    have hlt : i + 1 < lines.length := (List.getElem?_eq_some_iff.1 hl').1
    cases hp' : passes skip l' with
    | true =>
      simp only [hp', if_true, not_stopsAt_of_passes hl' hp', not_false_eq_true, true_and]
      exact findAfter_eq_none_iff
    | false => simp [stopsAt, hl', hp']
termination_by lines.length - i

end Stops

/-! ## One step back or forward -/

variable {h : Buffer}

theorem Valid.idle_of_empty (hv : h.Valid) (he : h.lines = []) : h.scrolling = false ∧ h.cursor = 0 := by
  have hs : h.scrolling = false := by
    cases hs : h.scrolling with
    | false => rfl
    | true => simpa [he] using hv.cursor_lt hs
  exact ⟨hs, hv.idle hs⟩

/-- Where a step back starts: the cursor while scrolling, the length when
the step begins the scroll. -/
def backFrom (h : Buffer) : Nat := if h.scrolling then h.cursor else h.lines.length

/-- The history scrolling with its cursor at `c`, keeping `current` aside
unless it already scrolled. -/
def scrolledTo (h : Buffer) (current : InputLine) (c : Nat) : Buffer :=
  { h with scrolling := true, cursor := c, saved := if h.scrolling then h.saved else some current }

/-- A step back on a history with lines: the scroll begins if it had not,
keeping the typed line aside, and the cursor goes to the nearest stop below
where the step starts, or to the oldest line when there is none. -/
theorem prev_of_ne_nil (he : h.lines ≠ []) (current : InputLine) (skip : Bool) :
    h.prev current skip =
      match findBefore h.lines skip h.backFrom with
      | some (j, l) => (some l, h.scrolledTo current j)
      | none => (none, h.scrolledTo current 0) := by
  have hne : h.lines.isEmpty = false := by simpa using he
  obtain ⟨capacity, lines, cursor, scrolling, saved⟩ := h
  cases scrolling <;> simp only [prev, hne] <;> rfl

/-- A step back stops at the nearest stop below the cursor, or below the
length when it begins the scroll; with none there it answers nothing and
leaves the cursor on the oldest line. -/
theorem prev_stops (hv : h.Valid) (current : InputLine) (skip : Bool) :
    (∀ j l, ((h.prev current skip).1 = some l ∧ (h.prev current skip).2.cursor = j) ↔
      NearestBelow h.lines skip h.backFrom j l) ∧
    ((h.prev current skip).1 = none ↔ ∀ k < h.backFrom, ¬stopsAt h.lines skip k) ∧
    ((h.prev current skip).1 = none → (h.prev current skip).2.cursor = 0) := by
  by_cases he : h.lines = []
  · -- nothing to scroll: the step changes nothing, and there is no stop
    have hprev : h.prev current skip = (none, h) := by simp [prev, he]
    have hnone : ∀ k, ¬stopsAt h.lines skip k := fun k => not_stopsAt_of_none (by simp [he])
    rw [hprev]
    refine ⟨fun j l => ⟨fun ⟨hl, _⟩ => absurd hl (by simp), fun hn => absurd ⟨l, hn.2.1, hn.2.2.1⟩ (hnone j)⟩,
      ⟨fun _ k _ => hnone k, fun _ => rfl⟩, fun _ => (hv.idle_of_empty he).2⟩
  · rw [prev_of_ne_nil he]
    cases hf : findBefore h.lines skip h.backFrom with
    | some p =>
      obtain ⟨j', l'⟩ := p
      have hn := findBefore_eq_some_iff.1 hf
      refine ⟨fun j l => ?_, ⟨fun hc => absurd hc (by simp), fun hno => absurd ⟨l', hn.2.1, hn.2.2.1⟩
        (hno j' hn.1)⟩, fun hc => absurd hc (by simp)⟩
      rw [← findBefore_eq_some_iff, hf]
      simp only [scrolledTo, Option.some.injEq, Prod.mk.injEq]
      exact and_comm
    | none =>
      have hno := findBefore_eq_none_iff.1 hf
      refine ⟨fun j l => ⟨fun ⟨hc, _⟩ => absurd hc (by simp), fun hn => absurd ⟨l, hn.2.1, hn.2.2.1⟩
        (hno j hn.1)⟩, ⟨fun _ => hno, fun _ => rfl⟩, fun _ => rfl⟩

/-- A step forward does nothing unless scrolling; it stops at the nearest
stop above the cursor, and with none there it ends the scroll, giving back
the typed line. -/
theorem next_stops (h : Buffer) (skip : Bool) :
    (h.scrolling = false → h.next skip = (.none, h)) ∧
    (∀ j l, ((h.next skip).1 = .line l ∧ (h.next skip).2.cursor = j) ↔
      h.scrolling = true ∧ NearestAbove h.lines skip h.cursor j l) ∧
    (h.scrolling = true → (∀ k, h.cursor < k → ¬stopsAt h.lines skip k) →
      h.next skip = (.restore (h.saved.getD {}), h.reset)) := by
  cases hs : h.scrolling with
  | false => exact ⟨fun _ => by simp [next, hs], fun j l => by simp [next, hs], fun hc => absurd hc (by simp)⟩
  | true =>
    refine ⟨fun hc => absurd hc (by simp), fun j l => ?_, fun _ hno => ?_⟩
    · rw [← findAfter_eq_some_iff]
      cases hf : findAfter h.lines skip h.cursor with
      | some p =>
        obtain ⟨j', l'⟩ := p
        simp only [next, hs, hf, Bool.not_true, Bool.false_eq_true, if_false, Step.line.injEq,
          true_and, Option.some.injEq, Prod.mk.injEq]
        exact and_comm
      | none => simp [next, hs, hf]
    · simp [next, hs, findAfter_eq_none_iff.2 hno]

/-- A step back that finds a line, from a line scrolling stops at, is undone
by a step forward: the skipped lines between the two stops are the same
either way. -/
theorem next_prev (hs : h.scrolling = true) {L : InputLine} (hL : h.lines[h.cursor]? = some L)
    {skip : Bool} (hstop : passes skip L = false) (current : InputLine)
    (hok : (h.prev current skip).1.isSome) : (h.prev current skip).2.next skip = (.line L, h) := by
  have he : h.lines ≠ [] := fun he => by simp [he] at hL
  rw [prev_of_ne_nil he] at hok ⊢
  have hfrom : h.backFrom = h.cursor := by simp [backFrom, hs]
  rw [hfrom] at hok ⊢
  cases hf : findBefore h.lines skip h.cursor with
  | none => simp [hf] at hok
  | some p =>
    obtain ⟨j, l⟩ := p
    obtain ⟨hj, -, -, hk⟩ := findBefore_eq_some_iff.1 hf
    -- the nearest stop above the one found is where the step back began
    have hback : findAfter h.lines skip j = some (h.cursor, L) := findAfter_eq_some_iff.2 ⟨hj, hL, hstop, hk⟩
    simp only [next, scrolledTo, Bool.not_true, Bool.false_eq_true, if_false, hback, hs, if_true]
    obtain ⟨capacity, lines, cursor, scrolling, saved⟩ := h
    simp_all

/-! ## The typed line comes back -/

/-- A call that does not end a scroll by itself: a step back or forward, or
a line a script sends. -/
def Call.KeepsScroll : Call → Prop
  | .append l => l.scripted = true
  | .prev _ _ | .next _ => True
  | .reset => False

def restoredBy (h : Buffer) : Call → Option InputLine
  | .next skip =>
    match (h.next skip).1 with
    | .restore l => some l
    | _ => none
  | _ => none

/-- The line the first call of a run that ends the scroll gives back, with
the history after that call. -/
def firstRestore (h : Buffer) : List Call → Option (InputLine × Buffer)
  | [] => none
  | c :: cs =>
    match h.restoredBy c with
    | some l => some (l, h.perform c)
    | none => (h.perform c).firstRestore cs

/-- A well-formed history scrolling with `current` kept aside. -/
structure Aside (current : InputLine) (h : Buffer) : Prop where
  valid : h.Valid
  scrolling : h.scrolling = true
  saved : h.saved = some current

section Aside

variable {current : InputLine}

/-- The call that ends the scroll gives back the line kept aside and leaves
the history idle with nothing aside. -/
theorem Aside.restoredBy (ha : Aside current h) {c : Call} {l : InputLine} (hr : h.restoredBy c = some l) :
    l = current ∧ (h.perform c).scrolling = false ∧ (h.perform c).saved = none ∧ (h.perform c).cursor = 0 := by
  cases c with
  | next skip =>
    simp only [Buffer.restoredBy] at hr
    -- only a step forward past the last stop ends the scroll
    cases hf : findAfter h.lines skip h.cursor with
    | some p => simp [next, ha.scrolling, hf] at hr
    | none =>
      simp only [next, ha.scrolling, hf, Bool.not_true, Bool.false_eq_true, if_false, Option.some.injEq] at hr
      simp [perform, next, ha.scrolling, hf, ha.saved, reset, ← hr]
  | append _ | prev _ _ | reset => simp [Buffer.restoredBy] at hr

theorem Aside.perform (ha : Aside current h) {c : Call} (hc : c.KeepsScroll) (hr : h.restoredBy c = none) :
    Aside current (h.perform c) := by
  cases c with
  | append l =>
    refine ⟨ha.valid.append l, ?_, ?_⟩ <;>
    · simp only [Buffer.perform, Buffer.append]
      split
      · simp [ha.scrolling, ha.saved]
      · simp [ha.scrolling, ha.saved, show l.scripted = true from hc]
  | prev c' skip =>
    have he : h.lines ≠ [] := fun he => by simpa [he] using ha.valid.cursor_lt ha.scrolling
    refine ⟨ha.valid.prev c' skip, ?_, ?_⟩ <;>
    · simp only [Buffer.perform, prev_of_ne_nil he]
      split <;> simp [scrolledTo, ha.scrolling, ha.saved]
  | next skip =>
    refine ⟨ha.valid.next skip, ?_, ?_⟩ <;>
    · cases hf : findAfter h.lines skip h.cursor with
      | some p => simp [Buffer.perform, next, ha.scrolling, hf, ha.saved]
      | none => simp [Buffer.restoredBy, next, ha.scrolling, hf] at hr
  | reset => exact absurd hc id

/-- Along a run of calls that keep the scroll, the first that ends it gives
back the line kept aside; until then it stays aside.  By induction on the
run, one call at a time. -/
theorem Aside.firstRestore {cs : List Call} (ha : Aside current h) (hcs : ∀ c ∈ cs, c.KeepsScroll) :
    (∀ l h', h.firstRestore cs = some (l, h') → l = current ∧ h'.scrolling = false ∧ h'.saved = none) ∧
    (h.firstRestore cs = none → Aside current (h.runAll cs)) := by
  induction cs generalizing h with
  | nil => exact ⟨fun _ _ hc => absurd hc (by simp [Buffer.firstRestore]), fun _ => ha⟩
  | cons c cs ih =>
    cases hr : h.restoredBy c with
    | some l' =>
      obtain ⟨rfl, hs, hsaved, -⟩ := ha.restoredBy hr
      refine ⟨fun l h' hf => ?_, fun hf => by simp [Buffer.firstRestore, hr] at hf⟩
      simp only [Buffer.firstRestore, hr, Option.some.injEq, Prod.mk.injEq] at hf
      obtain ⟨rfl, rfl⟩ := hf
      exact ⟨rfl, hs, hsaved⟩
    | none =>
      have hnext := ih (ha.perform (hcs c List.mem_cons_self) hr) fun c' hc' => hcs c' (List.mem_cons_of_mem c hc')
      simpa [Buffer.firstRestore, hr, runAll] using hnext

/-- A step back that begins a scroll on a history with lines keeps the typed
line aside. -/
theorem aside_prev (hv : h.Valid) (hs : h.scrolling = false) (he : h.lines ≠ []) (current : InputLine)
    (skip : Bool) : Aside current (h.prev current skip).2 := by
  refine ⟨hv.prev current skip, ?_, ?_⟩ <;>
  · rw [prev_of_ne_nil he]
    split <;> simp [scrolledTo, hs]

end Aside

/-! ## Lines pushed out while scrolling -/

section Shift

variable {lines : List InputLine} {skip : Bool} {k : Nat}

theorem stopsAt_drop {j : Nat} : stopsAt (lines.drop k) skip j ↔ stopsAt lines skip (k + j) := by
  simp [stopsAt, List.getElem?_drop]

theorem findBefore_drop {i : Nat} (hk : k ≤ i) :
    findBefore (lines.drop k) skip (i - k) =
      (findBefore lines skip i).bind fun p => if k ≤ p.1 then some (p.1 - k, p.2) else none := by
  cases hf : findBefore lines skip i with
  | some p =>
    obtain ⟨j, l⟩ := p
    obtain ⟨hj, hl, hp, hgap⟩ := findBefore_eq_some_iff.1 hf
    by_cases hkj : k ≤ j
    · simp only [Option.bind_some, hkj, if_true]
      refine findBefore_eq_some_iff.2 ⟨by omega, ?_, hp, fun m h₁ h₂ => ?_⟩
      · rw [List.getElem?_drop, Nat.add_sub_cancel' hkj, hl]
      · rw [stopsAt_drop]
        exact hgap (k + m) (by omega) (by omega)
    · simp only [Option.bind_some, hkj, if_false]
      refine findBefore_eq_none_iff.2 fun m hm => ?_
      rw [stopsAt_drop]
      exact hgap (k + m) (by omega) (by omega)
  | none =>
    refine findBefore_eq_none_iff.2 fun m hm => ?_
    rw [stopsAt_drop]
    exact findBefore_eq_none_iff.1 hf (k + m) (by omega)

theorem findAfter_drop {i : Nat} (hk : k ≤ i) :
    findAfter (lines.drop k) skip (i - k) = (findAfter lines skip i).map fun p => (p.1 - k, p.2) := by
  cases hf : findAfter lines skip i with
  | some p =>
    obtain ⟨j, l⟩ := p
    obtain ⟨hj, hl, hp, hgap⟩ := findAfter_eq_some_iff.1 hf
    refine findAfter_eq_some_iff.2 ⟨by omega, ?_, hp, fun m h₁ h₂ => ?_⟩
    · rw [List.getElem?_drop, Nat.add_sub_cancel' (by omega), hl]
    · rw [stopsAt_drop]
      exact hgap (k + m) (by omega) (by omega)
  | none =>
    refine findAfter_eq_none_iff.2 fun m hm => ?_
    rw [stopsAt_drop]
    exact findAfter_eq_none_iff.1 hf (k + m) (by omega)

end Shift

/-- A step of scrolling: back, with the line being typed, or forward. -/
inductive Move where
  | back (current : InputLine) (skip : Bool)
  | forth (skip : Bool)

/-- What a step shows, with the history after it; a step back that finds no
line shows nothing. -/
def move (h : Buffer) : Move → Step × Buffer
  | .back current skip =>
    match h.prev current skip with
    | (some l, h') => (.line l, h')
    | (none, h') => (.none, h')
  | .forth skip => h.next skip

def moves (h : Buffer) : List Move → List Step
  | [] => []
  | m :: ms => (h.move m).1 :: (h.move m).2.moves ms

def moved (h : Buffer) : List Move → Buffer
  | [] => h
  | m :: ms => (h.move m).2.moved ms

@[simp] theorem move_lines (h : Buffer) (m : Move) : (h.move m).2.lines = h.lines := by
  cases m with
  | back current skip =>
    have hprev : (h.prev current skip).2.lines = h.lines := by
      by_cases he : h.lines = []
      · simp [prev, he]
      · rw [prev_of_ne_nil he]
        split <;> rfl
    simp only [move]
    split <;> simp_all
  | forth skip =>
    simp only [move, next]
    split
    · rfl
    · split <;> rfl

@[simp] theorem moved_lines (h : Buffer) (ms : List Move) : (h.moved ms).lines = h.lines := by
  induction ms generalizing h with
  | nil => rfl
  | cons m ms ih => simp [moved, ih]

/-- Along a run of steps, every history that scrolls has its cursor at `k`
or above. -/
def StaysAbove (k : Nat) (h : Buffer) : List Move → Prop
  | [] => True
  | m :: ms => ((h.move m).2.scrolling = true → k ≤ (h.move m).2.cursor) ∧ StaysAbove k (h.move m).2 ms

instance decStaysAbove : (k : Nat) → (h : Buffer) → (ms : List Move) → Decidable (StaysAbove k h ms)
  | _, _, [] => isTrue trivial
  | k, h, m :: ms =>
    haveI := decStaysAbove k (h.move m).2 ms
    inferInstanceAs (Decidable (((h.move m).2.scrolling = true → k ≤ (h.move m).2.cursor) ∧
      StaysAbove k (h.move m).2 ms))

/-- `h` is `g` with the `k` oldest lines pushed out: the same scroll, with the
cursor on the same line. -/
structure Shifted (k : Nat) (g h : Buffer) : Prop where
  lines : h.lines = g.lines.drop k
  scrolling : h.scrolling = g.scrolling
  saved : h.saved = g.saved
  cursor : g.scrolling = true → h.cursor + k = g.cursor

section Shifted

variable {k : Nat} {g : Buffer}

theorem Shifted.backFrom (hs : Shifted k g h) : h.backFrom = g.backFrom - k := by
  cases hsg : g.scrolling with
  | true =>
    have := hs.cursor hsg
    simp only [Buffer.backFrom, hs.scrolling, hsg, if_true]
    omega
  | false => simp [Buffer.backFrom, hs.scrolling, hsg, hs.lines]

/-- A step back from shifted histories, when the fuller one does not step
onto a line pushed out, shows the same line and keeps them shifted. -/
theorem Shifted.back (hs : Shifted k g h) (current : InputLine) (skip : Bool)
    (hm : (g.move (.back current skip)).2.scrolling = true → k ≤ (g.move (.back current skip)).2.cursor) :
    (h.move (.back current skip)).1 = (g.move (.back current skip)).1 ∧
      Shifted k (g.move (.back current skip)).2 (h.move (.back current skip)).2 := by
  by_cases hge : g.lines = []
  · -- nothing to scroll in either
    have hhe : h.lines = [] := by rw [hs.lines, hge, List.drop_nil]
    have hg : g.move (.back current skip) = (.none, g) := by simp [move, prev, hge]
    have hh : h.move (.back current skip) = (.none, h) := by simp [move, prev, hhe]
    rw [hg, hh]
    exact ⟨rfl, hs⟩
  · have hsaved : ∀ c c', (h.scrolledTo current c).saved = (g.scrolledTo current c').saved := by
      intro c c'
      simp [scrolledTo, hs.scrolling, hs.saved]
    cases hf : findBefore g.lines skip g.backFrom with
    | some p =>
      obtain ⟨j, l⟩ := p
      have hg : g.move (.back current skip) = (.line l, g.scrolledTo current j) := by
        simp only [move, prev_of_ne_nil hge, hf]
      have hkj : k ≤ j := by simpa [hg, scrolledTo] using hm
      obtain ⟨hj, hl, -, -⟩ := findBefore_eq_some_iff.1 hf
      have hhe : h.lines ≠ [] := by
        intro hhe
        have : (g.lines.drop k)[j - k]? = some l := by rw [List.getElem?_drop, Nat.add_sub_cancel' hkj, hl]
        simp [← hs.lines, hhe] at this
      have hfh : findBefore h.lines skip h.backFrom = some (j - k, l) := by
        rw [hs.backFrom, hs.lines, findBefore_drop (by omega), hf]
        simp [hkj]
      have hh : h.move (.back current skip) = (.line l, h.scrolledTo current (j - k)) := by
        simp only [move, prev_of_ne_nil hhe, hfh]
      rw [hg, hh]
      exact ⟨rfl, hs.lines, rfl, hsaved (j - k) j, fun _ => by simp only [scrolledTo]; omega⟩
    | none =>
      have hg : g.move (.back current skip) = (.none, g.scrolledTo current 0) := by
        simp only [move, prev_of_ne_nil hge, hf]
      -- the fuller history parks on its oldest line, so nothing was pushed out
      have hk0 : k = 0 := by simpa [hg, scrolledTo] using hm
      subst hk0
      have hgh : h.lines = g.lines := by rw [hs.lines, List.drop_zero]
      have hh : h.move (.back current skip) = (.none, h.scrolledTo current 0) := by
        simp only [move, prev_of_ne_nil (hgh ▸ hge), hs.backFrom, Nat.sub_zero, hgh, hf]
      rw [hg, hh]
      exact ⟨rfl, hgh, rfl, hsaved 0 0, fun _ => rfl⟩

theorem Shifted.forth (hs : Shifted k g h) (skip : Bool) :
    (h.move (.forth skip)).1 = (g.move (.forth skip)).1 ∧
      Shifted k (g.move (.forth skip)).2 (h.move (.forth skip)).2 := by
  cases hsg : g.scrolling with
  | false =>
    have hsh : h.scrolling = false := hs.scrolling.trans hsg
    have hg : g.move (.forth skip) = (.none, g) := by simp [move, next, hsg]
    have hh : h.move (.forth skip) = (.none, h) := by simp [move, next, hsh]
    rw [hg, hh]
    exact ⟨rfl, hs⟩
  | true =>
    have hsh : h.scrolling = true := hs.scrolling.trans hsg
    have hc := hs.cursor hsg
    have hfh : findAfter h.lines skip h.cursor = (findAfter g.lines skip g.cursor).map fun p => (p.1 - k, p.2) := by
      rw [hs.lines, show h.cursor = g.cursor - k by omega, findAfter_drop (by omega)]
    cases hf : findAfter g.lines skip g.cursor with
    | some p =>
      obtain ⟨j, l⟩ := p
      have hj := (findAfter_eq_some_iff.1 hf).1
      have hg : g.move (.forth skip) = (.line l, { g with cursor := j }) := by simp [move, next, hsg, hf]
      have hh : h.move (.forth skip) = (.line l, { h with cursor := j - k }) := by simp [move, next, hsh, hfh, hf]
      rw [hg, hh]
      exact ⟨rfl, hs.lines, hs.scrolling, hs.saved, fun _ => by simp only; omega⟩
    | none =>
      have hg : g.move (.forth skip) = (.restore (g.saved.getD {}), g.reset) := by simp [move, next, hsg, hf]
      have hh : h.move (.forth skip) = (.restore (h.saved.getD {}), h.reset) := by simp [move, next, hsh, hfh, hf]
      rw [hg, hh, hs.saved]
      exact ⟨rfl, hs.lines, rfl, rfl, fun hc' => absurd hc' (by simp [reset])⟩

theorem Shifted.step (hs : Shifted k g h) {m : Move}
    (hm : (g.move m).2.scrolling = true → k ≤ (g.move m).2.cursor) :
    (h.move m).1 = (g.move m).1 ∧ Shifted k (g.move m).2 (h.move m).2 := by
  cases m with
  | back current skip => exact hs.back current skip hm
  | forth skip => exact hs.forth skip

/-- Shifted histories answer every run of steps alike, so long as the
fuller one keeps its cursor off the lines pushed out, and are still shifted
after it.  By induction on the run, one step at a time. -/
theorem Shifted.run (hs : Shifted k g h) {ms : List Move} (hab : StaysAbove k g ms) :
    h.moves ms = g.moves ms ∧ Shifted k (g.moved ms) (h.moved ms) := by
  induction ms generalizing g h with
  | nil => exact ⟨rfl, hs⟩
  | cons m ms ih =>
    obtain ⟨hm, hrest⟩ := hab
    have hstep := hs.step hm
    obtain ⟨heq, hshift⟩ := ih hstep.2 hrest
    exact ⟨by simp only [moves, hstep.1, heq], hshift⟩

/-! ### Onto the line pushed out

With one line pushed out, a step back that takes the fuller history onto
its oldest line leaves both resting on their oldest lines (`Parked`).  The
next step forward shows the same in both unless scrolling stops at the
shorter history's oldest line; then the fuller history shows that line and
the shorter one is a step ahead. -/

/-- `h` is `g` with its oldest line pushed out, both scrolling with the
cursor on their oldest line. -/
structure Parked (g h : Buffer) : Prop where
  lines : h.lines = g.lines.drop 1
  full : g.scrolling = true ∧ g.cursor = 0
  scrolling : h.scrolling = true
  saved : h.saved = g.saved
  cursor : h.cursor = 0

/-- A step back that takes the fuller of two histories one line apart onto
its oldest line shows the oldest line there or nothing, and nothing in the
shorter one: both are left parked. -/
theorem Shifted.back_parks (hs : Shifted 1 g h) (he : h.lines ≠ []) (current : InputLine) (skip : Bool)
    (h0 : (g.move (.back current skip)).2.cursor = 0) :
    (h.move (.back current skip)).1 = .none ∧
      ((g.move (.back current skip)).1 = .none ∨
        ∃ l, g.lines[0]? = some l ∧ (g.move (.back current skip)).1 = .line l) ∧
      Parked (g.move (.back current skip)).2 (h.move (.back current skip)).2 := by
  have hge : g.lines ≠ [] := fun hg => he (by rw [hs.lines, hg, List.drop_nil])
  have hpos : 1 ≤ g.backFrom := by
    cases hsg : g.scrolling with
    | true =>
      have := hs.cursor hsg
      simp only [Buffer.backFrom, hsg, if_true]
      omega
    | false =>
      simp only [Buffer.backFrom, hsg, Bool.false_eq_true, if_false]
      exact List.length_pos_iff.2 hge
  have hfh : findBefore h.lines skip h.backFrom =
      (findBefore g.lines skip g.backFrom).bind fun p => if 1 ≤ p.1 then some (p.1 - 1, p.2) else none := by
    rw [hs.backFrom, hs.lines, findBefore_drop hpos]
  have hpark : Parked (g.scrolledTo current 0) (h.scrolledTo current 0) :=
    ⟨hs.lines, ⟨rfl, rfl⟩, rfl, by simp [scrolledTo, hs.scrolling, hs.saved], rfl⟩
  cases hf : findBefore g.lines skip g.backFrom with
  | some p =>
    obtain ⟨j, l⟩ := p
    have hg : g.move (.back current skip) = (.line l, g.scrolledTo current j) := by
      simp only [move, prev_of_ne_nil hge, hf]
    -- the step lands on the oldest line, which the shorter history no longer has
    have hj : j = 0 := by simpa [hg, scrolledTo] using h0
    subst hj
    have hh : h.move (.back current skip) = (.none, h.scrolledTo current 0) := by
      simp [move, prev_of_ne_nil he, hfh, hf]
    rw [hg, hh]
    exact ⟨rfl, .inr ⟨l, (findBefore_eq_some_iff.1 hf).2.1, rfl⟩, hpark⟩
  | none =>
    have hg : g.move (.back current skip) = (.none, g.scrolledTo current 0) := by
      simp only [move, prev_of_ne_nil hge, hf]
    have hh : h.move (.back current skip) = (.none, h.scrolledTo current 0) := by
      simp [move, prev_of_ne_nil he, hfh, hf]
    rw [hg, hh]
    exact ⟨rfl, .inl rfl, hpark⟩

theorem Parked.shifted (hp : Parked g h) : Shifted 1 { g with cursor := 1 } h :=
  ⟨hp.lines, hp.scrolling.trans hp.full.1.symm, hp.saved, fun _ => by simp [hp.cursor]⟩

/-- A step forward from parked histories, when scrolling passes over the
shorter one's oldest line, shows the same in both and leaves them one line
apart again. -/
theorem Parked.forth_of_not_stop (hp : Parked g h) {skip : Bool} (hn : ¬stopsAt h.lines skip 0) :
    (h.move (.forth skip)).1 = (g.move (.forth skip)).1 ∧
      Shifted 1 (g.move (.forth skip)).2 (h.move (.forth skip)).2 := by
  rw [hp.lines, stopsAt_drop] at hn
  -- from the oldest line a step forward goes where one from the next line goes
  have hsame : g.move (.forth skip) = ({ g with cursor := 1 } : Buffer).move (.forth skip) := by
    obtain ⟨hsg, hcg⟩ := hp.full
    simp [move, next, hsg, hcg, findAfter_succ hn, reset]
  rw [hsame]
  exact hp.shifted.forth skip

/-- A step forward from parked histories, when scrolling stops at the
shorter one's oldest line: the fuller one shows that line, and the shorter
one is a step ahead, showing what the fuller one's next step forward shows. -/
theorem Parked.forth_of_stop (hp : Parked g h) {skip : Bool} (hn : stopsAt h.lines skip 0) :
    (∃ l, h.lines[0]? = some l ∧ (g.move (.forth skip)).1 = .line l) ∧
      (h.move (.forth skip)).1 = ((g.move (.forth skip)).2.move (.forth skip)).1 ∧
      Shifted 1 ((g.move (.forth skip)).2.move (.forth skip)).2 (h.move (.forth skip)).2 := by
  obtain ⟨l, hl, hpl⟩ := hn
  have hl' : g.lines[0 + 1]? = some l := by rw [← hl, hp.lines, List.getElem?_drop]
  have hfa : findAfter g.lines skip 0 = some (1, l) := findAfter_eq_some_iff.2 ((nearestAbove_of_stop hl' hpl).2 ⟨rfl, rfl⟩)
  have hg : g.move (.forth skip) = (.line l, { g with cursor := 1 }) := by
    obtain ⟨hsg, hcg⟩ := hp.full
    simp [move, next, hsg, hcg, hfa]
  rw [hg]
  obtain ⟨heq, hshift⟩ := hp.shifted.forth skip
  exact ⟨⟨l, hl, rfl⟩, heq, hshift⟩

end Shifted

/-- A line a script sends while scrolling is kept without ending the scroll;
the oldest lines beyond the capacity go, and the cursor moves down with the
lines. -/
theorem append_scripted (hs : h.scrolling = true) {x : InputLine} (hx : x.blank = false)
    (hsc : x.scripted = true) :
    h.append x = (true, { h with
      lines := (h.lines ++ [x]).drop (h.lines.length + 1 - h.capacity)
      cursor := h.cursor - (h.lines.length + 1 - h.capacity) }) := by
  simp [Buffer.append, hx, hs, hsc]

/-! ## Scrolling a reached history -/

/-- On every history a run of calls reaches, with any line being typed and
either choice of passing over scripted lines: a step back stops at the
nearest stop below where it starts, or finds nothing and leaves the cursor on
the oldest line; a step forward does nothing unless scrolling, stops at the
nearest stop above the cursor, or ends the scroll giving back the line kept
aside; a step back that finds a line from a stop is undone by a step
forward; and once a step back begins a scroll on a history with lines, the
first call that ends it among steps back and forward and lines a script
sends gives back the typed line, which stays aside until then. -/
theorem scrolling_round_trip (c : Int) (calls : List Call) (current : InputLine) (s : Bool) :
    let h := (new c).runAll calls
    ((∀ j l, ((h.prev current s).1 = some l ∧ (h.prev current s).2.cursor = j) ↔
        NearestBelow h.lines s h.backFrom j l) ∧
      ((h.prev current s).1 = none ↔ ∀ k < h.backFrom, ¬stopsAt h.lines s k) ∧
      ((h.prev current s).1 = none → (h.prev current s).2.cursor = 0)) ∧
    ((h.scrolling = false → h.next s = (.none, h)) ∧
      (∀ j l, ((h.next s).1 = .line l ∧ (h.next s).2.cursor = j) ↔
        h.scrolling = true ∧ NearestAbove h.lines s h.cursor j l) ∧
      (h.scrolling = true → (∀ k, h.cursor < k → ¬stopsAt h.lines s k) →
        h.next s = (.restore (h.saved.getD {}), h.reset))) ∧
    (∀ L, h.scrolling = true → h.lines[h.cursor]? = some L → passes s L = false →
      (h.prev current s).1.isSome → (h.prev current s).2.next s = (.line L, h)) ∧
    (h.scrolling = false → h.lines ≠ [] → ∀ cs : List Call, (∀ c ∈ cs, c.KeepsScroll) →
      (∀ l h', (h.prev current s).2.firstRestore cs = some (l, h') →
        l = current ∧ h'.scrolling = false ∧ h'.saved = none) ∧
      ((h.prev current s).2.firstRestore cs = none → ((h.prev current s).2.runAll cs).saved = some current)) := by
  intro h
  have hv : h.Valid := (valid_new c).runAll calls
  refine ⟨prev_stops hv current s, next_stops h s, fun L hs hL hp hok => next_prev hs hL hp current hok,
    fun hs he cs hcs => ?_⟩
  have ha := (aside_prev hv hs he current s).firstRestore hcs
  exact ⟨ha.1, fun hn => (ha.2 hn).saved⟩

/-- Two lines typed: a step back from the newest and a step forward come
back to it, and a scroll begun with `p` typed ends giving `p` back. -/
theorem scrolling_round_trip_two_lines :
    let h := (new 3).runAll [.append (.ofText "a"), .append (.ofText "b")]
    let p := InputLine.ofText "p"
    let back := (h.prev p false).2
    let cs := [Call.prev p false, .next false, .next false]
    back.scrolling = true ∧ back.lines[back.cursor]? = some (.ofText "b") ∧
      passes false (.ofText "b") = false ∧ (back.prev p false).1.isSome ∧
      (back.prev p false).2.next false = (.line (.ofText "b"), back) ∧
      h.scrolling = false ∧ h.lines ≠ [] ∧ (∀ c ∈ cs, c.KeepsScroll) ∧
      ∀ l h', back.firstRestore cs = some (l, h') → l = p ∧ h'.scrolling = false ∧ h'.saved = none := by
  intro h p back cs
  have hs : back.scrolling = true := by decide
  have hL : back.lines[back.cursor]? = some (.ofText "b") := by decide
  have hp : passes false (.ofText "b") = false := by decide
  have hok : (back.prev p false).1.isSome := by decide
  have hidle : h.scrolling = false := by decide
  have he : h.lines ≠ [] := by decide
  have hcs : ∀ c ∈ cs, c.KeepsScroll := by simp [cs, Call.KeepsScroll]
  -- the reached history is the one after the step back, so the theorem applies to it
  have hback : back = (new 3).runAll
      [.append (.ofText "a"), .append (.ofText "b"), .prev p false] := rfl
  refine ⟨hs, hL, hp, hok, ?_, hidle, he, hcs,
    ((scrolling_round_trip 3 _ p false).2.2.2 hidle he cs hcs).1⟩
  rw [hback] at hs hL hok ⊢
  exact (scrolling_round_trip 3 _ p false).2.2.1 _ hs hL hp hok

/-- A step back on an empty history begins no scroll and keeps nothing
aside: after a script's line, the scroll a later step back begins ends
giving back the line typed then, not the first. -/
theorem empty_history_keeps_nothing_aside :
    let p := InputLine.ofText "p"
    let q := InputLine.ofText "q"
    let x : InputLine := { sent := "x", scripted := true }
    let cs := [Call.append x, .prev q false, .next false]
    ((new 3).prev p false).1 = none ∧ ((new 3).prev p false).2.scrolling = false ∧
      (∀ c ∈ cs, c.KeepsScroll) ∧ (((new 3).prev p false).2.firstRestore cs).map (·.1) = some q := by
  intro p q x cs
  refine ⟨by decide, by decide, by simp [cs, x, Call.KeepsScroll], by decide⟩

/-- A line a script sends while scrolling, with the cursor above the oldest
line, keeps the scroll, the line kept aside and the line under the cursor;
at most the oldest line is pushed out, and every later run of steps answers
as the same history with room for one more line would, so long as the
cursor of that history stays above the lines pushed out.  Once a step back
takes that cursor onto the line pushed out, the shorter history shows
nothing and both rest on their oldest lines; the next step forward shows the
same in both, unless scrolling stops at the shorter history's oldest line,
and then the shorter history is a step ahead.  Either way the two are one
line apart again. -/
theorem scripted_line_keeps_scroll (c : Int) (calls : List Call) (x : InputLine) :
    let h := (new c).runAll calls
    let k := h.lines.length + 1 - h.capacity
    let h' := (h.append x).2
    let g := ({ h with capacity := h.capacity + 1 }.append x).2
    h.scrolling = true → 1 ≤ h.cursor → x.blank = false → x.scripted = true →
      (h.append x).1 = true ∧ h'.scrolling = true ∧ h'.saved = h.saved ∧
      h'.lines[h'.cursor]? = h.lines[h.cursor]? ∧ k ≤ 1 ∧ g.lines = h.lines ++ [x] ∧
      h'.lines = g.lines.drop k ∧ (∀ ms, StaysAbove k g ms → h'.moves ms = g.moves ms) ∧
      ∀ ms current skip skip', StaysAbove k g ms → k = 1 →
        let g₁ := (g.moved ms).move (.back current skip)
        let h₁ := (h'.moved ms).move (.back current skip)
        let g₂ := g₁.2.move (.forth skip')
        let h₂ := h₁.2.move (.forth skip')
        g₁.2.cursor = 0 →
          h₁.1 = .none ∧ (g₁.1 = .none ∨ ∃ l, h.lines[0]? = some l ∧ g₁.1 = .line l) ∧
          (¬stopsAt h'.lines skip' 0 → h₂.1 = g₂.1 ∧ Shifted k g₂.2 h₂.2) ∧
          (stopsAt h'.lines skip' 0 → (∃ l, h'.lines[0]? = some l ∧ g₂.1 = .line l) ∧
            h₂.1 = (g₂.2.move (.forth skip')).1 ∧ Shifted k (g₂.2.move (.forth skip')).2 h₂.2) := by
  intro h k h' g hs hi hx hsc
  have hv : h.Valid := (valid_new c).runAll calls
  have hlt := hv.cursor_lt hs
  have hk : k ≤ 1 := by have := hv.bounded; omega
  have happ := append_scripted hs hx hsc
  -- with room for one more line nothing is pushed out
  have hroom : h.lines.length + 1 - (h.capacity + 1) = 0 := by have := hv.bounded; omega
  have hg : g = { h with capacity := h.capacity + 1, lines := h.lines ++ [x] } := by
    simp only [g, append_scripted (h := { h with capacity := h.capacity + 1 }) hs hx hsc, hroom,
      List.drop_zero, Nat.sub_zero]
  have hh' : h' = { h with lines := (h.lines ++ [x]).drop k, cursor := h.cursor - k } := by
    simp only [h', happ]
    rfl
  have hshift : Shifted k g h' := by
    rw [hg, hh']
    exact ⟨rfl, rfl, rfl, fun _ => by simp only; omega⟩
  refine ⟨by rw [happ], by rw [hh']; exact hs, by rw [hh'], ?_, hk, by rw [hg], hshift.lines,
    fun ms hab => (hshift.run hab).1, fun ms current skip skip' hab hk1 => ?_⟩
  · rw [hh']
    simp only [List.getElem?_drop, Nat.add_sub_cancel' (by omega : k ≤ h.cursor)]
    exact List.getElem?_append_left hlt
  · intro g₁ h₁ g₂ h₂ h0
    -- the run keeps the two one line apart up to the step back
    have hrun : Shifted 1 (g.moved ms) (h'.moved ms) := hk1 ▸ (hshift.run hab).2
    have hne : (h'.moved ms).lines ≠ [] := by
      rw [moved_lines, hh', hk1]
      simp only [ne_eq, List.drop_eq_nil_iff, List.length_append, List.length_singleton]
      omega
    obtain ⟨hnone, hold, hpark⟩ := hrun.back_parks hne current skip h0
    have hzero : (g.moved ms).lines[0]? = h.lines[0]? := by
      rw [moved_lines, hg]
      exact List.getElem?_append_left (by omega)
    have hlines : h₁.2.lines = h'.lines := by simp [h₁]
    refine ⟨hnone, hzero ▸ hold, fun hn => ?_, fun hn => ?_⟩
    · rw [hk1]
      exact hpark.forth_of_not_stop (hlines ▸ hn)
    · rw [hk1, ← hlines]
      exact hpark.forth_of_stop (hlines ▸ hn)

/-- Four lines, one of them sent by a script, the cursor on the third, and
a script's line that pushes the oldest out: a step forward shows the newest
line, as it would with the oldest kept; stepping back past the script's
line onto the line pushed out shows nothing, and the step forward after it
comes back to the cursor's line in both. -/
theorem scripted_line_keeps_scroll_at_capacity :
    let s : InputLine := { sent := "s", scripted := true }
    let h := (new 4).runAll [.append (.ofText "a"), .append s, .append (.ofText "L"), .append (.ofText "m"),
      .prev (.ofText "p") true, .prev (.ofText "p") true]
    let x : InputLine := { sent := "x", scripted := true }
    let h' := (h.append x).2
    let g := ({ h with capacity := h.capacity + 1 }.append x).2
    h.scrolling = true ∧ 1 ≤ h.cursor ∧ x.blank = false ∧ x.scripted = true ∧
      h'.lines[h'.cursor]? = some (.ofText "L") ∧ h'.moves [.forth true] = g.moves [.forth true] ∧
      (h'.move (.back (.ofText "p") true)).1 = .none ∧
      ((h'.move (.back (.ofText "p") true)).2.move (.forth true)).1 =
        ((g.move (.back (.ofText "p") true)).2.move (.forth true)).1 := by
  intro s h x h' g
  have hs : h.scrolling = true := by decide
  have hi : 1 ≤ h.cursor := by decide
  have hx : x.blank = false := by decide
  have hsc : x.scripted = true := by decide
  have hkeep := scripted_line_keeps_scroll 4 _ x hs hi hx hsc
  have hab : StaysAbove (h.lines.length + 1 - h.capacity) g [.forth true] := by decide
  have hk1 : h.lines.length + 1 - h.capacity = 1 := by decide
  have h0 : (g.move (.back (.ofText "p") true)).2.cursor = 0 := by decide
  -- the shorter history's oldest line is the script's, which scrolling passes over
  have hn : ¬stopsAt h'.lines true 0 := not_stopsAt_of_passes (l := s) (by decide) (by decide)
  obtain ⟨hnone, -, hfirst, -⟩ := hkeep.2.2.2.2.2.2.2.2 [] (.ofText "p") true true trivial hk1 h0
  exact ⟨hs, hi, hx, hsc, hkeep.2.2.2.1.trans (by decide), hkeep.2.2.2.2.2.2.2.1 _ hab, hnone, (hfirst hn).1⟩

/-- Where the fuller history steps back onto the line pushed out and forward
again, the other finds nothing behind; its oldest line is the cursor's,
where scrolling stops, so it steps forward past that line. -/
theorem evicted_line_changes_next :
    let h := (new 3).runAll [.append (.ofText "a"), .append (.ofText "b"), .append (.ofText "c"),
      .prev (.ofText "p") true, .prev (.ofText "p") true]
    let x : InputLine := { sent := "x", scripted := true }
    let g := ({ h with capacity := h.capacity + 1 }.append x).2
    let ms := [Move.back (.ofText "p") true, .forth true]
    (h.append x).2.moves ms = [.none, .line (.ofText "c")] ∧
      g.moves ms = [.line (.ofText "a"), .line (.ofText "b")] := by
  intro h x g ms
  exact ⟨by decide, by decide⟩

end Buffer

end MudClient.History
