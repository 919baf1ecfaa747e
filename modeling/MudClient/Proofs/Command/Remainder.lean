/-
# The words of a command line and its remainder

A command line is cut up twice.  Its words, split at every white-space
character, give the command's name and its arguments; the remainder a
handler receives is what follows a first cut, made after the first run of
characters other than the blank, tab, line feed and carriage return, the
four gap characters.  The two cuts meet where the first word ends in a gap:

* the words of a trimmed line are the words of its first run followed by
  the words of its remainder (`fields_eq_firstRun_append`);
* so the remainder's words are always the last of the arguments, and the
  words the first run holds beyond the name are lost to the handler
  (`remainder_words_end_args`);
* on a line whose only white space is made of gap characters the first run
  is the name alone, and the remainder's words are exactly the arguments.

Other white space, such as a vertical tab or a no-break space, splits words
but does not end the first run: `/a\vb c` has the arguments `b c` and the
remainder `c` (`remainder_after_line_tab`).
-/
import Mathlib.Data.List.TakeWhile
import MudClient.Command.Line

namespace MudClient

namespace Text

/-! ## Words -/

theorem fields_go_append_space {c : Char} (hc : isSpace c = true) (xs ys w : List Char) :
    fields.go (xs ++ c :: ys) w = fields.go xs w ++ fields.go ys [] := by
  induction xs generalizing w with
  | nil => cases w <;> simp [fields.go, hc]
  | cons x xs ih => cases w <;> by_cases hx : isSpace x <;> simp [fields.go, hx, ih]

theorem fields_go_of_all_space {cs : List Char} (h : ∀ c ∈ cs, isSpace c = true) :
    fields.go cs [] = [] := by
  induction cs with
  | nil => rfl
  | cons c cs ih =>
    simp only [List.mem_cons, forall_eq_or_imp] at h
    simp [fields.go, h.1, ih h.2]

theorem fields_go_append_spaces {xs ys : List Char} (h : ∀ c ∈ ys, isSpace c = true) (w : List Char) :
    fields.go (xs ++ ys) w = fields.go xs w := by
  cases ys with
  | nil => rw [List.append_nil]
  | cons c ys =>
    simp only [List.mem_cons, forall_eq_or_imp] at h
    rw [fields_go_append_space h.1, fields_go_of_all_space h.2, List.append_nil]

theorem fields_go_dropWhile {p : Char → Bool} (hp : ∀ c, p c = true → isSpace c = true) (cs : List Char) :
    fields.go (cs.dropWhile p) [] = fields.go cs [] := by
  induction cs with
  | nil => rfl
  | cons c cs ih =>
    by_cases hc : p c = true
    · simp [hc, ih, fields.go, hp c hc]
    · simp [hc]

theorem fields_go_of_no_space {xs : List Char} (h : ∀ c ∈ xs, isSpace c = false) {w : List Char}
    (hne : w ++ xs ≠ []) : fields.go xs w = [String.ofList (w.reverse ++ xs)] := by
  induction xs generalizing w with
  | nil =>
    cases w with
    | nil => exact absurd rfl hne
    | cons x w => simp [fields.go]
  | cons x xs ih =>
    simp only [List.mem_cons, forall_eq_or_imp] at h
    simp [fields.go, h.1, ih h.2 (w := x :: w) (by simp)]

theorem fields_go_ne_nil (cs : List Char) {w : List Char} (hw : w ≠ []) : fields.go cs w ≠ [] := by
  induction cs generalizing w with
  | nil =>
    cases w with
    | nil => exact absurd rfl hw
    | cons x w => simp [fields.go]
  | cons c cs ih =>
    by_cases hc : isSpace c
    · cases w with
      | nil => exact absurd rfl hw
      | cons x w => simp [fields.go, hc]
    · simp only [fields.go, hc, Bool.false_eq_true, if_false]
      exact ih (List.cons_ne_nil c w)

theorem fields_trimSpace (s : String) : fields (trimSpace s) = fields s := by
  simp only [fields, trimSpace, trimSpaceChars, String.toList_ofList]
  -- the characters are the kept middle followed by the white space cut from the end
  have hsplit := List.takeWhile_append_dropWhile (p := isSpace) (l := (s.toList.dropWhile isSpace).reverse)
  have hend : s.toList.dropWhile isSpace =
      ((s.toList.dropWhile isSpace).reverse.dropWhile isSpace).reverse ++
        ((s.toList.dropWhile isSpace).reverse.takeWhile isSpace).reverse := by
    rw [← List.reverse_append, hsplit, List.reverse_reverse]
  have hspaces : ∀ c ∈ ((s.toList.dropWhile isSpace).reverse.takeWhile isSpace).reverse, isSpace c = true :=
    fun c hc => List.mem_takeWhile_imp (List.mem_reverse.1 hc)
  rw [← fields_go_append_spaces hspaces, ← hend, fields_go_dropWhile (fun _ h => h)]

/-- A trimmed text is empty or starts with a character that is not white
space. -/
theorem trimSpace_head (s : String) :
    (trimSpace s).toList = [] ∨ ∃ y ys, (trimSpace s).toList = y :: ys ∧ isSpace y = false := by
  simp only [trimSpace, trimSpaceChars, String.toList_ofList]
  cases hd : s.toList.dropWhile isSpace with
  | nil => simp
  | cons y ys =>
    have hy : isSpace y = false := by
      simpa [hd] using List.head?_dropWhile_not isSpace s.toList
    right
    -- the cut from the end stops at `y` at the latest
    rw [List.reverse_cons, List.dropWhile_append]
    split
    · exact ⟨y, [], by simp [hy], hy⟩
    · exact ⟨y, (List.dropWhile isSpace ys.reverse).reverse, by simp, hy⟩

end Text

namespace Command

open Text

/-! ## The first run and the remainder -/

theorem isSpace_of_isGap {c : Char} (h : isGap c = true) : isSpace c = true := by
  simp only [isGap, Bool.or_eq_true, decide_eq_true_eq] at h
  rcases h with ((rfl | rfl) | rfl) | rfl <;> decide

/-- The characters of a line the remainder is cut after: its first run of
characters other than gaps, after any gaps. -/
def firstRun (raw : String) : List Char := (raw.toList.dropWhile isGap).takeWhile fun c => !isGap c

/-- The words of a line are the words of its first run, then the words of
its remainder. -/
theorem fields_eq_firstRun_append (raw : String) :
    fields raw = fields.go (firstRun raw) [] ++ fields (remainderOf raw) := by
  have hlead : fields raw = fields.go (raw.toList.dropWhile isGap) [] :=
    (fields_go_dropWhile (fun _ h => isSpace_of_isGap h) raw.toList).symm
  rw [hlead, firstRun, remainderOf]
  generalize raw.toList.dropWhile isGap = cs
  have hcs := (List.takeWhile_append_dropWhile (p := fun c => !isGap c) (l := cs)).symm
  conv => lhs; rw [hcs]
  -- what follows the first run is nothing, or starts with a gap
  cases hrest : cs.dropWhile (fun c => !isGap c) with
  | nil => simp [fields, fields.go]
  | cons g ds =>
    have hg : isGap g = true := by
      simpa [hrest] using List.head?_dropWhile_not (fun c => !isGap c) cs
    rw [fields_go_append_space (isSpace_of_isGap hg)]
    show _ = _ ++ fields (trimSpace (String.ofList (g :: ds)))
    rw [fields_trimSpace, fields, String.toList_ofList]
    simp [fields.go, isSpace_of_isGap hg]

/-- What reading a command line gives: a trimmed text, whose first word is
the name in lower case and whose other words are the arguments, and the
remainder cut from that same text. -/
theorem Line.parse?_eq_some {input pre : String} {l : Line} (h : Line.parse? input pre = some l) :
    (∃ s, l.raw = trimSpace s) ∧ (∃ w, fields l.raw = w :: l.args ∧ l.name = lower w) ∧
      l.remainder = remainderOf l.raw := by
  simp only [Line.parse?] at h
  split at h
  · split at h
    · split at h
      · cases h
      · next w args hw =>
        cases h
        dsimp only
        exact ⟨⟨_, rfl⟩, ⟨w, hw, rfl⟩, rfl⟩
    · cases h
  · cases h

/-- A line read as a command line starts with a character that is not white
space, since it is trimmed and has a word. -/
theorem Line.raw_head {input pre : String} {l : Line} (h : Line.parse? input pre = some l) :
    ∃ y ys, l.raw.toList = y :: ys ∧ isSpace y = false := by
  obtain ⟨⟨s, hs⟩, ⟨w, hw, -⟩, -⟩ := Line.parse?_eq_some h
  rcases trimSpace_head s with h0 | hy
  · have : fields l.raw = [] := by simp [fields, hs, h0, fields.go]
    rw [this] at hw
    cases hw
  · simpa [hs] using hy

/-- The first run of a line that starts with a character other than white
space holds a word, and only that word when every white-space character of
the line is a gap. -/
theorem firstRun_words {raw : String} {y : Char} {ys : List Char} (hy : raw.toList = y :: ys)
    (hsp : isSpace y = false) :
    ∃ w mid, fields.go (firstRun raw) [] = w :: mid ∧
      ((∀ c ∈ raw.toList, isSpace c = true → isGap c = true) → mid = []) := by
  have hgap : isGap y = false := by
    cases hg : isGap y
    · rfl
    · exact absurd (isSpace_of_isGap hg) (by simp [hsp])
  -- the first character is no gap, so the run starts there and the word with it
  have hrun : fields.go (firstRun raw) [] = fields.go (ys.takeWhile fun c => !isGap c) [y] := by
    simp [firstRun, hy, hgap, fields.go, hsp]
  obtain ⟨w, mid, hmid⟩ := List.exists_cons_of_ne_nil
    (Text.fields_go_ne_nil (ys.takeWhile fun c => !isGap c) (List.cons_ne_nil y []))
  refine ⟨w, mid, hrun.trans hmid, fun hall => ?_⟩
  have hnone : ∀ c ∈ ys.takeWhile (fun c => !isGap c), isSpace c = false := by
    intro c hc
    have hnot : isGap c = false := by simpa using List.mem_takeWhile_imp hc
    cases hc' : isSpace c
    · rfl
    · have := hall c (by rw [hy]; exact List.mem_cons_of_mem y ((List.takeWhile_sublist _).subset hc)) hc'
      rw [hnot] at this
      cases this
  have hone := Text.fields_go_of_no_space hnone (w := [y]) (by simp)
  rw [hmid, List.cons.injEq] at hone
  exact hone.2

/-- The remainder's words are the last words of the arguments; they are all
of them when every white-space character of the line is a gap. -/
theorem remainder_words_end_args {input pre : String} {l : Line} (h : Line.parse? input pre = some l) :
    (∃ w, fields l.raw = w :: l.args ∧ l.name = lower w) ∧
      (∃ mid, l.args = mid ++ fields l.remainder) ∧
      ((∀ c ∈ l.raw.toList, isSpace c = true → isGap c = true) → fields l.remainder = l.args) := by
  obtain ⟨-, ⟨w, hw, hname⟩, hrem⟩ := Line.parse?_eq_some h
  obtain ⟨y, ys, hy, hsp⟩ := Line.raw_head h
  obtain ⟨w', mid, hrun, hmid⟩ := firstRun_words hy hsp
  -- the name is the first run's first word; its other words open the arguments
  have hsplit := fields_eq_firstRun_append l.raw
  rw [hw, hrun, ← hrem, List.cons_append, List.cons.injEq] at hsplit
  refine ⟨⟨w, hw, hname⟩, ⟨mid, hsplit.2⟩, fun hall => ?_⟩
  rw [hsplit.2, hmid hall, List.nil_append]

/-- The line of the documented example keeps its inner spacing in the
remainder, whose words are all the arguments. -/
theorem alias_line_keeps_its_words :
    let l : Line := ⟨"alias", ["add", "x", "=", "y"], "alias add  x = y", "add  x = y"⟩
    Line.parse? "  /alias add  x = y" "" = some l ∧
      ((∃ w, fields l.raw = w :: l.args ∧ l.name = lower w) ∧
        (∃ mid, l.args = mid ++ fields l.remainder) ∧
        ((∀ c ∈ l.raw.toList, isSpace c = true → isGap c = true) → fields l.remainder = l.args)) := by
  intro l
  have h : Line.parse? "  /alias add  x = y" "" = some l := by decide +kernel
  exact ⟨h, remainder_words_end_args h⟩

/-- A vertical tab splits the first word but does not end the first run, so
the remainder loses the argument `b`. -/
theorem remainder_after_line_tab :
    Line.parse? "/a\x0Bb c" "/" = some ⟨"a", ["b", "c"], "a\x0Bb c", "c"⟩ ∧ fields "c" ≠ ["b", "c"] := by
  decide +kernel

end Command

end MudClient
