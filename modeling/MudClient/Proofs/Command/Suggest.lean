/-
# Fuzzy matching finds exactly the subsequences, ranked

A query matches a name when, ignoring case, it is not empty and its
characters occur in the name in order: the query is a subsequence of the
name (`Matches`).  `fuzzyMatch` decides this with a single left-to-right
scan that takes, for each character of the query, the first fitting position
after the one before.  The scan is sound and complete: it finds positions
exactly when the query is a subsequence (`matchFrom_isSome_iff`).
Completeness is the exchange argument of `List.cons_sublist_cons`: an
embedding that passes over an occurrence of the query's next character can
take that occurrence instead.

## Main statements

* `count_fuzzyMatch`: the matches name each name of the input that the query
  matches, once per occurrence, and no other;
* `fuzzyMatch_ranked`, `one_le_score_of_mem_fuzzyMatch`: matches come with
  the higher score first and, at equal score, in order of name; every score
  is at least 1;
* `suggest_eq_some_iff`, `suggest_eq_none_iff`: the suggestion for a session
  is the name of a match that ranks first among the matches over the names
  and aliases of its commands, and there is none exactly when the query
  matches none of them.
-/
import Mathlib.Data.String.Basic
import MudClient.Command.Registry

namespace MudClient.Command

/-! ## The scan -/

/-- The greedy scan from any position finds the query exactly when the query
is a subsequence of the rest of the name. -/
theorem matchFrom_isSome_iff (q n : List Char) (i : Nat) :
    (matchFrom q n i).isSome ↔ q.Sublist n := by
  fun_induction matchFrom q n i with
  | case1 n i => simp
  | case2 q qs i => simp
  | case3 qs q cs i ih =>
    -- an embedding that passes over this occurrence of `q` can take it instead
    simp [ih]
  | case4 q qs c cs i h ih =>
    rw [ih]
    constructor
    · exact List.Sublist.cons c
    · intro hs
      -- the name's first character is not the query's, so no embedding uses it
      rcases List.sublist_cons_iff.1 hs with hs | ⟨r, hr, -⟩
      · exact hs
      · exact absurd (List.cons.inj hr).1.symm h

theorem matchPositions_isSome_iff (q n : List Char) :
    (matchPositions q n).isSome ↔ q ≠ [] ∧ q.Sublist n := by
  unfold matchPositions
  by_cases hq : q = []
  · simp [hq]
  · by_cases hl : q.length > n.length
    · -- a query longer than the name is no subsequence of it
      have : ¬ q.Sublist n := fun hs => absurd hs.length_le (by omega)
      simp [hq, hl, this]
    · simp [hq, hl, matchFrom_isSome_iff]

/-- Whether a query matches a name: ignoring case, the query is not empty
and its characters occur in the name in order. -/
def Matches (query name : String) : Prop :=
  (Text.lower query).toList ≠ [] ∧ (Text.lower query).toList.Sublist (Text.lower name).toList

instance (query name : String) : Decidable (Matches query name) :=
  inferInstanceAs (Decidable (_ ∧ _))

theorem matchPositions_eq_none_iff (q n : String) :
    matchPositions (Text.lower q).toList (Text.lower n).toList = none ↔ ¬ Matches q n := by
  rw [← Option.not_isSome_iff_eq_none, matchPositions_isSome_iff]
  rfl

theorem one_le_score (q n : List Char) (pos : List Nat) : 1 ≤ score q n pos := by
  unfold score
  exact le_max_right _ _

/-! ## The matches of a list of names -/

/-- The names of the matches are, up to order, the names the query
matches. -/
theorem fuzzyMatch_names_perm (q : String) (names : List String) :
    ((fuzzyMatch q names).map (·.name)).Perm (names.filter fun n => decide (Matches q n)) := by
  unfold fuzzyMatch
  refine ((List.mergeSort_perm _ _).map _).trans (List.Perm.of_eq ?_)
  rw [List.map_filterMap, ← List.filterMap_eq_filter]
  congr 1
  funext n
  -- a name gives a match exactly when the query matches it, and the match bears its name
  by_cases h : Matches q n
  · obtain ⟨pos, hpos⟩ := Option.isSome_iff_exists.1
      ((matchPositions_isSome_iff (Text.lower q).toList (Text.lower n).toList).2 h)
    simp only [hpos, Option.map_some]
    exact (Option.guard_pos (p := fun x => decide (Matches q x)) (decide_eq_true h)).symm
  · simp only [(matchPositions_eq_none_iff q n).2 h, Option.map_none]
    exact (Option.guard_eq_none_iff (p := fun x => decide (Matches q x)).2 (decide_eq_false h)).symm

/-- A name is among the matches once for each time it is among the names,
when the query matches it, and else not at all. -/
theorem count_fuzzyMatch (q : String) (names : List String) (n : String) :
    ((fuzzyMatch q names).map (·.name)).count n = if Matches q n then names.count n else 0 := by
  rw [(fuzzyMatch_names_perm q names).count_eq]
  by_cases h : Matches q n
  · rw [List.count_filter (by simpa using h), if_pos h]
  · rw [if_neg h, List.count_eq_zero]
    intro hn
    exact h (by simpa using (List.mem_filter.1 hn).2)

theorem one_le_score_of_mem_fuzzyMatch {q : String} {names : List String} {m : Match}
    (h : m ∈ fuzzyMatch q names) : 1 ≤ m.score := by
  unfold fuzzyMatch at h
  obtain ⟨name, -, hm⟩ := List.mem_filterMap.1 (List.mem_mergeSort.1 h)
  obtain ⟨pos, -, rfl⟩ := Option.map_eq_some_iff.1 hm
  exact one_le_score _ _ _

/-! ## Ranking -/

/-- A match ranks before another when its score is higher, or the scores
are equal and its name comes first. -/
def Match.Ranks (a b : Match) : Prop := b.score < a.score ∨ (a.score = b.score ∧ a.name ≤ b.name)

theorem Match.before_eq_true_iff (a b : Match) : a.before b = true ↔ a.Ranks b := by
  simp [Match.before, Match.Ranks]

theorem Match.Ranks.refl (a : Match) : a.Ranks a := .inr ⟨rfl, le_refl _⟩

theorem Match.Ranks.name_eq {a b : Match} (hab : a.Ranks b) (hba : b.Ranks a) : a.name = b.name := by
  rcases hab with hab | ⟨heq, hab⟩
  · rcases hba with hba | ⟨hba, -⟩ <;> omega
  · rcases hba with hba | ⟨-, hba⟩
    · omega
    · exact le_antisymm hab hba

theorem Match.Ranks.trans {a b c : Match} (hab : a.Ranks b) (hbc : b.Ranks c) : a.Ranks c := by
  rcases hab with hab | ⟨hab, hab'⟩ <;> rcases hbc with hbc | ⟨hbc, hbc'⟩
  · exact .inl (by omega)
  · exact .inl (by omega)
  · exact .inl (by omega)
  · exact .inr ⟨hab.trans hbc, le_trans hab' hbc'⟩

theorem Match.Ranks.total (a b : Match) : a.Ranks b ∨ b.Ranks a := by
  rcases lt_trichotomy a.score b.score with h | h | h
  · exact .inr (.inl h)
  · rcases le_total a.name b.name with hn | hn
    · exact .inl (.inr ⟨h, hn⟩)
    · exact .inr (.inr ⟨h.symm, hn⟩)
  · exact .inl (.inl h)

theorem fuzzyMatch_ranked (q : String) (names : List String) :
    (fuzzyMatch q names).Pairwise Match.Ranks := by
  have h := @List.pairwise_mergeSort Match Match.before
    (fun a b c hab hbc => (Match.before_eq_true_iff a c).2
      (((Match.before_eq_true_iff a b).1 hab).trans ((Match.before_eq_true_iff b c).1 hbc)))
    (fun a b => by
      simpa only [Bool.or_eq_true, Match.before_eq_true_iff] using Match.Ranks.total a b)
  exact (h _).imp fun hab => (Match.before_eq_true_iff _ _).1 hab

/-- In a ranked list, a name is the first entry's exactly when it is the
name of an entry that ranks before every entry. -/
theorem head?_name_eq_some_iff {l : List Match} (hl : l.Pairwise Match.Ranks) (n : String) :
    l.head?.map (·.name) = some n ↔ ∃ m ∈ l, m.name = n ∧ ∀ m' ∈ l, m.Ranks m' := by
  cases l with
  | nil => simp
  | cons h t =>
    have hfirst : ∀ m' ∈ h :: t, h.Ranks m' := by
      intro m' hm'
      rcases List.mem_cons.1 hm' with rfl | hm'
      · exact Match.Ranks.refl _
      · exact List.rel_of_pairwise_cons hl hm'
    simp only [List.head?_cons, Option.map_some, Option.some.injEq]
    constructor
    · rintro rfl
      exact ⟨h, List.mem_cons_self, rfl, hfirst⟩
    · rintro ⟨m, hm, rfl, hbest⟩
      -- the first entry and `m` rank before each other, so they share a name
      exact (hfirst m hm).name_eq (hbest h List.mem_cons_self)

/-! ## Suggestions -/

variable {α : Type}

/-- The names and aliases of a session's commands, as suggestions draw
from them. -/
def Registry.names (r : Registry α) (id : Session.SessionId) : List String :=
  (r.commands id).flatMap Spec.names

theorem Registry.suggest_eq (r : Registry α) (id : Session.SessionId) (x : String) :
    r.suggest id x = ((fuzzyMatch x (r.names id)).head?).map (·.name) := rfl

theorem suggest_eq_some_iff (r : Registry α) (id : Session.SessionId) (x n : String) :
    r.suggest id x = some n ↔
      ∃ m ∈ fuzzyMatch x (r.names id), m.name = n ∧ ∀ m' ∈ fuzzyMatch x (r.names id), m.Ranks m' :=
  head?_name_eq_some_iff (fuzzyMatch_ranked x _) n

/-- There is no suggestion exactly when the query matches no name or alias
of the session's commands. -/
theorem suggest_eq_none_iff (r : Registry α) (id : Session.SessionId) (x : String) :
    r.suggest id x = none ↔ ∀ n ∈ r.names id, ¬ Matches x n := by
  have hlen := (fuzzyMatch_names_perm x (r.names id)).length_eq
  rw [List.length_map] at hlen
  rw [Registry.suggest_eq, Option.map_eq_none_iff, List.head?_eq_none_iff, ← List.length_eq_zero_iff,
    hlen, List.length_eq_zero_iff, List.filter_eq_nil_iff]
  simp only [decide_eq_true_eq]

/-- Fuzzy matching is subsequence search, ranked:

* a name is among the matches once per occurrence among the names exactly
  when the query, in lower case, is not empty and is a subsequence of the
  name in lower case;
* matches come by score, highest first, then by name, each score at least 1;
* a session's suggestion is the name of a first-ranked match among the names
  and aliases of its commands, and there is none exactly when none
  matches. -/
theorem fuzzy_matching_ranks_subsequences (q : String) (names : List String) (r : Registry α)
    (id : Session.SessionId) (x : String) :
    (∀ n, ((fuzzyMatch q names).map (·.name)).count n = if Matches q n then names.count n else 0) ∧
    (fuzzyMatch q names).Pairwise Match.Ranks ∧
    (∀ m ∈ fuzzyMatch q names, 1 ≤ m.score) ∧
    (∀ n, r.suggest id x = some n ↔
      ∃ m ∈ fuzzyMatch x (r.names id), m.name = n ∧ ∀ m' ∈ fuzzyMatch x (r.names id), m.Ranks m') ∧
    (r.suggest id x = none ↔ ∀ n ∈ r.names id, ¬ Matches x n) :=
  ⟨count_fuzzyMatch q names, fuzzyMatch_ranked q names, fun _ h => one_le_score_of_mem_fuzzyMatch h,
    suggest_eq_some_iff r id x, suggest_eq_none_iff r id x⟩

end MudClient.Command
