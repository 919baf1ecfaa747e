/-
# Lowering a character twice

The lower-case table moves each character of a run by the run's offset.  The
binary search over the table is sound: the run it finds spans the code point
searched for (`CaseRun.find?_sound`), so a character is either left alone or
moved by a run that spans it (`lowerChar_cases`).  Three facts about the table,
each a check the kernel runs over its runs, then make lowering well behaved:

* no run moves a character onto a place that some run moves again, so
  lowering is idempotent (`lowerChar_lowerChar`, `lower_lower`);
* neither a run's span nor its image holds white space, so lowering neither
  creates nor removes it (`isSpace_lowerChar`), and it commutes with trimming
  (`lower_trimSpace`);
* below 128 only the capital letters move, onto the small ones
  (`lowerChar_ascii`), so an ASCII character other than a small letter is
  the lower case of itself alone (`eq_of_lowerChar_eq`).
-/
import Mathlib
import MudClient.Text.Case
import MudClient.Text.Space

namespace MudClient.Text

theorem toNat_ofNat_of_valid {n : Nat} (h : n.isValidChar) : (Char.ofNat n).toNat = n := by
  simp [Char.ofNat, h, Char.ofNatAux, Char.toNat]

def spaceRanges : List (Nat × Nat) :=
  [(0x09, 0x0D), (0x20, 0x20), (0x85, 0x85), (0xA0, 0xA0), (0x1680, 0x1680), (0x2000, 0x200A),
   (0x2028, 0x2029), (0x202F, 0x202F), (0x205F, 0x205F), (0x3000, 0x3000)]

def spaceFree (a b : Nat) : Bool := spaceRanges.all fun (x, y) => b < x || y < a

theorem isSpace_of_spaceFree {a b : Nat} {c : Char} (h : spaceFree a b = true) (ha : a ≤ c.toNat)
    (hb : c.toNat ≤ b) : isSpace c = false := by
  simp only [spaceFree, spaceRanges, List.all_cons, List.all_nil, Bool.and_true, Bool.and_eq_true,
    Bool.or_eq_true, decide_eq_true_eq] at h
  simp only [isSpace]
  split <;> simp only [Bool.or_eq_false_iff, Bool.and_eq_false_iff, beq_eq_false_iff_ne,
    decide_eq_false_iff_not] <;> omega

namespace CaseRun

theorem find?_sound {runs : Array CaseRun} {n lo hi : Nat} {r : CaseRun}
    (h : CaseRun.find? runs n lo hi = some r) : r ∈ runs.toList ∧ r.lo ≤ n ∧ n ≤ r.hi := by
  fun_induction CaseRun.find? runs n lo hi with
  | case1 | case5 => cases h
  | case2 _ _ _ _ _ _ _ ih | case3 _ _ _ _ _ _ _ _ ih => exact ih h
  | case4 _ _ _ _ r' hr hlo hhi =>
    obtain rfl := Option.some.inj h
    exact ⟨Array.mem_toList_iff.2 (Array.mem_of_getElem? hr), by omega, by omega⟩

def Moves (r : CaseRun) (n : Nat) : Prop := r.lo ≤ n ∧ n ≤ r.hi ∧ (n - r.lo) % r.step = 0

def imageLo (r : CaseRun) : Nat := (r.lo + r.delta).toNat

def imageHi (r : CaseRun) : Nat := (r.hi + r.delta).toNat

/-- The checks one run passes on its own: its image is made of characters,
it neither holds nor produces white space, and below 128 it moves only the
capital letters, onto the small ones. -/
def valid (r : CaseRun) : Bool :=
  0 ≤ r.lo + r.delta && r.lo ≤ r.hi && (r.imageHi < 0xD800 || 0xDFFF < r.imageLo) &&
    r.imageHi < 0x110000 && spaceFree r.lo r.hi && spaceFree r.imageLo r.imageHi &&
    (128 ≤ r.lo || r.lo == 65 && r.hi == 90 && r.delta == 32) &&
    (128 ≤ r.imageLo || 97 ≤ r.imageLo && r.imageHi ≤ 122)

/-- Whether the run `r'` moves no code point of the image of `r`: the image
lies outside the span of `r'`, or, for a run of step two, between its steps. -/
def clearOf (r r' : CaseRun) : Bool :=
  r.imageHi < r'.lo || r'.hi < r.imageLo ||
    (r'.step == 2 && (r.step == 2 || r.lo == r.hi) && (r.imageLo - r'.lo) % 2 == 1)

section Valid

variable {r : CaseRun} (hv : r.valid = true)
include hv

theorem image_mem {n : Nat} (hn : r.lo ≤ n ∧ n ≤ r.hi) :
    r.imageLo ≤ (n + r.delta).toNat ∧ (n + r.delta).toNat ≤ r.imageHi ∧
      ((n + r.delta).toNat : Int) = n + r.delta := by
  simp only [valid, Bool.and_eq_true, decide_eq_true_eq] at hv
  simp only [imageLo, imageHi]
  omega

theorem imageLo_eq : (r.imageLo : Int) = r.lo + r.delta := by
  simp only [valid, Bool.and_eq_true, decide_eq_true_eq] at hv
  simp only [imageLo]
  omega

theorem image_isValidChar {n : Nat} (hn : r.lo ≤ n ∧ n ≤ r.hi) : (n + r.delta).toNat.isValidChar := by
  have := image_mem hv hn
  simp only [valid, Bool.and_eq_true, Bool.or_eq_true, decide_eq_true_eq] at hv
  simp only [Nat.isValidChar]
  omega

theorem isSpace_of_span {c : Char} (hn : r.lo ≤ c.toNat ∧ c.toNat ≤ r.hi) : isSpace c = false := by
  simp only [valid, Bool.and_eq_true] at hv
  exact isSpace_of_spaceFree hv.1.1.1.2 hn.1 hn.2

theorem isSpace_of_image {c : Char} (hn : r.imageLo ≤ c.toNat ∧ c.toNat ≤ r.imageHi) : isSpace c = false := by
  simp only [valid, Bool.and_eq_true] at hv
  exact isSpace_of_spaceFree hv.1.1.2 hn.1 hn.2

theorem eq_ascii_of_lo_lt (h : r.lo < 128) : r.lo = 65 ∧ r.hi = 90 ∧ r.delta = 32 := by
  simp only [valid, Bool.and_eq_true, Bool.or_eq_true, beq_iff_eq, decide_eq_true_eq] at hv
  omega

theorem image_ascii (h : r.imageLo < 128) : 97 ≤ r.imageLo ∧ r.imageHi ≤ 122 := by
  simp only [valid, Bool.and_eq_true, Bool.or_eq_true, decide_eq_true_eq] at hv
  omega

theorem not_moves_image {r' : CaseRun} (hc : r.clearOf r' = true) {n : Nat} (hm : r.Moves n) :
    ¬ r'.Moves (n + r.delta).toNat := by
  obtain ⟨hn1, hn2, hn3⟩ := hm
  have him := image_mem hv ⟨hn1, hn2⟩
  have hlo' := imageLo_eq hv
  rintro ⟨hlo, hhi, hstep⟩
  simp only [clearOf, Bool.or_eq_true, Bool.and_eq_true, beq_iff_eq, decide_eq_true_eq] at hc
  rcases hc with (hc | hc) | ⟨⟨hstep', hsrc⟩, hodd⟩
  · omega
  · omega
  · -- a run of step two moves every other place; the image keeps to the others
    rw [hstep'] at hstep
    have hsrc' : (n - r.lo) % 2 = 0 := by
      rcases hsrc with h2 | hpt
      · simpa [h2] using hn3
      · omega
    omega

end Valid

end CaseRun

theorem lowerRuns_valid : (lowerRuns.toList.all CaseRun.valid) = true := by
  decide +kernel

theorem lowerRuns_clear : (lowerRuns.toList.all fun r => lowerRuns.toList.all fun r' => r.clearOf r') = true := by
  decide +kernel

theorem valid_of_mem {r : CaseRun} (hr : r ∈ lowerRuns.toList) : r.valid = true :=
  List.all_eq_true.1 lowerRuns_valid r hr

/-- A character is either left alone by lowering or moved by a run of the
table that spans it, onto the matching place of its image. -/
theorem lowerChar_cases (c : Char) :
    lowerChar c = c ∨ ∃ r ∈ lowerRuns.toList, r.Moves c.toNat ∧ (lowerChar c).toNat = (c.toNat + r.delta).toNat := by
  unfold lowerChar mapByRuns
  split
  · next r hr =>
    obtain ⟨hmem, hlo, hhi⟩ := CaseRun.find?_sound hr
    split
    · next hstep =>
      refine .inr ⟨r, hmem, ⟨hlo, hhi, by simpa using hstep⟩, ?_⟩
      exact toNat_ofNat_of_valid (CaseRun.image_isValidChar (valid_of_mem hmem) ⟨hlo, hhi⟩)
    · exact .inl rfl
  · exact .inl rfl

theorem lowerChar_lowerChar (c : Char) : lowerChar (lowerChar c) = lowerChar c := by
  rcases lowerChar_cases c with h | ⟨r, hr, hm, hc⟩
  · rw [h, h]
  · rcases lowerChar_cases (lowerChar c) with h' | ⟨r', hr', hm', -⟩
    · exact h'
    · have hclear := List.all_eq_true.1 (List.all_eq_true.1 lowerRuns_clear r hr) r' hr'
      rw [hc] at hm'
      exact absurd hm' (CaseRun.not_moves_image (valid_of_mem hr) hclear hm)

theorem isSpace_lowerChar (c : Char) : isSpace (lowerChar c) = isSpace c := by
  rcases lowerChar_cases c with h | ⟨r, hr, hm, hc⟩
  · rw [h]
  · have hv := valid_of_mem hr
    have him := CaseRun.image_mem hv ⟨hm.1, hm.2.1⟩
    rw [CaseRun.isSpace_of_span hv ⟨hm.1, hm.2.1⟩, CaseRun.isSpace_of_image hv (by omega)]

/-- Below 128 lowering moves only the capital letters, each onto its small
letter. -/
theorem lowerChar_ascii {c : Char} (h : c.toNat < 128) :
    lowerChar c = c ∨ 65 ≤ c.toNat ∧ c.toNat ≤ 90 ∧ (lowerChar c).toNat = c.toNat + 32 := by
  rcases lowerChar_cases c with hc | ⟨r, hr, hm, hc⟩
  · exact .inl hc
  · obtain ⟨hlo, hhi, hdelta⟩ := CaseRun.eq_ascii_of_lo_lt (valid_of_mem hr) (by have := hm.1; omega)
    refine .inr ⟨by have := hm.1; omega, by have := hm.2.1; omega, ?_⟩
    rw [hc, hdelta]
    omega

/-- An ASCII character other than a small letter is the lower case of itself
alone. -/
theorem eq_of_lowerChar_eq {c d : Char} (h : lowerChar c = d) (hd : d.toNat < 97 ∨ 122 < d.toNat ∧ d.toNat < 128) :
    c = d := by
  rcases lowerChar_cases c with hc | ⟨r, hr, hm, hc⟩
  · exact hc ▸ h
  · have hv := valid_of_mem hr
    have him := CaseRun.image_mem hv ⟨hm.1, hm.2.1⟩
    rw [h] at hc
    by_cases hlow : r.imageLo < 128
    · have := CaseRun.image_ascii hv hlow
      omega
    · omega

@[simp] theorem toList_lower (s : String) : (lower s).toList = s.toList.map lowerChar := String.toList_map

theorem lower_lower (s : String) : lower (lower s) = lower s := by
  rw [← String.toList_inj]
  simp [Function.comp_def, lowerChar_lowerChar]

theorem lower_trimSpace (s : String) : lower (trimSpace s) = trimSpace (lower s) := by
  have hspace : isSpace ∘ lowerChar = isSpace := funext isSpace_lowerChar
  rw [← String.toList_inj]
  simp only [toList_lower, trimSpace, trimSpaceChars, String.toList_ofList, ← List.map_reverse,
    List.dropWhile_map, hspace]

end MudClient.Text
