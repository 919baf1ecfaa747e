/-
# The codes of terminal key events read back

The code of a terminal key event is meant to be a key specification that
reads to that same code, so that a key named in the configuration matches
the key pressed.  A code reads back from its text exactly when it is
canonical (`Code.ofSpec_render_iff`), and the code of an event is
canonical exactly when the event does not type a white-space character
other than the space (`Code.canonical_ofEvent_iff`):

* a named key gives a special key name, or a control chord whose key is
  the space or one character that lowering leaves alone;
* a typed space is written `space`, and any other typed character is
  written as itself, lowered under control;
* but a typed no-break space, next line or other white space beyond the
  ASCII controls is written as itself too, and reading a specification
  trims it away (`no_break_space_code_unread`).

So every event code reads back but those of typed white space
(`event_code_reads_back_iff`).
-/
import MudClient.Proofs.Key.Canonical

namespace MudClient.Key

open Text

/-! ## Codes that read back -/

theorem Code.ofSpec_render_iff {c : Code} : Code.ofSpec? c.render = .ok c ↔ c.Canonical :=
  ⟨canonical_of_ofSpec, ofSpec_render⟩

theorem not_keyName_of_isSpace {m : Modifiers} {ch : Char} (hch : isSpace ch = true) :
    ¬ KeyName m (charName ch) := by
  rintro (hs | ⟨ch', heq, hsp, -⟩)
  · have := (alnum_of_canonicalName hs).1
    simp [← String.length_toList] at this
  · have : ch = ch' := by simpa using congrArg String.toList heq
    rw [this, hsp] at hch
    cases hch

/-! ## The text of a typed character -/

theorem runeText_eq (r : Int) : ∃ ch, runeText r = charName ch := by
  unfold runeText
  split
  · exact ⟨'�', rfl⟩
  · exact ⟨_, rfl⟩

theorem lower_charName (ch : Char) : lower (charName ch) = charName (lowerChar ch) := by
  rw [← String.toList_inj]
  simp

/-- Whether an event types a white-space character other than the space,
whose code reading a specification trims away. -/
def Terminal.Event.typesBlank (e : Terminal.Event) : Bool :=
  e.key == Terminal.runeKey && e.rune != 32 && (runeText e.rune).toList.any isSpace

/-! ## Named keys -/

/-- What the code of a named key needs of its name: a control chord names
the space or one character other than white space after its `Ctrl-`, and
any other name is a special key name or an alias of one. -/
def nameReadable (n : String) : Bool :=
  if n.startsWith "Ctrl-" then
    n.toList.drop 5 == "Space".toList ||
      ((n.toList.drop 5).length == 1 && (n.toList.drop 5).all fun c => !isSpace c)
  else isSpecial n

theorem keyNames_readable :
    (List.range 343).all (fun k => ((Terminal.keyName? k).map nameReadable).getD true) = true := by
  decide +kernel

theorem keyName?_bounds {k : Int} {n : String} (h : Terminal.keyName? k = some n) : 0 ≤ k ∧ k < 343 := by
  unfold Terminal.keyName? at h
  split at h
  · omega
  · split at h
    · omega
    · split at h
      · omega
      · split at h
        · omega
        · cases h

theorem nameReadable_of_keyName? {k : Int} {n : String} (h : Terminal.keyName? k = some n) :
    nameReadable n = true := by
  obtain ⟨h0, h1⟩ := keyName?_bounds h
  have hk := List.all_eq_true.1 keyNames_readable k.toNat (List.mem_range.2 (by omega))
  rwa [Int.toNat_of_nonneg h0, h, Option.map_some, Option.getD_some] at hk

theorem lower_space : lower (String.ofList "Space".toList) = "space" := by
  decide +kernel

/-- The key a control chord names after its `Ctrl-`, lowered, is a key name
under any modifiers. -/
theorem keyName_chord {n : String} (hn : nameReadable n = true) (hc : n.startsWith "Ctrl-" = true)
    (m : Modifiers) : KeyName m (lower (String.ofList (n.toList.drop 5))) := by
  simp only [nameReadable, hc, if_true, Bool.or_eq_true, beq_iff_eq, Bool.and_eq_true,
    List.all_eq_true, Bool.not_eq_true'] at hn
  rcases hn with hsp | ⟨hlen, hall⟩
  · rw [hsp, lower_space]
    exact .inl canonicalName_space
  · obtain ⟨c, hc1⟩ := List.length_eq_one_iff.1 hlen
    have hofList : String.ofList (n.toList.drop 5) = charName c := by
      rw [hc1]
      rfl
    rw [hofList, lower_charName]
    refine .inr ⟨lowerChar c, rfl, ?_, fun _ => lowerChar_lowerChar c⟩
    rw [isSpace_lowerChar]
    exact hall c (by simp [hc1])

/-! ## The code of an event -/

/-- The code of an event, with its modifiers taken as some set of the four
named ones. -/
theorem Code.ofEvent_eq (e : Terminal.Event) : ∃ m : Modifiers, m.bits.toNat < 16 ∧
    Code.ofEvent e =
      if e.key = Terminal.runeKey then
        if e.rune = 32 then ⟨m, "space"⟩
        else if m.has .ctrl then ⟨m, lower (runeText e.rune)⟩
        else ⟨m.remove .shift, runeText e.rune⟩
      else
        match Terminal.keyName? e.key with
        | none => ⟨.none, ""⟩
        | some name =>
          if name.startsWith "Ctrl-" then ⟨m.union .ctrl, lower (String.ofList (name.toList.drop 5))⟩
          else ⟨m, (canonicalName name).1⟩ := by
  refine ⟨_, ?_, rfl⟩
  cases e.holds Terminal.ctrlBit <;> cases e.holds Terminal.altBit <;>
    cases e.holds Terminal.shiftBit <;> cases e.holds Terminal.metaBit <;> decide

namespace Modifiers

theorem bits_remove_lt {m : Modifiers} (hm : m.bits.toNat < 16) : (m.remove .shift).bits.toNat < 16 :=
  forall_lt_sixteen (P := fun m => (m.remove .shift).bits.toNat < 16) (by decide) hm

theorem has_remove_shift {m : Modifiers} (hm : m.bits.toNat < 16) :
    (m.remove .shift).has .ctrl = m.has .ctrl :=
  forall_lt_sixteen (P := fun m => (m.remove .shift).has .ctrl = m.has .ctrl) (by decide) hm

end Modifiers

/-- The code of an event that is not empty is canonical exactly when the
event types no white space other than the space. -/
theorem Code.canonical_ofEvent_iff (e : Terminal.Event) (hn : (Code.ofEvent e).render ≠ "") :
    (Code.ofEvent e).Canonical ↔ e.typesBlank = false := by
  obtain ⟨m, hm, heq⟩ := Code.ofEvent_eq e
  rw [heq] at hn ⊢
  by_cases hkey : e.key = Terminal.runeKey
  · -- a typed character
    obtain ⟨ch, hch⟩ := runeText_eq e.rune
    by_cases hsp32 : e.rune = 32
    · have hblank : e.typesBlank = false := by simp [Terminal.Event.typesBlank, hsp32]
      simp only [if_pos hkey, if_pos hsp32, hblank, iff_true]
      exact ⟨hm, .inl canonicalName_space⟩
    have hblank : e.typesBlank = isSpace ch := by
      simp [Terminal.Event.typesBlank, hkey, hsp32, hch]
    simp only [if_pos hkey, if_neg hsp32, hblank] at hn ⊢
    by_cases hctrl : m.has .ctrl = true
    · simp only [if_pos hctrl, hch, lower_charName]
      constructor
      · intro hc
        cases hs : isSpace ch
        · rfl
        · exact absurd hc.keyName (not_keyName_of_isSpace (by rw [isSpace_lowerChar, hs]))
      · intro hs
        refine ⟨hm, .inr ⟨lowerChar ch, rfl, by rw [isSpace_lowerChar, hs], fun _ => lowerChar_lowerChar ch⟩⟩
    · simp only [if_neg hctrl, hch]
      constructor
      · intro hc
        cases hs : isSpace ch
        · rfl
        · exact absurd hc.keyName (not_keyName_of_isSpace hs)
      · intro hs
        refine ⟨Modifiers.bits_remove_lt hm, .inr ⟨ch, rfl, hs, fun h => ?_⟩⟩
        rw [Modifiers.has_remove_shift hm] at h
        exact absurd h hctrl
  · -- a named key
    have hblank : e.typesBlank = false := by simp [Terminal.Event.typesBlank, hkey]
    simp only [if_neg hkey, hblank, iff_true] at hn ⊢
    cases hname : Terminal.keyName? e.key with
    | none =>
      rw [hname] at hn
      exact absurd rfl hn
    | some name =>
      have hread := nameReadable_of_keyName? hname
      simp only
      by_cases hc : name.startsWith "Ctrl-" = true
      · rw [if_pos hc]
        exact ⟨Modifiers.bits_union_lt hm (by decide), keyName_chord hread hc _⟩
      · rw [if_neg hc]
        simp only [nameReadable, hc, Bool.false_eq_true, if_false] at hread
        exact ⟨hm, .inl (canonicalName_canonical hread)⟩

/-! ## Event codes read back -/

/-- The code of a terminal key event, when it is not empty, reads back from
its text exactly when the event types no white space other than the space. -/
theorem event_code_reads_back_iff (e : Terminal.Event) (hn : (Code.ofEvent e).render ≠ "") :
    Code.ofSpec? (Code.ofEvent e).render = .ok (Code.ofEvent e) ↔ e.typesBlank = false :=
  Code.ofSpec_render_iff.trans (Code.canonical_ofEvent_iff e hn)

/-- Control, shift and a capital `A` give `ctrl+shift+a`, which reads back. -/
theorem ctrl_shift_capital_reads_back :
    (Code.ofEvent (Terminal.Event.make 256 65 3)).render ≠ "" ∧
      (Code.ofSpec? (Code.ofEvent (Terminal.Event.make 256 65 3)).render =
          .ok (Code.ofEvent (Terminal.Event.make 256 65 3)) ↔
        (Terminal.Event.make 256 65 3).typesBlank = false) :=
  ⟨by decide +kernel, event_code_reads_back_iff _ (by decide +kernel)⟩

/-- A typed no-break space is written as itself, and reading that text
finds an empty specification. -/
theorem no_break_space_code_unread :
    (Code.ofEvent (Terminal.Event.make 256 160 0)).render = "\u00A0" ∧
      Code.ofSpec? "\u00A0" = .error .empty := by
  decide +kernel

end MudClient.Key
