/-
# Canonical key codes

Reading a key specification gives a code in canonical form: modifiers among
the four named ones, and a key name that is either a special key name which
is its own canonical name, or one character that is not white space, in lower
case under control (`Code.Canonical`, `canonical_of_ofSpec`).  Writing such a
code and reading it again gives it back (`ofSpec_render`), so two accepted
specifications are the same key exactly when they read to the same code
(`sameKey_iff`).

A chord reads as its key under the union of its modifiers, whichever of the
three ways it is written: joined by `+`, joined by `-`, or in angle brackets
(`ofSpec_plus`, `ofSpec_minus`, `ofSpec_angle`), and an accepted chord is read
in no other way (`readChord_eq_ok`); the union depends only on which modifiers
are named, not on their order, repetition or case (`Modifiers.ofNames_congr`).
-/
import Mathlib
import MudClient.Key.Code
import MudClient.Proofs.Text.Lower

namespace MudClient.Key

open Text

/-! ## Characters -/

theorem isAlphanum_iff {ch : Char} :
    ch.isAlphanum = true ↔
      48 ≤ ch.toNat ∧ ch.toNat ≤ 57 ∨ 65 ≤ ch.toNat ∧ ch.toNat ≤ 90 ∨ 97 ≤ ch.toNat ∧ ch.toNat ≤ 122 := by
  simp [Char.isAlphanum, Char.isAlpha, Char.isUpper, Char.isLower, Char.isDigit, UInt32.le_iff_toNat_le]
  omega

theorem isSpace_of_isAlphanum {ch : Char} (h : ch.isAlphanum = true) : isSpace ch = false := by
  rw [isAlphanum_iff] at h
  simp only [isSpace]
  split <;> simp only [Bool.or_eq_false_iff, Bool.and_eq_false_iff, beq_eq_false_iff_ne,
    decide_eq_false_iff_not] <;> omega

theorem ne_of_isAlphanum {ch c : Char} (h : ch.isAlphanum = true) (hc : c.isAlphanum = false) : ch ≠ c := by
  rintro rfl
  simp [h] at hc

theorem isAlphanum_lowerChar {ch : Char} (h : ch.isAlphanum = true) : (lowerChar ch).isAlphanum = true := by
  have h' := isAlphanum_iff.1 h
  rcases lowerChar_ascii (c := ch) (by omega) with hl | ⟨hlo, hhi, hl⟩
  · rwa [hl]
  · rw [isAlphanum_iff, hl]
    omega

def plainAscii (s : String) : Bool := s.toList.all fun ch => ch.toNat < 65 || 90 < ch.toNat && ch.toNat < 128

theorem lowerChar_of_plain {ch : Char} (h : ch.toNat < 65 ∨ 90 < ch.toNat ∧ ch.toNat < 128) :
    lowerChar ch = ch := by
  rcases lowerChar_ascii (c := ch) (by omega) with hl | ⟨hlo, hhi, -⟩
  · exact hl
  · omega

theorem lower_of_plainAscii {s : String} (h : plainAscii s = true) : lower s = s := by
  rw [← String.toList_inj, toList_lower, List.map_congr_left (g := id), List.map_id]
  intro ch hch
  have := List.all_eq_true.1 h ch hch
  simp only [Bool.or_eq_true, Bool.and_eq_true, decide_eq_true_eq] at this
  exact lowerChar_of_plain this

/-! ## White space at the ends -/

theorem dropWhile_isSpace_of_forall {cs : List Char} (h : ∀ ch ∈ cs, isSpace ch = false) :
    cs.dropWhile isSpace = cs := by
  cases cs with
  | nil => rfl
  | cons c cs => simp [h c List.mem_cons_self]

theorem trimSpace_of_forall {s : String} (h : ∀ ch ∈ s.toList, isSpace ch = false) : trimSpace s = s := by
  rw [trimSpace, trimSpaceChars, dropWhile_isSpace_of_forall h,
    dropWhile_isSpace_of_forall (by simpa using h), List.reverse_reverse, String.ofList_toList]

theorem isSpace_of_trimSpace {s : String} {ch : Char} (h : (trimSpace s).toList = [ch]) : isSpace ch = false := by
  rw [trimSpace, String.toList_ofList, trimSpaceChars] at h
  have h' := congrArg List.reverse h
  rw [List.reverse_reverse, List.reverse_singleton] at h'
  simpa [h'] using List.head?_dropWhile_not isSpace (s.toList.dropWhile isSpace).reverse

theorem length_le_utf8ByteSize (s : String) : s.length ≤ s.utf8ByteSize := by
  rw [← String.ofList_toList (s := s), ← String.length_toList, String.toList_ofList]
  induction s.toList with
  | nil => simp
  | cons c cs ih =>
    rw [String.ofList_cons, String.utf8ByteSize_append, String.utf8ByteSize_singleton, List.length_cons]
    have := Char.utf8Size_pos c
    omega

theorem exists_toList_eq_of_utf8ByteSize {s : String} (h : s.utf8ByteSize = 1) : ∃ x, s.toList = [x] := by
  have hle := length_le_utf8ByteSize s
  rw [← String.length_toList] at hle
  match hs : s.toList with
  | [x] => exact ⟨x, rfl⟩
  | [] =>
    rw [String.toList_eq_nil_iff] at hs
    simp [hs] at h
  | _ :: _ :: _ =>
    rw [hs] at hle
    simp at hle
    omega

/-! ## Splitting at a separator -/

theorem splitAt_go (sep : Char) (cs acc : List Char) :
    splitAt.go sep cs acc = (cs.splitOnPPrepend (· == sep) acc).map String.ofList := by
  induction cs generalizing acc with
  | nil => rfl
  | cons c cs ih =>
    by_cases h : c = sep
    · simp [splitAt.go, h, List.splitOnPPrepend_cons_pos, ih]
    · simp [splitAt.go, h, List.splitOnPPrepend_cons_neg, ih]

theorem splitAt_eq (sep : Char) (s : String) : splitAt sep s = (s.toList.splitOn sep).map String.ofList :=
  splitAt_go sep s.toList []

/-- Splitting parts joined by a separator none of them holds gives the parts
back. -/
theorem splitAt_intercalate {sep : Char} {ps : List String} (hne : ps ≠ []) (h : ∀ p ∈ ps, sep ∉ p.toList) :
    splitAt sep ((String.singleton sep).intercalate ps) = ps := by
  rw [splitAt_eq, String.toList_intercalate, String.toList_singleton,
    List.splitOn_intercalate sep (by simpa using h) (by simpa using hne), List.map_map]
  simp [Function.comp_def, String.ofList_toList]

theorem toList_intercalate_cons {sep : Char} {p : String} {ps : List String} (hne : ps ≠ []) :
    ((String.singleton sep).intercalate (p :: ps)).toList =
      p.toList ++ sep :: ((String.singleton sep).intercalate ps).toList := by
  rw [String.intercalate_cons_of_ne_nil hne]
  simp

/-- Every character of parts joined by a separator is the separator or a
character of a part. -/
theorem forall_mem_intercalate {P : Char → Prop} {sep : Char} (hsep : P sep) :
    ∀ {ps : List String}, (∀ p ∈ ps, ∀ ch ∈ p.toList, P ch) →
      ∀ ch ∈ ((String.singleton sep).intercalate ps).toList, P ch
  | [], _ => by simp
  | [p], h => by simpa using h p
  | p :: q :: ps, h => by
    rw [toList_intercalate_cons (List.cons_ne_nil q ps)]
    intro ch hch
    rcases List.mem_append.1 hch with hp | hrest
    · exact h p List.mem_cons_self ch hp
    · rcases List.mem_cons.1 hrest with rfl | hrest
      · exact hsep
      · exact forall_mem_intercalate hsep (fun r hr => h r (List.mem_cons_of_mem p hr)) ch hrest

/-- A chord of parts joined by a separator splits back into its parts, the
separator key itself included when it is the key part. -/
theorem splitChord_intercalate {sep : Char} {ms : List String} {k : String} (hne : ms ≠ [])
    (hms : ∀ p ∈ ms, sep ∉ p.toList) (hk : k = String.singleton sep ∨ k ≠ "" ∧ sep ∉ k.toList) :
    splitChord ((String.singleton sep).intercalate (ms ++ [k])) sep = ms ++ [k] := by
  have hjoin : ((String.singleton sep).intercalate (ms ++ [k])).toList =
      ((String.singleton sep).intercalate ms).toList ++ sep :: k.toList := by
    rw [String.intercalate_append_of_ne_nil hne (List.cons_ne_nil k [])]
    simp
  unfold splitChord
  rcases hk with rfl | ⟨hk, hsep⟩
  · -- the doubled separator at the end is the key
    have hcs : ((String.singleton sep).intercalate (ms ++ [String.singleton sep])).toList =
        ((String.singleton sep).intercalate ms).toList ++ [sep, sep] := by simpa using hjoin
    have htake : ∀ cs : List Char, (cs ++ [sep, sep]).take ((cs ++ [sep, sep]).length - 2) = cs := by simp
    rw [hcs, if_pos (by simp), htake, String.ofList_toList, splitAt_intercalate hne hms]
  · obtain ⟨ks, x, hks⟩ := List.eq_nil_or_concat k.toList |>.resolve_left (by simpa using hk)
    have hx : x ≠ sep := fun h => hsep (by simp [hks, h])
    rw [if_neg (by simp [hjoin, hks, hx])]
    refine splitAt_intercalate (by simp) fun p hp => ?_
    rcases List.mem_append.1 hp with hp | hp
    · exact hms p hp
    · exact (List.mem_singleton.1 hp) ▸ hsep

/-! ## The modifiers of a chord -/

namespace Modifiers

def ofNames (ps : List String) : Modifiers := ps.foldl (fun m p => m.union (ofName p)) none

theorem testBit_foldl (ps : List String) (acc : Modifiers) (i : Nat) :
    (ps.foldl (fun m p => m.union (ofName p)) acc).bits.toNat.testBit i =
      (acc.bits.toNat.testBit i || ps.any fun p => (ofName p).bits.toNat.testBit i) := by
  induction ps generalizing acc with
  | nil => simp
  | cons p ps ih =>
    rw [List.foldl_cons, ih]
    simp [union, UInt8.toNat_or, Nat.testBit_or, Bool.or_assoc]

theorem testBit_ofNames (ps : List String) (i : Nat) :
    (ofNames ps).bits.toNat.testBit i = ps.any fun p => (ofName p).bits.toNat.testBit i := by
  simpa [ofNames, none] using testBit_foldl ps none i

/-- Two chords that name the same modifiers, in any order and any number of
times, hold the same modifiers. -/
theorem ofNames_congr {ps qs : List String} (h : ∀ p ∈ ps, ∃ q ∈ qs, ofName q = ofName p)
    (h' : ∀ q ∈ qs, ∃ p ∈ ps, ofName p = ofName q) : ofNames ps = ofNames qs := by
  suffices hbits : (ofNames ps).bits.toNat = (ofNames qs).bits.toNat by
    cases hp : ofNames ps
    cases hq : ofNames qs
    rw [hp, hq] at hbits
    simpa [UInt8.toNat_inj] using hbits
  apply Nat.eq_of_testBit_eq
  intro i
  rw [testBit_ofNames, testBit_ofNames, Bool.eq_iff_iff, List.any_eq_true, List.any_eq_true]
  constructor
  · rintro ⟨p, hp, hbit⟩
    obtain ⟨q, hq, heq⟩ := h p hp
    exact ⟨q, hq, heq ▸ hbit⟩
  · rintro ⟨q, hq, hbit⟩
    obtain ⟨p, hp, heq⟩ := h' q hq
    exact ⟨p, hp, heq ▸ hbit⟩

theorem ofName_congr {p q : String} (h : lower p = lower q) : ofName p = ofName q := by
  simp only [ofName, lower_trimSpace, h]

theorem ofName_empty : ofName "" = none := by
  rw [ofName, trimSpace_of_forall (by simp), lower_of_plainAscii (by decide)]
  decide

theorem bits_ofName_lt (p : String) : (ofName p).bits.toNat < 16 := by
  have hspell : ∀ q ∈ spellings, q.2.bits.toNat < 16 := by decide
  unfold ofName
  cases hl : spellings.lookup (lower (trimSpace p)) with
  | none => decide
  | some m =>
    obtain ⟨l₁, l₂, hsp, -⟩ := List.lookup_eq_some_iff.1 hl
    exact hspell (lower (trimSpace p), m) (by rw [hsp]; simp)

theorem bits_union_lt {m m' : Modifiers} (h : m.bits.toNat < 16) (h' : m'.bits.toNat < 16) :
    (m.union m').bits.toNat < 16 := by
  rw [union, UInt8.toNat_or]
  exact Nat.or_lt_two_pow (n := 4) h h'

theorem bits_foldl_lt (ps : List String) {acc : Modifiers} (h : acc.bits.toNat < 16) :
    (ps.foldl (fun m p => m.union (ofName p)) acc).bits.toNat < 16 := by
  induction ps generalizing acc with
  | nil => exact h
  | cons p ps ih => exact ih (bits_union_lt h (bits_ofName_lt p))

theorem bits_ofNames_lt (ps : List String) : (ofNames ps).bits.toNat < 16 :=
  bits_foldl_lt ps (by decide)

end Modifiers

open Modifiers in
theorem readMods_append (k : String) :
    ∀ (ms : List String) (acc : Modifiers), (∀ p ∈ ms, (ofName p).bits ≠ 0) →
      readChord.readMods acc (ms ++ [k]) = readKey k (ms.foldl (fun m p => m.union (ofName p)) acc)
  | [], acc, _ => by simp [readChord.readMods]
  | p :: ms, acc, h => by
    rw [List.cons_append, readChord.readMods.eq_3 _ _ _ (by simp), if_neg (h p List.mem_cons_self),
      readMods_append k ms _ fun q hq => h q (List.mem_cons_of_mem p hq), List.foldl_cons]

/-- A chord whose modifier parts all name modifiers reads as its key under
their union. -/
theorem readChord_append {ms : List String} (k : String) (hne : ms ≠ [])
    (h : ∀ p ∈ ms, (Modifiers.ofName p).bits ≠ 0) : readChord (ms ++ [k]) = readKey k (Modifiers.ofNames ms) := by
  obtain ⟨p, ms', rfl⟩ := List.exists_cons_of_ne_nil hne
  rw [readChord.eq_3 _ (by simp) (by simp), readMods_append k _ _ h]
  rfl

open Modifiers in
/-- Modifier parts are read only as the key after them under the union of
the modifiers they name. -/
theorem readMods_eq_ok {c : Code} :
    ∀ (ps : List String) (acc : Modifiers), readChord.readMods acc ps = .ok c →
      ∃ ms k, ps = ms ++ [k] ∧ (∀ p ∈ ms, (ofName p).bits ≠ 0) ∧
        readKey k (ms.foldl (fun m p => m.union (ofName p)) acc) = .ok c
  | [], _, h => by simp [readChord.readMods] at h
  | [k], acc, h => ⟨[], k, rfl, by simp, by simpa [readChord.readMods] using h⟩
  | p :: q :: ps, acc, h => by
    rw [readChord.readMods.eq_3 _ _ _ (by simp)] at h
    split_ifs at h with hp
    obtain ⟨ms, k, hps, hms, hk⟩ := readMods_eq_ok (q :: ps) _ h
    refine ⟨p :: ms, k, by rw [hps, List.cons_append], fun r hr => ?_, hk⟩
    rcases List.mem_cons.1 hr with rfl | hr
    · exact hp
    · exact hms r hr

/-- A chord is read only as its key under the union of the modifiers its
other parts name. -/
theorem readChord_eq_ok {ps : List String} {c : Code} (h : readChord ps = .ok c) :
    ∃ ms k, ps = ms ++ [k] ∧ (∀ p ∈ ms, (Modifiers.ofName p).bits ≠ 0) ∧
      readKey k (Modifiers.ofNames ms) = .ok c := by
  unfold readChord at h
  split at h
  · cases h
  · exact ⟨[], _, rfl, by simp, h⟩
  · exact readMods_eq_ok _ _ h

/-! ## Key names -/

/-- The space and the terminal's key names that are no control chord are two
or more letters and digits. -/
theorem specialSources_plain :
    ("space" :: Terminal.allNames.filter fun n => !n.startsWith "Ctrl-").all
      (fun n => 2 ≤ n.length && n.toList.all Char.isAlphanum) = true := by
  decide +kernel

theorem specialNames_alnum {n : String} (h : n ∈ specialNames) :
    2 ≤ n.length ∧ ∀ ch ∈ n.toList, ch.isAlphanum = true := by
  have hplain := List.all_eq_true.1 specialSources_plain
  simp only [Bool.and_eq_true, decide_eq_true_eq, List.all_eq_true] at hplain
  rcases List.mem_cons.1 h with rfl | h
  · exact hplain _ List.mem_cons_self
  · obtain ⟨t, ht, rfl⟩ := List.mem_map.1 h
    have ht' := hplain t (List.mem_cons_of_mem _ ht)
    refine ⟨?_, fun ch hch => ?_⟩
    · rw [← String.length_toList, toList_lower, List.length_map, String.length_toList]
      exact ht'.1
    · rw [toList_lower] at hch
      obtain ⟨x, hx, rfl⟩ := List.mem_map.1 hch
      exact isAlphanum_lowerChar (ht'.2 x hx)

/-- What an alias stands for is written without capitals, is no alias
itself, and is no white space when it is one character. -/
theorem aliases_targets_check :
    (aliases.all fun a => plainAscii a.2 && (aliases.lookup a.2).isNone &&
      (a.2.length != 1 || a.2.toList.all fun ch => !isSpace ch)) = true := by
  decide +kernel

theorem aliases_targets {a : String × String} (h : a ∈ aliases) :
    plainAscii a.2 = true ∧ aliases.lookup a.2 = none ∧
      (a.2.length = 1 → ∀ ch ∈ a.2.toList, isSpace ch = false) := by
  have := List.all_eq_true.1 aliases_targets_check a h
  simp only [Bool.and_eq_true, Option.isNone_iff_eq_none, Bool.or_eq_true, bne_iff_ne, ne_eq,
    List.all_eq_true, Bool.not_eq_true'] at this
  exact ⟨this.1.1, this.1.2, fun h1 => this.2.resolve_left (not_not_intro h1)⟩

theorem aliases_single_check : (aliases.all fun a => a.1.length != 1 || a.1 == " ") = true := by
  decide +kernel

theorem aliases_single {a : String × String} (h : a ∈ aliases) (h1 : a.1.length = 1) : a.1 = " " := by
  have := List.all_eq_true.1 aliases_single_check a h
  simpa [h1] using this

theorem mem_aliases_of_lookup {n t : String} (h : aliases.lookup n = some t) : (n, t) ∈ aliases := by
  obtain ⟨l₁, l₂, hl, -⟩ := List.lookup_eq_some_iff.1 h
  rw [hl]
  simp

theorem canonicalName_eq {n : String} (hl : lower n = n) (ha : aliases.lookup n = none) :
    canonicalName n = (n, specialNames.contains n) := by
  simp [canonicalName, hl, ha]

theorem canonicalName_congr {n n' : String} (h : lower n = lower n') : canonicalName n = canonicalName n' := by
  simp only [canonicalName, h]

/-- A special name read is its own canonical name: it is in lower case and is
no alias. -/
theorem canonicalName_canonical {n : String} (h : (canonicalName n).2 = true) :
    canonicalName (canonicalName n).1 = ((canonicalName n).1, true) := by
  obtain ⟨hl, ha⟩ : lower (canonicalName n).1 = (canonicalName n).1 ∧
      aliases.lookup (canonicalName n).1 = none := by
    simp only [canonicalName]
    cases hlk : aliases.lookup (lower n) with
    | none => exact ⟨lower_lower n, hlk⟩
    | some t =>
      have ht := aliases_targets (mem_aliases_of_lookup hlk)
      exact ⟨lower_of_plainAscii ht.1, ht.2.1⟩
  rw [canonicalName_eq hl ha]
  exact congrArg _ h

@[simp] theorem toList_charName (ch : Char) : (charName ch).toList = [ch] := String.toList_singleton ch

/-- One character other than the space names no special key, and is its own
name in lower case. -/
theorem canonicalName_charName {ch : Char} (h : ch ≠ ' ') :
    canonicalName (charName ch) = (charName (lowerChar ch), false) := by
  have hlow : lower (charName ch) = charName (lowerChar ch) := by
    rw [← String.toList_inj]
    simp
  have hne : lowerChar ch ≠ ' ' := fun h' => h (eq_of_lowerChar_eq h' (by decide))
  have ha : aliases.lookup (charName (lowerChar ch)) = none := by
    cases hlk : aliases.lookup (charName (lowerChar ch)) with
    | none => rfl
    | some t =>
      have hsp := aliases_single (mem_aliases_of_lookup hlk) (by simp [← String.length_toList])
      exact absurd (by simpa using congrArg String.toList hsp) hne
  have hs : charName (lowerChar ch) ∉ specialNames := by
    intro hc
    have := (specialNames_alnum hc).1
    simp [← String.length_toList] at this
  simp [canonicalName, hlow, ha, hs]

/-- The key names reading gives under the modifiers `m`: a special key name
that is its own canonical name, or one character that is not white space, in
lower case when control is held. -/
def KeyName (m : Modifiers) (name : String) : Prop :=
  canonicalName name = (name, true) ∨
    ∃ ch, name = charName ch ∧ isSpace ch = false ∧ (m.has .ctrl = true → lowerChar ch = ch)

/-- A key code as reading writes it: modifiers among the four named ones, and
a key name as reading gives it under them. -/
structure Code.Canonical (c : Code) : Prop where
  mods_lt : c.mods.bits.toNat < 16
  keyName : KeyName c.mods c.name

/-- A special key name that is its own canonical name is two or more letters
and digits. -/
theorem alnum_of_canonicalName {name : String} (h : canonicalName name = (name, true)) :
    2 ≤ name.length ∧ ∀ ch ∈ name.toList, ch.isAlphanum = true := by
  have h2 : (canonicalName name).2 = true := by rw [h]
  have h1 : (canonicalName name).1 = name := by rw [h]
  have hc : specialNames.contains (canonicalName name).1 = true := h2
  rw [h1] at hc
  exact specialNames_alnum (List.contains_iff_mem.1 hc)

/-! ## Reading a key -/

theorem readKey_keyName {m : Modifiers} {name : String} (h : KeyName m name) :
    readKey name m = .ok ⟨m, name⟩ := by
  rcases h with hs | ⟨ch, rfl, hsp, hctrl⟩
  · obtain ⟨hlen, halnum⟩ := alnum_of_canonicalName hs
    have hne : name.isEmpty = false := by
      rw [Bool.eq_false_iff, ne_eq, String.isEmpty_iff]
      rintro rfl
      exact absurd hlen (by decide)
    have hsp : name ≠ " " := by
      rintro rfl
      exact absurd hlen (by decide)
    have htrim : trimSpace name = name :=
      trimSpace_of_forall fun ch hch => isSpace_of_isAlphanum (halnum ch hch)
    simp [readKey, hne, hsp, htrim, hs]
  · have hch : ch ≠ ' ' := by
      rintro rfl
      simp [isSpace] at hsp
    have hne : (charName ch).isEmpty = false := by
      rw [Bool.eq_false_iff, ne_eq, String.isEmpty_iff, ← String.toList_inj]
      simp
    have hsp' : charName ch ≠ " " := by
      rw [ne_eq, ← String.toList_inj]
      simpa using hch
    have htrim : trimSpace (charName ch) = charName ch := trimSpace_of_forall (by simpa using hsp)
    simp only [readKey, hne, Bool.false_eq_true, if_false, if_neg hsp', htrim, canonicalName_charName hch,
      toList_charName, if_neg hch]
    split
    · next hc => rw [hctrl hc]
    · rfl

/-- The one-character names an alias stands for are names as reading gives
them, under any modifiers. -/
theorem keyName_of_alias {m : Modifiers} {n t : String} (h : aliases.lookup n = some t)
    (h1 : t.utf8ByteSize = 1) : KeyName m t := by
  obtain ⟨hplain, -, hspace⟩ := aliases_targets (mem_aliases_of_lookup h)
  obtain ⟨x, hx⟩ := exists_toList_eq_of_utf8ByteSize h1
  have hplain' := List.all_eq_true.1 hplain x (by simp [hx])
  simp only [Bool.or_eq_true, Bool.and_eq_true, decide_eq_true_eq] at hplain'
  have hlen : t.length = 1 := by rw [← String.length_toList, hx, List.length_singleton]
  refine .inr ⟨x, String.toList_inj.1 (by simp [hx]), hspace hlen x (by simp [hx]), fun _ => ?_⟩
  exact lowerChar_of_plain hplain'

theorem canonicalName_space : canonicalName "space" = ("space", true) := by
  rw [canonicalName_eq (lower_of_plainAscii (by decide)) (by decide),
    show specialNames.contains "space" = true by decide]

/-- What reading a key part gives is a key name under the modifiers read
before it. -/
theorem keyName_of_readKey {part : String} {m : Modifiers} {c : Code} (h : readKey part m = .ok c) :
    c.mods = m ∧ KeyName m c.name := by
  unfold readKey at h
  by_cases hempty : part.isEmpty = true
  · rw [if_pos hempty] at h
    cases h
  rw [if_neg hempty] at h
  dsimp only at h
  generalize hp : (if part = " " then part else trimSpace part) = part' at h
  -- a lone character that is not the space is, after trimming, no white space
  have hsp : ∀ ch, part'.toList = [ch] → ch ≠ ' ' → isSpace ch = false := by
    intro ch hch hne
    split_ifs at hp with h1
    · subst hp h1
      simp at hch
      exact absurd hch.symm hne
    · exact isSpace_of_trimSpace (hp ▸ hch)
  rcases hcn : canonicalName part' with ⟨name, _ | _⟩
  · rw [hcn] at h
    simp only at h
    split at h
    · next ch hch =>
      split_ifs at h with hsp' hctrl <;> (obtain rfl := Except.ok.inj h)
      · exact ⟨rfl, .inl canonicalName_space⟩
      · refine ⟨rfl, .inr ⟨lowerChar ch, rfl, ?_, fun _ => lowerChar_lowerChar ch⟩⟩
        rw [isSpace_lowerChar]
        exact hsp ch hch hsp'
      · exact ⟨rfl, .inr ⟨ch, rfl, hsp ch hch hsp', fun h' => absurd h' hctrl⟩⟩
    · next hnot =>
      split_ifs at h with h1
      obtain rfl := Except.ok.inj h
      refine ⟨rfl, ?_⟩
      have hname : name = (aliases.lookup (lower part')).getD (lower part') := (congrArg Prod.fst hcn).symm
      cases hlk : aliases.lookup (lower part') with
      | some t =>
        rw [hname, hlk] at h1 ⊢
        exact keyName_of_alias hlk h1
      | none =>
        -- lowering keeps the number of characters, and the part is not one
        rw [hname, hlk, Option.getD_none] at h1
        obtain ⟨x, hx⟩ := exists_toList_eq_of_utf8ByteSize h1
        rw [toList_lower, List.map_eq_singleton_iff] at hx
        obtain ⟨y, hy, -⟩ := hx
        exact absurd hy (hnot y)
  · rw [hcn] at h
    obtain rfl := Except.ok.inj h
    refine ⟨rfl, .inl ?_⟩
    have := canonicalName_canonical (n := part') (by rw [hcn])
    rwa [hcn] at this

/-! ## Reading a specification gives a canonical code -/

theorem canonical_of_readKey {part : String} {m : Modifiers} {c : Code} (hm : m.bits.toNat < 16)
    (h : readKey part m = .ok c) : c.Canonical := by
  obtain ⟨hmods, hname⟩ := keyName_of_readKey h
  exact ⟨hmods ▸ hm, hmods ▸ hname⟩

theorem canonical_of_readChord {ps : List String} {c : Code} (h : readChord ps = .ok c) : c.Canonical := by
  obtain ⟨ms, k, -, -, hk⟩ := readChord_eq_ok h
  exact canonical_of_readKey (Modifiers.bits_ofNames_lt ms) hk

theorem canonical_of_ofSpec {s : String} {c : Code} (h : Code.ofSpec? s = .ok c) : c.Canonical := by
  simp only [Code.ofSpec?] at h
  -- an empty specification is refused; every other one ends in a chord or a key
  split_ifs at h
  · exact canonical_of_readChord h
  · exact canonical_of_readKey (by decide) h
  · exact canonical_of_readChord h
  · exact canonical_of_readChord h
  · exact canonical_of_readKey (by decide) h

/-! ## Writing a chord -/

/-- The parts of a written chord: one or more modifier names, each spelt in
letters and digits and naming a modifier, then a key part that is not empty
and holds no white space. -/
structure ChordParts (ms : List String) (k : String) : Prop where
  mods_ne : ms ≠ []
  named : ∀ p ∈ ms, (Modifiers.ofName p).bits ≠ 0
  alnum : ∀ p ∈ ms, ∀ ch ∈ p.toList, ch.isAlphanum = true
  key_ne : k ≠ ""
  key_space : ∀ ch ∈ k.toList, isSpace ch = false

namespace ChordParts

variable {ms : List String} {k : String} (hp : ChordParts ms k)
include hp

theorem space_free (sep : Char) (hsep : isSpace sep = false) :
    ∀ ch ∈ ((String.singleton sep).intercalate (ms ++ [k])).toList, isSpace ch = false := by
  refine forall_mem_intercalate hsep fun p hp' => ?_
  rcases List.mem_append.1 hp' with hm | hk
  · exact fun ch hch => isSpace_of_isAlphanum (hp.alnum p hm ch hch)
  · rw [List.mem_singleton.1 hk]
    exact hp.key_space

theorem sep_not_mem (sep : Char) (hsep : sep.isAlphanum = false) : ∀ p ∈ ms, sep ∉ p.toList :=
  fun p hm hsp => ne_of_isAlphanum (hp.alnum p hm sep hsp) hsep rfl

/-- A written chord starts with a letter or digit, and its separator comes
after it. -/
theorem toList_eq (sep : Char) :
    ∃ x xs rest, ((String.singleton sep).intercalate (ms ++ [k])).toList = x :: (xs ++ sep :: rest) ∧
      x.isAlphanum = true := by
  obtain ⟨p, ms', rfl⟩ := List.exists_cons_of_ne_nil hp.mods_ne
  have hpne : p.toList ≠ [] := by
    intro h0
    have := hp.named p List.mem_cons_self
    rw [String.toList_eq_nil_iff.1 h0, Modifiers.ofName_empty] at this
    exact this rfl
  obtain ⟨x, xs, hx⟩ := List.exists_cons_of_ne_nil hpne
  refine ⟨x, xs, ((String.singleton sep).intercalate (ms' ++ [k])).toList, ?_,
    hp.alnum p List.mem_cons_self x (by simp [hx])⟩
  rw [List.cons_append, toList_intercalate_cons (by simp), hx, List.cons_append]

/-- A chord joined by `+` reads as its key under the union of its modifiers;
the key may be `+` itself. -/
theorem ofSpec_plus (hk : k = "+" ∨ '+' ∉ k.toList) :
    Code.ofSpec? ((String.singleton '+').intercalate (ms ++ [k])) = readKey k (Modifiers.ofNames ms) := by
  obtain ⟨x, xs, rest, hcs, hx⟩ := hp.toList_eq '+'
  have hsplit := splitChord_intercalate hp.mods_ne (hp.sep_not_mem '+' (by decide))
    (hk.imp id fun h => ⟨hp.key_ne, h⟩)
  have hlt : x ≠ '<' := ne_of_isAlphanum hx (by decide)
  have htrim := trimSpace_of_forall (hp.space_free '+' (by decide))
  simp only [Code.ofSpec?, htrim, hcs]
  rw [if_neg (by simp), if_neg (by simp [hlt]), if_neg (by simp), if_pos (by simp), hsplit,
    readChord_append k hp.mods_ne hp.named]

/-- A chord joined by `-` whose key holds no `+` reads as its key under the
union of its modifiers; the key may be `-` itself. -/
theorem ofSpec_minus (hplus : '+' ∉ k.toList) (hk : k = "-" ∨ '-' ∉ k.toList) :
    Code.ofSpec? ((String.singleton '-').intercalate (ms ++ [k])) = readKey k (Modifiers.ofNames ms) := by
  obtain ⟨x, xs, rest, hcs, hx⟩ := hp.toList_eq '-'
  have hsplit := splitChord_intercalate hp.mods_ne (hp.sep_not_mem '-' (by decide))
    (hk.imp id fun h => ⟨hp.key_ne, h⟩)
  have hlt : x ≠ '<' := ne_of_isAlphanum hx (by decide)
  -- no part holds a `+`, so the chord is read at its `-`
  have hnoplus : '+' ∉ xs ++ '-' :: rest := by
    have hall : ∀ ch ∈ ((String.singleton '-').intercalate (ms ++ [k])).toList, ch ≠ '+' :=
      forall_mem_intercalate (by decide) fun p hp' ch hch => by
        rcases List.mem_append.1 hp' with hm | hk'
        · exact ne_of_isAlphanum (hp.alnum p hm ch hch) (by decide)
        · rintro rfl
          exact hplus (List.mem_singleton.1 hk' ▸ hch)
    intro hmem
    exact hall '+' (hcs ▸ List.mem_cons_of_mem x hmem) rfl
  have htrim := trimSpace_of_forall (hp.space_free '-' (by decide))
  simp only [Code.ofSpec?, htrim, hcs]
  rw [if_neg (by simp), if_neg (by simp [hlt]), if_neg (by simp), if_neg (by simpa using hnoplus),
    if_pos (by simp), hsplit, readChord_append k hp.mods_ne hp.named]

/-- A chord in angle brackets reads as its key under the union of its
modifiers; the key may be `-` itself. -/
theorem ofSpec_angle (hk : k = "-" ∨ '-' ∉ k.toList) :
    Code.ofSpec? (String.singleton '<' ++ (String.singleton '-').intercalate (ms ++ [k]) ++ String.singleton '>') =
      readKey k (Modifiers.ofNames ms) := by
  obtain ⟨x, xs, rest, hcs, -⟩ := hp.toList_eq '-'
  have hsplit := splitChord_intercalate hp.mods_ne (hp.sep_not_mem '-' (by decide))
    (hk.imp id fun h => ⟨hp.key_ne, h⟩)
  have hspace : ∀ ch ∈ (String.singleton '<' ++ (String.singleton '-').intercalate (ms ++ [k]) ++
      String.singleton '>').toList, isSpace ch = false := by
    simp only [String.toList_append, String.toList_singleton, List.mem_append, List.mem_singleton]
    rintro ch ((rfl | hch) | rfl)
    · decide
    · exact hp.space_free '-' (by decide) ch hch
    · decide
  generalize hI : (String.singleton '-').intercalate (ms ++ [k]) = I at hcs hsplit hspace
  have hcs' : (String.singleton '<' ++ I ++ String.singleton '>').toList = '<' :: (I.toList ++ ['>']) := by
    simp only [String.toList_append, String.toList_singleton, List.cons_append, List.nil_append]
  have hbytes : (String.singleton '<' ++ I ++ String.singleton '>').utf8ByteSize = I.utf8ByteSize + 2 := by
    rw [String.utf8ByteSize_append, String.utf8ByteSize_append, String.utf8ByteSize_singleton,
      String.utf8ByteSize_singleton, show Char.utf8Size '<' = 1 by decide, show Char.utf8Size '>' = 1 by decide]
    omega
  have hsize : 0 < I.utf8ByteSize := by
    rw [Nat.pos_iff_ne_zero, ne_eq, String.utf8ByteSize_eq_zero_iff, ← String.toList_inj, hcs]
    simp
  have htake : ∀ cs : List Char, (('<' :: (cs ++ ['>'])).drop 1).take (('<' :: (cs ++ ['>'])).length - 2) = cs := by
    simp
  simp only [Code.ofSpec?, trimSpace_of_forall hspace, hcs', hbytes]
  rw [if_neg (by simp), if_pos ⟨by omega, rfl, by rw [← List.cons_append, List.getLast?_append]; rfl⟩, htake, String.ofList_toList, hsplit,
    readChord_append k hp.mods_ne hp.named]

end ChordParts

/-! ## Writing a code and reading it again -/

namespace Modifiers

def names (m : Modifiers) : List String := (named.filter fun p => m.has p.1).map (·.2)

/-- The four modifier names are lower-case letters, and each names its
modifier. -/
theorem named_check :
    (named.all fun q => plainAscii q.2 && q.2.toList.all Char.isAlphanum &&
      (spellings.lookup q.2).getD none == q.1 && q.1.bits != 0) = true := by
  decide +kernel

theorem ofName_named {q : Modifiers × String} (hq : q ∈ named) :
    ofName q.2 = q.1 ∧ ∀ ch ∈ q.2.toList, ch.isAlphanum = true := by
  have h := List.all_eq_true.1 named_check q hq
  simp only [Bool.and_eq_true, beq_iff_eq, List.all_eq_true] at h
  refine ⟨?_, h.1.1.2⟩
  rw [ofName, trimSpace_of_forall fun ch hch => isSpace_of_isAlphanum (h.1.1.2 ch hch),
    lower_of_plainAscii h.1.1.1]
  exact h.1.2

theorem forall_lt_sixteen {P : Modifiers → Prop} (h : ∀ i : Fin 16, P ⟨UInt8.ofNat i⟩) {m : Modifiers}
    (hm : m.bits.toNat < 16) : P m := by
  have := h ⟨m.bits.toNat, hm⟩
  simpa [UInt8.ofNat_toNat] using this

theorem ofNames_names {m : Modifiers} (hm : m.bits.toNat < 16) : ofNames m.names = m := by
  have hfold : ofNames m.names = (named.filter fun p => m.has p.1).foldl (fun a q => a.union q.1) none := by
    rw [ofNames, names, List.foldl_map]
    refine List.foldl_ext _ _ _ fun a q hq => ?_
    rw [(ofName_named (List.mem_of_mem_filter hq)).1]
  rw [hfold]
  exact forall_lt_sixteen (P := fun m => (named.filter fun p => m.has p.1).foldl (fun a q => a.union q.1) none = m)
    (by decide) hm

theorem names_ne_nil {m : Modifiers} (hm : m.bits.toNat < 16) (h0 : m.bits ≠ 0) : m.names ≠ [] :=
  forall_lt_sixteen (P := fun m => m.bits ≠ 0 → m.names ≠ []) (by decide) hm h0

end Modifiers

/-- The names of a set of modifiers, then a key part, are the parts of a
written chord. -/
theorem chordParts_names {m : Modifiers} {k : String} (hm : m.bits.toNat < 16) (h0 : m.bits ≠ 0) (hk : k ≠ "")
    (hks : ∀ ch ∈ k.toList, isSpace ch = false) : ChordParts m.names k where
  mods_ne := Modifiers.names_ne_nil hm h0
  named p hp := by
    obtain ⟨q, hq, rfl⟩ := List.mem_map.1 hp
    have hq' := List.mem_of_mem_filter hq
    rw [(Modifiers.ofName_named hq').1]
    have := List.all_eq_true.1 Modifiers.named_check q hq'
    simp only [Bool.and_eq_true, bne_iff_ne] at this
    exact this.2
  alnum p hp := by
    obtain ⟨q, hq, rfl⟩ := List.mem_map.1 hp
    exact (Modifiers.ofName_named (List.mem_of_mem_filter hq)).2
  key_ne := hk
  key_space := hks

/-- A key name is a key part of a written chord, and holds `+` only as the
plus key itself. -/
theorem KeyName.part {m : Modifiers} {name : String} (h : KeyName m name) :
    name ≠ "" ∧ (∀ ch ∈ name.toList, isSpace ch = false) ∧ (name = "+" ∨ '+' ∉ name.toList) := by
  rcases h with hs | ⟨ch, rfl, hsp, -⟩
  · obtain ⟨hlen, halnum⟩ := alnum_of_canonicalName hs
    refine ⟨fun h0 => absurd hlen (by simp [h0]), fun ch hch => isSpace_of_isAlphanum (halnum ch hch),
      .inr fun hp => ne_of_isAlphanum (halnum '+' hp) (by decide) rfl⟩
  · refine ⟨fun h0 => by simpa using congrArg String.toList h0, by simpa using hsp, ?_⟩
    by_cases hp : ch = '+'
    · exact .inl (hp ▸ rfl)
    · exact .inr (by simpa using Ne.symm hp)

theorem ofSpec_keyName {name : String} (h : KeyName .none name) : Code.ofSpec? name = .ok ⟨.none, name⟩ := by
  rcases h with hs | ⟨ch, rfl, hsp, -⟩
  · -- a special name is two or more letters and digits, so it is read as a key
    obtain ⟨hlen, halnum⟩ := alnum_of_canonicalName hs
    obtain ⟨x, y, rest, hxs⟩ : ∃ x y rest, name.toList = x :: y :: rest := by
      rw [← String.length_toList] at hlen
      match hn : name.toList, hlen with
      | x :: y :: rest, _ => exact ⟨x, y, rest, rfl⟩
    have hsep : ∀ c : Char, c.isAlphanum = false → c ∉ y :: rest :=
      fun c hc hmem => ne_of_isAlphanum (halnum c (by simp [hxs, hmem])) hc rfl
    have hlt : x ≠ '<' := ne_of_isAlphanum (halnum x (by simp [hxs])) (by decide)
    have htrim := trimSpace_of_forall fun ch hch => isSpace_of_isAlphanum (halnum ch hch)
    simp only [Code.ofSpec?, htrim, hxs]
    rw [if_neg (by simp), if_neg (by simp [hlt]), if_neg (by simp), if_neg (by simpa using hsep '+' (by decide)),
      if_neg (by simpa using hsep '-' (by decide)), readKey_keyName (.inl hs)]
  · -- one character is read as itself
    have htrim : trimSpace (charName ch) = charName ch := trimSpace_of_forall (by simpa using hsp)
    have hangle : ¬ (ch = '<' ∧ ch = '>') := fun h => absurd (h.1.symm.trans h.2) (by decide)
    simp only [Code.ofSpec?, htrim, toList_charName]
    rw [if_neg (by simp), if_neg (by simpa using fun _ => hangle), if_pos List.length_singleton,
      readKey_keyName (.inr ⟨ch, rfl, hsp, fun h => absurd h (by decide)⟩)]

/-- A special key name in plain lower case that is no alias reads as itself;
this spares evaluating the case tables on it. -/
theorem ofSpec_special (name : String) (hp : plainAscii name = true) (ha : aliases.lookup name = none)
    (hs : specialNames.contains name = true) : Code.ofSpec? name = .ok ⟨.none, name⟩ :=
  ofSpec_keyName (.inl (by rw [canonicalName_eq (lower_of_plainAscii hp) ha, hs]))

theorem ofSpec_render {c : Code} (hc : c.Canonical) : Code.ofSpec? c.render = .ok c := by
  obtain ⟨mods, name⟩ := c
  obtain ⟨hm, hname⟩ := hc
  by_cases h0 : mods.bits = 0
  · -- no modifiers: the name alone
    obtain rfl : mods = .none := by
      cases mods
      simp_all [Modifiers.none]
    rw [Code.render, if_pos h0]
    exact ofSpec_keyName hname
  · -- the names of the modifiers, then the key, joined by `+`
    obtain ⟨hk, hks, hplus⟩ := hname.part
    have hr : mods.render ++ "+" ++ name = (String.singleton '+').intercalate (mods.names ++ [name]) := by
      rw [String.intercalate_append_of_ne_nil (Modifiers.names_ne_nil hm h0) (List.cons_ne_nil _ _),
        String.intercalate_singleton]
      rfl
    rw [Code.render, if_neg h0, hr, (chordParts_names hm h0 hk hks).ofSpec_plus hplus,
      Modifiers.ofNames_names hm, readKey_keyName hname]

/-- Two specifications name the same key exactly when both are accepted and
read to the same code: comparing written codes is comparing codes. -/
theorem sameKey_iff {a b : String} :
    sameKey a b = true ↔ ∃ c, Code.ofSpec? a = .ok c ∧ Code.ofSpec? b = .ok c := by
  unfold sameKey
  constructor
  · intro h
    split at h
    · next x y hx hy =>
      have hr : x.render = y.render := by simpa using h
      have hxy : (Except.ok x : Except SpecError Code) = .ok y := by
        rw [← ofSpec_render (canonical_of_ofSpec hx), ← ofSpec_render (canonical_of_ofSpec hy), hr]
      exact ⟨x, hx, hy.trans hxy.symm⟩
    · cases h
  · rintro ⟨c, ha, hb⟩
    rw [ha, hb]
    simp

theorem readKey_lower_congr {k k' : String} {m : Modifiers} (h : lower k = lower k')
    (hs : isSpecial (trimSpace k) = true) : readKey k m = readKey k' m := by
  have hcn : canonicalName (trimSpace k) = canonicalName (trimSpace k') :=
    canonicalName_congr (by rw [lower_trimSpace, lower_trimSpace, h])
  -- neither part is empty or the lone space, whose trimmed form names nothing
  have hblank : ∀ {n : String}, trimSpace n = "" → isSpecial (trimSpace n) = false := by
    intro n hn
    rw [hn, isSpecial, canonicalName_eq (lower_of_plainAscii (by decide)) (by decide), Bool.eq_false_iff]
    intro hc
    have hc' : specialNames.contains "" = true := hc
    exact absurd (specialNames_alnum (List.contains_iff_mem.1 hc')).1 (by decide)
  have hs' : isSpecial (trimSpace k') = true := by rwa [isSpecial, ← hcn]
  have hlen : k.toList.length = k'.toList.length := by
    rw [← List.length_map (f := lowerChar), ← toList_lower, h, toList_lower, List.length_map]
  have hfacts : ∀ {n : String}, isSpecial (trimSpace n) = true → n.isEmpty = false ∧ n ≠ " " := by
    intro n hn
    refine ⟨?_, fun hsp => ?_⟩
    · rw [Bool.eq_false_iff, ne_eq, String.isEmpty_iff]
      rintro rfl
      rw [hblank (trimSpace_of_forall (by simp))] at hn
      cases hn
    · rw [hsp, hblank (by decide)] at hn
      cases hn
  obtain ⟨hk, hksp⟩ := hfacts hs
  obtain ⟨hk', hksp'⟩ := hfacts hs'
  obtain ⟨n, hn⟩ : ∃ n, canonicalName (trimSpace k) = (n, true) := ⟨_, Prod.ext rfl hs⟩
  simp only [readKey, hk, hk', Bool.false_eq_true, if_false, if_neg hksp, if_neg hksp', ← hcn, hn]

/-! ## Key specifications normalise -/

/-- Key specifications read to a canonical form.  A specification that is
accepted reads to a canonical code, and writing that code and reading it again
gives the same code, so two accepted specifications name the same key exactly
when they read to the same code.  A chord reads as its key under the union of
its modifiers whichever way it is written, `+`, `-` or angle brackets, and an
accepted chord is read in no other way; the union depends only on which
modifiers are named, whatever their order, repetition or case; and a special
key name is read whatever its case. -/
theorem key_specs_normalise :
    (∀ s c, Code.ofSpec? s = .ok c → c.Canonical ∧ Code.ofSpec? c.render = .ok c) ∧
    (∀ a b, sameKey a b = true ↔ ∃ c, Code.ofSpec? a = .ok c ∧ Code.ofSpec? b = .ok c) ∧
    (∀ ms k, ChordParts ms k →
      ((k = "+" ∨ '+' ∉ k.toList) →
        Code.ofSpec? ("+".intercalate (ms ++ [k])) = readKey k (Modifiers.ofNames ms)) ∧
      ('+' ∉ k.toList → (k = "-" ∨ '-' ∉ k.toList) →
        Code.ofSpec? ("-".intercalate (ms ++ [k])) = readKey k (Modifiers.ofNames ms)) ∧
      ((k = "-" ∨ '-' ∉ k.toList) →
        Code.ofSpec? ("<" ++ "-".intercalate (ms ++ [k]) ++ ">") = readKey k (Modifiers.ofNames ms))) ∧
    (∀ ps c, readChord ps = .ok c → ∃ ms k, ps = ms ++ [k] ∧ (∀ p ∈ ms, (Modifiers.ofName p).bits ≠ 0) ∧
      c.mods = Modifiers.ofNames ms ∧ readKey k (Modifiers.ofNames ms) = .ok c) ∧
    (∀ ms ms', (∀ p ∈ ms, ∃ q ∈ ms', lower q = lower p) → (∀ q ∈ ms', ∃ p ∈ ms, lower p = lower q) →
      Modifiers.ofNames ms = Modifiers.ofNames ms') ∧
    (∀ k k' m, lower k = lower k' → isSpecial (trimSpace k) = true → readKey k m = readKey k' m) := by
  refine ⟨fun s c h => ⟨canonical_of_ofSpec h, ofSpec_render (canonical_of_ofSpec h)⟩,
    fun a b => sameKey_iff, fun ms k hp => ⟨hp.ofSpec_plus, hp.ofSpec_minus, hp.ofSpec_angle⟩,
    fun ps c h => ?_, fun ms ms' h h' => ?_, fun k k' m h hs => readKey_lower_congr h hs⟩
  · -- an accepted chord holds the union of its modifiers
    obtain ⟨ms, k, hps, hms, hk⟩ := readChord_eq_ok h
    exact ⟨ms, k, hps, hms, (keyName_of_readKey hk).1, hk⟩
  · -- names that agree in lower case name one modifier
    exact Modifiers.ofNames_congr
      (fun p hp => (h p hp).imp fun q hq => ⟨hq.1, Modifiers.ofName_congr hq.2⟩)
      (fun q hq => (h' q hq).imp fun p hp => ⟨hp.1, Modifiers.ofName_congr hp.2⟩)

/-- Control with `p`, written in angle brackets and with `+` and a capital. -/
example : Code.ofSpec? "<C-p>" = Code.ofSpec? "ctrl+P" := by
  decide +kernel

end MudClient.Key
