/-
# Paths as places

`Path.clean` reads the parts of a path as a stack.  What is left on the
stack (`Path.kept`), with whether the path is absolute, is the place the
path names: a run of `..` that climbs out of where the path is read, then
plain names, and no climbing at all for an absolute path (`Tidy`).  A clean
path is that place written back (`render`), and writing a place back and
reading it again gives the same place, so cleaning twice changes nothing
(`clean_clean`).

The other functions read through places too.  A path is local when it is
relative, not empty, and keeps no `..` (`isLocal_iff`); joining a local
path below a directory adds its parts to the directory's (`kept_append`);
and a path lies within a directory when its place is the directory's
followed by parts that do not climb (`within_iff`).
-/
import Mathlib.Data.List.TakeWhile
import MudClient.Text.Path

namespace MudClient.Path

def kept (p : String) : List String := ((parts p).foldl (pushPart (isAbs p)) []).reverse

def render (rooted : Bool) (ks : List String) : String :=
  let body := "/".intercalate ks
  if rooted then "/" ++ body else if body.isEmpty then "." else body

/-- A part that names an entry of a directory: not empty, not `.` or `..`,
and without a slash. -/
def Plain (x : String) : Prop := x ≠ "" ∧ x ≠ "." ∧ x ≠ ".." ∧ '/' ∉ x.toList

/-- The parts a clean path keeps: some `..` that climb out, then plain
names; an absolute path climbs nowhere. -/
def Tidy (rooted : Bool) (ks : List String) : Prop :=
  ∃ k ns, ks = List.replicate k ".." ++ ns ∧ (∀ x ∈ ns, Plain x) ∧ (rooted = true → k = 0)

theorem clean_eq_render (p : String) : clean p = if p.isEmpty then "." else render (isAbs p) (kept p) := rfl

theorem isAbs_iff {p : String} : isAbs p = true ↔ ['/'] <+: p.toList := by
  simp [isAbs]

/-! ## Parts -/

theorem slash_not_mem_of_mem_splitOn {cs l : List Char} (h : l ∈ cs.splitOn '/') : '/' ∉ l := by
  induction cs generalizing l with
  | nil => simp_all
  | cons c cs ih =>
    rw [List.splitOn_cons_eq_if_modifyHead] at h
    obtain ⟨first, rest, hsplit⟩ := List.exists_cons_of_ne_nil (List.splitOn_ne_nil '/' cs)
    split at h
    · rcases List.mem_cons.1 h with rfl | h
      · simp
      · exact ih h
    · rename_i hc
      rw [hsplit, List.modifyHead_cons] at h
      rcases List.mem_cons.1 h with rfl | h
      · have hfirst : '/' ∉ first := ih (by rw [hsplit]; exact List.mem_cons_self)
        simp only [List.mem_cons, not_or]
        exact ⟨fun h => hc (by simp [← h]), hfirst⟩
      · exact ih (by rw [hsplit]; exact List.mem_cons_of_mem _ h)

theorem slash_not_mem_of_mem_parts {p x : String} (h : x ∈ parts p) : '/' ∉ x.toList := by
  obtain ⟨l, hl, rfl⟩ := List.mem_map.1 h
  simpa using slash_not_mem_of_mem_splitOn hl

theorem parts_empty : parts "" = [""] := rfl

theorem parts_append (a b : String) : parts (a ++ "/" ++ b) = parts a ++ parts b := by
  simp [parts, List.splitOn_append_cons_self]

theorem parts_intercalate {ps : List String} (hne : ps ≠ []) (h : ∀ x ∈ ps, '/' ∉ x.toList) :
    parts ("/".intercalate ps) = ps := by
  have hsep : "/".toList = ['/'] := rfl
  rw [parts, String.toList_intercalate, hsep,
    List.splitOn_intercalate '/' (by simpa using h) (by simpa using hne), List.map_map]
  simp [Function.comp_def]

/-! ## One push -/

theorem part_cases (x : String) : (x = "" ∨ x = ".") ∨ x = ".." ∨ (x ≠ "" ∧ x ≠ "." ∧ x ≠ "..") := by
  by_cases h1 : x = "" <;> by_cases h2 : x = "." <;> by_cases h3 : x = ".." <;> simp_all

theorem pushPart_skip {r : Bool} {acc : List String} {x : String} (hx : x = "" ∨ x = ".") :
    pushPart r acc x = acc := by
  rcases hx with rfl | rfl <;> rfl

theorem pushPart_up_nil (r : Bool) : pushPart r [] ".." = if r then [] else [".."] := rfl

theorem pushPart_up_cons (r : Bool) (top : String) (rest : List String) :
    pushPart r (top :: rest) ".." = if top = ".." then ".." :: top :: rest else rest := by
  simp [pushPart]

theorem pushPart_name {r : Bool} {acc : List String} {x : String} (hx : x ≠ "" ∧ x ≠ "." ∧ x ≠ "..") :
    pushPart r acc x = x :: acc := by
  simp [pushPart, hx.1, hx.2.1, hx.2.2]

theorem dots_mem_pushPart {r : Bool} {acc : List String} (h : ".." ∈ acc) (x : String) :
    ".." ∈ pushPart r acc x := by
  rcases part_cases x with hx | rfl | hx
  · rwa [pushPart_skip hx]
  · cases acc with
    | nil => simp at h
    | cons top rest =>
      rw [pushPart_up_cons]
      split
      · exact List.mem_cons_of_mem _ h
      · rename_i htop
        rcases List.mem_cons.1 h with h | h
        · exact absurd h.symm htop
        · exact h
  · rw [pushPart_name hx]
    exact List.mem_cons_of_mem _ h

theorem dots_mem_foldl {r : Bool} {acc : List String} (h : ".." ∈ acc) (ps : List String) :
    ".." ∈ ps.foldl (pushPart r) acc := by
  induction ps generalizing acc with
  | nil => exact h
  | cons x ps ih => exact ih (dots_mem_pushPart h x)

/-- Parts that never climb below where they start are read the same over
any stack: the stack below is left as it is, whether the path is absolute
or not. -/
theorem foldl_pushPart_append {r : Bool} {ps O : List String} (S : List String)
    (hdots : ".." ∉ ps.foldl (pushPart false) O) :
    ps.foldl (pushPart r) (O ++ S) = ps.foldl (pushPart false) O ++ S := by
  induction ps generalizing O with
  | nil => rfl
  | cons x ps ih =>
    simp only [List.foldl_cons] at hdots ⊢
    have hstep : pushPart r (O ++ S) x = pushPart false O x ++ S := by
      rcases part_cases x with hx | rfl | hx
      · rw [pushPart_skip hx, pushPart_skip hx]
      · cases O with
        | nil =>
          -- climbing out of the parts read so far leaves a `..` that stays
          exact absurd (dots_mem_foldl (by simp [pushPart_up_nil]) ps) hdots
        | cons top rest =>
          rw [List.cons_append, pushPart_up_cons, pushPart_up_cons]
          split <;> simp
      · rw [pushPart_name hx, pushPart_name hx, List.cons_append]
    rw [hstep]
    exact ih hdots

/-! ## Tidy parts -/

theorem tidy_pushPart {r : Bool} {acc : List String} {x : String} (h : Tidy r acc.reverse)
    (hx : '/' ∉ x.toList) : Tidy r (pushPart r acc x).reverse := by
  obtain ⟨k, ns, hks, hns, hr⟩ := h
  have hacc : acc = ns.reverse ++ List.replicate k ".." := by
    rw [← List.reverse_reverse acc, hks]
    simp
  have hms : ∀ y ∈ ns.reverse, Plain y := fun y hy => hns y (List.mem_reverse.1 hy)
  rw [hacc]
  generalize ns.reverse = ms at hms
  rcases part_cases x with hskip | rfl | hname
  · rw [pushPart_skip hskip]
    exact ⟨k, ms.reverse, by simp, fun y hy => hms y (List.mem_reverse.1 hy), hr⟩
  · cases ms with
    | cons top ms =>
      -- the top is a name, which `..` takes back
      have htop : top ≠ ".." := (hms top List.mem_cons_self).2.2.1
      rw [List.cons_append, pushPart_up_cons, if_neg htop]
      exact ⟨k, ms.reverse, by simp, fun y hy => hms y (List.mem_cons_of_mem _ (List.mem_reverse.1 hy)), hr⟩
    | nil =>
      cases k with
      | zero =>
        cases r with
        | false => exact ⟨1, [], rfl, by simp, by simp⟩
        | true => exact ⟨0, [], rfl, by simp, by simp⟩
      | succ j =>
        have hr' : r = false := by cases r <;> simp_all
        subst hr'
        rw [List.nil_append, List.replicate_succ, pushPart_up_cons, if_pos rfl]
        refine ⟨j + 2, [], ?_, by simp, by simp⟩
        rw [List.reverse_cons, List.reverse_cons, List.reverse_replicate, List.append_nil,
          List.append_assoc, List.singleton_append]
        exact (List.replicate_append_replicate (n := j) (m := 2)).trans rfl
  · rw [pushPart_name hname]
    refine ⟨k, ms.reverse ++ [x], by simp, ?_, hr⟩
    intro y hy
    rcases List.mem_append.1 hy with hy | hy
    · exact hms y (List.mem_reverse.1 hy)
    · rw [List.mem_singleton.1 hy]
      exact ⟨hname.1, hname.2.1, hname.2.2, hx⟩

theorem tidy_foldl {r : Bool} {acc ps : List String} (h : Tidy r acc.reverse)
    (hps : ∀ x ∈ ps, '/' ∉ x.toList) : Tidy r (ps.foldl (pushPart r) acc).reverse := by
  induction ps generalizing acc with
  | nil => exact h
  | cons x ps ih =>
    exact ih (tidy_pushPart h (hps x List.mem_cons_self)) fun y hy => hps y (List.mem_cons_of_mem _ hy)

theorem kept_tidy (p : String) : Tidy (isAbs p) (kept p) :=
  tidy_foldl ⟨0, [], rfl, by simp, by simp⟩ fun _ hx => slash_not_mem_of_mem_parts hx

theorem Tidy.mem {r : Bool} {ks : List String} (h : Tidy r ks) {x : String} (hx : x ∈ ks) :
    x ≠ "" ∧ x ≠ "." ∧ '/' ∉ x.toList := by
  obtain ⟨k, ns, rfl, hns, -⟩ := h
  rcases List.mem_append.1 hx with hx | hx
  · rw [List.eq_of_mem_replicate hx]
    exact ⟨by decide, by decide, by decide⟩
  · exact ⟨(hns x hx).1, (hns x hx).2.1, (hns x hx).2.2.2⟩

theorem foldl_pushPart_plain {r : Bool} {ns : List String} (hns : ∀ x ∈ ns, Plain x) (acc : List String) :
    ns.foldl (pushPart r) acc = ns.reverse ++ acc := by
  induction ns generalizing acc with
  | nil => rfl
  | cons x ns ih =>
    have hx := hns x List.mem_cons_self
    rw [List.foldl_cons, pushPart_name ⟨hx.1, hx.2.1, hx.2.2.1⟩,
      ih (fun y hy => hns y (List.mem_cons_of_mem _ hy))]
    simp

theorem foldl_pushPart_dots (j k : Nat) :
    (List.replicate k "..").foldl (pushPart false) (List.replicate j "..") = List.replicate (j + k) ".." := by
  induction k generalizing j with
  | zero => rfl
  | succ k ih =>
    have hstep : pushPart false (List.replicate j "..") ".." = List.replicate (j + 1) ".." := by
      cases j with
      | zero => rfl
      | succ i => simp [List.replicate_succ, pushPart_up_cons]
    rw [List.replicate_succ, List.foldl_cons, hstep, ih]
    congr 1
    omega

theorem foldl_pushPart_tidy {r : Bool} {ks : List String} (h : Tidy r ks) :
    ks.foldl (pushPart r) [] = ks.reverse := by
  obtain ⟨k, ns, rfl, hns, hr⟩ := h
  have hdots : (List.replicate k "..").foldl (pushPart r) [] = List.replicate k ".." := by
    cases r with
    | false => simpa using foldl_pushPart_dots 0 k
    | true => rw [hr rfl]; rfl
  rw [List.foldl_append, hdots, foldl_pushPart_plain hns]
  simp

/-! ## Writing a place back -/

theorem toList_intercalate_head (x : String) (xs : List String) :
    ∃ t, ("/".intercalate (x :: xs)).toList = x.toList ++ t := by
  cases xs with
  | nil => exact ⟨[], by simp⟩
  | cons y ys =>
    refine ⟨'/' :: ("/".intercalate (y :: ys)).toList, ?_⟩
    rw [String.intercalate_cons_of_ne_nil (List.cons_ne_nil y ys)]
    simp

/-- Relative parts that start with a part that is not empty are written as
they are joined. -/
theorem render_false_cons {x : String} {xs : List String} (hx : x ≠ "") :
    render false (x :: xs) = "/".intercalate (x :: xs) := by
  obtain ⟨t, ht⟩ := toList_intercalate_head x xs
  have hne : ("/".intercalate (x :: xs)).isEmpty = false := by
    rw [Bool.eq_false_iff, ne_eq, String.isEmpty_iff]
    intro he
    have hnil : x.toList ++ t = [] := by rw [← ht, he]; rfl
    exact hx (String.toList_eq_nil_iff.1 (List.append_eq_nil_iff.1 hnil).1)
  simp [render, hne]

theorem isAbs_render {r : Bool} {ks : List String} (h : Tidy r ks) : isAbs (render r ks) = r := by
  cases r with
  | true => simp [render, isAbs]
  | false =>
    cases ks with
    | nil => simp [render, isAbs]
    | cons x xs =>
      rw [render_false_cons (h.mem List.mem_cons_self).1, Bool.eq_false_iff, ne_eq, isAbs_iff]
      obtain ⟨t, ht⟩ := toList_intercalate_head x xs
      obtain ⟨hx, -, hslash⟩ := h.mem List.mem_cons_self
      rw [ht]
      -- the first character is the first of a part, which holds no slash
      match hc : x.toList with
      | [] => simp_all
      | c :: cs =>
        intro hpre
        have : c = '/' := by simpa using (List.cons_prefix_cons.1 hpre).1.symm
        exact hslash (by rw [hc, this]; exact List.mem_cons_self)

theorem parts_render {r : Bool} {ks : List String} (h : Tidy r ks) (hne : ks ≠ []) :
    parts (render r ks) = if r then "" :: ks else ks := by
  have hparts : parts ("/".intercalate ks) = ks := parts_intercalate hne fun x hx => (h.mem hx).2.2
  cases r with
  | true =>
    have hroot : render true ks = "" ++ "/" ++ "/".intercalate ks := by simp [render]
    rw [hroot, parts_append, hparts]
    rfl
  | false =>
    obtain ⟨x, xs, rfl⟩ := List.exists_cons_of_ne_nil hne
    rw [render_false_cons (h.mem List.mem_cons_self).1, hparts]
    rfl

theorem kept_render {r : Bool} {ks : List String} (h : Tidy r ks) : kept (render r ks) = ks := by
  unfold kept
  rw [isAbs_render h]
  cases ks with
  | nil => cases r <;> rfl
  | cons x xs =>
    rw [parts_render h (List.cons_ne_nil x xs)]
    cases r with
    | true => rw [if_pos rfl, List.foldl_cons, pushPart_skip (.inl rfl), foldl_pushPart_tidy h, List.reverse_reverse]
    | false => rw [if_neg Bool.false_ne_true, foldl_pushPart_tidy h, List.reverse_reverse]

theorem render_ne_empty (r : Bool) (ks : List String) : render r ks ≠ "" := by
  unfold render
  dsimp only
  split
  · simp
  · split
    · simp
    · rename_i hbody
      simpa using hbody

theorem clean_eq (p : String) : clean p = render (isAbs p) (kept p) := by
  rw [clean_eq_render]
  split
  · rename_i hp
    rw [String.isEmpty_iff.1 hp]
    rfl
  · rfl

theorem clean_render {r : Bool} {ks : List String} (h : Tidy r ks) : clean (render r ks) = render r ks := by
  rw [clean_eq, isAbs_render h, kept_render h]

@[simp] theorem kept_clean (p : String) : kept (clean p) = kept p := by
  rw [clean_eq, kept_render (kept_tidy p)]

@[simp] theorem isAbs_clean (p : String) : isAbs (clean p) = isAbs p := by
  rw [clean_eq, isAbs_render (kept_tidy p)]

theorem clean_clean (p : String) : clean (clean p) = clean p := by
  rw [clean_eq p, clean_render (kept_tidy p)]

theorem render_inj {r₁ r₂ : Bool} {ks₁ ks₂ : List String} (h₁ : Tidy r₁ ks₁) (h₂ : Tidy r₂ ks₂) :
    render r₁ ks₁ = render r₂ ks₂ ↔ r₁ = r₂ ∧ ks₁ = ks₂ := by
  constructor
  · intro h
    exact ⟨(isAbs_render h₁).symm.trans (h ▸ isAbs_render h₂),
      (kept_render h₁).symm.trans (h ▸ kept_render h₂)⟩
  · rintro ⟨rfl, rfl⟩
    rfl

/-! ## Local paths -/

theorem mem_pushPart {r : Bool} {acc : List String} {x y : String} (h : y ∈ pushPart r acc x) :
    y ∈ acc ∨ y = x := by
  rcases part_cases x with hx | rfl | hx
  · rw [pushPart_skip hx] at h
    exact .inl h
  · cases acc with
    | nil =>
      rw [pushPart_up_nil] at h
      split at h <;> simp_all
    | cons top rest =>
      rw [pushPart_up_cons] at h
      split at h
      · rcases List.mem_cons.1 h with h | h
        · exact .inr h
        · exact .inl h
      · exact .inl (List.mem_cons_of_mem _ h)
  · rw [pushPart_name hx] at h
    rcases List.mem_cons.1 h with h | h
    · exact .inr h
    · exact .inl h

theorem mem_foldl_pushPart {r : Bool} {acc ps : List String} {y : String}
    (h : y ∈ ps.foldl (pushPart r) acc) : y ∈ acc ∨ y ∈ ps := by
  induction ps generalizing acc with
  | nil => exact .inl h
  | cons x ps ih =>
    rcases ih h with h | h
    · rcases mem_pushPart h with h | rfl
      · exact .inl h
      · exact .inr List.mem_cons_self
    · exact .inr (List.mem_cons_of_mem _ h)

theorem mem_parts_of_mem_kept {p y : String} (h : y ∈ kept p) : y ∈ parts p := by
  rcases mem_foldl_pushPart (List.mem_reverse.1 h) with h | h
  · simp at h
  · exact h

theorem head_parts_of_climbs {c : String} (h : (c == ".." || c.startsWith "../") = true) :
    (parts c).head? = some ".." := by
  rcases Bool.or_eq_true_iff.1 h with h | h
  · rw [beq_iff_eq.1 h]
    rfl
  · obtain ⟨t, ht⟩ := String.startsWith_string_iff.1 h
    have hsplit : c.toList = ['.', '.'] ++ '/' :: t := by
      rw [← ht]
      rfl
    simp only [parts, hsplit, List.splitOn_append_cons_self_of_not_mem (by decide : '/' ∉ ['.', '.'])]
    rfl

theorem climbs_render {ks : List String} (h : Tidy false ks) :
    (render false ks == ".." || (render false ks).startsWith "../") = true ↔ ".." ∈ ks := by
  constructor
  · intro hc
    have hhead := head_parts_of_climbs hc
    cases ks with
    | nil => exact absurd hhead (by decide)
    | cons x xs =>
      rw [parts_render h (List.cons_ne_nil x xs), if_neg Bool.false_ne_true] at hhead
      simp only [List.head?_cons, Option.some.injEq] at hhead
      rw [hhead]
      exact List.mem_cons_self
  · intro hdots
    obtain ⟨k, ns, rfl, hns, -⟩ := h
    -- the names hold no `..`, so the parts start with one
    cases k with
    | zero =>
      have := (hns ".." (by simpa using hdots)).2.2.1
      exact absurd rfl this
    | succ j =>
      have hks : List.replicate (j + 1) ".." ++ ns = ".." :: (List.replicate j ".." ++ ns) := rfl
      have htidy : Tidy false (".." :: (List.replicate j ".." ++ ns)) := ⟨j + 1, ns, rfl, hns, by simp⟩
      rw [hks, render_false_cons (htidy.mem List.mem_cons_self).1]
      cases hrest : List.replicate j ".." ++ ns with
      | nil => simp
      | cons y ys =>
        rw [String.intercalate_cons_of_ne_nil (List.cons_ne_nil y ys)]
        apply Bool.or_eq_true_iff.2
        right
        apply String.startsWith_string_iff.2
        simp

/-- A path is local exactly when it is relative, not empty, and keeps no
`..`. -/
theorem isLocal_iff {p : String} : isLocal p = true ↔ isAbs p = false ∧ p ≠ "" ∧ ".." ∉ kept p := by
  unfold isLocal
  by_cases ha : isAbs p = true
  · simp [ha]
  by_cases he : p = ""
  · simp [he]
  have ha' : isAbs p = false := by simpa using ha
  rw [if_neg (by simp [ha', he])]
  simp only [ha', he, ne_eq, not_false_eq_true, true_and]
  split
  · -- a `.` or `..` part: the path is read cleaned
    rw [clean_eq, ha', Bool.not_eq_true', Bool.eq_false_iff, ne_eq, climbs_render (ha' ▸ kept_tidy p)]
  · -- no `.` or `..` part: the path is read as it is and keeps no `..`
    rename_i hany
    have hno : ∀ q ∈ parts p, q ≠ ".." := fun q hq hq' => hany (List.any_eq_true.2 ⟨q, hq, by simp [hq']⟩)
    have hclimb : (p == ".." || p.startsWith "../") = false := by
      rw [Bool.eq_false_iff]
      intro hc
      exact hno ".." (List.mem_of_mem_head? (head_parts_of_climbs hc)) rfl
    simp only [hclimb, Bool.not_false, true_iff]
    exact fun hk => hno ".." (mem_parts_of_mem_kept hk) rfl

theorem isAbs_append {a : String} (ha : a ≠ "") (b : String) : isAbs (a ++ "/" ++ b) = isAbs a := by
  obtain ⟨c, cs, hc⟩ := List.exists_cons_of_ne_nil (mt String.toList_eq_nil_iff.1 ha)
  rw [Bool.eq_iff_iff, isAbs_iff, isAbs_iff]
  simp [hc]

theorem kept_append {a b : String} (ha : a ≠ "") (hb : isLocal b = true) :
    kept (a ++ "/" ++ b) = kept a ++ kept b := by
  obtain ⟨hrel, -, hdots⟩ := isLocal_iff.1 hb
  have hdots' : ".." ∉ (parts b).foldl (pushPart false) [] := by
    rw [kept, hrel] at hdots
    simpa using hdots
  unfold kept
  rw [isAbs_append ha, parts_append, List.foldl_append,
    ← List.nil_append ((parts a).foldl (pushPart (isAbs a)) []), foldl_pushPart_append _ hdots', hrel]
  simp

theorem isLocal_eq_false_of_head_parts {s : String} (h : (parts s).head? = some "..") : isLocal s = false := by
  rw [Bool.eq_false_iff]
  intro hl
  obtain ⟨hrel, -, hdots⟩ := isLocal_iff.1 hl
  obtain ⟨t, ht⟩ : ∃ t, parts s = ".." :: t := by
    cases hs : parts s with
    | nil => simp [hs] at h
    | cons x t => simp_all
  apply hdots
  rw [kept, hrel, ht, List.foldl_cons, pushPart_up_nil, if_neg Bool.false_ne_true, List.mem_reverse]
  exact dots_mem_foldl List.mem_cons_self t

/-- Parts that follow tidy parts are tidy, and climb only if all before
them do. -/
theorem Tidy.drop {r : Bool} {ks : List String} (h : Tidy r ks) (n : Nat) : Tidy false (ks.drop n) := by
  obtain ⟨k, ns, rfl, hns, -⟩ := h
  refine ⟨k - n, ns.drop (n - k), ?_, fun x hx => hns x (List.mem_of_mem_drop hx), by simp⟩
  rw [List.drop_append, List.drop_replicate, List.length_replicate]

theorem render_eq_dot {r : Bool} {ks : List String} (h : Tidy r ks) : render r ks = "." ↔ r = false ∧ ks = [] := by
  constructor
  · intro hd
    have hk := kept_render h
    have ha := isAbs_render h
    rw [hd] at hk ha
    exact ⟨ha.symm.trans (by simp [isAbs]), hk.symm⟩
  · rintro ⟨rfl, rfl⟩
    rfl

/-- The parts of a place written back, but for the empty ones, are the
place's. -/
theorem filter_parts_render {r : Bool} {ks : List String} (h : Tidy r ks) (hne : render r ks ≠ ".") :
    (parts (render r ks)).filter (fun x => !x.isEmpty) = ks := by
  cases ks with
  | nil =>
    cases r with
    | true => rfl
    | false => exact absurd rfl hne
  | cons x xs =>
    have hall : ∀ y ∈ x :: xs, (!y.isEmpty) = true := fun y hy => by
      simpa using (h.mem hy).1
    rw [parts_render h (List.cons_ne_nil x xs)]
    cases r with
    | true => simp only [if_pos]; rw [List.filter_cons_of_neg (by simp), List.filter_eq_self.2 hall]
    | false => exact List.filter_eq_self.2 hall

/-! ## Paths within a directory -/

def common (l m : List String) : Nat := ((l.zip m).takeWhile fun q => q.1 == q.2).length

theorem common_def (l m : List String) : ((l.zip m).takeWhile fun q => q.1 == q.2).length = common l m := rfl

theorem common_append (l m : List String) : common l (l ++ m) = l.length := by
  induction l with
  | nil => rfl
  | cons x l ih =>
    simp only [common, List.cons_append, List.zip_cons_cons, List.takeWhile_cons, beq_self_eq_true,
      if_true, List.length_cons] at ih ⊢
    rw [ih]

theorem eq_append_of_drop_common {l m : List String} (h : l.drop (common l m) = []) :
    m = l ++ m.drop (common l m) := by
  induction l generalizing m with
  | nil => rfl
  | cons x l ih =>
    cases m with
    | nil => simp [common] at h
    | cons y m =>
      by_cases hxy : x = y
      · subst hxy
        have hc : common (x :: l) (x :: m) = common l m + 1 := by
          simp [common]
        rw [hc, List.drop_succ_cons] at h ⊢
        exact congrArg (x :: ·) (ih h)
      · have hc : common (x :: l) (y :: m) = 0 := by
          simp [common, hxy]
        rw [hc] at h
        simp at h

theorem isLocal_climbing {n : Nat} {ts : List String} (hts : ∀ x ∈ ts, '/' ∉ x.toList) :
    isLocal ("/".intercalate (List.replicate (n + 1) ".." ++ ts)) = false := by
  apply isLocal_eq_false_of_head_parts
  rw [parts_intercalate (by simp)]
  · rfl
  · intro x hx
    rcases List.mem_append.1 hx with hx | hx
    · rw [List.eq_of_mem_replicate hx]
      decide
    · exact hts x hx

theorem isLocal_intercalate {ks : List String} (h : Tidy false ks) (hne : ks ≠ []) :
    isLocal ("/".intercalate ks) = true ↔ ".." ∉ ks := by
  obtain ⟨x, xs, rfl⟩ := List.exists_cons_of_ne_nil hne
  rw [← render_false_cons (h.mem List.mem_cons_self).1, isLocal_iff, isAbs_render h, kept_render h]
  simp [render_ne_empty]

theorem isLocal_dot : isLocal "." = true := by
  have ht : Tidy false [] := ⟨0, [], rfl, by simp, by simp⟩
  have hdot : render false [] = "." := (render_eq_dot ht).2 ⟨rfl, rfl⟩
  have hk := kept_render ht
  have ha := isAbs_render ht
  rw [hdot] at hk ha
  exact isLocal_iff.2 ⟨ha, by simp, by simp [hk]⟩

/-- A path lies within a directory exactly when both are absolute or both
relative, and the path's place is the directory's followed by parts that do
not climb. -/
theorem within_iff {d p : String} :
    within d p = true ↔ isAbs p = isAbs d ∧ ∃ rest, kept p = kept d ++ rest ∧ ".." ∉ rest := by
  have hd := kept_tidy d
  have hp := kept_tidy p
  unfold within rel
  rw [clean_eq d, clean_eq p]
  generalize isAbs d = rd at hd ⊢
  generalize isAbs p = rp at hp ⊢
  generalize kept d = kd at hd ⊢
  generalize kept p = kp at hp ⊢
  dsimp only
  -- the directory is read with `.` as the empty path
  have hbase : isAbs (if (render rd kd == ".") = true then "" else render rd kd) = rd ∧
      (parts (if (render rd kd == ".") = true then "" else render rd kd)).filter (fun x => !x.isEmpty) = kd := by
    by_cases hdot : render rd kd = "."
    · obtain ⟨rfl, rfl⟩ := (render_eq_dot hd).1 hdot
      simp only [hdot, beq_self_eq_true, if_true]
      exact ⟨rfl, rfl⟩
    · rw [if_neg (by simpa using hdot)]
      exact ⟨isAbs_render hd, filter_parts_render hd hdot⟩
  rw [hbase.1, hbase.2, isAbs_render hp, common_def]
  by_cases heq : render rd kd = render rp kp
  · obtain ⟨rfl, rfl⟩ := (render_inj hd hp).1 heq
    simp only [beq_self_eq_true, if_true, isLocal_dot, true_iff]
    exact ⟨trivial, [], by simp, by simp⟩
  rw [if_neg (by simpa using heq)]
  by_cases hr : rd = rp
  case neg =>
    rw [if_pos (by simpa using hr)]
    simp only [Bool.false_eq_true, false_iff, not_and]
    exact fun h => absurd h.symm hr
  subst hr
  rw [if_neg (by simp)]
  have hne : kd ≠ kp := fun h => heq (h ▸ rfl)
  by_cases hpdot : render rd kp = "."
  · -- the path names the place where it is read, which the directory is not
    obtain ⟨rfl, rfl⟩ := (render_eq_dot hp).1 hpdot
    obtain ⟨x, xs, rfl⟩ := List.exists_cons_of_ne_nil hne
    have hx : x ≠ "." := (hd.mem List.mem_cons_self).2.1
    have hc : common (x :: xs) ["."] = 0 := by simp [common, hx]
    rw [hpdot, show (parts ".").filter (fun x => !x.isEmpty) = ["."] from rfl, hc]
    simp only [List.drop_zero, List.head?_cons]
    constructor
    · intro hl
      by_cases hxd : x = ".."
      · simp [hxd] at hl
      · rw [if_neg (by simpa using hxd), List.map_const', List.length_cons] at hl
        dsimp only at hl
        rw [isLocal_climbing (by simp)] at hl
        exact absurd hl Bool.false_ne_true
    · rintro ⟨-, rest, hnil, -⟩
      simp at hnil
  rw [filter_parts_render hp hpdot]
  constructor
  · intro hl
    -- every part of the directory is shared, or the path to p climbs out
    have hb : kd.drop (common kd kp) = [] := by
      cases hdrop : kd.drop (common kd kp) with
      | nil => rfl
      | cons y ys =>
        rw [hdrop] at hl
        by_cases hy : y = ".."
        · simp [hy] at hl
        · rw [if_neg (by simpa using hy), List.map_const', List.length_cons] at hl
          dsimp only at hl
          rw [isLocal_climbing fun z hz => (hp.mem (List.mem_of_mem_drop hz)).2.2] at hl
          exact absurd hl Bool.false_ne_true
    have hkp := eq_append_of_drop_common hb
    rw [hb] at hl
    simp only [List.head?_nil, List.map_nil, List.nil_append] at hl
    have hrest : kp.drop (common kd kp) ≠ [] := fun h => hne (by rw [hkp, h, List.append_nil])
    exact ⟨rfl, kp.drop (common kd kp), hkp, (isLocal_intercalate (hp.drop _) hrest).1 (by simpa using hl)⟩
  · rintro ⟨-, rest, rfl, hrest⟩
    have hrest' : rest ≠ [] := by
      rintro rfl
      exact hne (List.append_nil kd).symm
    have htidy : Tidy false rest := by simpa using hp.drop kd.length
    rw [common_append, List.drop_length, List.drop_left]
    simpa using (isLocal_intercalate htidy hrest').2 hrest

/-! ## Joining, and taking a path apart -/

theorem join_pair {a b : String} (ha : a ≠ "") (hb : b ≠ "") : join [a, b] = clean (a ++ "/" ++ b) := by
  have hfilter : [a, b].filter (fun x => !x.isEmpty) = [a, b] := by simp [ha, hb]
  simp only [join, hfilter, String.intercalate_cons_of_ne_nil (List.cons_ne_nil b []),
    String.intercalate_singleton]

theorem join_empty_left {b : String} (hb : b ≠ "") : join ["", b] = clean b := by
  have hfilter : ["", b].filter (fun x => !x.isEmpty) = [b] := by simp [hb]
  simp only [join, hfilter, String.intercalate_singleton]

/-- Joining a local path below a directory names the directory's place
followed by the path's parts. -/
theorem kept_join {d m : String} (hm : isLocal m = true) : kept (join [d, m]) = kept d ++ kept m := by
  have hne := (isLocal_iff.1 hm).2.1
  by_cases hd : d = ""
  · subst hd
    rw [join_empty_left hne, kept_clean]
    rfl
  · rw [join_pair hd hne, kept_clean, kept_append hd hm]

theorem isAbs_join {d m : String} (hm : isLocal m = true) : isAbs (join [d, m]) = isAbs d := by
  obtain ⟨hrel, hne, -⟩ := isLocal_iff.1 hm
  by_cases hd : d = ""
  · subst hd
    rw [join_empty_left hne, isAbs_clean, hrel]
    rfl
  · rw [join_pair hd hne, isAbs_clean, isAbs_append hd]

theorem place_plain {y : String} (hy : Plain y) : kept y = [y] ∧ isAbs y = false := by
  have ht : Tidy false [y] := ⟨0, [y], rfl, by simpa using hy, by simp⟩
  have hrender : render false [y] = y := by rw [render_false_cons hy.1, String.intercalate_singleton]
  have hk := kept_render ht
  have ha := isAbs_render ht
  rw [hrender] at hk ha
  exact ⟨hk, ha⟩

theorem isLocal_of_plain {y : String} (hy : Plain y) : isLocal y = true :=
  isLocal_iff.2 ⟨(place_plain hy).2, hy.1, by rw [(place_plain hy).1]; simpa using hy.2.2.1.symm⟩

theorem join_eq_render {d m : String} (hm : isLocal m = true) :
    join [d, m] = render (isAbs d) (kept d ++ kept m) := by
  obtain ⟨x, hx⟩ : ∃ x, join [d, m] = clean x := by
    by_cases hd : d = ""
    · exact ⟨m, hd ▸ join_empty_left (isLocal_iff.1 hm).2.1⟩
    · exact ⟨_, join_pair hd (isLocal_iff.1 hm).2.1⟩
  rw [← isAbs_join hm, ← kept_join hm, hx, isAbs_clean, kept_clean, clean_eq]

theorem ne_slash_of_mem_reverse {y : String} (hy : '/' ∉ y.toList) :
    ∀ c ∈ y.toList.reverse, (c != '/') = true := fun c hc => by
  have : c ≠ '/' := fun h => hy (h ▸ List.mem_reverse.1 hc)
  simpa using this

theorem dir_name {y : String} (hy : '/' ∉ y.toList) : dir y = clean "" := by
  simp only [dir, List.dropWhile_eq_nil_iff.2 (ne_slash_of_mem_reverse hy), List.reverse_nil]

theorem base_name {y : String} (hy : '/' ∉ y.toList) (hne : y ≠ "") : base y = y := by
  obtain ⟨d, ds, hd⟩ := List.exists_cons_of_ne_nil
    (by simpa [String.toList_eq_nil_iff] using hne : y.toList.reverse ≠ [])
  have hd' : d ≠ '/' := fun h => hy (List.mem_reverse.1 (by rw [hd, h]; exact List.mem_cons_self))
  have htrim : y.toList.reverse.dropWhile (· == '/') = y.toList.reverse := by
    rw [hd]
    simp [hd']
  have hempty : y.isEmpty = false := by simpa using hne
  simp only [base, hempty, htrim, List.reverse_reverse, if_neg Bool.false_ne_true]
  rw [if_neg (by simpa [String.toList_eq_nil_iff] using hne),
    List.takeWhile_eq_self_iff.2 (ne_slash_of_mem_reverse hy), List.reverse_reverse, String.ofList_toList]

theorem dir_append {s y : String} (hy : '/' ∉ y.toList) : dir (s ++ "/" ++ y) = clean (s ++ "/") := by
  have hall := ne_slash_of_mem_reverse hy
  have hfront : ((s ++ "/" ++ y).toList.reverse.dropWhile (· != '/')).reverse = (s ++ "/").toList := by
    simp only [String.toList_append, List.reverse_append]
    rw [List.dropWhile_append_of_pos hall]
    simp
  simp only [dir, hfront, String.ofList_toList]

theorem base_append {s y : String} (hy : '/' ∉ y.toList) (hne : y ≠ "") : base (s ++ "/" ++ y) = y := by
  obtain ⟨c, cs, hc⟩ := List.exists_cons_of_ne_nil (mt String.toList_eq_nil_iff.1 hne)
  have hrev : ∃ d ds, y.toList.reverse = d :: ds ∧ d ≠ '/' := by
    obtain ⟨d, ds, hd⟩ := List.exists_cons_of_ne_nil (by simp [hc] : y.toList.reverse ≠ [])
    exact ⟨d, ds, hd, fun h => hy (List.mem_reverse.1 (by rw [hd, h]; exact List.mem_cons_self))⟩
  obtain ⟨d, ds, hd, hd'⟩ := hrev
  have hall := ne_slash_of_mem_reverse hy
  have htrim : ((s ++ "/" ++ y).toList.reverse.dropWhile (· == '/')) = (s ++ "/" ++ y).toList.reverse := by
    simp only [String.toList_append, List.reverse_append, hd]
    simp [hd']
  have hne' : (s ++ "/" ++ y).isEmpty = false := by simp [hne]
  simp only [base, hne', htrim, List.reverse_reverse]
  rw [if_neg Bool.false_ne_true, if_neg (by simp)]
  have htake : (s ++ "/" ++ y).toList.reverse.takeWhile (· != '/') = y.toList.reverse := by
    simp only [String.toList_append, List.reverse_append]
    rw [List.takeWhile_append_of_pos hall]
    simp
  rw [htake, List.reverse_reverse, String.ofList_toList]

theorem isAbs_slash {s : String} (hs : s ≠ "") : isAbs (s ++ "/") = isAbs s := by
  have hsplit : s ++ "/" = s ++ "/" ++ "" := by simp
  rw [hsplit, isAbs_append hs]

theorem kept_slash {s : String} (hs : s ≠ "") : kept (s ++ "/") = kept s := by
  have hsplit : s ++ "/" = s ++ "/" ++ "" := by simp
  unfold kept
  rw [isAbs_slash hs, hsplit, parts_append, parts_empty, List.foldl_append, List.foldl_cons,
    pushPart_skip (.inl rfl), List.foldl_nil]

theorem Tidy.init {r : Bool} {ks : List String} {y : String} (h : Tidy r (ks ++ [y])) (hy : Plain y) :
    Tidy r ks := by
  obtain ⟨k, ns, hks, hns, hr⟩ := h
  rcases List.eq_nil_or_concat ns with rfl | ⟨L, b, rfl⟩
  · -- the last part would be `..`
    have hlast := congrArg List.getLast? hks
    rw [List.getLast?_append, List.getLast?_singleton, List.append_nil, List.getLast?_replicate] at hlast
    split at hlast
    · simp at hlast
    · exact absurd (Option.some.inj hlast) hy.2.2.1
  · rw [List.concat_eq_append] at hks hns
    rw [← List.append_assoc] at hks
    obtain ⟨rfl, -⟩ := List.append_inj' hks rfl
    exact ⟨k, L, rfl, fun x hx => hns x (List.mem_append_left _ hx), hr⟩

theorem render_snoc {r : Bool} {ks : List String} {y : String} (h : Tidy r ks) (hne : ks ≠ []) :
    render r (ks ++ [y]) = render r ks ++ "/" ++ y := by
  have hjoin : "/".intercalate (ks ++ [y]) = "/".intercalate ks ++ "/" ++ y := by
    rw [String.intercalate_append_of_ne_nil hne (List.cons_ne_nil y []), String.intercalate_singleton]
  obtain ⟨x, xs, hx⟩ := List.exists_cons_of_ne_nil hne
  cases r with
  | true => simp only [render, if_true, hjoin, String.append_assoc]
  | false =>
    have hx' : x ≠ "" := (h.mem (hx ▸ List.mem_cons_self)).1
    rw [hx, List.cons_append, render_false_cons hx', render_false_cons hx', ← List.cons_append, ← hx, hjoin]

/-- The directory of a path that ends in a name is the place before the
name, and its last part is the name. -/
theorem dir_base_place {r : Bool} {ks : List String} {y : String} (h : Tidy r (ks ++ [y])) (hy : Plain y) :
    kept (dir (render r (ks ++ [y]))) = ks ∧ isAbs (dir (render r (ks ++ [y]))) = r ∧
      base (render r (ks ++ [y])) = y := by
  have hks := h.init hy
  by_cases hne : ks = []
  · subst hne
    cases r with
    | true =>
      have hroot : render true ([] ++ [y]) = "" ++ "/" ++ y := by
        simp [render, String.intercalate_singleton]
      have hslash : "" ++ "/" = render true [] := by simp [render]
      rw [hroot, dir_append hy.2.2.2, base_append hy.2.2.2 hy.1, hslash, kept_clean, isAbs_clean]
      exact ⟨kept_render hks, isAbs_render hks, rfl⟩
    | false =>
      have hname : render false ([] ++ [y]) = y := by
        rw [List.nil_append, render_false_cons hy.1, String.intercalate_singleton]
      rw [hname, dir_name hy.2.2.2, base_name hy.2.2.2 hy.1, kept_clean, isAbs_clean]
      exact ⟨rfl, rfl, rfl⟩
  · rw [render_snoc hks hne, dir_append hy.2.2.2, base_append hy.2.2.2 hy.1, kept_clean, isAbs_clean,
      kept_slash (render_ne_empty r ks), kept_render hks]
    exact ⟨rfl, by rw [isAbs_slash (render_ne_empty r ks), isAbs_render hks], rfl⟩

/-- A name joined to a path comes apart again into the path's place and the
name. -/
theorem dir_base_join {d y : String} (hy : Plain y) :
    kept (dir (join [d, y])) = kept d ∧ isAbs (dir (join [d, y])) = isAbs d ∧ base (join [d, y]) = y := by
  have hl := isLocal_of_plain hy
  have hj : join [d, y] = render (isAbs d) (kept d ++ [y]) := by
    rw [join_eq_render hl, (place_plain hy).1]
  have htidy : Tidy (isAbs d) (kept d ++ [y]) := by
    simpa [kept_join hl, isAbs_join hl, (place_plain hy).1] using kept_tidy (join [d, y])
  rw [hj]
  exact dir_base_place htidy hy

end MudClient.Path
