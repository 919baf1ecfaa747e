/-
# Which module a changed file belongs to

A module owns the paths whose changes concern it (`Manifest.owns`): its
file, for a single-file module, and everything within its directory
otherwise.  Both tests are made on places (`Proofs.Text.Paths`), so they can
be read as places too.

A checked manifest names an entry point inside the module, so every module
owns its own entry point (`owns_mainPath`).  A module found while looking
through a search path sits at one entry of it, and owns only paths below
that entry (`Below`).  Two entries of one search path lie apart, so when no
path lies within two search paths, no path is owned by two modules found in
one look (`owner_unique`), and the module the engine finds for a path does
not depend on the order its scripts are visited in.  Search paths that nest
break this: a module directory of the outer path holds the files of the
inner one, and the module a change is sent to is then the first owner
visited.
-/
import Mathlib.Data.List.Pairwise
import MudClient.Engine.Basic
import MudClient.Proofs.Text.Paths

namespace MudClient.Plugin

/-! ## Manifests -/

theorem throw_bind_ne_ok {ε α β : Type} (e : ε) (f : α → Except ε β) (b : β) :
    (throw e >>= f) ≠ Except.ok b := by
  simp [throw, throwThe, MonadExceptOf.throw, bind, Except.bind]

/-- The entry point of a checked manifest is a `.lua` file inside the
module. -/
theorem main_checked {m : Manifest} (h : m.validate = .ok ()) :
    Path.ext m.main = ".lua" ∧ Path.isAbs m.main = false ∧ Path.isLocal m.main = true := by
  unfold Manifest.validate at h
  dsimp only at h
  -- the name, its form and the version are checked first
  split at h
  · exact absurd h (throw_bind_ne_ok _ _ _)
  split at h
  · exact absurd h (throw_bind_ne_ok _ _ _)
  split at h
  · exact absurd h (throw_bind_ne_ok _ _ _)
  split at h
  · exact absurd h (throw_bind_ne_ok _ _ _)
  · rename_i hmain
    simp only [Bool.or_eq_true, bne_iff_ne, ne_eq, Bool.not_eq_eq_eq_not, Bool.not_true, not_or,
      Bool.not_eq_true] at hmain
    exact ⟨by simpa using hmain.1.1, hmain.1.2, by simpa using hmain.2⟩

theorem owns_mainPath {m : Manifest} (h : m.validate = .ok ()) : m.owns m.mainPath = true := by
  have hlocal := (main_checked h).2.2
  unfold Manifest.owns
  split
  · exact beq_self_eq_true _
  · rw [Path.within_iff, Path.isAbs_clean, Path.kept_clean, Manifest.mainPath, Path.isAbs_join hlocal,
      Path.kept_join hlocal]
    exact ⟨rfl, Path.kept m.main, rfl, (Path.isLocal_iff.1 hlocal).2.2⟩

@[simp] theorem withDefaults_dir (m : Manifest) : m.withDefaults.dir = m.dir := by
  unfold Manifest.withDefaults
  split <;> rfl

@[simp] theorem withDefaults_single (m : Manifest) : m.withDefaults.single = m.single := by
  unfold Manifest.withDefaults
  split <;> rfl

theorem assign_single (m : Manifest) (as : List (String × Schema.Setting)) : (m.assign as).single = m.single := by
  unfold Manifest.assign
  induction as generalizing m with
  | nil => rfl
  | cons a as ih =>
    rw [List.foldl_cons, ih]
    obtain ⟨k, v⟩ := a
    dsimp only
    split <;> rfl

/-- A manifest read from a file describes a module directory: the file's
own. -/
theorem loadManifest_place {disk : Disk} {path : String} {m : Manifest} (h : loadManifest disk path = .ok m) :
    m.dir = Path.dir path ∧ m.single = false := by
  unfold loadManifest at h
  cases hr : disk.read path with
  | error f => cases f <;> simp [hr, throw, throwThe, MonadExceptOf.throw, bind, Except.bind] at h
  | ok data =>
    cases hy : Yaml.readSettings false manifestShape data with
    | error e => simp [hr, hy, throw, throwThe, MonadExceptOf.throw, bind, Except.bind, pure, Except.pure] at h
    | ok read =>
      simp only [hr, hy, bind, Except.bind, pure, Except.pure] at h
      split at h
      · cases h
      · cases h
        simp [assign_single]

theorem ofFile_single (q : String) : (Manifest.ofFile q).single = true := rfl

theorem ofFile_mainPath {q : String} (hb : Path.base q ≠ "") :
    (Manifest.ofFile q).mainPath = Path.join [Path.dir q, Path.base q] := by
  simp [Manifest.ofFile, Manifest.minimal, Manifest.withDefaults, Manifest.mainPath, hb]

/-! ## Places of found modules -/

/-- A path lies below entry `e` of search path `base`: its place is the
search path's, then `e`, then parts that do not climb. -/
def Below (base e p : String) : Prop :=
  Path.isAbs p = Path.isAbs base ∧ ∃ rest, Path.kept p = Path.kept base ++ e :: rest ∧ ".." ∉ rest

theorem Below.within {base e p : String} (h : Below base e p) (he : e ≠ "..") : Path.within base p = true := by
  obtain ⟨habs, rest, hk, hrest⟩ := h
  refine Path.within_iff.2 ⟨habs, e :: rest, hk, ?_⟩
  simp only [List.mem_cons, not_or]
  exact ⟨fun h => he h.symm, hrest⟩

theorem Below.entry_eq {base e₁ e₂ p : String} (h₁ : Below base e₁ p) (h₂ : Below base e₂ p) : e₁ = e₂ := by
  obtain ⟨-, r₁, hk₁, -⟩ := h₁
  obtain ⟨-, r₂, hk₂, -⟩ := h₂
  rw [hk₁, List.append_cancel_left_eq, List.cons.injEq] at hk₂
  exact hk₂.1

/-- The path of entry `e` of a search path names the search path's place
followed by `e`. -/
theorem place_entry {base e : String} (he : Path.Plain e) :
    Path.kept (Path.join [base, e]) = Path.kept base ++ [e] ∧ Path.isAbs (Path.join [base, e]) = Path.isAbs base := by
  have hl := Path.isLocal_of_plain he
  rw [Path.kept_join hl, Path.isAbs_join hl, (Path.place_plain he).1]
  exact ⟨rfl, rfl⟩

theorem below_of_owns_dir {m : Manifest} {base e p : String} (hs : m.single = false)
    (hk : Path.kept m.dir = Path.kept base ++ [e]) (ha : Path.isAbs m.dir = Path.isAbs base)
    (ho : m.owns p = true) : Below base e p := by
  unfold Manifest.owns at ho
  rw [hs] at ho
  obtain ⟨habs, rest, hkp, hrest⟩ := Path.within_iff.1 ho
  rw [Path.isAbs_clean] at habs
  rw [Path.kept_clean, hk] at hkp
  exact ⟨habs.trans ha, rest, by simpa using hkp, hrest⟩

theorem below_of_owns_single {m : Manifest} {base e p : String} (hs : m.single = true)
    (hk : Path.kept m.mainPath = Path.kept base ++ [e]) (ha : Path.isAbs m.mainPath = Path.isAbs base)
    (ho : m.owns p = true) : Below base e p := by
  unfold Manifest.owns at ho
  rw [hs, if_pos rfl] at ho
  have hc : Path.clean p = Path.clean m.mainPath := beq_iff_eq.1 ho
  refine ⟨?_, [], ?_, List.not_mem_nil⟩
  · rw [← Path.isAbs_clean p, hc, Path.isAbs_clean, ha]
  · rw [← Path.kept_clean p, hc, Path.kept_clean, hk]

theorem manifestFile_plain : Path.Plain manifestFile := ⟨by decide, by decide, by decide, by decide⟩

/-- A module found at entry `e` of a search path owns only paths below the
entry. -/
theorem below_of_examine {disk : Disk} {base e : String} {isDir : Bool} {d : Discovered} {m : Manifest}
    {p : String} (he : Path.Plain e) (hd : examine disk base (e, isDir) = some d) (hm : d.manifest = .ok m)
    (ho : m.owns p = true) : Below base e p := by
  obtain ⟨hkD, haD⟩ := @place_entry base e he
  -- an entry that starts with a dot is passed over
  cases hdot : e.startsWith "." with
  | true => simp [examine, hdot] at hd
  | false => ?_
  simp only [examine, hdot, Bool.false_eq_true, if_false] at hd
  split at hd
  · -- a directory: a module when it has a manifest or an `init.lua`
    unfold inspect at hd
    dsimp only at hd
    split at hd
    · split at hd
      · cases hd
        cases hm
      · rename_i m' hload
        split at hd
        · cases hd
          cases hm
        · cases hd
          cases hm
          obtain ⟨hdir, hs⟩ := loadManifest_place hload
          -- the manifest file is `module.yaml` in the entry's directory
          obtain ⟨hk, ha, -⟩ := Path.dir_base_join (d := Path.join [base, e]) manifestFile_plain
          rw [← hdir, hkD] at hk
          rw [← hdir, haD] at ha
          exact below_of_owns_dir hs hk ha ho
    · split at hd
      · split at hd
        · cases hd
          cases hm
        · cases hd
          cases hm
          exact below_of_owns_dir (by simp [Manifest.minimal]) (by simpa [Manifest.minimal] using hkD)
            (by simpa [Manifest.minimal] using haD) ho
      · cases hd
  · -- a `.lua` file: a module on its own
    split at hd
    · split at hd
      · cases hd
        cases hm
      · cases hd
        cases hm
        obtain ⟨hk, ha, hb⟩ := Path.dir_base_join (d := base) he
        have hl := Path.isLocal_of_plain he
        have hmain := ofFile_mainPath (q := Path.join [base, e]) (by rw [hb]; exact he.1)
        apply below_of_owns_single (ofFile_single _) _ _ ho
        · rw [hmain, hb, Path.kept_join hl, hk, (Path.place_plain he).1]
        · rw [hmain, hb, Path.isAbs_join hl, ha]
    · cases hd

/-! ## Looking through the search paths -/

/-- Every entry of a directory is one part of a path: not empty and
without a slash; whether it is a directory is decided by its path. -/
theorem mem_entries {disk : Disk} {base : String} {x : String × Bool} (h : x ∈ disk.entries base) :
    x.1 ≠ "" ∧ '/' ∉ x.1.toList ∧ x.2 = disk.isDir (base ++ "/" ++ x.1) := by
  unfold Disk.entries at h
  simp only [List.mem_map, List.mem_eraseDups, List.mem_mergeSort, List.mem_filterMap] at h
  obtain ⟨n, ⟨p, -, hp⟩, rfl⟩ := h
  dsimp only
  split at hp
  · split at hp
    · rename_i n' tail hparts
      split at hp
      · cases hp
      · rename_i hne
        cases hp
        exact ⟨by simpa using hne, Path.slash_not_mem_of_mem_parts (hparts ▸ List.mem_cons_self), rfl⟩
    · cases hp
  · cases hp

theorem plain_of_examine {disk : Disk} {base : String} {x : String × Bool} {d : Discovered}
    (hx : x ∈ disk.entries base) (hd : examine disk base x = some d) : Path.Plain x.1 := by
  obtain ⟨hne, hslash, -⟩ := mem_entries hx
  obtain ⟨n, i⟩ := x
  -- a name that starts with a dot is passed over
  cases hdot : n.startsWith "." with
  | true => simp [examine, hdot] at hd
  | false =>
    refine ⟨hne, ?_, ?_, hslash⟩ <;> rintro rfl <;> simp at hdot

/-- A fold that keeps what it had and adds only what `P` holds of gathers
only what `P` holds of. -/
theorem mem_foldl_gather {α γ : Type} {P : α → Prop} {F : List α × γ → String → List α × γ}
    {ps : List String} {acc : List α × γ} (hF : ∀ b ∈ ps, ∀ acc, ∀ x ∈ (F acc b).1, x ∈ acc.1 ∨ P x) :
    ∀ x ∈ (ps.foldl F acc).1, x ∈ acc.1 ∨ P x := by
  induction ps generalizing acc with
  | nil => exact fun x hx => .inl hx
  | cons b ps ih =>
    intro x hx
    rcases ih (fun b' hb' => hF b' (List.mem_cons_of_mem _ hb')) x hx with h | h
    · exact hF b List.mem_cons_self acc x h
    · exact .inr h

theorem mem_foldl_add {α : Type} {G : List α → α → List α} (hG : ∀ fs x, ∀ y ∈ G fs x, y ∈ fs ∨ y = x)
    {ds init : List α} {y : α} (h : y ∈ ds.foldl G init) : y ∈ init ∨ y ∈ ds := by
  induction ds generalizing init with
  | nil => exact .inl h
  | cons x ds ih =>
    rcases ih h with h | h
    · rcases hG init x y h with h | rfl
      · exact .inl h
      · exact .inr List.mem_cons_self
    · exact .inr (List.mem_cons_of_mem _ h)

/-- Every module a look through the search paths finds was found at an
entry of one of them. -/
theorem mem_discover {disk : Disk} {dirs : List String} {d : Discovered} (h : d ∈ (discover disk dirs).1) :
    ∃ base ∈ dirs, ∃ x ∈ disk.entries base, examine disk base x = some d := by
  unfold discover at h
  simp only [List.mem_mergeSort] at h
  refine (mem_foldl_gather (P := fun d => ∃ base ∈ dirs, ∃ x ∈ disk.entries base, examine disk base x = some d)
    ?_ d h).resolve_left List.not_mem_nil
  intro b hb acc y hy
  cases hds : discoverIn disk b with
  | error f =>
    simp only [hds] at hy
    exact .inl hy
  | ok ds =>
    simp only [hds] at hy
    -- the names already gathered are kept, and a new one is added at the end
    have hadd : ∀ (fs : List Discovered) (z w : Discovered),
        (w ∈ if (fs.any fun v => v.name == z.name) = true then fs else fs ++ [z]) → w ∈ fs ∨ w = z := by
      intro fs z w hw
      split at hw
      · exact .inl hw
      · rcases List.mem_append.1 hw with hw | hw
        · exact .inl hw
        · exact .inr (List.mem_singleton.1 hw)
    refine (mem_foldl_add hadd hy).imp id fun hy => ⟨b, hb, ?_⟩
    simp only [discoverIn] at hds
    split at hds
    · cases hds
      simp at hy
    · split at hds
      · cases hds
      · cases hds
        exact List.mem_filterMap.1 hy

/-! ## One owner -/

def Apart (a b : String) : Prop := ∀ p, ¬(Path.within a p = true ∧ Path.within b p = true)

instance : Std.Symm Apart := ⟨fun _ _ h p hp => h p hp.symm⟩

theorem apart_of_kept {a b : String} (hab : ¬Path.kept a <+: Path.kept b) (hba : ¬Path.kept b <+: Path.kept a) :
    Apart a b := by
  rintro p ⟨ha, hb⟩
  obtain ⟨-, ra, hka, -⟩ := Path.within_iff.1 ha
  obtain ⟨-, rb, hkb, -⟩ := Path.within_iff.1 hb
  rcases List.prefix_or_prefix_of_prefix ⟨ra, hka.symm⟩ ⟨rb, hkb.symm⟩ with h | h
  · exact hab h
  · exact hba h

/-- No two modules found in one look through search paths that share no
place own the same path. -/
theorem owner_unique {disk : Disk} {dirs : List String} (hdirs : dirs.Pairwise Apart) {d₁ d₂ : Discovered}
    {m₁ m₂ : Manifest} {p : String} (h₁ : d₁ ∈ (discover disk dirs).1) (h₂ : d₂ ∈ (discover disk dirs).1)
    (hm₁ : d₁.manifest = .ok m₁) (hm₂ : d₂.manifest = .ok m₂) (ho₁ : m₁.owns p = true) (ho₂ : m₂.owns p = true) :
    m₁ = m₂ := by
  obtain ⟨b₁, hb₁, ⟨e₁, i₁⟩, hx₁, hd₁⟩ := mem_discover h₁
  obtain ⟨b₂, hb₂, ⟨e₂, i₂⟩, hx₂, hd₂⟩ := mem_discover h₂
  have he₁ := plain_of_examine hx₁ hd₁
  have he₂ := plain_of_examine hx₂ hd₂
  have hbelow₁ := below_of_examine he₁ hd₁ hm₁ ho₁
  have hbelow₂ := below_of_examine he₂ hd₂ hm₂ ho₂
  by_cases hb : b₁ = b₂
  · -- one search path: the path lies below one entry, examined once
    subst hb
    have he : e₁ = e₂ := hbelow₁.entry_eq hbelow₂
    subst he
    have hi : i₁ = i₂ := (mem_entries hx₁).2.2.trans (mem_entries hx₂).2.2.symm
    subst hi
    rw [hd₁, Option.some.injEq] at hd₂
    subst hd₂
    rw [hm₁, Except.ok.injEq] at hm₂
    exact hm₂
  · -- two search paths, which share no place
    exact absurd ⟨hbelow₁.within he₁.2.2.1, hbelow₂.within he₂.2.2.1⟩ (hdirs.forall hb₁ hb₂ hb p)

end MudClient.Plugin

namespace MudClient.Engine

/-- Finding the first element that passes a test gives the same answer in
every order, up to `f`, when `f` agrees on all that pass. -/
theorem find?_map_perm {α β : Type} {p : α → Bool} {f : α → β} {l σ : List α} (hσ : σ.Perm l)
    (hp : ∀ x ∈ l, ∀ y ∈ l, p x = true → p y = true → f x = f y) : (σ.find? p).map f = (l.find? p).map f := by
  cases hl : l.find? p with
  | none =>
    have hσ' : σ.find? p = none := List.find?_eq_none.2 fun x hx => List.find?_eq_none.1 hl x (hσ.subset hx)
    rw [hσ']
  | some x =>
    have hx := List.mem_of_find?_eq_some hl
    cases hs : σ.find? p with
    | none => exact absurd (List.find?_eq_none.1 hs x (hσ.symm.subset hx)) (by simpa using List.find?_some hl)
    | some y =>
      simp only [Option.map_some, Option.some.injEq]
      exact hp y (hσ.subset (List.mem_of_find?_eq_some hs)) x hx (List.find?_some hs) (List.find?_some hl)

/-- The script modules of a core were registered from one look through
`dirs` on `disk`: each is a module found there, under its manifest's name. -/
def Core.ScriptsFound (c : Core) (disk : Disk) (dirs : List String) : Prop :=
  ∀ s ∈ c.scripts, s.1 = s.2.manifest.name ∧ ∃ d ∈ (Plugin.discover disk dirs).1, d.manifest = .ok s.2.manifest

/-- Registered modules found in search paths that share no place own no
path together. -/
theorem Core.owner_unique {c : Core} {disk : Disk} {dirs : List String} (hdirs : dirs.Pairwise Plugin.Apart)
    (hc : c.ScriptsFound disk dirs) {path : String} {s₁ s₂ : String × ScriptModule} (h₁ : s₁ ∈ c.scripts)
    (h₂ : s₂ ∈ c.scripts) (ho₁ : s₁.2.manifest.owns path = true) (ho₂ : s₂.2.manifest.owns path = true) :
    s₁.1 = s₂.1 := by
  obtain ⟨hn₁, d₁, hd₁, hm₁⟩ := hc s₁ h₁
  obtain ⟨hn₂, d₂, hd₂, hm₂⟩ := hc s₂ h₂
  rw [hn₁, hn₂, Plugin.owner_unique hdirs hd₁ hd₂ hm₁ hm₂ ho₁ ho₂]

/-- The module a path belongs to does not depend on the order the scripts
are visited in, when they were found in search paths that share no place. -/
theorem Core.moduleFor_perm {c : Core} {disk : Disk} {dirs : List String} (hdirs : dirs.Pairwise Plugin.Apart)
    (hc : c.ScriptsFound disk dirs) {σ : List (String × ScriptModule)} (hσ : σ.Perm c.scripts) (path : String) :
    { c with scripts := σ }.moduleFor path = c.moduleFor path := by
  unfold Core.moduleFor
  refine find?_map_perm hσ fun x hx y hy hpx hpy => ?_
  obtain ⟨i, s⟩ := x
  obtain ⟨j, t⟩ := y
  exact Core.owner_unique hdirs hc hx hy hpx hpy

end MudClient.Engine
