/-
# A changed file names one module

The engine registers its script modules from one look through its search
paths (`discover`): it keeps each module found whose manifest reads, unless
the module is switched off or its name is taken.  Every script it holds is
then a module found on its disk in its search paths (`Core.ScriptsFound`),
and a look keeps that (`discover_keeps_found`).  With the ownership of
`Proofs.Plugin.Ownership` this gives what the watcher relies on: each
module owns its entry point, and when the search paths share no place, no
path has two owners among the scripts, so the module found for a changed
path does not depend on the order the scripts are visited in.

Search paths that nest break it: with `scripts` and `scripts/a` searched,
`scripts/a` is a directory module of the first and `scripts/a/b.lua` a
single-file module of the second, and both own `scripts/a/b.lua`.
-/
import Mathlib
import MudClient.Engine.Loop
import MudClient.Proofs.Plugin.Isolation
import MudClient.Proofs.Plugin.Ownership

open Std.Do

set_option mvcgen.warning false

namespace MudClient.Engine

/-- Registering a module found, under its manifest's name, keeps the scripts
those of modules found. -/
theorem Core.ScriptsFound.snoc {c c' : Core} {disk : Disk} {dirs : List String}
    (hc : c.ScriptsFound disk dirs) {d : Plugin.Discovered} (hd : d ∈ (Plugin.discover disk dirs).1)
    {m : Plugin.Manifest} (hm : d.manifest = .ok m) {t : Time.Duration}
    (h : c'.scripts = c.scripts ++ [(m.name, ⟨m, t⟩)]) : c'.ScriptsFound disk dirs := by
  intro s hs
  rw [h, List.mem_append, List.mem_singleton] at hs
  rcases hs with hs | rfl
  · exact hc s hs
  · exact ⟨rfl, d, hd, hm⟩

theorem discover_keeps_found (disk : Disk) (dirs : List String) :
    ⦃fun e => ⌜e.core.disk = disk ∧ e.core.paths = dirs ∧ e.core.ScriptsFound disk dirs⌝⦄ discover
      ⦃⇓ _ e => ⌜e.core.ScriptsFound disk dirs⌝⦄ := by
  mvcgen [discover, core, modifyCore] invariants
  · ⇓⟨_, _⟩ e => ⌜e.core.ScriptsFound disk dirs⌝
  -- the branch that registers a module: it is the one the loop is at
  next e₀ h₀ _ _ _ d _ hd _ m hm e he _ _ _ _ _ =>
    have hfound : d ∈ (Plugin.discover disk dirs).1 := by
      rw [← h₀.1, ← h₀.2.1, hd]
      simp
    exact he.snoc hfound hm rfl
  -- before the loop only the broken modules are forgotten
  next e₀ h₀ _ _ => exact h₀.2.2

/-- A look through an engine's search paths keeps its scripts those of
modules found on its disk in those paths. -/
theorem discover_found {e : Runtime} (h : e.core.ScriptsFound e.core.disk e.core.paths) :
    (discover.run e).2.core.ScriptsFound e.core.disk e.core.paths :=
  Plugin.run_of_triple (discover_keeps_found _ _) ⟨rfl, rfl, h⟩

/-- Each checked manifest owns its entry point, and after a look through
search paths that share no place, no path has two owners among the
engine's scripts, so the module found for a changed path is the same in
whatever order the scripts are visited. -/
theorem changed_path_finds_one_module (e : Runtime) (hdirs : e.core.paths.Pairwise Plugin.Apart)
    (hfound : e.core.ScriptsFound e.core.disk e.core.paths) :
    (∀ m : Plugin.Manifest, m.validate = .ok () → m.owns m.mainPath = true) ∧
      (∀ path, ∀ s₁ ∈ (discover.run e).2.core.scripts, ∀ s₂ ∈ (discover.run e).2.core.scripts,
        s₁.2.manifest.owns path = true → s₂.2.manifest.owns path = true → s₁.1 = s₂.1) ∧
      ∀ σ, σ.Perm (discover.run e).2.core.scripts → ∀ path,
        { (discover.run e).2.core with scripts := σ }.moduleFor path = (discover.run e).2.core.moduleFor path := by
  have hc := discover_found hfound
  exact ⟨fun m hm => Plugin.owns_mainPath hm,
    fun path s₁ h₁ s₂ h₂ ho₁ ho₂ => Core.owner_unique hdirs hc h₁ h₂ ho₁ ho₂,
    fun σ hσ path => Core.moduleFor_perm hdirs hc hσ path⟩

/-- Modules in two search paths side by side: a directory module and a
single-file module in `scripts`, a single-file module in `lib`. -/
def sideScripts : Disk :=
  { files := [("lib/c.lua", ⟨#[]⟩), ("scripts/a/init.lua", ⟨#[]⟩), ("scripts/b.lua", ⟨#[]⟩)] }

/-- A look through `scripts` and `lib` registers all three modules; each
path has at most one owner among them, so the directory module owns its
entry point in any order the scripts are visited in. -/
theorem side_by_side_paths_find_one_module :
    ["scripts", "lib"].Pairwise Plugin.Apart ∧
      ∃ c : Core, c = (discover.run { core := { disk := sideScripts, paths := ["scripts", "lib"] } }).2.core ∧
        c.scripts.map (·.1) = ["a", "b", "c"] ∧
        (∀ path, ∀ s₁ ∈ c.scripts, ∀ s₂ ∈ c.scripts,
          s₁.2.manifest.owns path = true → s₂.2.manifest.owns path = true → s₁.1 = s₂.1) ∧
        c.moduleFor "scripts/a/init.lua" = some "a" ∧
        { c with scripts := c.scripts.reverse }.moduleFor "scripts/a/init.lua" = some "a" := by
  have hdirs : ["scripts", "lib"].Pairwise Plugin.Apart :=
    List.pairwise_pair.2 (Plugin.apart_of_kept (by decide +kernel) (by decide +kernel))
  obtain ⟨-, hunique, hperm⟩ :=
    changed_path_finds_one_module { core := { disk := sideScripts, paths := ["scripts", "lib"] } } hdirs
      (fun _ h => nomatch h)
  have hentries : sideScripts.entries "scripts" = [("a", true), ("b.lua", false)] ∧
      sideScripts.entries "lib" = [("c.lua", false)] := by
    unfold Disk.entries
    dsimp only
    rw [List.mergeSort_of_pairwise (by decide +kernel), List.mergeSort_of_pairwise (by decide +kernel)]
    decide +kernel
  have hlook : (discover.run { core := { disk := sideScripts, paths := ["scripts", "lib"] } }).2.core.scripts.map
      (·.1) = ["a", "b", "c"] ∧
      (discover.run { core := { disk := sideScripts, paths := ["scripts", "lib"] } }).2.core.moduleFor
        "scripts/a/init.lua" = some "a" := by
    unfold discover
    simp only [StateT.run_bind, core, modifyCore, StateT.run_get, StateT.run_pure, StateT.run_modify, pure_bind]
    unfold Plugin.discover Plugin.discoverIn
    simp only [List.foldl_cons, List.foldl_nil, hentries.1, hentries.2]
    rw [List.mergeSort_of_pairwise (by decide +kernel)]
    decide +kernel
  refine ⟨hdirs, _, rfl, hlook.1, hunique, hlook.2, ?_⟩
  rw [hperm _ (List.reverse_perm _), hlook.2]

def nestedScripts : Disk := { files := [("scripts/a/b.lua", ⟨#[]⟩), ("scripts/a/init.lua", ⟨#[]⟩)] }

/-- Search paths that nest: the directory module `a` of `scripts` and the
single-file module `b` of `scripts/a` both own `scripts/a/b.lua`, and the
module found for it is the first of them visited. -/
theorem nested_paths_share_a_file :
    ¬Plugin.Apart "scripts" "scripts/a" ∧
      ∃ c : Core, c = (discover.run { core := { disk := nestedScripts, paths := ["scripts", "scripts/a"] } }).2.core ∧
        c.scripts.map (·.1) = ["a", "b", "init"] ∧
        c.moduleFor "scripts/a/b.lua" = some "a" ∧
        { c with scripts := c.scripts.reverse }.moduleFor "scripts/a/b.lua" = some "b" := by
  -- the sorts meet lists already in order, and taking them out lets the kernel run the look
  have hentries : nestedScripts.entries "scripts" = [("a", true)] ∧
      nestedScripts.entries "scripts/a" = [("b.lua", false), ("init.lua", false)] := by
    unfold Disk.entries
    dsimp only
    rw [List.mergeSort_of_pairwise (by decide +kernel), List.mergeSort_of_pairwise (by decide +kernel)]
    decide +kernel
  refine ⟨fun h => h "scripts/a/b.lua" (by decide +kernel), _, rfl, ?_⟩
  unfold discover
  simp only [StateT.run_bind, core, modifyCore, StateT.run_get, StateT.run_pure, StateT.run_modify, pure_bind]
  unfold Plugin.discover Plugin.discoverIn
  simp only [List.foldl_cons, List.foldl_nil, hentries.1, hentries.2]
  rw [List.mergeSort_of_pairwise (by decide +kernel)]
  decide +kernel

end MudClient.Engine
