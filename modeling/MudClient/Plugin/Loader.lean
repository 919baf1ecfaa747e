/-
# Finding modules on disk

`discover` looks through search paths, in order, for script modules: a
directory with a `module.yaml` or an `init.lua`, or a bare `name.lua`
file.  Names that start with a dot are passed over, as are search paths
that do not exist.  When two modules share a name the first one found
wins; the result is sorted by name.

A module that is found but cannot be used is still reported, with the
failure that stops it and without a manifest: a manifest that does not
read or breaks a rule, or an entry point that is not there.
-/
import MudClient.Plugin.Manifest

namespace MudClient.Plugin

/-- A module found on disk: its name and path, and its manifest or the
failure that stops it. -/
structure Discovered where
  name : String
  path : String
  manifest : Except Failure Manifest

def noEntryPoint (main : String) : Failure :=
  { message := "module has no entry point (init.lua): " ++ main, conditions := [.moduleNoEntryPoint] }

def inspect (disk : Disk) (name dir : String) : Option Discovered :=
  let manifestPath := Path.join [dir, manifestFile]
  if disk.present manifestPath then
    match loadManifest disk manifestPath with
    | .error f => some { name, path := dir, manifest := .error f }
    | .ok m =>
      if !disk.present m.mainPath then some { name, path := dir, manifest := .error (noEntryPoint m.main) }
      else some { name := m.name, path := dir, manifest := .ok m }
  else if disk.present (Path.join [dir, defaultMain]) then
    let m := Manifest.minimal name dir defaultMain
    match m.validate with
    | .error f => some { name, path := dir, manifest := .error f }
    | .ok _ => some { name, path := dir, manifest := .ok m }
  else none

/-- Examines one entry of a search path, a name with whether it is a
directory: a directory may be a module, a `.lua` file is one, and a name
that starts with a dot is passed over. -/
def examine (disk : Disk) (base : String) : String × Bool → Option Discovered
  | (entry, isDir) =>
    if entry.startsWith "." then none
    else
      let path := Path.join [base, entry]
      if isDir then inspect disk entry path
      else if Path.ext entry == ".lua" then
        let m := Manifest.ofFile path
        match m.validate with
        | .error f => some { name := m.name, path, manifest := .error f }
        | .ok _ => some { name := m.name, path, manifest := .ok m }
      else none

def discoverIn (disk : Disk) (base : String) : Except Failure (List Discovered) :=
  if !disk.present base then .ok []
  else if !disk.isDir base then
    .error (.plain ("read module path " ++ base ++ ": open " ++ base ++ ": not a directory"))
  else .ok ((disk.entries base).filterMap (examine disk base))

/-- The modules in the search paths, the first of each name, sorted by
name; with the failures of search paths that could not be read, joined
one per line. -/
def discover (disk : Disk) (paths : List String) : List Discovered × Option Failure :=
  let (found, faults) := paths.foldl (fun (acc : List Discovered × List String) base =>
    match discoverIn disk base with
    | .ok ds => (ds.foldl (fun fs d => if fs.any (·.name == d.name) then fs else fs ++ [d]) acc.1, acc.2)
    | .error f => (acc.1, acc.2 ++ [f.message])) ([], [])
  let sorted := found.mergeSort fun a b => decide (a.name ≤ b.name)
  (sorted, if faults.isEmpty then none else some (.plain ("\n".intercalate faults)))

def find (disk : Disk) (paths : List String) (name : String) : Except Failure Discovered :=
  let (all, fault) := discover disk paths
  match all.find? (·.name == name), fault with
  | some d, _ => .ok d
  | none, some f => .error f
  | none, none => .error { message := "module not found: " ++ name, conditions := [.moduleNotFound] }

end MudClient.Plugin
