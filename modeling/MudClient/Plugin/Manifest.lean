/-
# Module manifests

A script module lives in a directory, described by an optional
`module.yaml` manifest, or is a single `name.lua` file.  The manifest names
the module, its version and entry point, and the capabilities its code
asks for.  A manifest is read leniently: settings it does not know are
ignored.  A module without a name takes its directory's; without an entry
point it starts at `init.lua`.

A valid manifest has a module id for a name (lower-case letters, digits,
hyphens and underscores, not starting with a hyphen or underscore, and not
the reserved `core`), a semantic version if any, an entry point that is a
`.lua` file inside the module, known capabilities and a timeout that is
not negative.
-/
import MudClient.Disk
import MudClient.Failure
import MudClient.Schema.Basic
import MudClient.Text.Path
import MudClient.Time.Duration
import MudClient.Yaml.Decode
import MudClient.Lua.Sandbox

namespace MudClient.Plugin

open MudClient.Schema

def manifestFile : String := "module.yaml"

def defaultMain : String := "init.lua"

def coreModule : String := "core"

def validId (id : String) : Bool :=
  let ok (c : Char) := ('a' ≤ c && c ≤ 'z') || ('0' ≤ c && c ≤ '9')
  match id.toList with
  | c :: rest => ok c && rest.all fun d => ok d || d == '_' || d == '-'
  | [] => false

/-- Whether a text is a semantic version: three numbers, then optionally a
pre-release and build part of letters, digits, dots and hyphens. -/
def isSemver (v : String) : Bool :=
  let tagChar (c : Char) := c.isAlphanum || c == '.' || c == '-'
  let (core, rest) := (v.toList.takeWhile (fun c => c != '-' && c != '+'),
    v.toList.dropWhile (fun c => c != '-' && c != '+'))
  let numbers := (String.ofList core).splitOn "."
  let coreOk := numbers.length == 3 && numbers.all fun n => !n.isEmpty && n.all Char.isDigit
  let tail (marker : Char) (cs : List Char) : Option (List Char) :=
    match cs with
    | c :: more =>
      if c == marker then
        let part := more.takeWhile fun d => d != '+' || marker == '+'
        if part.isEmpty || !part.all tagChar then none else some (more.drop part.length)
      else some cs
    | [] => some []
  coreOk && (match tail '-' rest with
    | some r => tail '+' r == some []
    | none => false)

/-- A module's description. -/
structure Manifest where
  name : String := ""
  version : String := ""
  description : String := ""
  author : String := ""
  main : String := ""
  disabled : Bool := false
  /-- The time its calls may take, in nanoseconds; zero for the default. -/
  timeout : Int := 0
  capabilities : List String := []
  /-- The module directory. -/
  dir : String := ""
  /-- Whether the module is a single `name.lua` file. -/
  single : Bool := false
deriving Repr, Inhabited

def manifestShape : Shape :=
  .record "plugin.Manifest"
    [("name", .text "string"), ("version", .text "string"), ("description", .text "string"),
     ("author", .text "string"), ("main", .text "string"), ("disabled", .flag),
     ("timeout", .span "time.Duration" false),
     ("capabilities", .list "[]lua.Capability" (.text "lua.Capability"))]
    [("name", "Name"), ("version", "Version"), ("description", "Description"),
     ("author", "Author"), ("main", "Main"), ("disabled", "Disabled"), ("timeout", "Timeout"),
     ("capabilities", "Capabilities")]

namespace Manifest

def assign (m : Manifest) (as : List (String × Setting)) : Manifest :=
  as.foldl (fun m (k, s) =>
    match k with
    | "name" => { m with name := s.textOr m.name }
    | "version" => { m with version := s.textOr m.version }
    | "description" => { m with description := s.textOr m.description }
    | "author" => { m with author := s.textOr m.author }
    | "main" => { m with main := s.textOr m.main }
    | "disabled" => { m with disabled := s.flagOr m.disabled }
    | "timeout" => { m with timeout := s.wholeOr m.timeout }
    | "capabilities" => { m with capabilities := s.textsOr m.capabilities }
    | _ => m) m

def withDefaults (m : Manifest) : Manifest :=
  if m.main.isEmpty then { m with main := defaultMain } else m

def minimal (name dir main : String) : Manifest :=
  withDefaults { name, main, dir }

def ofFile (luaPath : String) : Manifest :=
  let file := Path.base luaPath
  let name := if file.endsWith ".lua" then (file.dropEnd 4).toString else file
  { minimal name (Path.dir luaPath) file with single := true }

def broken (c : Condition) (what detail : String) : Failure :=
  { message := "manifest: " ++ what ++ ": " ++ detail, conditions := [c] }

def validate (m : Manifest) : Except Failure Unit := do
  if m.name.isEmpty then
    throw { message := "manifest: name is required", conditions := [.manifestNoName] }
  if !validId m.name || m.name == coreModule then
    throw (broken .manifestBadName "name must be lower-case alphanumeric with hyphens or underscores" m.name)
  if !m.version.isEmpty && !isSemver m.version then
    throw (broken .manifestBadVersion "version must be valid semver" m.version)
  if Path.ext m.main != ".lua" || Path.isAbs m.main || !Path.isLocal m.main then
    throw (broken .manifestBadMain "main must be a .lua file inside the module" m.main)
  for c in m.capabilities do
    if (Lua.Capability.ofName? c).isNone then
      throw (broken .manifestBadCapability "invalid capability" c)
  if m.timeout < 0 then
    throw (broken .manifestBadTimeout "timeout must not be negative" (Time.format m.timeout))

def mainPath (m : Manifest) : String := Path.join [m.dir, m.main]

/-- Whether a change to a path concerns the module: its file, for a
single-file module, or anything inside its directory. -/
def owns (m : Manifest) (path : String) : Bool :=
  let path := Path.clean path
  if m.single then path == Path.clean m.mainPath
  else Path.within m.dir path

def hasCapability (m : Manifest) (c : String) : Bool := m.capabilities.contains c

end Manifest

def invalidManifest (detail : String) : Failure :=
  { message := "invalid module manifest: " ++ detail, conditions := [.manifestInvalid] }

def loadManifest (disk : Disk) (path : String) : Except Failure Manifest := do
  let data ← match disk.read path with
    | .ok b => pure b
    | .error .missing => throw (.plain ("failed to read manifest: open " ++ path ++ ": no such file or directory"))
    | .error .directory => throw (.plain ("failed to read manifest: read " ++ path ++ ": is a directory"))
  let read ← match Yaml.readSettings false manifestShape data with
    | .ok s => pure s
    | .error e => throw (invalidManifest e)
  let m := ({} : Manifest).assign ((read.map Setting.assigns).getD [])
  let dir := Path.dir path
  let m := { m with dir, name := if m.name.isEmpty then Path.base dir else m.name }
  let m := m.withDefaults
  m.validate
  pure m

end MudClient.Plugin
