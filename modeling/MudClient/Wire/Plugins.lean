/-
# Modules on the wire

Operations that load and check module manifests and discover the modules
below search paths.  Paths are written relative to the request's root.
-/
import MudClient.Wire.Config
import MudClient.Plugin.Loader

namespace MudClient.Wire

open MudClient.Json (Node)

def manifestJson (m : Plugin.Manifest) : Node :=
  obj [("name", str m.name), ("version", str m.version), ("description", str m.description),
    ("author", str m.author), ("main", str m.main), ("disabled", .bool m.disabled),
    ("timeout", str (Time.format m.timeout)), ("capabilities", strs m.capabilities),
    ("path", str (fromRoot m.dir)), ("main_path", str (fromRoot m.mainPath)),
    ("single_file", .bool m.single), ("id", str m.name),
    ("has_capability", obj [("os", .bool (m.hasCapability "os")), ("io", .bool (m.hasCapability "io")),
      ("unsafe", .bool (m.hasCapability "unsafe"))])]

def ownsJson (m : Plugin.Manifest) (ps : List String) : Node :=
  arr (ps.map fun p => obj [("path", str p), ("owns", .bool (m.owns (underRoot p)))])

def manifestLoadOp (j : Node) : Decode Node := do
  match Plugin.loadManifest (← diskOf j) (underRoot (← textOr j "path" Plugin.manifestFile)) with
  | .error f => pure (failure f)
  | .ok m => pure (obj [("manifest", manifestJson m), ("owns", ownsJson m (← texts j "owns"))])

def manifestValidateOp (j : Node) : Decode Node := do
  if ← flag j "nil" then
    return obj [("error", failure { message := "manifest is nil", conditions := [.manifestMissing] })]
  let m := Plugin.Manifest.minimal (← text j "name") (underRoot (← textOr j "dir" "mod")) (← text j "main")
  let version ← text j "version"
  let timeout ← whole j "timeout_ns"
  let capabilities ← texts j "capabilities"
  let m := { m with version, timeout, capabilities }
  pure (obj [("error", orNull m.validate), ("main", str m.main), ("owns", ownsJson m (← texts j "owns"))])

def discoveredJson (d : Plugin.Discovered) : Node :=
  let (err, man) := match d.manifest with
    | .ok m => (Node.null, manifestJson m)
    | .error f => (failure f, Node.null)
  obj [("name", str d.name), ("path", str (fromRoot d.path)), ("error", err), ("manifest", man)]

def loaderOp (j : Node) : Decode Node := do
  let disk ← diskOf j
  let paths := (← texts j "paths").map underRoot
  let (found, fault) := Plugin.discover disk paths
  let base := [("discovered", arr (found.map discoveredJson)),
    ("error", match fault with | some f => failure f | none => .null), ("paths", num paths.length)]
  match get? j "find" with
  | some (.string name) =>
    let found := match Plugin.find disk paths name with
      | .ok d => discoveredJson d
      | .error f => failure f
    pure (obj (base ++ [("find", found)]))
  | _ => pure (obj base)

def pluginOps (op : String) (j : Node) : Option (Decode Node) :=
  match op with
  | "manifest_load" => some (manifestLoadOp j)
  | "manifest_validate" => some (manifestValidateOp j)
  | "loader" => some (loaderOp j)
  | _ => none

end MudClient.Wire
