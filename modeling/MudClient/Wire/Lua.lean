/-
# Scripts on the wire

One operation runs a sandboxed script: it is created with a deadline,
the files `require` may load and its capabilities, granted more
capabilities, given globals, run, and then asked to call functions and
show globals.  The answer holds every step's failure, if any, what the
script printed, and how its capabilities are checked.
-/
import MudClient.Wire.Basic
import MudClient.Lua.Sandbox
import MudClient.Lua.Bridge

namespace MudClient.Wire

open MudClient.Json (Node)

def noHost : Lua.HostCall Empty Unit := fun h _ _ => nomatch h

def globalsOf (j : Node) (k : String) : Decode (List (String × Data)) :=
  (entries j k).mapM fun (n, v) => do pure (n, ← dataOf depthLimit v)

def runCalls (s : Lua.Script Empty Unit) (calls : List Node) : Decode (List Node × Lua.Script Empty Unit) :=
  calls.foldlM (fun (acc : List Node × Lua.Script Empty Unit) c => do
    let s := acc.2
    let args ← (← items c "args").mapM (dataOf depthLimit)
    let (vals, w1) := match (args.toArray.mapM Lua.toValue).run s.world with
      | .ok vs w => (vs, w)
      | .error _ w => (#[], w)
    let (r, s2) := ({ s with world := w1 } : Lua.Script Empty Unit).call noHost (← text c "name") vals
    let out := match r with
      | .ok vs => obj [("results", arr (vs.toList.map fun v => dataNode (Lua.toData s2.world v)))]
      | .error f => failure f
    pure (acc.1 ++ [out], s2)) ([], s)

def luaOp (j : Node) : Decode Node := do
  let (files, dirs) ← filesOf j
  let moduleDir := if ← flagOr j "module_dir" true then root else ""
  let opts : Lua.ScriptOptions :=
    { timeout := (← wholeOr j "timeout_ms" 2000).toNat, files := { moduleDir, files, dirs },
      capabilities := ← texts j "capabilities" }
  match (Lua.Script.create opts () : Except Failure (Lua.Script Empty Unit)) with
  | .error f => pure (obj [("state_error", failure f)])
  | .ok s => do
    let mut s := s
    let mut out : List (String × Node) := []
    for c in ← texts j "grant" do
      match s.grant c with
      | .ok s2 => s := s2
      | .error f => out := ("grant_error", failure f) :: out
    for (n, d) in ← globalsOf j "globals" do
      s := s.setGlobal n d
    if ← flag j "close_first" then
      s := s.close
      for (n, d) in ← globalsOf j "globals_after_close" do
        s := s.setGlobal n d
    let (r, s2) := s.doString noHost (Bytes.ofString (← text j "code"))
    out := ("do", match r with | .ok _ => .null | .error f => failure f) :: out
    let (calls, s3) ← runCalls s2 (← items j "calls")
    s := s3
    out := ("calls", arr calls) :: out
    let reads ← texts j "read"
    out := ("read", obj (reads.map fun n => (n, dataNode (Lua.toData s.world (s.global n))))) :: out
    if (get? j "string_list").isSome then
      let names ← texts j "string_list"
      out := ("string_list", arr (names.map fun n =>
        match Lua.stringList s.world (s.global n) with
        | some xs => arr (xs.toList.map fun b => str b.toText)
        | none => .null)) :: out
    if (get? j "close_first").isSome then out := ("closed", .bool s.closed) :: out
    out := ("capabilities", strs s.capabilities) :: out
    out := ("check", obj (["io", "net", "os", "unsafe"].map fun c =>
      (c, match s.check c with | .ok _ => .null | .error f => failure f))) :: out
    out := ("printed", arr (s.printed.toList.map fun b => str b.toText)) :: out
    pure (obj out)

end MudClient.Wire
