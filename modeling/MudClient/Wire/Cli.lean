/-
# The program's command line on the wire

One operation runs the program with the request's arguments, input and
files, in the root as working directory.  The environment holds `HOME`,
the root, and a search path, with the request's variables over them.  The
answer is the status, what the program printed, and the lines of its
error stream that report a fault.
-/
import MudClient.Wire.Basic
import MudClient.Console.Program

namespace MudClient.Wire

open MudClient.Json (Node)

def faultLines (stderr : String) : List String :=
  (stderr.splitOn "\n").filter (·.startsWith "Error: ")

def cliOp (j : Node) : Decode Node := do
  let (files, dirs) ← filesOf j
  let given ← (entries j "env").mapM fun
    | (k, .string v) => pure (k, v)
    | _ => throw "field \"env\" must map names to strings"
  let base := [("HOME", root), ("PATH", "/usr/bin:/bin")]
  let env := given ++ base.filter fun (k, _) => !given.any (·.1 == k)
  let e := Console.run { args := ← texts j "args", env, stdin := ← text j "stdin",
                         disk := { files, dirs }, workDir := root }
  pure (obj [("exit", num e.exit), ("stdout", str e.stdout), ("stderr_errors", strs (faultLines e.stderr))])

end MudClient.Wire
