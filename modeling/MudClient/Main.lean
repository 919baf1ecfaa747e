/-
# The mudscript command line

Reads the arguments and the variables the program looks at, runs the
program, and prints what it writes.  A session reads standard input a line
at a time and prints its output as each line is handled.  The program sees
no files of its own: it runs its built-in modules only.
-/
import MudClient.Console.Program

open MudClient.Console

def variableNames : List String :=
  "HOME" :: MudClient.Config.envSetters.map fun (n, _) => MudClient.Config.envPrefix ++ n

def lineText (line : String) : String :=
  let line := if line.endsWith "\n" then (line.dropEnd 1).toString else line
  if line.endsWith "\r" then (line.dropEnd 1).toString else line

partial def converse (stdin stdout : IO.FS.Stream) (id : Nat) (c : Screen) : IO Screen := do
  let line ← stdin.getLine
  if line.isEmpty then return c
  let (more, next) := Id.run ((step id (lineText line)).run c)
  stdout.putStr (next.printed.drop c.printed.length).toString
  stdout.flush
  if more then converse stdin stdout id next else return next

def main (args : List String) : IO UInt32 := do
  let mut env := []
  for n in variableNames do
    if let some v ← IO.getEnv n then env := env ++ [(n, v)]
  let workDir := (← IO.getEnv "PWD").getD "."
  let stdin ← IO.getStdin
  let stdout ← IO.getStdout
  let stderr ← IO.getStderr
  let ending ← match plan { args, env, workDir } with
    | .done e => pure e
    | .session e mud character => do
      let ((id, fault), c) := Id.run ((begin mud character).run { engine := e })
      stdout.putStr c.printed
      let c ← converse stdin stdout id c
      let (_, last) := Id.run ((finish id fault).run c)
      stdout.putStr (last.printed.drop c.printed.length).toString
      pure (sessionEnding "" fault)
  stdout.putStr ending.stdout
  stderr.putStr ending.stderr
  stdout.flush
  pure ending.exit.toUInt32
