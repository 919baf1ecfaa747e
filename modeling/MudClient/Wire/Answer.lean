/-
# Answering requests

A request is one JSON object naming its operation in `op`; the answer is
one JSON object.  A request that cannot be read, or names no operation, is
answered with a `BadInput` error and a message saying why.
-/
import MudClient.Wire.Commands
import MudClient.Wire.Events
import MudClient.Wire.Lua
import MudClient.Wire.Plugins
import MudClient.Wire.Watch
import MudClient.Wire.Manager
import MudClient.Wire.Engine
import MudClient.Wire.Cli

namespace MudClient.Wire

open MudClient.Json (Node)

def badInput (message : String) : Node := obj [("error", str "BadInput"), ("message", str message)]

def operation (op : String) (j : Node) : Option (Decode Node) :=
  keyOps op j <|> commandOps op j <|> eventOps op j <|> configOps op j <|> pluginOps op j <|> watchOps op j <|>
    (if op == "lua" then some (luaOp j) else if op == "manager" then some (managerOp j)
     else if op == "runtime" then some (runtimeOp j) else if op == "cli" then some (cliOp j) else none)

def answer (j : Node) : Node :=
  let r : Decode Node := do
    let op ← text j "op"
    match operation op j with
    | some r => r
    | none => throw ("unknown op " ++ quoteText op)
  match r with
  | .ok v => v
  | .error m => badInput m

def respond (line : String) : String :=
  render depthLimit <| match Json.readValue (Bytes.ofString line) with
    | .ok (some j) => answer j
    | .ok none => badInput "empty request"
    | .error e => badInput e.message

end MudClient.Wire
