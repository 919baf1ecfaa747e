/-
# Keys, commands and history on the wire

Operations on key specifications, command lines, the command registry and
the input history.  The registry and history operations run a list of
steps over one registry or history and answer each step in turn; the
commands they register record their calls under a label and may fail with
a given message.
-/
import MudClient.Wire.Basic
import MudClient.Key.Code
import MudClient.Command.Registry
import MudClient.History.Navigator

namespace MudClient.Wire

open MudClient.Json (Node)
open MudClient.Session
open MudClient.Command

def keyOps (op : String) (j : Node) : Option (Decode Node) :=
  match op with
  | "key_parse" => some do
    match Key.Code.ofSpec? (← text j "spec") with
    | .ok c => pure (obj [("code", str c.render)])
    | .error e => pure (failure e.toFailure)
  | "key_equal" => some do pure (obj [("equal", .bool (Key.sameKey (← text j "a") (← text j "b")))])
  | "key_is_special" => some do pure (obj [("special", .bool (Key.isSpecial (← text j "name")))])
  | "key_modifier" => some do
    let m := Key.Modifiers.ofName (← text j "name")
    let c := m.union ⟨(← whole j "with").toNat.toUInt8⟩
    pure (obj [("mask", num m.bits.toNat), ("string", str m.render),
      ("combined_mask", num c.bits.toNat), ("combined", str c.render)])
  | "key_from_tcell" => some do
    let e := Key.Terminal.Event.make (← wholeOr j "key" 256) (← whole j "rune") (← whole j "mods")
    pure (obj [("code", str (Key.Code.ofEvent e).render)])
  | _ => none

/-- A command handler described by a request: it records its call under a
label, and fails with a message when it has one. -/
structure Probe where
  label : String
  error : Option String

def commandJson {α : Type} (c : Spec α) : Node :=
  obj [("name", str c.name), ("aliases", strs c.aliases), ("description", str c.description),
    ("owner", str c.owner), ("names", strs c.names)]

def probeOf (s : Node) (name : String) : Decode (Option Probe) := do
  match s with
  | .object ms =>
    match ms.toList.lookup "handler" with
    | none => pure (some ⟨← textOr s "label" name, none⟩)
    | some .null => pure none
    | some hj => pure (some ⟨← textOr s "label" name, ← (get? hj "error").mapM fun _ => text hj "error"⟩)
  | _ => pure none

def dispatchStep (r : Registry Probe) (h : Host) (s : Node) (id : SessionId) :
    Decode (Node × Registry Probe × Host) := do
  let pre ← text s "prefix"
  let before := (h.outputLines id).length
  let run (c : Spec Probe) (args : String) : StateM (List Node) (Option String) := do
    modify (· ++ [obj [("command", str c.handler.label), ("session", num id), ("args", str args)]])
    pure c.handler.error
  let ((handled, res), calls) := (r.dispatch pre id (← text s "text") run h).run []
  let (err, out, h) := match res with
    | .ok h2 => (Node.null, (h2.outputLines id).drop before, h2)
    | .error f => (failure f, [], h)
  let shown := if pre.isEmpty then defaultPrefix else pre
  let base := [("handled", Node.bool handled), ("error", err), ("calls", arr calls),
    ("output", arr (out.map outputJson)), ("prefix", str shown)]
  let extra := if ← flag s "check_registry" then [("same_registry", Node.bool true)] else []
  pure (obj (base ++ extra), r, h)

def registryStep (r : Registry Probe) (h : Host) (s : Node) : Decode (Node × Registry Probe × Host) := do
  let id := (← wholeOr s "session" 1).toNat
  match ← text s "do" with
  | "register" =>
    let name ← text s "name"
    let c : Spec (Option Probe) :=
      ⟨name, ← texts s "aliases", ← text s "description", ← text s "owner", ← probeOf s name⟩
    match r.register id c with
    | .ok r => pure (obj [("error", .null)], r, h)
    | .error e => pure (obj [("error", failure e.toFailure)], r, h)
  | "lookup" =>
    match r.lookup id (← text s "name") with
    | some c => pure (obj [("found", .bool true), ("command", commandJson c)], r, h)
    | none => pure (obj [("found", .bool false)], r, h)
  | "commands" => pure (obj [("commands", arr ((r.commands id).map commandJson))], r, h)
  | "count" => pure (obj [("count", num (r.count id))], r, h)
  | "retract" =>
    let (n, r) := r.retract (← text s "owner")
    pure (obj [("removed", num n)], r, h)
  | "drop" => pure (obj [], r.drop id, h)
  | "suggest" =>
    match r.suggest id (← text s "name") with
    | some n => pure (obj [("ok", .bool true), ("name", str n)], r, h)
    | none => pure (obj [("ok", .bool false), ("name", str "")], r, h)
  | "dispatch" => dispatchStep r h s id
  | d => throw ("unknown step " ++ quoteText d)

def historyState (hist : History.Buffer) : Node :=
  obj [("len", num hist.lines.length), ("cursor", num hist.cursor), ("scrolling", .bool hist.scrolling),
    ("partial", match hist.saved with | some l => lineJson l | none => .null)]

def dirOf (s : Node) : History.Direction :=
  match get? s "dir" with
  | some (.string "prev") => .previous
  | some (.number t) => match intOf? t with
    | some n => History.Direction.ofCode n
    | none => .following
  | _ => .following

def historyStep (skip : Bool) (hist : History.Buffer) (host : Host) (s : Node) :
    Decode (List (String × Node) × History.Buffer × Host) := do
  match ← text s "do" with
  | "append" =>
    let (ok, hist) := hist.append (← lineField s "line")
    pure ([("appended", .bool ok)], hist, host)
  | "append_many" =>
    let pre ← textOr s "prefix" "line"
    let scripted ← flag s "scripted"
    let (n, hist) := (List.range (← whole s "count").toNat).foldl (fun (acc : Nat × History.Buffer) i =>
      let (ok, h) := acc.2.append { sent := pre ++ toString i, scripted }
      (if ok then acc.1 + 1 else acc.1, h)) (0, hist)
    pure ([("appended", num n)], hist, host)
  | "prev" =>
    let (l, hist) := hist.prev (← lineField s "current") (← flag s "skip_scripted")
    pure ([("ok", .bool l.isSome), ("line", lineJson (l.getD {}))], hist, host)
  | "next" =>
    let (st, hist) := hist.next (← flag s "skip_scripted")
    let (o, l) : String × InputLine := match st with
      | .none => ("none", {}) | .line l => ("line", l) | .restore l => ("restore", l)
    pure ([("outcome", str o), ("line", lineJson l)], hist, host)
  | "reset" => pure ([], hist.reset, host)
  | "lines" => pure ([("lines", arr (hist.lines.map lineJson))], hist, host)
  | "set_input" =>
    match host.setInput 1 (← lineField s "line") with
    | .ok h => pure ([("error", .null)], hist, h)
    | .error f => pure ([("error", failure f)], hist, host)
  | "set_password" =>
    match host.setPassword 1 (← flagOr s "on" true) with
    | .ok h => pure ([("error", .null)], hist, h)
    | .error f => pure ([("error", failure f)], hist, host)
  | "navigate" =>
    let dir := dirOf s
    let ((changed, res), hist) := History.navigate hist host 1 skip dir
    let (err, host) := match res with
      | .ok h => (Node.null, h)
      | .error f => (failure f, host)
    pure ([("changed", .bool changed), ("error", err), ("dir", str dir.name)], hist, host)
  | d => throw ("unknown step " ++ quoteText d)

def historyOp (j : Node) : Decode Node := do
  let skip ← flag j "skip_scripted"
  let host : Host := if ← flagOr j "open_session" true then (({} : Host).openSession {}).2 else {}
  let (out, hist, host) ← (← items j "steps").foldlM (fun (acc : List Node × History.Buffer × Host) s => do
      let (fs, h2, host2) ← historyStep skip acc.2.1 acc.2.2 s
      pure (acc.1 ++ [obj (fs ++ [("state", historyState h2), ("input", lineJson (host2.input 1))])], h2, host2))
    ([], History.Buffer.new (← whole j "capacity"), host)
  let _ := host
  pure (obj [("capacity", num hist.capacity), ("steps", arr out)])

def registryOp (j : Node) : Decode Node := do
  let n := (← wholeOr j "sessions" 2).toNat
  let host := (List.range n).foldl (fun h _ => (h.openSession {}).2) ({} : Host)
  let (out, _, _) ← (← items j "steps").foldlM (fun (acc : List Node × Registry Probe × Host) s => do
      let (v, r2, h2) ← registryStep acc.2.1 acc.2.2 s
      pure (acc.1 ++ [v], r2, h2)) ([], {}, host)
  pure (obj [("steps", arr out)])

def commandOps (op : String) (j : Node) : Option (Decode Node) :=
  match op with
  | "command_parse" => some do
    match Line.parse? (← text j "input") (← text j "prefix") with
    | none => pure (obj [("ok", .bool false)])
    | some l => pure (obj [("ok", .bool true), ("name", str l.name), ("args", strs l.args),
        ("raw", str l.raw), ("remainder", str l.remainder)])
  | "fuzzy_match" => some do
    let ms := fuzzyMatch (← text j "query") (← texts j "names")
    pure (obj [("matches", arr (ms.map fun m => obj [("name", str m.name), ("score", num m.score)]))])
  | "command_registry" => some (registryOp j)
  | "history" => some (historyOp j)
  | "input_line" => some do
    let l ← lineField j "line"
    let w := match get? j "with_original" with
      | some (.string o) => lineJson (l.withOriginal o)
      | _ => .null
    pure (obj [("blank", .bool l.blank), ("has_original", .bool l.hasOriginal),
      ("for_display", lineJson l.forDisplay), ("string", str l.text), ("with_original", w)])
  | _ => none

end MudClient.Wire
