/-
# The watcher on the wire

One operation names the changes of an operation set; the other builds a
tree from a request's files, watches the paths it lists, performs its file
operations, and reports the changes.  A settle follows the last operation;
then the pending changes are flushed, or the watcher waits for the
debouncer to report a number of changes, or, with `no_flush`, neither.
-/
import MudClient.Wire.Basic
import MudClient.Watch.Watcher

namespace MudClient.Wire

open MudClient.Json (Node)

def rooted (p : String) : String := Path.join [root, p]

def stepOf (j : Node) : Decode Watch.Step := do
  let path := rooted (← text j "path")
  match ← text j "do" with
  | "write" => pure (.write path (← text j "content").utf8ByteSize)
  | "append" => pure (.append path (← textOr j "content" "x").utf8ByteSize)
  | "remove" => pure (.remove path)
  | "mkdir" => pure (.mkdir path)
  | "rename" => pure (.rename path (rooted (← text j "to")))
  | "chmod" => pure (.chmod path)
  | "settle" => pure .settle
  | d => throw ("unknown step " ++ quoteText d)

def changeJson (c : Watch.Change) : Node :=
  obj [("module", str c.module), ("paths", strs (c.paths.map fromRoot)), ("op", str c.op.render)]

def watcherOp (j : Node) : Decode Node := do
  let (files, dirs) ← filesOf j
  let volume := Watch.Volume.ofPaths root (files.map fun (p, b) => (p, b.size)) dirs
  let owners ← (entries j "owners").mapM fun
    | (m, .string p) => pure (m, rooted p)
    | _ => throw "field \"owners\" must map modules to paths"
  let w := Watch.Watcher.create volume owners (← wholeOr j "debounce_ms" 3600000).toNat
  let (results, w) := (← texts j "watch").foldl (fun (acc : List Node × Watch.Watcher) p =>
    match acc.2.watch (rooted p) with
    | .ok w => (acc.1 ++ [.null], w)
    | .error f => (acc.1 ++ [failure f], acc.2)) ([], w)
  let steps ← (← items j "ops").mapM stepOf
  let w := (steps ++ [Watch.Step.settle]).foldl Watch.Watcher.perform w
  let w ← if ← flag j "no_flush" then pure w
    else if ← flag j "wait_fire" then do
      let d := w.debouncer
      pure { w with debouncer := d.waitFor d.pending.length (← wholeOr j "expect_changes" 1).toNat }
    else pure w
  let before := w.changes.length
  let w ← if (← flag j "no_flush") || (← flag j "wait_fire") then pure w else pure w.flush
  let stats := obj [("watched_paths", num w.paths.length), ("changes", num w.changes.length),
    ("errors", num 0)]
  let changes := w.changes
  let w := w.close
  let again := match w.watch root with
    | .ok _ => Node.null
    | .error f => failure f
  pure (obj [("watch", arr results), ("changes", arr (changes.map changeJson)),
    ("fired_before_flush", num before), ("stats", stats), ("close", .null), ("close_again", .null),
    ("watch_after_close", again)])

def watchOps (op : String) (j : Node) : Option (Decode Node) :=
  match op with
  | "watch_op" => some do
    let o : Watch.Op := ⟨(← whole j "bits").toNat⟩
    pure (obj [("string", str o.render), ("create", .bool (o.has .create)), ("write", .bool (o.has .write)),
      ("remove", .bool (o.has .remove)), ("rename", .bool (o.has .rename))])
  | "watcher" => some (watcherOp j)
  | _ => none

end MudClient.Wire
