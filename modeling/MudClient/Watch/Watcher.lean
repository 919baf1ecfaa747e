/-
# The script watcher

The watcher turns events on a watched tree into debounced changes per
module.  Watching a directory watches it and every directory below it
except hidden ones (those whose name starts with a dot); watching a file
watches that file; watching a missing path fails.  Every path watched is
remembered for good, so watching it again later does nothing, even after it
was removed and made again.

An event is dropped when it has no operation the watcher knows or names a
hidden entry.  A creation of a directory watches the new directory and is
queued whatever its name; any other event is queued only for Lua sources
and manifests that are not editor backups.  A queued event goes to the
group of the module that owns its path: the module whose path is the
event's or its longest directory above it, or the empty module.

Events are taken in the order the tree reports them, after the operation
that caused them is complete, so an entry made inside a directory made by
the same operation is not seen.
-/
import MudClient.Watch.Debounce
import MudClient.Watch.Volume
import MudClient.Failure

namespace MudClient.Watch

def manifestName : String := "module.yaml"

def hidden (path : String) : Bool := (Path.base path).startsWith "."

/-- Whether a file can change a module: a Lua source or a manifest that is
not an editor backup. -/
def relevant (path : String) : Bool :=
  let base := Path.base path
  !base.endsWith "~" && (Path.ext base == ".lua" || base == manifestName)

def noSuchPath : Failure := { message := "path does not exist", conditions := [.watchNoPath] }

def closedFailure : Failure := { message := "watcher is closed", conditions := [.watcherClosed] }

def defaultDelay : Nat := 200

/-- A watcher over a tree: the modules with the paths they own, every path
watched, and the debouncer of its changes. -/
structure Watcher where
  volume : Volume
  owners : List (String × String)
  paths : List String := []
  closed : Bool := false
  debouncer : Debouncer
deriving Inhabited

/-- A file operation a caller performs on the tree. -/
inductive Step where
  | write (path : String) (size : Nat)
  | append (path : String) (size : Nat)
  | remove (path : String)
  | mkdir (path : String)
  | rename (src dst : String)
  | chmod (path : String)
  /-- Waits until no event arrived for a while. -/
  | settle
deriving DecidableEq, Repr

def settleTime : Nat := 40

namespace Watcher

def create (volume : Volume) (owners : List (String × String)) (delay : Nat) : Watcher :=
  { volume, owners, debouncer := { delay := if delay > 0 then delay else defaultDelay } }

/-- The module that owns a path: the owner of the path itself or of its
longest directory above it, or the empty module. -/
def moduleFor (w : Watcher) (path : String) : String :=
  let owning := w.owners.filter fun (_, o) => o == path || below o path
  match owning.foldl (fun best c => match best with
      | some b => if c.2.length > b.2.length then some c else some b
      | none => some c) none with
  | some (m, _) => m
  | none => ""

def add (w : Watcher) (path : String) : Except Failure Watcher :=
  if w.closed then .error closedFailure
  else if w.paths.contains path then .ok w
  else .ok { w with volume := w.volume.mark path, paths := w.paths ++ [path] }

def underHidden (top dir : String) : Bool :=
  ((Path.parts (dir.drop (top.length + 1)).toString).any (·.startsWith "."))

/-- Watches a path: a file, or a directory with the directories below it
that are not hidden. -/
def watch (w : Watcher) (path : String) : Except Failure Watcher :=
  match w.volume.entry? path with
  | none => .error noSuchPath
  | some e =>
    if !e.dir then w.add path
    else
      let dirs := (w.volume.dirsUnder path).filter fun d => d == path || !underHidden path d
      dirs.foldlM add w

def queue (resolve : String → String) (w : Watcher) (path : String) (op : Op) : Watcher :=
  { w with debouncer := w.debouncer.add (resolve path) path op }

/-- Takes one event from the tree, grouping it by the module `resolve`
names for its path. -/
def handle (resolve : String → String) (w : Watcher) (n : Notice) : Watcher :=
  let (path, op) := n
  if w.closed || op.isEmpty || hidden path then w
  else if op.has Op.create && w.volume.isDir path then
    let w := match w.watch path with
      | .ok w => w
      | .error _ => w
    w.queue resolve path op
  else if relevant path then w.queue resolve path op
  else w

/-- Performs a file operation and takes the events it causes, grouping them
by the module `resolve` names. -/
def performWith (resolve : String → String) (w : Watcher) (s : Step) : Watcher :=
  let result : Volume × List Notice := match s with
    | .write p n => w.volume.writeFile p n
    | .append p n => w.volume.appendFile p n
    | .remove p => w.volume.removeAll p
    | .mkdir p => w.volume.makeDirs p
    | .rename a b => w.volume.rename a b
    | .chmod _ | .settle => (w.volume, [])
  let w := { w with volume := result.1 }
  let w := result.2.foldl (handle resolve) w
  match s with
  | .settle => { w with debouncer := w.debouncer.advance (w.debouncer.now + settleTime) }
  | _ => w

/-- Performs a file operation, grouping its events by the modules the
watcher's owners give. -/
def perform (w : Watcher) (s : Step) : Watcher := w.performWith w.moduleFor s

def flush (w : Watcher) : Watcher := { w with debouncer := w.debouncer.flush }

def close (w : Watcher) : Watcher := { w with closed := true, debouncer := w.debouncer.stop }

def changes (w : Watcher) : List Change := w.debouncer.fired

end Watcher

end MudClient.Watch
