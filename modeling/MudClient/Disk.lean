/-
# The files the client can see

A `Disk` is a set of files with their contents and of directories,
all by full path.  Reading a path gives its contents, or says that nothing
is there or that it is a directory; a directory also exists when some file
or directory lies below it.  A directory lists the names directly inside
it in byte order.  Writing a file makes the directories above it;
removing one leaves them.
-/
import MudClient.Text.Bytes
import MudClient.Text.Path

namespace MudClient

/-- Files by full path with their contents, and directories by full path. -/
structure Disk where
  files : List (String × Bytes) := []
  dirs : List String := []
deriving Inhabited

/-- Why a path could not be read. -/
inductive ReadFault where
  | missing
  | directory
deriving DecidableEq, Repr

namespace Disk

def isDir (d : Disk) (path : String) : Bool :=
  let below (p : String) := p.startsWith (path ++ "/")
  d.dirs.contains path || d.dirs.any below || d.files.any (below ·.1)

def read (d : Disk) (path : String) : Except ReadFault Bytes :=
  match d.files.lookup path with
  | some b => .ok b
  | none => if d.isDir path then .error .directory else .error .missing

def present (d : Disk) (path : String) : Bool :=
  (d.files.lookup path).isSome || d.isDir path

/-- The names directly inside a directory, in byte order without repeats,
each with whether it is a directory itself. -/
def entries (d : Disk) (path : String) : List (String × Bool) :=
  let pre := path ++ "/"
  let names := (d.files.map (·.1) ++ d.dirs).filterMap fun p =>
    if p.startsWith pre then
      match Path.parts (p.drop pre.length).toString with
      | n :: _ => if n.isEmpty then none else some n
      | [] => none
    else none
  let sorted := (names.mergeSort fun a b => decide (a ≤ b)).eraseDups
  sorted.map fun n => (n, d.isDir (pre ++ n))

def parentOf (path : String) : String :=
  match (path.splitOn "/").dropLast with
  | [] => ""
  | parts => "/".intercalate parts

def write (d : Disk) (path : String) (content : Bytes) : Disk :=
  if d.files.any (·.1 == path) then
    { d with files := d.files.map fun (p, b) => if p == path then (p, content) else (p, b) }
  else { d with files := d.files ++ [(path, content)] }

/-- Removes a file, or a directory with nothing in it; the directory above
stays.  Answers the text of the fault when nothing can be removed. -/
def remove (d : Disk) (path : String) : Except String Disk :=
  let parent := parentOf path
  let keep (dirs : List String) : List String :=
    if parent.isEmpty || dirs.contains parent then dirs else dirs ++ [parent]
  if d.files.any (·.1 == path) then
    .ok { files := d.files.filter (·.1 != path), dirs := keep d.dirs }
  else if d.isDir path then
    if (d.entries path).isEmpty then .ok { d with dirs := keep (d.dirs.filter (· != path)) }
    else .error ("remove " ++ path ++ ": directory not empty")
  else .error ("remove " ++ path ++ ": no such file or directory")

end Disk

end MudClient
