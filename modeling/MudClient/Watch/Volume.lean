/-
# A watched directory tree

A volume is a tree of files and directories, each with an inode number,
together with the watches set on it.  A watch belongs to an inode and
carries the name it was set under; it reports what happens to the inode
itself under that name, and, on a directory, what happens to the entries
in it under the name joined with the entry's.  The name of a watch does not
follow its inode when the inode is renamed, and setting a watch on an
inode that already has one keeps the first name.

Each operation on the tree answers with the events the watches report, in
the order they are reported:

* creating an entry reports a creation in its directory, and writing to a
  file reports a write in its directory and on the file itself; opening an
  existing file for writing empties it, which counts as a write, while
  writing nothing to a new file reports nothing;
* removing a directory removes everything in it first, deepest first;
  removing an entry reports its removal on itself and then in its
  directory, but the removal on itself is not reported when its directory
  is watched under the directory's own name, and the entry's watch is
  dropped;
* a rename reports a rename in the old directory, a creation in the new
  one and a rename on the entry itself, whose watch is then dropped; an
  entry it replaces is removed as above;
* changing permissions reports nothing the watcher uses.
-/
import MudClient.Watch.Op
import MudClient.Text.Path

namespace MudClient.Watch

/-- An entry of the tree: its full path, inode, whether it is a directory,
and its size. -/
structure Entry where
  path : String
  ino : Nat
  dir : Bool
  size : Nat
deriving DecidableEq, Repr, Inhabited

/-- A tree with watches: the entries, the next inode number, and the
watches as inode and name. -/
structure Volume where
  entries : List Entry := []
  nextIno : Nat := 1
  marks : List (Nat × String) := []
deriving Repr, Inhabited

abbrev Notice := String × Op

def below (dir path : String) : Bool := path.startsWith (dir ++ "/")

def leading (p : String) : List String :=
  let parts := Path.parts p
  (List.range parts.length).map fun i => "/".intercalate (parts.take (i + 1))

namespace Volume

def entry? (v : Volume) (path : String) : Option Entry := v.entries.find? (·.path == path)

def isDir (v : Volume) (path : String) : Bool := (v.entry? path).any (·.dir)

def exists? (v : Volume) (path : String) : Bool := (v.entry? path).isSome

def dirsUnder (v : Volume) (path : String) : List String :=
  ((v.entries.filter fun e => e.dir && (e.path == path || below path e.path)).map (·.path)).mergeSort
    fun a b => decide (a ≤ b)

/-- A volume holding files and directories; the directories of every path
exist too. -/
def ofPaths (root : String) (files : List (String × Nat)) (dirs : List String) : Volume :=
  let ancestors (p : String) : List String := (leading p).dropLast
  let fileSet := files.map (·.1)
  let dirSet := (root :: dirs ++ (fileSet ++ dirs).flatMap ancestors).eraseDups.filter (!fileSet.contains ·)
  let dirSet := dirSet.filter fun d => d == root || below root d
  let all : List (String × Bool × Nat) := dirSet.map (fun d => (d, true, 0)) ++ files.map fun (p, n) => (p, false, n)
  let (entries, next) := all.foldl (fun (acc : List Entry × Nat) (p, d, n) =>
    (acc.1 ++ [⟨p, acc.2, d, n⟩], acc.2 + 1)) ([], 1)
  { entries, nextIno := next }

def markOf (v : Volume) (ino : Nat) : Option String := v.marks.lookup ino

def watching (v : Volume) (name : String) : Bool := v.marks.any (·.2 == name)

/-- Sets a watch on the entry at a path; an inode keeps the name of its
first watch. -/
def mark (v : Volume) (path : String) : Volume :=
  if v.watching path then v
  else match v.entry? path with
    | some e => if (v.markOf e.ino).isSome then v else { v with marks := v.marks ++ [(e.ino, path)] }
    | none => v

def unmark (v : Volume) (ino : Nat) : Volume := { v with marks := v.marks.filter (·.1 != ino) }

def inDir (v : Volume) (path : String) (op : Op) : List Notice :=
  match v.entry? (Path.dir path) with
  | some d => match v.markOf d.ino with
    | some name => [(name ++ "/" ++ Path.base path, op)]
    | none => []
  | none => []

def onSelf (v : Volume) (ino : Nat) (op : Op) : List Notice :=
  match v.markOf ino with
  | some name => [(name, op)]
  | none => []

def deleteSelf (v : Volume) (ino : Nat) : Volume × List Notice :=
  match v.markOf ino with
  | some name =>
    let v := v.unmark ino
    (v, if v.watching (Path.dir name) then [] else [(name, Op.remove)])
  | none => (v, [])

def moveSelf (v : Volume) (ino : Nat) : Volume × List Notice :=
  match v.markOf ino with
  | some name => (v.unmark ino, [(name, Op.rename)])
  | none => (v, [])

def insert (v : Volume) (path : String) (dir : Bool) (size : Nat) : Volume × Entry :=
  let e : Entry := ⟨path, v.nextIno, dir, size⟩
  ({ v with entries := v.entries ++ [e], nextIno := v.nextIno + 1 }, e)

def makeDirs (v : Volume) (path : String) : Volume × List Notice :=
  (leading path).foldl (fun (acc : Volume × List Notice) p =>
    let (v, out) := acc
    if p.isEmpty || v.exists? p then acc
    else
      let (v, _) := v.insert p true 0
      (v, out ++ v.inDir p Op.create)) (v, [])

/-- Writes a file, creating it and its directories when missing, emptying it
first when it exists. -/
def writeFile (v : Volume) (path : String) (size : Nat) : Volume × List Notice :=
  match v.entry? path with
  | some e =>
    if e.dir then (v, [])
    else
      let once := v.inDir path Op.write ++ v.onSelf e.ino Op.write
      let v := { v with entries := v.entries.map fun x => if x.path == path then { x with size } else x }
      (v, once ++ (if size > 0 then once else []))
  | none =>
    let (v, made) := v.makeDirs (Path.dir path)
    let (v, _) := v.insert path false size
    (v, made ++ v.inDir path Op.create ++ (if size > 0 then v.inDir path Op.write else []))

def appendFile (v : Volume) (path : String) (size : Nat) : Volume × List Notice :=
  match v.entry? path with
  | some e =>
    if e.dir || size == 0 then (v, [])
    else
      let v := { v with entries := v.entries.map fun x => if x.path == path then { x with size := x.size + size } else x }
      (v, v.inDir path Op.write ++ v.onSelf e.ino Op.write)
  | none => v.writeFile path size

def unlink (v : Volume) (e : Entry) : Volume × List Notice :=
  let (v, self) := v.deleteSelf e.ino
  let parent := v.inDir e.path Op.remove
  ({ v with entries := v.entries.filter (·.path != e.path) }, self ++ parent)

/-- Orders paths so that everything below a directory comes before it, and
otherwise by name. -/
def deepFirst : List String → List String → Bool
  | x :: xs, y :: ys => if x == y then deepFirst xs ys else decide (x < y)
  | [], _ => false
  | _ :: _, [] => true

def removeAll (v : Volume) (path : String) : Volume × List Notice :=
  let doomed := (v.entries.filter fun e => e.path == path || below path e.path).mergeSort
    fun a b => deepFirst (Path.parts a.path) (Path.parts b.path)
  doomed.foldl (fun (acc : Volume × List Notice) e =>
    let (v, out) := acc
    let (v, more) := v.unlink e
    (v, out ++ more)) (v, [])

def relocate (src dst : String) (x : Entry) : Entry :=
  if x.path == src then { x with path := dst }
  else if below src x.path then { x with path := dst ++ (x.path.drop src.length).toString }
  else x

def rename (v : Volume) (src dst : String) : Volume × List Notice :=
  match v.entry? src with
  | none => (v, [])
  | some e =>
    let target := v.entry? dst
    let blocked := match target with
      | some t => t.dir != e.dir || (t.dir && v.entries.any (below dst ·.path))
      | none => !v.isDir (Path.dir dst)
    if blocked || src == dst || below src dst then (v, [])
    else
      let moved := v.inDir src Op.rename ++ v.inDir dst Op.create
      let v := { v with entries := v.entries.filter fun x => some x != target }
      let v := { v with entries := v.entries.map (relocate src dst) }
      let (v, self) := v.moveSelf e.ino
      let (v, replaced) := match target with
        | some t => v.deleteSelf t.ino
        | none => (v, [])
      (v, moved ++ self ++ replaced)

end Volume

end MudClient.Watch
