/-
# Slash-separated paths

File paths are texts of parts separated by `/`; a path that starts with a
slash is absolute.  `clean` gives the shortest path that names the same
place by reading the parts as a stack: empty parts and `.` are dropped,
and `..` takes back the part before it, or stays at the front of a
relative path, or is dropped at the root.  The other functions are
defined through it.
-/

namespace MudClient.Path

def parts (p : String) : List String := (p.toList.splitOn '/').map String.ofList

def pushPart (rooted : Bool) (acc : List String) (part : String) : List String :=
  if part == "" || part == "." then acc
  else if part == ".." then
    match acc with
    | top :: rest => if top == ".." then ".." :: acc else rest
    | [] => if rooted then [] else [".."]
  else part :: acc

def clean (p : String) : String :=
  if p.isEmpty then "."
  else
    let rooted := p.startsWith "/"
    let kept := ((parts p).foldl (pushPart rooted) []).reverse
    let body := "/".intercalate kept
    if rooted then "/" ++ body
    else if body.isEmpty then "." else body

def join (ps : List String) : String :=
  match ps.filter (!·.isEmpty) with
  | [] => ""
  | qs => clean ("/".intercalate qs)

def isAbs (p : String) : Bool := p.startsWith "/"

def base (p : String) : String :=
  if p.isEmpty then "."
  else
    let trimmed := (p.toList.reverse.dropWhile (· == '/')).reverse
    if trimmed.isEmpty then "/"
    else String.ofList (trimmed.reverse.takeWhile (· != '/')).reverse

def dir (p : String) : String :=
  let front := (p.toList.reverse.dropWhile (· != '/')).reverse
  clean (String.ofList front)

def ext (p : String) : String :=
  let last := (p.toList.reverse.takeWhile (· != '/')).reverse
  match (last.reverse.takeWhile (· != '.')).length, last.contains '.' with
  | n, true => String.ofList (last.drop (last.length - n - 1))
  | _, false => ""

/-- Whether a path stays inside the directory it is read from: relative,
not empty, and not climbing out with `..`. -/
def isLocal (p : String) : Bool :=
  if isAbs p || p.isEmpty then false
  else
    let c := if (parts p).any (fun q => q == "." || q == "..") then clean p else p
    !(c == ".." || c.startsWith "../")

def rel (start target : String) : Option String :=
  let b := clean start
  let t := clean target
  if b == t then some "."
  else
    let b := if b == "." then "" else b
    if isAbs b != isAbs t then none
    else
      let bs := (parts b).filter (!·.isEmpty)
      let ts := (parts t).filter (!·.isEmpty)
      let common := ((bs.zip ts).takeWhile fun q => q.1 == q.2).length
      let bRest := bs.drop common
      let tRest := ts.drop common
      if bRest.head? == some ".." then none
      else some ("/".intercalate (bRest.map (fun _ => "..") ++ tRest))

/-- Whether a path lies inside a directory or is the directory itself: the
path to it from the directory does not climb out. -/
def within (dir path : String) : Bool :=
  match rel dir path with
  | some r => isLocal r
  | none => false

end MudClient.Path
