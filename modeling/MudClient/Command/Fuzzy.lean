/-
# Fuzzy matching of command names

A query matches a name, ignoring case, when its characters occur in the name
in order.  The match takes for each query character the first fitting
position after the one before, and is scored: a base of 100, a bonus for each
pair of neighbouring positions, for each position at a word boundary and for
a match at the very start, a penalty for the gaps between the first and last
position and for a late start, a bonus for short names and one for a name
that starts with the query.  A score is at least 1.

Matches are ranked by score, highest first, then by name.
-/
import MudClient.Text.Case
import MudClient.Text.Letter

namespace MudClient.Command

/-- A name that a query matches, with its score. -/
structure Match where
  name : String
  score : Int
deriving DecidableEq, Repr

/-- The positions at which the query's characters first occur in order in
the name, starting from position `i`, if they all do. -/
def matchFrom : List Char → List Char → Nat → Option (List Nat)
  | [], _, _ => some []
  | _ :: _, [], _ => none
  | q :: qs, c :: cs, i =>
    if c = q then (matchFrom qs cs (i + 1)).map (i :: ·) else matchFrom (q :: qs) cs (i + 1)

/-- The match positions of a query in a name; an empty query or one longer
than the name matches nothing. -/
def matchPositions (query name : List Char) : Option (List Nat) :=
  if query.isEmpty || query.length > name.length then none else matchFrom query name 0

/-- Whether position `i` of a name starts a word: it is the first position,
follows an underscore, hyphen or dot, or changes between digits and other
characters. -/
def atBoundary (name : List Char) (i : Nat) : Bool :=
  match i with
  | 0 => true
  | j + 1 =>
    match name[j]?, name[i]? with
    | some p, some c => p = '_' || p = '-' || p = '.' || Text.isDigit p != Text.isDigit c
    | _, _ => false

def adjacentPairs : List Nat → Nat
  | a :: b :: rest => (if b = a + 1 then 1 else 0) + adjacentPairs (b :: rest)
  | _ => 0

def score (query name : List Char) (pos : List Nat) : Int :=
  let first := pos.headD 0
  let last := pos.getLastD 0
  let s : Int := 100 + 20 * adjacentPairs pos + 15 * (pos.filter (atBoundary name)).length
  let s := if first = 0 then s + 25 else s
  let gap : Int := (last : Int) - first - pos.length + 1
  let s := if gap > 0 then s - 2 * gap else s
  let s := s - first
  let s := if name.length < 20 then s + (20 - name.length) else s
  let s := if query.isPrefixOf name then s + 50 else s
  max s 1

def Match.before (a b : Match) : Bool := a.score > b.score || (a.score == b.score && a.name ≤ b.name)

/-- The names a query matches, ranked; names that rank equal keep their
order. -/
def fuzzyMatch (query : String) (names : List String) : List Match :=
  let q := (Text.lower query).toList
  let found := names.filterMap fun name =>
    let n := (Text.lower name).toList
    (matchPositions q n).map fun pos => { name, score := score q n pos }
  found.mergeSort Match.before

end MudClient.Command
