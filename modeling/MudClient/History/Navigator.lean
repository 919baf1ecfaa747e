/-
# Scrolling a session's input field through its history

The navigator ties a history to a session's input field.  A step back shows
the older line in the field, as it is displayed; a step forward shows the
newer one, or gives back the line that was being typed, emptying the field
when that line is blank.  Nothing moves while the field hides what is typed.

## Main statements

* `navigate`: one step in a direction; answers whether the field changed and
  the host afterwards, or the failure to change it.
-/
import MudClient.Failure
import MudClient.Session.Host
import MudClient.History.Basic

namespace MudClient.History

open Session

/-- A direction of scrolling; any other code is carried as given. -/
inductive Direction where
  | previous
  | following
  | other (code : Int)
deriving DecidableEq, Repr

namespace Direction

def ofCode (n : Int) : Direction :=
  if n = 0 then .previous else if n = 1 then .following else .other n

def name : Direction → String
  | .previous => "prev"
  | _ => "next"

end Direction

def showLine (host : Host) (id : SessionId) (l : InputLine) : Except Failure Host :=
  match host.setInput id l with
  | .ok h => .ok h
  | .error f => .error (f.wrap ("set input for session " ++ toString id))

def navigate (hist : Buffer) (host : Host) (id : SessionId) (skipScripted : Bool)
    (dir : Direction) : (Bool × Except Failure Host) × Buffer :=
  if host.isPassword id then ((false, .ok host), hist)
  else match dir with
    | .previous =>
      match hist.prev (host.input id) skipScripted with
      | (some l, hist) => ((true, showLine host id l.forDisplay), hist)
      | (none, hist) => ((false, .ok host), hist)
    | .following =>
      match hist.next skipScripted with
      | (.line l, hist) => ((true, showLine host id l.forDisplay), hist)
      | (.restore l, hist) =>
        if l.blank then ((true, host.clearInput id), hist) else ((true, showLine host id l), hist)
      | (.none, hist) => ((false, .ok host), hist)
    | .other n => ((false, .error (Failure.plain ("unknown direction " ++ toString n))), hist)

end MudClient.History
