/-
# Filters

A filter maps field names to the values an event must hold there.  An event
matches when every entry equals the event's field of that name, so the empty
filter matches every event.

Equality is the host's, made kinder to numbers and strings:

* numbers of any type compare by their value as doubles, so `uint8` three
  equals `float64` three, but a single-precision `0.1` is not the double
  `0.1`;
* strings compare as strings;
* anything else matches only a value of the same type that is equal to it:
  booleans by value, pointers by identity (so only two nil pointers are
  equal), and lists and maps never.

A filter is well formed when every entry has a name and a value, and the
value's type can be compared at all.
-/
import MudClient.Event.Basic
import MudClient.Failure
import MudClient.Text.Quote

namespace MudClient.Event

abbrev Filter := List (String × Data)

def fieldEquals (got want : Data) : Bool :=
  match got.number? with
  | some g => match want.number? with
    | some w => g == w
    | none => false
  | none =>
    match got.string? with
    | some g => match want.string? with
      | some w => g == w
      | none => false
    | none =>
      match got, want with
      | .bool a, .bool b => a == b
      | .nilPtr, .nilPtr => true
      | _, _ => false

namespace Filter

def «where» (f : Filter) (name : String) (value : Data) : Filter :=
  (f.filter (·.1 != name)) ++ [(name, value)]

def validate (f : Filter) : Except Failure Unit :=
  let bad (msg : String) : Except Failure Unit :=
    .error { message := "malformed filter: " ++ msg, conditions := [.eventMalformedFilter] }
  f.forM fun (name, value) =>
    if name.isEmpty then bad "empty field name"
    else match value with
      | .null => bad s!"field {Text.quote name} has no value"
      | v => if v.comparable then .ok () else bad s!"field {Text.quote name} has non-comparable {v.typeName}"

def admits (f : Filter) (e : Message) : Bool :=
  f.all fun (name, want) =>
    match e.field name with
    | some got => fieldEquals got want
    | none => false

end Filter

end MudClient.Event
