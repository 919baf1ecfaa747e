/-
# The shape of a configuration document

`shape` describes the settings a configuration document may hold, with the
host type behind each one; `Settings.assign` lays what a document assigns
over a configuration.  Every reader of a format goes through these two, so
all formats agree on what a document means.
-/
import MudClient.Config.Basic
import MudClient.Schema.Basic

namespace MudClient.Config

open MudClient.Schema

def mudShape : Shape :=
  .record "config.MUD"
    [("name", .text "string"), ("host", .text "string"), ("port", .whole "int"),
     ("tls", .flag), ("character", .text "string"), ("extra", .textMap "map[string]string")]
    [("name", "Name"), ("host", "Host"), ("port", "Port"), ("tls", "TLS"),
     ("character", "Character"), ("extra", "Extra")]

def shape : Shape :=
  .record "config.Config"
    [("scripts", .record "config.Scripts"
        [("dirs", .list "[]string" (.text "string")), ("watch", .flag),
         ("debounce", .span "config.Duration" true), ("timeout", .span "config.Duration" true),
         ("disabled", .list "[]string" (.text "string"))]
        [("dirs", "Dirs"), ("watch", "Watch"), ("debounce", "Debounce"), ("timeout", "Timeout"),
         ("disabled", "Disabled")]),
     ("history", .record "config.History"
        [("capacity", .whole "int"), ("skip_scripted", .flag), ("prev_key", .text "string"),
         ("next_key", .text "string")]
        [("capacity", "Capacity"), ("skip_scripted", "SkipScripted"), ("prev_key", "PrevKey"),
         ("next_key", "NextKey")]),
     ("commands", .record "config.Commands" [("prefix", .text "string")] [("prefix", "Prefix")]),
     ("logging", .record "config.Logging" [("level", .text "string"), ("format", .text "string")]
        [("level", "Level"), ("format", "Format")]),
     ("metrics", .record "config.Metrics" [("addr", .text "string")] [("addr", "Addr")]),
     ("muds", .list "[]config.MUD" mudShape)]
    [("scripts", "Scripts"), ("history", "History"), ("commands", "Commands"),
     ("logging", "Logging"), ("metrics", "Metrics"), ("muds", "MUDs")]

def Scripts.assign (c : Scripts) (as : List (String × Setting)) : Scripts :=
  as.foldl (fun c (k, s) =>
    match k with
    | "dirs" => { c with dirs := s.textsOr c.dirs }
    | "watch" => { c with watch := s.flagOr c.watch }
    | "debounce" => { c with debounce := s.wholeOr c.debounce }
    | "timeout" => { c with timeout := s.wholeOr c.timeout }
    | "disabled" => { c with disabled := s.textsOr c.disabled }
    | _ => c) c

def History.assign (c : History) (as : List (String × Setting)) : History :=
  as.foldl (fun c (k, s) =>
    match k with
    | "capacity" => { c with capacity := s.wholeOr c.capacity }
    | "skip_scripted" => { c with skipScripted := s.flagOr c.skipScripted }
    | "prev_key" => { c with prevKey := s.textOr c.prevKey }
    | "next_key" => { c with nextKey := s.textOr c.nextKey }
    | _ => c) c

def Mud.assign (m : Mud) (as : List (String × Setting)) : Mud :=
  as.foldl (fun m (k, s) =>
    match k with
    | "name" => { m with name := s.textOr m.name }
    | "host" => { m with host := s.textOr m.host }
    | "port" => { m with port := s.wholeOr m.port }
    | "tls" => { m with tls := s.flagOr m.tls }
    | "character" => { m with character := s.textOr m.character }
    | "extra" => { m with extra := s.mapOr m.extra }
    | _ => m) m

def mudsOr (s : Setting) (cur : List Mud) : List Mud :=
  match s with
  | .list items => items.map fun i => match i with
    | some it => Mud.assign {} it.assigns
    | none => {}
  | .clear => []
  | _ => cur

def Logging.assign (l : Logging) (as : List (String × Setting)) : Logging :=
  as.foldl (fun l (k, s) =>
    match k with
    | "level" => { l with level := s.textOr l.level }
    | "format" => { l with format := s.textOr l.format }
    | _ => l) l

def Commands.assign (c : Commands) (as : List (String × Setting)) : Commands :=
  as.foldl (fun c (k, s) => if k == "prefix" then { leader := s.textOr c.leader } else c) c

def Metrics.assign (m : Metrics) (as : List (String × Setting)) : Metrics :=
  as.foldl (fun m (k, s) => if k == "addr" then { addr := s.textOr m.addr } else m) m

def Settings.assign (c : Settings) (as : List (String × Setting)) : Settings :=
  as.foldl (fun c (k, s) =>
    match k with
    | "scripts" => { c with scripts := c.scripts.assign s.assigns }
    | "history" => { c with history := c.history.assign s.assigns }
    | "commands" => { c with commands := c.commands.assign s.assigns }
    | "logging" => { c with logging := c.logging.assign s.assigns }
    | "metrics" => { c with metrics := c.metrics.assign s.assigns }
    | "muds" => { c with muds := mudsOr s c.muds }
    | _ => c) c

def heldTexts (xs : List String) : Held := .list (xs.map Held.text).toArray xs.length

def Mud.held (m : Mud) : Held :=
  .record [("name", .text m.name), ("host", .text m.host), ("port", .whole m.port),
    ("tls", .flag m.tls), ("character", .text m.character), ("extra", .map m.extra)]

def Settings.held (c : Settings) : Held :=
  .record
    [("scripts", .record [("dirs", heldTexts c.scripts.dirs), ("watch", .flag c.scripts.watch),
        ("debounce", .span c.scripts.debounce), ("timeout", .span c.scripts.timeout),
        ("disabled", heldTexts c.scripts.disabled)]),
     ("history", .record [("capacity", .whole c.history.capacity),
        ("skip_scripted", .flag c.history.skipScripted), ("prev_key", .text c.history.prevKey),
        ("next_key", .text c.history.nextKey)]),
     ("commands", .record [("prefix", .text c.commands.leader)]),
     ("logging", .record [("level", .text c.logging.level), ("format", .text c.logging.format)]),
     ("metrics", .record [("addr", .text c.metrics.addr)]),
     ("muds", .list (c.muds.map Mud.held).toArray c.muds.length)]

end MudClient.Config
