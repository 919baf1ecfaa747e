/-
# Commands of a program and their help

A program has a tree of commands: the program itself at the root, and
commands below it, each named by the words that lead to it.  A command
has its own flags and flags it passes on to every command below it.

Finding the command a command line names walks down the tree: at each
command the first word that is neither a flag nor a flag's value names
the next command, and that word is taken out.  A word that names no
command stops the walk; at the root, such a word is refused, with the
commands spelled like it as suggestions.  What is left is read against the
flags the command sees, its own, those passed on to it, and `help`.  A
command asked for help, or one that does nothing itself, shows its help.

While the walk looks for the next command it does not know the `help`
flag yet, so it takes `-h` and `--help` for flags with a value.

The help of a command is its description, then its usage: how it is
called, the commands below it, its flags, and the flags passed on to it.
Every program also has a `help` command and a `completion` command.
-/
import MudClient.CommandLine.Flag
import MudClient.Text.Case

namespace MudClient.CommandLine

/-- A command: the words that name it below the program, how its call
reads, what it is for in one line and at length, its flags, the flags it
passes on, whether it does anything itself, and whether help lists it. -/
structure Command where
  path : List String
  use : String
  short : String := ""
  long : String := ""
  flags : List Flag := []
  persistent : List Flag := []
  runnable : Bool := true
  hidden : Bool := false
deriving Repr

/-- A program: its name and its commands, the root among them. -/
structure Program where
  name : String
  commands : List Command
deriving Repr

namespace Program

def command? (p : Program) (path : List String) : Option Command := p.commands.find? (·.path == path)

def root (p : Program) : Command := (p.command? []).getD { path := [], use := p.name, runnable := false }

def nameOf (p : Program) (c : Command) : String := c.path.getLast?.getD p.name

def children (p : Program) (path : List String) : List Command :=
  (p.commands.filter fun c => c.path.length == path.length + 1 && c.path.take path.length == path).mergeSort
    fun a b => decide (p.nameOf a ≤ p.nameOf b)

def commandPath (p : Program) (c : Command) : String := " ".intercalate (p.name :: c.path)

def inherited (p : Program) (c : Command) : List Flag :=
  (List.range c.path.length).flatMap fun k => ((p.command? (c.path.take k)).map (·.persistent)).getD []

def helpFlag (name : String) : Flag :=
  { name := "help", shorthand := some 'h', usage := "help for " ++ name, kind := .switch }

def localFlags (p : Program) (c : Command) : List Flag := c.flags ++ c.persistent ++ [helpFlag (p.nameOf c)]

def flagsOf (p : Program) (c : Command) (help : Bool) : List Flag :=
  c.flags ++ c.persistent ++ p.inherited c ++ (if help then [helpFlag (p.nameOf c)] else [])

/-- Whether help lists a command: it is not hidden, it is not the `help`
command, and it does something or has such commands below it. -/
def available (p : Program) : Nat → Command → Bool
  | 0, _ => false
  | fuel + 1, c =>
    !c.hidden && c.path != ["help"] && (c.runnable || (p.children c.path).any (available p fuel))

def hasAvailable (p : Program) (c : Command) : Bool :=
  (p.children c.path).any (p.available p.commands.length)

end Program

/-! ## Finding the command -/

def switchNamed (fs : List Flag) (name : String) : Bool :=
  ((lookupName fs name).map (·.kind == .switch)).getD false

def switchLetter (fs : List Flag) (letters : String) : Bool :=
  match letters.toList with
  | c :: _ => ((lookupShort fs c).map (·.kind == .switch)).getD false
  | [] => false

def takesValue (fs : List Flag) (w : String) : Bool :=
  (w.startsWith "--" && !w.contains '=' && !switchNamed fs (w.drop 2).toString) ||
  (w.startsWith "-" && !w.contains '=' && w.utf8ByteSize == 2 && !switchLetter fs (w.drop 1).toString)

/-- The words of a command line that may name commands: neither flags nor
their values.  A flag that takes a value and comes second to last or last
ends the search. -/
def commandWords (fs : List Flag) : Nat → List String → List String
  | 0, _ => []
  | _, [] => []
  | fuel + 1, w :: rest =>
    if w == "--" then []
    else if takesValue fs w then
      match rest with
      | _ :: more@(_ :: _) => commandWords fs fuel more
      | _ => []
    else if w != "" && !w.startsWith "-" then w :: commandWords fs fuel rest
    else commandWords fs fuel rest

/-- A command line without the first word `x` that is not a flag or a
flag's value. -/
def withoutWord (fs : List Flag) (x : String) : Nat → List String → List String
  | 0, ws => ws
  | _, [] => []
  | fuel + 1, w :: rest =>
    if w == "--" then w :: rest
    else if takesValue fs w then
      match rest with
      | v :: more => w :: v :: withoutWord fs x fuel more
      | [] => [w]
    else if !w.startsWith "-" && w == x then rest
    else w :: withoutWord fs x fuel rest

def Program.locate (p : Program) : Nat → Command → List String → Command × List String
  | 0, c, args => (c, args)
  | fuel + 1, c, args =>
    let fs := p.flagsOf c false
    match commandWords fs (args.length + 1) args with
    | [] => (c, args)
    | next :: _ =>
      match (p.children c.path).find? (p.nameOf · == next) with
      | some sub => p.locate fuel sub (withoutWord fs next (args.length + 1) args)
      | none => (c, args)

def editDistance (s t : List Char) : Nat :=
  let first := List.range (t.length + 1)
  let last := s.foldl (fun (prev : List Nat) (a : Char) =>
    let start := prev.head?.getD 0 + 1
    let (row, _) := (t.zip (prev.zip prev.tail)).foldl (fun (acc : List Nat × Nat) (b, diag, up) =>
      let left := acc.2
      let here := if a == b then diag else (min (min up left) diag) + 1
      (acc.1 ++ [here], here)) ([start], start)
    row) first
  last.getLast?.getD 0

/-- The commands below the root spelled like a word: within two edits,
ignoring case, or starting with it. -/
def Program.suggestions (p : Program) (word : String) : List String :=
  let w := Text.lower word
  ((p.children []).filter (p.available p.commands.length)).filterMap fun c =>
    let n := p.nameOf c
    if editDistance (Text.lower n).toList w.toList ≤ 2 || (Text.lower n).startsWith w then some n else none

def Program.unknownCommand (p : Program) (word : String) : String :=
  let near := p.suggestions word
  "unknown command " ++ Text.quote word ++ " for " ++ Text.quote p.name ++
    (if near.isEmpty then "" else "\n\nDid you mean this?\n" ++ String.join (near.map fun n => "\t" ++ n ++ "\n"))

/-- What a command line asks for. -/
inductive Request where
  /-- The help of a command. -/
  | help (c : Command)
  /-- Running a command with its flags and arguments. -/
  | run (c : Command) (given : Parsed)
  /-- Nothing: the command line is refused. -/
  | refused (message : String)

/-- The command a command line names, with the words left for it; words
the root does not know are refused. -/
def Program.find (p : Program) (args : List String) : Except String (Command × List String) :=
  let (c, rest) := p.locate p.commands.length p.root args
  if c.path.isEmpty && !(p.children []).isEmpty then
    match commandWords (p.flagsOf c false) (rest.length + 1) rest with
    | w :: _ => .error (p.unknownCommand w)
    | [] => .ok (c, rest)
  else .ok (c, rest)

def Program.request (p : Program) (args : List String) : Request :=
  match p.find args with
  | .error m => .refused m
  | .ok (c, rest) =>
    match parse (p.flagsOf c true) rest with
    | .error m => .refused m
    | .ok given => if given.switch "help" || !c.runnable then .help c else .run c given

/-! ## Help -/

def trimEnd (s : String) : String := String.ofList (s.toList.reverse.dropWhile Text.isSpace).reverse

def padTo (s : String) (width : Nat) : String := s ++ String.ofList (List.replicate (width - s.length) ' ')

def Program.namePadding (p : Program) (path : List String) : Nat :=
  ((p.children path).map fun c => (p.nameOf c).length).foldl max 11

def Program.useLine (p : Program) (c : Command) : String :=
  let line := match c.path with
    | [] => c.use
    | path => p.commandPath { c with path := path.dropLast } ++ " " ++ c.use
  if (line.splitOn "[flags]").length > 1 then line else line ++ " [flags]"

def Program.usage (p : Program) (c : Command) : String :=
  let subs := p.hasAvailable c
  let listed := (p.children c.path).filter fun s => p.available p.commands.length s || p.nameOf s == "help"
  let pad := p.namePadding c.path
  let inherited := p.inherited c
  "Usage:" ++ (if c.runnable then "\n  " ++ p.useLine c else "") ++
    (if subs then "\n  " ++ p.commandPath c ++ " [command]" else "") ++
    (if subs then "\n\nAvailable Commands:" ++
      String.join (listed.map fun s => "\n  " ++ padTo (p.nameOf s) pad ++ " " ++ s.short) else "") ++
    "\n\nFlags:\n" ++ trimEnd (String.join ((usageLines (p.localFlags c)).map (· ++ "\n"))) ++
    (if inherited.isEmpty then "" else
      "\n\nGlobal Flags:\n" ++ trimEnd (String.join ((usageLines inherited).map (· ++ "\n")))) ++
    (if subs then "\n\nUse \"" ++ p.commandPath c ++ " [command] --help\" for more information about a command."
     else "") ++ "\n"

def Program.help (p : Program) (c : Command) : String :=
  let about := trimEnd (if c.long.isEmpty then c.short else c.long)
  (if about.isEmpty then "" else about ++ "\n\n") ++
    (if c.runnable || !(p.children c.path).isEmpty then p.usage c else "")

/-! ## The commands every program has -/

def shells : List String := ["bash", "fish", "powershell", "zsh"]

/-- A program with its commands, the `help` command and the `completion`
commands added. -/
def Program.standard (name : String) (commands : List Command) : Program :=
  { name, commands := commands ++
      [{ path := ["help"], use := "help [command]", short := "Help about any command",
         long := "Help provides help for any command in the application.\nSimply type " ++ name ++
           " help [path to command] for full details." },
       { path := ["completion"], use := "completion", runnable := false,
         short := "Generate the autocompletion script for the specified shell",
         long := "Generate the autocompletion script for " ++ name ++ " for the specified shell.\n" ++
           "See each sub-command's help for details on how to use the generated script.\n" }] ++
      shells.map fun sh =>
        { path := ["completion", sh], use := sh, short := "Generate the autocompletion script for " ++ sh,
          flags := [{ name := "no-descriptions", usage := "disable completion descriptions", kind := .switch }] } }

end MudClient.CommandLine
