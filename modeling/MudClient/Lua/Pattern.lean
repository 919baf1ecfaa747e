/-
# Lua patterns

A pattern is read into a sequence of items, the items are compiled into a
small program, and the program runs against a byte string by backtracking.

* `.` matches any byte, `%a %c %d %l %p %s %u %w %x %z` a class of bytes
  (the upper-case letter for the complement), `%` before any other byte
  that byte, and `[...]` a set of bytes, ranges and classes (`[^...]` its
  complement).  A range counts only between two plain bytes.
* A single item followed by `*` matches the longest run that lets the rest
  match, `-` the shortest, `+` a non-empty longest run, and `?` an optional
  byte; after anything else these bytes stand for themselves.
* `(` … `)` captures the bytes matched between them, `()` the position;
  `%1` … `%9` match a copy of a capture; `%bxy` a balanced run from `x` to
  `y`.  There is no frontier item: `%f` is the byte `f`.
* `^` at the very start anchors the match at the starting position, and `$`
  as the last byte of the pattern, outside captures, at the end of the
  string.

Reading a malformed pattern fails with the position of the last byte read
(`at EOS` once the pattern is used up).  Matching keeps its captures in
slots that a branch which fails leaves set, except for the slot a capture
opens or closes, which the failure restores; a copy of a capture reads the
slots as they stand.

Every jump back in the program follows a byte consumed, so along any path
the program steps at most its length times for each byte of the subject;
that bound is the fuel of the run.

## Main statements

* `parse`: the items of a pattern, or where it is malformed.
* `compile`: the program of a pattern.
* `findAll`: the successive matches from a position, each search resuming
  where the last match ended, one byte further after an empty match.
-/
import MudClient.Text.Bytes

namespace MudClient.Lua.Pattern

/-! ## Classes of bytes -/

/-- A class written with one byte or after `%`: a plain byte, or the class
named by the byte after `%` (none when the pattern ended there). -/
inductive Atom where
  | byte (c : UInt8)
  | named (c : Option UInt8)
deriving DecidableEq, Repr, Inhabited

/-- A member of a set: a class, or a range between two members, which
counts only between two plain bytes. -/
inductive Member where
  | atom (a : Atom)
  | range (lo hi : Member)
deriving DecidableEq, Repr, Inhabited

/-- The class a single item matches. -/
inductive ByteClass where
  | any
  | atom (a : Atom)
  | set (negated : Bool) (members : List Member)
deriving DecidableEq, Repr, Inhabited

def isAlpha (c : UInt8) : Bool := (65 ≤ c && c ≤ 90) || (97 ≤ c && c ≤ 122)

def isDigitByte (c : UInt8) : Bool := 48 ≤ c && c ≤ 57

def isLowerByte (c : UInt8) : Bool := 97 ≤ c && c ≤ 122

def isUpperByte (c : UInt8) : Bool := 65 ≤ c && c ≤ 90

/-- Whether a byte is white space: space, tab, newline, vertical tab, form
feed or carriage return. -/
def isSpaceByte (c : UInt8) : Bool := c == 32 || (9 ≤ c && c ≤ 13)

def isControl (c : UInt8) : Bool := c < 32 || c == 127

def isPunct (c : UInt8) : Bool := 33 ≤ c && c ≤ 126 && !isAlpha c && !isDigitByte c

def isHexByte (c : UInt8) : Bool := isDigitByte c || (97 ≤ c && c ≤ 102) || (65 ≤ c && c ≤ 70)

def toLowerByte (c : UInt8) : UInt8 := if isUpperByte c then c + 32 else c

/-- Whether a byte is in the class named by `cl` after `%`: a class letter
names its class, in upper case its complement; any other byte stands for
itself. -/
def matchClass (c cl : UInt8) : Bool :=
  let res? : Option Bool :=
    match (toLowerByte cl).toNat with
    | 97 => some (isAlpha c)
    | 99 => some (isControl c)
    | 100 => some (isDigitByte c)
    | 108 => some (isLowerByte c)
    | 112 => some (isPunct c)
    | 115 => some (isSpaceByte c)
    | 117 => some (isUpperByte c)
    | 119 => some (isAlpha c || isDigitByte c)
    | 120 => some (isHexByte c)
    | 122 => some (c == 0)
    | _ => none
  match res? with
  | some r => if isUpperByte cl then !r else r
  | none => cl == c

def Atom.matches (c : UInt8) : Atom → Bool
  | .byte b => b == c
  | .named (some cl) => matchClass c cl
  | .named none => false

def Member.matches (c : UInt8) : Member → Bool
  | .atom a => a.matches c
  | .range (.atom (.byte lo)) (.atom (.byte hi)) => lo ≤ c && c ≤ hi
  | .range _ _ => false

def ByteClass.matches (c : UInt8) : ByteClass → Bool
  | .any => true
  | .atom a => a.matches c
  | .set negated ms => if ms.any (·.matches c) then !negated else negated

/-! ## Items -/

/-- How a single item repeats. -/
inductive Repeat where
  /-- `*`: the longest run. -/
  | longest
  /-- `+`: the longest non-empty run. -/
  | longestNonEmpty
  /-- `-`: the shortest run. -/
  | shortest
  /-- `?`: at most one. -/
  | optional
deriving DecidableEq, Repr

/-- An item of a pattern. -/
inductive Item where
  | single (c : ByteClass)
  | repeated (r : Repeat) (c : ByteClass)
  | position
  | capture (items : List Item)
  | balanced (opening closing : Option UInt8)
  | copy (n : Nat)
deriving Repr, Inhabited

/-- A read pattern: whether it is anchored at the start, its items, and
whether it is anchored at the end. -/
structure Parsed where
  anchored : Bool
  items : List Item
  atEnd : Bool
deriving Repr

/-! ## Reading a pattern -/

/-- Where in a pattern a fault stands. -/
inductive Place where
  /-- At a byte of the pattern. -/
  | byte (i : Nat)
  /-- Past the end of the pattern. -/
  | eos
  /-- Nowhere in particular. -/
  | nowhere
deriving DecidableEq, Repr

/-- A fault of a pattern: what is wrong, and where. -/
structure Fault where
  message : String
  place : Place
deriving DecidableEq, Repr

def Fault.text (f : Fault) : String :=
  match f.place with
  | .byte i => f.message ++ " at " ++ toString i
  | .eos => f.message ++ " at EOS"
  | .nowhere => f.message

/-- Where the reader of a pattern stands: before the first byte, on the
last byte it read, or past the end. -/
inductive Cursor where
  | fresh
  | onByte (i : Nat)
  | past
deriving DecidableEq, Repr

def Cursor.step (n : Nat) : Cursor → Cursor
  | .fresh => if n = 0 then .past else .onByte 0
  | .onByte i => if i + 1 < n then .onByte (i + 1) else .past
  | .past => .past

/-- Where a fault found at a cursor stands: the first byte before any
read. -/
def Cursor.place : Cursor → Place
  | .fresh => .byte 0
  | .onByte i => .byte i
  | .past => .eos

def byteAt (p : Bytes) : Cursor → Option UInt8
  | .onByte i => some (p.get i)
  | _ => none

def next (p : Bytes) (c : Cursor) : Option UInt8 × Cursor :=
  let c := c.step p.size
  (byteAt p c, c)

def peek (p : Bytes) (c : Cursor) : Option UInt8 := byteAt p (c.step p.size)

abbrev Reading (α : Type) := Except Fault (α × Cursor)

/-- Reads a class inside a set: a byte, or `%` and the byte naming a
class. -/
def readAtom (p : Bytes) (c : Cursor) : Reading Atom :=
  match next p c with
  | (some 37, c) =>
    let (n, c) := next p c
    .ok (.named n, c)
  | (some b, c) => .ok (.byte b, c)
  | (none, c) => .error ⟨"unexpected EOS", c.place⟩

/-- Reads the members of a set up to its closing `]`; `pending` says that
a `-` was read after the last member, so the next one ends a range.  A
`]` or `-` before any member is a member. -/
def readMembers (p : Bytes) : Nat → Cursor → Array Member → Bool → Reading (List Member)
  | 0, c, ms, _ => .ok (ms.toList, c)
  | fuel + 1, c, ms, pending =>
    match peek p c with
    | none => .error ⟨"unexpected EOS", c.place⟩
    | some 93 =>
      if ms.size > 0 then
        let c := (next p c).2
        .ok ((if pending then ms.push (.atom (.byte 45)) else ms).toList, c)
      else readMember fuel c ms pending
    | some 45 =>
      if ms.size > 0 then readMembers p fuel (next p c).2 ms true
      else readMember fuel c ms pending
    | some _ => readMember fuel c ms pending
where
  /-- Reads one member, joining it to the one before into a range after a
  `-`. -/
  readMember (fuel : Nat) (c : Cursor) (ms : Array Member) (pending : Bool) :
      Reading (List Member) :=
    match readAtom p c with
    | .error e => .error e
    | .ok (a, c) =>
      if pending then
        let lo := ms.getD (ms.size - 1) default
        readMembers p fuel c ((ms.pop).push (.range lo (.atom a))) false
      else readMembers p fuel c (ms.push (.atom a)) false

def readSet (p : Bytes) (c : Cursor) : Reading ByteClass :=
  let (negated, c) := if peek p c == some 94 then (true, (next p c).2) else (false, c)
  match readMembers p (p.size + 2) c #[] false with
  | .error e => .error e
  | .ok (ms, c) => .ok (.set negated ms, c)

/-- Appends a repetition byte to the items: it makes the last item repeat
when that is a single one, and stands for itself otherwise. -/
def addRepeat (items : Array Item) (r : Repeat) (b : UInt8) : Array Item :=
  match items.back? with
  | some (.single cl) => items.pop.push (.repeated r cl)
  | _ => items.push (.single (.atom (.byte b)))

def repeatOf? : UInt8 → Option Repeat
  | 42 => some .longest
  | 43 => some .longestNonEmpty
  | 45 => some .shortest
  | 63 => some .optional
  | _ => none

/-- Reads items up to the end of the pattern or, inside a capture, up to its
`)`, which is left unread.  At the top level a `)` is a fault, and a `$`
that is the last byte anchors at the end. -/
def readItems (p : Bytes) (top : Bool) : Nat → Cursor → Array Item → Bool →
    Except Fault (List Item × Bool × Cursor)
  | 0, c, items, atEnd => .ok (items.toList, atEnd, c)
  | fuel + 1, c, items, atEnd =>
    match peek p c with
    | none => .ok (items.toList, atEnd, (next p c).2)
    | some 37 =>
      let (_, c1) := next p c
      match peek p c1 with
      | some 48 => .error ⟨"invalid capture index", c1.place⟩
      | some d =>
        if 49 ≤ d && d ≤ 57 then
          readItems p top fuel (next p c1).2 (items.push (.copy (d - 48).toNat)) atEnd
        else if d == 98 then
          let (_, c2) := next p c1
          let (b, c3) := next p c2
          let (e, c4) := next p c3
          readItems p top fuel c4 (items.push (.balanced b e)) atEnd
        else
          let (n, c2) := next p c1
          readItems p top fuel c2 (items.push (.single (.atom (.named n)))) atEnd
      | none =>
        let (n, c2) := next p c1
        readItems p top fuel c2 (items.push (.single (.atom (.named n)))) atEnd
    | some 46 => readItems p top fuel (next p c).2 (items.push (.single .any)) atEnd
    | some 91 =>
      match readSet p (next p c).2 with
      | .error e => .error e
      | .ok (cl, c) => readItems p top fuel c (items.push (.single cl)) atEnd
    | some 41 =>
      if top then .error ⟨"invalid ')'", c.place⟩ else .ok (items.toList, atEnd, c)
    | some 40 =>
      let (_, c1) := next p c
      if peek p c1 == some 41 then
        readItems p top fuel (next p c1).2 (items.push .position) atEnd
      else
        match readItems p false fuel c1 #[] false with
        | .error e => .error e
        | .ok (inner, _, c2) =>
          if peek p c2 != some 41 then .error ⟨"unfinished capture", c2.place⟩
          else readItems p top fuel (next p c2).2 (items.push (.capture inner)) atEnd
    | some 36 =>
      let last := match c.step p.size with
        | .onByte i => i + 1 = p.size
        | _ => true
      let c := (next p c).2
      if top && last then readItems p top fuel c items true
      else readItems p top fuel c (items.push (.single (.atom (.byte 36)))) atEnd
    | some b =>
      let c := (next p c).2
      match repeatOf? b with
      | some r => readItems p top fuel c (addRepeat items r b) atEnd
      | none => readItems p top fuel c (items.push (.single (.atom (.byte b)))) atEnd

def parse (p : Bytes) : Except Fault Parsed :=
  let (anchored, c) := if peek p .fresh == some 94 then (true, (next p .fresh).2) else (false, Cursor.fresh)
  match readItems p true (2 * p.size + 2) c #[] false with
  | .error e => .error e
  | .ok (items, atEnd, _) => .ok { anchored, items, atEnd }

/-! ## The program -/

/-- An instruction of a matching program. -/
inductive Inst where
  /-- Consume a byte of the class. -/
  | char (c : ByteClass)
  /-- Succeed. -/
  | succeed
  /-- Succeed at the end of the subject, fail elsewhere. -/
  | succeedAtEnd
  /-- Go on at an instruction. -/
  | jump (target : Nat)
  /-- Try the first instruction, and the second when that fails. -/
  | split (first second : Nat)
  /-- Record the position in a slot, for the rest of the match. -/
  | save (slot : Nat)
  /-- Record the position, counted from 1, in a slot and the next. -/
  | savePosition (slot : Nat)
  /-- Consume a balanced run. -/
  | balanced (opening closing : Option UInt8)
  /-- Consume a copy of a capture. -/
  | copy (n : Nat)
deriving Repr, Inhabited

def repeatCode (idx : Nat) (c : ByteClass) : Repeat → List Inst
  | .longest => [.split (idx + 1) (idx + 3), .char c, .jump idx]
  | .longestNonEmpty => [.char c, .split idx (idx + 2)]
  | .shortest => [.split (idx + 3) (idx + 1), .char c, .jump idx]
  | .optional => [.split (idx + 1) (idx + 2), .char c]

mutual

def compileItem : Item → Array Inst × Nat → Array Inst × Nat
  | .single c, (code, slot) => (code.push (.char c), slot)
  | .repeated r c, (code, slot) => (code ++ (repeatCode code.size c r).toArray, slot)
  | .position, (code, slot) => (code.push (.savePosition slot), slot + 2)
  | .capture items, (code, slot) =>
    let (code, next) := compileItems items (code.push (.save slot), slot + 2)
    (code.push (.save (slot + 1)), next)
  | .balanced b e, (code, slot) => (code.push (.balanced b e), slot)
  | .copy n, (code, slot) => (code.push (.copy n), slot)

def compileItems : List Item → Array Inst × Nat → Array Inst × Nat
  | [], st => st
  | i :: is, st => compileItems is (compileItem i st)

end

/-- The program of a pattern: slot 0 records the start, the items follow,
and slot 1 records the end. -/
def compile (p : Parsed) : Array Inst :=
  let (code, _) := compileItems p.items (#[.save 0], 2)
  let code := if p.atEnd then code ++ #[.save 1, .succeedAtEnd] else code
  code ++ #[.save 1, .succeed]

/-! ## Running a program -/

/-- A capture slot: a position in the subject, or a position counted from 1
that a position capture recorded.  Slots never set hold the position 0. -/
inductive Slot where
  | offset (n : Nat)
  | position (n : Nat)
deriving DecidableEq, Repr, Inhabited

def Slot.value : Slot → Nat
  | .offset n => n
  | .position n => n

def widen (slots : Array Slot) (s : Nat) : Array Slot :=
  if s < slots.size then slots else slots ++ Array.replicate (s + 1 - slots.size) (.offset 0)

/-- Why a match stopped short: a fault of the pattern, or a copy of a
capture whose slots are out of order, which the host reports as a runtime
error. -/
inductive Failure where
  | fault (f : Fault)
  | crash (message : String)
deriving DecidableEq, Repr

/-- The position after a balanced run from `sp`, opened by `b` and closed
by `e`; none when there is none. -/
def balanceEnd (src : Bytes) (b e : Option UInt8) (sp : Nat) : Option Nat :=
  if sp ≥ src.size || some (src.get sp) != b then none
  else
    let rec go (j depth : Nat) (fuel : Nat) : Option Nat :=
      match fuel with
      | 0 => none
      | fuel + 1 =>
        if j ≥ src.size then none
        else
          let d := if some (src.get j) == e then depth - 1 else depth
          if d = 0 then some (j + 1)
          else go (j + 1) (if some (src.get j) == b then d + 1 else d) fuel
    go (sp + 1) 1 src.size

/-- What a run answers: whether it matched, where it stopped, and the
slots as it left them. -/
abbrev Run := Except Failure (Bool × Nat × Array Slot)

def run (src : Bytes) (prog : Array Inst) : Nat → Nat → Nat → Array Slot → Run
  | 0, _, sp, slots => .ok (false, sp, slots)
  | fuel + 1, pc, sp, slots =>
    match prog[pc]? with
    | none => .ok (false, sp, slots)
    | some (.char c) =>
      if sp < src.size && c.matches (src.get sp) then run src prog fuel (pc + 1) (sp + 1) slots
      else .ok (false, sp, slots)
    | some .succeed => .ok (true, sp, slots)
    | some .succeedAtEnd => .ok (sp ≥ src.size, sp, slots)
    | some (.jump t) => run src prog fuel t sp slots
    | some (.split a b) =>
      match run src prog fuel a sp slots with
      | .error e => .error e
      | .ok (true, nsp, slots) => .ok (true, nsp, slots)
      | .ok (false, _, slots) => run src prog fuel b sp slots
    | some (.save s) =>
      let slots := widen slots s
      let old := slots.getD s default
      match run src prog fuel (pc + 1) sp (slots.set! s (.offset sp)) with
      | .error e => .error e
      | .ok (true, nsp, slots) => .ok (true, nsp, slots)
      | .ok (false, _, slots) => .ok (false, sp, slots.set! s old)
    | some (.savePosition s) =>
      let slots := widen slots (s + 1)
      run src prog fuel (pc + 1) sp ((slots.set! s (.position (sp + 1))).set! (s + 1) (.position (sp + 1)))
    | some (.balanced b e) =>
      match balanceEnd src b e sp with
      | some nsp => run src prog fuel (pc + 1) nsp slots
      | none => .ok (false, sp, slots)
    | some (.copy n) =>
      let idx := 2 * n
      if idx + 1 ≥ slots.size then .error (.fault ⟨"invalid capture index", .nowhere⟩)
      else
        let a := (slots.getD idx default).value
        let b := (slots.getD (idx + 1) default).value
        if a > b then
          .error (.crash ("runtime error: slice bounds out of range [" ++ toString a ++ ":" ++ toString b ++ "]"))
        else
          let len := b - a
          if sp + len ≤ src.size && src.extract sp (sp + len) == src.extract a b then
            run src prog fuel (pc + 1) (sp + len) slots
          else .ok (false, sp, slots)

/-! ## Matches -/

/-- A capture of a match: a position counted from 1, or a span of the
subject. -/
inductive Cap where
  | position (n : Nat)
  | span (start stop : Nat)
deriving DecidableEq, Repr, Inhabited

/-- A match: where it starts and stops in the subject, and its captures. -/
structure Found where
  start : Nat
  stop : Nat
  caps : Array Cap
deriving Inhabited, Repr

/-- The match the slots of a successful run describe: slots 0 and 1 hold
its span, each later pair a capture. -/
def found (slots : Array Slot) : Found :=
  let caps := (List.range ((slots.size - 2) / 2)).toArray.map fun k =>
    match slots.getD (2 * k + 2) default with
    | .position n => Cap.position n
    | .offset a => Cap.span a (slots.getD (2 * k + 3) default).value
  { start := (slots.getD 0 default).value, stop := (slots.getD 1 default).value, caps }

def Cap.value (src : Bytes) : Cap → Sum Nat Bytes
  | .position p => .inl p
  | .span st stop => .inr (src.extract st stop)

/-- The matches of a pattern from a position on.  The search stops after
the first attempt of an anchored pattern, and as soon as the number of
matches equals `limit`, which a limit of 0 does at once when the first
attempt fails. -/
def findAll (src pat : Bytes) (init : Nat) (limit : Int) : Except Failure (Array Found) :=
  match parse pat with
  | .error f => .error (.fault f)
  | .ok parsed =>
    let prog := compile parsed
    let fuel := (src.size + 2) * (prog.size + 2)
    let rec go (sp : Nat) (acc : Array Found) : Nat → Except Failure (Array Found)
      | 0 => .ok acc
      | n + 1 =>
        if sp > src.size then .ok acc
        else
          match run src prog fuel 0 sp #[] with
          | .error e => .error e
          | .ok (ok, nsp, slots) =>
            let acc := if ok then acc.push (found slots) else acc
            let sp' := if ok && sp + 1 < nsp then nsp else sp + 1
            if (acc.size : Int) = limit || parsed.anchored then .ok acc
            else go sp' acc n
    go init #[] (src.size + 2)

end MudClient.Lua.Pattern
