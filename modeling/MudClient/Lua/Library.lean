/-
# The library functions that call nothing back

The functions of the standard libraries that never run Lua code: they read
their arguments, the heap, and answer values.  Arguments are checked as the
library does: a string argument also takes a number, a number argument a
string that stands for one, an optional argument nil; anything else is a
`bad argument` error naming the function as its caller called it.

Some functions keep the library's own conventions rather than those of
other Lua versions: `string.byte` with only a string gives all its bytes,
`string.match` without a match gives no value at all, `string.gsub` with
a limit below 1 replaces every match, `table.remove` removes from the array
part, and `tonumber` reads text without a point as an integer.
-/
import MudClient.Lua.World
import MudClient.Lua.Pattern
import MudClient.Lua.Format
import MudClient.Text.Case
import MudClient.Number.Elementary
import MudClient.Time.Calendar

namespace MudClient.Lua

open MudClient.Number

variable {H σ : Type}

def stringLimit : Nat := 268435456

/-- The start offset of a position counted from 1, or from the end when
negative. -/
def startIndex (len : Nat) (i : Int) : Int :=
  let i := if i ≠ 0 then i - 1 else i
  let i := if i < 0 then (len : Int) + i + 1 else i
  max 0 i

/-- The end offset of a position counted from 1, or from the end when
negative. -/
def endIndex (len : Nat) (i : Int) : Int :=
  let i := if i < 0 then (len : Int) + i + 1 else i
  min (max 0 i) len

/-- The values of a match's captures, or the whole match when it has none
and `whole` is asked for. -/
def captureValues (src : Bytes) (m : Pattern.Found) (whole : Bool) : VM H σ (Array Value) := do
  if m.caps.isEmpty then
    pure (if whole then #[.str (src.extract m.start m.stop)] else #[])
  else
    pure <| m.caps.map fun c =>
      match c.value src with
      | .inl p => .num (Float.ofNat p)
      | .inr b => .str b

def findMatches (src pat : Bytes) (init : Nat) (limit : Int) : VM H σ (Array Pattern.Found) :=
  match Pattern.findAll src pat init limit with
  | .ok ms => pure ms
  | .error (.fault f) => raise f.text
  | .error (.crash m) => crash m

def intValue (n : Int) : Value := .num (Float.ofInt n)

def baseCall (f : BaseFn) (args : Array Value) : VM H σ (Array Value) := do
  match f with
  | .assert =>
    if (arg args 1).truthy then pure args
    else raiseAt 1 (← optString args 2 (Bytes.ofString "assertion failed!"))
  | .collectgarbage => pure #[]
  | .error =>
    let v ← checkAny args 1
    let level ← optInt args 2 1
    match v with
    | .str s => raiseAt (if level > 0 then level.toNat else 0) s
    | _ => throwValue v
  | .getfenv =>
    let w ← get
    match (if args.size = 0 then Value.num 1 else arg args 1) with
    | .func r =>
      match w.funcs[r]? with
      | some (.lua _ _ e) => pure #[.table e]
      | _ => pure #[.table w.globals]
    | .num x =>
      let level := toInt64 x
      if level ≤ 0 then pure #[.table (← threadEnv)]
      else
        match w.callerFrame level.toNat with
        | some fr => pure #[.table (w.envOfFrame fr)]
        | none => pure #[.table w.globals]
    | _ => pure #[.table w.globals]
  | .setfenv =>
    let target := if args.size = 0 then Value.num 1 else arg args 1
    let env ← checkTable args 2
    let refuse : VM H σ (Array Value) := raise "cannot change the environment of given object"
    match target with
    | .func r => if ← setFuncEnv r env then pure #[.func r] else refuse
    | .num x =>
      let level := toInt64 x
      if level ≤ 0 then do setThreadEnv env; pure #[]
      else
        match (← get).callerFrame level.toNat with
        | some fr =>
          if fr.native then refuse
          else if ← setFuncEnv fr.func env then pure #[.func fr.func] else refuse
        | none => refuse
    | _ => refuse
  | .getmetatable =>
    let v ← checkAny args 1
    match ← metatableOf v with
    | some m =>
      let t ← tableAt m
      match t.getStr "__metatable" with
      | .nil => pure #[.table m]
      | p => pure #[p]
    | none => pure #[.nil]
  | .next =>
    let r ← checkTable args 1
    let t ← tableAt r
    match t.next (arg args 2) with
    | some (k, v) => pure #[k, v]
    | none => pure #[.nil]
  | .rawequal =>
    let a ← checkAny args 1
    let b ← checkAny args 2
    pure #[.bool (a.rawEq b)]
  | .rawget =>
    let r ← checkTable args 1
    let k ← checkAny args 2
    pure #[← rawGet r k]
  | .rawset =>
    let r ← checkTable args 1
    let k ← checkAny args 2
    let v ← checkAny args 3
    rawSet r k v
    pure #[]
  | .select =>
    match arg args 1 with
    | .num x =>
      let num : Int := args.size
      let idx := toInt64 x
      let idx := if idx < 0 then num + idx else if idx > num then num else idx
      if 1 > idx then argError 1 "index out of range"
      else pure (args.extract idx.toNat args.size)
    | .str s =>
      if s != Bytes.ofString "#" then argError 1 s!"invalid string '{s.toText}'"
      else pure #[intValue (args.size - 1)]
    | v => argError 1 s!"number or string expected, got {v.typeName}"
  | .setmetatable =>
    match arg args 2 with
    | .nil | .table _ => pure ()
    | v => argError 2 s!"nil or table expected, got {v.typeName}"
    let obj := arg args 1
    if obj.isNil then raise "cannot set metatable to a nil object."
    match ← metatableOf obj with
    | some m =>
      if !((← tableAt m).getStr "__metatable").isNil then raise "cannot change a protected metatable"
    | none => pure ()
    let mt := match arg args 2 with | .table m => some m | _ => none
    match obj with
    | .table r => modifyTable r fun t => { t with metatable := mt }
    | .userdata r => modify fun w => { w with userdata := w.userdata.modify r fun u => { u with metatable := mt } }
    | .str _ => modify fun w => { w with stringMeta := mt }
    | _ => pure ()
    pure #[obj]
  | .tonumber =>
    let base ← optInt args 2 10
    let noBase := (arg args 2).isNil
    match ← checkAny args 1 with
    | .num x => pure #[.num x]
    | .str s => pure #[((readNumber s (if noBase then none else some base)).map Value.num).getD .nil]
    | _ => pure #[.nil]
  | .type => pure #[strValue (← checkAny args 1).typeName]
  | .unpack =>
    let r ← checkTable args 1
    let t ← tableAt r
    let start ← optInt args 2 1
    let stop ← optInt args 3 t.length
    let here := (← get).cur
    if stop < start then pure #[]
    else if here.top + (stop - start + 1) > registryLimit then raise "registry overflow"
    else
      pure ((List.range (stop - start + 1).toNat).map fun (i : Nat) => t.getInt (start + i)).toArray
  | .ipairs =>
    let r ← checkTable args 1
    pure #[(← get).ipairsFn, .table r, .num 0]
  | .ipairsStep =>
    let r ← checkTable args 1
    let i ← checkInt args 2
    let v := (← tableAt r).getInt (i + 1)
    if v.isNil then pure #[] else pure #[intValue (i + 1), v]
  | .pairs =>
    let r ← checkTable args 1
    pure #[(← get).nextFn, .table r, .nil]
  | .newproxy =>
    let w ← get
    let mt ← match arg args 1 with
      | .bool true => pure (some (← allocTable))
      | .userdata r => pure (w.userdata.getD r default).metatable
      | _ => pure none
    let u ← allocUserdata { payload := .proxy, metatable := mt, env := some (← threadEnv) }
    pure #[.userdata u]
  | .module => raise "module is not available in this sandbox"
  | .loadlib => raise "loadlib is not supported"
  | .seeall =>
    let r ← checkTable args 1
    let mt ← match (← tableAt r).metatable with
      | some m => pure m
      | none => do
        let m ← allocTable
        modifyTable r fun t => { t with metatable := some m }
        pure m
    modifyTable mt (·.setStr "__index" (.table (← get).globals))
    pure #[]
  | .printregs => pure #[]
  | .print | .pcall | .xpcall | .tostring | .require | .loaderPreload | .loaderFile => pure #[]

def stringCall (f : StringFn) (args : Array Value) : VM H σ (Array Value) := do
  match f with
  | .byte =>
    let s ← checkString args 1
    let l : Int := s.size
    let start0 := (← optInt args 2 1) - 1
    let stop0 ← optInt args 3 (-1)
    let start := if start0 < 0 then l + start0 + 1 else start0
    let stop := if stop0 < 0 then l + stop0 + 1 else stop0
    if args.size = 2 then
      if start < 0 || start ≥ l then pure #[] else pure #[intValue (s.get start.toNat).toNat]
    else
      let start := max start 0
      let stop := min stop l
      if stop < 0 || stop ≤ start || start ≥ l then pure #[]
      else pure ((List.range (stop - start).toNat).map fun i =>
        intValue (s.get (start.toNat + i)).toNat).toArray
  | .char =>
    let mut out : Array UInt8 := #[]
    for i in [1:args.size + 1] do
      let c ← checkInt args i
      out := out.push (c % 256).toNat.toUInt8
    pure #[.str ⟨out⟩]
  | .dump => raise "GopherLua does not support the string.dump"
  | .find =>
    let s ← checkString args 1
    let p ← checkString args 2
    if p.size = 0 then pure #[.num 1, .num 0]
    else
      let init := (startIndex s.size (← optInt args 3 1)).toNat
      let plain := args.size = 4 && (arg args 4).truthy
      if plain then
        let hay := s.extract init s.size
        let hit := (List.range (hay.size + 1)).find? fun k =>
          k + p.size ≤ hay.size && hay.extract k (k + p.size) == p
        match hit with
        | some k => pure #[intValue (init + k + 1), intValue (init + k + p.size)]
        | none => pure #[.nil]
      else
        let ms ← findMatches s p init 1
        match ms[0]? with
        | none => pure #[.nil]
        | some m => pure (#[intValue (m.start + 1), intValue m.stop] ++ (← captureValues s m false))
  | .format =>
    let f ← checkString args 1
    let rest := args.extract 1 args.size
    let n := directiveCount f
    let rest := rest.extract 0 (min n.toNat rest.size)
    pure #[.str (formatBytes f rest)]
  | .len => pure #[intValue (← checkString args 1).size]
  | .lower => pure #[.str (Bytes.ofString (Text.lower (← checkString args 1).toText))]
  | .upper => pure #[.str (Bytes.ofString (Text.upper (← checkString args 1).toText))]
  | .match =>
    let s ← checkString args 1
    let p ← checkString args 2
    let off ← optInt args 3 1
    let l : Int := s.size
    let off := if off < 0 then l + off + 1 else off
    let off := max 0 (off - 1)
    let ms ← findMatches s p off.toNat 1
    match ms[0]? with
    | none => pure #[]
    | some m => captureValues s m true
  | .rep =>
    let s ← checkString args 1
    let n ← checkInt args 2
    if n ≤ 0 then pure #[.str Bytes.empty]
    else if (Number.wrapInt64 (n * s.size)).tdiv n != s.size then crash "strings: Repeat output length overflow"
    else if n.toNat * s.size > stringLimit then raise "not enough memory"
    else pure #[.str ⟨(List.replicate n.toNat s.data).foldl (· ++ ·) #[]⟩]
  | .reverse => pure #[.str ⟨(← checkString args 1).data.reverse⟩]
  | .sub =>
    let s ← checkString args 1
    let start := startIndex s.size (← checkInt args 2)
    let stop := endIndex s.size (← optInt args 3 (-1))
    if start ≥ s.size || stop < start then pure #[.str Bytes.empty]
    else pure #[.str (s.extract start.toNat stop.toNat)]
  | .gmatch =>
    let s ← checkString args 1
    let p ← checkString args 2
    let ms ← findMatches s p 0 (-1)
    let found ← ms.mapM fun m => captureValues s m true
    let u ← allocUserdata { payload := .matches found 0 }
    pure #[(← get).gmatchFn, .userdata u]
  | .gmatchStep =>
    match arg args 1 with
    | .userdata r =>
      let w ← get
      match (w.userdata.getD r default).payload with
      | .matches found i =>
        set { w with userdata := w.userdata.modify r fun u => { u with payload := .matches found (i + 1) } }
        pure (found.getD i #[])
      | _ => typeError args 1 "userdata"
    | _ => typeError args 1 "userdata"
  | .gsub => pure #[]

def tableCall (f : TableFn) (args : Array Value) : VM H σ (Array Value) := do
  match f with
  | .getn | .maxn =>
    let r ← checkTable args 1
    pure #[intValue (← tableAt r).length]
  | .concat =>
    let r ← checkTable args 1
    let t ← tableAt r
    let sep ← optString args 2 Bytes.empty
    let len : Int := t.length
    let i ← optInt args 3 1
    let j ← optInt args 4 len
    if args.size = 3 && (i > len || i < 1) then pure #[.str Bytes.empty]
    else
      let i := max (min i len) 1
      let j := min j len
      if i > j then pure #[.str Bytes.empty]
      else
        -- every entry and separator goes on the value stack before the text
        -- is made, and the text after them
        let room := registryLimit - (← get).cur.top
        let mut out := Bytes.empty
        for k in [0:(j - i + 1).toNat] do
          let v := t.getInt (i + k)
          if !v.isStringLike then
            raise s!"invalid value ({v.typeName}) at index {i + k} in table for concat"
          if 2 * k + 1 > room then raise "registry overflow"
          out := out ++ v.text
          if i + k != j then
            if 2 * k + 2 > room then raise "registry overflow"
            out := out ++ sep
        if 2 * (j - i + 1).toNat > room then raise "registry overflow"
        pure #[.str out]
  | .insert =>
    let r ← checkTable args 1
    if args.size = 1 then raise "wrong number of arguments"
    else if args.size = 2 then
      modifyTable r (·.append (arg args 2))
      pure #[]
    else
      let i ← checkInt args 2
      let v ← checkAny args 3
      modifyTable r (·.insertAt i v)
      pure #[]
  | .remove =>
    let r ← checkTable args 1
    let pos ← if args.size = 1 then pure (-1) else checkInt args 2
    let (t, v) := (← tableAt r).removeAt pos
    modifyTable r fun _ => t
    pure #[v]
  | .sort => pure #[]

def mathCall (f : MathFn) (args : Array Value) : VM H σ (Array Value) := do
  let num (x : Float) : VM H σ (Array Value) := pure #[.num x]
  match f with
  | .abs => num (← checkNumber args 1).abs
  | .acos => num (Elementary.acos (← checkNumber args 1))
  | .asin => num (Elementary.asin (← checkNumber args 1))
  | .atan => num (Elementary.atan (← checkNumber args 1))
  | .atan2 => num (Elementary.atan2 (← checkNumber args 1) (← checkNumber args 2))
  | .ceil => num (← checkNumber args 1).ceil
  | .cos => num (Elementary.cos (← checkNumber args 1))
  | .cosh => num (Elementary.cosh (← checkNumber args 1))
  | .deg => num ((← checkNumber args 1) * 180 / 3.141592653589793)
  | .exp => num (Elementary.exp (← checkNumber args 1))
  | .floor => num (← checkNumber args 1).floor
  | .fmod => num (fmod (← checkNumber args 1) (← checkNumber args 2))
  | .frexp =>
    let (m, e) := (← checkNumber args 1).frExp
    pure #[.num m, intValue e]
  | .ldexp => num ((← checkNumber args 1).scaleB (← checkInt args 2))
  | .log => num (Elementary.log (← checkNumber args 1))
  | .log10 => num (Elementary.log10 (← checkNumber args 1))
  | .max | .min =>
    if args.size = 0 then raise "wrong number of arguments"
    else
      let mut best ← checkNumber args 1
      for i in [2:args.size + 1] do
        let v ← checkNumber args i
        if (f == .max && v > best) || (f == .min && v < best) then best := v
      num best
  | .mod =>
    let a ← checkNumber args 1
    let b ← checkNumber args 2
    let v := fmod a b
    num (if (b > 0 && v < 0) || (b < 0 && v > 0) then v + b else v)
  | .modf =>
    let (ip, fp) := Elementary.modf (← checkNumber args 1)
    pure #[.num ip, .num fp]
  | .pow => num (Elementary.pow (← checkNumber args 1) (← checkNumber args 2))
  | .rad => num ((← checkNumber args 1) * 3.141592653589793 / 180)
  | .random =>
    match args.size with
    | 0 => num 0.5
    | 1 =>
      let n ← checkInt args 1
      if n ≤ 0 then crash "invalid argument to Intn" else num (Float.ofInt 1)
    | _ =>
      let lo ← checkInt args 1
      let hi ← checkInt args 2
      if hi + 1 - lo ≤ 0 then crash "invalid argument to Intn" else num (Float.ofInt lo)
  | .randomseed => pure #[]
  | .sin => num (Elementary.sin (← checkNumber args 1))
  | .sinh => num (Elementary.sinh (← checkNumber args 1))
  | .sqrt => num (← checkNumber args 1).sqrt
  | .tan => num (Elementary.tan (← checkNumber args 1))
  | .tanh => num (Elementary.tanh (← checkNumber args 1))

def coroutineCall (f : CoroutineFn) (args : Array Value) : VM H σ (Array Value) := do
  match f with
  | .create =>
    let r ← checkFunction args 1
    let w ← get
    let id := w.threads.size
    set { w with threads := w.threads.push { body := .func r } }
    pure #[.thread id]
  | .running =>
    match (← get).thread with
    | some t => pure #[.thread t]
    | none => pure #[.nil]
  | .status =>
    let t ← checkThread args 1
    pure #[strValue ((← get).threads.getD t default).status.name]
  | .resume | .wrap | .yield => pure #[]

/-- A date field of a table as `os.time` reads it: a number truncated, a
string read as a number once its leading blanks and, unless it is
hexadecimal, its leading zeros are gone, else the default. -/
def dateField (v : Value) (d : Int) : Int :=
  match v with
  | .num x => toInt64 x
  | .str s =>
    let text := s.data.toList.dropWhile (· == 32)
    let hex := match text with
      | 48 :: 120 :: _ | 48 :: 88 :: _ => true
      | _ => false
    let read (t : List UInt8) : Int := match parseNumber ⟨t.toArray⟩ with
      | some x => toInt64 x
      | none => d
    if !hex && text.head? == some 48 then
      let rest := text.dropWhile (· == 48)
      if rest.isEmpty then 0 else read rest
    else read text
  | _ => d

def osCall (f : OsFn) (args : Array Value) : VM H σ (Array Value) := do
  match f with
  | .clock => pure #[.num 0]
  | .difftime =>
    let a ← checkInt args 1
    let b ← checkInt args 2
    pure #[.num (Float.ofInt (Number.wrapInt64 (a - b)))]
  | .time =>
    match arg args 1 with
    | .nil => pure #[.num 0]
    | .table r =>
      let t ← tableAt r
      let field (key : String) (d : Int) : Int := dateField (t.getStr key) d
      pure #[intValue (Time.secondsOf (field "year" (-1)) (field "month" (-1)) (field "day" (-1))
        (field "hour" 12) (field "min" 0) (field "sec" 0))]
    | _ => typeError args 1 "table"
  | .date =>
    let (pattern, t) ← if args.size ≥ 1 then do
        let f ← checkString args 1
        let t ← if args.size ≥ 2 then checkInt args 2 else pure 0
        pure (f.data.toList.dropWhile (· == 33), t)
      else pure ("%c".toUTF8.toList, 0)
    let c := Time.Civil.ofSeconds t
    match pattern with
    | 42 :: 116 :: _ =>
      let fields : List (String × Value) :=
        [("year", intValue c.year), ("month", intValue c.month), ("day", intValue c.day),
         ("hour", intValue c.hour), ("min", intValue c.minute), ("sec", intValue c.second),
         ("wday", intValue (c.weekday + 1)), ("yday", .num 0), ("isdst", .bool false)]
      pure #[.table (← allocTable (fields.foldl (fun t (k, v) => t.setStr k v) {}))]
    | _ => pure #[.str ⟨(c.format pattern).toArray⟩]
  | .getenv => let _ ← checkString args 1; pure #[.nil]
  | _ => pure #[.nil]

def ioCall (f : IoFn) (_args : Array Value) : VM H σ (Array Value) := do
  match f with
  | .write => pure #[]
  | _ => pure #[.nil]

/-- How many values a library function keeps with it: the iterators
`pairs`, `ipairs` and `string.gmatch` hand out keep one. -/
def builtinUpvalues : Builtin → Nat
  | .base .ipairs | .base .pairs | .string .gmatch => 1
  | _ => 0

/-- The fields `debug.getinfo` gives about a function, and about the frame
running it when there is one, for the letters of `what`: `S` where it was
defined and what kind of function it is, `l` the line running (`-1` for a
library function or without a frame), `u` how many values it captured, `n`
the name it was called under, and `f` the function itself; a letter
outside these gives nothing. -/
def debugInfo (w : World H σ) (frame : Option Nat) (fid : Nat) (what : List Char) :
    Option (List (String × Value)) :=
  if !what.all (fun c => "Slunf".toList.contains c) then none
  else
    let frames := w.frames
    let fr := frame.map (frames.getD · {})
    let fn := w.funcs.getD fid (.builtin (.base .print))
    let proto : Option Proto := match fn with | .lua p _ _ => some p | _ => none
    let has (c : Char) : Bool := what.contains c
    let kind : String :=
      if !has 'S' then ""
      else if frame == some 0 then "main"
      else if proto.isNone then "G"
      else if (fr.map (·.tailcalls)).getD 0 > 0 then "tail"
      else "Lua"
    let source : String := if has 'S' then (proto.map (·.source.toText)).getD "" else ""
    let defined (f : Proto → Nat) : Int := if has 'S' then (proto.map f).getD 0 else 0
    let line : Int :=
      if !has 'l' then 0
      else match proto, fr with
        | some _, some f => if f.pc > 0 then f.line else 0
        | _, _ => -1
    let ups : Nat :=
      if !has 'u' then 0
      else match fn with
        | .lua _ caps _ => caps.size
        | .builtin b => builtinUpvalues b
        | .host _ => 0
    let name : Value :=
      if !has 'n' then .nil
      else match frame with
        | some i =>
          let n := (frameName frames i (w.thread.isSome && w.detached.isNone)).1
          if n.isEmpty then .nil else strValue n
        | none => .nil
    some [("name", name), ("what", strValue kind), ("source", strValue source),
      ("currentline", .num (Float.ofInt line)), ("nups", .num (Float.ofNat ups)),
      ("linedefined", .num (Float.ofInt (defined (·.lineDefined)))),
      ("lastlinedefined", .num (Float.ofInt (defined (·.lastLineDefined)))),
      ("func", if has 'f' then .func fid else .nil)]

def trimEnd (s : String) : String :=
  String.ofList (s.toList.reverse.dropWhile Char.isWhitespace).reverse

def debugCall (f : DebugFn) (args : Array Value) : VM H σ (Array Value) := do
  match f with
  | .getmetatable =>
    match ← metatableOf (← checkAny args 1) with
    | some m => pure #[.table m]
    | none => pure #[.nil]
  | .setmetatable => baseCall .setmetatable args
  | .traceback =>
    let level ← optInt args 2 1
    let w ← get
    let inThread := w.thread.isSome
    let (msg, frames, inThread) : Bytes × Array Frame × Bool :=
      match arg args 1 with
      | .str s => (s, w.frames, inThread)
      | .thread t =>
        if w.thread == some t then (Bytes.empty, w.frames, inThread)
        else
          let saved := match (w.threads.getD t default).saved with
            | some (cur, callers) => callers.push cur
            | none => #[]
          (Bytes.empty, saved, false)
      | _ => (Bytes.empty, w.frames, inThread)
    let tb := trimEnd (traceback frames inThread (if level < 0 then 0 else level.toNat))
    pure #[.str (if msg.size > 0 then msg ++ Bytes.ofString ("\n" ++ tb) else Bytes.ofString tb)]
  | .getinfo =>
    let target := arg args 1
    match target with
    | .func _ | .num _ => pure ()
    | v => argError 1 s!"function or number expected, got {v.typeName}"
    let what := (← optString args 2 (Bytes.ofString "Slunf")).toText.toList
    let w ← get
    let found : Option (Option Nat × Nat) := match target with
      | .func r => some (none, r)
      | .num x =>
        if what.head? == some '>' then none
        else (levelFrame w.frames (toInt64 x)).map fun i => (some i, (w.frames.getD i {}).func)
      | _ => none
    match found with
    | none => pure #[.nil]
    | some (frame, fid) =>
      match debugInfo w frame fid what with
      | none => pure #[.nil]
      | some fields => pure #[.table (← allocTable (fields.foldl (fun t (k, v) => t.setStr k v) {}))]
  | .getlocal =>
    let level ← checkInt args 1
    let idx ← checkInt args 2
    let w ← get
    match levelFrame w.frames level with
    | none => argError 1 "level out of range"
    | some i =>
      match (w.frames.getD i {}).localAt idx with
      | some (name, cell) => pure #[strValue name, w.cells.getD cell .nil]
      | none => pure #[.nil]
  | .setlocal =>
    let level ← checkInt args 1
    let idx ← checkInt args 2
    let v ← checkAny args 3
    let w ← get
    match levelFrame w.frames level with
    | none => argError 1 "level out of range"
    | some i =>
      match (w.frames.getD i {}).localAt idx with
      | some (name, cell) =>
        modify fun w => { w with cells := w.cells.set! cell v }
        pure #[strValue name]
      | none => pure #[.nil]
  | .getupvalue =>
    let r ← checkFunction args 1
    let idx ← checkInt args 2
    let w ← get
    match w.funcs[r]? with
    | some (.lua p caps _) =>
      if 1 ≤ idx && idx ≤ caps.size then
        let k := (idx - 1).toNat
        pure #[strValue (p.captureNames.getD k ""), w.cells.getD (caps.getD k 0) .nil]
      else pure #[.nil]
    | _ => pure #[.nil]
  | .setupvalue =>
    let r ← checkFunction args 1
    let idx ← checkInt args 2
    let v ← checkAny args 3
    let w ← get
    match w.funcs[r]? with
    | some (.lua p caps _) =>
      if 1 ≤ idx && idx ≤ caps.size then
        let k := (idx - 1).toNat
        modify fun w => { w with cells := w.cells.set! (caps.getD k 0) v }
        pure #[strValue (p.captureNames.getD k "")]
      else pure #[.nil]
    | _ => pure #[.nil]
  | .getfenv =>
    let w ← get
    match ← checkAny args 1 with
    | .func r =>
      match w.funcs[r]? with
      | some (.lua _ _ e) => pure #[.table e]
      | _ => pure #[.table w.globals]
    | .userdata r => pure #[.table ((w.userdata.getD r default).env.getD w.globals)]
    | .thread t => pure #[.table ((w.threads.getD t default).env.getD w.globals)]
    | _ => pure #[.nil]
  | .setfenv =>
    let obj ← checkAny args 1
    match ← checkAny args 2 with
    | .table e =>
      match obj with
      | .func r => discard (setFuncEnv r e)
      | .userdata r =>
        modify fun w => { w with userdata := w.userdata.modify r fun u => { u with env := some e } }
      | .thread t =>
        modify fun w => { w with threads := w.threads.modify t fun th => { th with env := some e } }
      | _ => pure ()
      pure #[]
    | v => raise s!"cannot use {v.typeName} as an environment"

def libraryCall (b : Builtin) (args : Array Value) : VM H σ (Array Value) :=
  match b with
  | .base f => baseCall f args
  | .string f => stringCall f args
  | .table f => tableCall f args
  | .math f => mathCall f args
  | .coroutine f => coroutineCall f args
  | .os f => osCall f args
  | .io f => ioCall f args
  | .debug f => debugCall f args
  | _ => pure #[]

end MudClient.Lua
