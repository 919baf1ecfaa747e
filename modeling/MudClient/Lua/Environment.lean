/-
# The libraries a script starts with

A fresh world holds the global table with the base functions, the `package`
table, and the `table`, `string`, `math` and `coroutine` libraries, each
both a global and an entry of `package.loaded`.  The string library is also
the metatable of every string, with itself as `__index`, so that
`("x"):upper()` works.

The `os`, `io` and `debug` libraries are opened later, when a capability
grants them (`openLibrary`).  Opening a library that `package.loaded`
already holds adds nothing: it answers the table there.
-/
import MudClient.Lua.World

namespace MudClient.Lua

variable {H σ : Type}

def baseFunctions : List (String × BaseFn) :=
  [("assert", .assert), ("collectgarbage", .collectgarbage), ("error", .error),
   ("getfenv", .getfenv), ("getmetatable", .getmetatable), ("next", .next), ("pcall", .pcall),
   ("print", .print), ("rawequal", .rawequal), ("rawget", .rawget), ("rawset", .rawset),
   ("select", .select), ("setfenv", .setfenv), ("setmetatable", .setmetatable),
   ("tonumber", .tonumber), ("tostring", .tostring), ("type", .type), ("unpack", .unpack),
   ("xpcall", .xpcall), ("module", .module), ("require", .require), ("newproxy", .newproxy),
   ("_printregs", .printregs)]

def tableFunctions : List (String × TableFn) :=
  [("getn", .getn), ("concat", .concat), ("insert", .insert), ("maxn", .maxn),
   ("remove", .remove), ("sort", .sort)]

def stringFunctions : List (String × StringFn) :=
  [("byte", .byte), ("char", .char), ("dump", .dump), ("find", .find), ("format", .format),
   ("gsub", .gsub), ("len", .len), ("lower", .lower), ("match", .match), ("rep", .rep),
   ("reverse", .reverse), ("sub", .sub), ("upper", .upper)]

def mathFunctions : List (String × MathFn) :=
  [("abs", .abs), ("acos", .acos), ("asin", .asin), ("atan", .atan), ("atan2", .atan2),
   ("ceil", .ceil), ("cos", .cos), ("cosh", .cosh), ("deg", .deg), ("exp", .exp),
   ("floor", .floor), ("fmod", .fmod), ("frexp", .frexp), ("ldexp", .ldexp), ("log", .log),
   ("log10", .log10), ("max", .max), ("min", .min), ("mod", .mod), ("modf", .modf),
   ("pow", .pow), ("rad", .rad), ("random", .random), ("randomseed", .randomseed),
   ("sin", .sin), ("sinh", .sinh), ("sqrt", .sqrt), ("tan", .tan), ("tanh", .tanh)]

def coroutineFunctions : List (String × CoroutineFn) :=
  [("create", .create), ("yield", .yield), ("resume", .resume), ("running", .running),
   ("status", .status), ("wrap", .wrap)]

def osFunctions : List (String × OsFn) :=
  [("clock", .clock), ("difftime", .difftime), ("execute", .execute), ("exit", .exit),
   ("date", .date), ("getenv", .getenv), ("remove", .remove), ("rename", .rename),
   ("setenv", .setenv), ("setlocale", .setlocale), ("time", .time), ("tmpname", .tmpname)]

def ioFunctions : List (String × IoFn) :=
  [("close", .close), ("flush", .flush), ("input", .input), ("lines", .lines), ("open", .open),
   ("output", .output), ("popen", .popen), ("read", .read), ("tmpfile", .tmpfile),
   ("type", .type), ("write", .write)]

def debugFunctions : List (String × DebugFn) :=
  [("getfenv", .getfenv), ("getinfo", .getinfo), ("getlocal", .getlocal),
   ("getmetatable", .getmetatable), ("getupvalue", .getupvalue), ("setfenv", .setfenv),
   ("setlocal", .setlocal), ("setmetatable", .setmetatable), ("setupvalue", .setupvalue),
   ("traceback", .traceback)]

/-- The libraries that capabilities open. -/
inductive Library where
  | os | io | debug
deriving DecidableEq, Repr

def Library.name : Library → String
  | .os => "os" | .io => "io" | .debug => "debug"

def Library.functions : Library → List (String × Builtin)
  | .os => osFunctions.map fun (n, f) => (n, .os f)
  | .io => ioFunctions.map fun (n, f) => (n, .io f)
  | .debug => debugFunctions.map fun (n, f) => (n, .debug f)

def setFunction (r : Nat) (name : String) (b : Builtin) : VM H σ Unit := do
  let f ← allocFunc (.builtin b)
  modifyTable r (·.setStr name (.func f))

def setField (r : Nat) (name : String) (v : Value) : VM H σ Unit :=
  modifyTable r (·.setStr name v)

def loadedTable : VM H σ (Option Nat) := do
  match ← globalField "package" with
  | .table p => pure (match (← tableAt p).getStr "loaded" with | .table l => some l | _ => none)
  | _ => pure none

/-- Registers a module of functions: the table `package.loaded` holds under
the name if there is one, else the global of that name (made when missing)
filled with the functions and recorded as loaded. -/
def registerModule (name : String) (fns : List (String × Builtin)) : VM H σ Nat := do
  let loaded ← loadedTable
  let known ← match loaded with
    | some l => pure ((← tableAt l).getStr name)
    | none => pure .nil
  match known with
  | .table r => pure r
  | _ =>
    let r ← match ← globalField name with
      | .table r => pure r
      | _ => do
        let r ← allocTable
        let g := (← get).globals
        modifyTable g (·.setStr name (.table r))
        pure r
    for (n, b) in fns do
      setFunction r n b
    match loaded with
    | some l => setField l name (.table r)
    | none => pure ()
    pure r

def openLibrary (lib : Library) : VM H σ Nat :=
  registerModule lib.name lib.functions

/-- Opens the libraries every script starts with; `print` and `require`
become the sandbox's own, and the ways of loading code from text or files
are left out. -/
def openBaseLibraries : VM H σ Unit := do
  let g ← allocTable
  modify fun w => { w with globals := g }
  setField g "_G" (.table g)
  setField g "_VERSION" (strValue "Lua 5.1")
  setField g "_GOPHER_LUA_VERSION" (strValue "GopherLua 0.1")
  for (n, f) in baseFunctions do
    setFunction g n (.base f)
  let ipairsStep ← allocFunc (.builtin (.base .ipairsStep))
  let nextFn ← allocFunc (.builtin (.base .next))
  modify fun w => { w with ipairsFn := .func ipairsStep, nextFn := .func nextFn }
  setFunction g "ipairs" (.base .ipairs)
  setFunction g "pairs" (.base .pairs)
  let pkg ← allocTable
  setField g "package" (.table pkg)
  setFunction pkg "loadlib" (.base .loadlib)
  setFunction pkg "seeall" (.base .seeall)
  setField pkg "preload" (.table (← allocTable))
  let loaders ← allocTable
  setField pkg "loaders" (.table loaders)
  let byPreload ← allocFunc (.builtin (.base .loaderPreload))
  let byFile ← allocFunc (.builtin (.base .loaderFile))
  modifyTable loaders fun t => (t.setInt 1 (.func byPreload)).setInt 2 (.func byFile)
  setField pkg "loaded" (.table (← allocTable))
  setField pkg "path" (strValue "")
  setField pkg "cpath" (strValue "")
  setField pkg "config" (strValue "/\n;\n?\n!\n-\n")
  let _ ← registerModule "table" (tableFunctions.map fun (n, f) => (n, .table f))
  let s ← registerModule "string" (stringFunctions.map fun (n, f) => (n, .string f))
  let gmatch ← allocFunc (.builtin (.string .gmatch))
  let gmatchStep ← allocFunc (.builtin (.string .gmatchStep))
  modify fun w => { w with gmatchFn := .func gmatchStep, stringMeta := some s }
  setField s "gmatch" (.func gmatch)
  setField s "gfind" (.func gmatch)
  setField s "__index" (.table s)
  let m ← registerModule "math" (mathFunctions.map fun (n, f) => (n, .math f))
  setField m "pi" (.num 3.141592653589793)
  setField m "huge" (.num 1.7976931348623157e308)
  let _ ← registerModule "coroutine" (coroutineFunctions.map fun (n, f) => (n, .coroutine f))
  setFunction g "print" .sandboxPrint
  setFunction g "require" .sandboxRequire

end MudClient.Lua
