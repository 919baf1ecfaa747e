/-
# Reading a configuration

`parse` reads a document of a named format over the defaults and checks
the result; `load` does the same for a file, whose extension names the
format.  A document that cannot be read is reported with where it came
from and the format reader's own message; a blank document changes
nothing.
-/
import MudClient.Config.Shape
import MudClient.Disk
import MudClient.Json.Decode
import MudClient.Yaml.Decode
import MudClient.Toml.Decode

namespace MudClient.Config

open MudClient.Schema

def parseFailure (source message : String) : Failure :=
  { message := "parse error in " ++ source ++ ": " ++ message, kinds := [.parse] }

/-- What a document of a format assigns, read strictly: a setting the
configuration does not have is refused. -/
def readDocument : Format → Bytes → Except String (List (String × Setting))
  | .json, data => (Json.readSettings true shape default.held data).map fun s => (s.map Setting.assigns).getD []
  | .yaml, data => (Yaml.readSettings true shape data).map fun s => (s.map Setting.assigns).getD []
  | .toml, data => (Toml.readSettings true shape data).map fun s => (s.map Setting.assigns).getD []

/-- Reads a document over the defaults, without checking the result; a
fault in reading names `source`. -/
def readFrom (fmt : Format) (source : String) (data : Bytes) : Except Failure Settings :=
  match readDocument fmt data with
  | .error msg => .error (parseFailure source msg)
  | .ok as => .ok (default.assign as)

/-- Reads a document over the defaults and checks it; a fault in reading
names `source`. -/
def parseFrom (fmt : Format) (source : String) (data : Bytes) : Except Failure Settings := do
  let c ← readFrom fmt source data
  c.validate
  pure c

def parse (format : String) (data : Bytes) : Except Failure Settings :=
  match Format.ofName? format with
  | none => .error (unsupported format)
  | some f => parseFrom f ("<" ++ format ++ ">") data

/-- Reads a configuration file over the defaults, without checking the
result; the disk holds the file named `path` at `file`, and faults name it
by `path`. -/
def readFile (disk : Disk) (file path : String) : Except Failure Settings :=
  match formatFor path with
  | .error e => .error e
  | .ok f =>
    match disk.read file with
    | .error .missing =>
      .error { message := "config file not found: " ++ path, conditions := [.configNotFound] }
    | .error .directory =>
      .error (.plain ("reading config file " ++ path ++ ": read " ++ path ++ ": is a directory"))
    | .ok data => readFrom f path data

/-- Reads a configuration file over the defaults and checks it; the disk
holds the file named `path` at `file`, and faults name it by `path`. -/
def loadFile (disk : Disk) (file path : String) : Except Failure Settings := do
  let c ← readFile disk file path
  c.validate
  pure c

def load (disk : Disk) (path : String) : Except Failure Settings := loadFile disk path path

end MudClient.Config
