/-
# Settings documents and their shapes

Configuration files and module manifests are documents of settings, written
in one of three formats.  Each reader turns a document into the same thing:
a `Setting` tree that says, in document order, which settings it assigns.
The tree is read against a `Shape`, the description of the settings the
host expects and of the host type behind each one, which is also what
error messages name.

A setting read over an existing value changes only what it assigns: a
record keeps the fields it does not mention, a text map keeps the entries
it does not mention, and a list is replaced as a whole.  `clear` empties a
list or a map, as an explicit null does.
-/

namespace MudClient.Schema

/-- What a setting holds, with the name of the host type behind it. -/
inductive Shape where
  /-- A text. -/
  | text (type : String)
  /-- A yes-or-no switch. -/
  | flag
  /-- A whole number. -/
  | whole (type : String)
  /-- A duration; `textual` when it is written only as text such as
  `200ms`, otherwise it is a count of nanoseconds that also reads text. -/
  | span (type : String) (textual : Bool)
  /-- A list of settings of one shape. -/
  | list (type : String) (item : Shape)
  /-- A map from names to texts. -/
  | textMap (type : String)
  /-- A record of named fields; `members` gives the host's own name of each
  field, which some error messages use. -/
  | record (type : String) (fields : List (String × Shape)) (members : List (String × String))
deriving Inhabited, Repr

def Shape.type : Shape → String
  | .text t => t
  | .flag => "bool"
  | .whole t => t
  | .span t _ => t
  | .list t _ => t
  | .textMap t => t
  | .record t _ _ => t

/-- What a document assigns to a setting. -/
inductive Setting where
  | text (s : String)
  | flag (b : Bool)
  | whole (n : Int)
  | span (d : Int)
  /-- A whole list; an item that assigns nothing stays at its zero value. -/
  | list (items : List (Option Setting))
  /-- Entries merged into a text map. -/
  | entries (kvs : List (String × String))
  /-- Fields assigned in order; a later assignment of a field wins. -/
  | record (assigns : List (String × Setting))
  /-- Empties a list or a map. -/
  | clear
deriving Inhabited, Repr

namespace Setting

def textOr (s : Setting) (cur : String) : String :=
  match s with
  | .text t => t
  | _ => cur

def flagOr (s : Setting) (cur : Bool) : Bool :=
  match s with
  | .flag b => b
  | _ => cur

def wholeOr (s : Setting) (cur : Int) : Int :=
  match s with
  | .whole n => n
  | .span n => n
  | _ => cur

def textsOr (s : Setting) (cur : List String) : List String :=
  match s with
  | .list items => items.map fun i => match i with
    | some it => it.textOr ""
    | none => ""
  | .clear => []
  | _ => cur

/-- The text map a setting assigns, over a current map: entries replace
those of the same name in place, new ones go at the end. -/
def mapOr (s : Setting) (cur : Option (List (String × String))) : Option (List (String × String)) :=
  match s with
  | .entries kvs =>
    some (kvs.foldl (fun (m : List (String × String)) (k, v) =>
      if m.any (·.1 == k) then m.map fun (k2, v2) => if k2 == k then (k2, v) else (k2, v2)
      else m ++ [(k, v)]) (cur.getD []))
  | .clear => none
  | _ => cur

def assigns : Setting → List (String × Setting)
  | .record a => a
  | _ => []

end Setting

/-! ## Host values -/

/-- A host value, as a reader that decodes a document into an existing
value sees it.  A list keeps its whole store: its first `len` items are the
list, and the rest is spare room left by a longer list before, which a list
read later into the same place grows into without clearing it. -/
inductive Held where
  | text (s : String)
  | flag (b : Bool)
  | whole (n : Int)
  | span (d : Int)
  | list (store : Array Held) (len : Nat)
  | map (entries : Option (List (String × String)))
  | record (fields : List (String × Held))
deriving Inhabited, Repr

/-- The zero value of a shape: empty text, no switch, zero, an empty list
and no map, and a record of zero fields. -/
def Shape.zero : Shape → Held
  | .text _ => .text ""
  | .flag => .flag false
  | .whole _ => .whole 0
  | .span _ _ => .span 0
  | .list _ _ => .list #[] 0
  | .textMap _ => .map none
  | .record _ fields _ => .record (fields.attach.map fun ⟨(n, s), _⟩ => (n, s.zero))
termination_by s => sizeOf s
decreasing_by
  rename_i h
  have := List.sizeOf_lt_of_mem h
  simp only [Prod.mk.sizeOf_spec] at this
  simp only [Shape.record.sizeOf_spec]
  omega

/-- The size in bytes, the alignment, and whether it holds references, of
the host's representation of a shape. -/
def Shape.layout : Shape → Nat × Nat × Bool
  | .text _ => (16, 8, true)
  | .flag => (1, 1, false)
  | .whole _ => (8, 8, false)
  | .span _ _ => (8, 8, false)
  | .list _ _ => (24, 8, true)
  | .textMap _ => (8, 8, true)
  | .record _ fields _ =>
    let (off, al, refs) := fields.attach.foldl (fun (off, al, refs) ⟨(_, s), _⟩ =>
      let (size, a, r) := s.layout
      ((off + a - 1) / a * a + size, max al a, refs || r)) (0, 1, false)
    ((off + al - 1) / al * al, al, refs)
termination_by s => sizeOf s
decreasing_by
  rename_i h
  have := List.sizeOf_lt_of_mem h
  simp only [Prod.mk.sizeOf_spec] at this
  simp only [Shape.record.sizeOf_spec]
  omega

def blockSizes : List Nat :=
  [8, 16, 24, 32, 48, 64, 80, 96, 112, 128, 144, 160, 176, 192, 208, 224, 240, 256, 288, 320,
   352, 384, 416, 448, 480, 512, 576, 640, 704, 768, 896, 1024, 1152, 1280, 1408, 1536, 1792,
   2048, 2304, 2688, 3072, 3200, 3456, 4096, 4864, 5376, 6144, 6528, 6784, 6912, 8192, 9472,
   9728, 10240, 10880, 12288, 13568, 14336, 16384, 18432, 19072, 20480, 21760, 24576, 27264,
   28672, 32768]

/-- The bytes the host sets aside for a request of `size` bytes: the
smallest block that holds it (with an eight-byte header beyond 512 bytes
for blocks that hold references), else whole pages of 8192 bytes. -/
def roundUpSize (size : Nat) (refs : Bool) : Nat :=
  let req := if refs && size > 512 then size + 8 else size
  if size ≤ 32760 then
    match blockSizes.find? (req ≤ ·) with
    | some b => b - (req - size)
    | none => (size + 8191) / 8192 * 8192
  else (size + 8191) / 8192 * 8192

/-- The room of a list of `cap` items of `size` bytes after growing it to
hold `need` items: double while below 256 items, then a quarter more each
step, rounded up to the block the host sets aside. -/
def grownRoom (cap need size : Nat) (refs : Bool) : Nat :=
  let doubled := cap + cap
  let target :=
    if need > doubled then need
    else if cap < 256 then doubled
    else
      let rec step (c : Nat) (fuel : Nat) : Nat :=
        match fuel with
        | 0 => c
        | fuel + 1 => if c ≥ need then c else step (c + (c + 768) / 4) fuel
      step cap (need + 1)
  if size = 0 then target else roundUpSize (target * size) refs / size

def Held.setting : Held → Setting
  | .text s => .text s
  | .flag b => .flag b
  | .whole n => .whole n
  | .span d => .span d
  | .list store len =>
    .list ((store.attach.map fun ⟨h, _⟩ => some h.setting).toList.take len)
  | .map (some kvs) => .entries kvs
  | .map none => .clear
  | .record fields => .record (fields.attach.map fun ⟨(n, h), _⟩ => (n, h.setting))
termination_by h => sizeOf h
decreasing_by
  · rename_i hm
    have := Array.sizeOf_lt_of_mem hm
    simp only [Held.list.sizeOf_spec]
    omega
  · rename_i hm
    have := List.sizeOf_lt_of_mem hm
    simp only [Prod.mk.sizeOf_spec] at this
    simp only [Held.record.sizeOf_spec]
    omega

end MudClient.Schema
