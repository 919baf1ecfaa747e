/-
# Reading settings from YAML

`readSettings` reads the first document of a YAML text against a shape.
A mapping names record fields exactly; when the reader is strict, a key
that names no field is a fault.  A null assigns nothing, except that it
empties a list or a map; a list keeps only the items that could be read.

Faults of type are gathered, in document order, each with its line, and
reported together; reading goes on past them.  A mapping that repeats a
key is refused as a whole.  A duration written as text that does not read
as one stops reading at once with the duration's own fault.

A switch is `true` or `false` in the three usual cases, or one of the
older words `y`, `yes`, `on`, `n`, `no`, `off` in the same cases.  A whole
number may be written as a fraction, which is cut to its whole part.

A merge key `<<` reads the mapping it names into the record or map at the
place of the key, so that keys before it may be overridden by it and keys
after it override it; a sequence of mappings is read from the last to the
first.  Anything else after a merge key stops reading.
-/
import MudClient.Yaml.Node
import MudClient.Schema.Basic
import MudClient.Text.Quote
import MudClient.Time.Duration
import MudClient.Text.Base64

namespace MudClient.Yaml

open MudClient.Schema

/-- Reading settings: faults of type gathered so far, or a fault that
stops reading. -/
abbrev Reading := StateT (Array String) (Except String)

def liftM {α : Type} : Except String α → Reading α
  | .ok a => pure a
  | .error e => throw e

/-- The text of a value in a fault of type: cut to seven bytes and an
ellipsis when longer than ten. -/
def shownValue (v : String) : String :=
  let b := Bytes.ofString v
  if b.size > 10 then (b.extract 0 7).toText ++ "..." else v

def mismatch (n : Node) (tag type : String) : Reading Unit :=
  let tag := if n.tag != "" then n.tag else tag
  let value := if tag == "!!seq" || tag == "!!map" then "" else " `" ++ shownValue n.text ++ "`"
  modify fun es => es.push ("line " ++ toString n.line ++ ": cannot unmarshal " ++ shortTag tag ++
    value ++ " into " ++ type)

/-- Whether a scalar is written as a string: quoted, a block scalar, or
tagged `!!str`. -/
def isTextual (tag : String) (style : ScalarStyle) : Bool :=
  shortTag tag == "!!str" || ((tag == "" || tag == "!") && style != .plain)

def switchWord (s : String) : Option Bool :=
  if ["y", "Y", "yes", "Yes", "YES", "on", "On", "ON"].contains s then some true
  else if ["n", "N", "no", "No", "NO", "off", "Off", "OFF"].contains s then some false
  else none

def wholePart (f : Float) : Option Int :=
  if f.isNaN || f > 9223372036854775807.0 then none
  else if f ≥ 9223372036854775808.0 || f ≤ -9223372036854775808.0 then some (-(Int.pow 2 63))
  else if f < 0 then some (-((-f).toUInt64.toNat : Int))
  else some f.toUInt64.toNat

def scalarSetting (n : Node) (tag value : String) (style : ScalarStyle) (shape : Shape) :
    Reading (Option Setting) := do
  let (rtag, r) ← if isTextual tag style then pure ("!!str", Resolved.str value)
    else match resolve tag value with
      | .ok x => pure x
      | .error e => throw ("yaml: " ++ e)
  -- a binary scalar stands for the bytes its base64 text decodes to
  let (r, value) ← if rtag == "!!binary" then
      match Text.base64Decode (Bytes.ofString value).data.toList with
      | some bs => let s := (Bytes.mk bs.toArray).toText; pure (Resolved.str s, s)
      | none => throw "yaml: !!binary value contains invalid base64 data"
    else pure (r, value)
  match r, shape with
  | .null, .list .. => pure (some .clear)
  | .null, .textMap .. => pure (some .clear)
  | .null, _ => pure none
  | _, .text _ => pure (some (.text value))
  | .bool b, .flag => pure (some (.flag b))
  | .str s, .flag =>
    match switchWord s with
    | some b => pure (some (.flag b))
    | none => do mismatch n rtag "bool"; pure none
  | .int v, .whole t =>
    if -(Int.pow 2 63) ≤ v && v < Int.pow 2 63 then pure (some (.whole v))
    else do mismatch n rtag t; pure none
  | .float f, .whole t =>
    match wholePart f with
    | some v => pure (some (.whole v))
    | none => do mismatch n rtag t; pure none
  | _, .span _ true =>
    match Time.parse value with
    | .ok d => pure (some (.span d))
    | .error e => throw e
  | .str s, .span t false =>
    match Time.parse s with
    | .ok d => pure (some (.span d))
    | .error _ => do mismatch n rtag t; pure none
  | _, _ => do mismatch n rtag shape.type; pure none

def keyName (k : Node) : Reading (Option String) :=
  match k with
  | .scalar tag value style _ _ =>
    if isTextual tag style then pure (some value)
    else match resolve tag value with
      | .ok (_, .null) => pure none
      | .ok _ => pure (some value)
      | .error e => throw ("yaml: " ++ e)
  | .alias name none _ _ => throw ("yaml: anchor '" ++ name ++ "' value contains itself")
  | .alias _ (some (.scalar tag value style _ _)) _ _ =>
    if isTextual tag style then pure (some value)
    else match resolve tag value with
      | .ok (_, .null) => pure none
      | .ok _ => pure (some value)
      | .error e => throw ("yaml: " ++ e)
  | .alias _ (some t) _ _ => do mismatch t "" "string"; pure none
  | .sequence .. | .mapping .. => do mismatch k "" "string"; pure none

def repeatedKeys (entries : List (Node × Node)) : Reading Bool := do
  let keys := entries.map (·.1)
  let before ← get
  let pairs := (keys.zip (List.range keys.length)).flatMap fun (a, i) =>
    ((keys.drop (i + 1)).filter fun b => a.kindNumber == b.kindNumber && a.text == b.text).map (a, ·)
  for (a, b) in pairs do
    modify fun es => es.push ("line " ++ toString b.line ++ ": mapping key " ++ Text.quote b.text ++
      " already defined at line " ++ toString a.line)
  let after ← get
  pure (after.size > before.size)

/-- Whether a mapping key is the merge key: a plain or explicitly tagged
`<<`. -/
def isMergeKey : Node → Bool
  | .scalar tag value style _ _ =>
    value == "<<" && (shortTag tag == "!!merge" || ((tag == "" || tag == "!") && style == .plain))
  | _ => false

def isMappingLike : Node → Bool
  | .mapping .. => true
  | .alias _ (some (.mapping ..)) _ _ => true
  | .alias _ none _ _ => true
  | _ => false

def mergeFault : String := "yaml: map merge requires map or sequence of maps as the value"

/-- The mappings a merge key's value merges, in the order they are read: a
mapping or an alias of one, or the mappings of a sequence from the last to
the first, so that the earlier ones win. -/
def mergeSources : (v : Node) → Except String (List {s : Node // sizeOf s ≤ sizeOf v})
  | .mapping tag entries l c => .ok [⟨.mapping tag entries l c, Nat.le_refl _⟩]
  | .alias name target l c =>
    if isMappingLike (.alias name target l c) then .ok [⟨.alias name target l c, Nat.le_refl _⟩]
    else .error mergeFault
  | .sequence tag items l c =>
    items.attach.toList.reverse.mapM fun ⟨x, hx⟩ =>
      if isMappingLike x then
        .ok ⟨x, by
          have := Array.sizeOf_lt_of_mem hx
          simp only [Node.sequence.sizeOf_spec]
          omega⟩
      else .error mergeFault
  | .scalar .. => .error mergeFault

/-- What a node assigns to a setting of a shape; none when it assigns
nothing. -/
def nodeSetting (strict : Bool) : Shape → Node → Reading (Option Setting)
  | shape, .alias name none _ _ =>
    let _ := shape
    throw ("yaml: anchor '" ++ name ++ "' value contains itself")
  | shape, .alias _ (some t) _ _ => nodeSetting strict shape t
  | shape, .scalar tag value style l c => scalarSetting (.scalar tag value style l c) tag value style shape
  | shape, .sequence tag items l c =>
    let n := Node.sequence tag items l c
    match shape with
    | .list _ item => do
      let got ← items.attach.toList.mapM fun ⟨x, _⟩ => nodeSetting strict item x
      pure (some (.list (got.filter (·.isSome))))
    | _ => do mismatch n "!!seq" shape.type; pure none
  | shape, .mapping tag entries l c => do
    let n := Node.mapping tag entries l c
    if ← repeatedKeys entries.toList then return none
    match shape with
    | .record t fields _ => do
      let got ← entries.attach.toList.mapM fun ⟨(k, v), hkv⟩ => do
        if isMergeKey k then
          let sources ← liftM (mergeSources v)
          let parts ← sources.mapM fun ⟨src, hs⟩ => do
            have : sizeOf src < sizeOf (Node.mapping tag entries l c) := by
              have := Array.sizeOf_lt_of_mem hkv
              simp only [Prod.mk.sizeOf_spec] at this
              simp only [Node.mapping.sizeOf_spec]
              omega
            match ← nodeSetting strict shape src with
            | some (.record as) => pure as
            | _ => pure []
          pure parts.flatten
        else
        match ← keyName k with
        | none => pure []
        | some name =>
          match fields.lookup name with
          | some fs => do
            have : sizeOf v < sizeOf (Node.mapping tag entries l c) := by
              have := Array.sizeOf_lt_of_mem hkv
              simp only [Prod.mk.sizeOf_spec] at this
              simp only [Node.mapping.sizeOf_spec]
              omega
            let s ← nodeSetting strict fs v
            pure (s.map (fun s => (name, s))).toList
          | none => do
            if strict then
              modify fun es => es.push ("line " ++ toString k.line ++ ": field " ++ name ++
                " not found in type " ++ t)
            pure []
      pure (some (.record got.flatten))
    | .textMap _ => do
      let got ← entries.attach.toList.mapM fun ⟨(k, v), hkv⟩ => do
        if isMergeKey k then
          let sources ← liftM (mergeSources v)
          let parts ← sources.mapM fun ⟨src, hs⟩ => do
            have : sizeOf src < sizeOf (Node.mapping tag entries l c) := by
              have := Array.sizeOf_lt_of_mem hkv
              simp only [Prod.mk.sizeOf_spec] at this
              simp only [Node.mapping.sizeOf_spec]
              omega
            match ← nodeSetting strict shape src with
            | some (.entries kvs) => pure kvs
            | _ => pure []
          pure parts.flatten
        else
        match ← keyName k with
        | none => pure []
        | some name => do
          have : sizeOf v < sizeOf (Node.mapping tag entries l c) := by
            have := Array.sizeOf_lt_of_mem hkv
            simp only [Prod.mk.sizeOf_spec] at this
            simp only [Node.mapping.sizeOf_spec]
            omega
          match ← nodeSetting strict (.text "string") v with
          | some (.text s) => pure [(name, s)]
          | _ =>
            match v with
            | .scalar tag value style _ _ =>
              match resolve tag value with
              | .ok (_, .null) => if isTextual tag style then pure [] else pure [(name, "")]
              | _ => pure []
            | _ => pure []
      pure (some (.entries got.flatten))
    | _ => do mismatch n "!!map" shape.type; pure none
termination_by _ n => sizeOf n
decreasing_by
  all_goals first
    | assumption
    | (simp only [Node.alias.sizeOf_spec, Option.some.sizeOf_spec]; omega)
    | (rename_i h
       have := Array.sizeOf_lt_of_mem h
       simp only [Node.sequence.sizeOf_spec]
       omega)
    | (rename_i h
       have := Array.sizeOf_lt_of_mem h
       simp only [Prod.mk.sizeOf_spec] at this
       simp only [Node.mapping.sizeOf_spec]
       omega)

/-- The settings of a YAML text read against a record shape: none when the
text holds no document. -/
def readSettings (strict : Bool) (shape : Shape) (text : Bytes) : Except String (Option Setting) :=
  match firstDocument text with
  | .error f => .error f.message
  | .ok none => .ok none
  | .ok (some n) =>
    match (nodeSetting strict shape n).run #[] with
    | .error e => .error e
    | .ok (s, errors) =>
      if errors.isEmpty then .ok s
      else .error ("yaml: unmarshal errors:\n  " ++ "\n  ".intercalate errors.toList)

end MudClient.Yaml
