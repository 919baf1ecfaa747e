/-
# YAML events

The parser turns tokens into events: the stream and its documents, the
start and end of each collection, scalars and aliases, with the anchor and
tag a node carries.  It is a machine whose state says what may come next;
a stack keeps the states to return to after a nested node, and the places
where open collections started, for faults.

A document need not start with `---` when it is the first one; an empty
node stands wherever a key, a value or an entry is left out.  A tag is
expanded by the handles `!` and `!!` and those that `%TAG` directives
declare.
-/
import MudClient.Yaml.Scanner

namespace MudClient.Yaml

/-- What an event is. -/
inductive EventKind where
  | streamStart | streamEnd
  | documentStart (implicit : Bool)
  | documentEnd (implicit : Bool)
  | alias (name : String)
  | scalar (anchor tag value : String) (style : ScalarStyle)
  | sequenceStart (anchor tag : String) (flow : Bool)
  | sequenceEnd
  | mappingStart (anchor tag : String) (flow : Bool)
  | mappingEnd
deriving Inhabited, Repr

/-- An event and where it lies. -/
structure Event where
  kind : EventKind
  start : Mark
  stop : Mark
deriving Inhabited, Repr

/-- What the parser expects next. -/
inductive State where
  | streamStart | implicitDocumentStart | documentStart | documentContent | documentEnd
  | blockNode | blockNodeOrIndentlessSequence | flowNode
  | blockSequenceFirstEntry | blockSequenceEntry | indentlessSequenceEntry
  | blockMappingFirstKey | blockMappingKey | blockMappingValue
  | flowSequenceFirstEntry | flowSequenceEntry
  | flowSequenceEntryMappingKey | flowSequenceEntryMappingValue | flowSequenceEntryMappingEnd
  | flowMappingFirstKey | flowMappingKey | flowMappingValue | flowMappingEmptyValue
  | finished
deriving Inhabited, Repr, DecidableEq

/-- The parser: the scanner under it, its state and the states and
collection starts to return to, and the tag handles of the document. -/
structure Parser where
  scanner : Scanner
  state : State := .streamStart
  states : List State := []
  marks : List Mark := []
  handles : List (String × String) := []
deriving Inhabited

def defaultHandles : List (String × String) := [("!", "!"), ("!!", "tag:yaml.org,2002:")]

namespace Parser

def peekToken (p : Parser) : Except Fault (Token × Parser) := do
  let (t, s) ← p.scanner.peek
  pure (t, { p with scanner := s })

def skipToken (p : Parser) : Parser := { p with scanner := p.scanner.take }

def pop (p : Parser) : Parser :=
  match p.states with
  | s :: rest => { p with state := s, states := rest }
  | [] => { p with state := .finished }

def push (p : Parser) (back : State) : Parser := { p with states := back :: p.states }

def popMark (p : Parser) : Parser := { p with marks := p.marks.drop 1 }

def topMark (p : Parser) : Mark := p.marks.headD {}

def empty (m : Mark) : Event := ⟨.scalar "" "" "" .plain, m, m⟩

def isKind (t : Token) (k : String) : Bool :=
  match t.kind, k with
  | .versionDirective .., "version" => true
  | .tagDirective .., "tagdir" => true
  | .documentStart, "docstart" => true
  | .documentEnd, "docend" => true
  | .streamEnd, "streamend" => true
  | .blockEntry, "entry" => true
  | .blockEnd, "blockend" => true
  | .key, "key" => true
  | .value, "value" => true
  | .flowEntry, "flowentry" => true
  | .flowSequenceEnd, "seqend" => true
  | .flowMappingEnd, "mapend" => true
  | _, _ => false

def directives (p : Parser) : Except Fault Parser :=
  let rec go (p : Parser) (seenVersion : Bool) (handles : List (String × String)) (fuel : Nat) :
      Except Fault Parser := do
    let (t, p) ← p.peekToken
    match fuel with
    | 0 => pure p
    | fuel + 1 =>
      match t.kind with
      | .versionDirective major minor =>
        if seenVersion then throw (parseFault {} t.start "found duplicate %YAML directive")
        if major != 1 || (minor != 1 && minor != 2) then
          throw (parseFault {} t.start "found incompatible YAML document")
        go p.skipToken true handles fuel
      | .tagDirective handle pre =>
        if handles.any (·.1 == handle) then throw (parseFault {} t.start "found duplicate %TAG directive")
        go p.skipToken seenVersion (handles ++ [(handle, pre)]) fuel
      | _ =>
        let all := defaultHandles.foldl (fun hs (h, v) =>
          if hs.any (·.1 == h) then hs else hs ++ [(h, v)]) handles
        pure { p with handles := all }
  go p false [] (p.scanner.text.size + 2)

def streamStart (p : Parser) : Except Fault (Event × Parser) := do
  let (t, p) ← p.peekToken
  match t.kind with
  | .streamStart => pure (⟨.streamStart, t.start, t.stop⟩, { p.skipToken with state := .implicitDocumentStart })
  | _ => throw (parseFault {} t.start "did not find expected <stream-start>")

def documentStart (p : Parser) (implicit : Bool) : Except Fault (Event × Parser) := do
  let (t, p) ← p.peekToken
  let rec skipEnds (t : Token) (p : Parser) (fuel : Nat) : Except Fault (Token × Parser) :=
    match fuel with
    | 0 => .ok (t, p)
    | fuel + 1 =>
      if isKind t "docend" then do
        let (t, p) ← p.skipToken.peekToken
        skipEnds t p fuel
      else .ok (t, p)
  let (t, p) ← if implicit then pure (t, p) else skipEnds t p (p.scanner.text.size + 2)
  if isKind t "streamend" then
    pure (⟨.streamEnd, t.start, t.stop⟩, { p.skipToken with state := .finished })
  else if implicit && !(isKind t "version" || isKind t "tagdir" || isKind t "docstart") then
    let p ← p.directives
    pure (⟨.documentStart true, t.start, t.start⟩, { (p.push .documentEnd) with state := .blockNode })
  else
    let start := t.start
    let p ← p.directives
    let (t, p) ← p.peekToken
    if !isKind t "docstart" then throw (parseFault {} t.start "did not find expected <document start>")
    pure (⟨.documentStart false, start, t.stop⟩,
      { (p.push .documentEnd).skipToken with state := .documentContent })

def documentContent (p : Parser) : Except Fault (Event × Parser × Bool) := do
  let (t, p) ← p.peekToken
  if isKind t "version" || isKind t "tagdir" || isKind t "docstart" || isKind t "docend" ||
      isKind t "streamend" then
    pure (empty t.start, p.pop, false)
  else pure (default, p, true)

def documentEnd (p : Parser) : Except Fault (Event × Parser) := do
  let (t, p) ← p.peekToken
  let (implicit, stop, p) := if isKind t "docend" then (false, t.stop, p.skipToken) else (true, t.start, p)
  pure (⟨.documentEnd implicit, t.start, stop⟩, { p with state := .documentStart, handles := [] })

/-- A node: an alias, or a scalar or collection with an optional anchor and
tag. -/
def node (p : Parser) (block indentless : Bool) : Except Fault (Event × Parser) := do
  let (t, p) ← p.peekToken
  if let .alias name := t.kind then
    return (⟨.alias name, t.start, t.stop⟩, p.pop.skipToken)
  let start := t.start
  -- an anchor and a tag, in either order
  let (anchor, tagged, t, p) ← match t.kind with
    | .anchor a => do
      let (t2, p) ← p.skipToken.peekToken
      match t2.kind with
      | .tag h s => do
        let (t3, p) ← p.skipToken.peekToken
        pure (a, some (h, s, t2.start), t3, p)
      | _ => pure (a, none, t2, p)
    | .tag h s => do
      let (t2, p) ← p.skipToken.peekToken
      match t2.kind with
      | .anchor a => do
        let (t3, p) ← p.skipToken.peekToken
        pure (a, some (h, s, t.start), t3, p)
      | _ => pure ("", some (h, s, t.start), t2, p)
    | _ => pure ("", none, t, p)
  let tag ← match tagged with
    | none => pure ""
    | some (h, s, m) =>
      if h.isEmpty then pure s
      else match p.handles.lookup h with
        | some pre => pure (pre ++ s)
        | none => throw (parseFault start m "found undefined tag handle")
  let hasProps := !anchor.isEmpty || !tag.isEmpty
  match t.kind with
  | .blockEntry =>
    if indentless then
      return (⟨.sequenceStart anchor tag false, start, t.stop⟩, { p with state := .indentlessSequenceEntry })
  | .scalar v style =>
    return (⟨.scalar anchor tag v style, start, t.stop⟩, p.pop.skipToken)
  | .flowSequenceStart =>
    return (⟨.sequenceStart anchor tag true, start, t.stop⟩, { p with state := .flowSequenceFirstEntry })
  | .flowMappingStart =>
    return (⟨.mappingStart anchor tag true, start, t.stop⟩, { p with state := .flowMappingFirstKey })
  | .blockSequenceStart =>
    if block then
      return (⟨.sequenceStart anchor tag false, start, t.stop⟩, { p with state := .blockSequenceFirstEntry })
  | .blockMappingStart =>
    if block then
      return (⟨.mappingStart anchor tag false, start, t.stop⟩, { p with state := .blockMappingFirstKey })
  | _ => pure ()
  if hasProps then
    return (⟨.scalar anchor tag "" .plain, start, start⟩, p.pop)
  throw (parseFault start t.start "did not find expected node content")

def enter (p : Parser) : Except Fault Parser := do
  let (t, p) ← p.peekToken
  pure { p.skipToken with marks := t.start :: p.marks }

def blockSequenceEntry (p : Parser) (first : Bool) : Except Fault (Event × Parser) := do
  let p ← if first then p.enter else pure p
  let (t, p) ← p.peekToken
  if isKind t "entry" then
    let mark := t.stop
    let (t2, p) ← p.skipToken.peekToken
    if !isKind t2 "entry" && !isKind t2 "blockend" then
      (p.push .blockSequenceEntry).node true false
    else pure (empty mark, { p with state := .blockSequenceEntry })
  else if isKind t "blockend" then
    pure (⟨.sequenceEnd, t.start, t.stop⟩, p.pop.popMark.skipToken)
  else
    throw (parseFault p.topMark t.start "did not find expected '-' indicator")

def indentlessSequenceEntry (p : Parser) : Except Fault (Event × Parser) := do
  let (t, p) ← p.peekToken
  if isKind t "entry" then
    let mark := t.stop
    let (t2, p) ← p.skipToken.peekToken
    if !isKind t2 "entry" && !isKind t2 "key" && !isKind t2 "value" && !isKind t2 "blockend" then
      (p.push .indentlessSequenceEntry).node true false
    else pure (empty mark, { p with state := .indentlessSequenceEntry })
  else pure (⟨.sequenceEnd, t.start, t.start⟩, p.pop)

def blockMappingKey (p : Parser) (first : Bool) : Except Fault (Event × Parser) := do
  let p ← if first then p.enter else pure p
  let (t, p) ← p.peekToken
  if isKind t "key" then
    let mark := t.stop
    let (t2, p) ← p.skipToken.peekToken
    if !isKind t2 "key" && !isKind t2 "value" && !isKind t2 "blockend" then
      (p.push .blockMappingValue).node true true
    else pure (empty mark, { p with state := .blockMappingValue })
  else if isKind t "blockend" then
    pure (⟨.mappingEnd, t.start, t.stop⟩, p.pop.popMark.skipToken)
  else
    throw (parseFault p.topMark t.start "did not find expected key")

def blockMappingValue (p : Parser) : Except Fault (Event × Parser) := do
  let (t, p) ← p.peekToken
  if isKind t "value" then
    let mark := t.stop
    let (t2, p) ← p.skipToken.peekToken
    if !isKind t2 "key" && !isKind t2 "value" && !isKind t2 "blockend" then
      (p.push .blockMappingKey).node true true
    else pure (empty mark, { p with state := .blockMappingKey })
  else pure (empty t.start, { p with state := .blockMappingKey })

def flowSequenceEntry (p : Parser) (first : Bool) : Except Fault (Event × Parser) := do
  let p ← if first then p.enter else pure p
  let (t, p) ← p.peekToken
  if isKind t "seqend" then
    return (⟨.sequenceEnd, t.start, t.stop⟩, p.pop.popMark.skipToken)
  let (t, p) ← if first then pure (t, p)
    else if isKind t "flowentry" then p.skipToken.peekToken
    else throw (parseFault p.topMark t.start "did not find expected ',' or ']'")
  if isKind t "key" then
    pure (⟨.mappingStart "" "" true, t.start, t.stop⟩,
      { p.skipToken with state := .flowSequenceEntryMappingKey })
  else if !isKind t "seqend" then (p.push .flowSequenceEntry).node false false
  else pure (⟨.sequenceEnd, t.start, t.stop⟩, p.pop.popMark.skipToken)

def flowPairKey (p : Parser) : Except Fault (Event × Parser) := do
  let (t, p) ← p.peekToken
  if !isKind t "value" && !isKind t "flowentry" && !isKind t "seqend" then
    (p.push .flowSequenceEntryMappingValue).node false false
  else pure (empty t.start, { p with state := .flowSequenceEntryMappingValue })

def flowPairValue (p : Parser) : Except Fault (Event × Parser) := do
  let (t, p) ← p.peekToken
  if isKind t "value" then
    let (t2, p) ← p.skipToken.peekToken
    if !isKind t2 "flowentry" && !isKind t2 "seqend" then
      return (← (p.push .flowSequenceEntryMappingEnd).node false false)
    return (empty t2.start, { p with state := .flowSequenceEntryMappingEnd })
  pure (empty t.start, { p with state := .flowSequenceEntryMappingEnd })

def flowPairEnd (p : Parser) : Except Fault (Event × Parser) := do
  let (t, p) ← p.peekToken
  pure (⟨.mappingEnd, t.start, t.start⟩, { p with state := .flowSequenceEntry })

def flowMappingKey (p : Parser) (first : Bool) : Except Fault (Event × Parser) := do
  let p ← if first then p.enter else pure p
  let (t, p) ← p.peekToken
  if isKind t "mapend" then
    return (⟨.mappingEnd, t.start, t.stop⟩, p.pop.popMark.skipToken)
  let (t, p) ← if first then pure (t, p)
    else if isKind t "flowentry" then p.skipToken.peekToken
    else throw (parseFault p.topMark t.start "did not find expected ',' or '\x7d'")
  if isKind t "key" then
    let (t2, p) ← p.skipToken.peekToken
    if !isKind t2 "value" && !isKind t2 "flowentry" && !isKind t2 "mapend" then
      (p.push .flowMappingValue).node false false
    else pure (empty t2.start, { p with state := .flowMappingValue })
  else if !isKind t "mapend" then (p.push .flowMappingEmptyValue).node false false
  else pure (⟨.mappingEnd, t.start, t.stop⟩, p.pop.popMark.skipToken)

def flowMappingValue (p : Parser) (emptyValue : Bool) : Except Fault (Event × Parser) := do
  let (t, p) ← p.peekToken
  if emptyValue then return (empty t.start, { p with state := .flowMappingKey })
  if isKind t "value" then
    let (t2, p) ← p.skipToken.peekToken
    if !isKind t2 "flowentry" && !isKind t2 "mapend" then
      return (← (p.push .flowMappingKey).node false false)
    return (empty t2.start, { p with state := .flowMappingKey })
  pure (empty t.start, { p with state := .flowMappingKey })

def next (p : Parser) : Except Fault (Event × Parser) :=
  match p.state with
  | .streamStart => p.streamStart
  | .implicitDocumentStart => p.documentStart true
  | .documentStart => p.documentStart false
  | .documentContent => do
    let (e, p, isNode) ← p.documentContent
    if isNode then p.node true false else pure (e, p)
  | .documentEnd => p.documentEnd
  | .blockNode => p.node true false
  | .blockNodeOrIndentlessSequence => p.node true true
  | .flowNode => p.node false false
  | .blockSequenceFirstEntry => p.blockSequenceEntry true
  | .blockSequenceEntry => p.blockSequenceEntry false
  | .indentlessSequenceEntry => p.indentlessSequenceEntry
  | .blockMappingFirstKey => p.blockMappingKey true
  | .blockMappingKey => p.blockMappingKey false
  | .blockMappingValue => p.blockMappingValue
  | .flowSequenceFirstEntry => p.flowSequenceEntry true
  | .flowSequenceEntry => p.flowSequenceEntry false
  | .flowSequenceEntryMappingKey => p.flowPairKey
  | .flowSequenceEntryMappingValue => p.flowPairValue
  | .flowSequenceEntryMappingEnd => p.flowPairEnd
  | .flowMappingFirstKey => p.flowMappingKey true
  | .flowMappingKey => p.flowMappingKey false
  | .flowMappingValue => p.flowMappingValue false
  | .flowMappingEmptyValue => p.flowMappingValue true
  | .finished => do
    let m := p.scanner.mark
    pure (⟨.streamEnd, m, m⟩, p)

end Parser

end MudClient.Yaml
