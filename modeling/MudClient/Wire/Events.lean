/-
# Events on the wire

Events are written as `{"kind", "session"?, "payload"?}`, where the
payload is an object with one member naming its variant.  Operations read
event fields, match filters, list the kinds, run calls through the
sequencer, and run a conversation with the bus whose handlers are scripted
handlers: a handler spec is absent (a handler that returns), `"nil"` (no
handler), or `{"result", "message", "actions"}`.
-/
import MudClient.Wire.Basic
import MudClient.Event.Script

namespace MudClient.Wire

open MudClient.Json (Node)
open MudClient.Session

def payloadOf (j : Node) : Decode (Option Event.Payload) := do
  match j with
  | .object ms =>
    match ms.toList with
    | [(variant, body)] =>
      let info ← infoOf (member body "info")
      let p : Event.Payload ← match variant with
        | "session" => do pure (.session info (← text body "module"))
        | "connection" => do pure (.connection (Status.ofName (← text body "status")) info)
        | "line" => do pure (.line (← text body "text") (← flag body "prompt") (← flag body "gag"))
        | "prompt" => do pure (.prompt (← text body "from") (← text body "to"))
        | "input" => do pure (.input (← lineField body "line"))
        | "key" => do pure (.key (← text body "code"))
        | "shortcut" => do pure (.shortcut (← text body "name"))
        | "option" => do pure (.option ((← whole body "option").toNat % 256) (← flag body "enabled"))
        | "gmcp" => do pure (.gmcp (← text body "package") (← text body "json"))
        | "custom" => do
          let data ← (entries body "data").mapM fun (k, v) => do pure (k, ← dataOf depthLimit v)
          pure (.custom (← text body "type") data)
        | "reload" => do pure (.reload (← texts body "modules") (← texts body "failed"))
        | v => throw ("unknown payload " ++ quoteText v)
      pure (some p)
    | _ => throw "payload must have exactly one key"
  | .null => pure none
  | _ => throw "payload must be an object"

def eventOf (j : Node) : Decode Event.Message := do
  let session ← match get? j "session" with
    | none => pure none
    | some v => do pure (some (← intOfNode v).toNat)
  pure { kind := ⟨← text j "kind"⟩, session, payload := ← payloadOf ((get? j "payload").getD .null) }

def dataKind : Data → String
  | .null => "nil" | .bool _ => "bool" | .int k _ => k.name | .float _ => "float64"
  | .float32 _ => "float32" | .str _ => "string" | .bytes _ | .strings _ | .ints _ => "slice"
  | .list _ => "array" | .map _ => "object" | .strMap _ | .intMap _ => "map"
  | .ptr _ | .nilPtr => "ptr"

def filterOf (j : Node) : Decode (Option Event.Filter) :=
  match j with
  | .null => .ok none
  | .object ms => do pure (some (← (sortedMembers ms).mapM fun (k, v) => do pure (k, ← dataOf depthLimit v)))
  | _ => .error "filter must be an object"

def eventFieldOp (j : Node) : Decode Node := do
  let e ← eventOf (member j "event")
  let fields := (← texts j "names").map fun n => match e.field n with
    | some v => obj [("name", str n), ("found", .bool true), ("value", dataNode v), ("type", str (dataKind v))]
    | none => obj [("name", str n), ("found", .bool false)]
  pure (obj [("fields", arr fields), ("string", str e.describe), ("valid_kind", .bool e.kind.valid),
    ("has_session", .bool e.session.isSome), ("session_id", num (e.session.getD 0))])

def filterOp (j : Node) : Decode Node := do
  let f? ← filterOf ((get? j "filter").getD .null)
  let f := f?.getD []
  let mut out : List (String × Node) := [("valid", orNull f.validate), ("clone_nil", .bool f?.isNone)]
  if let some ev := get? j "event" then
    out := out ++ [("matches", .bool (f.admits (← eventOf ev)))]
  if let some w := get? j "where" then
    let f2 := f.where (← text w "name") (← dataField w "value")
    out := out ++ [("where_len", num f2.length), ("original_len", num f.length)]
  pure (obj out)

def kindsOp (j : Node) : Decode Node := do
  let all := strs (Event.Kind.all.map (·.name))
  match get? j "name" with
  | some (.string n) =>
    let (k, ok) := Event.Kind.parse n
    pure (obj [("kinds", all), ("parsed", obj [("kind", str k.name), ("ok", .bool ok)])])
  | _ => pure (obj [("kinds", all)])

/-! ### The sequencer -/

def outcomeOf (j : Node) (dflt : String) : Decode Event.Outcome := do
  match ← textOr j "result" "ok" with
  | "error" => pure (.failed (← textOr j "message" dflt))
  | "panic" => pure (.panicked (← textOr j "message" dflt))
  | _ => pure .ok

def callJson (r : Event.CallResult) : Node :=
  obj [("ok", .bool r.ok), ("skipped", .bool (match r with | .skipped _ => true | _ => false)),
    ("panicked", .bool r.panic?.isSome),
    ("error", match r.error? with | some m => str m | none => .null),
    ("panic_value", match r.panic? with | some v => str v | none => .null)]

def sequencerTotals (s : Event.SequencerStats) : List (String × Node) :=
  [("executed", num s.executed), ("succeeded", num s.succeeded), ("failed", num s.failed),
   ("panicked", num s.panicked), ("skipped", num s.skipped)]

/-- Runs described calls in sequence; each notes its index, and whether it
had a deadline. -/
def sequencerOp (j : Node) : Decode Node := do
  let outcomes ← (← items j "calls").mapM fun c => outcomeOf c "failed"
  let withHandler ← flag j "panic_handler"
  let onPanic : String → StateM (List Node × List String) Unit := fun v =>
    if withHandler then modify fun (r, p) => (r, p ++ [v]) else pure ()
  let call : Nat × Event.Outcome → Bool → StateM (List Node × List String) Event.Outcome :=
    fun (i, o) deadline => do
      modify fun (r, p) => (r ++ [num i] ++ (if deadline then [str "deadline"] else []), p)
      pure o
  let indexed := (List.range outcomes.length).zip outcomes
  let ((results, stats), (ran, seen)) :=
    (Event.runCalls (← whole j "timeout_ms").toNat (← flag j "cancelled") onPanic call indexed {}).run ([], [])
  pure (obj [("results", arr (results.map callJson)), ("ran", arr ran),
    ("panic_handler_calls", strs seen), ("stats", obj (sequencerTotals stats))])

/-! ### The bus -/

def guardOf (j : Node) : Decode Event.Guard := do
  match get? j "resumed_for" with
  | some (.string o) => pure (.resumedFor o)
  | _ => pure (.forMud (← text j "for_mud"))

def specOf (j : Node) : Decode Event.Spec := do
  let owner ← text j "owner"
  let arg ← text j "arg"
  match get? j "name" with
  | some (.string n) => match n with
    | "on_connected" => pure (.onConnected owner)
    | "on_disconnected" => pure (.onDisconnected owner)
    | "on_new_session_or_resume" => pure (.onNewSessionOrResume owner)
    | "on_gmcp" => pure (.onGmcp owner arg)
    | "on_custom" => pure (.onCustom owner arg)
    | "on_mud" => pure (.onMud owner arg ⟨← text j "kind"⟩)
    | _ => pure (.onMudConnected owner arg)
  | _ => do
    let mut spec := Event.Spec.on owner ((← texts j "kinds").map fun k => ⟨k⟩)
    for pair in ← items j "where" do
      if let .array #[.string name, v] := pair then spec := spec.require name (← dataOf depthLimit v)
    if let some f ← filterOf ((get? j "match").getD .null) then spec := spec.matching f
    for g in ← items j "when" do spec := spec.guard (← guardOf g)
    if ← flag j "connected" then spec := spec.connected
    if ← flag j "disconnected" then spec := spec.disconnected
    pure spec

mutual

def scriptOf (fuel : Nat) (label : String) (j : Option Node) : Decode (Option Event.Script) :=
  match fuel, j with
  | 0, _ => .error "handlers nested too deeply"
  | _, none => .ok (some (.mk label .ok []))
  | _, some (.string "nil") => .ok none
  | fuel + 1, some h => do
    let actions ← actionsOf fuel (← items h "actions")
    pure (some (.mk label (← outcomeOf h "failed") actions))

def actionsOf (fuel : Nat) : List Node → Decode (List Event.Action)
  | [] => .ok []
  | a :: rest => do pure ((← actionOf fuel a) :: (← actionsOf fuel rest))

def actionOf (fuel : Nat) (j : Node) : Decode Event.Action := do
  let label ← text j "label"
  match ← text j "do" with
  | "subscribe" => pure (.subscribe label ⟨← text j "kind"⟩ (← text j "owner")
      ((← filterOf ((get? j "filter").getD .null)).getD []) (← scriptOf fuel label (get? j "handler")))
  | "spec" | "combinator" => pure (.register label (← specOf j) (← scriptOf fuel label (get? j "handler")))
  | "publish" => pure (.publish (← eventOf (member j "event")) (← flag j "cancelled"))
  | "retract" => pure (.retract (← text j "owner"))
  | "unsubscribe" => pure (.unsubscribe label)
  | "active" => pure (.active label)
  | "stats" => pure .stats
  | "owners" => pure (.owners ⟨← text j "kind"⟩)
  | _ => pure (.count ⟨← text j "kind"⟩ (← text j "owner"))

end

def handleJson (label : String) (h : Event.Handle) : Node :=
  obj [("id", str label), ("kind", str h.kind.name), ("owner", str h.owner)]

def partJson (f : Event.PublishFault) (label : String) : Node :=
  let fl := f.toFailure
  match f with
  | .handler serial owner k cause =>
    withMembers (failure { fl with message := fl.message.replace (Event.subscriptionText serial) label })
      [("owner", str owner), ("kind", str k.name), ("subscription", str label), ("cause", str cause.cause)]
  | _ => failure fl

def publishErrorJson (faults : List (Event.PublishFault × String)) : Node :=
  match faults with
  | [] => .null
  | _ =>
    let parts := faults.map fun (f, l) => (partJson f l, f.toFailure.message.replace
      (match f with | .handler serial .. => Event.subscriptionText serial | _ => "") l)
    obj [("message", str ("\n".intercalate (parts.map (·.2)))), ("parts", arr (parts.map (·.1)))]

mutual

def reportJson : Nat → Event.Report → Node
  | 0, _ => .null
  | _ + 1, .subscribed label h => withMembers (handleJson label h) [("active", .bool true)]
  | _ + 1, .refused f => failure f
  | _ + 1, .registered owner hs => obj [("handles", arr (hs.map fun (l, h) => handleJson l h)), ("owner", str owner)]
  | _ + 1, .refusedSpec f => withMembers (failure f) [("handles", num 0)]
  | fuel + 1, .published journal faults =>
    obj [("calls", arr (notesJson fuel journal)), ("error", publishErrorJson faults)]
  | _ + 1, .removed n => obj [("removed", num n)]
  | _ + 1, .unsubscribed r => obj [("error", match r with | some f => failure f | none => .null)]
  | _ + 1, .activity label active h => match h with
    | some h => withMembers (handleJson label h) [("active", .bool active)]
    | none => obj [("active", .bool false), ("id", str ""), ("kind", str ""), ("owner", str "")]
  | _ + 1, .totals st calls active => obj ([("published", num st.published), ("delivered", num st.delivered),
      ("filtered", num st.filtered), ("handler_errors", num st.handlerErrors),
      ("handler_panics", num st.handlerPanics), ("retracted", num st.retracted),
      ("active", num active)] ++ sequencerTotals calls)
  | _ + 1, .ownerList os => obj [("owners", strs os)]
  | _ + 1, .counts t k o => obj [("total", num t), ("by_kind", num k), ("by_owner", num o)]

def notesJson : Nat → List Event.Note → List Node
  | _, [] => []
  | fuel, n :: rest =>
    let here := match fuel, n with
      | _, .called l => str l
      | _, .depthLimit => str "depth_limit"
      | 0, _ => .null
      | fuel + 1, .nested r => obj [("nested_publish", reportJson fuel r)]
      | fuel + 1, .failedAction r => obj [("action_result", reportJson fuel r)]
    here :: notesJson fuel rest

end

def busOp (j : Node) : Decode Node := do
  let infos ← items j "sessions"
  let sessions ← ((List.range infos.length).zip infos).mapM fun (i, s) => do
    pure { (← infoOf s) with id := i + 1 }
  let timeout ← whole j "handler_timeout_ms"
  let actions ← actionsOf depthLimit (← items j "steps")
  let stage : Event.Stage := { bus := Event.Bus.withTimeout timeout.toNat, sessions }
  let (outs, _) := (actions.mapM fun a => do
      let r ← Event.perform 64 0 a
      pure (obj [("result", reportJson depthLimit r), ("active", num (← get).bus.count)])).run stage
  pure (obj [("steps", arr outs)])

def eventOps (op : String) (j : Node) : Option (Decode Node) :=
  match op with
  | "event_field" => some (eventFieldOp j)
  | "filter" => some (filterOp j)
  | "kinds" => some (kindsOp j)
  | "sequencer" => some (sequencerOp j)
  | "bus" => some (busOp j)
  | _ => none

end MudClient.Wire
