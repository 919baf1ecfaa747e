/-
# Lines sent to the MUD and lines run as commands

A line reaches the MUD, or a command, along two paths:

* a line the user enters is sent only when it does not read as a command
  line; the input field is then cleared and the line announced, as it was
  entered (`submitLine_run`);
* a line a script sends is sent whatever it is, and its announcement is
  queued as a scripted line (`Core.sendLine_eq`).

Every announced line comes to the dispatcher, which runs a command for
exactly the lines that read as command lines and leaves the others alone
(`Command.route_eq_ignored_iff`, `dispatchLine_of_parse?_none`).  So an
entered line goes to the MUD or to a command, never both; but a line a
script sends that reads as a command line goes to both.
`Proofs.Engine.Announced` follows the announcements through runs of the
engine.
-/
import MudClient.Engine.Loop

namespace MudClient

/-! ## The host's windows -/

namespace Session.Host

variable {h : Host} {id : SessionId}

theorem isOpen_of_window? {w : Window} (hw : h.window? id = some w) : h.isOpen id = true := by
  simp [isOpen, hw]

theorem sentLines_of_window? {w : Window} (hw : h.window? id = some w) : h.sentLines id = w.sent := by
  simp [sentLines, hw]

/-- Changing the window of an open session changes what looking it up
finds, as long as the change keeps the window's information. -/
theorem window?_update {f : Window → Window} (hf : ∀ w, (f w).info = w.info) (ho : h.isOpen id = true) :
    ∃ h', h.update id f = .ok h' ∧ h'.window? id = (h.window? id).map f := by
  refine ⟨_, if_pos ho, ?_⟩
  unfold window?
  rw [List.find?_map]
  -- the change keeps the number each window is looked up by
  have hp : ((fun w => w.info.id == id) ∘ fun w => if w.info.id == id then f w else w) =
      fun w => w.info.id == id := by
    funext w
    by_cases hw : w.info.id = id <;> simp [hw, hf]
  rw [hp]
  cases hw : h.windows.find? (·.info.id == id) with
  | none => rfl
  | some w =>
    have hid : w.info.id = id := by simpa using List.find?_some hw
    simp [hid]

theorem window?_send (ho : h.isOpen id = true) (text : String) :
    ∃ h', h.send id text = .ok h' ∧
      h'.window? id = (h.window? id).map fun w => { w with sent := w.sent ++ [text] } := by
  obtain ⟨h', hu, hw⟩ := window?_update (f := fun w => { w with sent := w.sent ++ [text] }) (fun _ => rfl) ho
  exact ⟨{ h' with traffic := h'.traffic ++ [.sent id text] }, by rw [send, hu]; rfl, hw⟩

theorem window?_clearInput (ho : h.isOpen id = true) :
    ∃ h', h.clearInput id = .ok h' ∧ h'.window? id = (h.window? id).map fun w => { w with input := {} } :=
  window?_update (fun _ => rfl) ho

end Session.Host

/-! ## The dispatcher -/

namespace Command

theorem Line.parse?_default (text pre : String) :
    Line.parse? text (if pre.isEmpty then defaultPrefix else pre) = Line.parse? text pre := by
  by_cases hp : pre.isEmpty = true
  · simp only [hp, if_true, Line.parse?]
    rfl
  · simp only [hp, Bool.false_eq_true, if_false]

/-- The dispatcher leaves a line alone exactly when it does not read as a
command line. -/
theorem route_eq_ignored_iff {α : Type} (r : Registry α) (pre : String) (id : Session.SessionId) (text : String) :
    r.route pre id text = .ignored ↔ Line.parse? text pre = none := by
  unfold Registry.route
  simp only [Line.parse?_default]
  cases Line.parse? text pre with
  | none => simp
  | some l =>
    simp only [reduceCtorEq, iff_false]
    split <;> simp

end Command

namespace Engine

open Session Command

/-! ## The two paths to the MUD -/

/-- A line a script sends goes to the MUD whatever it is, and its
announcement as a scripted line is queued. -/
theorem Core.sendLine_eq (c : Core) (id : SessionId) (text : String) (ho : c.host.isOpen id = true) :
    ∃ host, host.sentLines id = c.host.sentLines id ++ [text] ∧
      c.sendLine id text = .ok ({ c with host }.emit
        { kind := .inputLineSent, session := some id, payload := some (.input { sent := text, scripted := true }) }) := by
  obtain ⟨w, hw⟩ := Option.isSome_iff_exists.1 ho
  obtain ⟨host, hsend, hw'⟩ := Host.window?_send ho text
  rw [hw, Option.map_some] at hw'
  refine ⟨host, ?_, ?_⟩
  · rw [Host.sentLines_of_window? hw', Host.sentLines_of_window? hw]
  · simp only [Core.sendLine, hsend]
    rfl

/-- A line the user enters goes to the MUD only when it does not read as a
command line; the input field is cleared, and the line is announced with
the text and origin it was entered with. -/
theorem submitLine_run (e : Runtime) (id : SessionId) (line : InputLine) (ho : e.core.host.isOpen id = true) :
    ∃ host, host.sentLines id = e.core.host.sentLines id ++
        (if (Line.parse? line.sent e.core.leader).isNone then [line.sent] else []) ∧
      (submitLine id line).run e =
        (discard (publishNow
          { kind := .inputLineSent, session := some id,
            payload := some (.input (if e.core.host.isPassword id then { line with echoSuppressed := true }
              else line)) })).run { e with core := { e.core with host } } := by
  obtain ⟨w, hw⟩ := Option.isSome_iff_exists.1 ho
  have hsent : (if e.core.host.isPassword id then { line with echoSuppressed := true } else line).sent =
      line.sent := by
    split <;> rfl
  unfold submitLine
  simp only [core, modifyCore, StateT.run_bind, StateT.run_get, StateT.run_pure, pure_bind, hsent]
  by_cases hcmd : (Line.parse? line.sent e.core.leader).isNone = true
  · -- no command line: sent, then the input cleared
    obtain ⟨h₁, hsend, hw₁⟩ := Host.window?_send ho line.sent
    rw [hw, Option.map_some] at hw₁
    obtain ⟨h₂, hclear, hw₂⟩ := Host.window?_clearInput (Host.isOpen_of_window? hw₁)
    rw [hw₁, Option.map_some] at hw₂
    refine ⟨h₂, ?_, ?_⟩
    · rw [Host.sentLines_of_window? hw₂, Host.sentLines_of_window? hw, if_pos hcmd]
    · simp only [if_pos hcmd, hsend, StateT.run_bind, StateT.run_modify, pure_bind, hclear]
  · -- a command line: only the input cleared
    obtain ⟨h₂, hclear, hw₂⟩ := Host.window?_clearInput ho
    rw [hw, Option.map_some] at hw₂
    refine ⟨h₂, ?_, ?_⟩
    · rw [Host.sentLines_of_window? hw₂, Host.sentLines_of_window? hw, if_neg hcmd, List.append_nil]
    · simp only [if_neg hcmd, StateT.run_bind, StateT.run_modify, pure_bind, hclear]

/-- The dispatcher does nothing for an announced line that does not read as
a command line. -/
theorem dispatchLine_of_parse?_none (e : Runtime) (id : SessionId) (l : InputLine)
    (hl : Line.parse? l.sent e.core.leader = none) :
    (dispatchLine { kind := .inputLineSent, session := some id, payload := some (.input l) }).run e = (.ok, e) := by
  have hr := (route_eq_ignored_iff e.core.commands e.core.leader id l.sent).2 hl
  simp only [dispatchLine, core, StateT.run_bind, StateT.run_get, StateT.run_pure, pure_bind, hr]
  rfl

end Engine

end MudClient
