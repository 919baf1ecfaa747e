/-
# Worlds a run of the manager reaches

Whatever a run of the manager's operations does, and whatever the modules'
code does, the world it leaves is sound (`World.Sound`): the bus and the
command tables stand for sound histories of their calls, every registered
module has a valid id, and every hook a module holds was added through that
module's own environment.  Unlike the calm worlds of
`MudClient.Proofs.Plugin.Isolation`, nothing is asked of the operations or
of the code: every step the manager takes keeps soundness.

The step lemmas (`Sound.act`, `Sound.retract`, `Sound.update`, …) cover
everything the runner and the manager change; each operation then keeps
soundness by its Hoare triple, and every run does (`World.sound_runAll`).
-/
import Mathlib
import MudClient.Proofs.Plugin.Isolation

set_option mvcgen.warning false

namespace MudClient.Plugin

open MudClient.Session Std.Do

namespace World

/-- What every world a run of the manager reaches satisfies. -/
structure Sound (w : World) : Prop where
  bus : ∃ l, Event.Follows w.bus l ∧ l.Sound
  commands : ∃ b, Command.Refines w.commands b ∧ b.Sound
  valid : ∀ id ∈ w.manager.ids, validId id = true
  /-- Every hook of a module was added through that module's environment. -/
  hooks : ∀ r ∈ w.manager.records, ∀ h ∈ r.setup ++ r.beforeReload, h.env.module = r.id

variable {w : World}

/-! ## Steps -/

theorem Sound.of_eq (hs : w.Sound) {w' : World} (hb : w'.bus = w.bus) (hc : w'.commands = w.commands)
    (hr : w'.manager.records = w.manager.records) : w'.Sound := by
  obtain ⟨⟨records, reloads, loadFailures, setupErrors, retracted⟩, bus, commands, sessions, marks⟩ := w'
  dsimp only at hb hc hr
  subst hb hc hr
  exact ⟨hs.bus, hs.commands, hs.valid, hs.hooks⟩

theorem Sound.perform_bus (hs : w.Sound) (c : Event.Call Unit) : Sound { w with bus := w.bus.perform c } := by
  obtain ⟨l, hf, hl⟩ := hs.bus
  exact { hs with bus := ⟨_, hf.perform hl c, hl.step c⟩ }

theorem Sound.perform_commands (hs : w.Sound) (op : Command.Op Unit) :
    Sound { w with commands := w.commands.perform op } := by
  obtain ⟨b, hr, hb⟩ := hs.commands
  exact { hs with commands := ⟨_, hr.perform hb op, hb.step op⟩ }

theorem Sound.retract (hs : w.Sound) (owner : String) : (w.retract owner).Sound :=
  (hs.perform_bus (.retract owner)).perform_commands (.retract owner)

theorem Sound.mark (hs : w.Sound) (id : String) : (w.mark id).Sound :=
  hs.of_eq rfl rfl rfl

/-- A change of one module's record keeps soundness when it keeps the id
and gives the record only hooks of that module's environment. -/
theorem Sound.update (hs : w.Sound) (id : String) (f : Record Code Hook Hook → Record Code Hook Hook)
    (hf : ∀ r, (f r).id = r.id)
    (hk : ∀ r ∈ w.manager.records, r.id = id → ∀ h ∈ (f r).setup ++ (f r).beforeReload, h.env.module = id) :
    Sound { w with manager := w.manager.update id f } where
  bus := hs.bus
  commands := hs.commands
  valid := by
    rw [Manager.ids_update hf]
    exact hs.valid
  hooks r' hr' := by
    obtain ⟨r, hr, rfl⟩ := List.mem_map.1 hr'
    split
    · rename_i hid
      rw [hf r, beq_iff_eq.1 hid]
      exact hk r hr (beq_iff_eq.1 hid)
    · exact hs.hooks r hr

/-- A change of one module's record that keeps its id and its hooks keeps
soundness. -/
theorem Sound.update_same_hooks (hs : w.Sound) (id : String) (f : Record Code Hook Hook → Record Code Hook Hook)
    (hf : ∀ r, (f r).id = r.id ∧ (f r).setup = r.setup ∧ (f r).beforeReload = r.beforeReload) :
    Sound { w with manager := w.manager.update id f } :=
  hs.update id f (fun r => (hf r).1) fun r hr hid h hh => by
    rw [(hf r).2.1, (hf r).2.2] at hh
    exact hid ▸ hs.hooks r hr h hh

theorem Sound.advance (hs : w.Sound) (id : String) : Sound { w with manager := w.manager.advance id } :=
  hs.update id _ (fun _ => rfl) fun _ _ _ _ hh => by simp at hh

/-- A hook added through an environment belongs to that environment's
module. -/
theorem Sound.addHook (hs : w.Sound) {env : Env} (hook : Hook) (henv : hook.env = env)
    (g : Record Code Hook Hook → Record Code Hook Hook) (hg : ∀ r, (g r).id = r.id ∧
      ∀ h ∈ (g r).setup ++ (g r).beforeReload, h ∈ r.setup ++ r.beforeReload ∨ h = hook) :
    Sound { w with manager := w.manager.update env.module fun r =>
      if r.generation == env.generation then g r else r } := by
  refine hs.update env.module _ (fun r => by split <;> simp [hg]) fun r hr hid h hh => ?_
  split at hh
  · rcases (hg r).2 h hh with hh | rfl
    · exact hid ▸ hs.hooks r hr h hh
    · exact henv ▸ rfl
  · exact hid ▸ hs.hooks r hr h hh

theorem Sound.act (hs : w.Sound) (code : Code) (env : Env) : ∀ x : Act, (w.act code env x).Sound
  | .subscribe kind filter => hs.perform_bus _
  | .unsubscribe h => hs.perform_bus _
  | .command sid name aliases => hs.perform_commands _
  | .onSetup n =>
    hs.addHook ⟨env, code, n⟩ rfl (fun r => { r with setup := r.setup ++ [⟨env, code, n⟩] })
      fun r => ⟨rfl, fun h hh => by simp only [List.mem_append, List.mem_singleton] at hh ⊢; grind⟩
  | .beforeReload n =>
    hs.addHook ⟨env, code, n⟩ rfl (fun r => { r with beforeReload := r.beforeReload ++ [⟨env, code, n⟩] })
      fun r => ⟨rfl, fun h hh => by simp only [List.mem_append, List.mem_singleton] at hh ⊢; grind⟩

theorem Sound.exec (hs : w.Sound) (code : Code) (env : Env) (p : Plan) : (w.exec code env p).2.Sound := by
  unfold World.exec
  induction p.acts generalizing w with
  | nil => exact hs
  | cons x xs ih => exact ih (hs.act code env x)

theorem Sound.register (hs : w.Sound) {id : String} {code : Code} {mg : Manager Code Hook Hook}
    (h : w.manager.register id code = .ok mg) : Sound { w with manager := mg } := by
  have hvalid : validId id = true := by
    unfold Manager.register at h
    split at h
    · cases h
    · split at h
      · cases h
      · rename_i hv
        simpa using hv
  obtain ⟨hnone, rfl⟩ := Manager.register_eq_ok h
  refine ⟨hs.bus, hs.commands, fun id' hid' => ?_, fun r' hr' => ?_⟩
  · rcases List.mem_append.1 (by simpa [Manager.ids] using hid' : id' ∈ w.manager.ids ++ [id]) with h' | h'
    · exact hs.valid id' h'
    · rw [List.mem_singleton.1 h']
      exact hvalid
  · rcases List.mem_append.1 hr' with hr' | hr'
    · exact hs.hooks r' hr'
    · rw [List.mem_singleton.1 hr']
      intro h hh
      simp at hh

theorem Sound.forget (hs : w.Sound) (id : String) :
    Sound { w with manager := { w.manager with records := w.manager.records.filter (·.id != id) } } := by
  refine ⟨hs.bus, hs.commands, fun id' hid' => ?_, fun r' hr' => hs.hooks r' (List.mem_filter.1 hr').1⟩
  obtain ⟨r, hr, rfl⟩ := List.mem_map.1 hid'
  exact hs.valid r.id (List.mem_map.2 ⟨r, (List.mem_filter.1 hr).1, rfl⟩)

/-! ## Operations -/

theorem Sound.load_run (hs : w.Sound) (code : Code) (env : Env) :
    ((w.mark env.module).exec code env (code.load env.generation)).2.Sound :=
  (hs.mark env.module).exec code env _

/-! ## Whose hooks run -/

theorem Sound.beforeReload_module (hs : w.Sound) {a : String} {r : Record Code Hook Hook}
    (hr : w.manager.record? a = some r) {h : Hook} (hh : h ∈ r.beforeReload) : h.env.module = a :=
  (hs.hooks r (Manager.mem_of_record? hr) h (List.mem_append_right _ hh)).trans (Manager.record?_id hr)

/-- A setup hook of a record that setting up a session for `only` picks
belongs to `only`, when `only` names a module. -/
theorem Sound.setup_module (hs : w.Sound) {only : String} (honly : only.isEmpty = false)
    {r : Record Code Hook Hook} (hr : r ∈ w.manager.records.filter fun r =>
      (only.isEmpty || r.id == only) && r.state == .loaded && !r.setup.isEmpty)
    {hook : Hook} (hh : hook ∈ r.setup) : hook.env.module = only := by
  obtain ⟨hr, hp⟩ := List.mem_filter.1 hr
  simp only [honly, Bool.false_or, Bool.and_eq_true, beq_iff_eq] at hp
  exact (hs.hooks r hr hook (List.mem_append_left _ hh)).trans hp.1.1

end World

theorem isEmpty_of_validId {id : String} (h : validId id = true) : id.isEmpty = false := by
  unfold validId at h
  cases hid : id.toList with
  | nil => simp [hid] at h
  | cons c rest =>
    simp only [String.isEmpty_eq_false_iff]
    intro he
    simp [he] at hid

theorem loadModule_sound (id : String) :
    ⦃fun w => ⌜w.Sound⌝⦄ loadModule World.runner id ⦃⇓ _ w => ⌜w.Sound⌝⦄ := by
  mvcgen [loadModule, takeBack, Runner.modify]
  next s h hnone => exact h.advance id
  next s h r hr e he le =>
    -- the failed load's world, with the module's subscriptions and commands taken back
    have h₁ := (((h.advance id).load_run r.module ⟨id, r.generation⟩).retract id).advance id
    exact (h₁.update_same_hooks id (fun r => { r with state := .failed, error := some e })
      fun _ => ⟨rfl, rfl, rfl⟩).of_eq (by rfl) (by rfl) (by rfl)
  next s h r hr hf =>
    have h₁ := (h.advance id).load_run r.module ⟨id, r.generation⟩
    exact h₁.update_same_hooks id (fun r => { r with state := .loaded, error := none }) fun _ => ⟨rfl, rfl, rfl⟩

theorem load_sound (id : String) :
    ⦃fun w => ⌜w.Sound⌝⦄ load World.runner id ⦃⇓ _ w => ⌜w.Sound⌝⦄ := by
  mvcgen [load, loadModule_sound]

theorem add_sound (id : String) (code : Code) :
    ⦃fun w => ⌜w.Sound⌝⦄ add World.runner id code ⦃⇓ _ w => ⌜w.Sound⌝⦄ := by
  mvcgen [add, load_sound]
  next s h mg hmg => exact h.register hmg

theorem loadAll_sound : ⦃fun w => ⌜w.Sound⌝⦄ loadAll World.runner ⦃⇓ _ w => ⌜w.Sound⌝⦄ := by
  have hkeep := @filterMapM_keeps World String Failure World.Sound
  mvcgen [loadAll, hkeep, loadModule_sound]

theorem prepareReload_sound (id : String) :
    ⦃fun w => ⌜w.Sound⌝⦄ prepareReload World.runner id ⦃⇓ _ w => ⌜w.Sound⌝⦄ := by
  mvcgen [prepareReload, takeBack, Runner.modify] invariants
  · ⇓ _ w => ⌜w.Sound⌝
  next s h r₀ hr r pref cur suff hsplit _ w hw => exact hw.exec cur.code cur.env _
  next s h r₀ hr r =>
    have h₁ := (h.retract id).advance id
    exact (h₁.update_same_hooks id (fun r => { r with state := .unloaded })
      fun _ => ⟨rfl, rfl, rfl⟩).of_eq (by rfl) (by rfl) (by rfl)

theorem resumeSessions_sound (id : String) :
    ⦃fun w => ⌜w.Sound⌝⦄ resumeSessions World.runner id ⦃⇓ _ w => ⌜w.Sound⌝⦄ := by
  mvcgen [resumeSessions] invariants
  · ⇓ _ w => ⌜w.Sound⌝

theorem completeReload_sound (id : String) :
    ⦃fun w => ⌜w.Sound⌝⦄ completeReload World.runner id ⦃⇓ _ w => ⌜w.Sound⌝⦄ := by
  mvcgen [completeReload, Runner.modify, loadModule_sound, resumeSessions_sound]
  next s h r₀ hr res hres w hw =>
    exact (hw.update_same_hooks id (fun r => { r with reloads := r.reloads + 1 })
      fun _ => ⟨rfl, rfl, rfl⟩).of_eq (by rfl) (by rfl) (by rfl)

theorem reload_sound (id : String) :
    ⦃fun w => ⌜w.Sound⌝⦄ reload World.runner id ⦃⇓ _ w => ⌜w.Sound⌝⦄ := by
  mvcgen [reload, prepareReload_sound, completeReload_sound]

theorem reloadAll_sound : ⦃fun w => ⌜w.Sound⌝⦄ reloadAll World.runner ⦃⇓ _ w => ⌜w.Sound⌝⦄ := by
  have hkeep := @mapM_keeps World String (String × Option Failure) World.Sound
  mvcgen [reloadAll, hkeep, reload_sound]

theorem unload_sound (id : String) :
    ⦃fun w => ⌜w.Sound⌝⦄ unload World.runner id ⦃⇓ _ w => ⌜w.Sound⌝⦄ := by
  mvcgen [unload, Runner.modify, prepareReload_sound]
  next s h res hres w hw => exact hw.forget id

theorem setupSession_sound (info : Info) (only : String) :
    ⦃fun w => ⌜w.Sound⌝⦄ setupSession World.runner info only ⦃⇓ _ w => ⌜w.Sound⌝⦄ := by
  have houter := @flatMapM_keeps World (Record Code Hook Hook) Failure World.Sound
  have hinner := @filterMapM_keeps World Hook Failure World.Sound
  mvcgen [setupSession, Runner.modify, houter, hinner]
  next s₀ h₀ work r hr s₁ h₁ hook hh s h f hf =>
    exact (h.exec hook.code hook.env _).of_eq (by rfl) (by rfl) (by rfl)
  next s₀ h₀ work r hr s₁ h₁ hook hh s h hf => exact h.exec hook.code hook.env _

theorem register_sound (id : String) (code : Code) :
    ⦃fun w => ⌜w.Sound⌝⦄ (Op.register id code).run ⦃⇓ _ w => ⌜w.Sound⌝⦄ := by
  mvcgen [Op.run]
  next s h mg hmg => exact h.register hmg

namespace World

theorem Sound.perform {w : World} (h : w.Sound) : ∀ op : Op, (w.perform op).Sound
  | .register id code => run_of_triple (register_sound id code) h
  | .add id code => run_of_triple (add_sound id code) h
  | .load id => run_of_triple (load_sound id) h
  | .loadAll => run_of_triple loadAll_sound h
  | .prepareReload id => run_of_triple (prepareReload_sound id) h
  | .completeReload id => run_of_triple (completeReload_sound id) h
  | .reload id => run_of_triple (reload_sound id) h
  | .reloadAll => run_of_triple reloadAll_sound h
  | .unload id => run_of_triple (unload_sound id) h
  | .setupSession info only => run_of_triple (setupSession_sound info only) h

theorem sound_start (sessions : List Info) : ({ sessions } : World).Sound where
  bus := ⟨_, Event.follows_fresh rfl, Event.Ledger.sound_empty⟩
  commands := ⟨_, Command.refines_empty, Command.Book.sound_empty⟩
  valid := fun _ h => by simp [Manager.ids] at h
  hooks := fun _ h => by simp at h

/-- Every run of operations from a fresh world leaves it sound.  By
induction on the run, one operation at a time. -/
theorem sound_runAll (sessions : List Info) (ops : List Op) : (({ sessions } : World).runAll ops).Sound := by
  suffices ∀ w : World, w.Sound → (w.runAll ops).Sound from this _ (sound_start sessions)
  induction ops with
  | nil => exact fun _ h => h
  | cons op ops ih => exact fun w h => ih _ (h.perform op)

end World

end MudClient.Plugin
