/-
# Where the program's configuration comes from

The program builds its configuration in layers (`Console.loadConfig`): the
defaults, or a configuration file read over them; then the `MUDSCRIPT_`
variables; then its own flags.  Each layer replaces the settings it names, so
a setting comes from the highest layer that names it.  The configuration is
checked not once, at the end, but three times: reading a file checks it
(`Config.loadFile`), applying the variables checks the result
(`Settings.applyEnv`), and the flags are checked last.

`configuration_layers` says exactly when the program gets a configuration and
which one: when the file, if one is named, reads, every variable present
reads, and each of the three configurations passes the check; it is then the
flags over the variables over the file.  For each setting more than one layer
can give (the log level, the log format, the script directories) it says
where the value comes from: the flag if one is given, else the variable if it
is set, else the file layer; and a file that does not name the setting leaves
it at its default (`assign_keeps_level` and its kin).

A setting that a higher layer replaces can still stop the program: a log
level that does not exist, set by the environment and replaced by a flag,
fails the second check although the configuration the program would run with
passes (`overridden_level_stops_program`).  Without a file the first
configuration is the defaults, which pass the check (`default_passes_check`).
-/
import MudClient.Console.Program
import MudClient.Proofs.Config.HistoryKeys
import MudClient.Proofs.Config.Environment
import MudClient.Proofs.Key.Canonical

namespace MudClient.Config

theorem bind_eq_ok_iff {ε α β : Type} {x : Except ε α} {f : α → Except ε β} {b : β} :
    x >>= f = .ok b ↔ ∃ a, x = .ok a ∧ f a = .ok b := by
  cases x <;> simp [bind, Except.bind]

theorem default_passes_check : default.validate = .ok () := by
  have hup := Key.ofSpec_special "up" (by decide) (by decide) (by decide +kernel)
  have hdown := Key.ofSpec_special "down" (by decide) (by decide) (by decide +kernel)
  -- rewrite the two keys rather than unfold the defaults, which would have the
  -- kernel read them through the case tables
  have hprev : default.history.prevKey = "up" := rfl
  have hnext : default.history.nextKey = "down" := rfl
  rw [validate_eq_ok_iff]
  simp only [Settings.problems, hprev, hnext, hup, hdown]
  decide

theorem validate_ne_ok_of_level {c : Settings} {e : String} (h : Log.parseLevel c.logging.level = .error e) :
    c.validate ≠ .ok () := by
  rw [Ne, validate_eq_ok_iff]
  intro hp
  simp [Settings.problems, h] at hp

theorem checked_eq_ok_iff {c c' : Settings} :
    (do c.validate; pure c : Except Failure Settings) = .ok c' ↔ c.validate = .ok () ∧ c = c' := by
  cases c.validate <;> simp [bind, Except.bind, pure, Except.pure]

theorem loadFile_eq_ok_iff {disk : Disk} {file path : String} {c : Settings} :
    loadFile disk file path = .ok c ↔ readFile disk file path = .ok c ∧ c.validate = .ok () := by
  unfold loadFile
  rw [bind_eq_ok_iff]
  constructor
  · rintro ⟨c', hr, hc⟩
    obtain ⟨hv, rfl⟩ := checked_eq_ok_iff.1 hc
    exact ⟨hr, hv⟩
  · rintro ⟨hr, hv⟩
    exact ⟨c, hr, checked_eq_ok_iff.2 ⟨hv, rfl⟩⟩

theorem applyEnv_eq_ok_iff {c c' : Settings} {lookup : String → Option String} :
    c.applyEnv lookup = .ok c' ↔ c.setFrom lookup envSetters = (c', none) ∧ c'.validate = .ok () := by
  unfold Settings.applyEnv Settings.applyEnvIn
  rcases c.setFrom lookup envSetters with ⟨c'', _ | f⟩
  · constructor
    · intro h
      cases hv : c''.validate with
      | error f => simp [hv] at h
      | ok u =>
        simp only [hv, Except.ok.injEq] at h
        subst h
        exact ⟨rfl, hv⟩
    · rintro ⟨h, hv⟩
      cases h
      simp [hv]
  · simp

/-! ## Which layer a setting comes from -/

/-- A setter leaves the setting `get` reads when no change it can make moves
that setting. -/
def Setter.Leaves {α : Type} (get : Settings → α) (s : Setter) : Prop :=
  ∀ v f, s v = .ok f → ∀ c, get (f c) = get c

theorem leaves_setting {α β : Type} {get : Settings → α} {read : String → Except String β}
    {write : β → Settings → Settings} (h : ∀ b c, get (write b c) = get c) :
    (setting read write).Leaves get := by
  intro v f hf c
  cases hr : read v <;> simp only [setting, hr, Except.map, reduceCtorEq, Except.ok.injEq] at hf
  subst hf
  exact h _ c

theorem envChanges_append (lookup : String → Option String) (l₁ l₂ : List (String × Setter)) (c : Settings) :
    envChanges lookup (l₁ ++ l₂) c = envChanges lookup l₂ (envChanges lookup l₁ c) :=
  List.foldl_append ..

theorem envChanges_of_leaves {α : Type} {get : Settings → α} {lookup : String → Option String}
    {order : List (String × Setter)} (h : ∀ e ∈ order, e.2.Leaves get) (c : Settings) :
    get (envChanges lookup order c) = get c := by
  induction order generalizing c with
  | nil => rfl
  | cons e rest ih =>
    rw [envChanges_cons, ih (fun x hx => h x (List.mem_cons_of_mem _ hx))]
    unfold envChange
    split
    · split
      · exact h e List.mem_cons_self _ _ ‹_› c
      · rfl
    · rfl

/-- When the setters around the one that writes a setting leave it, the
changes give the setting the variable's text, read, if the variable is set,
and leave it as it was if not. -/
theorem envChanges_of_writer {α : Type} (get : Settings → α) {lookup : String → Option String}
    {name : String} {read : String → α} {write : α → Settings → Settings}
    (pre post : List (String × Setter)) (hpre : ∀ e ∈ pre, e.2.Leaves get)
    (hpost : ∀ e ∈ post, e.2.Leaves get) (hw : ∀ a c, get (write a c) = a) (c : Settings) :
    get (envChanges lookup (pre ++ (name, setting (fun v => .ok (read v)) write) :: post) c) =
      ((lookup (envPrefix ++ name)).map read).getD (get c) := by
  rw [envChanges_append, envChanges_cons, envChanges_of_leaves hpost]
  unfold envChange
  cases lookup (envPrefix ++ name) with
  | none => exact envChanges_of_leaves hpre c
  | some v => exact hw _ _

theorem setFrom_eq_envChanges {c c' : Settings} {lookup : String → Option String}
    {order : List (String × Setter)} (h : c.setFrom lookup order = (c', none)) :
    c' = envChanges lookup order c := by
  have hfault : ∀ e ∈ order, envFault lookup e = none := by
    intro e he
    by_contra hne
    have hs := setFrom_fails he (Option.isSome_iff_ne_none.2 hne) c
    simp [h] at hs
  rw [setFrom_of_faultless hfault] at h
  exact (Prod.mk.inj h).1.symm

/-- After the variables have all read, the log level, the log format and the
script directories are each the variable's value when it is set and the
value below when it is not. -/
theorem setFrom_layers {c c' : Settings} {lookup : String → Option String}
    (h : c.setFrom lookup envSetters = (c', none)) :
    c'.logging.level = ((lookup "MUDSCRIPT_LOG_LEVEL").map Text.lower).getD c.logging.level ∧
      c'.logging.format = ((lookup "MUDSCRIPT_LOG_FORMAT").map Text.lower).getD c.logging.format ∧
      c'.scripts.dirs = ((lookup "MUDSCRIPT_SCRIPTS_DIRS").map splitDirs).getD c.scripts.dirs := by
  rw [setFrom_eq_envChanges h]
  -- each of the three settings has one writer among the ten setters
  have hlevel : envSetters = envSetters.take 7 ++
      ("LOG_LEVEL", setting (fun v => .ok (Text.lower v)) fun l c => { c with logging.level := l }) ::
        envSetters.drop 8 := rfl
  have hformat : envSetters = envSetters.take 8 ++
      ("LOG_FORMAT", setting (fun v => .ok (Text.lower v)) fun f c => { c with logging.format := f }) ::
        envSetters.drop 9 := rfl
  have hdirs : envSetters = [] ++
      ("SCRIPTS_DIRS", setting (fun v => .ok (splitDirs v)) fun d c => { c with scripts.dirs := d }) ::
        envSetters.drop 1 := rfl
  -- the setters around the writer each write another setting, so leave this one
  refine ⟨?_, ?_, ?_⟩
  · rw [hlevel]
    refine envChanges_of_writer (fun c => c.logging.level) _ _ ?_ ?_ (fun _ _ => rfl) c <;>
      simp only [envSetters, List.take, List.drop, List.forall_mem_cons, List.not_mem_nil,
        false_implies, implies_true, and_true] <;>
      and_intros <;> exact leaves_setting fun _ _ => rfl
  · rw [hformat]
    refine envChanges_of_writer (fun c => c.logging.format) _ _ ?_ ?_ (fun _ _ => rfl) c <;>
      simp only [envSetters, List.take, List.drop, List.forall_mem_cons, List.not_mem_nil,
        false_implies, implies_true, and_true] <;>
      and_intros <;> exact leaves_setting fun _ _ => rfl
  · rw [hdirs]
    refine envChanges_of_writer (fun c => c.scripts.dirs) _ _ (fun _ h => absurd h List.not_mem_nil) ?_
      (fun _ _ => rfl) c
    simp only [envSetters, List.drop, List.forall_mem_cons, List.not_mem_nil,
      false_implies, implies_true, and_true]
    and_intros <;> exact leaves_setting fun _ _ => rfl

/-! ## What a file leaves at its default -/

open MudClient.Schema

def Names (as : List (String × Setting)) (part key : String) : Prop :=
  ∃ p ∈ as, p.1 = part ∧ ∃ q ∈ p.2.assigns, q.1 = key

theorem foldl_keeps {α β γ : Type} (get : α → γ) {f : α → β → α} {l : List β}
    (h : ∀ a, ∀ b ∈ l, get (f a b) = get a) (a : α) : get (l.foldl f a) = get a := by
  induction l generalizing a with
  | nil => rfl
  | cons b rest ih =>
    rw [List.foldl_cons, ih (fun a' b' hb => h a' b' (List.mem_cons_of_mem _ hb)), h a b List.mem_cons_self]

theorem Logging.assign_level {l : Logging} {as : List (String × Setting)} (h : ∀ q ∈ as, q.1 ≠ "level") :
    (l.assign as).level = l.level := by
  refine foldl_keeps Logging.level (fun l q hq => ?_) l
  obtain ⟨k, s⟩ := q
  have hk : k ≠ "level" := h _ hq
  simp only
  split
  · exact absurd rfl hk
  all_goals rfl

theorem Logging.assign_format {l : Logging} {as : List (String × Setting)} (h : ∀ q ∈ as, q.1 ≠ "format") :
    (l.assign as).format = l.format := by
  refine foldl_keeps Logging.format (fun l q hq => ?_) l
  obtain ⟨k, s⟩ := q
  have hk : k ≠ "format" := h _ hq
  simp only
  split
  · rfl
  · exact absurd rfl hk
  · rfl

theorem Scripts.assign_dirs {c : Scripts} {as : List (String × Setting)} (h : ∀ q ∈ as, q.1 ≠ "dirs") :
    (c.assign as).dirs = c.dirs := by
  refine foldl_keeps Scripts.dirs (fun c q hq => ?_) c
  obtain ⟨k, s⟩ := q
  have hk : k ≠ "dirs" := h _ hq
  simp only
  split
  · exact absurd rfl hk
  all_goals rfl

theorem assign_keeps_level {c : Settings} {as : List (String × Setting)} (h : ¬Names as "logging" "level") :
    (c.assign as).logging.level = c.logging.level := by
  refine foldl_keeps (fun c => c.logging.level) (fun c p hp => ?_) c
  obtain ⟨k, s⟩ := p
  simp only
  -- only a part named `logging` reaches the log settings
  split
  all_goals try rfl
  exact Logging.assign_level fun q hq hq' => h ⟨_, hp, rfl, q, hq, hq'⟩

theorem assign_keeps_format {c : Settings} {as : List (String × Setting)} (h : ¬Names as "logging" "format") :
    (c.assign as).logging.format = c.logging.format := by
  refine foldl_keeps (fun c => c.logging.format) (fun c p hp => ?_) c
  obtain ⟨k, s⟩ := p
  simp only
  split
  all_goals try rfl
  exact Logging.assign_format fun q hq hq' => h ⟨_, hp, rfl, q, hq, hq'⟩

theorem assign_keeps_dirs {c : Settings} {as : List (String × Setting)} (h : ¬Names as "scripts" "dirs") :
    (c.assign as).scripts.dirs = c.scripts.dirs := by
  refine foldl_keeps (fun c => c.scripts.dirs) (fun c p hp => ?_) c
  obtain ⟨k, s⟩ := p
  simp only
  split
  all_goals try rfl
  exact Scripts.assign_dirs fun q hq hq' => h ⟨_, hp, rfl, q, hq, hq'⟩

theorem readFile_eq_ok {disk : Disk} {file path : String} {c : Settings} (h : readFile disk file path = .ok c) :
    ∃ fmt data as, formatFor path = .ok fmt ∧ disk.read file = .ok data ∧ readDocument fmt data = .ok as ∧
      c = default.assign as := by
  unfold readFile at h
  split at h
  · cases h
  · rename_i fmt hfmt
    split at h
    · cases h
    · cases h
    · rename_i data hdata
      unfold readFrom at h
      split at h
      · cases h
      · rename_i as has
        cases h
        exact ⟨fmt, data, as, hfmt, hdata, has, rfl⟩

end MudClient.Config

namespace MudClient.Console

/-- The configuration below the environment, before any check: the
defaults, or the named file read over them. -/
def fileLayer (w : World) (g : Flags) : Except Failure Config.Settings :=
  if g.configPath.isEmpty then .ok Config.default
  else Config.readFile w.disk (w.file g.configPath) g.configPath

/-- The first layer the program takes is the file layer, when it passes the
check. -/
theorem firstLayer_eq_ok_iff {w : World} {g : Flags} {c : Config.Settings} :
    (if g.configPath.isEmpty then pure Config.default
      else Config.loadFile w.disk (w.file g.configPath) g.configPath : Except Failure Config.Settings) = .ok c ↔
      fileLayer w g = .ok c ∧ c.validate = .ok () := by
  unfold fileLayer
  split
  · constructor
    · intro h
      cases h
      exact ⟨rfl, Config.default_passes_check⟩
    · rintro ⟨h, -⟩
      cases h
      rfl
  · exact Config.loadFile_eq_ok_iff

/-- The file layer is the defaults with the file's assignments laid over
them; without a file there are none. -/
theorem fileLayer_eq_assign {w : World} {g : Flags} {file : Config.Settings} (h : fileLayer w g = .ok file) :
    ∃ as, file = Config.default.assign as ∧ (g.configPath.isEmpty = true → as = []) := by
  unfold fileLayer at h
  split at h
  · cases h
    exact ⟨[], rfl, fun _ => rfl⟩
  · rename_i hpath
    obtain ⟨-, -, as, -, -, -, rfl⟩ := Config.readFile_eq_ok h
    exact ⟨as, rfl, fun h' => absurd h' hpath⟩

theorem loadConfig_eq_ok_iff {w : World} {g : Flags} {cfg : Config.Settings} :
    loadConfig w g = .ok cfg ↔
      ∃ file env, fileLayer w g = .ok file ∧ file.setFrom w.lookup Config.envSetters = (env, none) ∧
        file.validate = .ok () ∧ env.validate = .ok () ∧ (g.overlay env).validate = .ok () ∧
        cfg = g.overlay env := by
  simp only [loadConfig, Config.bind_eq_ok_iff, firstLayer_eq_ok_iff, Config.applyEnv_eq_ok_iff]
  simp only [pure, Except.pure, Except.ok.injEq]
  constructor
  · rintro ⟨file, ⟨hf, hfv⟩, env, ⟨hs, hev⟩, ⟨⟩, hv, rfl⟩
    exact ⟨file, env, hf, hs, hfv, hev, hv, rfl⟩
  · rintro ⟨file, env, hf, hs, hfv, hev, hv, rfl⟩
    exact ⟨file, ⟨hf, hfv⟩, env, ⟨hs, hev⟩, (), hv, rfl⟩

/-- The program gets a configuration exactly when the file, if one is named,
reads, every variable present reads, and the file layer, the variables over
it and the flags over those each pass the check; the configuration is then
the flags over the variables over the file.  The log level, the log format
and the script directories come from the flag if it is given, else from the
variable if it is set, else from the file layer, which is the defaults with
the file's assignments over them. -/
theorem configuration_layers {w : World} {g : Flags} {cfg : Config.Settings} :
    loadConfig w g = .ok cfg ↔
      ∃ file env as, fileLayer w g = .ok file ∧ file.setFrom w.lookup Config.envSetters = (env, none) ∧
        file.validate = .ok () ∧ env.validate = .ok () ∧ (g.overlay env).validate = .ok () ∧
        cfg = g.overlay env ∧
        file = Config.default.assign as ∧ (g.configPath.isEmpty = true → as = []) ∧
        cfg.logging.level = (if g.logLevel.isEmpty then
          ((w.lookup "MUDSCRIPT_LOG_LEVEL").map Text.lower).getD file.logging.level else g.logLevel) ∧
        cfg.logging.format = (if g.logFormat.isEmpty then
          ((w.lookup "MUDSCRIPT_LOG_FORMAT").map Text.lower).getD file.logging.format else g.logFormat) ∧
        cfg.scripts.dirs = (if g.scriptDirs.isEmpty then
          ((w.lookup "MUDSCRIPT_SCRIPTS_DIRS").map Config.splitDirs).getD file.scripts.dirs
          else g.scriptDirs) := by
  rw [loadConfig_eq_ok_iff]
  constructor
  · rintro ⟨file, env, hf, hs, hfv, hev, hv, rfl⟩
    obtain ⟨as, hfile, has⟩ := fileLayer_eq_assign hf
    obtain ⟨hlevel, hformat, hdirs⟩ := Config.setFrom_layers hs
    refine ⟨file, env, as, hf, hs, hfv, hev, hv, rfl, hfile, has, ?_, ?_, ?_⟩
    · simp only [Flags.overlay, hlevel]
    · simp only [Flags.overlay, hformat]
    · simp only [Flags.overlay, hdirs]
  · rintro ⟨file, env, -, hf, hs, hfv, hev, hv, rfl, -⟩
    exact ⟨file, env, hf, hs, hfv, hev, hv, rfl⟩

/-- The variables set the log level `bogus` and the flag replaces it with
`info`: every layer reads and the configuration the layers give is the
defaults, which pass the check, but the program stops. -/
theorem overridden_level_stops_program :
    fileLayer ⟨[], [("MUDSCRIPT_LOG_LEVEL", "bogus")], "", {}, "/"⟩ { logLevel := "info" } =
        .ok Config.default ∧
      (Config.default.setFrom (World.lookup ⟨[], [("MUDSCRIPT_LOG_LEVEL", "bogus")], "", {}, "/"⟩)
        Config.envSetters).2.isNone ∧
      ({ logLevel := "info" } : Flags).overlay
        (Config.default.setFrom (World.lookup ⟨[], [("MUDSCRIPT_LOG_LEVEL", "bogus")], "", {}, "/"⟩)
          Config.envSetters).1 = Config.default ∧
      Config.default.validate = .ok () ∧
      ∃ f, loadConfig ⟨[], [("MUDSCRIPT_LOG_LEVEL", "bogus")], "", {}, "/"⟩ { logLevel := "info" } = .error f := by
  have henv : (Config.default.setFrom (World.lookup ⟨[], [("MUDSCRIPT_LOG_LEVEL", "bogus")], "", {}, "/"⟩)
      Config.envSetters).1 = { Config.default with logging.level := "bogus" } := by decide +kernel
  refine ⟨rfl, by decide +kernel, by rw [henv]; rfl, Config.default_passes_check, ?_⟩
  -- the variables' layer is the defaults with the level `bogus`, which fails its check
  have hno : ∀ cfg, loadConfig ⟨[], [("MUDSCRIPT_LOG_LEVEL", "bogus")], "", {}, "/"⟩ { logLevel := "info" } ≠
      .ok cfg := by
    intro cfg h
    obtain ⟨file, env, hf, hs, -, hev, -, -⟩ := loadConfig_eq_ok_iff.1 h
    have hfile : fileLayer ⟨[], [("MUDSCRIPT_LOG_LEVEL", "bogus")], "", {}, "/"⟩ { logLevel := "info" } =
        .ok Config.default := rfl
    rw [hfile, Except.ok.injEq] at hf
    subst hf
    rw [hs] at henv
    subst henv
    have hlevel : (Log.parseLevel "bogus").toBool = false := by decide +kernel
    cases hp : Log.parseLevel "bogus" with
    | ok l => simp [hp, Except.toBool] at hlevel
    | error e => exact Config.validate_ne_ok_of_level hp hev
  revert hno
  generalize loadConfig ⟨[], [("MUDSCRIPT_LOG_LEVEL", "bogus")], "", {}, "/"⟩ { logLevel := "info" } = r
  intro hno
  cases r with
  | error f => exact ⟨f, rfl⟩
  | ok cfg => exact absurd rfl (hno cfg)

end MudClient.Console
