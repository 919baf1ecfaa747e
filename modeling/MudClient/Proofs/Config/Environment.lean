/-
# Overriding settings from the environment, in any order

The host applies the `MUDSCRIPT_` variables in an order it does not fix
(`Settings.applyEnvIn` takes the order as an argument), to the configuration in
place, and stops at the first variable present whose text does not read.
Every setter reads its variable's text before it looks at the configuration,
then writes one setting of its own (`setting`).  So a run over any order is
described by two things of each setter, neither of which depends on the
configuration: the change it makes (`envChange`) and its failure
(`envFault`).  A run with no failure applies every change
(`setFrom_of_faultless`); a run with one stops at the first failure, with the
changes before it applied (`setFrom_of_fault`).  Changes of different setters
write different settings and commute (`envSetters_commute`).

The order therefore decides little (`visiting_order_decides_little`): when
every variable present reads, every order gives the same configuration and
the same outcome of the check; when one does not, every order fails; and when
exactly one does not, every order fails with its failure and leaves the
configuration with just the variables visited before it applied.  It decides
the rest: with two variables that do not read the failure is that of the
first one visited, and a failing run keeps the changes made before it
(`visiting_order_decides_failure`).
-/
import Mathlib.Data.List.Nodup
import MudClient.Config.Env

namespace MudClient.Config

/-! ## What one setter does -/

/-- The change a setter makes under `lookup`: its variable's text read and
written, or nothing when the variable is absent or its text does not read. -/
def envChange (lookup : String → Option String) (e : String × Setter) (c : Settings) : Settings :=
  match lookup (envPrefix ++ e.1) with
  | some v =>
    match e.2 v with
    | .ok f => f c
    | .error _ => c
  | none => c

/-- The failure of a setter under `lookup`: its variable is present and its
text does not read. -/
def envFault (lookup : String → Option String) (e : String × Setter) : Option Failure :=
  match lookup (envPrefix ++ e.1) with
  | some v =>
    match e.2 v with
    | .ok _ => none
    | .error msg => some (envFailure e.1 msg)
  | none => none

def envChanges (lookup : String → Option String) (order : List (String × Setter)) (c : Settings) : Settings :=
  order.foldl (fun c e => envChange lookup e c) c

@[simp] theorem envChanges_nil (lookup : String → Option String) (c : Settings) :
    envChanges lookup [] c = c := rfl

@[simp] theorem envChanges_cons (lookup : String → Option String) (e : String × Setter)
    (rest : List (String × Setter)) (c : Settings) :
    envChanges lookup (e :: rest) c = envChanges lookup rest (envChange lookup e c) := rfl

/-! ## A run over one order -/

theorem setFrom_of_faultless {lookup : String → Option String} {order : List (String × Setter)}
    (h : ∀ e ∈ order, envFault lookup e = none) (c : Settings) :
    c.setFrom lookup order = (envChanges lookup order c, none) := by
  induction order generalizing c with
  | nil => rfl
  | cons e rest ih =>
    obtain ⟨name, set⟩ := e
    have hrest := ih (fun x hx => h x (List.mem_cons_of_mem _ hx))
    have he := h _ List.mem_cons_self
    simp only [envFault] at he
    cases hl : lookup (envPrefix ++ name) with
    | none =>
      simp only [Settings.setFrom, envChanges_cons, envChange, hl]
      exact hrest c
    | some v =>
      rw [hl] at he
      cases hs : set v with
      | ok f =>
        simp only [Settings.setFrom, envChanges_cons, envChange, hl, hs]
        exact hrest (f c)
      | error msg => simp [hs] at he

/-- A run stops at the first variable that fails, with the changes of the
setters before it applied. -/
theorem setFrom_of_fault {lookup : String → Option String} {pre post : List (String × Setter)}
    {e : String × Setter} {f : Failure} (hpre : ∀ x ∈ pre, envFault lookup x = none)
    (he : envFault lookup e = some f) (c : Settings) :
    c.setFrom lookup (pre ++ e :: post) = (envChanges lookup pre c, some f) := by
  induction pre generalizing c with
  | nil =>
    obtain ⟨name, set⟩ := e
    simp only [envFault] at he
    cases hl : lookup (envPrefix ++ name) with
    | none => simp [hl] at he
    | some v =>
      rw [hl] at he
      cases hs : set v with
      | ok g => simp [hs] at he
      | error msg =>
        simp only [hs, Option.some.injEq] at he
        simp [Settings.setFrom, hl, hs, he]
  | cons x rest ih =>
    obtain ⟨name, set⟩ := x
    have hrest := ih (fun y hy => hpre y (List.mem_cons_of_mem _ hy))
    have hx := hpre _ List.mem_cons_self
    simp only [envFault] at hx
    cases hl : lookup (envPrefix ++ name) with
    | none =>
      simp only [List.cons_append, Settings.setFrom, envChanges_cons, envChange, hl]
      exact hrest c
    | some v =>
      rw [hl] at hx
      cases hs : set v with
      | ok g =>
        simp only [List.cons_append, Settings.setFrom, envChanges_cons, envChange, hl, hs]
        exact hrest (g c)
      | error msg => simp [hs] at hx

theorem setFrom_fails {lookup : String → Option String} {order : List (String × Setter)}
    {e : String × Setter} (he : e ∈ order) (hf : (envFault lookup e).isSome) (c : Settings) :
    (c.setFrom lookup order).2.isSome := by
  obtain ⟨pre, x, post, hsplit, hpre, hx⟩ : ∃ pre x post, order = pre ++ x :: post ∧
      (∀ y ∈ pre, envFault lookup y = none) ∧ (envFault lookup x).isSome := by
    have hfind : (order.find? fun y => (envFault lookup y).isSome).isSome :=
      List.find?_isSome.2 ⟨e, he, hf⟩
    obtain ⟨x, hx⟩ := Option.isSome_iff_exists.1 hfind
    obtain ⟨hxf, pre, post, hsplit, hpre⟩ := List.find?_eq_some_iff_append.1 hx
    exact ⟨pre, x, post, hsplit, fun y hy => by simpa using hpre y hy, hxf⟩
  obtain ⟨f, hf'⟩ := Option.isSome_iff_exists.1 hx
  rw [hsplit, setFrom_of_fault hpre hf' c]
  rfl

/-! ## Changes of different setters commute -/

/-- Two setters whose writes commute make changes that commute, whatever
their texts and whether they read. -/
theorem envChange_setting_comm {α β : Type} {n m : String} {r : String → Except String α}
    {w : α → Settings → Settings} {r' : String → Except String β} {w' : β → Settings → Settings}
    (hw : ∀ x y c, w x (w' y c) = w' y (w x c)) (lookup : String → Option String) (c : Settings) :
    envChange lookup (n, setting r w) (envChange lookup (m, setting r' w') c) =
      envChange lookup (m, setting r' w') (envChange lookup (n, setting r w) c) := by
  simp only [envChange, setting]
  cases lookup (envPrefix ++ n) with
  | none => rfl
  | some v =>
    cases lookup (envPrefix ++ m) with
    | none => rfl
    | some v' => cases hr : r v <;> cases hr' : r' v' <;> simp [Except.map, hr, hr', hw]

def ChangesCommute (a b : String × Setter) : Prop :=
  ∀ lookup c, envChange lookup a (envChange lookup b c) = envChange lookup b (envChange lookup a c)

/-- The listed setters write ten different settings, so any two of them
commute. -/
theorem envSetters_commute : envSetters.Pairwise ChangesCommute := by
  simp only [envSetters, List.pairwise_cons, List.mem_cons, List.not_mem_nil, or_false,
    forall_eq_or_imp, forall_eq, List.Pairwise.nil, and_true, false_implies, implies_true]
  -- forty-five pairs, each two writes of different settings
  and_intros <;> exact fun lookup c => envChange_setting_comm (by intro _ _ _; rfl) lookup c

theorem changesCommute_of_mem {a b : String × Setter} (ha : a ∈ envSetters) (hb : b ∈ envSetters) :
    ChangesCommute a b :=
  envSetters_commute.forall_of_forall_of_flip (fun _ _ _ _ => rfl)
    (envSetters_commute.imp fun h lookup c => (h lookup c).symm) ha hb

theorem envChanges_perm {σ : List (String × Setter)} (hσ : σ.Perm envSetters)
    (lookup : String → Option String) (c : Settings) :
    envChanges lookup σ c = envChanges lookup envSetters c := by
  apply hσ.foldl_eq'
  intro first hfirst second hsecond current
  exact (changesCommute_of_mem (hσ.subset hsecond) (hσ.subset hfirst) lookup current)

theorem envSetters_names_nodup : (envSetters.map Prod.fst).Nodup := by decide

/-! ## What the order decides -/

/-- What visiting the setters in the order `σ` gives, against the listed
order: the same configuration and check when no variable fails, a failure
whenever one does, and when exactly one does, its failure, with the
configuration left as the setters visited before it make it. -/
structure AgreesWithListed (σ : List (String × Setter)) (c : Settings) (lookup : String → Option String) :
    Prop where
  faultless : (∀ e ∈ envSetters, envFault lookup e = none) →
    c.applyEnvIn lookup σ = c.applyEnvIn lookup envSetters
  fails : (∃ e ∈ envSetters, (envFault lookup e).isSome) → (c.applyEnvIn lookup σ).2.isSome
  oneFault : ∀ e ∈ envSetters, ∀ f, envFault lookup e = some f →
    (∀ x ∈ envSetters, (envFault lookup x).isSome → x = e) →
    ∀ pre post, σ = pre ++ e :: post → c.applyEnvIn lookup σ = (envChanges lookup pre c, some f)

theorem applyEnvIn_of_setFrom_fault {c c' : Settings} {lookup : String → Option String}
    {order : List (String × Setter)} {f : Failure} (h : c.setFrom lookup order = (c', some f)) :
    c.applyEnvIn lookup order = (c', some f) := by
  simp [Settings.applyEnvIn, h]

/-- Whatever order the host visits the variables in, the outcome depends on
it only through the failure of the first of two or more variables that do
not read. -/
theorem visiting_order_decides_little {σ : List (String × Setter)} (hσ : σ.Perm envSetters)
    (c : Settings) (lookup : String → Option String) : AgreesWithListed σ c lookup where
  faultless h := by
    have hσf : ∀ e ∈ σ, envFault lookup e = none := fun e he => h e (hσ.subset he)
    simp only [Settings.applyEnvIn, setFrom_of_faultless hσf, setFrom_of_faultless h, envChanges_perm hσ]
  fails := by
    rintro ⟨e, he, hf⟩
    have hs := setFrom_fails (hσ.symm.subset he) hf c
    obtain ⟨f, hf'⟩ := Option.isSome_iff_exists.1 hs
    have hpair : c.setFrom lookup σ = ((c.setFrom lookup σ).1, some f) := by rw [← hf']
    rw [applyEnvIn_of_setFrom_fault hpair]
    rfl
  oneFault e he f hf honly pre post hsplit := by
    -- the setters before `e` are other setters, so none of them fails
    have hnodup : σ.Nodup := hσ.symm.nodup (List.Nodup.of_map Prod.fst envSetters_names_nodup)
    have hpre : ∀ x ∈ pre, envFault lookup x = none := by
      intro x hx
      rw [hsplit] at hnodup
      have hxe : x ≠ e := fun hxe => (List.nodup_append.1 hnodup).2.2 x hx e List.mem_cons_self hxe
      have hxσ : x ∈ σ := by rw [hsplit]; exact List.mem_append_left _ hx
      cases hfx : envFault lookup x with
      | none => rfl
      | some g => exact absurd (honly x (hσ.subset hxσ) (by simp [hfx])) hxe
    rw [hsplit]
    exact applyEnvIn_of_setFrom_fault (setFrom_of_fault hpre hf c)

theorem visiting_order_decides_little_reversed :
    envSetters.reverse.Perm envSetters ∧
      AgreesWithListed envSetters.reverse default
        (fun n => [("MUDSCRIPT_HISTORY_CAPACITY", "50"), ("MUDSCRIPT_LOG_LEVEL", "WARN")].lookup n) :=
  ⟨List.reverse_perm _, visiting_order_decides_little (List.reverse_perm _) _ _⟩

/-- Two orders of the listed setters that fail differently when two
variables do not read; and the listed order, failing at `HISTORY_CAPACITY`,
leaves the switch it read from `SCRIPTS_WATCH` before. -/
theorem visiting_order_decides_failure :
    envSetters.reverse.Perm envSetters ∧
      (default.applyEnvIn (fun n => [("MUDSCRIPT_SCRIPTS_WATCH", "x"),
          ("MUDSCRIPT_HISTORY_CAPACITY", "y")].lookup n) envSetters).2.map Failure.message =
        some "MUDSCRIPT_SCRIPTS_WATCH: strconv.ParseBool: parsing \"x\": invalid syntax" ∧
      (default.applyEnvIn (fun n => [("MUDSCRIPT_SCRIPTS_WATCH", "x"),
          ("MUDSCRIPT_HISTORY_CAPACITY", "y")].lookup n) envSetters.reverse).2.map Failure.message =
        some "MUDSCRIPT_HISTORY_CAPACITY: strconv.Atoi: parsing \"y\": invalid syntax" ∧
      (default.applyEnvIn (fun n => [("MUDSCRIPT_SCRIPTS_WATCH", "false"),
          ("MUDSCRIPT_HISTORY_CAPACITY", "many")].lookup n) envSetters).2.isSome ∧
      (default.applyEnvIn (fun n => [("MUDSCRIPT_SCRIPTS_WATCH", "false"),
          ("MUDSCRIPT_HISTORY_CAPACITY", "many")].lookup n) envSetters).1 ≠ default :=
  ⟨List.reverse_perm _, by decide +kernel, by decide +kernel, by decide +kernel, by decide +kernel⟩

end MudClient.Config
