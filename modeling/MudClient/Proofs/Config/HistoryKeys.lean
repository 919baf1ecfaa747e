/-
# A checked configuration gives every MUD history keys that read

The history keys of a session come from its MUD's name: the first configured
MUD of that name gives each key from its extra setting when it has one, and
the global key stands in otherwise (`Settings.historyKeys`).  The check of a
configuration walks the same data another way: it reads the two global keys,
refuses a MUD without a name, and reads each of the two extra history keys
of every named MUD (`Settings.problems`).

The two walks cover the same key texts.  A MUD the lookup can find is a
configured one, and a configuration that passes its check has no MUD without
a name, so every extra key the lookup can return was read by the check.  Hence
when the check passes, every MUD name, configured or not and the empty name
included, resolves to two keys that read (`Config.historyKeys_read`), and
preparing a session's history, which reads exactly those two keys, never
fails (`checked_config_prepares_history`).
-/
import MudClient.Engine.Builtin

namespace MudClient.Config

/-! ## What a passed check says -/

theorem validate_eq_ok_iff {c : Settings} : c.validate = .ok () ↔ c.problems = [] := by
  unfold Settings.validate
  split <;> simp_all

/-- A list of MUDs that passes its check holds only named MUDs, and every
extra history key of each one passes the key check. -/
theorem extraKeys_checked {kp : String → String → List String} {i : Nat} {seen : List String}
    {ms : List Mud} (h : Settings.problems.muds kp i seen ms = []) {m : Mud} (hm : m ∈ ms) :
    m.name ≠ "" ∧ ∀ k v, (k = extraHistoryPrev ∨ k = extraHistoryNext) →
      m.extra.bind (·.lookup k) = some v → ∃ name, kp name v = [] := by
  induction ms generalizing i seen with
  | nil => simp at hm
  | cons m' rest ih =>
    rw [Settings.problems.muds] at h
    split at h
    · simp at h
    · rename_i hname
      simp only [List.append_eq_nil_iff] at h
      obtain ⟨⟨⟨⟨-, -⟩, hprev⟩, hnext⟩, hrest⟩ := h
      rcases List.mem_cons.1 hm with rfl | hm
      · refine ⟨fun he => hname (by simp [he]), fun k v hk hv => ?_⟩
        -- the check of each extra key is the same match on the key's value
        rcases hk with rfl | rfl
        · rw [hv] at hprev
          exact ⟨_, hprev⟩
        · rw [hv] at hnext
          exact ⟨_, hnext⟩
      · exact ih hrest hm

theorem globalKeys_read {c : Settings} (hc : c.validate = .ok ()) :
    (∃ k, Key.Code.ofSpec? c.history.prevKey = .ok k) ∧ (∃ k, Key.Code.ofSpec? c.history.nextKey = .ok k) := by
  have h := validate_eq_ok_iff.1 hc
  simp only [Settings.problems, List.append_eq_nil_iff] at h
  have hprev := h.1.1.1.1.1.2
  have hnext := h.1.1.1.1.2
  -- the key check is a match on the reading; its empty branch is the one that read
  refine ⟨?_, ?_⟩
  · split at hprev
    · next _ hk => exact ⟨_, hk⟩
    · simp at hprev
  · split at hnext
    · next _ hk => exact ⟨_, hk⟩
    · simp at hnext

theorem extraKey_read {c : Settings} (hc : c.validate = .ok ()) {m : Mud} (hm : m ∈ c.muds) {k v : String}
    (hk : k = extraHistoryPrev ∨ k = extraHistoryNext) (hv : m.extra.bind (·.lookup k) = some v) :
    ∃ code, Key.Code.ofSpec? v = .ok code := by
  have h := validate_eq_ok_iff.1 hc
  simp only [Settings.problems, List.append_eq_nil_iff] at h
  obtain ⟨_, hkp⟩ := (extraKeys_checked h.2 hm).2 k v hk hv
  split at hkp
  · next _ hcode => exact ⟨_, hcode⟩
  · simp at hkp

/-- A key the lookup of a MUD's history keys returns reads: it is the MUD's
extra setting, which the check read, or the global key. -/
theorem historyKey_read {c : Settings} (hc : c.validate = .ok ()) (mud : String) {k global : String}
    (hk : k = extraHistoryPrev ∨ k = extraHistoryNext)
    (hglobal : ∃ code, Key.Code.ofSpec? global = .ok code) :
    ∃ code, Key.Code.ofSpec? ((c.extra mud k).getD global) = .ok code := by
  unfold Settings.extra
  cases hfound : c.mud mud with
  | none => exact hglobal
  | some m =>
    have hm : m ∈ c.muds := List.mem_of_find?_eq_some hfound
    cases hv : m.extra.bind (·.lookup k) with
    | none => simpa [hv] using hglobal
    | some v => simpa [hv] using extraKey_read hc hm hk hv

/-- Every MUD name gives two history keys that read, when the configuration
passes its check. -/
theorem historyKeys_read {c : Settings} (hc : c.validate = .ok ()) (mud : String) :
    (∃ k, Key.Code.ofSpec? (c.historyKeys mud).1 = .ok k) ∧
      (∃ k, Key.Code.ofSpec? (c.historyKeys mud).2 = .ok k) :=
  ⟨historyKey_read hc mud (.inl rfl) (globalKeys_read hc).1,
   historyKey_read hc mud (.inr rfl) (globalKeys_read hc).2⟩

end MudClient.Config

namespace MudClient.Engine

open MudClient.Session

/-! ## Preparing a session's history -/

theorem prepareHistory_ok {c : Core} {info : Info} {prev next : Key.Code}
    (hp : Key.Code.ofSpec? (c.config.historyKeys info.mud).1 = .ok prev)
    (hn : Key.Code.ofSpec? (c.config.historyKeys info.mud).2 = .ok next) :
    ∃ c', c.prepareHistory info = .ok c' := by
  simp only [Config.Settings.historyKeys] at hp hn
  simp [Core.prepareHistory, Config.Settings.historyKeys, historyKey, hp, hn, bind, Except.bind, pure, Except.pure]

/-- Under a configuration that passes its check, every MUD name, configured
or not, resolves to two history keys that read, so preparing the history of
any session whose MUD has that name never fails. -/
theorem checked_config_prepares_history {cfg : Config.Settings} (hc : cfg.validate = .ok ()) (mud : String) :
    (∃ prev next, Key.Code.ofSpec? (cfg.historyKeys mud).1 = .ok prev ∧
        Key.Code.ofSpec? (cfg.historyKeys mud).2 = .ok next) ∧
      ∀ c : Core, c.config = cfg → ∀ info : Info, info.mud = mud → ∃ c', c.prepareHistory info = .ok c' := by
  obtain ⟨⟨prev, hp⟩, ⟨next, hn⟩⟩ := Config.historyKeys_read hc mud
  refine ⟨⟨prev, next, hp, hn⟩, fun c hcfg info hmud => ?_⟩
  subst hcfg hmud
  exact prepareHistory_ok hp hn

def duneConfig : Config.Settings :=
  { Config.default with
    history := { Config.default.history with prevKey := "k", nextKey := "j" },
    muds := [{ name := "dune", host := "dune.example", port := 6789,
               extra := some [("history_prev", "alt+p")] }] }

theorem dune_config_prepares_history :
    duneConfig.validate = .ok () ∧
      ((∃ prev next, Key.Code.ofSpec? (duneConfig.historyKeys "dune").1 = .ok prev ∧
          Key.Code.ofSpec? (duneConfig.historyKeys "dune").2 = .ok next) ∧
        ∀ c : Core, c.config = duneConfig → ∀ info : Info, info.mud = "dune" →
          ∃ c', c.prepareHistory info = .ok c') :=
  have hc : duneConfig.validate = .ok () := Config.validate_eq_ok_iff.2 (by decide +kernel)
  ⟨hc, checked_config_prepares_history hc "dune"⟩

end MudClient.Engine
