/-
# Debouncing loses and repeats no change

A debouncer folds the changes of each module into one pending group and
reports the group when its timer expires, when it is flushed, or never, when
it is stopped first.  This module follows every run of its operations --
changes added, timers expiring (also timers of groups already reported, or
of groups that were replaced since), flushes, the clock moving on, and
stopping -- and shows that the changes it accepts, those added before it
stops, are cut into groups so that:

* every accepted change is in exactly one group, and a module's groups, in
  the order they were reported and then the one still pending, hold its
  changes in the order they came;
* what is reported is the groups' summaries, each once: the module, the
  paths in order of first change, each once, and every operation seen;
* a group that is not reported is pending while the debouncer runs, and is
  dropped when it stops; a flush reports every pending group.

`Tracks` is the invariant that ties the debouncer to the groups; each
operation keeps it (`Tracks.add`, `Tracks.fire`, `Tracks.stop`, and those
built from firing), so every run does (`Tracks.run`).
-/
import MudClient.Watch.Debounce

namespace MudClient.Watch

/-! ## Changes and their groups -/

/-- A change of one path, as the debouncer is given it. -/
structure Touch where
  module : String
  path : String
  op : Op
deriving DecidableEq, Repr

/-- Changes of one module folded into one report. -/
structure Group where
  module : String
  touches : List Touch

/-- How a group is reported: its module, its paths in order of first
change, each once, and the union of its operations. -/
def Group.change (g : Group) : Change :=
  { module := g.module, paths := (g.touches.map (·.path)).eraseDups,
    op := g.touches.foldl (fun o t => o.union t.op) Op.empty }

@[simp] theorem Group.module_change (g : Group) : g.change.module = g.module := rfl

@[simp] theorem Op.empty_union (o : Op) : Op.empty.union o = o := by
  cases o
  simp [Op.union, Op.empty]

theorem Group.change_snoc (m : String) (ts : List Touch) (t : Touch) :
    (⟨m, ts ++ [t]⟩ : Group).change =
      let c := (⟨m, ts⟩ : Group).change
      { c with op := c.op.union t.op,
               paths := if c.paths.contains t.path then c.paths else c.paths ++ [t.path] } := by
  simp only [Group.change, List.map_append, List.map_cons, List.map_nil, List.foldl_append,
    List.foldl_cons, List.foldl_nil, List.eraseDups_append]
  by_cases h : t.path ∈ ts.map (·.path)
  · have h' : ∃ a, a ∈ ts ∧ a.path = t.path := List.mem_map.1 h
    simp [h, h', List.removeAll]
  · have h' : ¬ ∃ a, a ∈ ts ∧ a.path = t.path := fun h' => h (List.mem_map.2 h')
    simp [h, h', List.removeAll, List.eraseDups_cons]

theorem Group.change_single (m : String) (t : Touch) :
    (⟨m, [t]⟩ : Group).change = ⟨m, [t.path], t.op⟩ := by
  simp [Group.change, List.eraseDups_cons]

/-! ## Runs -/

/-- An operation on a debouncer. -/
inductive Call where
  | add (module path : String) (op : Op)
  /-- A timer of the module expires: it may be the timer of a group that
  was reported since, or of one that was replaced by a newer group. -/
  | expire (module : String)
  | flush
  | stop
  /-- The clock moves on to a time, and every timer due by then expires. -/
  | advance (time : Nat)

namespace Debouncer

def step (d : Debouncer) : Call → Debouncer
  | .add m p o => d.add m p o
  | .expire m => d.fire m
  | .flush => d.flush
  | .stop => d.stop
  | .advance t => d.advance t

def run (d : Debouncer) (calls : List Call) : Debouncer := calls.foldl step d

@[simp] theorem run_nil (d : Debouncer) : d.run [] = d := rfl

theorem run_cons (d : Debouncer) (s : Call) (rest : List Call) :
    d.run (s :: rest) = (d.step s).run rest := rfl

end Debouncer

/-- The changes of a run that reach a running debouncer: those added before
it is stopped. -/
def admitted : List Call → List Touch
  | [] => []
  | .stop :: _ => []
  | .add m p o :: rest => ⟨m, p, o⟩ :: admitted rest
  | _ :: rest => admitted rest

/-! ## The invariant -/

/-- The debouncer stands for the groups `reported` and `held`, cut from the
changes `adds` it accepted: it reported the first, each once, in order;
while it runs it holds the second as its pending groups, one per module;
once stopped it holds nothing; and every module's groups, reported then
held, are its accepted changes in order. -/
structure Tracks (d : Debouncer) (adds : List Touch) (reported held : List Group) : Prop where
  fired : d.fired = reported.map Group.change
  nonempty : ∀ g ∈ reported ++ held, g.touches ≠ []
  partition : ∀ m, adds.filter (·.module == m) =
    ((reported ++ held).filter (·.module == m)).flatMap (·.touches)
  held_nodup : (held.map (·.module)).Nodup
  stopped_pending : d.stopped = true → d.pending = []
  running_pending : d.stopped = false → d.pending.map (·.change) = held.map Group.change

section Lemmas

variable {d : Debouncer} {adds : List Touch} {reported held : List Group}

theorem find?_pending_change (h : d.pending.map (·.change) = held.map Group.change) (m : String) :
    (d.pending.find? (·.change.module == m)).map (·.change) =
      (held.find? (·.module == m)).map Group.change := by
  have hp := congrArg (List.find? (·.module == m)) h
  simp only [List.find?_map] at hp
  exact hp

theorem filter_module_of_mem (hnd : (held.map (·.module)).Nodup) {g : Group} (hg : g ∈ held) :
    held.filter (·.module == g.module) = [g] := by
  induction held with
  | nil => cases hg
  | cons x xs ih =>
    rw [List.map_cons, List.nodup_cons] at hnd
    rcases List.mem_cons.1 hg with rfl | hg
    · have : xs.filter (·.module == g.module) = [] :=
        List.filter_eq_nil_iff.2 fun y hy hym =>
          hnd.1 (List.mem_map.2 ⟨y, hy, beq_iff_eq.1 hym⟩)
      simp [this]
    · have hx : x.module ≠ g.module := fun hx => hnd.1 (hx ▸ List.mem_map_of_mem hg)
      simp [hx, ih hnd.2 hg]

theorem filter_module_of_find?_none (h : held.find? (·.module == m) = none) :
    held.filter (·.module == m) = [] :=
  List.filter_eq_nil_iff.2 fun g hg => by simpa using List.find?_eq_none.1 h g hg

/-- Taking a module's only held group and reporting it after the reported
ones leaves every module's groups, reported then held, as they were. -/
theorem filter_module_move (hnd : (held.map (·.module)).Nodup) {g : Group} (hg : g ∈ held)
    (m : String) :
    ((reported ++ [g]) ++ held.filter (·.module != g.module)).filter (·.module == m) =
      (reported ++ held).filter (·.module == m) := by
  simp only [List.filter_append, List.append_assoc, List.filter_filter]
  congr 1
  by_cases hm : g.module = m
  · subst hm
    have hnone : held.filter (fun x => x.module == g.module && x.module != g.module) = [] :=
      List.filter_eq_nil_iff.2 fun x _ => by simp
    rw [hnone, filter_module_of_mem hnd hg]
    simp
  · have hsame : held.filter (fun x => x.module == m && x.module != g.module) =
        held.filter (·.module == m) :=
      List.filter_congr fun x _ => by
        by_cases hx : x.module = m
        · simp [hx, Ne.symm hm]
        · simp [hx]
    rw [hsame]
    simp [hm]

/-- The changes a module's groups hold grow by one change of that module,
and no other module's groups change: the accepted changes grow by it. -/
theorem partition_snoc {groups groups' : List Group} {t : Touch}
    (hpart : ∀ m, adds.filter (·.module == m) = (groups.filter (·.module == m)).flatMap (·.touches))
    (hown : (groups'.filter (·.module == t.module)).flatMap (·.touches) =
      (groups.filter (·.module == t.module)).flatMap (·.touches) ++ [t])
    (hother : ∀ m, m ≠ t.module → groups'.filter (·.module == m) = groups.filter (·.module == m))
    (m : String) :
    (adds ++ [t]).filter (·.module == m) = (groups'.filter (·.module == m)).flatMap (·.touches) := by
  rw [List.filter_append, hpart m]
  by_cases hm : m = t.module
  · subst hm
    rw [hown]
    simp
  · rw [hother m hm]
    simp [Ne.symm hm]

end Lemmas

/-! ## Each operation keeps the invariant -/

namespace Debouncer

variable {d : Debouncer}

theorem stopped_add (m p : String) (o : Op) : (d.add m p o).stopped = d.stopped := by
  unfold add
  split
  · rfl
  · split <;> rfl

theorem stopped_fire (m : String) : (d.fire m).stopped = d.stopped := by
  unfold fire
  split
  · split <;> rfl
  · rfl

theorem stopped_foldl_fire (ids : List String) : (ids.foldl fire d).stopped = d.stopped := by
  induction ids generalizing d with
  | nil => rfl
  | cons m ms ih => rw [List.foldl_cons, ih, stopped_fire]

theorem stopped_reportDue (fuel time : Nat) : (d.reportDue fuel time).stopped = d.stopped := by
  induction fuel generalizing d with
  | zero => rfl
  | succ fuel ih =>
    unfold reportDue
    split
    · split
      · rw [ih, stopped_fire]
      · rfl
    · rfl

theorem fire_of_stopped (hs : d.stopped = true) (m : String) : d.fire m = d := by
  unfold fire
  split
  · simp [hs]
  · rfl

/-- While the debouncer runs, a timer's expiry takes the module's group off
the pending ones, whether or not it had one. -/
theorem pending_fire (hs : d.stopped = false) (m : String) :
    (d.fire m).pending = d.pending.filter (·.change.module != m) := by
  unfold fire
  split
  · simp [hs]
  · rename_i hf
    refine (List.filter_eq_self.2 fun q hq => ?_).symm
    simpa using List.find?_eq_none.1 hf q hq

theorem pending_foldl_fire (hs : d.stopped = false) (ids : List String) :
    (ids.foldl fire d).pending = d.pending.filter (·.change.module ∉ ids) := by
  induction ids generalizing d with
  | nil => exact (List.filter_eq_self.2 fun _ _ => by simp).symm
  | cons m ms ih =>
    rw [List.foldl_cons, ih ((stopped_fire m).trans hs), pending_fire hs, List.filter_filter]
    apply List.filter_congr
    intro q _
    by_cases hq : q.change.module = m <;> simp [hq]

theorem pending_flush (hs : d.stopped = false) : d.flush.pending = [] := by
  unfold flush
  rw [pending_foldl_fire hs, List.filter_eq_nil_iff]
  intro q hq
  simp only [decide_eq_true_eq]
  intro hn
  exact hn (List.mem_mergeSort.2 (List.mem_map_of_mem hq))

end Debouncer

namespace Tracks

variable {d : Debouncer} {adds : List Touch} {reported held : List Group}

theorem setNow (h : Tracks d adds reported held) (n : Nat) :
    Tracks { d with now := n } adds reported held :=
  ⟨h.fired, h.nonempty, h.partition, h.held_nodup, h.stopped_pending, h.running_pending⟩

theorem stop (h : Tracks d adds reported held) : Tracks d.stop adds reported held where
  fired := h.fired
  nonempty := h.nonempty
  partition := h.partition
  held_nodup := h.held_nodup
  stopped_pending := fun _ => rfl
  running_pending := fun hs => by simp [Debouncer.stop] at hs

/-- A change reaching a running debouncer joins its module's pending group,
or starts one. -/
theorem add (h : Tracks d adds reported held) (hs : d.stopped = false) (m p : String) (o : Op) :
    ∃ held', Tracks (d.add m p o) (adds ++ [⟨m, p, o⟩]) reported held' := by
  have hpend := h.running_pending hs
  have hfind := find?_pending_change hpend m
  have hstopped : (d.add m p o).stopped = false := (Debouncer.stopped_add m p o).trans hs
  cases hf : d.pending.find? (·.change.module == m) with
  | some q =>
    rw [hf, Option.map_some] at hfind
    obtain ⟨g, hgf, hgc⟩ := Option.map_eq_some_iff.1 hfind.symm
    have hg : g ∈ held := List.mem_of_find?_eq_some hgf
    have hgm : g.module = m := by simpa using List.find?_some hgf
    subst hgm
    have honly := filter_module_of_mem h.held_nodup hg
    -- the module's one held group takes the change, the others stay
    let grow : Group → Group := fun x =>
      if x.module == g.module then ⟨g.module, x.touches ++ [⟨g.module, p, o⟩]⟩ else x
    have hgrow_module : ∀ x, (grow x).module = x.module := by
      intro x
      by_cases hx : x.module = g.module <;> simp [grow, hx]
    have hgrow_filter : ∀ m', (held.map grow).filter (·.module == m') =
        (held.filter (·.module == m')).map grow := by
      intro m'
      rw [List.filter_map]
      congr 2
      funext x
      simp [hgrow_module]
    refine ⟨held.map grow, ?_⟩
    constructor
    · simp [Debouncer.add, hs, hf, h.fired]
    · intro x hx
      rcases List.mem_append.1 hx with hx | hx
      · exact h.nonempty x (List.mem_append_left _ hx)
      · obtain ⟨y, hy, rfl⟩ := List.mem_map.1 hx
        by_cases hym : y.module = g.module
        · simp [grow, hym]
        · simpa [grow, hym] using h.nonempty y (List.mem_append_right _ hy)
    · refine partition_snoc h.partition ?_ ?_
      · rw [List.filter_append, List.filter_append, hgrow_filter, honly]
        simp [grow]
      · intro m' hm'
        rw [List.filter_append, List.filter_append, hgrow_filter]
        congr 1
        have hid : ∀ x ∈ held.filter (·.module == m'), grow x = x := by
          intro x hx
          have hxm : x.module = m' := by simpa using (List.mem_filter.1 hx).2
          simp [grow, hxm, hm']
        rw [List.map_congr_left hid]
        simp
    · rw [List.map_map]
      have : (·.module) ∘ grow = (·.module) := funext hgrow_module
      rw [this]
      exact h.held_nodup
    · intro hs'
      rw [hstopped] at hs'
      cases hs'
    · intro _
      -- the module's pending group takes the change as its held group does
      have hpending : (d.add g.module p o).pending.map (·.change) =
          (d.pending.map (·.change)).map fun c => if c.module == g.module then
            { q.change with op := q.change.op.union o,
                            paths := if q.change.paths.contains p then q.change.paths
                                     else q.change.paths ++ [p] }
            else c := by
        simp only [Debouncer.add, hs, hf, Bool.false_eq_true, if_false, List.map_map]
        refine List.map_congr_left fun q' _ => ?_
        by_cases hq : q'.change.module = g.module <;> simp [hq]
      rw [hpending, hpend, List.map_map, List.map_map]
      refine List.map_congr_left fun x hx => ?_
      by_cases hxm : x.module = g.module
      · have hxg : x = g := by
          have : x ∈ held.filter (·.module == g.module) := List.mem_filter.2 ⟨hx, by simpa using hxm⟩
          rw [honly] at this
          exact List.mem_singleton.1 this
        subst hxg
        obtain ⟨xm, xt⟩ := x
        have hqm : q.change.module = xm := by rw [← hgc]; rfl
        simp only [Function.comp, grow, beq_self_eq_true, if_true, Group.change_snoc, hgc, hqm]
      · simp [grow, hxm]
  | none =>
    rw [hf, Option.map_none] at hfind
    have hnone : held.find? (·.module == m) = none := Option.map_eq_none_iff.1 hfind.symm
    have hnotin : m ∉ held.map (·.module) := by
      intro hm
      obtain ⟨x, hx, rfl⟩ := List.mem_map.1 hm
      simpa using List.find?_eq_none.1 hnone x hx
    refine ⟨held ++ [⟨m, [⟨m, p, o⟩]⟩], ?_⟩
    constructor
    · simp [Debouncer.add, hs, hf, h.fired]
    · intro x hx
      simp only [List.mem_append, List.mem_singleton] at hx
      rcases hx with hx | hx | rfl
      · exact h.nonempty x (List.mem_append_left _ hx)
      · exact h.nonempty x (List.mem_append_right _ hx)
      · simp
    · refine partition_snoc h.partition ?_ ?_
      · simp [List.filter_append]
      · intro m' hm'
        simp [List.filter_append, Ne.symm hm']
    · rw [List.map_append, List.nodup_append]
      refine ⟨h.held_nodup, by simp, fun a ha b hb hab => hnotin ?_⟩
      have hbm : b = m := by simpa using hb
      rw [← hbm, ← hab]
      exact ha
    · intro hs'
      rw [hstopped] at hs'
      cases hs'
    · intro _
      simp [Debouncer.add, hs, hf, hpend, Group.change_single]

/-- A timer's expiry reports the module's pending group and takes it off,
when the debouncer runs and the module has one; otherwise it does
nothing. -/
theorem fire (h : Tracks d adds reported held) (m : String) :
    ∃ reported' held', Tracks (d.fire m) adds reported' held' := by
  cases hs : d.stopped
  case true =>
    rw [Debouncer.fire_of_stopped hs m]
    exact ⟨reported, held, h⟩
  case false =>
    have hpend := h.running_pending hs
    cases hf : d.pending.find? (·.change.module == m) with
    | none =>
      have : d.fire m = d := by simp [Debouncer.fire, hf]
      rw [this]
      exact ⟨reported, held, h⟩
    | some p =>
      have hfind := find?_pending_change hpend m
      rw [hf, Option.map_some] at hfind
      obtain ⟨g, hgf, hgc⟩ := Option.map_eq_some_iff.1 hfind.symm
      have hg : g ∈ held := List.mem_of_find?_eq_some hgf
      have hgm : g.module = m := by simpa using List.find?_some hgf
      subst hgm
      have hfire : d.fire g.module =
          { d with pending := d.pending.filter (·.change.module != g.module),
                   fired := d.fired ++ [p.change] } := by
        simp [Debouncer.fire, hf, hs]
      refine ⟨reported ++ [g], held.filter (·.module != g.module), ?_⟩
      rw [hfire]
      constructor
      · simp [h.fired, hgc]
      · intro x hx
        apply h.nonempty x
        simp only [List.mem_append, List.mem_singleton, List.mem_filter] at hx ⊢
        rcases hx with (hx | rfl) | ⟨hx, -⟩
        · exact .inl hx
        · exact .inr hg
        · exact .inr hx
      · intro m
        rw [h.partition m, filter_module_move h.held_nodup hg]
      · exact h.held_nodup.sublist ((List.filter_sublist).map _)
      · intro hs'
        simp [hs] at hs'
      · intro _
        have := congrArg (List.filter (·.module != g.module)) hpend
        simp only [List.filter_map] at this
        exact this

theorem foldl_fire (h : Tracks d adds reported held) (ids : List String) :
    ∃ reported' held', Tracks (ids.foldl Debouncer.fire d) adds reported' held' := by
  induction ids generalizing d reported held with
  | nil => exact ⟨reported, held, h⟩
  | cons m ms ih =>
    obtain ⟨r', h', ht⟩ := h.fire m
    exact ih ht

theorem flush (h : Tracks d adds reported held) :
    ∃ reported' held', Tracks d.flush adds reported' held' :=
  h.foldl_fire _

theorem advance (h : Tracks d adds reported held) (time : Nat) :
    ∃ reported' held', Tracks (d.advance time) adds reported' held' := by
  have hdue : ∀ (fuel : Nat) (d : Debouncer) (reported held : List Group),
      Tracks d adds reported held → ∃ reported' held', Tracks (d.reportDue fuel time) adds reported' held' := by
    intro fuel
    induction fuel with
    | zero => exact fun d reported held h => ⟨reported, held, h⟩
    | succ fuel ih =>
      intro d reported held h
      unfold Debouncer.reportDue
      split
      · split
        · obtain ⟨r', h', ht⟩ := h.fire _
          exact ih _ _ _ ht
        · exact ⟨reported, held, h⟩
      · exact ⟨reported, held, h⟩
  obtain ⟨r', h', ht⟩ := hdue _ d reported held h
  exact ⟨r', h', ht.setNow _⟩

/-- Every run keeps the invariant, the changes added before the debouncer
stops joining the accepted ones. -/
theorem run (h : Tracks d adds reported held) (calls : List Call) :
    ∃ reported' held', Tracks (d.run calls) (adds ++ if d.stopped then [] else admitted calls)
      reported' held' := by
  induction calls generalizing d adds reported held with
  | nil => exact ⟨reported, held, by simpa [admitted] using h⟩
  | cons s rest ih =>
    rw [Debouncer.run_cons]
    cases s with
    | add m p o =>
      cases hs : d.stopped
      case true =>
        have hadd : d.add m p o = d := by simp [Debouncer.add, hs]
        simpa [Debouncer.step, hadd, hs] using ih h
      case false =>
        obtain ⟨held', h'⟩ := h.add hs m p o
        have hs' : (d.add m p o).stopped = false := (Debouncer.stopped_add m p o).trans hs
        simpa [Debouncer.step, hs', admitted] using ih h'
    | expire m =>
      obtain ⟨r', h', ht⟩ := h.fire m
      simpa [Debouncer.step, Debouncer.stopped_fire, admitted] using ih ht
    | flush =>
      obtain ⟨r', h', ht⟩ := h.flush
      simpa [Debouncer.step, Debouncer.flush, Debouncer.stopped_foldl_fire, admitted] using ih ht
    | stop =>
      simpa [Debouncer.step, Debouncer.stop, admitted] using ih h.stop
    | advance t =>
      obtain ⟨r', h', ht⟩ := h.advance t
      simpa [Debouncer.step, Debouncer.advance, Debouncer.stopped_reportDue, admitted] using ih ht

end Tracks

namespace Debouncer

variable {d : Debouncer}

theorem add_of_stopped (hs : d.stopped = true) (m p : String) (o : Op) : d.add m p o = d := by
  simp [add, hs]

theorem reportDue_of_stopped (hs : d.stopped = true) (fuel time : Nat) : d.reportDue fuel time = d := by
  induction fuel with
  | zero => rfl
  | succ fuel ih =>
    unfold reportDue
    split
    · split
      · rw [fire_of_stopped hs, ih]
      · rfl
    · rfl

theorem foldl_fire_of_stopped (hs : d.stopped = true) (ids : List String) : ids.foldl fire d = d := by
  induction ids with
  | nil => rfl
  | cons m ms ih => rw [List.foldl_cons, fire_of_stopped hs, ih]

/-- A stopped debouncer stays stopped and reports nothing more on any
operation. -/
theorem step_of_stopped (hs : d.stopped = true) (s : Call) :
    (d.step s).fired = d.fired ∧ (d.step s).stopped = true := by
  cases s with
  | add m p o => simp [step, add_of_stopped hs, hs]
  | expire m => simp [step, fire_of_stopped hs, hs]
  | flush => simp [step, flush, foldl_fire_of_stopped hs, hs]
  | stop => simp [step, stop]
  | advance t => simp [step, advance, reportDue_of_stopped hs, hs]

theorem fired_run_of_stopped (hs : d.stopped = true) (calls : List Call) :
    (d.run calls).fired = d.fired := by
  induction calls generalizing d with
  | nil => rfl
  | cons s rest ih =>
    obtain ⟨hfired, hstopped⟩ := step_of_stopped hs s
    rw [run_cons, ih hstopped, hfired]

end Debouncer

/-- Debouncing neither loses nor repeats a change.  For every run of
operations on a new debouncer, the changes added before it stops are cut
into groups, reported and held, so that:

* the debouncer has reported exactly the summaries of the reported groups,
  in order, each once;
* no group is empty, and every module's groups, reported then held, hold
  exactly the module's accepted changes in the order they came: every
  accepted change is in exactly one group, and no other change is in any;
* at most one group of each module is held; while the debouncer runs the
  held groups are its pending ones, and once it is stopped it holds none;
* a flush of the running debouncer leaves nothing pending, and a stopped
  one never reports anything again. -/
theorem debouncing_reports_each_change_once (delay : Nat) (calls : List Call) :
    let d := ({ delay } : Debouncer).run calls
    (∃ reported held : List Group,
      d.fired = reported.map Group.change ∧
      (∀ g ∈ reported ++ held, g.touches ≠ []) ∧
      (∀ m, (admitted calls).filter (·.module == m) =
        ((reported ++ held).filter (·.module == m)).flatMap (·.touches)) ∧
      (held.map (·.module)).Nodup ∧
      (d.stopped = true → d.pending = []) ∧
      (d.stopped = false → d.pending.map (·.change) = held.map Group.change)) ∧
    (d.stopped = false → d.flush.pending = []) ∧
    (d.stopped = true → ∀ more, (d.run more).fired = d.fired) := by
  intro d
  have hnew : Tracks ({ delay } : Debouncer) [] [] [] :=
    ⟨rfl, by simp, by simp, by simp, (fun h => by cases h), fun _ => rfl⟩
  obtain ⟨reported, held, h⟩ := hnew.run calls
  refine ⟨⟨reported, held, h.fired, h.nonempty, fun m => ?_, h.held_nodup, h.stopped_pending,
    h.running_pending⟩, Debouncer.pending_flush, fun hs => Debouncer.fired_run_of_stopped hs⟩
  simpa using h.partition m

end MudClient.Watch
