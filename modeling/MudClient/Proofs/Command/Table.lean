/-
# Command tables against the commands they stand for

Each session's table maps every name of its commands to the registration
of the command, one registration shared by all of its names.  This module
proves that, whatever commands are registered, whichever modules are taken
back and whichever sessions are forgotten, each table stands for a set of
commands whose names never overlap: a name leads to a command exactly when
the command is in the set and is known by that name.

The sets are kept by a `Book`, built from the calls alone: registering a
command takes out every command of its session that shares a name with it
and adds it; taking back a module takes out its commands from every
session; forgetting a session empties its set.  `Refines` says that a
registry's tables stand for a book's sets; every call keeps it
(`Refines.perform`), so every run does.  Read off it at the end: lookups,
the count that taking back a module answers, and the listing of a
session's commands, sorted strictly by name, which therefore depends on
the set alone and not on the order of any table's entries.

The work is in registering: the new command claims its names one at a
time, and a name held by another command takes that command out under all
of its names.  `Partway` says what the table is after some of the names.
-/
import Mathlib.Data.List.Nodup
import Mathlib.Data.List.Pairwise
import Mathlib.Data.String.Basic
import MudClient.Command.Registry

namespace MudClient.Command

open Session

/-! ## Calls -/

/-- A call on the command registry. -/
inductive Op (α : Type) where
  | register (id : SessionId) (c : Spec (Option α))
  | retract (owner : String)
  | drop (id : SessionId)

variable {α : Type}

namespace Registry

def perform (r : Registry α) : Op α → Registry α
  | .register id c =>
    match r.register id c with
    | .ok r' => r'
    | .error _ => r
  | .retract owner => (r.retract owner).2
  | .drop id => r.drop id

def performAll (r : Registry α) (ops : List (Op α)) : Registry α := ops.foldl perform r

@[simp] theorem performAll_nil (r : Registry α) : r.performAll [] = r := rfl

@[simp] theorem performAll_cons (r : Registry α) (op : Op α) (ops : List (Op α)) :
    r.performAll (op :: ops) = (r.perform op).performAll ops := rfl

end Registry

/-! ## Names shared -/

namespace Registration

def clashes (d e : Registration α) : Bool := d.command.names.any (· ∈ e.command.names)

theorem clashes_eq_false {d e : Registration α} :
    d.clashes e = false ↔ ∀ n ∈ d.command.names, n ∉ e.command.names := by
  simp [clashes]

theorem clashes_comm (d e : Registration α) : d.clashes e = e.clashes d := by
  have h : d.clashes e = false ↔ e.clashes d = false := by
    rw [clashes_eq_false, clashes_eq_false]
    exact ⟨fun h n he hd => h n hd he, fun h n hd he => h n he hd⟩
  cases hde : d.clashes e with
  | false => exact (h.1 hde).symm
  | true =>
      cases hed : e.clashes d with
      | false => rw [h.2 hed] at hde; cases hde
      | true => rfl

theorem lower_name_mem (d : Registration α) : Text.lower d.command.name ∈ d.command.names :=
  List.mem_cons_self

theorem name_ne_of_clashes_eq_false {d e : Registration α} (h : d.clashes e = false) :
    d.command.name ≠ e.command.name := by
  intro heq
  have := clashes_eq_false.1 h _ d.lower_name_mem
  rw [heq] at this
  exact this e.lower_name_mem

/-- A command that is taken becomes a registration with the serial given,
its name trimmed, and its other fields and handler as they were. -/
theorem eq_of_ofCommand {n : Nat} {c : Spec (Option α)} {e : Registration α}
    (h : ofCommand n c = .ok e) :
    ∃ x, c.handler = some x ∧ e = ⟨n,
      { name := Text.trimSpace c.name, aliases := c.aliases, description := c.description,
        owner := c.owner, handler := x }⟩ := by
  unfold ofCommand at h
  dsimp only at h
  split at h
  · cases h
  · split at h
    · cases h
    · rename_i x hx
      split at h
      · cases h
      · cases h
        exact ⟨x, hx, rfl⟩

theorem serial_ofCommand {n : Nat} {c : Spec (Option α)} {e : Registration α}
    (h : ofCommand n c = .ok e) : e.serial = n := by
  obtain ⟨x, -, rfl⟩ := eq_of_ofCommand h
  rfl

theorem owner_ofCommand {n : Nat} {c : Spec (Option α)} {e : Registration α}
    (h : ofCommand n c = .ok e) : e.command.owner = c.owner := by
  obtain ⟨x, -, rfl⟩ := eq_of_ofCommand h
  rfl

end Registration

/-! ## The book of commands -/

/-- The commands of each session as a set, in the order they were
registered, and the last serial given out. -/
structure Book (α : Type) where
  sets : SessionId → List (Registration α) := fun _ => []
  issued : Nat := 0

namespace Book

/-- What a call does to the sets: a registration takes out every command of
its session that shares a name with it and adds itself; taking back a
module takes out its commands everywhere; forgetting a session empties its
set. -/
def step (b : Book α) : Op α → Book α
  | .register id c =>
    match Registration.ofCommand (b.issued + 1) c with
    | .ok e =>
      { sets := Function.update b.sets id ((b.sets id).filter (!·.clashes e) ++ [e]),
        issued := e.serial }
    | .error _ => b
  | .retract owner => { b with sets := fun id => (b.sets id).filter (·.command.owner != owner) }
  | .drop id => { b with sets := Function.update b.sets id [] }

def run (b : Book α) (ops : List (Op α)) : Book α := ops.foldl step b

@[simp] theorem run_nil (b : Book α) : b.run [] = b := rfl

@[simp] theorem run_cons (b : Book α) (op : Op α) (ops : List (Op α)) :
    b.run (op :: ops) = (b.step op).run ops := rfl

/-- What every book built by calls satisfies: serials below the last one
given out, each registration in one session only, and no two commands of
a session sharing a name. -/
structure Sound (b : Book α) : Prop where
  below : ∀ id, ∀ e ∈ b.sets id, e.serial ≤ b.issued
  unique : ∀ {id id' : SessionId} {e e' : Registration α}, e ∈ b.sets id → e' ∈ b.sets id' →
    e.serial = e'.serial → id = id' ∧ e = e'
  apart : ∀ id, (b.sets id).Pairwise fun d e => d.clashes e = false

theorem sound_empty : Sound ({} : Book α) where
  below _ _ h := by cases h
  unique h := by cases h
  apart _ := List.Pairwise.nil

theorem Sound.eq_of_mem_names {b : Book α} (hb : b.Sound) {id : SessionId} {d e : Registration α}
    (hd : d ∈ b.sets id) (he : e ∈ b.sets id) {n : String} (hnd : n ∈ d.command.names)
    (hne : n ∈ e.command.names) : d = e := by
  have hsymm : Std.Symm fun d e : Registration α => d.clashes e = false :=
    ⟨fun d e h => by rw [Registration.clashes_comm]; exact h⟩
  by_contra hde
  exact Registration.clashes_eq_false.1 ((hb.apart id).forall hd he hde) n hnd hne

end Book

/-! ## A names table and the commands it stands for -/

/-- A names table stands for a set of registrations when each of its names
leads to the registration known by it, and to nothing else. -/
structure Stands (t : KeyMap String (Registration α)) (S : List (Registration α)) : Prop where
  keys : t.keys.Nodup
  get : ∀ n e, t.get? n = some e ↔ e ∈ S ∧ n ∈ e.command.names

/-- Partway through putting `e` under its names, with the names `P` done:
each of them leads to `e`, and every other name to the registration of
`S` it led to before, unless that registration has a name in `P`, which
took it out under all of its names. -/
structure Partway (t : KeyMap String (Registration α)) (S : List (Registration α))
    (e : Registration α) (P : List String) : Prop where
  keys : t.keys.Nodup
  get : ∀ n d, t.get? n = some d ↔
    (d ∈ S ∧ (∀ p ∈ P, p ∉ d.command.names) ∧ n ∈ d.command.names) ∨ (d = e ∧ n ∈ P)

section Claim

/-! What registering `e` over a table standing for `S` relies on: no two
registrations of `S` share a name or a serial, and `e`'s serial is new. -/

variable {S : List (Registration α)} {e : Registration α}
  (hname : ∀ d ∈ S, ∀ d' ∈ S, ∀ n, n ∈ d.command.names → n ∈ d'.command.names → d = d')
  (hser : ∀ d ∈ S, ∀ d' ∈ S, d.serial = d'.serial → d = d')
  (hfresh : ∀ d ∈ S, d.serial ≠ e.serial)

include hfresh in
theorem not_mem_of_fresh : e ∉ S := fun he => hfresh e he rfl

include hname hser hfresh in
/-- Before a name is set to `e`, the registration it led to is taken out
under all of its names, unless it is `e` itself; nothing else changes. -/
theorem claim_eq {t : KeyMap String (Registration α)} {P : List String} (hp : Partway t S e P)
    (n : String) :
    ∃ t₁ : KeyMap String (Registration α), Registry.claim t e n = t₁.set n e ∧ t₁.keys.Nodup ∧
      ∀ m d, t₁.get? m = some d ↔ t.get? m = some d ∧ (d = e ∨ n ∉ d.command.names) := by
  unfold Registry.claim
  dsimp only
  split
  · rename_i old hold
    -- `n` led to `old`; the table keeps it, or takes it out when it is not `e`
    split
    · rename_i hne
      have hne : old.serial ≠ e.serial := by simpa using hne
      have hold' : old ∈ S ∧ n ∈ old.command.names := by
        rcases (hp.get n old).1 hold with ⟨hS, -, hn⟩ | ⟨rfl, -⟩
        · exact ⟨hS, hn⟩
        · exact absurd rfl hne
      refine ⟨_, rfl, (List.filter_sublist.map _).nodup hp.keys, fun m d => ?_⟩
      rw [KeyMap.get?_filter hp.keys (fun d => d.serial != old.serial), Option.filter_eq_some_iff]
      constructor
      · rintro ⟨hget, hd⟩
        refine ⟨hget, ?_⟩
        rcases (hp.get m d).1 hget with ⟨hS, -, -⟩ | ⟨rfl, -⟩
        · right
          intro hn
          have := hname d hS old hold'.1 n hn hold'.2
          subst this
          simp at hd
        · exact .inl rfl
      · rintro ⟨hget, hd⟩
        refine ⟨hget, ?_⟩
        rw [bne_iff_ne]
        intro hs
        rcases hd with rfl | hn
        · exact hne hs.symm
        · rcases (hp.get m d).1 hget with ⟨hS, -, -⟩ | ⟨rfl, -⟩
          · exact hn (hser d hS old hold'.1 hs ▸ hold'.2)
          · exact hne hs.symm
    · rename_i hsame
      have hsame : old.serial = e.serial := by simpa using hsame
      -- a registration of `S` has an older serial, so `n` already led to `e`
      have hnP : n ∈ P := by
        rcases (hp.get n old).1 hold with ⟨hS, -, -⟩ | ⟨-, hP⟩
        · exact absurd hsame (hfresh old hS)
        · exact hP
      refine ⟨_, rfl, hp.keys, fun m d => ⟨fun hget => ⟨hget, ?_⟩, fun h => h.1⟩⟩
      rcases (hp.get m d).1 hget with ⟨-, hP, -⟩ | ⟨rfl, -⟩
      · exact .inr (hP n hnP)
      · exact .inl rfl
  · rename_i hnone
    refine ⟨_, rfl, hp.keys, fun m d => ⟨fun hget => ⟨hget, ?_⟩, fun h => h.1⟩⟩
    rcases (hp.get m d).1 hget with ⟨hS, hP, -⟩ | ⟨rfl, -⟩
    · right
      intro hn
      rw [(hp.get n d).2 (.inl ⟨hS, hP, hn⟩)] at hnone
      cases hnone
    · exact .inl rfl

include hname hser hfresh in
theorem Partway.claim {t : KeyMap String (Registration α)} {P : List String}
    (hp : Partway t S e P) (n : String) : Partway (Registry.claim t e n) S e (P ++ [n]) := by
  obtain ⟨t₁, heq, hk, hget⟩ := claim_eq hname hser hfresh hp n
  rw [heq]
  refine ⟨KeyMap.keys_set_nodup hk n e, fun m d => ?_⟩
  rw [KeyMap.get?_set]
  by_cases hm : m = n
  · subst hm
    -- the name just claimed leads to `e` alone
    rw [if_pos rfl, Option.some.injEq]
    constructor
    · rintro rfl
      exact .inr ⟨rfl, List.mem_append_right _ (List.mem_singleton_self m)⟩
    · rintro (⟨-, hP, hn⟩ | ⟨rfl, -⟩)
      · exact absurd hn (hP m (List.mem_append_right _ (List.mem_singleton_self m)))
      · rfl
  · rw [if_neg hm, hget, hp.get]
    constructor
    · rintro ⟨⟨hS, hP, hn⟩ | ⟨rfl, hP⟩, hd⟩
      · refine .inl ⟨hS, fun p hp' => ?_, hn⟩
        rcases List.mem_append.1 hp' with hp' | hp'
        · exact hP p hp'
        · rw [List.mem_singleton.1 hp']
          rcases hd with rfl | hd
          · exact absurd hS (not_mem_of_fresh hfresh)
          · exact hd
      · exact .inr ⟨rfl, List.mem_append_left _ hP⟩
    · rintro (⟨hS, hP, hn⟩ | ⟨rfl, hP⟩)
      · exact ⟨.inl ⟨hS, fun p hp' => hP p (List.mem_append_left _ hp'), hn⟩,
          .inr (hP n (List.mem_append_right _ (List.mem_singleton_self n)))⟩
      · rcases List.mem_append.1 hP with hP | hP
        · exact ⟨.inr ⟨rfl, hP⟩, .inl rfl⟩
        · exact absurd (List.mem_singleton.1 hP) hm

include hname hser hfresh in
theorem Partway.foldl_claim (Q : List String) {t : KeyMap String (Registration α)}
    {P : List String} (hp : Partway t S e P) :
    Partway (Q.foldl (Registry.claim · e ·) t) S e (P ++ Q) := by
  induction Q generalizing t P with
  | nil => simpa using hp
  | cons n Q ih =>
      have := ih (hp.claim hname hser hfresh n)
      rwa [List.append_assoc, List.singleton_append] at this

theorem Stands.partway {t : KeyMap String (Registration α)} (ht : Stands t S) :
    Partway t S e [] :=
  ⟨ht.keys, fun n d => by simp [ht.get]⟩

/-- Once all of `e`'s names are done, the table stands for `S` without the
registrations sharing a name with `e`, and with `e`. -/
theorem Partway.stands {t : KeyMap String (Registration α)} (hp : Partway t S e e.command.names) :
    Stands t (S.filter (!·.clashes e) ++ [e]) := by
  refine ⟨hp.keys, fun n d => ?_⟩
  rw [hp.get, List.mem_append, List.mem_filter, List.mem_singleton, Bool.not_eq_true',
    Registration.clashes_eq_false]
  constructor
  · rintro (⟨hS, hP, hn⟩ | ⟨rfl, hn⟩)
    · exact ⟨.inl ⟨hS, fun p hd he => hP p he hd⟩, hn⟩
    · exact ⟨.inr rfl, hn⟩
  · rintro ⟨⟨hS, hP⟩ | rfl, hn⟩
    · exact .inl ⟨hS, fun p he hd => hP p hd he, hn⟩
    · exact .inr ⟨rfl, hn⟩

include hname hser hfresh in
/-- Putting `e` under all of its names, over a table that stands for `S`,
gives a table that stands for `S` without the registrations sharing a name
with `e`, and with `e`: no registration is left under some of its names. -/
theorem Stands.register {t : KeyMap String (Registration α)} (ht : Stands t S) :
    Stands (e.command.names.foldl (Registry.claim · e ·) t) (S.filter (!·.clashes e) ++ [e]) :=
  (Partway.foldl_claim hname hser hfresh e.command.names ht.partway).stands

end Claim

/-! ## Every call keeps the book sound -/

namespace Book

theorem mem_update {f : SessionId → List (Registration α)} {id id' : SessionId}
    {L : List (Registration α)} {d : Registration α} :
    d ∈ Function.update f id L id' ↔ (id' = id ∧ d ∈ L) ∨ (id' ≠ id ∧ d ∈ f id') := by
  rw [Function.update_apply]
  by_cases h : id' = id <;> simp [h]

/-- A registration in a session after `e` was registered in `id` is `e`,
in `id`, or was there before. -/
theorem mem_register {b : Book α} {e d : Registration α} {id id' : SessionId}
    (hd : d ∈ Function.update b.sets id ((b.sets id).filter (!·.clashes e) ++ [e]) id') :
    (id' = id ∧ d = e) ∨ d ∈ b.sets id' := by
  rcases mem_update.1 hd with ⟨rfl, hd⟩ | ⟨-, hd⟩
  · rcases List.mem_append.1 hd with hd | hd
    · exact .inr (List.mem_filter.1 hd).1
    · exact .inl ⟨rfl, List.mem_singleton.1 hd⟩
  · exact .inr hd

theorem Sound.step {b : Book α} (hb : b.Sound) (op : Op α) : (b.step op).Sound := by
  cases op with
  | register id c =>
      cases hc : Registration.ofCommand (b.issued + 1) c with
      | error err =>
          simp only [Book.step, hc]
          exact hb
      | ok e =>
          simp only [Book.step, hc]
          have he := Registration.serial_ofCommand hc
          -- every registration there before has an older serial than `e`
          have hold : ∀ {id} {d}, d ∈ b.sets id → d.serial < e.serial := fun hd => by
            have := hb.below _ _ hd
            omega
          refine ⟨fun id' d hd => ?_, fun hd hd' hs => ?_, fun id' => ?_⟩
          · rcases mem_register hd with ⟨-, rfl⟩ | hd
            · exact Nat.le_refl _
            · exact Nat.le_of_lt (hold hd)
          · rcases mem_register hd with ⟨rfl, rfl⟩ | hd₁
            · rcases mem_register hd' with ⟨rfl, rfl⟩ | hd₂
              · exact ⟨rfl, rfl⟩
              · exact absurd hs (Nat.ne_of_gt (hold hd₂))
            · rcases mem_register hd' with ⟨rfl, rfl⟩ | hd₂
              · exact absurd hs (Nat.ne_of_lt (hold hd₁))
              · exact hb.unique hd₁ hd₂ hs
          · dsimp only
            rw [Function.update_apply]
            split
            · rename_i hid
              subst hid
              refine List.pairwise_append.2 ⟨(hb.apart _).filter _, List.pairwise_singleton _ _, ?_⟩
              intro d hd x hx
              rw [List.mem_singleton.1 hx]
              simpa using (List.mem_filter.1 hd).2
            · exact hb.apart id'
  | retract owner =>
      refine ⟨fun id d hd => hb.below id d (List.mem_filter.1 hd).1,
        fun hd hd' hs => hb.unique (List.mem_filter.1 hd).1 (List.mem_filter.1 hd').1 hs,
        fun id => (hb.apart id).filter _⟩
  | drop id =>
      simp only [Book.step]
      refine ⟨fun id' d hd => ?_, fun hd hd' hs => ?_, fun id' => ?_⟩
      · rcases mem_update.1 hd with ⟨-, hd⟩ | ⟨-, hd⟩
        · cases hd
        · exact hb.below id' d hd
      · rcases mem_update.1 hd with ⟨-, hd⟩ | ⟨-, hd⟩
        · cases hd
        · rcases mem_update.1 hd' with ⟨-, hd'⟩ | ⟨-, hd'⟩
          · cases hd'
          · exact hb.unique hd hd' hs
      · dsimp only
        rw [Function.update_apply]
        split
        · exact List.Pairwise.nil
        · exact hb.apart id'

theorem Sound.run {b : Book α} (hb : b.Sound) (ops : List (Op α)) : (b.run ops).Sound := by
  induction ops generalizing b with
  | nil => exact hb
  | cons op ops ih => exact ih (hb.step op)

/-! ### What a call does to the sets -/

theorem issued_le_step (b : Book α) (op : Op α) : b.issued ≤ (b.step op).issued := by
  cases op with
  | register id c =>
      cases hc : Registration.ofCommand (b.issued + 1) c with
      | error err =>
          simp only [Book.step, hc]
          exact Nat.le_refl _
      | ok e =>
          simp only [Book.step, hc]
          rw [Registration.serial_ofCommand hc]
          exact Nat.le_succ _
  | retract owner => exact Nat.le_refl _
  | drop id => exact Nat.le_refl _

/-- A registration in a set after registering was there before, or is the
new one: the command's owner's, with the next serial. -/
theorem mem_step_register {b : Book α} {id id' : SessionId} {c : Spec (Option α)}
    {e : Registration α} (he : e ∈ (b.step (.register id c)).sets id') :
    e ∈ b.sets id' ∨ (e.command.owner = c.owner ∧ e.serial = b.issued + 1) := by
  cases hc : Registration.ofCommand (b.issued + 1) c with
  | error err =>
      simp only [Book.step, hc] at he
      exact .inl he
  | ok d =>
      simp only [Book.step, hc] at he
      rcases mem_register he with ⟨-, rfl⟩ | he
      · exact .inr ⟨Registration.owner_ofCommand hc, Registration.serial_ofCommand hc⟩
      · exact .inl he

theorem mem_step_retract {b : Book α} {owner : String} {id : SessionId} {e : Registration α}
    (he : e ∈ (b.step (.retract owner)).sets id) : e ∈ b.sets id ∧ e.command.owner ≠ owner := by
  obtain ⟨he, ho⟩ := List.mem_filter.1 he
  exact ⟨he, by simpa using ho⟩

end Book

/-! ## Every call keeps the tables standing for the book -/

/-- A registry whose tables stand for a book's sets. -/
structure Refines (r : Registry α) (b : Book α) : Prop where
  issued : r.issued = b.issued
  sessions : r.tables.keys.Nodup
  tables : ∀ id, Stands (r.table id) (b.sets id)

theorem stands_empty : Stands ({} : KeyMap String (Registration α)) [] :=
  ⟨List.nodup_nil, fun n e => by simp⟩

theorem refines_empty : Refines ({} : Registry α) ({} : Book α) :=
  ⟨rfl, List.nodup_nil, fun _ => stands_empty⟩

/-- Keeping the registrations that pass a test keeps a table standing for
those of its set that pass it. -/
theorem Stands.filter {t : KeyMap String (Registration α)} {S : List (Registration α)}
    (ht : Stands t S) (p : Registration α → Bool) :
    Stands ⟨t.entries.filter fun e => p e.2⟩ (S.filter p) := by
  refine ⟨(List.filter_sublist.map _).nodup ht.keys, fun n e => ?_⟩
  rw [KeyMap.get?_filter ht.keys, Option.filter_eq_some_iff, ht.get, List.mem_filter]
  exact ⟨fun ⟨⟨hS, hn⟩, hp⟩ => ⟨⟨hS, hp⟩, hn⟩, fun ⟨⟨hS, hp⟩, hn⟩ => ⟨⟨hS, hn⟩, hp⟩⟩

namespace Registry

theorem table_set (r : Registry α) (id : SessionId) (t : KeyMap String (Registration α))
    (issued : Nat) (id' : SessionId) :
    ({ tables := r.tables.set id t, issued } : Registry α).table id' =
      if id' = id then t else r.table id' := by
  by_cases h : id' = id <;> simp [table, h]

theorem table_drop (r : Registry α) (id id' : SessionId) :
    (r.drop id).table id' = if id' = id then {} else r.table id' := by
  by_cases h : id' = id <;> simp [table, drop, h]

theorem withoutOwner_key {owner : String} {e e' : SessionId × KeyMap String (Registration α)}
    (h : withoutOwner owner e = some e') : e'.1 = e.1 := by
  unfold withoutOwner at h
  dsimp only at h
  split at h
  · cases h
  · cases h
    rfl

theorem table_retract {r : Registry α} (hk : r.tables.keys.Nodup) (owner : String) (id : SessionId) :
    (r.retract owner).2.table id = ⟨(r.table id).entries.filter (·.2.command.owner != owner)⟩ := by
  unfold table retract
  dsimp only
  rw [KeyMap.get?, KeyMap.lookup_filterMap (fun _ _ => withoutOwner_key) id _ hk]
  cases hget : r.tables.entries.lookup id with
  | none =>
      simp only [Option.bind_none, Option.getD_none, KeyMap.get?, hget]
      rfl
  | some t =>
      show ((withoutOwner owner (id, t)).map (·.2)).getD {} = _
      unfold withoutOwner
      dsimp only
      split
      · rename_i hempty
        simp only [Option.map_none, Option.getD_none, KeyMap.get?, hget, Option.getD_some]
        exact (congrArg KeyMap.mk (List.isEmpty_iff.1 hempty)).symm
      · simp [KeyMap.get?, hget]

end Registry

section Refines

variable {r : Registry α} {b : Book α}

theorem Refines.register (hr : Refines r b) (hb : b.Sound) (id : SessionId) (c : Spec (Option α)) :
    Refines (r.perform (.register id c)) (b.step (.register id c)) := by
  simp only [Registry.perform, Registry.register, Book.step, hr.issued]
  cases hc : Registration.ofCommand (b.issued + 1) c with
  | error err => exact hr
  | ok e =>
      have he := Registration.serial_ofCommand hc
      refine ⟨rfl, KeyMap.keys_set_nodup hr.sessions _ _, fun id' => ?_⟩
      rw [Registry.table_set]
      dsimp only
      rw [Function.update_apply]
      split
      · rename_i hid
        subst hid
        -- what registering relies on, read off the sound book
        refine Stands.register
          (fun d hd d' hd' n hn hn' => hb.eq_of_mem_names hd hd' hn hn')
          (fun d hd d' hd' hs => (hb.unique hd hd' hs).2)
          (fun d hd hs => ?_) (hr.tables id')
        have := hb.below _ _ hd
        omega
      · exact hr.tables id'

theorem Refines.retract (hr : Refines r b) (owner : String) :
    Refines (r.retract owner).2 (b.step (.retract owner)) := by
  refine ⟨hr.issued, ?_, fun id => ?_⟩
  · exact (KeyMap.keys_filterMap_sublist (fun _ _ => Registry.withoutOwner_key) _).nodup hr.sessions
  · rw [Registry.table_retract hr.sessions]
    exact (hr.tables id).filter (·.command.owner != owner)

theorem Refines.drop (hr : Refines r b) (id : SessionId) :
    Refines (r.drop id) (b.step (.drop id)) := by
  refine ⟨hr.issued, KeyMap.keys_erase_nodup hr.sessions id, fun id' => ?_⟩
  rw [Registry.table_drop]
  dsimp only [Book.step]
  rw [Function.update_apply]
  split
  · exact stands_empty
  · exact hr.tables id'

theorem Refines.perform (hr : Refines r b) (hb : b.Sound) (op : Op α) :
    Refines (r.perform op) (b.step op) := by
  cases op with
  | register id c => exact hr.register hb id c
  | retract owner => exact hr.retract owner
  | drop id => exact hr.drop id

theorem refines_performAll (hr : Refines r b) (hb : b.Sound) (ops : List (Op α)) :
    Refines (r.performAll ops) (b.run ops) := by
  induction ops generalizing r b with
  | nil => exact hr
  | cons op ops ih => exact ih (hr.perform hb op) (hb.step op)

end Refines

/-! ## What the tables answer -/

theorem Registration.clashes_self (d : Registration α) : d.clashes d = true :=
  List.any_eq_true.2 ⟨_, d.lower_name_mem, decide_eq_true d.lower_name_mem⟩

theorem Stands.mem_values {t : KeyMap String (Registration α)} {S : List (Registration α)}
    (ht : Stands t S) {e : Registration α} : e ∈ t.values ↔ e ∈ S := by
  unfold KeyMap.values
  constructor
  · intro h
    obtain ⟨⟨n, e'⟩, hmem, rfl⟩ := List.mem_map.1 h
    exact ((ht.get n e').1 (KeyMap.get?_eq_some_of_mem ht.keys hmem)).1
  · intro h
    have hget := (ht.get _ e).2 ⟨h, e.lower_name_mem⟩
    exact List.mem_map.2 ⟨_, KeyMap.mem_of_get?_eq_some hget, rfl⟩

theorem mem_of_mem_distinct :
    ∀ {l : List (Registration α)} {e : Registration α}, e ∈ distinct l → e ∈ l
  | [], _, h => h
  | d :: l, e, h => by
      unfold distinct at h
      split at h
      · exact List.mem_cons_of_mem _ (mem_of_mem_distinct h)
      · rcases List.mem_cons.1 h with rfl | h
        · exact List.mem_cons_self
        · exact List.mem_cons_of_mem _ (mem_of_mem_distinct h)

theorem exists_mem_distinct :
    ∀ {l : List (Registration α)} {e : Registration α}, e ∈ l → ∃ e' ∈ distinct l, e'.serial = e.serial
  | d :: l, e, h => by
      unfold distinct
      rcases List.mem_cons.1 h with rfl | h
      · split
        · rename_i hany
          obtain ⟨e', he', hs⟩ := List.any_eq_true.1 hany
          obtain ⟨e'', he'', hs'⟩ := exists_mem_distinct he'
          exact ⟨e'', he'', hs'.trans (beq_iff_eq.1 hs)⟩
        · exact ⟨_, List.mem_cons_self, rfl⟩
      · obtain ⟨e', he', hs⟩ := exists_mem_distinct h
        split
        · exact ⟨e', he', hs⟩
        · exact ⟨e', List.mem_cons_of_mem _ he', hs⟩

theorem serials_distinct_nodup : ∀ l : List (Registration α), ((distinct l).map (·.serial)).Nodup
  | [] => List.nodup_nil
  | d :: l => by
      unfold distinct
      split
      · exact serials_distinct_nodup l
      · rename_i hany
        rw [List.map_cons, List.nodup_cons]
        refine ⟨fun h => ?_, serials_distinct_nodup l⟩
        obtain ⟨e, he, hs⟩ := List.mem_map.1 h
        exact hany (List.any_eq_true.2 ⟨e, mem_of_mem_distinct he, beq_iff_eq.2 hs⟩)

theorem Book.Sound.nodup {b : Book α} (hb : b.Sound) (id : SessionId) : (b.sets id).Nodup :=
  (hb.apart id).imp fun {d e} h hde => by
    subst hde
    rw [d.clashes_self] at h
    cases h

section Answers

variable {r : Registry α} {b : Book α}

/-- A name, in any case, leads to a command exactly when the command is in
the session's set and is known by that name. -/
theorem Refines.lookup_eq_some (hr : Refines r b) {id : SessionId} {n : String} {c : Spec α} :
    r.lookup id n = some c ↔ ∃ e ∈ b.sets id, e.command = c ∧ Text.lower n ∈ c.names := by
  rw [Registry.lookup, Option.map_eq_some_iff]
  constructor
  · rintro ⟨e, hget, rfl⟩
    obtain ⟨hS, hn⟩ := ((hr.tables id).get _ e).1 hget
    exact ⟨e, hS, rfl, hn⟩
  · rintro ⟨e, hS, rfl, hn⟩
    exact ⟨e, ((hr.tables id).get _ e).2 ⟨hS, hn⟩, rfl⟩

theorem Refines.registrations_perm (hr : Refines r b) (hb : b.Sound) (id : SessionId) :
    (r.registrations id).Perm (b.sets id) := by
  have hnodup : (r.registrations id).Nodup := (serials_distinct_nodup _).of_map _
  rw [List.perm_ext_iff_of_nodup hnodup (hb.nodup id)]
  intro e
  unfold Registry.registrations
  constructor
  · intro h
    exact (hr.tables id).mem_values.1 (mem_of_mem_distinct h)
  · intro h
    obtain ⟨e', he', hs⟩ := exists_mem_distinct ((hr.tables id).mem_values.2 h)
    have he'S := (hr.tables id).mem_values.1 (mem_of_mem_distinct he')
    rw [(hb.unique he'S h hs).2] at he'
    exact he'

theorem Refines.commands_perm (hr : Refines r b) (hb : b.Sound) (id : SessionId) :
    (r.commands id).Perm ((b.sets id).map (·.command)) :=
  (List.mergeSort_perm _ _).trans ((hr.registrations_perm hb id).map _)

/-- A session's commands are listed strictly by name: sorted by name, and
no two of them have one name, since they share no name. -/
theorem Refines.commands_sorted (hr : Refines r b) (hb : b.Sound) (id : SessionId) :
    (r.commands id).Pairwise fun a c => a.name < c.name := by
  have hle : (r.commands id).Pairwise fun a c => decide (a.name ≤ c.name) = true :=
    @List.pairwise_mergeSort (Spec α) (fun a c => decide (a.name ≤ c.name))
      (fun a c d hac hcd => decide_eq_true (le_trans (of_decide_eq_true hac) (of_decide_eq_true hcd)))
      (fun a c => by simpa using le_total a.name c.name) _
  have hne : (r.commands id).Pairwise fun a c => a.name ≠ c.name := by
    have h : ((b.sets id).map (·.command)).Pairwise fun a c => a.name ≠ c.name :=
      List.pairwise_map.2 ((hb.apart id).imp Registration.name_ne_of_clashes_eq_false)
    exact (hr.commands_perm hb id).symm.pairwise h fun h => Ne.symm h
  exact (hle.and hne).imp fun h => lt_of_le_of_ne (of_decide_eq_true h.1) h.2

/-- Taking back a module answers the number of its commands across all
sessions: the registrations it gathers are each once, and are exactly the
module's registrations of every session's set. -/
theorem Refines.retract_count (hr : Refines r b) (hb : b.Sound) (owner : String) :
    ∃ gone : List (Registration α), gone.Nodup ∧
      (∀ e, e ∈ gone ↔ (∃ id, e ∈ b.sets id) ∧ e.command.owner = owner) ∧
      (r.retract owner).1 = gone.length := by
  -- before the registrations are taken once each, as the tables hold them
  have hmem : ∀ e, e ∈ r.tables.values.flatMap (fun t => t.values.filter (·.command.owner == owner)) ↔
      (∃ id, e ∈ b.sets id) ∧ e.command.owner = owner := by
    intro e
    rw [List.mem_flatMap]
    constructor
    · rintro ⟨t, ht, he⟩
      obtain ⟨⟨id, t'⟩, hmem, rfl⟩ := List.mem_map.1 ht
      have htable : r.table id = t' := by
        rw [Registry.table, KeyMap.get?_eq_some_of_mem hr.sessions hmem, Option.getD_some]
      obtain ⟨he, ho⟩ := List.mem_filter.1 he
      rw [← htable] at he
      exact ⟨⟨id, (hr.tables id).mem_values.1 he⟩, beq_iff_eq.1 ho⟩
    · rintro ⟨⟨id, he⟩, ho⟩
      have hval := (hr.tables id).mem_values.2 he
      -- a session whose set has a registration has a table
      cases hget : r.tables.get? id with
      | none => simp [Registry.table, hget, KeyMap.values] at hval
      | some t =>
          rw [Registry.table, hget, Option.getD_some] at hval
          exact ⟨t, List.mem_map.2 ⟨(id, t), KeyMap.mem_of_get?_eq_some hget, rfl⟩,
            List.mem_filter.2 ⟨hval, beq_iff_eq.2 ho⟩⟩
  refine ⟨distinct (r.tables.values.flatMap fun t => t.values.filter (·.command.owner == owner)),
    (serials_distinct_nodup _).of_map _, fun e => ?_, rfl⟩
  constructor
  · intro h
    exact (hmem e).1 (mem_of_mem_distinct h)
  · intro h
    obtain ⟨e', he', hs⟩ := exists_mem_distinct ((hmem e).2 h)
    obtain ⟨⟨id', hid'⟩, -⟩ := (hmem e').1 (mem_of_mem_distinct he')
    obtain ⟨id, hid⟩ := h.1
    rw [(hb.unique hid' hid hs).2] at he'
    exact he'

end Answers

/-! ## The tables over any history -/

/-- Whatever commands are registered, whichever modules are taken back and
whichever sessions are forgotten, in whatever order, the registry's tables
stand for the book's sets (`Book.step` says how each call changes them:
a registration takes out every command of its session sharing a name with
it and then adds itself):

* no two commands of a session share a name;
* a name, in any case, leads to a command exactly when the command is in
  the session's set and is known by that name, so no command is reachable
  through only some of its names;
* taking back a module answers how many distinct commands it has across
  all sessions;
* a session's commands are listed each once, strictly by name, so the
  listing depends on the set alone. -/
theorem tables_stand_for_command_sets (ops : List (Op α)) :
    let r := ({} : Registry α).performAll ops
    let b := ({} : Book α).run ops
    (∀ id, (b.sets id).Pairwise fun d e => ∀ n ∈ d.command.names, n ∉ e.command.names) ∧
    (∀ id n c, r.lookup id n = some c ↔ ∃ e ∈ b.sets id, e.command = c ∧ Text.lower n ∈ c.names) ∧
    (∀ owner, ∃ gone : List (Registration α), gone.Nodup ∧
      (∀ e, e ∈ gone ↔ (∃ id, e ∈ b.sets id) ∧ e.command.owner = owner) ∧
      (r.retract owner).1 = gone.length) ∧
    (∀ id, (r.commands id).Pairwise (fun a c => a.name < c.name) ∧
      (r.commands id).Perm ((b.sets id).map (·.command))) := by
  intro r b
  have hb : b.Sound := Book.sound_empty.run ops
  have hr : Refines r b := refines_performAll refines_empty Book.sound_empty ops
  refine ⟨fun id => (hb.apart id).imp Registration.clashes_eq_false.1, fun id n c => hr.lookup_eq_some,
    fun owner => hr.retract_count hb owner, fun id => ⟨hr.commands_sorted hb id, hr.commands_perm hb id⟩⟩

end MudClient.Command
