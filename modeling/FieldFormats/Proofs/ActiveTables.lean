import FieldFormats.Proofs.CallEffects
/-! # The active tables along a run

Which tables are active after any calls in any order, and what each call answers. The tables of
the latest replacement stay until the next; before the first, those of the first use do. -/
namespace FieldFormats

namespace Session

/-- The tables that a replacement puts in place: those it answers with. -/
def installedBy (a : Action) (r : Except Failure Answer) : Option Snapshot :=
  match a.role, r with
  | .replaces, .ok (.tables t) => some t
  | _, _ => none

/-- The tables of a use that builds them if there are none: those in the answer, or those behind
the verdicts, which come from the source that the environment asks for. -/
def usedBy (s : Session) (a : Action) (r : Except Failure Answer) : Option Snapshot :=
  match a.role, r with
  | .obtains, .ok (.tables t) => some t
  | .consults, .ok _ => (s.load s.configuredSource).1.toOption
  | _, _ => none

/-- No reference to active tables is counted as unused. -/
def Bounded (s : Session) : Prop :=
  ∀ a, s.active = some a → a.stamp < s.fresh

theorem SameTables.bounded {s t : Session} (h : SameTables s t) (hs : s.Bounded) : t.Bounded := by
  intro a ha
  rw [h.fresh]
  exact hs a (h.active ▸ ha)

theorem NewTables.lt_fresh {s t : Session} {made : Snapshot} (h : NewTables s t made) :
    made.stamp < t.fresh := by
  rw [h.stamp, h.fresh]
  exact Nat.lt_succ_self _

theorem NewTables.bounded {s t : Session} {made : Snapshot} (h : NewTables s t made) :
    t.Bounded := by
  intro a ha
  rw [h.active] at ha
  cases ha
  exact h.lt_fresh

namespace Effect

variable {s t : Session} {a : Action} {r : Except Failure Answer}

/-- A call leaves active what it installs, or else what was active, or else what it builds for a
first use. -/
theorem active_eq (h : Effect s a r t) :
    t.active = (installedBy a r).or (s.active.or (usedBy s a r)) := by
  unfold installedBy usedBy
  cases h with
  | fails same =>
    rw [same.active]
    cases a.role <;> simp
  | aloof role active =>
    rw [role, active]
    simp
  | replaces role new =>
    rw [role, new.active]
    rfl
  | builds role found new =>
    rw [role, new.active, found]
    rfl
  | obtains role found same | consults role found same =>
    rw [role, same.active, found]
    rfl
  | buildsFor role found built new =>
    rw [role, new.active, found, built]
    rfl

theorem active_of_error {f : Failure} (h : Effect s a (.error f) t) : t.active = s.active := by
  cases h with
  | fails same => exact same.active

theorem active_of_aloof (h : Effect s a r t) (role : a.role = .aloof) : t.active = s.active := by
  rw [h.active_eq]
  unfold installedBy usedBy
  rw [role]
  simp

theorem of_active (h : Effect s a r t) {old : Snapshot} (hs : s.active = some old)
    (role : a.role = .obtains) : r = .ok (.tables old) ∧ t.active = some old := by
  cases h with
  | fails _ missing =>
    -- A use fails only if there are no tables yet.
    rw [role, hs] at missing
    cases missing trivial
  | obtains _ found same =>
    rw [found] at hs
    cases hs
    exact ⟨rfl, same.active.trans found⟩
  | builds _ found =>
    rw [hs] at found
    cases found
  | aloof other | replaces other | consults other | buildsFor other =>
    rw [role] at other
    cases other

theorem stamp_of_installedBy (h : Effect s a r t) {made : Snapshot}
    (hmade : installedBy a r = some made) : made.stamp = s.fresh := by
  unfold installedBy at hmade
  cases h with
  | fails => cases hrole : a.role <;> simp [hrole] at hmade
  | replaces role new =>
    rw [role] at hmade
    cases hmade
    exact new.stamp
  | aloof role | obtains role | builds role | consults role | buildsFor role =>
    rw [role] at hmade
    cases hmade

/-- References are given out in order, and none that was shown is given out again. -/
theorem bounded (h : Effect s a r t) (hs : s.Bounded) :
    s.fresh ≤ t.fresh ∧ t.Bounded ∧ ∀ u, r = .ok (.tables u) → u.stamp < t.fresh := by
  cases h with
  | fails same =>
    refine ⟨Nat.le_of_eq same.fresh.symm, same.bounded hs, ?_⟩
    rintro u ⟨⟩
  | aloof role active shown fresh =>
    refine ⟨fresh, ?_, ?_⟩
    · intro b hb
      exact Nat.lt_of_lt_of_le (hs b (active ▸ hb)) fresh
    · intro u hu
      cases hu
      obtain ⟨hstamp, hfresh⟩ := shown u rfl
      omega
  | replaces role new | builds role found new =>
    refine ⟨Nat.le.intro new.fresh.symm, new.bounded, ?_⟩
    rintro u ⟨⟩
    exact new.lt_fresh
  | obtains role found same =>
    refine ⟨Nat.le_of_eq same.fresh.symm, same.bounded hs, ?_⟩
    rintro u ⟨⟩
    exact same.fresh.symm ▸ hs _ found
  | consults role found same =>
    refine ⟨Nat.le_of_eq same.fresh.symm, same.bounded hs, ?_⟩
    rintro u ⟨⟩
  | buildsFor role found built new =>
    refine ⟨Nat.le.intro new.fresh.symm, new.bounded, ?_⟩
    rintro u ⟨⟩

end Effect

end Session

/-- One call of a run: the state it meets, its answer and the state it leaves. -/
structure Moment where
  before : Session
  call : Step
  answer : Except Failure Answer
  after : Session

namespace Moment

def installed? (m : Moment) : Option Snapshot :=
  Session.installedBy m.call.action m.answer

def used? (m : Moment) : Option Snapshot :=
  m.before.usedBy m.call.action m.answer

/-- Tables that are active around a call or that it answers with. -/
def Shows (m : Moment) (t : Snapshot) : Prop :=
  m.before.active = some t ∨ m.answer = .ok (.tables t) ∨ m.after.active = some t

end Moment

namespace Session

/-- The calls that a step consists of, one for each of several callers. -/
def calls (s : Session) (x : Step) : List Step :=
  match x.action with
  | .ensureTogether source callers =>
    List.replicate callers ⟨.ensure (.given (source.resolve s)), none⟩
  | _ => [x]

def moments (s : Session) : List Step → List Moment
  | [] => []
  | x :: rest => ⟨s, x, (s.step x).1, (s.step x).2⟩ :: moments (s.step x).2 rest

/-- Every call of a run, in order. -/
def history (s : Session) : List Step → List Moment
  | [] => []
  | x :: rest => s.moments (s.calls x) ++ history (s.step x).2 rest

/-- Calls that follow one another from a state to a state. -/
inductive Leads : Session → List Moment → Session → Prop where
  | done (s) : Leads s [] s
  | call {s x ms t} (single : x.action.IsCall) (rest : Leads (s.step x).2 ms t) :
      Leads s (⟨s, x, (s.step x).1, (s.step x).2⟩ :: ms) t

theorem Leads.append {s t u : Session} {ms ns : List Moment} (h : Leads s ms t)
    (k : Leads t ns u) : Leads s (ms ++ ns) u := by
  induction h with
  | done s => exact k
  | call single _ ih => exact .call single (ih k)

theorem leads_moments {s : Session} {xs : List Step} (h : ∀ x ∈ xs, x.action.IsCall) :
    Leads s (s.moments xs) (s.run xs).2 := by
  induction xs generalizing s with
  | nil => exact .done s
  | cons x xs ih =>
    obtain ⟨hx, hxs⟩ := List.forall_mem_cons.1 h
    exact .call hx (ih hxs)

theorem togetherAnswer_ne_tables (rs : List (Except LoadError Snapshot)) (t : Snapshot) :
    togetherAnswer rs ≠ .ok (.tables t) := by
  induction rs with
  | nil =>
    intro h
    cases h
  | cons r rs ih =>
    intro h
    cases r with
    | error e => cases h
    | ok u =>
      rw [togetherAnswer] at h
      split at h
      · cases h
      · exact ih h

theorem step_cases (s : Session) (x : Step) :
    s.step x = s.act x.action ∨ ∃ t name, (s.act x.action).1 = .ok (.tables t) ∧
      x.keepAs = some name ∧ s.step x = (.ok (.tables t), (s.act x.action).2.keep name t) := by
  unfold step
  split
  · next t u name hact hkeep =>
    rw [hact]
    exact Or.inr ⟨t, name, rfl, hkeep, rfl⟩
  · next hact _ => exact Or.inl hact.symm

theorem step_effect (s : Session) {x : Step} (h : x.action.IsCall) :
    Effect s x.action (s.step x).1 (s.step x).2 := by
  have heffect := act_effect s h
  rcases step_cases s x with hstep | ⟨t, name, hact, -, hstep⟩
  · rw [hstep]
    exact heffect
  · rw [hstep]
    rw [hact] at heffect
    -- What is kept under a name is not what is active.
    exact heffect.of_same ⟨rfl, rfl⟩

theorem run_replicate_ensure (s : Session) (source : Source) (n : ℕ) :
    (s.run (List.replicate n ⟨.ensure (.given source), none⟩)).2 =
      (s.ensureRepeatedly source n).2 := by
  induction n generalizing s with
  | zero => rfl
  | succ n ih =>
    have hstep : (s.step ⟨.ensure (.given source), none⟩).2 = (s.ensure source).2 := by
      rcases step_cases s ⟨.ensure (.given source), none⟩ with h | ⟨t, name, -, hkeep, -⟩
      · rw [h]
        rfl
      · cases hkeep
    rw [List.replicate_succ]
    change ((s.step _).2.run _).2 = ((s.ensure source).2.ensureRepeatedly source n).2
    rw [ih, hstep]

/-- A step of several callers together is as many calls one after the other. -/
theorem run_calls (s : Session) (x : Step) : (s.run (s.calls x)).2 = (s.step x).2 := by
  obtain ⟨action, keepAs⟩ := x
  cases action with
  | ensureTogether source callers =>
    rcases step_cases s ⟨.ensureTogether source callers, keepAs⟩ with h | ⟨t, name, hact, -⟩
    · rw [h]
      exact run_replicate_ensure s (source.resolve s) callers
    · exact absurd hact (togetherAnswer_ne_tables _ t)
  | _ => rfl

theorem isCall_of_mem_calls {s : Session} {x y : Step} (h : y ∈ s.calls x) :
    y.action.IsCall := by
  obtain ⟨action, keepAs⟩ := x
  cases action with
  | ensureTogether source callers =>
    rw [List.eq_of_mem_replicate h]
    trivial
  | _ =>
    rw [List.mem_singleton.1 h]
    trivial

theorem leads_history (s : Session) (steps : List Step) :
    Leads s (s.history steps) (s.run steps).2 := by
  induction steps generalizing s with
  | nil => exact .done s
  | cons x steps ih =>
    have hcalls : Leads s (s.moments (s.calls x)) (s.run (s.calls x)).2 :=
      leads_moments fun y hy => isCall_of_mem_calls hy
    rw [run_calls] at hcalls
    exact hcalls.append (ih (s.step x).2)

theorem findSome?_cons_eq_or {α β : Type} (f : α → Option β) (a : α) (as : List α) :
    (a :: as).findSome? f = (f a).or (as.findSome? f) := by
  rw [List.findSome?_cons]
  cases f a <;> rfl

namespace Leads

variable {s t : Session} {ms : List Moment}

theorem effect (h : Leads s ms t) :
    ∀ m ∈ ms, Effect m.before m.call.action m.answer m.after := by
  induction h with
  | done s => simp
  | call single _ ih => exact List.forall_mem_cons.2 ⟨step_effect _ single, ih⟩

theorem split {earlier later : List Moment} {m : Moment}
    (h : Leads s (earlier ++ m :: later) t) : Leads s earlier m.before := by
  induction earlier generalizing s with
  | nil =>
    cases h with
    | call single rest => exact .done s
  | cons e earlier ih =>
    cases h with
    | call single rest => exact .call single (ih rest)

theorem active_eq (h : Leads s ms t) :
    t.active = (ms.reverse.findSome? Moment.installed?).or
      (s.active.or (ms.findSome? Moment.used?)) := by
  -- On the calls from the first: a later replacement outdoes what they do before it.
  induction h with
  | done s => simp
  | @call s x ms t single rest ih =>
    rw [ih, (step_effect s single).active_eq, List.reverse_cons, List.findSome?_append,
      findSome?_cons_eq_or, findSome?_cons_eq_or, List.findSome?_nil, Option.or_none]
    simp only [Option.or_assoc]
    rfl

theorem bounded (h : Leads s ms t) (hs : s.Bounded) :
    s.fresh ≤ t.fresh ∧ t.Bounded ∧ ∀ m ∈ ms, ∀ u, m.Shows u → u.stamp < t.fresh := by
  induction h with
  | done s => exact ⟨Nat.le_refl _, hs, by simp⟩
  | @call s x ms t single rest ih =>
    obtain ⟨hle, hnext, hanswer⟩ := (step_effect s single).bounded hs
    obtain ⟨hrest, hlast, hshown⟩ := ih hnext
    refine ⟨Nat.le_trans hle hrest, hlast, List.forall_mem_cons.2 ⟨?_, hshown⟩⟩
    intro u hu
    apply Nat.lt_of_lt_of_le ?_ hrest
    rcases hu with hbefore | hu | hafter
    · exact Nat.lt_of_lt_of_le (hs u hbefore) hle
    · exact hanswer u hu
    · exact hnext u hafter

end Leads

/-- The laws of the active tables along the calls `ms`, which lead from `s` to `t`. -/
structure ActiveLaws (s : Session) (ms : List Moment) (t : Session) : Prop where
  calls : Leads s ms t
  failure : ∀ m ∈ ms, ∀ f, m.answer = .error f → m.after.active = m.before.active
  stays : ∀ m ∈ ms, m.before.active.isSome = true → m.after.active.isSome = true
  /-- Those of the last replacement, or else of the first use, or else none. -/
  latest : t.active = (ms.reverse.findSome? Moment.installed?).or
    (ms.findSome? Moment.used?)
  found : ∀ m ∈ ms, ∀ a, m.before.active = some a → m.call.action.role = .obtains →
    m.answer = .ok (.tables a) ∧ m.after.active = some a
  /-- Whoever asks gets the active tables, whatever source and surroundings. -/
  anywhere : ∀ a, t.active = some a → ∀ files environment source,
    let u := { t with files := files, environment := environment }
    u.ensure source = (.ok a, u) ∧ u.current = (.ok a, u)
  /-- Loads, pinned checks and checks without tables change nothing. -/
  aloof : ∀ m ∈ ms, m.call.action.role = .aloof → m.after.active = m.before.active
  /-- A replacement is told apart from all tables that were ever shown. -/
  new : ∀ earlier m later a, ms = earlier ++ m :: later → m.installed? = some a →
    (∀ e ∈ earlier, ∀ b, e.Shows b → b.stamp ≠ a.stamp) ∧
      ∀ b, m.before.active = some b → b.stamp ≠ a.stamp

theorem activeLaws_history (s : Session) (h : s.active = none) (steps : List Step) :
    ActiveLaws s (s.history steps) (s.run steps).2 := by
  have hleads := leads_history s steps
  have hbounded : s.Bounded := by
    intro a ha
    rw [h] at ha
    cases ha
  refine ⟨hleads, ?_, ?_, ?_, ?_, ?_, ?_, ?_⟩
  · intro m hm f hf
    have heffect := hleads.effect m hm
    rw [hf] at heffect
    exact heffect.active_of_error
  · intro m hm hactive
    rw [(hleads.effect m hm).active_eq]
    obtain ⟨a, ha⟩ := Option.isSome_iff_exists.1 hactive
    rw [ha]
    cases installedBy m.call.action m.answer <;> rfl
  · rw [hleads.active_eq, h, Option.none_or]
  · intro m hm a ha role
    exact (hleads.effect m hm).of_active ha role
  · intro a ha files environment source u
    have hu : u.active = some a := ha
    exact ⟨ensure_of_active hu source, ensure_of_active hu u.configuredSource⟩
  · intro m hm role
    exact (hleads.effect m hm).active_of_aloof role
  · intro earlier m later a hms ha
    rw [hms] at hleads
    have hstamp := (hleads.effect m (by simp)).stamp_of_installedBy ha
    obtain ⟨-, hmeets, hshown⟩ := hleads.split.bounded hbounded
    constructor
    · intro e he b hb
      have := hshown e he b hb
      omega
    · intro b hb
      have := hmeets b hb
      omega

/-- A first use that fails, an installation, a build that is not installed and a second use. -/
def firstSteps : List Step :=
  [⟨.ensure (.given (.directory "missing")), none⟩,
    ⟨.installTexts ⟨"iban.tsv", "Norway\t15\t11n\tNOkk bbbb cccc ccx\n"⟩
      ⟨"currencies.tsv", "NOK\t578\tKrone\tNorway\n"⟩, none⟩,
    ⟨.load (.given (.directory "missing")), none⟩,
    ⟨.current, none⟩]

theorem activeLaws_firstSteps :
    ({} : Session).active = none ∧ ∃ a, (({} : Session).run firstSteps).2.active = some a ∧
      ∀ files environment source,
        ({ (({} : Session).run firstSteps).2 with
          files := files, environment := environment }.ensure source).1 = .ok a := by
  have hlaws := activeLaws_history {} rfl firstSteps
  have hactive : (({} : Session).run firstSteps).2.active.isSome = true := by
    decide +kernel
  obtain ⟨a, ha⟩ := Option.isSome_iff_exists.1 hactive
  refine ⟨rfl, a, ha, ?_⟩
  intro files environment source
  exact congrArg Prod.fst (hlaws.anywhere a ha files environment source).1

end Session

end FieldFormats
