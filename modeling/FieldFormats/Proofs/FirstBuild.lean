import FieldFormats.Proofs.CallEffects
import FieldFormats.Session.FirstUse
/-! # One build for all first uses

However the steps of callers mix, at most one of them builds tables, and all take those. What holds
this together is the lock: no tables become active while a caller that found none still has it. -/
namespace FieldFormats

namespace Progress

/-- From taking the lock up to releasing it. -/
def Locked : Progress → Prop
  | .lookingAgain | .building | .announcing _ | .publishing _ | .taking true | .leaving _ => True
  | .asking | .waiting | .taking false | .answered _ => False

/-- From finding no tables under the lock up to making some active or giving up. -/
def Vacant : Progress → Prop
  | .building | .announcing _ | .publishing _ | .leaving (.error _) => True
  | _ => False

/-- Tables that only their builder has. -/
def unpublished? : Progress → Option Snapshot
  | .announcing t | .publishing t => some t
  | _ => none

/-- The answer that a caller has or leaves with. -/
def answer? : Progress → Option (Except LoadError Snapshot)
  | .leaving answer | .answered answer => some answer
  | _ => none

theorem Vacant.locked {p : Progress} (h : p.Vacant) : p.Locked := by
  cases p with
  | building | announcing | publishing | leaving => trivial
  | asking | waiting | lookingAgain | taking | answered => cases h

theorem vacant_of_unpublished {p : Progress} {t : Snapshot} (h : p.unpublished? = some t) :
    p.Vacant := by
  cases p with
  | announcing | publishing => trivial
  | asking | waiting | lookingAgain | building | taking | leaving | answered => cases h

end Progress

namespace Happening

variable {ι : Type}

def built? : Happening ι → Option Snapshot
  | built _ t => some t
  | _ => none

def published? : Happening ι → Option Snapshot
  | published _ t => some t
  | _ => none

end Happening

namespace FirstUse

variable {ι : Type} [DecidableEq ι] {sources : ι → Source} {r : FirstUse ι} {i : ι}

@[simp] theorem moveTo_session (r : FirstUse ι) (i : ι) (p : Progress) :
    (r.moveTo i p).session = r.session := rfl

@[simp] theorem moveTo_lock (r : FirstUse ι) (i : ι) (p : Progress) :
    (r.moveTo i p).lock = r.lock := rfl

@[simp] theorem moveTo_self (r : FirstUse ι) (i : ι) (p : Progress) :
    (r.moveTo i p).progress i = p := if_pos rfl

@[simp] theorem moveTo_of_ne (r : FirstUse ι) {i j : ι} (p : Progress) (h : j ≠ i) :
    (r.moveTo i p).progress j = r.progress j := if_neg h

@[simp] theorem moveTo_progress_moveTo (r : FirstUse ι) (s : Session) (lock : Option ι) (i : ι)
    (p q : Progress) : FirstUse.moveTo ⟨s, lock, (r.moveTo i p).progress⟩ i q =
      FirstUse.moveTo ⟨s, lock, r.progress⟩ i q := by
  unfold moveTo
  congr
  funext j
  by_cases h : j = i <;> simp [h]

@[simp] theorem moveTo_moveTo (r : FirstUse ι) (i : ι) (p q : Progress) :
    (r.moveTo i p).moveTo i q = r.moveTo i q :=
  moveTo_progress_moveTo r r.session r.lock i p q

/-- What holds of all callers after one of them has moved. -/
theorem forall_moveTo {P : ι → Progress → Prop} {p : Progress} (hi : P i p)
    (hothers : ∀ j, j ≠ i → P j (r.progress j)) (j : ι) : P j ((r.moveTo i p).progress j) := by
  by_cases hj : j = i
  · rw [hj, moveTo_self]
    exact hi
  · rw [moveTo_of_ne r p hj]
    exact hothers j hj

/-- A step is a matter of one caller alone. -/
theorem step_progress_of_ne (sources : ι → Source) (r : FirstUse ι) {i j : ι} (h : i ≠ j) :
    (r.step sources j).2.progress i = r.progress i := by
  unfold step
  cases r.progress j with
  | asking | lookingAgain | announcing | leaving => exact moveTo_of_ne _ _ h
  | waiting | building | publishing =>
    dsimp only
    split <;> simp [h]
  | taking locked =>
    dsimp only
    split
    · rfl
    · exact moveTo_of_ne _ _ h
  | answered => rfl

/-- Who has the lock, and what the callers may rely on. -/
structure Invariant (r : FirstUse ι) : Prop where
  holder : ∀ i, (r.progress i).Locked ↔ r.lock = some i
  vacant : ∀ i, (r.progress i).Vacant → r.session.active = none
  found : ∀ i locked, r.progress i = .taking locked → r.session.active.isSome = true
  got : ∀ i t, (r.progress i).answer? = some (.ok t) → r.session.active = some t

/-- A step that leaves the active tables alone. -/
theorem Invariant.moveTo (h : Invariant r) {s : Session} {lock : Option ι} {p : Progress}
    (hs : s.active = r.session.active) (hothers : ∀ j, j ≠ i → (lock = some j ↔ r.lock = some j))
    (hlock : p.Locked ↔ lock = some i) (hvacant : p.Vacant → r.session.active = none)
    (hfound : ∀ locked, p = .taking locked → r.session.active.isSome = true)
    (hgot : ∀ t, p.answer? = some (.ok t) → r.session.active = some t) :
    Invariant (FirstUse.moveTo ⟨s, lock, r.progress⟩ i p) where
  holder := by
    apply forall_moveTo (P := fun j q => q.Locked ↔ lock = some j) hlock
    intro j hj
    exact (h.holder j).trans (hothers j hj).symm
  vacant := by
    apply forall_moveTo (P := fun _ q => q.Vacant → s.active = none)
    · exact fun hp => hs.trans (hvacant hp)
    · exact fun j _ hp => hs.trans (h.vacant j hp)
  found := by
    apply forall_moveTo (P := fun _ q => ∀ locked, q = .taking locked → s.active.isSome = true)
    · rwa [hs]
    · intro j _
      rw [hs]
      exact h.found j
  got := by
    apply forall_moveTo (P := fun _ q => ∀ t, q.answer? = some (.ok t) → s.active = some t)
    · exact fun t hp => hs.trans (hgot t hp)
    · exact fun j _ t hp => hs.trans (h.got j t hp)

/-- The step that makes tables active. All other callers are outside the lock and have no answer. -/
theorem Invariant.publish (h : Invariant r) {t : Snapshot} (hi : (r.progress i).Locked)
    (hnone : r.session.active = none) :
    Invariant (FirstUse.moveTo ⟨{ r.session with active := some t }, r.lock, r.progress⟩ i
      (.taking true)) where
  holder := by
    apply forall_moveTo (P := fun j q => q.Locked ↔ r.lock = some j)
    · exact iff_of_true trivial ((h.holder i).1 hi)
    · exact fun j _ => h.holder j
  vacant := by
    apply forall_moveTo (P := fun _ q => q.Vacant → some t = none)
    · exact False.elim
    · intro j hj hp
      have hother := (h.holder j).1 hp.locked
      rw [(h.holder i).1 hi] at hother
      exact absurd (Option.some.inj hother).symm hj
  found := fun _ _ _ => rfl
  got := by
    apply forall_moveTo (P := fun _ q => ∀ u, q.answer? = some (.ok u) → some t = some u)
    · simp [Progress.answer?]
    · intro j _ u hp
      have hgot := h.got j u hp
      rw [hnone] at hgot
      cases hgot

theorem Invariant.step (h : Invariant r) (sources : ι → Source) (i : ι) :
    Invariant (r.step sources i).2 := by
  have hlocked := h.holder i
  have hvacant := h.vacant i
  have hfound := h.found i
  have hgot := h.got i
  have hsame : ∀ j, j ≠ i → (r.lock = some j ↔ r.lock = some j) := fun _ _ => Iff.rfl
  unfold FirstUse.step
  cases hp : r.progress i with
  | asking =>
    rw [hp] at hlocked
    dsimp only
    split
    · next hsome =>
      exact h.moveTo rfl hsame hlocked False.elim (fun _ _ => hsome) (by simp [Progress.answer?])
    · exact h.moveTo rfl hsame hlocked False.elim (by simp) (by simp [Progress.answer?])
  | waiting =>
    dsimp only
    split
    · exact h
    · next hfree =>
      have hinside : Progress.lookingAgain.Locked ↔ some i = some i := iff_of_true trivial rfl
      refine h.moveTo rfl ?_ hinside False.elim (by simp) (by simp [Progress.answer?])
      intro j hj
      simp [hfree, hj.symm]
  | lookingAgain =>
    rw [hp] at hlocked
    dsimp only
    split
    · next hsome =>
      exact h.moveTo rfl hsame hlocked False.elim (fun _ _ => hsome) (by simp [Progress.answer?])
    · next hnone =>
      exact h.moveTo rfl hsame hlocked (fun _ => by simpa using hnone) (by simp)
        (by simp [Progress.answer?])
  | building =>
    rw [hp] at hlocked hvacant
    have hnone := hvacant trivial
    dsimp only
    have hactive := Session.load_active r.session (sources i)
    split
    · next e s hload =>
      rw [hload] at hactive
      exact h.moveTo hactive hsame hlocked (fun _ => hnone) (by simp) (by simp [Progress.answer?])
    · next t s hload =>
      rw [hload] at hactive
      exact h.moveTo hactive hsame hlocked (fun _ => hnone) (by simp) (by simp [Progress.answer?])
  | announcing t =>
    rw [hp] at hlocked hvacant
    have hreport := Session.sameTables_report r.session [t.tables.installedEvent]
    exact h.moveTo hreport.active hsame hlocked (fun _ => hvacant trivial) (by simp)
      (by simp [Progress.answer?])
  | publishing t =>
    rw [hp] at hlocked hvacant
    rw [hvacant trivial]
    exact h.publish (by rw [hp]; trivial) (hvacant trivial)
  | taking locked =>
    rw [hp] at hlocked
    obtain ⟨t, ht⟩ := Option.isSome_iff_exists.1 (hfound locked hp)
    rw [ht]
    dsimp only
    cases locked with
    | true =>
      refine h.moveTo rfl hsame hlocked False.elim (by simp) ?_
      intro u hu
      cases hu
      exact ht
    | false =>
      refine h.moveTo rfl hsame hlocked False.elim (by simp) ?_
      intro u hu
      cases hu
      exact ht
  | leaving answer =>
    rw [hp] at hlocked hvacant hgot
    have hlock := hlocked.1 trivial
    refine h.moveTo rfl ?_ (by simp [Progress.Locked]) False.elim (by simp) ?_
    · intro j hj
      simp [hlock, hj.symm]
    · intro t ht
      exact hgot t ht
  | answered answer => exact h

omit [DecidableEq ι] in
/-- Nobody has looked for tables yet. -/
theorem invariant_start (s : Session) : Invariant ({ session := s } : FirstUse ι) := by
  constructor <;> simp [Progress.Locked, Progress.Vacant, Progress.answer?]

theorem Invariant.move (h : Invariant r) (sources : ι → Source) (m : Move ι) :
    Invariant (r.move sources m).2 := by
  cases m with
  | caller i => exact h.step sources i
  | files files => exact ⟨h.holder, h.vacant, h.found, h.got⟩

theorem Invariant.run (h : Invariant r) (sources : ι → Source) (ms : List (Move ι)) :
    Invariant (r.run sources ms).2 := by
  induction ms generalizing r with
  | nil => exact h
  | cons m ms ih => exact ih (h.move sources m)

/-- Tables that were built: the active ones, or else those of the caller that has the lock. -/
def made? (r : FirstUse ι) : Option Snapshot :=
  r.session.active.or (r.lock.bind fun i => (r.progress i).unpublished?)

theorem active_step (sources : ι → Source) (r : FirstUse ι) (i : ι) :
    (r.step sources i).2.session.active.toList = r.session.active.toList ++
      (r.step sources i).1.toList.filterMap Happening.published? := by
  unfold step
  cases hp : r.progress i with
  | asking | lookingAgain | leaving | answered => simp
  | waiting =>
    dsimp only
    split <;> simp
  | building =>
    have hactive := Session.load_active r.session (sources i)
    dsimp only
    split
    · next hload =>
      rw [hload] at hactive
      dsimp only at hactive
      simp [hactive]
    · next hload =>
      rw [hload] at hactive
      dsimp only at hactive
      simp [hactive, Happening.published?]
  | announcing t =>
    have hreport := Session.sameTables_report r.session [t.tables.installedEvent]
    simp [hreport.active]
  | publishing t =>
    dsimp only
    split
    · simp
    · next hnone => simp [hnone, Happening.published?]
  | taking locked =>
    dsimp only
    split
    · simp
    · simp

theorem active_run (sources : ι → Source) (r : FirstUse ι) (ms : List (Move ι)) :
    (r.run sources ms).2.session.active.toList = r.session.active.toList ++
      (r.run sources ms).1.filterMap Happening.published? := by
  induction ms generalizing r with
  | nil => simp [run]
  | cons m ms ih =>
    have hmove : (r.move sources m).2.session.active.toList = r.session.active.toList ++
        (r.move sources m).1.toList.filterMap Happening.published? := by
      cases m with
      | caller i => exact active_step sources r i
      | files files => simp [move]
    rw [run, List.filterMap_append, ← List.append_assoc, ← hmove]
    exact ih (r.move sources m).2

theorem made?_moveTo {s : Session} {p : Progress} (hs : s.active = r.session.active)
    (hp : p.unpublished? = (r.progress i).unpublished?) :
    (FirstUse.moveTo ⟨s, r.lock, r.progress⟩ i p).made? = r.made? := by
  unfold made?
  rw [moveTo_session, moveTo_lock, hs]
  cases hlock : r.lock with
  | none => rfl
  | some j =>
    by_cases hj : j = i
    · subst hj
      simp [hp]
    · simp [hj]

/-- Tables are only built where there are none, built or active. -/
theorem Invariant.made_step (h : Invariant r) (sources : ι → Source) (i : ι) :
    (r.step sources i).2.made?.toList = r.made?.toList ++
      (r.step sources i).1.toList.filterMap Happening.built? := by
  have hholder := h.holder i
  have hvacant := h.vacant i
  have hquiet : ∀ {s : Session} {p : Progress}, s.active = r.session.active →
      p.unpublished? = (r.progress i).unpublished? →
      (FirstUse.moveTo ⟨s, r.lock, r.progress⟩ i p).made?.toList = r.made?.toList ++ [] := by
    intro s p hs hp
    rw [made?_moveTo hs hp, List.append_nil]
  unfold FirstUse.step
  cases hp : r.progress i with
  | asking | lookingAgain =>
    apply hquiet rfl
    rw [hp]
    split <;> rfl
  | waiting =>
    dsimp only
    split
    · simp
    · next hfree => simp [made?, hfree, Progress.unpublished?]
  | building =>
    rw [hp] at hholder hvacant
    have hlock := hholder.1 trivial
    have hactive := Session.load_active r.session (sources i)
    have hnone : r.made? = none := by
      simp [made?, hvacant trivial, hlock, hp, Progress.unpublished?]
    rw [hvacant trivial] at hactive
    dsimp only
    split
    · next hload =>
      rw [hload] at hactive
      dsimp only at hactive
      rw [hnone]
      simp [made?, hactive, hlock, Progress.unpublished?]
    · next hload =>
      rw [hload] at hactive
      dsimp only at hactive
      rw [hnone]
      simp [made?, hactive, hlock, Progress.unpublished?, Happening.built?]
  | announcing t =>
    have hreport := Session.sameTables_report r.session [t.tables.installedEvent]
    exact hquiet hreport.active (by rw [hp]; rfl)
  | publishing t =>
    rw [hp] at hholder hvacant
    rw [hvacant trivial]
    simp [made?, hvacant trivial, hholder.1 trivial, hp, Progress.unpublished?, Happening.built?]
  | taking locked =>
    dsimp only
    split
    · simp
    · cases locked with
      | true => exact hquiet rfl (by rw [hp]; rfl)
      | false => exact hquiet rfl (by rw [hp]; rfl)
  | leaving answer =>
    rw [hp] at hholder
    simp [made?, hholder.1 trivial, hp, Progress.unpublished?]
  | answered answer => simp

theorem Invariant.made_run (h : Invariant r) (sources : ι → Source) (ms : List (Move ι)) :
    (r.run sources ms).2.made?.toList = r.made?.toList ++
      (r.run sources ms).1.filterMap Happening.built? := by
  induction ms generalizing r with
  | nil => simp [FirstUse.run]
  | cons m ms ih =>
    have hmove : (r.move sources m).2.made?.toList = r.made?.toList ++
        (r.move sources m).1.toList.filterMap Happening.built? := by
      cases m with
      | caller i => exact h.made_step sources i
      | files files => simp [FirstUse.move, made?]
    rw [FirstUse.run, List.filterMap_append, ← List.append_assoc, ← hmove]
    exact ih (h.move sources m)

/-- A caller has an error only from its own failed build. -/
theorem answer_of_step {e : LoadError} {j : ι}
    (h : ((r.step sources j).2.progress i).answer? = some (.error e)) :
    (r.progress i).answer? = some (.error e) ∨
      i = j ∧ r.progress i = .building ∧ (r.session.load (sources i)).1 = .error e := by
  by_cases hij : i = j
  · subst hij
    unfold step at h
    cases hp : r.progress i with
    | asking | lookingAgain =>
      rw [hp] at h
      dsimp only at h
      split at h <;> simp [Progress.answer?] at h
    | waiting =>
      rw [hp] at h
      dsimp only at h
      split at h
      · rw [hp] at h
        cases h
      · simp [Progress.answer?] at h
    | building =>
      rw [hp] at h
      dsimp only at h
      split at h
      · next hload =>
        rw [hload]
        simp only [moveTo_self, Progress.answer?, Option.some.injEq] at h
        exact Or.inr ⟨rfl, rfl, h⟩
      · simp [Progress.answer?] at h
    | announcing t =>
      rw [hp] at h
      simp [Progress.answer?] at h
    | publishing t =>
      rw [hp] at h
      dsimp only at h
      split at h <;> simp [Progress.answer?] at h
    | taking locked =>
      rw [hp] at h
      dsimp only at h
      split at h
      · rw [hp] at h
        cases h
      · cases locked <;> simp [Progress.answer?] at h
    | leaving answer =>
      rw [hp] at h
      simp only [moveTo_self] at h
      exact Or.inl h
    | answered answer =>
      rw [hp] at h
      simp only [hp] at h
      exact Or.inl h
  · left
    rwa [step_progress_of_ne sources r hij] at h

theorem answer_of_run {e : LoadError} {ms : List (Move ι)}
    (h : ((r.run sources ms).2.progress i).answer? = some (.error e)) :
    (r.progress i).answer? = some (.error e) ∨
      ∃ earlier later, ms = earlier ++ .caller i :: later ∧
        (r.run sources earlier).2.progress i = .building ∧
        ((r.run sources earlier).2.session.load (sources i)).1 = .error e := by
  induction ms generalizing r with
  | nil => exact Or.inl h
  | cons m ms ih =>
    rcases ih h with hanswer | ⟨earlier, later, hms, hbuilds, hfails⟩
    · cases m with
      | files files => exact Or.inl hanswer
      | caller j =>
        rcases answer_of_step hanswer with hbefore | ⟨rfl, hbuilds, hfails⟩
        · exact Or.inl hbefore
        · exact Or.inr ⟨[], ms, rfl, hbuilds, hfails⟩
    · refine Or.inr ⟨m :: earlier, later, ?_, hbuilds, hfails⟩
      rw [hms, List.cons_append]

theorem run_caller (sources : ι → Source) (r : FirstUse ι) (i : ι) (n : ℕ) :
    (r.run sources (List.replicate (n + 1) (.caller i))).2 =
      ((r.step sources i).2.run sources (List.replicate n (.caller i))).2 := rfl

theorem run_answered {answer : Except LoadError Snapshot} (h : r.progress i = .answered answer)
    (n : ℕ) : (r.run sources (List.replicate n (.caller i))).2 = r := by
  induction n with
  | zero => rfl
  | succ n ih =>
    have hstep : (r.step sources i).2 = r := by
      rw [step, h]
    rw [run_caller, hstep, ih]

/-- A caller that waits while nobody has the lock does all that is left by itself. -/
theorem run_waiting (hlock : r.lock = none) (h : r.progress i = .waiting) (n : ℕ) :
    (r.run sources (List.replicate (n + 7) (.caller i))).2 =
      FirstUse.moveTo ⟨(r.session.ensure (sources i)).2, none, r.progress⟩ i
        (.answered (r.session.ensure (sources i)).1) := by
  cases hactive : r.session.active with
  | some t =>
    rw [Session.ensure_of_active hactive]
    simp [run_caller, step, h, hlock, hactive, run_answered]
  | none =>
    have hload := Session.load_active r.session (sources i)
    rcases hmade : r.session.load (sources i) with ⟨e | t, s⟩
    · rw [Session.ensure_of_load_error hactive hmade]
      simp [run_caller, step, h, hlock, hactive, hmade, run_answered]
    · rw [Session.ensure_of_load_ok hactive hmade, Session.install]
      rw [hmade, hactive] at hload
      have hnone : (s.report [t.tables.installedEvent]).active = none :=
        (Session.sameTables_report s _).active.trans hload
      simp [run_caller, step, h, hlock, hactive, hmade, hnone, run_answered]

/-- A caller that nobody gets in the way of has the answer of a call by itself, and leaves the
session as such a call does. -/
theorem run_alone (hlock : r.lock = none)
    (h : r.progress i = .asking ∨ r.progress i = .waiting) (n : ℕ) :
    (r.run sources (List.replicate (n + 8) (.caller i))).2 =
      FirstUse.moveTo ⟨(r.session.ensure (sources i)).2, none, r.progress⟩ i
        (.answered (r.session.ensure (sources i)).1) := by
  rcases h with h | h
  · cases hactive : r.session.active with
    | some t =>
      rw [Session.ensure_of_active hactive, ← hlock]
      simp [run_caller, step, h, hactive, run_answered]
    | none =>
      have hstep : (r.step sources i).2 = r.moveTo i .waiting := by
        simp [step, h, hactive]
      rw [run_caller, hstep, run_waiting (r := r.moveTo i .waiting) hlock (moveTo_self r i _) n]
      simp
  · exact run_waiting hlock h (n + 1)

theorem run_alone_builds {t : Snapshot} (hactive : r.session.active = none) (hlock : r.lock = none)
    (h : r.progress i = .asking ∨ r.progress i = .waiting)
    (hload : (r.session.load (sources i)).1 = .ok t) (n : ℕ) :
    (r.run sources (List.replicate (n + 8) (.caller i))).2.progress i = .answered (.ok t) ∧
      (r.run sources (List.replicate (n + 8) (.caller i))).2.session.active = some t := by
  rcases hmade : r.session.load (sources i) with ⟨e | made, s⟩
  · rw [hmade] at hload
    cases hload
  · rw [hmade] at hload
    cases hload
    rw [run_alone hlock h, Session.ensure_of_load_ok hactive hmade]
    exact ⟨moveTo_self _ i _, rfl⟩

theorem run_files (sources : ι → Source) (r : FirstUse ι) (files : Files) (ms : List (Move ι)) :
    (r.run sources (.files files :: ms)).2 =
      (FirstUse.run sources { r with session := { r.session with files := files } } ms).2 := rfl

/-- There are no tables and nobody is about to make any, and any other caller can: if its source
can be loaded from the files that there are by then, it builds. -/
structure Reopened (sources : ι → Source) (r : FirstUse ι) : Prop where
  active : r.session.active = none
  lock : r.lock = none
  builds : ∀ j files t, r.progress j = .asking ∨ r.progress j = .waiting →
    ({ r.session with files := files }.load (sources j)).1 = .ok t →
    let later := (r.run sources (.files files :: List.replicate 8 (.caller j))).2
    later.progress j = .answered (.ok t) ∧ later.session.active = some t

theorem reopened_of_none (hactive : r.session.active = none) (hlock : r.lock = none) :
    Reopened sources r := by
  refine ⟨hactive, hlock, ?_⟩
  intro j files t hj hload
  dsimp only
  rw [run_files]
  apply run_alone_builds
  · exact hactive
  · exact hlock
  · exact hj
  · exact hload

theorem Invariant.reopened (h : Invariant r) {e : LoadError}
    (hi : r.progress i = .leaving (.error e)) : Reopened sources (r.step sources i).2 := by
  have hactive : r.session.active = none := h.vacant i (by rw [hi]; trivial)
  have hstep : (r.step sources i).2 =
      FirstUse.moveTo ⟨r.session, none, r.progress⟩ i (.answered (.error e)) := by
    rw [FirstUse.step, hi]
  rw [hstep]
  exact reopened_of_none hactive rfl

theorem length_le_one {α : Type} {o : Option α} {before new : List α}
    (h : o.toList = before ++ new) : new.length ≤ 1 := by
  have hle : o.toList.length ≤ 1 := Option.length_toList_le
  rw [h, List.length_append] at hle
  omega

/-- What there is to say of first uses at the same time: from the moves `ms`, what happened along
them and the state `r` they lead to. -/
structure BuildsOnce (sources : ι → Source) (s : Session) (ms : List (Move ι))
    (happenings : List (Happening ι)) (r : FirstUse ι) : Prop where
  builds : (happenings.filterMap Happening.built?).length ≤ 1
  publications : (happenings.filterMap Happening.published?).length ≤ 1
  /-- Whoever gets tables gets the active ones: those there were, or the only ones built. -/
  shared : ∀ i t, (r.progress i).answer? = some (.ok t) → r.session.active = some t ∧
    (s.active = some t ∨ happenings.filterMap Happening.built? = [t] ∧
      happenings.filterMap Happening.published? = [t])
  /-- Whoever gets an error could not build while there were no tables. -/
  failures : ∀ i e, (r.progress i).answer? = some (.error e) →
    ∃ earlier later, ms = earlier ++ .caller i :: later ∧
      let met := (({ session := s } : FirstUse ι).run sources earlier).2
      met.progress i = .building ∧ met.session.active = none ∧
        (met.session.load (sources i)).1 = .error e
  /-- As it leaves with its error, others may still build. -/
  retry : ∀ i e, r.progress i = .leaving (.error e) → Reopened sources (r.step sources i).2

theorem buildsOnce_run (sources : ι → Source) (s : Session) (ms : List (Move ι)) :
    BuildsOnce sources s ms (({ session := s } : FirstUse ι).run sources ms).1
      (({ session := s } : FirstUse ι).run sources ms).2 := by
  have hstart : Invariant ({ session := s } : FirstUse ι) := invariant_start s
  have hend := hstart.run sources ms
  have hpublished := active_run sources { session := s } ms
  have hbuilt := hstart.made_run sources ms
  have hstartMade : ({ session := s } : FirstUse ι).made? = s.active := Option.or_none
  rw [hstartMade] at hbuilt
  refine ⟨length_le_one hbuilt, length_le_one hpublished, ?_, ?_, ?_⟩
  · intro i t hi
    have hactive := hend.got i t hi
    refine ⟨hactive, ?_⟩
    rw [hactive] at hpublished
    rw [made?, hactive] at hbuilt
    cases hs : s.active with
    | some old =>
      rw [hs] at hpublished
      have hold : t = old := by simpa using congrArg List.head? hpublished
      exact Or.inl (congrArg some hold.symm)
    | none =>
      rw [hs] at hpublished hbuilt
      exact Or.inr ⟨hbuilt.symm, hpublished.symm⟩
  · intro i e hi
    rcases answer_of_run hi with hanswer | ⟨earlier, later, hms, hbuilds, hfails⟩
    · cases hanswer
    · have hmet := hstart.run sources earlier
      exact ⟨earlier, later, hms, hbuilds, hmet.vacant i (by rw [hbuilds]; trivial), hfails⟩
  · intro i e hi
    exact hend.reopened hi

/-- The first of three callers looks in a directory that is not there. -/
def threeSources (i : Fin 3) : Source :=
  .directory (if i = 0 then "missing" else "d")

def threeFiles : Files :=
  (({} : Files).writeBytes "d/iban-formats.txt"
    "Norway\t15\t11n\tNOkk bbbb cccc ccx\n".toByteArray).writeBytes "d/iso4217-currencies.txt"
    "NOK\t578\tKrone\tNorway\n".toByteArray

/-- All three look before any of them has the lock. The first has it first and fails; the other two
wait for it, and for each other. -/
def threeMoves : List (Move (Fin 3)) :=
  [0, 1, 2, 0, 1, 0, 2, 0, 0, 1, 2, 1, 1, 1, 1, 2, 1, 1, 2, 2, 2, 2].map .caller

theorem buildsOnce_threeMoves :
    ∃ t e, let r := (FirstUse.run threeSources { session := { files := threeFiles } } threeMoves).2
      (r.progress 0).answer? = some (.error e) ∧ (r.progress 1).answer? = some (.ok t) ∧
        (r.progress 2).answer? = some (.ok t) := by
  have hlaws := buildsOnce_run threeSources { files := threeFiles } threeMoves
  have hshape : ([0, 1, 2].map fun i =>
      ((FirstUse.run threeSources { session := { files := threeFiles } } threeMoves).2.progress
        i).answer?.map fun answer => answer.toOption.isSome) =
      [some false, some true, some true] := by
    decide +kernel
  simp only [List.map_cons, List.map_nil, List.cons.injEq, Option.map_eq_some_iff] at hshape
  obtain ⟨⟨e | _, hfirst, hno⟩, ⟨_ | t, hsecond, hyes⟩, ⟨_ | u, hthird, hyes'⟩, -⟩ := hshape
  · cases hyes
  · cases hyes
  · cases hyes'
  · -- Both have the active tables.
    have ht := (hlaws.shared 1 t hsecond).1
    rw [(hlaws.shared 2 u hthird).1] at ht
    cases ht
    exact ⟨t, e, hfirst, hsecond, hthird⟩
  · cases hno
  · cases hno
  · cases hno
  · cases hno

end FirstUse

end FieldFormats
