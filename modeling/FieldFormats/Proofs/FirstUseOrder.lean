import FieldFormats.Proofs.FirstBuild
/-! # First uses one after the other

Calls whose steps mix come out as if they had been made one after the other, in the order in which
they take effect. A build takes effect as its tables become active or as it fails, and any other
call as it takes the tables it has found. -/
namespace FieldFormats

namespace Session

theorem ensureRepeatedly_succ {s t u : Session} {source : Source} {n : ℕ}
    {answers : List (Except LoadError Snapshot)} {answer : Except LoadError Snapshot}
    (h : s.ensureRepeatedly source n = (answers, t)) (k : t.ensure source = (answer, u)) :
    s.ensureRepeatedly source (n + 1) = (answers ++ [answer], u) := by
  induction n generalizing s answers with
  | zero =>
    cases h
    simp only [ensureRepeatedly, k]
    rfl
  | succ n ih =>
    rw [ensureRepeatedly] at h ⊢
    rcases hfirst : s.ensure source with ⟨first, v⟩
    rcases hrest : v.ensureRepeatedly source n with ⟨rest, w⟩
    rw [hfirst] at h
    dsimp only at h ⊢
    rw [hrest] at h
    cases h
    rw [ih hrest]
    rfl

end Session

namespace FirstUse

variable {ι : Type}

/-- Calls one after the other: who called and what the answer was, and the session at the end. -/
inductive InTurn (sources : ι → Source) (s : Session) :
    List (ι × Except LoadError Snapshot) → Session → Prop where
  | start : InTurn sources s [] s
  | call {log t} (before : InTurn sources s log t) (i : ι) {answer u}
      (ensure : t.ensure (sources i) = (answer, u)) : InTurn sources s (log ++ [(i, answer)]) u

/-- If all callers ask for the same source, only the number of the calls matters. -/
theorem InTurn.ensureRepeatedly {log : List (ι × Except LoadError Snapshot)} {source : Source}
    {s t : Session} (h : InTurn (fun _ => source) s log t) :
    s.ensureRepeatedly source log.length = (log.map (·.2), t) := by
  induction h with
  | start => rfl
  | call _ i ensure ih =>
    rw [List.length_append, List.map_append]
    exact Session.ensureRepeatedly_succ ih ensure

/-- How the session differs from the one that the calls so far leave behind: one caller at most has
tables that are not active yet. -/
structure Behind (sources : ι → Source) (t : Session) (r : FirstUse ι) : Prop where
  settled : (∀ i, (r.progress i).unpublished? = none) → r.session = t
  announcing : ∀ i made, r.progress i = .announcing made →
    t.load (sources i) = (.ok made, r.session)
  publishing : ∀ i made, r.progress i = .publishing made →
    ∃ u, t.load (sources i) = (.ok made, u) ∧ r.session = u.report [made.tables.installedEvent]

/-- An answer that a caller has, or is about to take. -/
def Due (r : FirstUse ι) (i : ι) (answer : Except LoadError Snapshot) : Prop :=
  (r.progress i).answer? = some answer ∨
    ∃ locked t, r.progress i = .taking locked ∧ r.session.active = some t ∧ answer = .ok t

/-- The calls that have taken effect, in order. -/
structure Logged (sources : ι → Source) (s : Session) (r : FirstUse ι)
    (log : List (ι × Except LoadError Snapshot)) : Prop where
  invariant : Invariant r
  inTurn : ∃ t, InTurn sources s log t ∧ Behind sources t r
  once : (log.map (·.1)).Nodup
  due : ∀ i answer, (i, answer) ∈ log → r.Due i answer
  complete : ∀ i answer, (r.progress i).answer? = some answer → (i, answer) ∈ log

variable {sources : ι → Source} {s t : Session} {r : FirstUse ι} {i : ι}
  {log : List (ι × Except LoadError Snapshot)}

theorem Behind.of_unpublished (hnone : ∀ i, (r.progress i).unpublished? = none)
    (hsession : r.session = t) : Behind sources t r := by
  constructor
  · exact fun _ => hsession
  · intro i made hi
    have := hnone i
    rw [hi] at this
    cases this
  · intro i made hi
    have := hnone i
    rw [hi] at this
    cases this

theorem Invariant.unpublished_of_locked (h : Invariant r) (hi : (r.progress i).Locked) {j : ι}
    (hj : j ≠ i) : (r.progress j).unpublished? = none := by
  cases hmade : (r.progress j).unpublished? with
  | none => rfl
  | some made =>
    have hlocked := (h.holder j).1 (Progress.vacant_of_unpublished hmade).locked
    rw [(h.holder i).1 hi] at hlocked
    exact absurd (Option.some.inj hlocked).symm hj

theorem Invariant.unpublished_of_active (h : Invariant r) {a : Snapshot}
    (hactive : r.session.active = some a) (j : ι) : (r.progress j).unpublished? = none := by
  cases hmade : (r.progress j).unpublished? with
  | none => rfl
  | some made =>
    have hnone := h.vacant j (Progress.vacant_of_unpublished hmade)
    rw [hactive] at hnone
    cases hnone

/-- A call that has not got far is not among those that have taken effect. -/
theorem Logged.absent (h : Logged sources s r log) (hanswer : (r.progress i).answer? = none)
    (htaking : ∀ locked, r.progress i ≠ .taking locked) (answer : Except LoadError Snapshot) :
    (i, answer) ∉ log := by
  intro hmem
  rcases h.due i answer hmem with hdue | ⟨locked, t, hi, -⟩
  · rw [hanswer] at hdue
    cases hdue
  · exact htaking locked hi

variable [DecidableEq ι]

theorem Behind.moveTo (h : Behind sources t r) {lock : Option ι} {p : Progress}
    (hold : (r.progress i).unpublished? = none) (hnew : p.unpublished? = none) :
    Behind sources t (FirstUse.moveTo ⟨r.session, lock, r.progress⟩ i p) where
  settled hnone := by
    apply h.settled
    intro j
    by_cases hj : j = i
    · rw [hj]
      exact hold
    · have hother := hnone j
      rwa [moveTo_of_ne _ p hj] at hother
  announcing := by
    apply forall_moveTo (P := fun j q => ∀ made, q = .announcing made →
      t.load (sources j) = (.ok made, r.session))
    · rintro made rfl
      cases hnew
    · exact fun j _ => h.announcing j
  publishing := by
    apply forall_moveTo (P := fun j q => ∀ made, q = .publishing made →
      ∃ u, t.load (sources j) = (.ok made, u) ∧
        r.session = u.report [made.tables.installedEvent])
    · rintro made rfl
      cases hnew
    · exact fun j _ => h.publishing j

/-- The caller that moves has the only tables that are not active yet. -/
theorem Behind.of_own {u : Session} {lock : Option ι} {p : Progress}
    (hothers : ∀ j, j ≠ i → (r.progress j).unpublished? = none) (hown : p.unpublished? ≠ none)
    (hannouncing : ∀ made, p = .announcing made → t.load (sources i) = (.ok made, u))
    (hpublishing : ∀ made, p = .publishing made →
      ∃ v, t.load (sources i) = (.ok made, v) ∧ u = v.report [made.tables.installedEvent]) :
    Behind sources t (FirstUse.moveTo ⟨u, lock, r.progress⟩ i p) where
  settled hnone := by
    have hnot := hnone i
    rw [moveTo_self] at hnot
    exact absurd hnot hown
  announcing := by
    apply forall_moveTo (P := fun j q => ∀ made, q = .announcing made →
      t.load (sources j) = (.ok made, u)) hannouncing
    intro j hj made hp
    have hother := hothers j hj
    rw [hp] at hother
    cases hother
  publishing := by
    apply forall_moveTo (P := fun j q => ∀ made, q = .publishing made →
      ∃ v, t.load (sources j) = (.ok made, v) ∧
        u = v.report [made.tables.installedEvent]) hpublishing
    intro j hj made hp
    have hother := hothers j hj
    rw [hp] at hother
    cases hother

theorem Due.moveTo {j : ι} {answer : Except LoadError Snapshot} (h : r.Due j answer)
    {u : Session} {lock : Option ι} {p : Progress} (hj : j ≠ i)
    (hactive : ∀ a, r.session.active = some a → u.active = some a) :
    (FirstUse.moveTo ⟨u, lock, r.progress⟩ i p).Due j answer := by
  unfold Due
  rw [moveTo_of_ne _ p hj]
  rcases h with hanswer | ⟨locked, a, hi, ha, hanswer⟩
  · exact Or.inl hanswer
  · exact Or.inr ⟨locked, a, hi, hactive a ha, hanswer⟩

/-- A step by which no call takes effect. -/
theorem Logged.quiet (h : Logged sources s r log) {u : Session} {lock : Option ι} {p : Progress}
    (hinvariant : Invariant (FirstUse.moveTo ⟨u, lock, r.progress⟩ i p))
    (hactive : ∀ a, r.session.active = some a → u.active = some a)
    (hbehind : ∀ t, Behind sources t r →
      Behind sources t (FirstUse.moveTo ⟨u, lock, r.progress⟩ i p))
    (hdue : ∀ answer, (i, answer) ∈ log → p.answer? = some answer)
    (hcomplete : ∀ answer, p.answer? = some answer → (i, answer) ∈ log) :
    Logged sources s (FirstUse.moveTo ⟨u, lock, r.progress⟩ i p) log where
  invariant := hinvariant
  inTurn := by
    obtain ⟨t, hturn, ht⟩ := h.inTurn
    exact ⟨t, hturn, hbehind t ht⟩
  once := h.once
  due j answer hmem := by
    by_cases hj : j = i
    · subst hj
      exact Or.inl (by rw [moveTo_self]; exact hdue answer hmem)
    · exact (h.due j answer hmem).moveTo hj hactive
  complete := by
    apply forall_moveTo (P := fun j q => ∀ answer, q.answer? = some answer → (j, answer) ∈ log)
      hcomplete
    exact fun j _ => h.complete j

/-- A step by which a call takes effect. Nobody has tables of its own then. -/
theorem Logged.effect (h : Logged sources s r log) {u : Session} {lock : Option ι} {p : Progress}
    {answer : Except LoadError Snapshot} (habsent : ∀ a, (i, a) ∉ log)
    (hinvariant : Invariant (FirstUse.moveTo ⟨u, lock, r.progress⟩ i p))
    (hactive : ∀ a, r.session.active = some a → u.active = some a)
    (hensure : ∀ t, Behind sources t r → t.ensure (sources i) = (answer, u))
    (hothers : ∀ j, j ≠ i → (r.progress j).unpublished? = none) (hp : p.unpublished? = none)
    (hdue : (FirstUse.moveTo ⟨u, lock, r.progress⟩ i p).Due i answer)
    (hcomplete : ∀ a, p.answer? = some a → a = answer) :
    Logged sources s (FirstUse.moveTo ⟨u, lock, r.progress⟩ i p) (log ++ [(i, answer)]) where
  invariant := hinvariant
  inTurn := by
    obtain ⟨t, hturn, ht⟩ := h.inTurn
    refine ⟨u, hturn.call i (hensure t ht), .of_unpublished ?_ rfl⟩
    exact forall_moveTo (P := fun _ q => q.unpublished? = none) hp hothers
  once := by
    rw [List.map_append, List.nodup_append]
    refine ⟨h.once, List.pairwise_singleton _ i, ?_⟩
    intro a ha b hb hab
    obtain ⟨⟨j, other⟩, hmem, rfl⟩ := List.mem_map.1 ha
    rw [List.mem_singleton.1 hb] at hab
    cases hab
    exact habsent other hmem
  due j other hlogged := by
    rcases List.mem_append.1 hlogged with hmem | hmem
    · have hj : j ≠ i := by
        intro hj
        rw [hj] at hmem
        exact habsent other hmem
      exact (h.due j other hmem).moveTo hj hactive
    · cases List.mem_singleton.1 hmem
      exact hdue
  complete := by
    apply forall_moveTo (P := fun j q =>
      ∀ other, q.answer? = some other → (j, other) ∈ log ++ [(i, answer)])
    · intro other hanswer
      rw [hcomplete other hanswer]
      exact List.mem_append_right log (List.mem_singleton.2 rfl)
    · intro j _ other hanswer
      exact List.mem_append_left _ (h.complete j other hanswer)

/-- A step of a caller that has found nothing yet and finds no tables of its own now. -/
theorem Logged.early (h : Logged sources s r log) {lock : Option ι} {p : Progress}
    (hinvariant : Invariant (FirstUse.moveTo ⟨r.session, lock, r.progress⟩ i p))
    (habsent : ∀ answer, (i, answer) ∉ log) (hi : (r.progress i).unpublished? = none)
    (hmade : p.unpublished? = none) (hanswer : p.answer? = none) :
    Logged sources s (FirstUse.moveTo ⟨r.session, lock, r.progress⟩ i p) log := by
  apply h.quiet hinvariant (fun _ ha => ha)
  · intro t ht
    exact ht.moveTo hi hmade
  · intro answer hmem
    exact absurd hmem (habsent answer)
  · intro answer hother
    rw [hanswer] at hother
    cases hother

/-- Each step of a caller lets one call take effect, its own, or none. -/
theorem Logged.step (h : Logged sources s r log) (i : ι) :
    ∃ more, Logged sources s (r.step sources i).2 (log ++ more) := by
  have hinvariant := h.invariant.step sources i
  have hlocked := h.invariant.holder i
  have hvacant := h.invariant.vacant i
  have habsent := h.absent (i := i)
  have hnone : ∀ {r'}, Logged sources s r' log → ∃ more, Logged sources s r' (log ++ more) := by
    intro r' hlogged
    exact ⟨[], by rwa [List.append_nil]⟩
  unfold FirstUse.step at hinvariant ⊢
  cases hi : r.progress i with
  | asking | lookingAgain =>
    rw [hi] at hinvariant habsent
    have hearly := habsent rfl (by simp)
    apply hnone
    apply h.early hinvariant hearly (by rw [hi]; rfl)
    · split <;> rfl
    · split <;> rfl
  | waiting =>
    rw [hi] at hinvariant habsent
    have hearly := habsent rfl (by simp)
    apply hnone
    dsimp only at hinvariant ⊢
    split at hinvariant
    · exact h
    · exact h.early hinvariant hearly (by rw [hi]; rfl) rfl rfl
  | building =>
    rw [hi] at hinvariant habsent hvacant
    have hearly := habsent rfl (by simp)
    have hactive : r.session.active = none := hvacant trivial
    have hothers : ∀ j, (r.progress j).unpublished? = none := by
      intro j
      by_cases hj : j = i
      · rw [hj, hi]
        rfl
      · exact h.invariant.unpublished_of_locked (by rw [hi]; trivial) hj
    dsimp only at hinvariant ⊢
    split at hinvariant
    · next e u hload =>
      refine ⟨[(i, .error e)], h.effect hearly hinvariant ?_ ?_ (fun j _ => hothers j) rfl ?_ ?_⟩
      · intro a ha
        rw [hactive] at ha
        cases ha
      · intro t ht
        rw [← ht.settled hothers]
        exact Session.ensure_of_load_error hactive hload
      · exact Or.inl (by rw [moveTo_self]; rfl)
      · intro a ha
        cases ha
        rfl
    · next made u hload =>
      apply hnone
      apply h.quiet hinvariant
      · intro a ha
        rw [hactive] at ha
        cases ha
      · intro t ht
        refine .of_own (fun j _ => hothers j) (by simp [Progress.unpublished?]) ?_ (by simp)
        rintro _ ⟨⟩
        rw [← ht.settled hothers]
        exact hload
      · intro answer hmem
        exact absurd hmem (hearly answer)
      · intro answer hanswer
        cases hanswer
  | announcing made =>
    rw [hi] at hinvariant habsent
    have hearly := habsent rfl (by simp)
    have hreport := Session.sameTables_report r.session [made.tables.installedEvent]
    apply hnone
    apply h.quiet hinvariant
    · intro a ha
      exact hreport.active.trans ha
    · intro t ht
      apply Behind.of_own
      · intro j hj
        exact h.invariant.unpublished_of_locked (by rw [hi]; trivial) hj
      · simp [Progress.unpublished?]
      · simp
      · rintro _ ⟨⟩
        exact ⟨r.session, ht.announcing i made hi, rfl⟩
    · intro answer hmem
      exact absurd hmem (hearly answer)
    · intro answer hanswer
      cases hanswer
  | publishing made =>
    rw [hi] at hinvariant habsent hvacant
    have hearly := habsent rfl (by simp)
    have hactive : r.session.active = none := hvacant trivial
    rw [hactive] at hinvariant ⊢
    refine ⟨[(i, .ok made)], h.effect hearly hinvariant ?_ ?_ ?_ rfl ?_ ?_⟩
    · intro a ha
      rw [hactive] at ha
      cases ha
    · intro t ht
      obtain ⟨u, hload, hsession⟩ := ht.publishing i made hi
      have hloadActive := Session.load_active t (sources i)
      have hreport := Session.sameTables_report u [made.tables.installedEvent]
      rw [hload, ← hreport.active, ← hsession, hactive] at hloadActive
      rw [Session.ensure_of_load_ok hloadActive.symm hload, Session.install, ← hsession]
    · intro j hj
      exact h.invariant.unpublished_of_locked (by rw [hi]; trivial) hj
    · exact Or.inr ⟨true, made, moveTo_self _ i _, rfl, rfl⟩
    · intro a ha
      cases ha
  | taking locked =>
    rw [hi] at hinvariant
    obtain ⟨a, ha⟩ := Option.isSome_iff_exists.1 (h.invariant.found i locked hi)
    rw [ha] at hinvariant ⊢
    dsimp only at hinvariant ⊢
    have hothers := h.invariant.unpublished_of_active ha
    generalize hp : (if locked = true then Progress.leaving (.ok a) else .answered (.ok a)) = p
      at hinvariant ⊢
    have hanswer : p.answer? = some (.ok a) := by
      rw [← hp]
      split <;> rfl
    have hmade : p.unpublished? = none := by
      rw [← hp]
      split <;> rfl
    by_cases hlogged : ∃ answer, (i, answer) ∈ log
    · -- The caller has made these tables active itself.
      have hsame : ∀ answer, (i, answer) ∈ log → answer = .ok a := by
        intro answer hmem
        rcases h.due i answer hmem with hdue | ⟨_, b, -, hb, hanswer⟩
        · rw [hi] at hdue
          cases hdue
        · cases ha.symm.trans hb
          exact hanswer
      apply hnone
      apply h.quiet hinvariant (fun _ hb => hb)
      · intro t ht
        exact ht.moveTo (by rw [hi]; rfl) hmade
      · intro answer hmem
        rw [hanswer, hsame answer hmem]
      · intro answer hother
        cases hanswer.symm.trans hother
        obtain ⟨other, hmem⟩ := hlogged
        rwa [hsame other hmem] at hmem
    · have hearly : ∀ answer, (i, answer) ∉ log := not_exists.1 hlogged
      refine ⟨[(i, .ok a)], h.effect hearly hinvariant (fun _ hb => hb) ?_ ?_ hmade ?_ ?_⟩
      · intro t ht
        have hsession := ht.settled hothers
        rw [hsession] at ha ⊢
        exact Session.ensure_of_active ha (sources i)
      · intro j _
        exact hothers j
      · exact Or.inl (by rw [moveTo_self]; exact hanswer)
      · intro b hb
        cases hanswer.symm.trans hb
        rfl
  | leaving answer =>
    rw [hi] at hinvariant
    have hanswer : (r.progress i).answer? = some answer := by
      rw [hi]
      rfl
    apply hnone
    apply h.quiet hinvariant (fun _ ha => ha)
    · intro t ht
      exact ht.moveTo (by rw [hi]; rfl) rfl
    · intro other hmem
      rcases h.due i other hmem with hdue | ⟨locked, t, htaking, -⟩
      · rwa [hi] at hdue
      · rw [hi] at htaking
        cases htaking
    · intro other hother
      exact h.complete i other (by rw [hi]; exact hother)
  | answered answer => exact hnone h

theorem Logged.run (h : Logged sources s r log) (is : List ι) :
    ∃ more, Logged sources s (r.run sources (is.map .caller)).2 (log ++ more) := by
  induction is generalizing r log with
  | nil => exact ⟨[], by rwa [List.append_nil]⟩
  | cons i is ih =>
    obtain ⟨more, hstep⟩ := h.step i
    obtain ⟨rest, hrun⟩ := ih hstep
    rw [List.append_assoc] at hrun
    exact ⟨more ++ rest, hrun⟩

omit [DecidableEq ι] in
theorem logged_start (sources : ι → Source) (s : Session) :
    Logged sources s { session := s } [] := by
  have hbehind : Behind sources s ({ session := s } : FirstUse ι) :=
    .of_unpublished (fun _ => rfl) rfl
  refine ⟨invariant_start s, ⟨s, .start, hbehind⟩, List.nodup_nil, ?_, ?_⟩
  · intro i answer hmem
    cases hmem
  · intro i answer hanswer
    cases hanswer

/-- Callers that have all come to an end, whatever the order of their steps, have the answers of as
many calls one after the other, and leave the session that those leave. -/
theorem run_eq_ensureRepeatedly (source : Source) (s : Session) (is : List ι) {r : FirstUse ι}
    (hrun : (({ session := s } : FirstUse ι).run (fun _ => source) (is.map .caller)).2 = r)
    (hend : ∀ i, r.progress i = .asking ∨ ∃ answer, r.progress i = .answered answer) :
    ∃ log : List (ι × Except LoadError Snapshot), (log.map (·.1)).Nodup ∧
      (∀ i answer, r.progress i = .answered answer ↔ (i, answer) ∈ log) ∧
      s.ensureRepeatedly source log.length = (log.map (·.2), r.session) := by
  obtain ⟨log, hlogged⟩ := (logged_start (fun _ => source) s).run is
  rw [hrun, List.nil_append] at hlogged
  obtain ⟨t, hturn, ht⟩ := hlogged.inTurn
  have hsettled : ∀ i, (r.progress i).unpublished? = none := by
    intro i
    rcases hend i with hi | ⟨answer, hi⟩ <;> rw [hi] <;> rfl
  refine ⟨log, hlogged.once, ?_, ?_⟩
  · intro i answer
    constructor
    · intro hi
      exact hlogged.complete i answer (by rw [hi]; rfl)
    · intro hmem
      rcases hlogged.due i answer hmem with hdue | ⟨locked, u, hi, -⟩
      · rcases hend i with hi | ⟨other, hi⟩
        · rw [hi] at hdue
          cases hdue
        · rw [hi] at hdue
          cases hdue
          exact hi
      · rcases hend i with hother | ⟨other, hother⟩ <;> cases hi.symm.trans hother
  · rw [ht.settled hsettled]
    exact hturn.ensureRepeatedly

end FirstUse

end FieldFormats
