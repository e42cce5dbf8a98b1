import FieldFormats.Proofs.FirstBuild
import FieldFormats.Session.Replacement
/-! # What replacements do to the tables

One turn of a replacement or of a use makes tables, makes some active, or leaves all as they are. A
replacement that nobody gets in the way of does what it does at once. -/
namespace FieldFormats

namespace Replacement

theorem make_cases (s : Session) (r : Replacement) :
    (∃ e t, r.make s = (.error e, t) ∧ Session.SameTables s t) ∨
      ∃ made t, r.make s = (.ok made, t) ∧ made.stamp = s.fresh ∧ t.active = s.active ∧
        t.fresh = s.fresh + 1 := by
  cases r with
  | rebuild source => exact Session.load_cases s source
  | install t => exact Or.inr ⟨_, _, rfl, rfl, rfl, rfl⟩

theorem make_active (s : Session) (r : Replacement) : (r.make s).2.active = s.active := by
  rcases make_cases s r with ⟨e, t, hmake, same⟩ | ⟨made, t, hmake, -, hactive, -⟩
  · rw [hmake]
    exact same.active
  · rw [hmake]
    exact hactive

theorem stamp_of_make {s t : Session} {r : Replacement} {made : Snapshot}
    (h : r.make s = (.ok made, t)) : made.stamp = s.fresh ∧ t.fresh = s.fresh + 1 := by
  rcases make_cases s r with ⟨e, u, hmake, -⟩ | ⟨new, u, hmake, hstamp, -, hfresh⟩
  · rw [h] at hmake
    cases hmake
  · rw [h] at hmake
    cases hmake
    exact ⟨hstamp, hfresh⟩

theorem apply_of_make_error {s t : Session} {r : Replacement} {e : LoadError}
    (h : r.make s = (.error e, t)) : r.apply s = (.error e, t) := by
  cases r with
  | rebuild source =>
    have hload : s.load source = (.error e, t) := h
    rw [apply, Session.reload, hload]
  | install t => cases h

theorem apply_of_make_ok {s t : Session} {r : Replacement} {made : Snapshot}
    (h : r.make s = (.ok made, t)) : r.apply s = (.ok made, t.install made) := by
  cases r with
  | rebuild source =>
    have hload : s.load source = (.ok made, t) := h
    rw [apply, Session.reload, hload]
  | install t =>
    cases h
    rfl

end Replacement

namespace Replacing

/-- The tables of a replacement, from making them on. -/
def tables? : Replacing → Option Snapshot
  | called | refused _ => none
  | announcing t | opening t | storing t | replaced t => some t

/-- How a replacement ends. -/
def ofResult : Except LoadError Snapshot → Replacing
  | .error e => refused e
  | .ok t => replaced t

end Replacing

namespace Write

variable {ι κ : Type}

def IsStore : Write ι κ → Prop
  | stored _ _ => True
  | used _ _ | opened _ _ => False

/-- The replacement that writes, if it is none of the uses. -/
def author? : Write ι κ → Option κ
  | used _ _ => none
  | opened k _ | stored k _ => some k

theorem IsStore.exists_eq {w : Write ι κ} (h : w.IsStore) : ∃ k, w = .stored k w.tables := by
  cases w with
  | stored k t => exact ⟨k, rfl⟩
  | used | opened => cases h

end Write

namespace FirstUse

variable {ι : Type} {r : FirstUse ι} {i : ι}

/-- All that a move of a use can do to the tables. -/
inductive Effect (r : FirstUse ι) : Option (Happening ι) → FirstUse ι → Prop where
  | keeps {r'} (same : Session.SameTables r.session r'.session)
      (users : ∀ j u, (r'.progress j).unpublished? = some u →
        (r.progress j).unpublished? = some u) : Effect r none r'
  | builds {r' i t} (stamp : t.stamp = r.session.fresh)
      (active : r'.session.active = r.session.active)
      (fresh : r'.session.fresh = r.session.fresh + 1)
      (users : ∀ j u, (r'.progress j).unpublished? = some u →
        (r.progress j).unpublished? = some u ∨ u = t) : Effect r (some (.built i t)) r'
  | publishes {r' i t} (had : (r.progress i).unpublished? = some t)
      (found : r.session.active = none) (active : r'.session.active = some t)
      (fresh : r'.session.fresh = r.session.fresh)
      (users : ∀ j u, (r'.progress j).unpublished? = some u →
        (r.progress j).unpublished? = some u) : Effect r (some (.published i t)) r'

variable [DecidableEq ι]

/-- To take tables changes none. -/
theorem move_of_taken? (sources : ι → Source) {m : Move ι} {t : Snapshot}
    (h : r.taken? m = some (i, t)) : r.session.active = some t ∧ (r.move sources m).1 = none ∧
      (r.move sources m).2.session = r.session := by
  cases m with
  | files => cases h
  | caller j =>
    unfold taken? at h
    dsimp only at h
    split at h
    · next hj =>
      obtain ⟨u, hu, heq⟩ := Option.map_eq_some_iff.1 h
      cases heq
      simp [move, step, hj, hu]
    · cases h

theorem Effect.moveTo {s : Session} {lock : Option ι} {p : Progress}
    (same : Session.SameTables r.session s)
    (hp : ∀ t, p.unpublished? = some t → (r.progress i).unpublished? = some t) :
    Effect r none (FirstUse.moveTo ⟨s, lock, r.progress⟩ i p) := by
  refine .keeps same ?_
  exact forall_moveTo (P := fun j q => ∀ u, q.unpublished? = some u →
    (r.progress j).unpublished? = some u) hp fun _ _ _ h => h

theorem effect_step (sources : ι → Source) (r : FirstUse ι) (i : ι) :
    Effect r (r.step sources i).1 (r.step sources i).2 := by
  have hsame : Session.SameTables r.session r.session := ⟨rfl, rfl⟩
  have hidle : Effect r none r := .keeps hsame fun _ _ h => h
  unfold FirstUse.step
  cases hi : r.progress i with
  | asking | lookingAgain =>
    refine .moveTo hsame ?_
    intro t ht
    split at ht <;> cases ht
  | waiting =>
    dsimp only
    split
    · exact hidle
    · refine .moveTo hsame ?_
      intro t ht
      cases ht
  | building =>
    dsimp only
    rcases Session.load_cases r.session (sources i) with
      ⟨e, s, hload, hs⟩ | ⟨made, s, hload, hstamp, hactive, hfresh⟩
    · rw [hload]
      refine .moveTo hs ?_
      intro t ht
      cases ht
    · rw [hload]
      refine .builds hstamp hactive hfresh ?_
      apply forall_moveTo (P := fun j q => ∀ u, q.unpublished? = some u →
        (r.progress j).unpublished? = some u ∨ u = made)
      · intro u hu
        exact Or.inr (Option.some.inj hu).symm
      · exact fun _ _ _ h => Or.inl h
  | announcing t =>
    refine .moveTo (Session.sameTables_report _ _) ?_
    intro u hu
    rw [hi]
    exact hu
  | publishing t =>
    dsimp only
    split
    · refine .moveTo hsame ?_
      intro u hu
      cases hu
    · next hnone =>
      refine .publishes (by rw [hi]; rfl) hnone rfl rfl ?_
      apply forall_moveTo (P := fun j q => ∀ u, q.unpublished? = some u →
        (r.progress j).unpublished? = some u)
      · intro u hu
        cases hu
      · exact fun _ _ _ h => h
  | taking locked =>
    dsimp only
    split
    · exact hidle
    · refine .moveTo hsame ?_
      intro u hu
      split at hu <;> cases hu
  | leaving answer =>
    refine .moveTo hsame ?_
    intro u hu
    cases hu
  | answered => exact hidle

theorem effect_move (sources : ι → Source) (r : FirstUse ι) (m : Move ι) :
    Effect r (r.move sources m).1 (r.move sources m).2 := by
  cases m with
  | caller i => exact effect_step sources r i
  | files files => exact .keeps ⟨rfl, rfl⟩ fun _ _ h => h

end FirstUse

namespace Exchange

variable {ι κ : Type}

def Event.write? : Event ι κ → Option (Write ι κ)
  | wrote w => some w
  | saw _ _ => none

def writes (events : List (Event ι κ)) : List (Write ι κ) := events.filterMap Event.write?

theorem writes_append (es fs : List (Event ι κ)) : writes (es ++ fs) = writes es ++ writes fs :=
  List.filterMap_append

theorem writes_wrote (w : Option (Write ι κ)) :
    writes (w.map Event.wrote).toList = w.toList := by
  cases w <;> rfl

/-- Tables that come from a replacement, or else from a use and that nobody else has yet. -/
def Has (e : Exchange ι κ) : Option κ → Snapshot → Prop
  | none, t => ∃ i, (e.uses.progress i).unpublished? = some t
  | some k, t => (e.replacing k).tables? = some t

/-- What stays as it is while no replacement starts or ends. -/
structure Kept (e e' : Exchange ι κ) : Prop where
  has : ∀ o t, e'.Has o t → e.Has o t
  tables : ∀ k t, (e.replacing k).tables? = some t → (e'.replacing k).tables? = some t
  done : ∀ k t, e'.replacing k = .replaced t ↔ e.replacing k = .replaced t

/-- All that a turn can do to the tables, and the write that comes of it. -/
inductive Effect (e : Exchange ι κ) : List (Write ι κ) → Exchange ι κ → Prop where
  | keeps {e'} (same : Session.SameTables e.session e'.session) (kept : Kept e e') :
      Effect e [] e'
  | makes {e'} (o : Option κ) (active : e'.session.active = e.session.active)
      (fresh : e'.session.fresh = e.session.fresh + 1)
      (has : ∀ p t, e'.Has p t → e.Has p t ∨ p = o ∧ t.stamp = e.session.fresh)
      (tables : ∀ k t, (e.replacing k).tables? = some t → (e'.replacing k).tables? = some t)
      (done : ∀ k t, e'.replacing k = .replaced t ↔ e.replacing k = .replaced t) : Effect e [] e'
  | opens {w e'} (opening : ¬ w.IsStore) (had : e.Has w.author? w.tables)
      (found : e.session.active = none) (active : e'.session.active = some w.tables)
      (fresh : e'.session.fresh = e.session.fresh) (kept : Kept e e') : Effect e [w] e'
  | stores {k t e'} (had : e.replacing k = .storing t) (active : e'.session.active = some t)
      (fresh : e'.session.fresh = e.session.fresh) (has : ∀ p u, e'.Has p u → e.Has p u)
      (tables : ∀ j u, (e.replacing j).tables? = some u → (e'.replacing j).tables? = some u)
      (done : ∀ j u, e'.replacing j = .replaced u ↔
        e.replacing j = .replaced u ∨ j = k ∧ u = t) : Effect e [.stored k t] e'

theorem Kept.use {e : Exchange ι κ} {uses : FirstUse ι}
    (h : ∀ j u, (uses.progress j).unpublished? = some u →
      (e.uses.progress j).unpublished? = some u) : Kept e { e with uses := uses } where
  has o t ht := by
    cases o with
    | none =>
      obtain ⟨j, hj⟩ := ht
      exact ⟨j, h j t hj⟩
    | some k => exact ht
  tables _ _ h := h
  done _ _ := Iff.rfl

section Steps

variable [DecidableEq κ] {e : Exchange ι κ} {s : Session} {k : κ} {p : Replacing}

@[simp] theorem moveTo_session (e : Exchange ι κ) (s : Session) (k : κ) (p : Replacing) :
    (e.moveTo s k p).session = s := rfl

@[simp] theorem moveTo_self (e : Exchange ι κ) (s : Session) (k : κ) (p : Replacing) :
    (e.moveTo s k p).replacing k = p := if_pos rfl

@[simp] theorem moveTo_of_ne (e : Exchange ι κ) (s : Session) {j k : κ} (p : Replacing)
    (h : j ≠ k) : (e.moveTo s k p).replacing j = e.replacing j := if_neg h

@[simp] theorem moveTo_moveTo (e : Exchange ι κ) (s t : Session) (k : κ) (p q : Replacing) :
    (e.moveTo s k p).moveTo t k q = e.moveTo t k q := by
  unfold moveTo
  congr
  funext j
  by_cases h : j = k <;> simp [h]

theorem has_moveTo {o : Option κ} {t : Snapshot} (h : (e.moveTo s k p).Has o t) :
    e.Has o t ∨ o = some k ∧ p.tables? = some t := by
  cases o with
  | none => exact Or.inl h
  | some j =>
    by_cases hj : j = k
    · subst hj
      rw [Has, moveTo_self] at h
      exact Or.inr ⟨rfl, h⟩
    · rw [Has, moveTo_of_ne e s p hj] at h
      exact Or.inl h

theorem tables_moveTo (hp : ∀ t, (e.replacing k).tables? = some t → p.tables? = some t) (j : κ)
    (t : Snapshot) (h : (e.replacing j).tables? = some t) :
    ((e.moveTo s k p).replacing j).tables? = some t := by
  by_cases hj : j = k
  · subst hj
    rw [moveTo_self]
    exact hp t h
  · rwa [moveTo_of_ne e s p hj]

theorem done_moveTo (hold : ∀ t, e.replacing k ≠ .replaced t) (hnew : ∀ t, p ≠ .replaced t)
    (j : κ) (t : Snapshot) :
    (e.moveTo s k p).replacing j = .replaced t ↔ e.replacing j = .replaced t := by
  by_cases hj : j = k
  · subst hj
    rw [moveTo_self]
    exact iff_of_false (hnew t) (hold t)
  · rw [moveTo_of_ne e s p hj]

theorem Kept.moveTo (hp : p.tables? = (e.replacing k).tables?)
    (hold : ∀ t, e.replacing k ≠ .replaced t) (hnew : ∀ t, p ≠ .replaced t) :
    Kept e (e.moveTo s k p) where
  has o t h := by
    rcases has_moveTo h with hold | ⟨rfl, hnow⟩
    · exact hold
    · exact hp.symm.trans hnow
  tables := tables_moveTo fun t ht => hp.trans ht
  done := done_moveTo hold hnew

theorem effect_step (requests : κ → Replacement) (e : Exchange ι κ) (k : κ) :
    Effect e (e.step requests k).1.toList (e.step requests k).2 := by
  have hidle : Effect e [] e :=
    .keeps ⟨rfl, rfl⟩ ⟨fun _ _ h => h, fun _ _ h => h, fun _ _ => Iff.rfl⟩
  unfold Exchange.step
  cases hk : e.replacing k with
  | called =>
    have hold : ∀ t, e.replacing k ≠ .replaced t := by simp [hk]
    dsimp only
    rcases Replacement.make_cases e.session (requests k) with
      ⟨reason, s, hmake, hs⟩ | ⟨made, s, hmake, hstamp, hactive, hfresh⟩
    · rw [hmake]
      exact .keeps hs (.moveTo (by rw [hk]; rfl) hold (by simp))
    · rw [hmake]
      refine .makes (some k) hactive hfresh ?_ ?_ (done_moveTo hold (by simp))
      · intro o t h
        rcases has_moveTo h with hbefore | ⟨ho, hnow⟩
        · exact Or.inl hbefore
        · cases hnow
          exact Or.inr ⟨ho, hstamp⟩
      · apply tables_moveTo
        rw [hk]
        rintro t ⟨⟩
  | announcing t =>
    exact .keeps (Session.sameTables_report _ _)
      (.moveTo (by rw [hk]; rfl) (by simp [hk]) (by simp))
  | opening t =>
    have hkept : ∀ s, Kept e (e.moveTo s k (.storing t)) := fun s =>
      .moveTo (by rw [hk]; rfl) (by simp [hk]) (by simp)
    dsimp only
    split
    · exact .keeps ⟨rfl, rfl⟩ (hkept _)
    · next hnone =>
      have had : e.Has (some k) t := by rw [Has, hk]; rfl
      exact .opens id had hnone rfl rfl (hkept _)
  | storing t =>
    refine .stores hk rfl rfl ?_ ?_ ?_
    · intro o u h
      rcases has_moveTo h with hbefore | ⟨rfl, hnow⟩
      · exact hbefore
      · rw [Has, hk]
        exact hnow
    · apply tables_moveTo
      rw [hk]
      exact fun u hu => hu
    · intro j u
      by_cases hj : j = k
      · subst hj
        simp [hk, eq_comm]
      · simp [hj]
  | refused | replaced => exact hidle

variable [DecidableEq ι] (sources : ι → Source) (requests : κ → Replacement)

theorem take_replacement (e : Exchange ι κ) (k : κ) : e.take sources requests (.replacement k) =
    (((e.step requests k).1.map Event.wrote).toList, (e.step requests k).2) := rfl

theorem take_use (e : Exchange ι κ) (m : Move ι) : e.take sources requests (.use m) =
    ((((e.uses.move sources m).1.bind Happening.write?).map Event.wrote).toList ++
      ((e.uses.taken? m).map fun (i, t) => Event.saw i t).toList,
      { e with uses := (e.uses.move sources m).2 }) := rfl

theorem effect_take (e : Exchange ι κ) (m : Turn ι κ) :
    Effect e (writes (e.take sources requests m).1) (e.take sources requests m).2 := by
  cases m with
  | replacement k =>
    rw [take_replacement, writes_wrote]
    exact effect_step requests e k
  | use m =>
    have hwrites : writes (e.take sources requests (.use m)).1 =
        ((e.uses.move sources m).1.bind Happening.write?).toList := by
      rw [take_use, writes_append, writes_wrote]
      cases e.uses.taken? m <;> exact List.append_nil _
    have heffect := FirstUse.effect_move sources e.uses m
    rw [hwrites, take_use]
    dsimp only
    generalize (e.uses.move sources m).1 = happening at heffect ⊢
    generalize (e.uses.move sources m).2 = uses at heffect ⊢
    cases heffect with
    | keeps same husers => exact .keeps same (.use husers)
    | @builds _ i made stamp active fresh husers =>
      refine .makes none active fresh ?_ (fun _ _ h => h) fun _ _ => Iff.rfl
      intro o t h
      cases o with
      | none =>
        obtain ⟨j, hj⟩ := h
        rcases husers j t hj with hold | rfl
        · exact Or.inl ⟨j, hold⟩
        · exact Or.inr ⟨rfl, stamp⟩
      | some k => exact Or.inl h
    | @publishes _ i t had found active fresh husers =>
      exact .opens id ⟨i, had⟩ found active fresh (.use husers)

theorem run_replacement (e : Exchange ι κ) (k : κ) (n : ℕ) :
    (e.run sources requests (List.replicate (n + 1) (.replacement k))).2 =
      ((e.step requests k).2.run sources requests (List.replicate n (.replacement k))).2 := rfl

theorem run_ofResult {result : Except LoadError Snapshot}
    (h : e.replacing k = .ofResult result) (n : ℕ) :
    (e.run sources requests (List.replicate n (.replacement k))).2 = e := by
  induction n with
  | zero => rfl
  | succ n ih =>
    have hstep : (e.step requests k).2 = e := by
      rw [step, h]
      cases result <;> rfl
    rw [run_replacement, hstep, ih]

/-- A replacement that nobody gets in the way of. -/
theorem run_alone (h : e.replacing k = .called) (n : ℕ) :
    (e.run sources requests (List.replicate (n + 4) (.replacement k))).2 =
      e.moveTo ((requests k).apply e.session).2 k
        (.ofResult ((requests k).apply e.session).1) := by
  rcases hmake : (requests k).make e.session with ⟨reason | t, u⟩
  · have hstep : (e.step requests k).2 = e.moveTo u k (.ofResult (.error reason)) := by
      rw [step, h]
      dsimp only
      rw [hmake]
      rfl
    rw [Replacement.apply_of_make_error hmake, run_replacement, hstep,
      run_ofResult sources requests (moveTo_self e u k _)]
  · rw [Replacement.apply_of_make_ok hmake, Session.install]
    cases hactive : (u.report [t.tables.installedEvent]).active with
    | none | some =>
      simp only [run_replacement, step, h, hmake, moveTo_self, moveTo_session, moveTo_moveTo,
        hactive]
      have hdone : ∀ v, (e.moveTo v k (.replaced t)).replacing k = .ofResult (.ok t) :=
        fun v => moveTo_self e v k _
      exact run_ofResult sources requests (hdone _) n

end Steps

end Exchange

end FieldFormats
