import FieldFormats.Proofs.ActiveTables
import FieldFormats.Proofs.ReplacementEffects
import Mathlib.Data.List.Chain
import Mathlib.Data.List.Nodup
/-! # The order of replacements

Replacements come one after the other in the order in which they put their tables in place, and
uses see them in that order, with one exception. A replacement that finds no tables makes its own
active before it puts them in place. If another one puts its tables in place between the two, the
other is undone, and tables that had been replaced are active again. Where there are tables to begin
with no replacement is undone.

Tables are told apart by their stamps: each stamp is given out once, to the caller that makes the
tables, and who has tables with that stamp has them from there. -/
namespace FieldFormats

namespace Exchange

variable {ι κ : Type}

def Event.seen? : Event ι κ → Option Snapshot
  | wrote _ => none
  | saw _ t => some t

/-- The tables that uses take, one after the other. -/
def seen (events : List (Event ι κ)) : List Snapshot := events.filterMap Event.seen?

/-- The tables that are active, one after the other. -/
def history (s : Session) (ws : List (Write ι κ)) : List Snapshot :=
  s.active.toList ++ ws.map Write.tables

/-- The tables are there again after others were. -/
def Returns (t : Snapshot) (l : List Snapshot) : Prop :=
  ∃ u, u ≠ t ∧ [t, u, t].Sublist l

/-- Whose tables there are, from those at the start on: those of a replacement, or all others. -/
inductive Held (s : Session) (ws : List (Write ι κ)) (e : Exchange ι κ) :
    Option κ → Snapshot → Prop where
  | start {t} (h : s.active = some t) : Held s ws e none t
  | used {i t} (h : .used i t ∈ ws) : Held s ws e none t
  | has {o t} (h : e.Has o t) : Held s ws e o t

/-- What holds along turns, from the session at the start and the writes so far. -/
structure Invariant (s : Session) (ws : List (Write ι κ)) (e : Exchange ι κ) : Prop where
  empty : e.session.active = none → s.active = none ∧ ws = []
  later : ws.Pairwise fun _ w => w.IsStore
  stores : s.active ≠ none → ∀ w ∈ ws, w.IsStore
  numbered : ∀ o t, Held s ws e o t → t.stamp < e.session.fresh
  apart : ∀ o p t u, Held s ws e o t → Held s ws e p u → t.stamp = u.stamp → o = p
  own : ∀ w ∈ ws, ∀ k, w.author? = some k → (e.replacing k).tables? = some w.tables
  done : ∀ k t, .stored k t ∈ ws ↔ e.replacing k = .replaced t
  once : ws.Nodup

variable {s : Session} {ws new : List (Write ι κ)} {e e' : Exchange ι κ}

/-- A turn gives at most one caller new tables, and their stamp is new. -/
theorem Effect.held (h : Effect e new e') (s : Session) (ws : List (Write ι κ)) :
    e.session.fresh ≤ e'.session.fresh ∧ ∃ o, ∀ p t, Held s (ws ++ new) e' p t → Held s ws e p t ∨
      p = o ∧ t.stamp = e.session.fresh ∧ e'.session.fresh = e.session.fresh + 1 := by
  have hlift : ∀ {more : List (Write ι κ)}, (∀ i t, .used i t ∈ more → e.Has none t) →
      (∀ o t, e'.Has o t → e.Has o t) → ∀ p t, Held s (ws ++ more) e' p t → Held s ws e p t := by
    intro more hmore hhas p t hheld
    cases hheld with
    | start ht => exact .start ht
    | used ht =>
      rcases List.mem_append.1 ht with hmem | hmem
      · exact .used hmem
      · exact .has (hmore _ _ hmem)
    | has ht => exact .has (hhas p t ht)
  cases h with
  | keeps same kept =>
    refine ⟨Nat.le_of_eq same.fresh.symm, none, ?_⟩
    intro p t hheld
    exact Or.inl (hlift (by simp) kept.has p t hheld)
  | makes o active fresh has =>
    refine ⟨Nat.le.intro fresh.symm, o, ?_⟩
    intro p t hheld
    rw [List.append_nil] at hheld
    cases hheld with
    | start ht => exact Or.inl (.start ht)
    | used ht => exact Or.inl (.used ht)
    | has ht =>
      rcases has p t ht with hbefore | ⟨hp, hstamp⟩
      · exact Or.inl (.has hbefore)
      · exact Or.inr ⟨hp, hstamp, fresh⟩
  | @opens w _ opening had found active fresh kept =>
    refine ⟨Nat.le_of_eq fresh.symm, none, ?_⟩
    intro p t hheld
    refine Or.inl (hlift ?_ kept.has p t hheld)
    intro i u hu
    rw [← List.mem_singleton.1 hu] at had
    exact had
  | stores had active fresh has =>
    refine ⟨Nat.le_of_eq fresh.symm, none, ?_⟩
    intro p t hheld
    exact Or.inl (hlift (by simp) has p t hheld)

theorem Invariant.numbered_step (h : Invariant s ws e) (k : Effect e new e') {o : Option κ}
    {t : Snapshot} (ht : Held s (ws ++ new) e' o t) : t.stamp < e'.session.fresh := by
  obtain ⟨hfresh, q, hheld⟩ := k.held s ws
  rcases hheld o t ht with hbefore | ⟨-, hstamp, hnext⟩
  · exact Nat.lt_of_lt_of_le (h.numbered o t hbefore) hfresh
  · omega

theorem Invariant.apart_step (h : Invariant s ws e) (k : Effect e new e') {o p : Option κ}
    {t u : Snapshot} (ht : Held s (ws ++ new) e' o t) (hu : Held s (ws ++ new) e' p u)
    (hsame : t.stamp = u.stamp) : o = p := by
  obtain ⟨-, q, hheld⟩ := k.held s ws
  rcases hheld o t ht with hbefore | ⟨ho, hstamp, -⟩
  · have hlt := h.numbered o t hbefore
    rcases hheld p u hu with hbefore' | ⟨-, hstamp, -⟩
    · exact h.apart o p t u hbefore hbefore' hsame
    · omega
  · rcases hheld p u hu with hbefore' | ⟨hp, -, -⟩
    · have hlt := h.numbered p u hbefore'
      omega
    · exact ho.trans hp.symm

theorem Effect.tables (h : Effect e new e') (k : κ) (t : Snapshot)
    (ht : (e.replacing k).tables? = some t) : (e'.replacing k).tables? = some t := by
  cases h with
  | keeps _ kept | opens _ _ _ _ _ kept => exact kept.tables k t ht
  | makes _ _ _ _ tables | stores _ _ _ _ tables => exact tables k t ht

theorem Invariant.effect (h : Invariant s ws e) (k : Effect e new e') :
    Invariant s (ws ++ new) e' where
  empty hnone := by
    cases k with
    | keeps same =>
      rw [List.append_nil]
      exact h.empty (same.active ▸ hnone)
    | makes _ active =>
      rw [List.append_nil]
      exact h.empty (active ▸ hnone)
    | opens _ _ _ active | stores _ active =>
      rw [active] at hnone
      cases hnone
  later := by
    cases k with
    | keeps | makes =>
      rw [List.append_nil]
      exact h.later
    | opens opening had found =>
      rw [(h.empty found).2]
      exact List.pairwise_singleton _ _
    | stores =>
      rw [List.pairwise_append]
      refine ⟨h.later, List.pairwise_singleton _ _, ?_⟩
      intro v _ w hw
      rw [List.mem_singleton.1 hw]
      trivial
  stores hs w hw := by
    rcases List.mem_append.1 hw with hw | hw
    · exact h.stores hs w hw
    · cases k with
      | keeps | makes => cases hw
      | opens opening had found => exact absurd (h.empty found).1 hs
      | stores =>
        rw [List.mem_singleton.1 hw]
        trivial
  numbered _ _ := h.numbered_step k
  apart _ _ _ _ := h.apart_step k
  own w hw j hj := by
    rcases List.mem_append.1 hw with hw | hw
    · exact k.tables j _ (h.own w hw j hj)
    · cases k with
      | keeps | makes => cases hw
      | opens _ had _ _ _ kept =>
        rw [List.mem_singleton.1 hw] at hj ⊢
        rw [hj] at had
        exact kept.tables j _ had
      | stores had _ _ _ tables =>
        rw [List.mem_singleton.1 hw] at hj ⊢
        cases hj
        exact tables _ _ (by rw [had]; rfl)
  done j t := by
    rw [List.mem_append, h.done]
    cases k with
    | keeps _ kept => simp [kept.done]
    | makes _ _ _ _ _ done => simp [done]
    | opens opening _ _ _ _ kept =>
      rw [kept.done]
      refine or_iff_left ?_
      intro hmem
      rw [← List.mem_singleton.1 hmem] at opening
      exact opening trivial
    | stores _ _ _ _ _ done => simp [done]
  once := by
    cases k with
    | keeps | makes =>
      rw [List.append_nil]
      exact h.once
    | opens _ _ found =>
      rw [(h.empty found).2]
      exact List.pairwise_singleton _ _
    | @stores j t _ had =>
      rw [List.nodup_append]
      refine ⟨h.once, List.pairwise_singleton _ _, ?_⟩
      rintro v hv w hw rfl
      rw [List.mem_singleton.1 hw, h.done, had] at hv
      cases hv

theorem invariant_start (hs : s.Bounded) :
    Invariant s [] ({ uses := { session := s } } : Exchange ι κ) := by
  have hheld : ∀ {o t}, Held s [] ({ uses := { session := s } } : Exchange ι κ) o t →
      s.active = some t ∧ o = none := by
    intro o t hheld
    cases hheld with
    | start ht => exact ⟨ht, rfl⟩
    | used ht => cases ht
    | has ht =>
      cases o with
      | none =>
        obtain ⟨i, hi⟩ := ht
        cases hi
      | some k => cases ht
  refine ⟨fun hnone => ⟨hnone, rfl⟩, .nil, by simp, ?_, ?_, by simp, by simp, .nil⟩
  · intro o t ht
    exact hs t (hheld ht).1
  · intro o p t u ht hu _
    rw [(hheld ht).2, (hheld hu).2]

theorem Invariant.held (h : Invariant s ws e) {w : Write ι κ} (hw : w ∈ ws) :
    Held s ws e w.author? w.tables := by
  cases w with
  | used i t => exact .used hw
  | opened k t | stored k t => exact .has (h.own _ hw k rfl)

theorem Invariant.eq_of_author (h : Invariant s ws e) {v w : Write ι κ} (hv : v ∈ ws)
    (hw : w ∈ ws) {k : κ} (hvk : v.author? = some k) (hwk : w.author? = some k) :
    v.tables = w.tables := by
  have := h.own w hw k hwk
  rw [h.own v hv k hvk] at this
  exact Option.some.inj this

theorem Invariant.author_eq (h : Invariant s ws e) {v w : Write ι κ} (hv : v ∈ ws) (hw : w ∈ ws)
    (htables : v.tables = w.tables) : v.author? = w.author? :=
  h.apart _ _ _ _ (h.held hv) (h.held hw) (congrArg Snapshot.stamp htables)

/-- Nobody writes the tables that were there at the start. -/
theorem Invariant.not_mem_of_active (h : Invariant s ws e) {a : Snapshot}
    (hactive : s.active = some a) : a ∉ ws.map Write.tables := by
  intro hmem
  obtain ⟨w, hw, rfl⟩ := List.mem_map.1 hmem
  obtain ⟨k, hk⟩ := Write.IsStore.exists_eq (h.stores (by simp [hactive]) w hw)
  have hauthor := h.apart _ _ _ _ (.start hactive) (h.held hw) rfl
  rw [hk] at hauthor
  cases hauthor

theorem Invariant.nodup_history (h : Invariant s ws e) (hs : s.active ≠ none) :
    (history s ws).Nodup := by
  obtain ⟨a, hactive⟩ := Option.ne_none_iff_exists'.1 hs
  rw [history, hactive, Option.toList_some, List.singleton_append, List.nodup_cons]
  refine ⟨h.not_mem_of_active hactive, List.Nodup.map_on ?_ h.once⟩
  intro v hv w hw htables
  obtain ⟨j, hj⟩ := Write.IsStore.exists_eq (h.stores hs v hv)
  obtain ⟨k, hk⟩ := Write.IsStore.exists_eq (h.stores hs w hw)
  have hauthor := h.author_eq hv hw htables
  rw [hj, hk] at hauthor
  cases hauthor
  rw [hj, hk, htables]

/-- All writes but the first are stores, and each replacement stores once. So only what is written
first may come again. -/
theorem Invariant.opened_of_sublist (h : Invariant s ws e) {t u : Snapshot} (hne : u ≠ t)
    (hsub : [t, u, t].Sublist (ws.map Write.tables)) :
    ∃ k j, j ≠ k ∧ [.opened k t, .stored j u, .stored k t].Sublist ws := by
  obtain ⟨l, hl, hmap⟩ := List.sublist_map_iff.1 hsub
  obtain ⟨first, rest, rfl, hfirst, hrest⟩ := List.map_eq_cons_iff.1 hmap.symm
  obtain ⟨between, rest, rfl, hbetween, hrest⟩ := List.map_eq_cons_iff.1 hrest
  obtain ⟨again, rest, rfl, hagain, hrest⟩ := List.map_eq_cons_iff.1 hrest
  cases List.map_eq_nil_iff.1 hrest
  have hmem : ∀ w ∈ [first, between, again], w ∈ ws := fun w hw => hl.subset hw
  have hlater := h.later.sublist hl
  have honce := h.once.sublist hl
  simp only [List.pairwise_cons, List.mem_cons, List.not_mem_nil, or_false, List.nodup_cons,
    forall_eq_or_imp, forall_eq] at hmem hlater honce
  obtain ⟨j, hj⟩ := hlater.1.1.exists_eq
  obtain ⟨k, hk⟩ := hlater.1.2.exists_eq
  rw [hbetween] at hj
  rw [hagain] at hk
  subst hj hk
  have hauthor := h.author_eq hmem.1 hmem.2.2 (hfirst.trans hagain.symm)
  refine ⟨k, j, ?_, ?_⟩
  · rintro rfl
    exact hne (h.eq_of_author hmem.2.1 hmem.2.2 rfl rfl)
  · cases first with
    | used i v => cases hauthor
    | opened i v =>
      cases hauthor
      cases hfirst
      exact hl
    | stored i v =>
      cases hauthor
      cases hfirst
      exact absurd (Or.inr rfl) honce.1

theorem Invariant.returns_iff (h : Invariant s ws e) (t : Snapshot) :
    Returns t (history s ws) ↔
      ∃ k j u, j ≠ k ∧ [.opened k t, .stored j u, .stored k t].Sublist ws := by
  constructor
  · rintro ⟨u, hne, hsub⟩
    have hwritten : [t, u, t].Sublist (ws.map Write.tables) := by
      unfold history at hsub
      cases hactive : s.active with
      | none => rwa [hactive] at hsub
      | some a =>
        rw [hactive, Option.toList_some, List.singleton_append] at hsub
        rcases List.cons_sublist_cons'.1 hsub with hwritten | ⟨rfl, hrest⟩
        · exact hwritten
        · exact absurd (hrest.subset (by simp)) (h.not_mem_of_active hactive)
    obtain ⟨k, j, hjk, hopened⟩ := h.opened_of_sublist hne hwritten
    exact ⟨k, j, u, hjk, hopened⟩
  · rintro ⟨k, j, u, hjk, hsub⟩
    refine ⟨u, ?_, ?_⟩
    · rintro rfl
      have hj : .stored j u ∈ ws := hsub.subset (by simp)
      have hk : .stored k u ∈ ws := hsub.subset (by simp)
      exact hjk (Option.some.inj (h.author_eq hj hk rfl))
    · exact (hsub.map Write.tables).trans (List.sublist_append_right _ _)

/-- Uses take the tables that are active by then. -/
inductive Follows : Option Snapshot → List (Event ι κ) → Option Snapshot → Prop where
  | nil {a} : Follows a [] a
  | wrote {a b w es} (rest : Follows (some w.tables) es b) : Follows a (.wrote w :: es) b
  | saw {b i t es} (rest : Follows (some t) es b) : Follows (some t) (.saw i t :: es) b

theorem Follows.append {a b c : Option Snapshot} {es fs : List (Event ι κ)} (h : Follows a es b)
    (k : Follows b fs c) : Follows a (es ++ fs) c := by
  induction h with
  | nil => exact k
  | wrote _ ih => exact .wrote (ih k)
  | saw _ ih => exact .saw (ih k)

theorem Follows.getLast? {a b : Option Snapshot} {es : List (Event ι κ)} (h : Follows a es b) :
    b = (a.toList ++ (writes es).map Write.tables).getLast? := by
  induction h with
  | @nil a => cases a <;> rfl
  | @wrote a b w es rest ih =>
    have hwrites : writes (.wrote w :: es) = w :: writes es := rfl
    rw [ih, hwrites, List.map_cons, List.getLast?_append_of_ne_nil _ (List.cons_ne_nil _ _)]
    rfl
  | saw _ ih => exact ih

/-- Tables that uses see change were active in that order. -/
theorem Follows.sublist {a b : Option Snapshot} {es : List (Event ι κ)} (h : Follows a es b)
    {l : List Snapshot} (hl : l.IsChain (· ≠ ·)) (hseen : l.Sublist (seen es)) :
    l.Sublist (a.toList ++ (writes es).map Write.tables) := by
  induction h generalizing l with
  | nil =>
    rw [List.eq_nil_of_sublist_nil hseen]
    exact List.nil_sublist _
  | wrote _ ih => exact (ih hl hseen).trans (List.sublist_append_right _ _)
  | @saw b i t es rest ih =>
    rcases List.sublist_cons_iff.1 hseen with hlater | ⟨l, rfl, hrest⟩
    · exact ih hl hlater
    · -- What is seen after `t` differs from it, so it was written later.
      obtain ⟨hhead, hchain⟩ := List.isChain_cons.1 hl
      apply List.Sublist.cons_cons
      rcases List.sublist_cons_iff.1 (ih hchain hrest) with hlater | ⟨l, rfl, -⟩
      · exact hlater
      · exact absurd rfl (hhead t rfl)

theorem Effect.follows (h : Effect e new e') :
    Follows e.session.active (new.map Event.wrote) e'.session.active := by
  cases h with
  | keeps same =>
    rw [same.active]
    exact .nil
  | makes _ active =>
    rw [active]
    exact .nil
  | opens _ _ _ active | stores _ active =>
    rw [active]
    exact .wrote .nil

/-- What there is to say of replacements and uses at the same time: from the session `s`, what
happened and the state `e` that it led to. -/
structure Ordered (s : Session) (events : List (Event ι κ)) (e : Exchange ι κ) : Prop where
  active : e.session.active = (history s (writes events)).getLast?
  /-- Who put its tables in place is done, and did it once. -/
  done : ∀ k t, .stored k t ∈ writes events ↔ e.replacing k = .replaced t
  once : (writes events).Nodup
  /-- Nobody else makes tables active unless there are none. -/
  later : (writes events).Pairwise fun _ w => w.IsStore
  stores : s.active ≠ none → ∀ w ∈ writes events, w.IsStore
  /-- Where there are tables to begin with, none become active twice. -/
  apart : s.active ≠ none → (history s (writes events)).Nodup
  /-- Only tables of a replacement that found none ever return: exactly when another one puts its
  own in place before it does. -/
  returns : ∀ t, Returns t (history s (writes events)) ↔
    ∃ k j u, j ≠ k ∧ [.opened k t, .stored j u, .stored k t].Sublist (writes events)
  /-- The tables that uses see one after the other are active one after the other. -/
  seen : ∀ l : List Snapshot, l.IsChain (· ≠ ·) → l.Sublist (seen events) →
    l.Sublist (history s (writes events))

section Runs

variable [DecidableEq ι] [DecidableEq κ] (sources : ι → Source) (requests : κ → Replacement)

theorem Invariant.run (h : Invariant s ws e) (ms : List (Turn ι κ)) :
    Invariant s (ws ++ writes (e.run sources requests ms).1) (e.run sources requests ms).2 := by
  induction ms generalizing ws e with
  | nil => rwa [Exchange.run, writes, List.filterMap_nil, List.append_nil]
  | cons m ms ih =>
    rw [Exchange.run, writes_append, ← List.append_assoc]
    exact ih (h.effect (effect_take sources requests e m))

theorem follows_take (e : Exchange ι κ) (m : Turn ι κ) :
    Follows e.session.active (e.take sources requests m).1
      (e.take sources requests m).2.session.active := by
  have hfollows := (effect_take sources requests e m).follows
  cases m with
  | replacement k =>
    rw [take_replacement, writes_wrote, ← Option.toList_map] at hfollows
    exact hfollows
  | use m =>
    cases htaken : e.uses.taken? m with
    | none =>
      rw [take_use, htaken, Option.map_none, Option.toList_none, List.append_nil, writes_wrote,
        ← Option.toList_map] at hfollows
      rw [take_use, htaken, Option.map_none, Option.toList_none, List.append_nil]
      exact hfollows
    | some sight =>
      obtain ⟨hactive, hnone, hsame⟩ := FirstUse.move_of_taken? sources htaken
      rw [take_use, htaken, hnone]
      dsimp only [session]
      rw [hsame, hactive]
      exact .saw .nil

theorem follows_run (e : Exchange ι κ) (ms : List (Turn ι κ)) :
    Follows e.session.active (e.run sources requests ms).1
      (e.run sources requests ms).2.session.active := by
  induction ms generalizing e with
  | nil => exact .nil
  | cons m ms ih => exact (follows_take sources requests e m).append (ih _)

theorem ordered_run (hs : s.Bounded) (ms : List (Turn ι κ)) :
    Ordered s (({ uses := { session := s } } : Exchange ι κ).run sources requests ms).1
      (({ uses := { session := s } } : Exchange ι κ).run sources requests ms).2 := by
  have hend := (invariant_start hs).run sources requests ms
  rw [List.nil_append] at hend
  have hfollows := follows_run sources requests { uses := { session := s } } ms
  exact {
    active := hfollows.getLast?
    done := hend.done
    once := hend.once
    later := hend.later
    stores := hend.stores
    apart := hend.nodup_history
    returns := hend.returns_iff
    seen := fun _ hl => hfollows.sublist hl }

end Runs

/-- The second replacement puts its tables in place while the first is about to. Of three uses one
looks before that, one after it and one at the end. -/
def undoing : List (Turn ℕ ℕ) :=
  [.replacement 0, .replacement 0, .replacement 0, .use (.caller 0), .use (.caller 0),
    .replacement 1, .replacement 1, .replacement 1, .replacement 1, .use (.caller 1),
    .use (.caller 1), .replacement 0, .use (.caller 2), .use (.caller 2)]

/-- Where there are no tables any two replacements that can make theirs may come to that. -/
theorem run_undoing (sources : ℕ → Source) {requests : ℕ → Replacement} {s t u : Session}
    {a b : Snapshot} (hactive : s.active = none) (ha : (requests 0).make s = (.ok a, t))
    (hb : (requests 1).make { t.report [a.tables.installedEvent] with active := some a } =
      (.ok b, u)) :
    b ≠ a ∧ (run sources requests { uses := { session := s } } undoing).1 =
      [.wrote (.opened 0 a), .saw 0 a, .wrote (.stored 1 b), .saw 1 b, .wrote (.stored 0 a),
        .saw 2 a] := by
  have hreported := Session.sameTables_report t [a.tables.installedEvent]
  have hopen : (t.report [a.tables.installedEvent]).active = none := by
    have hmade := Replacement.make_active s (requests 0)
    rw [ha] at hmade
    rw [hreported.active, hmade, hactive]
  have hopened : (u.report [b.tables.installedEvent]).active = some a := by
    have hmade := Replacement.make_active
      { t.report [a.tables.installedEvent] with active := some a } (requests 1)
    rw [hb] at hmade
    rw [(Session.sameTables_report u _).active, hmade]
  constructor
  · rintro rfl
    obtain ⟨hfirst, hnext⟩ := Replacement.stamp_of_make ha
    have hsecond : b.stamp = (t.report [b.tables.installedEvent]).fresh :=
      (Replacement.stamp_of_make hb).1
    rw [hreported.fresh] at hsecond
    omega
  · simp [undoing, run, take_use, take_replacement, step, session, moveTo, ha, hb, hopen, hopened,
      FirstUse.move, FirstUse.step, FirstUse.taken?, FirstUse.moveTo]

def twoRebuilds (k : ℕ) : Replacement :=
  .rebuild (.directory (if k = 0 then "d" else "e"))

def undone (files : Files) : List (Event ℕ ℕ) × Exchange ℕ ℕ :=
  run (fun _ => .builtIn) twoRebuilds { uses := { session := { files := files } } } undoing

/-- It does come to that with the tables of two directories, if both can be loaded. -/
theorem undone_eq {files : Files} {t u : ReferenceTables}
    (ht : (ReferenceTables.load files (.directory "d")).result = .ok t)
    (hu : (ReferenceTables.load files (.directory "e")).result = .ok u) :
    ∃ a b, b ≠ a ∧ (undone files).1 =
      [.wrote (.opened 0 a), .saw 0 a, .wrote (.stored 1 b), .saw 1 b, .wrote (.stored 0 a),
        .saw 2 a] := by
  have ha : (twoRebuilds 0).make { files := files } =
      (.ok ⟨0, 0, t⟩, { files := files, fresh := 1 }) := by
    simp [twoRebuilds, Replacement.make, Session.load, Session.report, ht]
  have hb : (twoRebuilds 1).make
      { ({ files := files, fresh := 1 } : Session).report [t.installedEvent] with
        active := some ⟨0, 0, t⟩ } =
      (.ok ⟨1, 1, u⟩, { files := files, fresh := 2, active := some ⟨0, 0, t⟩ }) := by
    simp [twoRebuilds, Replacement.make, Session.load, Session.report, hu]
  exact ⟨_, _, run_undoing (fun _ => .builtIn) rfl ha hb⟩

/-- The tables of another directory beside the first. -/
def twoDirectories : Files :=
  (FirstUse.threeFiles.writeBytes "e/iban-formats.txt"
    "Netherlands\t18\t4a,10n\tNLkk bbbb cccc cccc cc\n".toByteArray).writeBytes
      "e/iso4217-currencies.txt" "EUR\t978\tEuro\tNetherlands\n".toByteArray

theorem exists_eq_ok {ε α : Type} {r : Except ε α} (h : r.isOk = true) : ∃ t, r = .ok t := by
  cases r with
  | ok t => exact ⟨t, rfl⟩
  | error e => cases h

theorem exists_load_twoDirectories :
    (∃ t, (ReferenceTables.load twoDirectories (.directory "d")).result = .ok t) ∧
      ∃ u, (ReferenceTables.load twoDirectories (.directory "e")).result = .ok u := by
  constructor
  · apply exists_eq_ok
    decide +kernel
  · apply exists_eq_ok
    decide +kernel

theorem ordered_undone : ∃ t, (undone twoDirectories).2.session.active = some t ∧
    Returns t (history { files := twoDirectories } (writes (undone twoDirectories).1)) := by
  have hbounded : Session.Bounded { files := twoDirectories } := by
    intro a ha
    cases ha
  have hordered : Ordered { files := twoDirectories } (undone twoDirectories).1
      (undone twoDirectories).2 :=
    ordered_run (fun _ => .builtIn) twoRebuilds hbounded undoing
  obtain ⟨⟨t, ht⟩, u, hu⟩ := exists_load_twoDirectories
  obtain ⟨a, b, -, hevents⟩ := undone_eq ht hu
  have hwrites : writes (undone twoDirectories).1 =
      [.opened 0 a, .stored 1 b, .stored 0 a] := by
    rw [hevents]
    rfl
  have hactive := hordered.active
  rw [hwrites] at hactive
  refine ⟨a, hactive, (hordered.returns a).2 ⟨0, 1, b, by decide, ?_⟩⟩
  rw [hwrites]

/-- The tables of the second replacement give way to those that they have replaced, and uses see
that. -/
theorem rebuild_undone : ∃ a b,
    writes (undone twoDirectories).1 = [.opened 0 a, .stored 1 b, .stored 0 a] ∧
      Returns a (history { files := twoDirectories } (writes (undone twoDirectories).1)) ∧
        Returns a (seen (undone twoDirectories).1) := by
  obtain ⟨⟨t, ht⟩, u, hu⟩ := exists_load_twoDirectories
  obtain ⟨a, b, hne, hevents⟩ := undone_eq ht hu
  rw [hevents]
  exact ⟨a, b, rfl, ⟨b, hne, List.Sublist.refl _⟩, ⟨b, hne, List.Sublist.refl _⟩⟩

end Exchange

end FieldFormats
