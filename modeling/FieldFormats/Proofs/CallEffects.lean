import FieldFormats.Session.Step
import Mathlib.Tactic.Common
/-! # What one call does to the active tables

Each action of a session once: which tables are active after it, which references are new, and
what it answers. Files and logs change along the way and are left out. -/
namespace FieldFormats

namespace Session

/-- Two states that hold the same tables active and have the same references unused. -/
structure SameTables (s t : Session) : Prop where
  active : t.active = s.active
  fresh : t.fresh = s.fresh

/-- The second state has new tables, under the first reference that the first had unused. -/
structure NewTables (s t : Session) (made : Snapshot) : Prop where
  stamp : made.stamp = s.fresh
  active : t.active = some made
  fresh : t.fresh = s.fresh + 1

theorem SameTables.trans {s t u : Session} (h : SameTables s t) (k : SameTables t u) :
    SameTables s u :=
  ⟨k.active.trans h.active, k.fresh.trans h.fresh⟩

theorem NewTables.of_same {s t u : Session} {made : Snapshot} (h : NewTables s t made)
    (k : SameTables t u) : NewTables s u made :=
  ⟨h.stamp, k.active.trans h.active, k.fresh.trans h.fresh⟩

/-- A report goes to a file, the buffer or the error stream, and to nothing else. -/
theorem report_eq (s : Session) (events : List Log.Event) : ∃ files buffer standardError,
    s.report events =
      { s with files := files, buffer := buffer, standardError := standardError } := by
  unfold report
  split
  · exact ⟨_, _, _, rfl⟩
  · unfold write
    split
    · exact ⟨_, _, _, rfl⟩
    · exact ⟨_, _, _, rfl⟩
    · exact ⟨_, _, _, rfl⟩
    · exact ⟨_, _, _, rfl⟩

/-- What work on tables leaves as it is. Only a call that is about one of these changes it. -/
structure SameSettings (s t : Session) : Prop where
  environment : t.environment = s.environment
  kept : t.kept = s.kept
  showValues : t.showValues = s.showValues
  subscriber : t.subscriber = s.subscriber

theorem SameSettings.trans {s t u : Session} (h : SameSettings s t) (k : SameSettings t u) :
    SameSettings s u :=
  ⟨k.environment.trans h.environment, k.kept.trans h.kept, k.showValues.trans h.showValues,
    k.subscriber.trans h.subscriber⟩

theorem sameSettings_report (s : Session) (events : List Log.Event) :
    SameSettings s (s.report events) := by
  obtain ⟨files, buffer, standardError, h⟩ := report_eq s events
  rw [h]
  exact ⟨rfl, rfl, rfl, rfl⟩

theorem sameSettings_install (s : Session) (t : Snapshot) : SameSettings s (s.install t) := by
  have hreport := sameSettings_report s [t.tables.installedEvent]
  exact ⟨hreport.environment, hreport.kept, hreport.showValues, hreport.subscriber⟩

theorem sameSettings_load (s : Session) (source : Source) :
    SameSettings s (s.load source).2 := by
  have hreport := sameSettings_report s (ReferenceTables.load s.files source).events
  unfold load
  dsimp only
  split
  · exact hreport
  · exact ⟨hreport.environment, hreport.kept, hreport.showValues, hreport.subscriber⟩

theorem sameTables_report (s : Session) (events : List Log.Event) :
    SameTables s (s.report events) := by
  obtain ⟨files, buffer, standardError, h⟩ := report_eq s events
  rw [h]
  exact ⟨rfl, rfl⟩

theorem load_cases (s : Session) (source : Source) :
    (∃ e t, s.load source = (.error e, t) ∧ SameTables s t) ∨
      ∃ made t, s.load source = (.ok made, t) ∧ made.stamp = s.fresh ∧ t.active = s.active ∧
        t.fresh = s.fresh + 1 := by
  have hreport := sameTables_report s (ReferenceTables.load s.files source).events
  unfold load
  dsimp only
  cases (ReferenceTables.load s.files source).result with
  | error e => exact Or.inl ⟨e, _, rfl, hreport⟩
  | ok tables =>
    refine Or.inr ⟨_, _, rfl, hreport.fresh, hreport.active, ?_⟩
    exact congrArg Nat.succ hreport.fresh

theorem load_active (s : Session) (source : Source) : (s.load source).2.active = s.active := by
  rcases load_cases s source with ⟨e, t, h, same⟩ | ⟨made, t, h, -, hactive, -⟩
  · rw [h]
    exact same.active
  · rw [h]
    exact hactive

@[simp] theorem install_active (s : Session) (t : Snapshot) :
    (s.install t).active = some t := rfl

@[simp] theorem install_fresh (s : Session) (t : Snapshot) : (s.install t).fresh = s.fresh :=
  (sameTables_report s [t.tables.installedEvent]).fresh

theorem newTables_install {s t : Session} {made : Snapshot} (stamp : made.stamp = s.fresh)
    (fresh : t.fresh = s.fresh + 1) : NewTables s (t.install made) made := by
  refine ⟨stamp, install_active t made, ?_⟩
  rw [install_fresh, fresh]

theorem ensure_of_active {s : Session} {a : Snapshot} (h : s.active = some a) (source : Source) :
    s.ensure source = (.ok a, s) := by
  unfold ensure
  rw [h]

theorem ensure_of_load_error {s t : Session} {source : Source} {e : LoadError}
    (h : s.active = none) (hload : s.load source = (.error e, t)) :
    s.ensure source = (.error e, t) := by
  unfold ensure
  rw [h, hload]

theorem ensure_of_load_ok {s t : Session} {source : Source} {made : Snapshot}
    (h : s.active = none) (hload : s.load source = (.ok made, t)) :
    s.ensure source = (.ok made, t.install made) := by
  unfold ensure
  rw [h, hload]

theorem sameSettings_ensure (s : Session) (source : Source) :
    SameSettings s (s.ensure source).2 := by
  have hsame := sameSettings_load s source
  cases ha : s.active with
  | some old =>
    rw [ensure_of_active ha source]
    exact ⟨rfl, rfl, rfl, rfl⟩
  | none =>
    rcases hload : s.load source with ⟨e | new, t⟩
    · rw [hload] at hsame
      rw [ensure_of_load_error ha hload]
      exact hsame
    · rw [hload] at hsame
      rw [ensure_of_load_ok ha hload]
      exact hsame.trans (sameSettings_install t new)

theorem sameSettings_tablesFor (s : Session) (pin : Option Snapshot) :
    SameSettings s (s.tablesFor pin).2 := by
  cases pin with
  | none => exact sameSettings_ensure s s.configuredSource
  | some old => exact ⟨rfl, rfl, rfl, rfl⟩

theorem ensure_of_none {s : Session} (h : s.active = none) (source : Source) :
    (∃ e t, s.ensure source = (.error e, t) ∧ SameTables s t) ∨
      ∃ made t, s.ensure source = (.ok made, t) ∧ (s.load source).1 = .ok made ∧
        NewTables s t made := by
  rcases load_cases s source with ⟨e, t, hload, ht⟩ | ⟨made, t, hload, hstamp, -, hfresh⟩
  · exact Or.inl ⟨e, t, ensure_of_load_error h hload, ht⟩
  · exact Or.inr ⟨made, _, ensure_of_load_ok h hload, congrArg Prod.fst hload,
      newTables_install hstamp hfresh⟩

theorem active_of_ensure {s t : Session} {source : Source} {a : Snapshot}
    (h : s.ensure source = (.ok a, t)) : t.active = some a := by
  cases hs : s.active with
  | some old =>
    cases (ensure_of_active hs source).symm.trans h
    exact hs
  | none =>
    rcases ensure_of_none hs source with ⟨e, u, hfails, -⟩ | ⟨made, u, hmade, -, hnew⟩
    · cases hfails.symm.trans h
    · cases hmade.symm.trans h
      exact hnew.active

theorem reload_cases (s : Session) (source : Source) :
    (∃ e t, s.reload source = (.error e, t) ∧ SameTables s t) ∨
      ∃ made t, s.reload source = (.ok made, t) ∧ NewTables s t made := by
  unfold reload
  rcases load_cases s source with ⟨e, t, hload, ht⟩ | ⟨made, t, hload, hstamp, -, hfresh⟩
  · rw [hload]
    exact Or.inl ⟨e, t, rfl, ht⟩
  · rw [hload]
    exact Or.inr ⟨made, _, rfl, newTables_install hstamp hfresh⟩

theorem installTexts_cases (s : Session) (iban currencies : TableText) :
    (∃ e t, s.installTexts iban currencies = (.error e, t) ∧ SameTables s t) ∨
      ∃ made t, s.installTexts iban currencies = (.ok made, t) ∧ NewTables s t made := by
  have hreport := sameTables_report s (ReferenceTables.ofTexts iban currencies).events
  unfold installTexts
  dsimp only
  cases (ReferenceTables.ofTexts iban currencies).result with
  | error e => exact Or.inl ⟨e, _, rfl, hreport⟩
  | ok tables =>
    refine Or.inr ⟨_, _, rfl, newTables_install hreport.fresh ?_⟩
    exact congrArg Nat.succ hreport.fresh

theorem installCopy_newTables (s : Session) (t : Snapshot) :
    NewTables s (s.installCopy t).2 (s.installCopy t).1 :=
  newTables_install rfl rfl

/-- A check of one value that consults the active tables for some values and for the others does
nothing at all. -/
structure Consults (check : Session → String → Except LoadError Bool × Session)
    (reads : String → Bool) : Prop where
  idle : ∀ s v, reads v = false → ∃ b, check s v = (.ok b, s)
  follows : ∀ s v a, s.active = some a → ∃ b t, check s v = (.ok b, t) ∧ SameTables s t
  builds : ∀ s v, reads v = true → s.active = none →
    (∃ e t, check s v = (.error e, t) ∧ SameTables s t) ∨
      ∃ b made t, check s v = (.ok b, t) ∧ (s.load s.configuredSource).1 = .ok made ∧
        NewTables s t made

variable {check : Session → String → Except LoadError Bool × Session} {reads : String → Bool}

section CheckAll

variable {s t u : Session} {v : String} {vs : List String} {b : Bool}

theorem checkAll_cons_ok {bs : List Bool} (h : check s v = (.ok b, t))
    (k : checkAll check t vs = (.ok bs, u)) : checkAll check s (v :: vs) = (.ok (b :: bs), u) := by
  rw [checkAll, h]
  dsimp only
  rw [k]

theorem checkAll_cons_error {e : LoadError} (h : check s v = (.ok b, t))
    (k : checkAll check t vs = (.error e, u)) : checkAll check s (v :: vs) = (.error e, u) := by
  rw [checkAll, h]
  dsimp only
  rw [k]

theorem checkAll_of_keeps {P : Session → Prop} (hP : ∀ s t, SameTables s t → P s → P t)
    (h : ∀ s v, P s → ∃ b t, check s v = (.ok b, t) ∧ SameTables s t) (hs : P s)
    (values : List String) : ∃ bs t, checkAll check s values = (.ok bs, t) ∧ SameTables s t := by
  induction values generalizing s with
  | nil => exact ⟨[], s, rfl, rfl, rfl⟩
  | cons v vs ih =>
    obtain ⟨b, t, hcheck, ht⟩ := h s v hs
    obtain ⟨bs, u, hall, hu⟩ := ih (hP s t ht hs)
    exact ⟨b :: bs, u, checkAll_cons_ok hcheck hall, ht.trans hu⟩

theorem checkAll_of_active (h : Consults check reads) {a : Snapshot} (ha : s.active = some a)
    (values : List String) : ∃ bs t, checkAll check s values = (.ok bs, t) ∧ SameTables s t := by
  apply checkAll_of_keeps (P := fun s => s.active = some a) ?_ ?_ ha
  · intro s t same hs
    exact same.active.trans hs
  · intro s v hs
    exact h.follows s v a hs

theorem checkAll_idle (h : Consults check reads) {values : List String}
    (hnone : values.any reads = false) : ∃ bs, checkAll check s values = (.ok bs, s) := by
  induction values with
  | nil => exact ⟨[], rfl⟩
  | cons v vs ih =>
    rw [List.any_cons, Bool.or_eq_false_iff] at hnone
    obtain ⟨b, hcheck⟩ := h.idle s v hnone.1
    obtain ⟨bs, hall⟩ := ih hnone.2
    exact ⟨b :: bs, checkAll_cons_ok hcheck hall⟩

theorem checkAll_of_none (h : Consults check reads) (hs : s.active = none)
    {values : List String} (hreads : values.any reads = true) :
    (∃ e t, checkAll check s values = (.error e, t) ∧ SameTables s t) ∨
      ∃ bs made t, checkAll check s values = (.ok bs, t) ∧
        (s.load s.configuredSource).1 = .ok made ∧ NewTables s t made := by
  induction values with
  | nil => cases hreads
  | cons v vs ih =>
    by_cases hv : reads v = true
    · rcases h.builds s v hv hs with ⟨e, t, hcheck, ht⟩ | ⟨b, made, t, hcheck, hmade, ht⟩
      · refine Or.inl ⟨e, t, ?_, ht⟩
        rw [checkAll, hcheck]
      · -- The tables are there now, and the other values find them.
        obtain ⟨bs, u, hall, hu⟩ := checkAll_of_active h ht.active vs
        exact Or.inr ⟨b :: bs, made, u, checkAll_cons_ok hcheck hall, hmade, ht.of_same hu⟩
    · rw [Bool.not_eq_true] at hv
      rw [List.any_cons, hv, Bool.false_or] at hreads
      obtain ⟨b, hcheck⟩ := h.idle s v hv
      rcases ih hreads with ⟨e, t, hall, ht⟩ | ⟨bs, made, t, hall, hmade, ht⟩
      · exact Or.inl ⟨e, t, checkAll_cons_error hcheck hall, ht⟩
      · exact Or.inr ⟨b :: bs, made, t, checkAll_cons_ok hcheck hall, hmade, ht⟩

end CheckAll

/-- Whether a check of IBANs looks at tables for a value. Restricted to countries, it does not for
the empty one. -/
def ibanReads (restricted : Bool) (value : String) : Bool :=
  !(restricted && decide (value = ""))

theorem ibanReads_eq_false_iff {restricted : Bool} {value : String} :
    ibanReads restricted value = false ↔ restricted = true ∧ value = "" := by
  simp [ibanReads]

theorem ibanReads_eq_true_iff {restricted : Bool} {value : String} :
    ibanReads restricted value = true ↔ ¬ (restricted = true ∧ value = "") := by
  rw [← ibanReads_eq_false_iff, Bool.not_eq_false]

/-- All that such a check leaves is the report on its value. -/
theorem checkIban_reports {s t : Session} (pin : Option Snapshot)
    {scope : Option Iban.CountryScope} {v : String} {a : Snapshot}
    (hreads : ibanReads scope.isSome v = true) (h : s.tablesFor pin = (.ok a, t)) :
    ∃ b, s.checkIban pin scope v = (.ok b, t.report (a.tables.iban.reports t.showValues v)) := by
  unfold checkIban
  rw [if_neg (ibanReads_eq_true_iff.1 hreads), h]
  cases scope with
  | none => exact ⟨_, rfl⟩
  | some c => exact ⟨_, rfl⟩

theorem checkIban_of_ok {s t : Session} (pin : Option Snapshot)
    {scope : Option Iban.CountryScope} {v : String} {a : Snapshot}
    (hreads : ibanReads scope.isSome v = true) (h : s.tablesFor pin = (.ok a, t)) :
    ∃ b u, s.checkIban pin scope v = (.ok b, u) ∧ SameTables t u := by
  obtain ⟨b, hcheck⟩ := checkIban_reports pin hreads h
  exact ⟨b, _, hcheck, sameTables_report t _⟩

theorem checkIban_of_error {s t : Session} (pin : Option Snapshot)
    {scope : Option Iban.CountryScope} {v : String} {e : LoadError}
    (hreads : ibanReads scope.isSome v = true) (h : s.tablesFor pin = (.error e, t)) :
    s.checkIban pin scope v = (.error e, t) := by
  unfold checkIban
  rw [if_neg (ibanReads_eq_true_iff.1 hreads), h]

theorem checkIban_of_not_reads {s : Session} {pin : Option Snapshot}
    {scope : Option Iban.CountryScope} {v : String} (h : ibanReads scope.isSome v = false) :
    s.checkIban pin scope v = (.ok true, s) :=
  if_pos (ibanReads_eq_false_iff.1 h)

theorem checkIban_of_tables {s t : Session} (pin : Option Snapshot) {a : Snapshot}
    (h : s.tablesFor pin = (.ok a, t)) (ht : SameTables s t) (scope : Option Iban.CountryScope)
    (v : String) : ∃ b u, s.checkIban pin scope v = (.ok b, u) ∧ SameTables s u := by
  cases hreads : ibanReads scope.isSome v with
  | true =>
    obtain ⟨b, u, hcheck, hu⟩ := checkIban_of_ok pin hreads h
    exact ⟨b, u, hcheck, ht.trans hu⟩
  | false => exact ⟨true, s, checkIban_of_not_reads hreads, rfl, rfl⟩

theorem checkIban_consults (scope : Option Iban.CountryScope) :
    Consults (fun s v => s.checkIban none scope v) (ibanReads scope.isSome) where
  idle s v h := ⟨true, checkIban_of_not_reads h⟩
  follows s v a ha :=
    checkIban_of_tables none (ensure_of_active ha s.configuredSource) ⟨rfl, rfl⟩ scope v
  builds s v hreads hs := by
    rcases ensure_of_none hs s.configuredSource with ⟨e, t, h, ht⟩ | ⟨made, t, h, hmade, ht⟩
    · exact Or.inl ⟨e, t, checkIban_of_error none hreads h, ht⟩
    · obtain ⟨b, u, hcheck, hu⟩ := checkIban_of_ok none hreads h
      exact Or.inr ⟨b, made, u, hcheck, hmade, ht.of_same hu⟩

theorem checkCurrency_of_ok {s t : Session} (pin : Option Snapshot) {a : Snapshot}
    (h : s.tablesFor pin = (.ok a, t)) (v : String) :
    s.checkCurrency pin v = (.ok (a.tables.currencies.accepts v), t) := by
  unfold checkCurrency
  rw [h]

theorem checkCurrency_of_error {s t : Session} (pin : Option Snapshot) {e : LoadError}
    (h : s.tablesFor pin = (.error e, t)) (v : String) :
    s.checkCurrency pin v = (.error e, t) := by
  unfold checkCurrency
  rw [h]

theorem checkCurrency_consults :
    Consults (fun s v => s.checkCurrency none v) (fun _ => true) where
  idle s v h := by cases h
  follows s v a ha := ⟨_, s,
    checkCurrency_of_ok none (ensure_of_active ha s.configuredSource) v, rfl, rfl⟩
  builds s v _ hs := by
    rcases ensure_of_none hs s.configuredSource with ⟨e, t, h, ht⟩ | ⟨made, t, h, hmade, ht⟩
    · exact Or.inl ⟨e, t, checkCurrency_of_error none h v, ht⟩
    · exact Or.inr ⟨_, made, t, checkCurrency_of_ok none h v, hmade, ht⟩

end Session

/-- The part that an action has in which tables are active. Loads, pinned checks and checks without
tables have none. -/
inductive Role where
  /-- Leaves them alone. -/
  | aloof
  /-- Puts new ones in their place. -/
  | replaces
  /-- Asks for them, and has them built if there are none. -/
  | obtains
  /-- Needs them for a verdict, and has them built if there are none. -/
  | consults
  deriving DecidableEq, Repr

def Action.role : Action → Role
  | .reload _ | .installTexts _ _ | .installKept _ => .replaces
  | .ensure _ | .ensureTogether _ _ | .current => .obtains
  | .checkIbans values none countries =>
    if values.any (Session.ibanReads countries.isSome) then .consults else .aloof
  | .checkCurrencies values none => if values.any (fun _ => true) then .consults else .aloof
  | _ => .aloof

/-- Whether tables are built in this part if there are none. -/
def Role.Uses : Role → Prop
  | obtains | consults => True
  | aloof | replaces => False

/-- Whether an action is a call by a single caller. -/
def Action.IsCall : Action → Prop
  | .ensureTogether _ _ => False
  | _ => True

namespace Session

/-- All that a call can do to the tables, by its role and its answer. -/
inductive Effect (s : Session) (a : Action) : Except Failure Answer → Session → Prop where
  | fails {f t} (same : SameTables s t) (missing : a.role.Uses → s.active = none) :
      Effect s a (.error f) t
  | aloof {answer t} (role : a.role = .aloof) (active : t.active = s.active)
      (shown : ∀ made, answer = .tables made → made.stamp = s.fresh ∧ t.fresh = s.fresh + 1)
      (fresh : s.fresh ≤ t.fresh) : Effect s a (.ok answer) t
  | replaces {made t} (role : a.role = .replaces) (new : NewTables s t made) :
      Effect s a (.ok (.tables made)) t
  | obtains {old t} (role : a.role = .obtains) (found : s.active = some old)
      (same : SameTables s t) : Effect s a (.ok (.tables old)) t
  | builds {made t} (role : a.role = .obtains) (found : s.active = none)
      (new : NewTables s t made) : Effect s a (.ok (.tables made)) t
  | consults {bs old t} (role : a.role = .consults) (found : s.active = some old)
      (same : SameTables s t) : Effect s a (.ok (.verdicts bs)) t
  | buildsFor {bs made t} (role : a.role = .consults) (found : s.active = none)
      (built : (s.load s.configuredSource).1 = .ok made) (new : NewTables s t made) :
      Effect s a (.ok (.verdicts bs)) t

theorem Effect.of_same {s t u : Session} {a : Action} {r : Except Failure Answer}
    (h : Effect s a r t) (k : SameTables t u) : Effect s a r u := by
  cases h with
  | fails same missing => exact .fails (same.trans k) missing
  | aloof role active shown fresh =>
    refine .aloof role (k.active.trans active) ?_ (k.fresh ▸ fresh)
    intro made hmade
    exact ⟨(shown made hmade).1, k.fresh.trans (shown made hmade).2⟩
  | replaces role new => exact .replaces role (new.of_same k)
  | obtains role found same => exact .obtains role found (same.trans k)
  | builds role found new => exact .builds role found (new.of_same k)
  | consults role found same => exact .consults role found (same.trans k)
  | buildsFor role found built new => exact .buildsFor role found built (new.of_same k)

theorem load_effect (s : Session) (source : SourceChoice) :
    Effect s (.load source) (s.act (.load source)).1 (s.act (.load source)).2 := by
  rcases load_cases s (source.resolve s) with ⟨e, t, h, ht⟩ | ⟨made, t, h, hstamp, hactive, hfresh⟩
  · rw [act, h]
    exact .fails ht False.elim
  · rw [act, h]
    refine .aloof rfl hactive ?_ (Nat.le.intro hfresh.symm)
    intro other hother
    cases hother
    exact ⟨hstamp, hfresh⟩

theorem reload_effect (s : Session) (source : SourceChoice) :
    Effect s (.reload source) (s.act (.reload source)).1 (s.act (.reload source)).2 := by
  rcases reload_cases s (source.resolve s) with ⟨e, t, h, ht⟩ | ⟨made, t, h, ht⟩
  · rw [act, h]
    exact .fails ht False.elim
  · rw [act, h]
    exact .replaces rfl ht

theorem installTexts_effect (s : Session) (iban currencies : TableText) :
    Effect s (.installTexts iban currencies) (s.act (.installTexts iban currencies)).1
      (s.act (.installTexts iban currencies)).2 := by
  rcases installTexts_cases s iban currencies with ⟨e, t, h, ht⟩ | ⟨made, t, h, ht⟩
  · rw [act, h]
    exact .fails ht False.elim
  · rw [act, h]
    exact .replaces rfl ht

theorem installKept_effect (s : Session) (name : String) :
    Effect s (.installKept name) (s.act (.installKept name)).1 (s.act (.installKept name)).2 := by
  rw [act]
  cases s.kept? name with
  | none => exact .fails ⟨rfl, rfl⟩ False.elim
  | some t => exact .replaces rfl (installCopy_newTables s t)

theorem ensure_effect (s : Session) (source : Source) :
    (∃ e t, s.ensure source = (.error e, t) ∧ ∀ action f, Effect s action (.error f) t) ∨
      ∃ a t, s.ensure source = (.ok a, t) ∧
        ∀ action, action.role = .obtains → Effect s action (.ok (.tables a)) t := by
  cases ha : s.active with
  | some old =>
    exact Or.inr ⟨old, s, ensure_of_active ha source, fun _ role => .obtains role ha ⟨rfl, rfl⟩⟩
  | none =>
    rcases ensure_of_none ha source with ⟨e, t, h, same⟩ | ⟨made, t, h, -, new⟩
    · exact Or.inl ⟨e, t, h, fun _ _ => .fails same fun _ => ha⟩
    · exact Or.inr ⟨made, t, h, fun _ role => .builds role ha new⟩

theorem consults_effect {s : Session} {a : Action} (h : Consults check reads)
    {values : List String} (role : a.role = if values.any reads then .consults else .aloof) :
    Effect s a (verdictsAnswer (checkAll check s values)).1
      (verdictsAnswer (checkAll check s values)).2 := by
  cases hreads : values.any reads with
  | false =>
    obtain ⟨bs, hall⟩ := checkAll_idle h (s := s) hreads
    rw [hall]
    refine .aloof (by rw [role, hreads]; rfl) rfl ?_ (Nat.le_refl _)
    rintro made ⟨⟩
  | true =>
    have hrole : a.role = .consults := by rw [role, hreads]; rfl
    cases ha : s.active with
    | some old =>
      obtain ⟨bs, t, hall, same⟩ := checkAll_of_active h ha values
      rw [hall]
      exact .consults hrole ha same
    | none =>
      rcases checkAll_of_none h ha hreads with ⟨e, t, hall, same⟩ | ⟨bs, made, t, hall, built, new⟩
      · rw [hall]
        exact .fails same fun _ => ha
      · rw [hall]
        exact .buildsFor hrole ha built new

theorem keeps_effect {s : Session} {a : Action}
    (h : ∀ s v, ∃ b t, check s v = (.ok b, t) ∧ SameTables s t) (role : a.role = .aloof)
    (values : List String) :
    Effect s a (verdictsAnswer (checkAll check s values)).1
      (verdictsAnswer (checkAll check s values)).2 := by
  obtain ⟨bs, t, hall, same⟩ := checkAll_of_keeps (P := fun _ => True) (fun _ _ _ _ => trivial)
    (fun s v _ => h s v) trivial values
  rw [hall]
  refine .aloof role same.active ?_ (Nat.le_of_eq same.fresh.symm)
  rintro made ⟨⟩

theorem pinned_cases (s : Session) (pin : Option String) :
    (∃ name f, pin = some name ∧ s.pinned pin = .error f) ∨ (pin = none ∧ s.pinned pin = .ok none) ∨
      ∃ name a, pin = some name ∧ s.pinned pin = .ok (some a) := by
  cases pin with
  | none => exact Or.inr (Or.inl ⟨rfl, rfl⟩)
  | some name =>
    cases h : s.kept? name with
    | none => exact Or.inl ⟨name, .notKept name, rfl, by simp only [pinned, h]⟩
    | some a => exact Or.inr (Or.inr ⟨name, a, rfl, by simp only [pinned, h]⟩)

theorem checkIbans_effect (s : Session) (values : List String) (pin : Option String)
    (countries : Option (List String)) :
    Effect s (.checkIbans values pin countries) (s.act (.checkIbans values pin countries)).1
      (s.act (.checkIbans values pin countries)).2 := by
  rcases pinned_cases s pin with ⟨name, f, rfl, h⟩ | ⟨rfl, h⟩ | ⟨name, a, rfl, h⟩
  · rw [act, h]
    exact .fails ⟨rfl, rfl⟩ False.elim
  · rw [act, h]
    apply consults_effect (checkIban_consults _)
    rw [Action.role, Option.isSome_map]
  · rw [act, h]
    apply keeps_effect ?_ rfl
    intro t v
    exact checkIban_of_tables (some a) rfl ⟨rfl, rfl⟩ _ v

theorem checkCurrencies_effect (s : Session) (values : List String) (pin : Option String) :
    Effect s (.checkCurrencies values pin) (s.act (.checkCurrencies values pin)).1
      (s.act (.checkCurrencies values pin)).2 := by
  rcases pinned_cases s pin with ⟨name, f, rfl, h⟩ | ⟨rfl, h⟩ | ⟨name, a, rfl, h⟩
  · rw [act, h]
    exact .fails ⟨rfl, rfl⟩ False.elim
  · rw [act, h]
    exact consults_effect checkCurrency_consults rfl
  · rw [act, h]
    apply keeps_effect ?_ rfl
    intro t v
    exact ⟨_, t, rfl, rfl, rfl⟩

theorem sameTables_startLogging (s : Session) (config : Log.Config) (sink : Sink) :
    SameTables s (s.startLogging config sink).2 := by
  unfold startLogging
  dsimp only
  split
  · exact ⟨rfl, rfl⟩
  · exact ⟨rfl, rfl⟩
  · exact ⟨rfl, rfl⟩

theorem sameTables_startLoggingConfigured (s : Session) (config : Log.Config) :
    SameTables s (s.startLoggingConfigured config).2 := by
  unfold startLoggingConfigured
  split
  · exact sameTables_startLogging s config .standardError
  · split
    · exact ⟨rfl, rfl⟩
    · next files place _ =>
      have same : SameTables s { s with files := files } := ⟨rfl, rfl⟩
      exact same.trans (sameTables_startLogging _ config (.file place))

theorem idle_effect {s t : Session} {a : Action} {answer : Answer} (role : a.role = .aloof)
    (same : SameTables s t) (h : ∀ made, answer ≠ .tables made) : Effect s a (.ok answer) t :=
  .aloof role same.active (fun made hmade => absurd hmade (h made)) (Nat.le_of_eq same.fresh.symm)

theorem startLogging_effect (s : Session) (config : Log.Config) (toBuffer : Bool) :
    Effect s (.startLogging config toBuffer) (s.act (.startLogging config toBuffer)).1
      (s.act (.startLogging config toBuffer)).2 := by
  have hsame : ∀ r : Except LoggingError Unit × Session, SameTables s r.2 →
      Effect s (.startLogging config toBuffer) (loggingAnswer r).1 (loggingAnswer r).2 := by
    rintro ⟨e | u, t⟩ same
    · exact .fails same False.elim
    · exact idle_effect rfl same (by simp)
  rw [act]
  apply hsame
  split
  · exact sameTables_startLogging s config .buffer
  · exact sameTables_startLoggingConfigured s config

theorem act_effect (s : Session) {a : Action} (h : a.IsCall) :
    Effect s a (s.act a).1 (s.act a).2 := by
  cases a with
  | writeFile path bytes => exact idle_effect rfl ⟨rfl, rfl⟩ (by simp)
  | makeDirectory path => exact idle_effect rfl ⟨rfl, rfl⟩ (by simp)
  | removeFile path => exact idle_effect rfl ⟨rfl, rfl⟩ (by simp)
  | setVariable name value =>
    rw [act, setVariable]
    cases s.environment.set name value with
    | error e => exact .fails ⟨rfl, rfl⟩ False.elim
    | ok environment => exact idle_effect rfl ⟨rfl, rfl⟩ (by simp)
  | load source => exact load_effect s source
  | ensure source =>
    rcases ensure_effect s (source.resolve s) with ⟨e, t, h, ht⟩ | ⟨a, t, h, ht⟩
    · rw [act, h]
      exact ht _ _
    · rw [act, h]
      exact ht _ rfl
  | ensureTogether source callers => exact h.elim
  | reload source => exact reload_effect s source
  | current =>
    rcases ensure_effect s s.configuredSource with ⟨e, t, h, ht⟩ | ⟨a, t, h, ht⟩
    · rw [act, current, h]
      exact ht _ _
    · rw [act, current, h]
      exact ht _ rfl
  | installTexts iban currencies => exact installTexts_effect s iban currencies
  | installKept name => exact installKept_effect s name
  | checkIbans values pin countries => exact checkIbans_effect s values pin countries
  | checkCurrencies values pin => exact checkCurrencies_effect s values pin
  | checkPlain check values =>
    rw [act]
    cases values.mapM check.verdict with
    | error e => exact .fails ⟨rfl, rfl⟩ False.elim
    | ok bs => exact idle_effect rfl ⟨rfl, rfl⟩ (by simp)
  | startLogging config toBuffer => exact startLogging_effect s config toBuffer
  | emit event => exact idle_effect rfl (sameTables_report s [event]) (by simp)
  | showValues enable => exact idle_effect rfl ⟨rfl, rfl⟩ (by simp)

end Session

end FieldFormats
