import FieldFormats.Proofs.FailedLogging
import FieldFormats.Proofs.Provenance
/-! # What calls report

Calls on tables put nothing into the log but the lines of the events that they report. Among these
are the installations: one for each time that other tables become active. The event is reported
before the tables are in place, by a first use, a reload or an installation, and for a check by the
first use inside it. -/
namespace FieldFormats

/-- An event that says that tables were installed. -/
def Log.Event.Installs (e : Log.Event) : Prop :=
  e.message = "Installed reference tables"

instance : DecidablePred Log.Event.Installs :=
  fun e => inferInstanceAs (Decidable (e.message = _))

/-- The events that say that tables were installed. -/
def installations (events : List Log.Event) : List Log.Event :=
  events.filter (·.Installs)

theorem installations_append (es fs : List Log.Event) :
    installations (es ++ fs) = installations es ++ installations fs :=
  List.filter_append es fs

/-- A load that does not say so. -/
def Traced.Quiet {α : Type} (x : Traced α) : Prop :=
  ∀ e ∈ x.events, ¬ e.Installs

namespace Traced

variable {α β : Type} {x : Traced α} {f : α → Traced β}

theorem quiet_pure (a : α) : (pure a : Traced α).Quiet := by
  simp [Quiet]

theorem quiet_fail (e : LoadError) : (fail e : Traced α).Quiet := by
  simp [Quiet]

theorem quiet_ofExcept (r : Except LoadError α) : (ofExcept r).Quiet := by
  simp [Quiet]

theorem quiet_note {e : Log.Event} (h : ¬ e.Installs) : (note e).Quiet := by
  simpa [Quiet] using h

theorem Quiet.bind (hx : x.Quiet) (hf : ∀ a, (f a).Quiet) : (x >>= f).Quiet := by
  unfold Quiet
  cases hresult : x.result with
  | error e =>
    rw [events_bind_error hresult]
    exact hx
  | ok a =>
    rw [events_bind_ok hresult]
    exact List.forall_mem_append.2 ⟨hx, hf a⟩

theorem Quiet.installations (h : x.Quiet) : installations x.events = [] :=
  List.filter_eq_nil_iff.2 fun e he => by simpa using h e he

end Traced

open Traced

theorem Table.quiet_checkWidth (table : String) (width : ℕ) (rows : List Table.Record) :
    (Table.checkWidth table width rows).Quiet := by
  induction rows with
  | nil => exact quiet_pure []
  | cons row rows ih =>
    rw [checkWidth]
    split
    · refine (quiet_note (by simp [Log.Event.Installs, readEvent])).bind fun _ => ?_
      rw [map_eq_bind]
      exact ih.bind fun _ => quiet_pure _
    · exact quiet_fail _

theorem Iban.Registry.quiet_readFormats (table : String) (found : List Iban.Format)
    (rows : List Table.Record) : (readFormats table found rows).Quiet := by
  induction rows generalizing found with
  | nil => exact quiet_pure found
  | cons row rows ih =>
    rw [readFormats]
    refine (quiet_ofExcept _).bind fun f => ?_
    split
    · exact quiet_fail _
    · exact (quiet_note (by simp [Log.Event.Installs, compiledEvent])).bind fun _ => ih _

theorem Iban.Registry.quiet_load (table text : String) : (load table text).Quiet := by
  refine (Table.quiet_checkWidth table _ _).bind fun rows =>
    (quiet_readFormats table [] rows).bind fun formats => ?_
  split
  · exact quiet_fail _
  · exact (quiet_note (by simp [Log.Event.Installs, loadedEvent])).bind fun _ => quiet_pure _

theorem Currency.Registry.quiet_readCurrencies (table : String) (found : Registry)
    (rows : List Table.Record) : (readCurrencies table found rows).Quiet := by
  induction rows generalizing found with
  | nil => exact quiet_pure found
  | cons row rows ih =>
    rw [readCurrencies]
    refine (quiet_ofExcept _).bind fun c => ?_
    split
    · exact quiet_fail _
    · split
      · exact (quiet_note (by simp [Log.Event.Installs, takenEvent])).bind fun _ => quiet_fail _
      · exact (quiet_note (by simp [Log.Event.Installs, readEvent])).bind fun _ => ih _

theorem Currency.Registry.quiet_load (table text : String) : (load table text).Quiet := by
  refine (Table.quiet_checkWidth table _ _).bind fun rows =>
    (quiet_readCurrencies table {} rows).bind fun registry => ?_
  split
  · exact quiet_fail _
  · exact (quiet_note (by simp [Log.Event.Installs, loadedEvent])).bind fun _ => quiet_pure _

theorem ReferenceTables.quiet_ofTexts (ibans currencies : TableText) :
    (ofTexts ibans currencies).Quiet :=
  (Iban.Registry.quiet_load _ _).bind fun _ =>
    (Currency.Registry.quiet_load _ _).bind fun _ => quiet_pure _

theorem ReferenceTables.quiet_load (files : Files) (source : Source) :
    (load files source).Quiet :=
  (quiet_ofExcept _).bind fun _ => quiet_ofTexts _ _

theorem Iban.Registry.installations_reports (r : Iban.Registry) (showValues : Bool)
    (value : String) : installations (r.reports showValues value) = [] := by
  unfold reports
  split <;> rfl

/-- A file with more at its end; a directory stays one. -/
def Node.extended (bytes : ByteArray) : Node → Node
  | file old => file (old ++ bytes)
  | directory => directory

theorem Files.node?_put_self {fs : Files} {p : Place} {bytes : ByteArray}
    (h : fs.node? p = some (.file bytes)) (n : Node) : (fs.put p n).node? p = some n := by
  have hnames : p.names ≠ [] := by
    intro hnil
    rw [node?, if_pos hnil] at h
    cases h
  rw [node?, if_neg hnames, put, List.find?_cons_of_pos (by simp)]
  rfl

theorem Files.node?_append (fs : Files) (p q : Place) (bytes : ByteArray) :
    (fs.append p bytes).node? q =
      if q = p then (fs.node? q).map (·.extended bytes) else fs.node? q := by
  unfold append
  split
  · next old hold =>
    split
    · next hq =>
      subst hq
      rw [node?_put_self hold, hold]
      rfl
    · next hq => exact node?_put_of_ne fs _ hq
  · next hfile =>
    split
    · next hq =>
      subst hq
      rcases hnode : fs.node? q with _ | ⟨old | _⟩
      · rfl
      · exact absurd hnode (hfile old)
      · rfl
    · rfl

namespace Session

variable {s t u : Session} {es fs : List Log.Event}

/-- Two states with the same log, wherever it is. -/
structure SameLog (s t : Session) : Prop where
  files : ∀ p, t.files.node? p = s.files.node? p
  buffer : t.buffer = s.buffer
  standardError : t.standardError = s.standardError
  subscriber : t.subscriber = s.subscriber

theorem SameLog.refl (s : Session) : SameLog s s :=
  ⟨fun _ => rfl, rfl, rfl, rfl⟩

theorem SameLog.symm (h : SameLog s t) : SameLog t s :=
  ⟨fun p => (h.files p).symm, h.buffer.symm, h.standardError.symm, h.subscriber.symm⟩

theorem SameLog.trans (h : SameLog s t) (k : SameLog t u) : SameLog s u :=
  ⟨fun p => (k.files p).trans (h.files p), k.buffer.trans h.buffer,
    k.standardError.trans h.standardError, k.subscriber.trans h.subscriber⟩

theorem SameLog.write (h : SameLog s t) (sink : Sink) (text : String) :
    SameLog (s.write sink text) (t.write sink text) := by
  cases sink with
  | standardError =>
    exact ⟨h.files, h.buffer, congrArg (· ++ text) h.standardError, h.subscriber⟩
  | buffer => exact ⟨h.files, congrArg (· ++ text) h.buffer, h.standardError, h.subscriber⟩
  | removedFile => exact h
  | file place =>
    refine ⟨fun p => ?_, h.buffer, h.standardError, h.subscriber⟩
    simp only [Session.write, Files.node?_append, h.files]

theorem sameLog_write_append (s : Session) (sink : Sink) (first second : String) :
    SameLog (s.write sink (first ++ second)) ((s.write sink first).write sink second) := by
  cases sink with
  | standardError => exact ⟨fun _ => rfl, rfl, String.append_assoc, rfl⟩
  | buffer => exact ⟨fun _ => rfl, String.append_assoc, rfl, rfl⟩
  | removedFile => exact .refl s
  | file place =>
    refine ⟨fun p => ?_, rfl, rfl, rfl⟩
    simp only [Session.write, Files.node?_append]
    split
    · rcases s.files.node? p with _ | ⟨old | _⟩
      · rfl
      · simp [Node.extended, ByteArray.append_assoc]
      · rfl
    · rfl

theorem sameLog_write_empty (s : Session) (sink : Sink) : SameLog s (s.write sink "") := by
  cases sink with
  | standardError => exact ⟨fun _ => rfl, rfl, String.append_empty, rfl⟩
  | buffer => exact ⟨fun _ => rfl, String.append_empty, rfl, rfl⟩
  | removedFile => exact .refl s
  | file place =>
    refine ⟨fun p => ?_, rfl, rfl, rfl⟩
    simp only [Session.write, Files.node?_append]
    split
    · rcases s.files.node? p with _ | ⟨old | _⟩
      · rfl
      · simp [Node.extended]
      · rfl
    · rfl

theorem textOf_append (u : Subscriber) (es fs : List Log.Event) :
    u.textOf (es ++ fs) = u.textOf es ++ u.textOf fs := by
  simp only [Subscriber.textOf, List.filter_append, List.flatMap_append, String.ofList_append]

theorem SameLog.report (h : SameLog s t) (es : List Log.Event) :
    SameLog (s.report es) (t.report es) := by
  unfold Session.report
  rw [h.subscriber]
  cases s.subscriber with
  | none => exact h
  | some u => exact h.write u.sink (u.textOf es)

theorem sameLog_report_nil (s : Session) : SameLog s (s.report []) := by
  unfold Session.report
  cases s.subscriber with
  | none => exact .refl s
  | some u => exact sameLog_write_empty s u.sink

/-- What is reported in two parts is reported at once. -/
theorem sameLog_report_append (s : Session) (es fs : List Log.Event) :
    SameLog (s.report (es ++ fs)) ((s.report es).report fs) := by
  have hsubscriber := (sameSettings_report s es).subscriber
  unfold Session.report at hsubscriber ⊢
  cases hs : s.subscriber with
  | none =>
    simp only [hs]
    exact .refl s
  | some u =>
    simp only [hs] at hsubscriber ⊢
    rw [hsubscriber]
    dsimp only
    rw [textOf_append]
    exact sameLog_write_append s u.sink _ _

/-- The tables that are active in the second state and were not in the first. -/
def became? (s t : Session) : Option Snapshot :=
  if t.active = s.active then none else t.active

theorem became?_of_same (h : t.active = s.active) : became? s t = none :=
  if_pos h

/-- From one state to the next nothing gets into the log but the lines of these events, and of the
installations there is one if other tables become active, with what is told of them. -/
structure Reports (s : Session) (es : List Log.Event) (t : Session) : Prop where
  log : SameLog (s.report es) t
  installed : installations es = ((became? s t).map (·.tables.installedEvent)).toList

theorem Reports.of_same (hlog : SameLog (s.report es) t) (hquiet : installations es = [])
    (hactive : t.active = s.active) : Reports s es t := by
  refine ⟨hlog, ?_⟩
  rw [hquiet, became?_of_same hactive]
  rfl

theorem Reports.nothing (hlog : SameLog s t) (hactive : t.active = s.active) : Reports s [] t :=
  .of_same ((sameLog_report_nil s).symm.trans hlog) rfl hactive

/-- In two steps of which at most one changes the active tables. -/
theorem Reports.trans (h : Reports s es t) (k : Reports t fs u)
    (hstays : t.active = s.active ∨ u.active = t.active) : Reports s (es ++ fs) u := by
  refine ⟨((sameLog_report_append s es fs).trans (h.log.report fs)).trans k.log, ?_⟩
  rw [installations_append, h.installed, k.installed]
  unfold became?
  rcases hstays with hsame | hsame
  · rw [hsame, if_pos rfl]
    rfl
  · rw [hsame, if_pos rfl]
    exact List.append_nil _

/-- Such a change only where no tables were active. -/
structure Consulting (s : Session) (es : List Log.Event) (t : Session) : Prop
    extends Reports s es t where
  stays : ∀ a, s.active = some a → t.active = some a

theorem Consulting.trans (h : Consulting s es t) (k : Consulting t fs u) :
    Consulting s (es ++ fs) u where
  toReports := by
    refine h.toReports.trans k.toReports ?_
    cases ht : t.active with
    | none =>
      cases hs : s.active with
      | none => exact Or.inl rfl
      | some a => cases ht.symm.trans (h.stays a hs)
    | some a => exact Or.inr (k.stays a ht)
  stays a ha := k.stays a (h.stays a ha)

theorem Consulting.of_same (h : Reports s es t) (hactive : t.active = s.active) :
    Consulting s es t :=
  ⟨h, fun _ ha => hactive.trans ha⟩

theorem consulting_refl (s : Session) : Consulting s [] s :=
  .of_same (.nothing (.refl s) rfl) rfl

theorem reports_install {a : Snapshot} (h : s.active ≠ some a) :
    Reports s [a.tables.installedEvent] (s.install a) := by
  refine ⟨⟨fun _ => rfl, rfl, rfl, rfl⟩, ?_⟩
  rw [became?, install_active, if_neg (Ne.symm h)]
  rfl

/-- The events of a load, and the installation of the tables if it made any. -/
def installing (x : Traced ReferenceTables) : List Log.Event :=
  x.events ++ match x.result with
    | .error _ => []
    | .ok tables => [tables.installedEvent]

section Installing

variable {x : Traced ReferenceTables}

/-- A load counts up the unused references at most. -/
theorem reports_traced (hx : x.Quiet) (s : Session) (n : ℕ) :
    Reports s x.events { s.report x.events with fresh := n } :=
  .of_same ⟨fun _ => rfl, rfl, rfl, rfl⟩ hx.installations (sameTables_report s x.events).active

theorem reports_installing_error (hx : x.Quiet) {e : LoadError} (h : x.result = .error e)
    (s : Session) : Reports s (installing x) (s.report x.events) := by
  rw [installing, h, List.append_nil]
  exact reports_traced hx s (s.report x.events).fresh

theorem reports_installing_ok (hx : x.Quiet) {a : Snapshot} (h : x.result = .ok a.tables) {n : ℕ}
    (hnew : s.active ≠ some a) :
    Reports s (installing x) ({ s.report x.events with fresh := n }.install a) := by
  have hactive := (sameTables_report s x.events).active
  rw [installing, h]
  refine (reports_traced hx s n).trans (reports_install ?_) (Or.inl hactive)
  exact hactive.symm ▸ hnew

end Installing

theorem reports_load (s : Session) (source : Source) :
    Reports s (ReferenceTables.load s.files source).events (s.load source).2 := by
  have hquiet := ReferenceTables.quiet_load s.files source
  unfold load
  dsimp only
  split
  · exact reports_traced hquiet s _
  · exact reports_traced hquiet s _

theorem Bounded.ne_of_stamp (h : s.Bounded) {a : Snapshot} (hstamp : a.stamp = s.fresh) :
    s.active ≠ some a := by
  intro ha
  have := h a ha
  omega

theorem reports_reload (source : Source)
    (hnew : ∀ a, a.stamp = s.fresh → s.active ≠ some a) :
    Reports s (installing (ReferenceTables.load s.files source)) (s.reload source).2 := by
  have hquiet := ReferenceTables.quiet_load s.files source
  unfold reload load
  dsimp only
  cases hresult : (ReferenceTables.load s.files source).result with
  | error e => exact reports_installing_error hquiet hresult s
  | ok tables =>
    have hfresh := (sameTables_report s (ReferenceTables.load s.files source).events).fresh
    exact reports_installing_ok hquiet hresult (hnew _ hfresh)

theorem reports_installTexts (hs : s.Bounded) (ibans currencies : TableText) :
    Reports s (installing (ReferenceTables.ofTexts ibans currencies))
      (s.installTexts ibans currencies).2 := by
  have hquiet := ReferenceTables.quiet_ofTexts ibans currencies
  unfold installTexts
  dsimp only
  cases hresult : (ReferenceTables.ofTexts ibans currencies).result with
  | error e => exact reports_installing_error hquiet hresult s
  | ok tables =>
    have hfresh := (sameTables_report s (ReferenceTables.ofTexts ibans currencies).events).fresh
    exact reports_installing_ok hquiet hresult (hs.ne_of_stamp hfresh)

theorem reports_installCopy (hs : s.Bounded) (a : Snapshot) :
    Reports s [a.tables.installedEvent] (s.installCopy a).2 := by
  let counted : Session := { s with fresh := s.fresh + 1 }
  have hcounted : Reports s [] counted := .nothing ⟨fun _ => rfl, rfl, rfl, rfl⟩ rfl
  have hnew : s.active ≠ some (s.installCopy a).1 := hs.ne_of_stamp rfl
  have hinstall : Reports counted [a.tables.installedEvent] (s.installCopy a).2 :=
    reports_install (s := counted) hnew
  exact hcounted.trans hinstall (Or.inl rfl)

/-- What a use reports. One that finds tables is silent. -/
def useReports (s : Session) (source : Source) : List Log.Event :=
  match s.active with
  | some _ => []
  | none => installing (ReferenceTables.load s.files source)

theorem ensure_eq_reload (h : s.active = none) (source : Source) :
    s.ensure source = s.reload source := by
  unfold ensure reload
  rw [h]

theorem consulting_ensure (s : Session) (source : Source) :
    Consulting s (s.useReports source) (s.ensure source).2 := by
  unfold useReports
  cases ha : s.active with
  | some a =>
    rw [ensure_of_active ha source]
    exact consulting_refl s
  | none =>
    rw [ensure_eq_reload ha source]
    refine ⟨reports_reload source fun a _ => by simp [ha], ?_⟩
    simp [ha]

def pinReports (s : Session) (pin : Option Snapshot) : List Log.Event :=
  match pin with
  | some _ => []
  | none => s.useReports s.configuredSource

theorem consulting_tablesFor (s : Session) (pin : Option Snapshot) :
    Consulting s (s.pinReports pin) (s.tablesFor pin).2 := by
  cases pin with
  | some a => exact consulting_refl s
  | none => exact consulting_ensure s s.configuredSource

/-- What a check of one IBAN reports: its tables, if it has them built, and then its value. -/
def ibanReports (s : Session) (pin : Option Snapshot) (scope : Option Iban.CountryScope)
    (value : String) : List Log.Event :=
  if scope.isSome ∧ value = "" then []
  else s.pinReports pin ++ match s.tablesFor pin with
    | (.error _, _) => []
    | (.ok a, t) => a.tables.iban.reports t.showValues value

theorem consulting_checkIban (s : Session) (pin : Option Snapshot)
    (scope : Option Iban.CountryScope) (v : String) :
    Consulting s (s.ibanReports pin scope v) (s.checkIban pin scope v).2 := by
  have htold := consulting_tablesFor s pin
  unfold ibanReports
  cases hreads : ibanReads scope.isSome v with
  | false =>
    rw [checkIban_of_not_reads hreads, if_pos (ibanReads_eq_false_iff.1 hreads)]
    exact consulting_refl s
  | true =>
    rw [if_neg (ibanReads_eq_true_iff.1 hreads)]
    rcases htables : s.tablesFor pin with ⟨e | a, t⟩
    · rw [htables] at htold
      rw [checkIban_of_error pin hreads htables, List.append_nil]
      exact htold
    · rw [htables] at htold
      obtain ⟨b, hcheck⟩ := checkIban_reports pin hreads htables
      have hactive := (sameTables_report t (a.tables.iban.reports t.showValues v)).active
      rw [hcheck]
      exact htold.trans (.of_same (.of_same (.refl _)
        (Iban.Registry.installations_reports _ _ v) hactive) hactive)

theorem consulting_checkCurrency (s : Session) (pin : Option Snapshot) (v : String) :
    Consulting s (s.pinReports pin) (s.checkCurrency pin v).2 := by
  have htold := consulting_tablesFor s pin
  rcases htables : s.tablesFor pin with ⟨e | a, t⟩
  · rw [htables] at htold
    rw [checkCurrency_of_error pin htables]
    exact htold
  · rw [htables] at htold
    rw [checkCurrency_of_ok pin htables]
    exact htold

/-- What checks of several values report, up to the one that fails. -/
def allReports (check : Session → String → Except LoadError Bool × Session)
    (reports : Session → String → List Log.Event) (s : Session) : List String → List Log.Event
  | [] => []
  | v :: vs =>
    reports s v ++ match check s v with
      | (.error _, _) => []
      | (.ok _, t) => allReports check reports t vs

theorem consulting_checkAll {check : Session → String → Except LoadError Bool × Session}
    {reports : Session → String → List Log.Event}
    (h : ∀ s v, Consulting s (reports s v) (check s v).2) (s : Session) (values : List String) :
    Consulting s (allReports check reports s values) (checkAll check s values).2 := by
  induction values generalizing s with
  | nil => exact consulting_refl s
  | cons v vs ih =>
    have hfirst := h s v
    rw [allReports]
    rcases hcheck : check s v with ⟨e | b, t⟩
    · rw [hcheck] at hfirst
      rw [checkAll, hcheck, List.append_nil]
      exact hfirst
    · rw [hcheck] at hfirst
      have hrest := ih t
      rcases hall : checkAll check t vs with ⟨e | bs, u⟩
      · rw [hall] at hrest
        rw [checkAll_cons_error hcheck hall]
        exact hfirst.trans hrest
      · rw [hall] at hrest
        rw [checkAll_cons_ok hcheck hall]
        exact hfirst.trans hrest

/-- The events that a call reports. -/
def reports (s : Session) : Action → List Log.Event
  | .load source => (ReferenceTables.load s.files (source.resolve s)).events
  | .ensure source => s.useReports (source.resolve s)
  | .reload source => installing (ReferenceTables.load s.files (source.resolve s))
  | .current => s.useReports s.configuredSource
  | .installTexts iban currencies => installing (ReferenceTables.ofTexts iban currencies)
  | .installKept name => (s.kept? name).toList.map (·.tables.installedEvent)
  | .checkIbans values pin countries =>
    match s.pinned pin with
    | .error _ => []
    | .ok pin =>
      let scope := countries.map Iban.CountryScope.ofCountries
      allReports (fun s v => s.checkIban pin scope v) (fun s v => s.ibanReports pin scope v) s
        values
  | .checkCurrencies values pin =>
    match s.pinned pin with
    | .error _ => []
    | .ok pin =>
      allReports (fun s v => s.checkCurrency pin v) (fun s _ => s.pinReports pin) s values
  | .emit event => [event]
  | _ => []

end Session

/-- Whether an action is about tables. All others are about the surroundings or the log. -/
def Action.OnTables : Action → Prop
  | .load _ | .ensure _ | .ensureTogether _ _ | .reload _ | .current | .installTexts _ _
  | .installKept _ | .checkIbans _ _ _ | .checkCurrencies _ _ | .checkPlain _ _ => True
  | _ => False

namespace Session

variable {s : Session} {a : Action}

theorem state_act_current (s : Session) :
    (s.act .current).2 = (s.ensure s.configuredSource).2 := by
  rw [act, current]
  rcases s.ensure s.configuredSource with ⟨e | a, t⟩ <;> rfl

theorem reports_act (hs : s.Bounded) (hcall : a.IsCall) (h : a.OnTables) :
    Reports s (s.reports a) (s.act a).2 := by
  cases a with
  | load source => exact reports_load s _
  | ensure source => exact (consulting_ensure s _).toReports
  | ensureTogether => exact hcall.elim
  | reload source => exact reports_reload _ fun _ => hs.ne_of_stamp
  | current =>
    rw [state_act_current]
    exact (consulting_ensure s s.configuredSource).toReports
  | installTexts iban currencies => exact reports_installTexts hs _ _
  | installKept name =>
    rw [act, reports]
    cases s.kept? name with
    | none => exact (consulting_refl s).toReports
    | some a => exact reports_installCopy hs a
  | checkIbans values pin countries =>
    rw [act, reports]
    cases s.pinned pin with
    | error f => exact (consulting_refl s).toReports
    | ok pin => exact (consulting_checkAll (fun s v => consulting_checkIban s _ _ v) s _).toReports
  | checkCurrencies values pin =>
    rw [act, reports]
    cases s.pinned pin with
    | error f => exact (consulting_refl s).toReports
    | ok pin =>
      exact (consulting_checkAll (fun s v => consulting_checkCurrency s _ v) s _).toReports
  | checkPlain check values => exact (consulting_refl s).toReports
  | writeFile | makeDirectory | removeFile | setVariable | startLogging | emit | showValues =>
    exact h.elim

end Session

end FieldFormats
