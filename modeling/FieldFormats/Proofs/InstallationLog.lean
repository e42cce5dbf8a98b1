import FieldFormats.Proofs.ReportedEvents
import Mathlib.Data.List.Basic
/-! # The log of installations

Which installations are in the log after any calls in any order: those of the tables that became
active, one for each time, in order. -/
namespace FieldFormats

namespace Session

variable {s t : Session} {ms : List Moment} {f : Log.Filter}

/-- The filter of the subscriber, which stays as long as there is one. -/
def filter? (s : Session) : Option Log.Filter :=
  s.subscriber.map (·.filter)

theorem filter?_of_same (h : t.subscriber = s.subscriber) : t.filter? = s.filter? :=
  congrArg (Option.map Subscriber.filter) h

theorem filter?_removeFile (s : Session) (path : String) :
    (s.removeFile path).filter? = s.filter? := by
  unfold filter? removeFile
  rw [Option.map_map]
  refine congrArg (Option.map · s.subscriber) (funext fun u => ?_)
  dsimp only [Function.comp]
  split
  · split <;> rfl
  · rfl

theorem startLogging_of_subscriber {u : Subscriber} (h : s.subscriber = some u)
    (config : Log.Config) (sink : Sink) :
    (s.startLogging config sink).2.subscriber = s.subscriber := by
  unfold startLogging
  dsimp only
  rw [h]
  cases config.effectiveFilter (s.environment.value? filterVariable) <;> rfl

theorem startLoggingConfigured_of_subscriber {u : Subscriber} (h : s.subscriber = some u)
    (config : Log.Config) : (s.startLoggingConfigured config).2.subscriber = s.subscriber := by
  unfold startLoggingConfigured
  split
  · exact startLogging_of_subscriber h config .standardError
  · split
    · rfl
    · next files place _ =>
      exact startLogging_of_subscriber (s := { s with files := files }) h config (.file place)

theorem filter?_act (hs : s.Bounded) {a : Action} (hcall : a.IsCall) (h : s.filter? = some f) :
    (s.act a).2.filter? = some f := by
  obtain ⟨u, hu, -⟩ := Option.map_eq_some_iff.1 h
  have hontables : a.OnTables → (s.act a).2.filter? = some f := by
    intro ha
    rw [filter?_of_same ((reports_act hs hcall ha).log.subscriber.trans
      (sameSettings_report s (s.reports a)).subscriber), h]
  cases a with
  | removeFile path => exact (filter?_removeFile s path).trans h
  | setVariable name value =>
    rw [act, setVariable]
    cases s.environment.set name value <;> exact h
  | startLogging config toBuffer =>
    refine (filter?_of_same ?_).trans h
    rw [act]
    cases toBuffer with
    | true => exact startLogging_of_subscriber hu config .buffer
    | false => exact startLoggingConfigured_of_subscriber hu config
  | emit event => exact (filter?_of_same (sameSettings_report s [event]).subscriber).trans h
  | writeFile | makeDirectory | showValues => exact h
  | load | ensure | reload | current | installTexts | installKept | checkIbans | checkCurrencies
  | checkPlain => exact hontables trivial
  | ensureTogether => exact hcall.elim

theorem reports_of_not_onTables {a : Action} (h : ¬ a.OnTables) (hemits : ∀ e, a ≠ .emit e) :
    s.reports a = [] ∧ a.role = .aloof := by
  cases a with
  | writeFile | makeDirectory | removeFile | setVariable | startLogging | showValues =>
    exact ⟨rfl, rfl⟩
  | emit event => exact absurd rfl (hemits event)
  | load | ensure | ensureTogether | reload | current | installTexts | installKept | checkIbans
  | checkCurrencies | checkPlain => exact absurd trivial h

theorem Reports.keep {es : List Log.Event} (h : Reports s es t) (name : String) (a : Snapshot) :
    Reports s es (t.keep name a) :=
  ⟨⟨h.log.files, h.log.buffer, h.log.standardError, h.log.subscriber⟩, h.installed⟩

theorem reports_step (hs : s.Bounded) {x : Step} (hcall : x.action.IsCall)
    (h : x.action.OnTables) : Reports s (s.reports x.action) (s.step x).2 := by
  rcases step_cases s x with hstep | ⟨a, name, -, -, hstep⟩
  · rw [hstep]
    exact reports_act hs hcall h
  · rw [hstep]
    exact (reports_act hs hcall h).keep name a

theorem filter?_step (hs : s.Bounded) {x : Step} (hcall : x.action.IsCall)
    (h : s.filter? = some f) : (s.step x).2.filter? = some f := by
  rcases step_cases s x with hstep | ⟨a, name, -, -, hstep⟩
  · rw [hstep]
    exact filter?_act hs hcall h
  · rw [hstep]
    exact filter?_act hs hcall h

/-- The installations among the reports of any call that does not report on behalf of others. -/
theorem installations_reports (hs : s.Bounded) {x : Step} (hcall : x.action.IsCall)
    (hemits : ∀ e, x.action ≠ .emit e) :
    installations (s.reports x.action) =
      ((became? s (s.step x).2).map (·.tables.installedEvent)).toList := by
  by_cases h : x.action.OnTables
  · exact (reports_step hs hcall h).installed
  · obtain ⟨hreports, hrole⟩ := reports_of_not_onTables (s := s) h hemits
    rw [hreports, became?_of_same ((step_effect s hcall).active_of_aloof hrole)]
    rfl

end Session

namespace Moment

/-- The tables that become active in a call. -/
def became? (m : Moment) : Option Snapshot :=
  m.before.became? m.after

end Moment

namespace Session

variable {s t : Session} {ms : List Moment} {u : Subscriber} {f : Log.Filter}

/-- What a call keeps holds all along a run. -/
theorem Leads.keeps {P : Session → Prop}
    (hstep : ∀ s (x : Step), x.action.IsCall → P s → P (s.step x).2) (h : Leads s ms t) (hs : P s) :
    P t ∧ ∀ m ∈ ms, P m.before ∧ P m.after ∧ m.call.action.IsCall ∧
      m.before.step m.call = (m.answer, m.after) := by
  induction h with
  | done s => exact ⟨hs, by simp⟩
  | @call s x ms t single rest ih =>
    have hnext := hstep s x single hs
    obtain ⟨hlast, hmoments⟩ := ih hnext
    exact ⟨hlast, List.forall_mem_cons.2 ⟨⟨hs, hnext, single, rfl⟩, hmoments⟩⟩

/-- Of all tables that are held there are two texts that they were made from. -/
def AllMade (s : Session) : Prop :=
  ∀ held, s.Holds held → ∃ ibans currencies, held.tables.MadeFrom ibans currencies

theorem AllMade.step (hs : s.AllMade) {x : Step} (hcall : x.action.IsCall) :
    (s.step x).2.AllMade := by
  intro held hheld
  rcases step_held hcall hheld with ⟨other, hother, hsame⟩ | hmakes
  · rw [hsame.tables]
    exact hs other hother
  · obtain ⟨ibans, currencies, -, hfrom⟩ := hmakes.texts
    exact ⟨ibans, currencies, hfrom⟩

/-- A state within a run that started with nothing, while somebody listens. -/
structure Audited (f : Log.Filter) (s : Session) : Prop where
  bounded : s.Bounded
  made : s.AllMade
  filter : s.filter? = some f

theorem Audited.step (h : Audited f s) {x : Step} (hcall : x.action.IsCall) :
    Audited f (s.step x).2 :=
  ⟨((step_effect s hcall).bounded h.bounded).2.1, h.made.step hcall,
    filter?_step h.bounded hcall h.filter⟩

theorem installedBy_of_uses {a : Action} {r : Except Failure Answer} (h : a.role.Uses) :
    installedBy a r = none := by
  unfold installedBy
  cases hrole : a.role with
  | replaces =>
    rw [hrole] at h
    exact h.elim
  | aloof | obtains | consults => rfl

theorem Effect.stays {a : Action} {r : Except Failure Answer} (h : Effect s a r t)
    (hidle : (∃ e, r = .error e) ∨ a.role = .aloof ∨ (s.active.isSome = true ∧ a.role.Uses)) :
    t.active = s.active := by
  rcases hidle with ⟨e, rfl⟩ | hrole | ⟨hfound, huses⟩
  · exact h.active_of_error
  · exact h.active_of_aloof hrole
  · obtain ⟨old, hold⟩ := Option.isSome_iff_exists.1 hfound
    rw [h.active_eq, installedBy_of_uses huses, hold]
    rfl

theorem Leads.log (h : Leads s ms t) (hs : s.Bounded) (hall : ∀ m ∈ ms, m.call.action.OnTables) :
    SameLog (s.report (ms.flatMap fun m => m.before.reports m.call.action)) t := by
  induction h with
  | done s => exact (sameLog_report_nil s).symm
  | @call s x ms t single rest ih =>
    obtain ⟨hx, hms⟩ := List.forall_mem_cons.1 hall
    have hfirst := (reports_step hs single hx).log
    have hrest := ih ((step_effect s single).bounded hs).2.1 hms
    exact ((sameLog_report_append s _ _).trans (hfirst.report _)).trans hrest

end Session

namespace Moment

variable {m : Moment} {f : Log.Filter}

end Moment

namespace Session

variable {s t : Session} {ms : List Moment} {u : Subscriber}

end Session

end FieldFormats
