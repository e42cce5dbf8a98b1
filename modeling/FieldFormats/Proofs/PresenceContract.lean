import FieldFormats.Proofs.CallEffects
/-! # The empty value and blank values

What all checks say of a value without content, whatever they are set up with and whatever state
they meet. A check that is left to the active tables asks for them before it looks at the value, so
that it fails where they cannot be built. -/
namespace FieldFormats

variable {v : String}

theorem Presence.check_of_isBlankText (accepts : String → Bool)
    (h : Text.isBlankText v = true) : Presence.check accepts v = decide (v = "") := by
  by_cases hv : v = ""
  · subst hv
    exact check_empty accepts
  · rw [check_blank accepts hv h, decide_eq_false hv]

/-- A beginning of blanks makes no difference: blank values are no phone numbers to begin with. -/
theorem Phone.isMsisdn_of_isBlankText (start : String) (h : Text.isBlankText v = true) :
    Phone.isMsisdn start v = decide (v = "") := by
  rw [isMsisdn, isE123, Presence.check_of_isBlankText _ h]
  by_cases hv : v = "" <;> simp [hv]

/-- A value without content is judged before the clock is asked for its day. -/
theorem Calendar.isPastOrPresent_of_isBlankText (c : Clock) (h : Text.isBlankText v = true) :
    isPastOrPresent c v = .ok (decide (v = "")) := by
  by_cases hv : v = ""
  · subst hv
    rfl
  · rw [isPastOrPresent, Presence.of_blank hv h, decide_eq_false hv]

theorem PlainCheck.verdict_of_isBlankText (c : PlainCheck) (h : Text.isBlankText v = true) :
    c.verdict v = .ok (decide (v = "")) := by
  cases c with
  | msisdn start => exact congrArg Except.ok (Phone.isMsisdn_of_isBlankText start h)
  | pastOrPresent clock => exact Calendar.isPastOrPresent_of_isBlankText clock h
  | alpha3 | e123 | date | dateTime | future | past | oneOf =>
    exact congrArg Except.ok (Presence.check_of_isBlankText _ h)

namespace Iban

theorem Registry.accepts_of_isBlankText (r : Registry) (h : Text.isBlankText v = true) :
    r.accepts v = decide (v = "") := by
  by_cases hv : v = ""
  · subst hv
    rfl
  · simp [accepts, verdict, Presence.of_blank hv h, hv]

theorem CountryScope.accepts_of_base (c : CountryScope) {base : String → Bool}
    (h : base v = decide (v = "")) : c.accepts base v = decide (v = "") := by
  by_cases hv : v = "" <;> simp [accepts, h, hv]

end Iban

/-- A check with what it is set up with. Without tables of its own it is left to the active ones. -/
inductive Check where
  | iban (pin : Option Snapshot) (scope : Option Iban.CountryScope)
  | currency (pin : Option Snapshot)
  | plain (check : PlainCheck)

namespace Check

def verdict (c : Check) (s : Session) (v : String) : Except Failure Bool × Session :=
  match c with
  | iban pin scope => (s.checkIban pin scope v).map (.mapError .panic) id
  | currency pin => (s.checkCurrency pin v).map (.mapError .panic) id
  | plain check => ((check.verdict v).mapError .clock, s)

/-- Whether a check asks for the active tables when it is given a value. -/
def consults (c : Check) (v : String) : Bool :=
  match c with
  | iban none scope => Session.ibanReads scope.isSome v
  | currency none => true
  | _ => false

end Check

namespace Session

variable {s : Session}

theorem current_eq_error_iff {e : LoadError} :
    s.current.1 = .error e ↔ s.active = none ∧ (s.load s.configuredSource).1 = .error e := by
  cases ha : s.active with
  | some old =>
    rw [current, ensure_of_active ha]
    simp
  | none =>
    rcases hload : s.load s.configuredSource with ⟨d | made, t⟩
    · rw [current, ensure_of_load_error ha hload]
      simp
    · rw [current, ensure_of_load_ok ha hload]
      simp

/-- The tables are all that matters to a check of IBANs: it asks for them or knows the answer. -/
theorem checkIban_of_isBlankText (s : Session) (pin : Option Snapshot)
    (scope : Option Iban.CountryScope) (h : Text.isBlankText v = true) :
    (s.checkIban pin scope v).1 =
      if ibanReads scope.isSome v then (s.tablesFor pin).1.map fun _ => decide (v = "")
      else .ok (decide (v = "")) := by
  cases hreads : ibanReads scope.isSome v with
  | false =>
    obtain ⟨-, hv⟩ := ibanReads_eq_false_iff.1 hreads
    rw [checkIban_of_not_reads hreads, decide_eq_true hv]
    rfl
  | true =>
    rcases htables : s.tablesFor pin with ⟨e | a, t⟩
    · rw [checkIban_of_error pin hreads htables]
      rfl
    · have hregistry := a.tables.iban.accepts_of_isBlankText h
      unfold checkIban
      rw [if_neg (ibanReads_eq_true_iff.1 hreads), htables]
      cases scope with
      | none => exact congrArg Except.ok hregistry
      | some c => exact congrArg Except.ok (c.accepts_of_base hregistry)

theorem checkCurrency_of_isBlankText (s : Session) (pin : Option Snapshot)
    (h : Text.isBlankText v = true) :
    (s.checkCurrency pin v).1 = (s.tablesFor pin).1.map fun _ => decide (v = "") := by
  rcases htables : s.tablesFor pin with ⟨e | a, t⟩
  · rw [checkCurrency_of_error pin htables]
    rfl
  · rw [checkCurrency_of_ok pin htables]
    exact congrArg Except.ok (Presence.check_of_isBlankText _ h)

end Session

namespace Check

/-- Of a value without content only whether it is empty counts, once the tables are at hand. -/
theorem verdict_of_isBlankText (c : Check) (s : Session) (h : Text.isBlankText v = true) :
    (c.verdict s v).1 =
      (if c.consults v then s.current.1.map fun _ => decide (v = "")
        else .ok (decide (v = ""))).mapError Failure.panic := by
  cases c with
  | iban pin scope =>
    rw [verdict, Prod.map_fst, Session.checkIban_of_isBlankText s pin scope h]
    cases pin with
    | none => rfl
    | some a => exact congrArg _ (ite_self _)
  | currency pin =>
    rw [verdict, Prod.map_fst, Session.checkCurrency_of_isBlankText s pin h]
    cases pin with
    | none => rfl
    | some a => rfl
  | plain check =>
    rw [verdict, check.verdict_of_isBlankText h]
    rfl

/-- What a check makes of a value without content in a state. -/
structure WithoutContent (c : Check) (s : Session) (v : String) : Prop where
  verdict : ∀ b, (c.verdict s v).1 = .ok b → b = decide (v = "")
  /-- It fails where it asks for tables that are not there and cannot be built, and only there. -/
  fails : ∀ f, (c.verdict s v).1 = .error f ↔ c.consults v = true ∧ s.active = none ∧
    ∃ e, (s.load s.configuredSource).1 = .error e ∧ f = .panic e

theorem withoutContent_of_isBlankText (c : Check) (s : Session)
    (h : Text.isBlankText v = true) : c.WithoutContent s v := by
  have hverdict := c.verdict_of_isBlankText s h
  cases hconsults : c.consults v with
  | false =>
    rw [hconsults] at hverdict
    constructor
    · intro b hb
      cases hverdict.symm.trans hb
      rfl
    · intro f
      refine iff_of_false ?_ fun hf => Bool.false_ne_true (hconsults.symm.trans hf.1)
      intro hf
      cases hverdict.symm.trans hf
  | true =>
    rw [hconsults, if_pos rfl] at hverdict
    cases hcurrent : s.current.1 with
    | error e =>
      rw [hcurrent] at hverdict
      obtain ⟨hactive, hload⟩ := Session.current_eq_error_iff.1 hcurrent
      constructor
      · intro b hb
        cases hverdict.symm.trans hb
      · intro f
        constructor
        · intro hf
          cases hverdict.symm.trans hf
          exact ⟨hconsults, hactive, e, hload, rfl⟩
        · rintro ⟨-, -, d, hd, rfl⟩
          cases hload.symm.trans hd
          exact hverdict
    | ok a =>
      rw [hcurrent] at hverdict
      constructor
      · intro b hb
        cases hverdict.symm.trans hb
        rfl
      · intro f
        constructor
        · intro hf
          cases hverdict.symm.trans hf
        · rintro ⟨-, hactive, e, hload, -⟩
          cases hcurrent.symm.trans (Session.current_eq_error_iff.2 ⟨hactive, hload⟩)

/-- The environment names a directory that is not there. -/
def missingDirectory : List Step :=
  [⟨.setVariable Source.variableName (some "missing"), none⟩]

/-- The state in which no tables have been built and none can be. -/
def stranded : Session :=
  (({} : Session).run missingDirectory).2

theorem withoutContent_stranded :
    Text.isBlankText "\u3000" = true ∧
      ((currency none).verdict stranded "\u3000").1 =
        .error (.panic (.directoryNotFound "missing")) ∧
      ∀ a, ((currency (some a)).verdict stranded "\u3000").1 = .ok false := by
  have hblank : Text.isBlankText "\u3000" = true := by decide
  refine ⟨hblank, ?_, ?_⟩
  · exact ((withoutContent_of_isBlankText (currency none) stranded hblank).fails _).2
      ⟨rfl, rfl, _, rfl, rfl⟩
  · intro a
    have hwithout := withoutContent_of_isBlankText (currency (some a)) stranded hblank
    cases hverdict : ((currency (some a)).verdict stranded "\u3000").1 with
    | error f => cases ((hwithout.fails f).1 hverdict).1
    | ok b => rw [hwithout.verdict b hverdict, decide_eq_false (by decide)]

/-- The empty value and a blank one have no verdict there. -/
theorem stranded_without_verdict :
    (({} : Session).run (missingDirectory ++
        [⟨.checkIbans [""] none none, none⟩, ⟨.checkCurrencies [" "] none, none⟩])).1 =
      [.ok .done, .error (.panic (.directoryNotFound "missing")),
        .error (.panic (.directoryNotFound "missing"))] ∧
      ¬ ∀ (steps : List Step) (c : Check) (v : String), Text.isBlankText v = true →
        (c.verdict (({} : Session).run steps).2 v).1 = .ok (decide (v = "")) := by
  refine ⟨rfl, ?_⟩
  intro h
  cases h missingDirectory (iban none none) "" rfl

end Check

end FieldFormats
