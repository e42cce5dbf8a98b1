import FieldFormats.Proofs.ActiveTables
import FieldFormats.Proofs.RegistryContents
/-! # What a masked log gives away

While values are masked, a check leaves the same in the log for all values of which the registry
observes the same: nothing, or two characters that are no country of it. Two runs whose values
differ in no other way write the same logs. -/
namespace FieldFormats

namespace Iban

open FieldFormats.Text

theorem ascii_of_mem_normalize {cs : List Char} {c : Char} (h : c ∈ normalize cs) :
    c.toNat < 128 := by
  rw [normalize_eq_filter] at h
  have hbounds := toNat_of_isAlphanum (List.mem_filter.1 h).2
  omega

theorem countryCode?_eq_some_iff {cs country : List Char} (h : ∀ c ∈ cs, c.toNat < 128) :
    countryCode? cs = some country ↔ cs.take 2 = country ∧ country.length = 2 := by
  match cs, h with
  | [], _ =>
    refine iff_of_false (by simp [countryCode?, takeBytes?]) ?_
    rintro ⟨rfl, hlength⟩
    cases hlength
  | [a], h =>
    refine iff_of_false ?_ ?_
    · simp [countryCode?, takeBytes?, utf8Size_of_ascii (h a List.mem_cons_self)]
    · rintro ⟨rfl, hlength⟩
      cases hlength
  | a :: b :: rest, h =>
    have hascii : ∀ c ∈ [a, b], c.toNat < 128 := fun c hc => h c (List.mem_append_left rest hc)
    have hcode : countryCode? (a :: b :: rest) = some [a, b] := takeBytes?_of_ascii hascii rest
    rw [hcode, Option.some.injEq]
    constructor
    · rintro rfl
      exact ⟨rfl, rfl⟩
    · rintro ⟨htake, -⟩
      exact htake

namespace Registry

variable {r : Registry} {cs country : List Char} {code v w : String}

/-- The first two characters of a candidate that is long enough and of no registered country. -/
def observation (r : Registry) (value : String) : Option (List Char) :=
  let candidate := normalize value.toList
  let country := candidate.take 2
  if candidate.length < r.minimumLength ∨ r.contains (String.ofList country) = true then none
  else some country

theorem find?_eq_none_iff : r.find? code = none ↔ ¬ r.contains code = true := by
  rw [contains_iff_exists_find?, ← Option.isSome_iff_exists, Bool.not_eq_true,
    Option.isSome_eq_false_iff, Option.isNone_iff_eq_none]

theorem observation_eq_some_iff :
    r.observation v = some country ↔ r.minimumLength ≤ (normalize v.toList).length ∧
      (normalize v.toList).take 2 = country ∧ r.find? (String.ofList country) = none := by
  rw [find?_eq_none_iff]
  unfold observation
  dsimp only
  constructor
  · intro h
    split at h
    · cases h
    · next hseen =>
      rw [not_or, Nat.not_lt] at hseen
      cases h
      exact ⟨hseen.1, rfl, hseen.2⟩
  · rintro ⟨hlong, rfl, hnew⟩
    exact if_neg (not_or.2 ⟨Nat.not_lt.2 hlong, hnew⟩)

theorem judge_eq_unregistered_iff (h : ∀ c ∈ cs, c.toNat < 128) :
    r.judge cs = .unregistered code ↔ r.minimumLength ≤ cs.length ∧
      ∃ a b, cs.take 2 = [a, b] ∧ r.find? (String.ofList [a, b]) = none ∧
        code = String.ofList [a, b] := by
  unfold judge
  rw [byteLength_of_ascii h]
  split
  · next hshort =>
    refine iff_of_false (by simp) ?_
    rintro ⟨hlong, -⟩
    exact absurd hshort (Nat.not_lt.2 hlong)
  · next hlong =>
    rw [Nat.not_lt] at hlong
    split
    · next hcode =>
      refine iff_of_false (by simp) ?_
      rintro ⟨-, a, b, htake, -⟩
      rw [(countryCode?_eq_some_iff h).2 ⟨htake, rfl⟩] at hcode
      cases hcode
    · next country hcode =>
      obtain ⟨htake, hlength⟩ := (countryCode?_eq_some_iff h).1 hcode
      obtain ⟨a, b, rfl⟩ := List.length_eq_two.1 hlength
      split
      · next f hfind =>
        refine iff_of_false (by split <;> simp) ?_
        rintro ⟨-, c, d, hother, hnone, -⟩
        rw [hother.symm.trans htake, hfind] at hnone
        cases hnone
      · next hfind =>
        constructor
        · intro hjudge
          cases hjudge
          exact ⟨hlong, a, b, htake, hfind, rfl⟩
        · rintro ⟨-, c, d, hother, -, rfl⟩
          rw [htake.symm.trans hother]

theorem verdict_eq_unregistered_iff :
    r.verdict v = .unregistered code ↔
      ∃ a b, r.observation v = some [a, b] ∧ code = String.ofList [a, b] := by
  have hempty : normalize v.toList = [] → ¬ ∃ a b, r.observation v = some [a, b] ∧
      code = String.ofList [a, b] := by
    rintro hnil ⟨a, b, hseen, -⟩
    have htake := (observation_eq_some_iff.1 hseen).2.1
    rw [hnil] at htake
    cases htake
  unfold verdict Presence.of
  by_cases hv : v = ""
  · subst hv
    rw [if_pos rfl]
    exact iff_of_false (by simp) (hempty rfl)
  · rw [if_neg hv]
    by_cases hblank : isBlankText v = true
    · rw [if_pos hblank]
      exact iff_of_false (by simp) (hempty (normalize_of_isBlankText hblank))
    · rw [if_neg hblank]
      dsimp only
      rw [judge_eq_unregistered_iff fun c => ascii_of_mem_normalize]
      constructor
      · rintro ⟨hlong, a, b, htake, hnone, hcode⟩
        exact ⟨a, b, observation_eq_some_iff.2 ⟨hlong, htake, hnone⟩, hcode⟩
      · rintro ⟨a, b, hseen, hcode⟩
        obtain ⟨hlong, htake, hnone⟩ := observation_eq_some_iff.1 hseen
        exact ⟨hlong, a, b, htake, hnone, hcode⟩

theorem reports_congr (h : r.observation v = r.observation w) :
    r.reports false v = r.reports false w := by
  have hverdict : ∀ code, r.verdict v = .unregistered code ↔ r.verdict w = .unregistered code := by
    intro code
    rw [verdict_eq_unregistered_iff, verdict_eq_unregistered_iff, h]
  unfold reports
  split
  · next code hv =>
    -- The event names the value only by its mask.
    rw [(hverdict code).1 hv]
    rfl
  · next hv =>
    split
    · next code hw => exact absurd ((hverdict code).2 hw) (hv code)
    · rfl

end Registry

end Iban

namespace Session

theorem showValues_tablesFor {s t : Session} {pin : Option Snapshot}
    {result : Except LoadError Snapshot} (h : s.tablesFor pin = (result, t)) :
    t.showValues = s.showValues := by
  have hsame := (sameSettings_tablesFor s pin).showValues
  rw [h] at hsame
  exact hsame

/-- Tables that a check has found are found again. -/
theorem tablesFor_again {s t u : Session} {pin : Option Snapshot} {a : Snapshot}
    (h : s.tablesFor pin = (.ok a, t)) (hu : SameTables t u) : u.tablesFor pin = (.ok a, u) := by
  cases pin with
  | some b =>
    cases h
    rfl
  | none =>
    have hactive : t.active = some a := active_of_ensure h
    exact ensure_of_active (hu.active.trans hactive) u.configuredSource

/-- The registry in force for a check: that of its own tables, of the active ones, or of those it
would have built. -/
def registryFor? (s : Session) (pin : Option Snapshot) : Option Iban.Registry :=
  (s.tablesFor pin).1.toOption.map (·.tables.iban)

/-- Values of which the registry in force observes the same, and neither or both of them empty. -/
structure Alike (s : Session) (pin : Option Snapshot) (v w : String) : Prop where
  empty : v = "" ↔ w = ""
  observed : ∀ r ∈ s.registryFor? pin, r.observation v = r.observation w

/-- Two outcomes of a check that differ in the verdict at most. -/
inductive UpToVerdict {α : Type} :
    Except LoadError α × Session → Except LoadError α × Session → Prop where
  | fails (e : LoadError) (t : Session) : UpToVerdict (.error e, t) (.error e, t)
  | decides (a b : α) (t : Session) : UpToVerdict (.ok a, t) (.ok b, t)

theorem ibanReads_congr {v w : String} (h : v = "" ↔ w = "") (restricted : Bool) :
    ibanReads restricted v = ibanReads restricted w := by
  simp only [ibanReads, h]

theorem registryFor?_of_tablesFor {s t : Session} {pin : Option Snapshot} {a : Snapshot}
    (h : s.tablesFor pin = (.ok a, t)) : s.registryFor? pin = some a.tables.iban := by
  rw [registryFor?, h]
  rfl

theorem checkIban_upToVerdict {s : Session} {pin : Option Snapshot} {v w : String}
    (hmasked : s.showValues = false) (h : s.Alike pin v w) (scope : Option Iban.CountryScope) :
    UpToVerdict (s.checkIban pin scope v) (s.checkIban pin scope w) := by
  have hreads := ibanReads_congr h.empty scope.isSome
  cases hv : ibanReads scope.isSome v with
  | false =>
    rw [checkIban_of_not_reads hv, checkIban_of_not_reads (hreads.symm.trans hv)]
    exact .decides true true s
  | true =>
    have hw := hreads.symm.trans hv
    rcases htables : s.tablesFor pin with ⟨result, t⟩
    cases result with
    | error e =>
      rw [checkIban_of_error pin hv htables, checkIban_of_error pin hw htables]
      exact .fails e t
    | ok a =>
      obtain ⟨b, hcheck⟩ := checkIban_reports pin hv htables
      obtain ⟨c, hother⟩ := checkIban_reports pin hw htables
      have hseen := h.observed _ (registryFor?_of_tablesFor htables)
      have hmasked : t.showValues = false := (showValues_tablesFor htables).trans hmasked
      rw [hcheck, hother, hmasked, Iban.Registry.reports_congr hseen]
      exact .decides b c _

theorem alike_after_checkIban {s t : Session} {pin : Option Snapshot}
    {scope : Option Iban.CountryScope} {v : String} {b : Bool}
    (h : s.checkIban pin scope v = (.ok b, t)) :
    t.showValues = s.showValues ∧ ∀ x y, s.Alike pin x y → t.Alike pin x y := by
  cases hreads : ibanReads scope.isSome v with
  | false =>
    rw [checkIban_of_not_reads hreads] at h
    cases h
    exact ⟨rfl, fun _ _ hxy => hxy⟩
  | true =>
    rcases htables : s.tablesFor pin with ⟨result, u⟩
    cases result with
    | error e =>
      rw [checkIban_of_error pin hreads htables] at h
      cases h
    | ok a =>
      obtain ⟨c, hcheck⟩ := checkIban_reports pin hreads htables
      cases hcheck.symm.trans h
      refine ⟨(sameSettings_report u _).showValues.trans (showValues_tablesFor htables), ?_⟩
      intro x y hxy
      refine ⟨hxy.empty, ?_⟩
      -- The registry in force stays the one that was found first.
      have hagain := tablesFor_again htables
        (sameTables_report u (a.tables.iban.reports u.showValues v))
      rw [registryFor?_of_tablesFor hagain, ← registryFor?_of_tablesFor htables]
      exact hxy.observed

theorem checkCurrency_upToVerdict (s : Session) (pin : Option Snapshot) (v w : String) :
    UpToVerdict (s.checkCurrency pin v) (s.checkCurrency pin w) := by
  rcases htables : s.tablesFor pin with ⟨result, t⟩
  cases result with
  | error e =>
    rw [checkCurrency_of_error pin htables, checkCurrency_of_error pin htables]
    exact .fails e t
  | ok a =>
    rw [checkCurrency_of_ok pin htables, checkCurrency_of_ok pin htables]
    exact .decides _ _ t

theorem checkAll_upToVerdict {check : Session → String → Except LoadError Bool × Session}
    {R : Session → String → String → Prop}
    (hcheck : ∀ s v w, R s v w → UpToVerdict (check s v) (check s w))
    (hafter : ∀ s v b t, check s v = (.ok b, t) → ∀ x y, R s x y → R t x y) {s : Session}
    {vs ws : List String} (h : List.Forall₂ (R s) vs ws) :
    UpToVerdict (checkAll check s vs) (checkAll check s ws) := by
  induction vs generalizing s ws with
  | nil =>
    cases h
    exact .decides [] [] s
  | cons v vs ih =>
    cases h with
    | @cons _ w _ ws hvw hrest =>
      have hfirst := hcheck s v w hvw
      generalize hv : check s v = left at hfirst
      generalize hw : check s w = right at hfirst
      cases hfirst with
      | fails e t =>
        simp only [checkAll, hv, hw]
        exact .fails e t
      | decides a b t =>
        have hnext := ih (hrest.imp (hafter s v a t hv))
        generalize hvs : checkAll check t vs = left at hnext
        generalize hws : checkAll check t ws = right at hnext
        cases hnext with
        | fails e u =>
          rw [checkAll_cons_error hv hvs, checkAll_cons_error hw hws]
          exact .fails e u
        | decides as bs u =>
          rw [checkAll_cons_ok hv hvs, checkAll_cons_ok hw hws]
          exact .decides _ _ u

/-- Actions that differ at most in the values they check. Those checked as IBANs have to be alike.
All others leave no trace and may be any; there have to be as many where one value is enough to
have tables built. -/
inductive SameButValues (s : Session) : Action → Action → Prop where
  | same (a : Action) : SameButValues s a a
  | ibans {values others : List String} {pin : Option String} {countries : Option (List String)}
      (alike : ∀ t, s.pinned pin = .ok t → List.Forall₂ (s.Alike t) values others) :
      SameButValues s (.checkIbans values pin countries) (.checkIbans others pin countries)
  | currencies {values others : List String} {pin : Option String}
      (length : values.length = others.length) :
      SameButValues s (.checkCurrencies values pin) (.checkCurrencies others pin)
  | plain (check : PlainCheck) (values others : List String) :
      SameButValues s (.checkPlain check values) (.checkPlain check others)

/-- Two answers that are alike, or verdicts both. Of checks without tables one may fail where the
other does not. -/
inductive SameButVerdicts : Except Failure Answer × Session → Except Failure Answer × Session →
    Prop where
  | same (r : Except Failure Answer × Session) : SameButVerdicts r r
  | verdicts (as bs : List Bool) (t : Session) :
      SameButVerdicts (.ok (.verdicts as), t) (.ok (.verdicts bs), t)
  | plain (p q : Except Calendar.ClockFault (List Bool)) (t : Session) :
      SameButVerdicts (plainAnswer p, t) (plainAnswer q, t)

theorem sameButVerdicts_of_upToVerdict {p q : Except LoadError (List Bool) × Session}
    (h : UpToVerdict p q) : SameButVerdicts (verdictsAnswer p) (verdictsAnswer q) := by
  cases h with
  | fails e t => exact .same _
  | decides as bs t => exact .verdicts as bs t

theorem act_sameButVerdicts {s : Session} {a b : Action} (hmasked : s.showValues = false)
    (h : s.SameButValues a b) : SameButVerdicts (s.act a) (s.act b) := by
  cases h with
  | same => exact .same _
  | @ibans values others pin countries alike =>
    rw [act, act]
    cases hpin : s.pinned pin with
    | error f => exact .same _
    | ok t =>
      apply sameButVerdicts_of_upToVerdict
      apply checkAll_upToVerdict (R := fun s v w => s.showValues = false ∧ s.Alike t v w)
      · rintro s v w ⟨hs, hvw⟩
        exact checkIban_upToVerdict hs hvw _
      · rintro s v b u hcheck x y ⟨hs, hxy⟩
        obtain ⟨hshow, halike⟩ := alike_after_checkIban hcheck
        exact ⟨hshow.trans hs, halike x y hxy⟩
      · exact (alike t hpin).imp fun _ _ hvw => ⟨hmasked, hvw⟩
  | @currencies values others pin length =>
    rw [act, act]
    cases s.pinned pin with
    | error f => exact .same _
    | ok t =>
      apply sameButVerdicts_of_upToVerdict
      apply checkAll_upToVerdict (R := fun _ _ _ => True)
      · exact fun s v w _ => checkCurrency_upToVerdict s t v w
      · exact fun _ _ _ _ _ _ _ _ => trivial
      · exact List.forall₂_iff_zip.2 ⟨length, fun _ => trivial⟩
  | plain check values others => exact .plain _ _ s

theorem step_agrees {s : Session} {x y : Step} (hmasked : s.showValues = false)
    (h : s.SameButValues x.action y.action) (hkeep : x.keepAs = y.keepAs) :
    (s.step x).2 = (s.step y).2 := by
  have hact := act_sameButVerdicts hmasked h
  unfold step
  generalize s.act x.action = left at hact
  generalize s.act y.action = right at hact
  cases hact with
  | same => rw [hkeep]
  | verdicts as bs t => rfl
  | plain p q t =>
    -- Neither verdicts nor a failure are kept under a name.
    cases p with
    | error e => cases q <;> rfl
    | ok as => cases q <;> rfl

/-- Runs of the same steps, apart from values that are alike when they are checked. -/
inductive AlikeRuns : Session → List Step → List Step → Prop where
  | done (s : Session) : AlikeRuns s [] []
  | step {s : Session} {x y : Step} {xs ys : List Step}
      (values : s.SameButValues x.action y.action) (keepAs : x.keepAs = y.keepAs)
      (rest : AlikeRuns (s.step x).2 xs ys) : AlikeRuns s (x :: xs) (y :: ys)

/-- Whatever log there is, in the buffer, on the error stream or in a file, it is a part of the
state, and the states are equal all along. -/
theorem masked_runs_agree {s : Session} {xs ys : List Step}
    (hmasked : ∀ n, (s.run (xs.take n)).2.showValues = false) (h : AlikeRuns s xs ys) (n : ℕ) :
    (s.run (xs.take n)).2 = (s.run (ys.take n)).2 := by
  induction h generalizing n with
  | done => rfl
  | @step s x y xs ys values keepAs rest ih =>
    cases n with
    | zero => rfl
    | succ n =>
      have hstep : (s.step x).2 = (s.step y).2 := step_agrees (hmasked 0) values keepAs
      have hrest := ih (fun m => hmasked (m + 1)) n
      change ((s.step x).2.run (xs.take n)).2 = ((s.step y).2.run (ys.take n)).2
      rw [hrest, hstep]

/-- Errors are logged, Norway is the only country, and two values are checked. -/
def checked (first second : String) : List Step :=
  [⟨.startLogging { level := .error } true, none⟩,
    ⟨.installTexts ⟨"iban.tsv", "Norway\t15\t11n\tNOkk bbbb cccc ccx\n"⟩
      ⟨"currencies.tsv", "NOK\t578\tKrone\tNorway\n"⟩, none⟩,
    ⟨.checkIbans [first, second] none (some ["no"]), none⟩]

theorem masked_runs_agree_norway :
    (({} : Session).run (checked "NO9386011117947" "XX00 1234 5678 901")).1[2]? =
        some (.ok (.verdicts [true, false])) ∧
      (({} : Session).run (checked "no, thanks" "xx-99-secret-secret")).1[2]? =
        some (.ok (.verdicts [false, false])) ∧
      (({} : Session).run (checked "NO9386011117947" "XX00 1234 5678 901")).2.buffer =
        (({} : Session).run (checked "no, thanks" "xx-99-secret-secret")).2.buffer := by
  have hmasked : ∀ n, (({} : Session).run
      ((checked "NO9386011117947" "XX00 1234 5678 901").take n)).2.showValues = false := by
    intro n
    match n with
    | 0 => rfl
    | 1 => rfl
    | 2 => decide +kernel
    | n + 3 =>
      rw [List.take_of_length_le (Nat.le_add_left 3 n)]
      decide +kernel
  have halike : AlikeRuns {} (checked "NO9386011117947" "XX00 1234 5678 901")
      (checked "no, thanks" "xx-99-secret-secret") := by
    refine .step (.same _) rfl (.step (.same _) rfl (.step (.ibans ?_) rfl (.done _)))
    rintro t ⟨⟩
    refine .cons ⟨by decide, by decide +kernel⟩ (.cons ⟨by decide, by decide +kernel⟩ .nil)
  have hstates := masked_runs_agree hmasked halike 3
  exact ⟨by decide +kernel, by decide +kernel, congrArg Session.buffer hstates⟩

end Session

end FieldFormats
