import FieldFormats.Proofs.ActiveTables
/-! # Where the active tables come from

All tables that are held were made in one call from one pair of texts: the digests are those of
the texts that the registries were read from, and no half of one build stands beside a half of
another. Copies share the build that they were copied from. -/
namespace FieldFormats

theorem Files.readBytes_of_readText {files : Files} {path text : String}
    (h : files.readText path = .ok text) : files.readBytes path = .ok text.toByteArray := by
  unfold readText at h
  split at h
  · cases h
  · next bytes hbytes =>
    split at h
    · next decoded hdecoded =>
      cases h
      obtain ⟨hvalid, htext⟩ := Option.dite_none_right_eq_some.1 hdecoded
      cases htext
      exact hbytes
    · cases h

theorem Source.readTable_directory {files : Files} {dir fileName text : String} {t : TableText}
    (h : (directory dir).readTable files fileName text = .ok t) :
    t.name = Files.inside dir fileName ∧ files.readBytes t.name = .ok t.text.toByteArray := by
  rw [readTable] at h
  split at h
  · split at h
    · next hread =>
      cases h
      exact ⟨rfl, Files.readBytes_of_readText hread⟩
    · cases h
  · cases h

namespace ReferenceTables

/-- Tables made from two texts: either registry, its name and the digest of the whole text. -/
structure MadeFrom (t : ReferenceTables) (ibans currencyList : TableText) : Prop where
  iban : (Iban.Registry.load ibans.name ibans.text).result = .ok t.iban
  ibanSource : t.ibanSource = ⟨ibans.name, Sha256.hexOfText ibans.text⟩
  currencies :
    (Currency.Registry.load currencyList.name currencyList.text).result = .ok t.currencies
  currencySource : t.currencySource = ⟨currencyList.name, Sha256.hexOfText currencyList.text⟩

variable {t : ReferenceTables}

theorem ofTexts_eq_ok_iff {iban currencies : TableText} :
    (ofTexts iban currencies).result = .ok t ↔ t.MadeFrom iban currencies := by
  unfold ofTexts
  simp only [Traced.bind_eq_ok_iff, Traced.result_pure, Except.ok.injEq]
  constructor
  · rintro ⟨r, hr, q, hq, rfl⟩
    exact ⟨hr, rfl, hq, rfl⟩
  · rintro ⟨hr, hibans, hq, hcurrencies⟩
    refine ⟨t.iban, hr, t.currencies, hq, ?_⟩
    obtain ⟨ibanRegistry, currencyRegistry, ibanSource, currencySource⟩ := t
    cases hibans
    cases hcurrencies
    rfl

theorem load_eq_ok_iff {files : Files} {source : Source} :
    (load files source).result = .ok t ↔
      ∃ texts, source.readTables files = .ok texts ∧ t.MadeFrom texts.1 texts.2 := by
  unfold load
  simp only [Traced.bind_eq_ok_iff, Traced.result_ofExcept, ofTexts_eq_ok_iff]

/-- The recorded sources are two files in a directory, with the digests of all their bytes. -/
structure TracedTo (t : ReferenceTables) (files : Files) (dir : String) : Prop where
  iban : ∃ bytes, files.readBytes (Files.inside dir BuiltIn.ibanFileName) = .ok bytes ∧
    t.ibanSource = ⟨Files.inside dir BuiltIn.ibanFileName, Sha256.hex bytes.data.toList⟩
  currencies : ∃ bytes, files.readBytes (Files.inside dir BuiltIn.currencyFileName) = .ok bytes ∧
    t.currencySource = ⟨Files.inside dir BuiltIn.currencyFileName, Sha256.hex bytes.data.toList⟩

theorem MadeFrom.tracedTo {files : Files} {dir : String} {iban currencies : TableText}
    (h : t.MadeFrom iban currencies)
    (hread : (Source.directory dir).readTables files = .ok (iban, currencies)) :
    t.TracedTo files dir := by
  unfold Source.readTables at hread
  split at hread
  · cases hread
  · next hiban =>
    split at hread
    · cases hread
    · next hcurrencies =>
      cases hread
      obtain ⟨hibanName, hibanBytes⟩ := Source.readTable_directory hiban
      obtain ⟨hcurrencyName, hcurrencyBytes⟩ := Source.readTable_directory hcurrencies
      rw [hibanName] at hibanBytes
      rw [hcurrencyName] at hcurrencyBytes
      constructor
      · exact ⟨_, hibanBytes, by rw [h.ibanSource, hibanName]; rfl⟩
      · exact ⟨_, hcurrencyBytes, by rw [h.currencySource, hcurrencyName]; rfl⟩

end ReferenceTables

namespace Session

/-- The source that an action reads in a state. One that finds tables reads none. -/
def sourceRead? (s : Session) (a : Action) : Option Source :=
  match a, s.active with
  | .load source, _ | .reload source, _ => some (source.resolve s)
  | .ensure source, none | .ensureTogether source _, none => some (source.resolve s)
  | a, none => if a.role = .obtains ∨ a.role = .consults then some s.configuredSource else none
  | _, some _ => none

/-- The two texts that an action has made into tables: those it brings along, or those of the source
that it reads, as they are at that time. -/
def textsGiven? (s : Session) (a : Action) : Option (TableText × TableText) :=
  match a with
  | .installTexts iban currencies => some (iban, currencies)
  | a => (s.sourceRead? a).bind fun source => (source.readTables s.files).toOption

/-- Tables made in one go from two texts, under the next number of a build. -/
structure MadeOf (s : Session) (texts : Option (TableText × TableText)) (t : Session)
    (made : Snapshot) : Prop where
  texts : ∃ iban currencies, texts = some (iban, currencies) ∧
    made.tables.MadeFrom iban currencies
  build : made.build = s.fresh
  fresh : t.fresh = s.fresh + 1

/-- Tables that a call makes from the texts it is given. -/
def Makes (s : Session) (a : Action) (t : Session) (made : Snapshot) : Prop :=
  s.MadeOf (s.textsGiven? a) t made

variable {s t : Session} {a : Action} {source : Source} {made : Snapshot}

/-- The texts of a source, as they are in a state. -/
def textsOf? (s : Session) (source : Source) : Option (TableText × TableText) :=
  (source.readTables s.files).toOption

theorem load_makes (h : s.load source = (.ok made, t)) :
    s.MadeOf (s.textsOf? source) t made ∧ t.active = s.active := by
  have same := sameTables_report s (ReferenceTables.load s.files source).events
  unfold load at h
  dsimp only at h
  split at h
  · cases h
  · next tables htables =>
    cases h
    obtain ⟨texts, htexts, hfrom⟩ := ReferenceTables.load_eq_ok_iff.1 htables
    refine ⟨⟨⟨texts.1, texts.2, ?_, hfrom⟩, same.fresh, congrArg Nat.succ same.fresh⟩, same.active⟩
    rw [textsOf?, htexts]
    rfl

theorem load_fails {e : LoadError} (h : s.load source = (.error e, t)) : SameTables s t := by
  rcases load_cases s source with ⟨d, u, hload, same⟩ | ⟨made, u, hload, -⟩
  · cases hload.symm.trans h
    exact same
  · cases hload.symm.trans h

theorem MadeOf.of_fresh {u : Session} {texts : Option (TableText × TableText)}
    (h : s.MadeOf texts t made) (hu : u.fresh = t.fresh) : s.MadeOf texts u made :=
  ⟨h.texts, h.build, hu.trans h.fresh⟩

/-- Where tables come from that a call answers with or leaves active: they were active before, or
are a copy of tables that were kept, or the call makes them. -/
inductive Origin (s : Session) (a : Action) (t : Session) (made : Snapshot) : Prop where
  | active (found : s.active = some made)
  | copied (name : String) (original : Snapshot) (kept : (name, original) ∈ s.kept)
      (build : made.build = original.build) (tables : made.tables = original.tables)
  | made (new : s.Makes a t made)

/-- Tables that an outcome shows: in the answer or as the active ones. -/
def Shows (r : Except Failure Answer × Session) (made : Snapshot) : Prop :=
  r.1 = .ok (.tables made) ∨ r.2.active = some made

theorem origin_of_error {f : Failure} (ht : t.active = s.active)
    (h : Shows (.error f, t) made) : Origin s a t made := by
  rcases h with h | h
  · cases h
  · exact .active (ht.symm.trans h)

theorem origin_of_tables {new : Snapshot} (hnew : Origin s a t new)
    (ht : t.active = s.active ∨ t.active = some new) (h : Shows (.ok (.tables new), t) made) :
    Origin s a t made := by
  rcases h with h | h
  · cases h
    exact hnew
  · rcases ht with ht | ht
    · exact .active (ht.symm.trans h)
    · cases ht.symm.trans h
      exact hnew

theorem load_origin (htexts : s.textsGiven? a = s.textsOf? source)
    (h : Shows (tablesAnswer (s.load source)) made) :
    Origin s a (tablesAnswer (s.load source)).2 made := by
  rcases hload : s.load source with ⟨e | new, t⟩
  · rw [hload] at h
    exact origin_of_error (load_fails hload).active h
  · rw [hload] at h
    obtain ⟨hmade, hactive⟩ := load_makes hload
    exact origin_of_tables (.made (by rw [Makes, htexts]; exact hmade)) (Or.inl hactive) h

theorem reload_origin (htexts : s.textsGiven? a = s.textsOf? source)
    (h : Shows (tablesAnswer (s.reload source)) made) :
    Origin s a (tablesAnswer (s.reload source)).2 made := by
  unfold reload at h ⊢
  rcases hload : s.load source with ⟨e | new, t⟩
  · rw [hload] at h
    exact origin_of_error (load_fails hload).active h
  · rw [hload] at h
    have hmade := (load_makes hload).1.of_fresh (install_fresh t new)
    exact origin_of_tables (.made (by rw [Makes, htexts]; exact hmade)) (Or.inr rfl) h

theorem ensure_origin (s : Session) (source : Source) :
    (∃ e t, s.ensure source = (.error e, t) ∧ t.active = s.active) ∨
      ∃ new t, s.ensure source = (.ok new, t) ∧ t.active = some new ∧
        ∀ a, (s.active = none → s.textsGiven? a = s.textsOf? source) → Origin s a t new := by
  cases ha : s.active with
  | some old => exact Or.inr ⟨old, s, ensure_of_active ha source, ha, fun _ _ => .active ha⟩
  | none =>
    rcases hload : s.load source with ⟨e | new, t⟩
    · exact Or.inl ⟨e, t, ensure_of_load_error ha hload, (load_fails hload).active.trans ha⟩
    · refine Or.inr ⟨new, t.install new, ensure_of_load_ok ha hload, rfl, ?_⟩
      intro a htexts
      have hmade := (load_makes hload).1.of_fresh (install_fresh t new)
      exact .made (by rw [Makes, htexts rfl]; exact hmade)

theorem installTexts_origin {iban currencies : TableText}
    (h : Shows (tablesAnswer (s.installTexts iban currencies)) made) :
    Origin s (.installTexts iban currencies) (tablesAnswer (s.installTexts iban currencies)).2
      made := by
  have same := sameTables_report s (ReferenceTables.ofTexts iban currencies).events
  unfold installTexts at h ⊢
  dsimp only at h ⊢
  split at h
  · exact origin_of_error same.active h
  · next tables htables =>
    have hfrom := ReferenceTables.ofTexts_eq_ok_iff.1 htables
    refine origin_of_tables (.made ⟨⟨iban, currencies, rfl, hfrom⟩, same.fresh, ?_⟩) (Or.inr rfl) h
    exact (install_fresh _ _).trans (congrArg Nat.succ same.fresh)

theorem installKept_origin {name : String} (h : Shows (s.act (.installKept name)) made) :
    Origin s (.installKept name) (s.act (.installKept name)).2 made := by
  rw [act] at h ⊢
  cases hkept : s.kept? name with
  | none =>
    rw [hkept] at h
    exact origin_of_error rfl h
  | some original =>
    rw [hkept] at h
    obtain ⟨entry, hentry, horiginal⟩ := Option.map_eq_some_iff.1 hkept
    have hmem : (entry.1, original) ∈ s.kept := by
      rw [← horiginal]
      exact List.mem_of_find?_eq_some hentry
    have hcopy : Origin s (.installKept name) (s.installCopy original).2
        (s.installCopy original).1 := .copied entry.1 original hmem rfl rfl
    exact origin_of_tables hcopy (Or.inr rfl) h

theorem textsGiven?_of_consults (hs : s.active = none) (role : a.role = .consults) :
    s.textsGiven? a = s.textsOf? s.configuredSource := by
  have hsource : s.sourceRead? a = some s.configuredSource := by
    cases a <;> first | cases role | simp [sourceRead?, hs, role]
  cases a <;> first | cases role | simp only [textsGiven?, hsource, Option.bind_some, textsOf?]

/-- A call without tables in its answer leaves active what was active, or else what it had to build
for its verdicts. -/
theorem Effect.origin {r : Except Failure Answer} (h : Effect s a r t)
    (hr : ∀ new, r ≠ .ok (.tables new)) (hmade : t.active = some made) : Origin s a t made := by
  cases h with
  | fails same => exact .active (same.active.symm.trans hmade)
  | aloof role active => exact .active (active.symm.trans hmade)
  | replaces | obtains | builds => exact absurd rfl (hr _)
  | consults role found same => exact .active (same.active.symm.trans hmade)
  | @buildsFor _ new _ role found built tables =>
    cases tables.active.symm.trans hmade
    rcases hload : s.load s.configuredSource with ⟨r, u⟩
    rw [hload] at built
    cases built
    have hnew := (load_makes hload).1
    rw [← textsGiven?_of_consults found role] at hnew
    exact .made (hnew.of_fresh (tables.fresh.trans hnew.fresh.symm))

theorem verdictsAnswer_ne_tables (r : Except LoadError (List Bool) × Session) (new : Snapshot) :
    (verdictsAnswer r).1 ≠ .ok (.tables new) := by
  obtain ⟨e | bs, t⟩ := r <;> simp [verdictsAnswer]

theorem plainAnswer_ne_tables (r : Except Calendar.ClockFault (List Bool)) (new : Snapshot) :
    plainAnswer r ≠ .ok (.tables new) := by
  cases r <;> simp [plainAnswer]

theorem loggingAnswer_ne_tables (r : Except LoggingError Unit × Session) (new : Snapshot) :
    (loggingAnswer r).1 ≠ .ok (.tables new) := by
  obtain ⟨e | u, t⟩ := r <;> simp [loggingAnswer]

theorem act_origin (hcall : a.IsCall) (h : Shows (s.act a) made) : Origin s a (s.act a).2 made := by
  have hother : (∀ new, (s.act a).1 ≠ .ok (.tables new)) → Origin s a (s.act a).2 made := by
    intro hr
    rcases h with h | h
    · exact absurd h (hr made)
    · exact (act_effect s hcall).origin hr h
  cases a with
  | load source => exact load_origin rfl h
  | reload source => exact reload_origin rfl h
  | installTexts iban currencies => exact installTexts_origin h
  | installKept name => exact installKept_origin h
  | ensure source =>
    rcases ensure_origin s (source.resolve s) with ⟨e, t, hact, ht⟩ | ⟨new, t, hact, ht, horigin⟩
    · rw [act, hact] at h ⊢
      exact origin_of_error ht h
    · rw [act, hact] at h ⊢
      exact origin_of_tables (horigin _ fun hs => by simp [textsGiven?, sourceRead?, hs, textsOf?])
        (Or.inr ht) h
  | current =>
    rcases ensure_origin s s.configuredSource with ⟨e, t, hact, ht⟩ | ⟨new, t, hact, ht, horigin⟩
    · rw [act, current, hact] at h ⊢
      exact origin_of_error ht h
    · rw [act, current, hact] at h ⊢
      exact origin_of_tables
        (horigin _ fun hs => by simp [textsGiven?, sourceRead?, hs, textsOf?, Action.role])
        (Or.inr ht) h
  | ensureTogether source callers => exact hcall.elim
  | setVariable name value =>
    apply hother
    rw [act]
    split <;> simp
  | checkIbans values pin countries =>
    apply hother
    rw [act]
    split
    · simp
    · exact verdictsAnswer_ne_tables _
  | checkCurrencies values pin =>
    apply hother
    rw [act]
    split
    · simp
    · exact verdictsAnswer_ne_tables _
  | checkPlain check values => exact hother (plainAnswer_ne_tables _)
  | startLogging config toBuffer => exact hother (loggingAnswer_ne_tables _)
  | writeFile | makeDirectory | removeFile | emit | showValues =>
    exact hother (by simp [act])

theorem sameSettings_reload (s : Session) (source : Source) :
    SameSettings s (s.reload source).2 := by
  have hsame := sameSettings_load s source
  unfold reload
  split
  · next hload =>
    rw [hload] at hsame
    exact hsame
  · next new t hload =>
    rw [hload] at hsame
    exact hsame.trans (sameSettings_install t new)

theorem sameSettings_installTexts (s : Session) (iban currencies : TableText) :
    SameSettings s (s.installTexts iban currencies).2 := by
  have hreport := sameSettings_report s (ReferenceTables.ofTexts iban currencies).events
  unfold installTexts
  dsimp only
  split
  · exact hreport
  · refine SameSettings.trans ?_ (sameSettings_install _ _)
    exact ⟨hreport.environment, hreport.kept, hreport.showValues, hreport.subscriber⟩

theorem sameSettings_checkIban (s : Session) (pin : Option Snapshot)
    (scope : Option Iban.CountryScope) (v : String) :
    SameSettings s (s.checkIban pin scope v).2 := by
  have hsame := sameSettings_tablesFor s pin
  cases hreads : ibanReads scope.isSome v with
  | false =>
    rw [checkIban_of_not_reads hreads]
    exact ⟨rfl, rfl, rfl, rfl⟩
  | true =>
    rcases htables : s.tablesFor pin with ⟨e | old, t⟩
    · rw [htables] at hsame
      rw [checkIban_of_error pin hreads htables]
      exact hsame
    · rw [htables] at hsame
      obtain ⟨b, hcheck⟩ := checkIban_reports pin hreads htables
      rw [hcheck]
      exact hsame.trans (sameSettings_report t _)

theorem sameSettings_checkCurrency (s : Session) (pin : Option Snapshot) (v : String) :
    SameSettings s (s.checkCurrency pin v).2 := by
  have hsame := sameSettings_tablesFor s pin
  rcases htables : s.tablesFor pin with ⟨e | old, t⟩
  · rw [htables] at hsame
    rw [checkCurrency_of_error pin htables]
    exact hsame
  · rw [htables] at hsame
    rw [checkCurrency_of_ok pin htables]
    exact hsame

theorem sameSettings_checkAll {check : Session → String → Except LoadError Bool × Session}
    (h : ∀ s v, SameSettings s (check s v).2) (s : Session) (values : List String) :
    SameSettings s (checkAll check s values).2 := by
  induction values generalizing s with
  | nil => exact ⟨rfl, rfl, rfl, rfl⟩
  | cons v vs ih =>
    have hfirst := h s v
    rcases hcheck : check s v with ⟨e | b, t⟩
    · rw [hcheck] at hfirst
      rw [checkAll, hcheck]
      exact hfirst
    · rw [hcheck] at hfirst
      have hrest := ih t
      rcases hall : checkAll check t vs with ⟨e | bs, u⟩
      · rw [hall] at hrest
        rw [checkAll_cons_error hcheck hall]
        exact hfirst.trans hrest
      · rw [hall] at hrest
        rw [checkAll_cons_ok hcheck hall]
        exact hfirst.trans hrest

theorem kept_startLogging (s : Session) (config : Log.Config) (sink : Sink) :
    (s.startLogging config sink).2.kept = s.kept := by
  unfold startLogging
  dsimp only
  split <;> rfl

theorem kept_startLoggingConfigured (s : Session) (config : Log.Config) :
    (s.startLoggingConfigured config).2.kept = s.kept := by
  unfold startLoggingConfigured
  split
  · exact kept_startLogging s config .standardError
  · split
    · rfl
    · next files place _ => exact kept_startLogging { s with files := files } config (.file place)

/-- No action by itself keeps tables or lets go of kept ones. -/
theorem kept_act (s : Session) (hcall : a.IsCall) : (s.act a).2.kept = s.kept := by
  cases a with
  | writeFile | makeDirectory | removeFile | checkPlain | showValues => rfl
  | setVariable name value =>
    rw [act, setVariable]
    cases s.environment.set name value <;> rfl
  | load source => exact (sameSettings_load s _).kept
  | ensure source => exact (sameSettings_ensure s _).kept
  | ensureTogether source callers => exact hcall.elim
  | reload source => exact (sameSettings_reload s _).kept
  | current =>
    have hsame := (sameSettings_ensure s s.configuredSource).kept
    rw [act, current]
    split
    · next hensure => rwa [hensure] at hsame
    · next hensure => rwa [hensure] at hsame
  | installTexts iban currencies => exact (sameSettings_installTexts s iban currencies).kept
  | installKept name =>
    rw [act]
    cases s.kept? name with
    | none => rfl
    | some original =>
      exact (sameSettings_install { s with fresh := s.fresh + 1 } _).kept
  | checkIbans values pin countries =>
    rw [act]
    split
    · rfl
    · exact (sameSettings_checkAll (fun s v => sameSettings_checkIban s _ _ v) s values).kept
  | checkCurrencies values pin =>
    rw [act]
    split
    · rfl
    · exact (sameSettings_checkAll (fun s v => sameSettings_checkCurrency s _ v) s values).kept
  | startLogging config toBuffer =>
    rw [act]
    cases toBuffer with
    | true => exact kept_startLogging s config .buffer
    | false => exact kept_startLoggingConfigured s config
  | emit event => exact (sameSettings_report s [event]).kept

/-- Tables that the active ones or a name refer to. -/
def Holds (s : Session) (held : Snapshot) : Prop :=
  s.active = some held ∨ ∃ name, (name, held) ∈ s.kept

/-- Tables of the same build, which are the same but for the reference. -/
structure SameBuild (held other : Snapshot) : Prop where
  build : held.build = other.build
  tables : held.tables = other.tables

theorem Makes.of_sameBuild {other : Snapshot} (h : s.Makes a t other)
    (same : SameBuild made other) : s.Makes a t made := by
  obtain ⟨⟨iban, currencies, htexts, hfrom⟩, hbuild, hfresh⟩ := h
  refine ⟨⟨iban, currencies, htexts, ?_⟩, same.build.trans hbuild, hfresh⟩
  rw [same.tables]
  exact hfrom

theorem Origin.held_or_made (h : Origin s a t made) :
    (∃ other, s.Holds other ∧ SameBuild made other) ∨ s.Makes a t made := by
  cases h with
  | active found => exact Or.inl ⟨made, Or.inl found, rfl, rfl⟩
  | copied name original kept build tables =>
    exact Or.inl ⟨original, Or.inr ⟨name, kept⟩, build, tables⟩
  | made new => exact Or.inr new

/-- All tables that are held after a call were held before it or made in it. -/
theorem step_held {x : Step} (hcall : x.action.IsCall) {held : Snapshot}
    (h : (s.step x).2.Holds held) :
    (∃ other, s.Holds other ∧ SameBuild held other) ∨ s.Makes x.action (s.step x).2 held := by
  have hkept := kept_act s hcall
  rcases step_cases s x with hstep | ⟨new, name, hanswer, -, hstep⟩
  · rw [hstep] at h ⊢
    rcases h with hactive | ⟨other, hmem⟩
    · exact (act_origin hcall (Or.inr hactive)).held_or_made
    · rw [hkept] at hmem
      exact Or.inl ⟨held, Or.inr ⟨other, hmem⟩, rfl, rfl⟩
  · rw [hstep] at h ⊢
    have hput : ∀ {made}, Origin s x.action (s.act x.action).2 made →
        (∃ other, s.Holds other ∧ SameBuild made other) ∨
          s.Makes x.action ((s.act x.action).2.keep name new) made :=
      fun horigin => horigin.held_or_made.imp_right fun hmakes => hmakes.of_fresh rfl
    rcases h with hactive | ⟨other, hmem⟩
    · exact hput (act_origin hcall (Or.inr hactive))
    · rcases List.mem_cons.1 hmem with hnew | hold
      · -- The tables of the answer, which are put away now.
        cases hnew
        exact hput (act_origin hcall (Or.inl hanswer))
      · have hbefore := (List.mem_filter.1 hold).1
        rw [hkept] at hbefore
        exact Or.inl ⟨held, Or.inr ⟨other, hbefore⟩, rfl, rfl⟩

end Session

/-- A call that makes tables, all of them in one go from the two texts it is given. -/
def Moment.Builds (m : Moment) (made : Snapshot) : Prop :=
  m.before.Makes m.call.action m.after made

theorem Moment.Builds.tracedTo {m : Moment} {made : Snapshot} {dir : String} (h : m.Builds made)
    (hsource : m.before.sourceRead? m.call.action = some (.directory dir)) :
    made.tables.TracedTo m.before.files dir := by
  obtain ⟨iban, currencies, htexts, hfrom⟩ := h.texts
  unfold Session.textsGiven? at htexts
  split at htexts
  · next hcall =>
    -- Texts that come with the call are read from nowhere.
    rw [hcall] at hsource
    unfold Session.sourceRead? at hsource
    cases hactive : m.before.active <;> rw [hactive] at hsource <;> cases hsource
  · rw [hsource, Option.bind_some] at htexts
    cases hread : (Source.directory dir).readTables m.before.files with
    | error e =>
      rw [hread] at htexts
      cases htexts
    | ok texts =>
      rw [hread] at htexts
      cases htexts
      exact hfrom.tracedTo hread

namespace Session

variable {s t : Session} {ms : List Moment} {held : Snapshot}

theorem Leads.held_or_built (h : Leads s ms t) (ht : t.Holds held) :
    (∃ other, s.Holds other ∧ SameBuild held other) ∨ ∃ m ∈ ms, m.Builds held := by
  induction h with
  | done s => exact Or.inl ⟨held, ht, rfl, rfl⟩
  | @call s x ms t single rest ih =>
    rcases ih ht with ⟨other, hother, same⟩ | ⟨m, hm, hbuilds⟩
    · rcases step_held single hother with ⟨first, hfirst, hsame⟩ | hmakes
      · exact Or.inl ⟨first, hfirst, same.build.trans hsame.build, same.tables.trans hsame.tables⟩
      · exact Or.inr ⟨_, List.mem_cons_self, hmakes.of_sameBuild same⟩
    · exact Or.inr ⟨m, List.mem_cons_of_mem _ hm, hbuilds⟩

/-- Builds are numbered in the order of the calls, so that no two of them share a number. -/
theorem Leads.numbered (h : Leads s ms t) (hs : s.Bounded) :
    (∀ m ∈ ms, ∀ a, m.Builds a → s.fresh ≤ a.build) ∧
      ms.Pairwise fun m n => ∀ a b, m.Builds a → n.Builds b → a.build < b.build := by
  induction h with
  | done s => simp
  | @call s x ms t single rest ih =>
    obtain ⟨hle, hnext, -⟩ := (step_effect s single).bounded hs
    obtain ⟨hlater, hpairs⟩ := ih hnext
    refine ⟨List.forall_mem_cons.2 ⟨?_, ?_⟩, List.pairwise_cons.2 ⟨?_, hpairs⟩⟩
    · intro a ha
      exact Nat.le_of_eq ha.build.symm
    · intro m hm a ha
      exact Nat.le_trans hle (hlater m hm a ha)
    · intro n hn a b ha hb
      have hbuild := ha.build
      have hfresh := ha.fresh
      have := hlater n hn b hb
      dsimp only at hbuild hfresh
      omega

theorem Leads.built_once (h : Leads s ms t) (hs : s.Bounded) {earlier later : List Moment}
    {m : Moment} (hms : ms = earlier ++ m :: later) (hm : m.Builds held) :
    ∀ n ∈ earlier ++ later, ¬ n.Builds held := by
  have hpairs := (h.numbered hs).2
  rw [hms, List.pairwise_append, List.pairwise_cons] at hpairs
  obtain ⟨-, ⟨hafter, -⟩, hacross⟩ := hpairs
  intro n hn hbuilds
  rcases List.mem_append.1 hn with hn | hn
  · exact Nat.lt_irrefl _ (hacross n hn m List.mem_cons_self held held hbuilds hm)
  · exact Nat.lt_irrefl _ (hafter n hn held held hm hbuilds)

/-- After any calls, all tables that are held were made by exactly one of the calls, either half of
them from the two texts that this one call was given. -/
theorem held_built_once (s : Session) (hactive : s.active = none) (hkept : s.kept = [])
    (steps : List Step) (held : Snapshot) (h : (s.run steps).2.Holds held) :
    ∃ earlier m later, s.history steps = earlier ++ m :: later ∧ m.Builds held ∧
      (∀ dir, m.before.sourceRead? m.call.action = some (.directory dir) →
        held.tables.TracedTo m.before.files dir) ∧
      ∀ n ∈ earlier ++ later, ¬ n.Builds held := by
  have hleads := leads_history s steps
  have hbounded : s.Bounded := by
    intro a ha
    rw [hactive] at ha
    cases ha
  rcases hleads.held_or_built h with ⟨other, hother | ⟨name, hmem⟩, -⟩ | ⟨m, hm, hbuilds⟩
  · rw [hactive] at hother
    cases hother
  · rw [hkept] at hmem
    cases hmem
  · obtain ⟨earlier, later, hms⟩ := List.append_of_mem hm
    exact ⟨earlier, m, later, hms, hbuilds, fun _ hsource => hbuilds.tracedTo hsource,
      hleads.built_once hbounded hms hbuilds⟩

/-- A build from two files of which one has a byte order mark, a reload that fails because one of
them was spoilt, one that succeeds after it was mended, and a return to the first tables. -/
def fileChanges : List Step :=
  [⟨.writeFile "d/iban-formats.txt"
      "\uFEFFNorway\t15\t11n\tNOkk bbbb cccc ccx\n".toByteArray, none⟩,
    ⟨.writeFile "d/iso4217-currencies.txt" "NOK\t578\tKrone\tNorway\n".toByteArray, none⟩,
    ⟨.ensure (.given (.directory "d")), some "first"⟩,
    ⟨.writeFile "d/iban-formats.txt" "Norway\t16\t12n\tNOkk bbbb cccc ccxx\n".toByteArray, none⟩,
    ⟨.writeFile "d/iso4217-currencies.txt" "NOK\tmany\tKrone\tNorway\n".toByteArray, none⟩,
    ⟨.reload (.given (.directory "d")), none⟩,
    ⟨.writeFile "d/iso4217-currencies.txt" "NOK\t579\tKrone\tNorway\n".toByteArray, none⟩,
    ⟨.reload (.given (.directory "d")), none⟩,
    ⟨.installKept "first", none⟩]

theorem held_built_once_fileChanges :
    ({} : Session).active = none ∧ ({} : Session).kept = [] ∧
      ∃ a, (({} : Session).run fileChanges).2.Holds a ∧
        ∃ m ∈ ({} : Session).history fileChanges, m.Builds a := by
  have hactive : (({} : Session).run fileChanges).2.active.isSome = true := by
    decide +kernel
  obtain ⟨a, ha⟩ := Option.isSome_iff_exists.1 hactive
  obtain ⟨earlier, m, later, hms, hbuilds, -⟩ :=
    held_built_once {} rfl rfl fileChanges a (Or.inl ha)
  refine ⟨rfl, rfl, a, Or.inl ha, m, ?_, hbuilds⟩
  rw [hms]
  exact List.mem_append_right earlier List.mem_cons_self

end Session
end FieldFormats
