import FieldFormats.Proofs.JsonReading
import FieldFormats.Proofs.MaskedLogs
/-! # Values in the log

A value that a check writes to the log stays within its line, whatever characters it is made of. In
JSON it can be read back from there. -/
namespace FieldFormats

namespace Text

theorem lf_not_mem_codePoint (c : Char) : '\n' ∉ codePoint c := by
  have hdigit : ∀ d < 16, Nat.digitChar d ≠ '\n' := by decide
  have hall : ∀ n, '\n' ∉ Nat.toDigits 16 n := by
    intro n
    induction n using Nat.strong_induction_on with
    | _ n ih =>
      rw [Nat.toDigits_eq_if (by decide)]
      split
      · next hn =>
        rw [List.mem_singleton]
        exact (hdigit n hn).symm
      · rw [List.mem_append, not_or, List.mem_singleton]
        exact ⟨ih (n / 16) (by omega), (hdigit (n % 16) (Nat.mod_lt n (by decide))).symm⟩
  exact hall c.toNat

theorem lf_not_mem_escape (c : Char) : '\n' ∉ escape c := by
  by_cases hlf : c = '\n'
  · subst hlf
    decide
  · unfold escape
    rw [if_neg hlf]
    repeat' split
    all_goals simp [lf_not_mem_codePoint, Ne.symm hlf]

theorem lf_not_mem_quote (cs : List Char) : '\n' ∉ quote cs := by
  simp [quote, lf_not_mem_escape]

theorem lf_not_mem_controlDigits (c : Char) : '\n' ∉ controlDigits c := by
  have hdigit : ∀ n < 16, '\n' ≠ hexDigit n := by decide
  have hhigh := hdigit (c.toNat / 16 % 16) (Nat.mod_lt _ (by decide))
  have hlow := hdigit (c.toNat % 16) (Nat.mod_lt _ (by decide))
  simp [controlDigits, hhigh, hlow]

theorem lf_not_mem_escapeJson (c : Char) : '\n' ∉ escapeJson c := by
  by_cases hlf : c = '\n'
  · subst hlf
    decide
  · unfold escapeJson
    rw [if_neg hlf]
    repeat' split
    all_goals simp [lf_not_mem_controlDigits, Ne.symm hlf]

theorem lf_not_mem_quoteJson (cs : List Char) : '\n' ∉ quoteJson cs := by
  simp [quoteJson, lf_not_mem_escapeJson]

theorem lf_not_mem_numeral (n : ℕ) : '\n' ∉ numeral n := by
  intro h
  cases isDigit_of_mem_numeral h

end Text

namespace Log

open Text

variable {l : Layout} {m : Marks} {e : Event}

theorem lf_not_mem_painted {codes : String} {text : List Char} (hcodes : '\n' ∉ codes.toList)
    (h : '\n' ∉ text) (colour : Bool) : '\n' ∉ painted colour codes text := by
  unfold painted
  split
  · simp [control, reset, hcodes, h]
  · exact h

theorem lf_not_mem_column (level : Level) : '\n' ∉ level.column := by
  cases level <;> decide

theorem lf_not_mem_colourCode (level : Level) : '\n' ∉ level.colourCode.toList := by
  cases level <;> decide

theorem lf_not_mem_messageText {message : String} (h : '\n' ∉ message.toList) :
    '\n' ∉ messageText message := by
  unfold messageText
  rw [List.mem_flatMap]
  rintro ⟨c, hc, hlf⟩
  by_cases heq : c = '\n'
  · exact h (heq ▸ hc)
  · revert hlf
    unfold disarm
    repeat' split
    all_goals simp [lf_not_mem_codePoint, Ne.symm heq]

/-- An event with no line break in its own words. Whatever a quoted field holds is no matter. -/
structure Event.InLine (e : Event) : Prop where
  target : '\n' ∉ e.target.toList
  message : '\n' ∉ e.message.toList
  fields : ∀ f ∈ e.fields, '\n' ∉ f.1.toList ∧ '\n' ∉ f.2.shown

theorem compactLine_inLine (hm : '\n' ∉ m.time.toList) (he : e.InLine) :
    ∃ line, '\n' ∉ line ∧ l.compactLine m e = line ++ ['\n'] := by
  refine ⟨_, ?_, rfl⟩
  have hdim : '\n' ∉ "2".toList := by decide
  have hitalic : '\n' ∉ "3".toList := by decide
  have htime : '\n' ∉ l.time m := by
    unfold Layout.time
    split
    · simp [lf_not_mem_painted hdim hm]
    · simp
  have htarget : '\n' ∉ (if l.target then
      painted l.colour "2" e.target.toList ++ painted l.colour "2" [':'] ++ [' '] else []) := by
    split
    · simp [lf_not_mem_painted hdim he.target, lf_not_mem_painted hdim]
    · simp
  have hfield : ∀ f ∈ e.fields, '\n' ∉
      ' ' :: painted l.colour "3" f.1.toList ++ painted l.colour "2" ['='] ++ f.2.shown := by
    intro f hf
    obtain ⟨hname, hshown⟩ := he.fields f hf
    simp [lf_not_mem_painted hitalic hname, lf_not_mem_painted hdim, hshown]
  have hlevel := lf_not_mem_painted (lf_not_mem_colourCode e.level) (lf_not_mem_column e.level)
    l.colour
  have hfields : '\n' ∉ e.fields.flatMap fun f =>
      ' ' :: painted l.colour "3" f.1.toList ++ painted l.colour "2" ['='] ++ f.2.shown := by
    rw [List.mem_flatMap]
    rintro ⟨f, hf, hlf⟩
    exact hfield f hf hlf
  simp only [List.mem_append, not_or]
  exact ⟨⟨⟨⟨⟨htime, hlevel⟩, by decide⟩, htarget⟩, lf_not_mem_messageText he.message⟩, hfields⟩

namespace Json

def ofValue : Value → Json
  | .text s | .quoted s => .text s.toList
  | .number n => .number (numeral n)

/-- What the line of an event says. -/
def ofEvent (l : Layout) (m : Marks) (e : Event) : Json :=
  .object ([("timestamp".toList, .text m.time.toList),
    ("level".toList, .text e.level.name.toList),
    ("fields".toList, .object (("message".toList, .text e.message.toList) ::
      e.fields.map fun f => (f.1.toList, ofValue f.2)))] ++
    if l.target then [("target".toList, .text e.target.toList)] else [])

theorem writes_value (v : Value) : Writes v.json (ofValue v) := by
  cases v with
  | text s | quoted s => exact writes_quoteJson s.toList
  | number n => exact writes_numeral n

theorem lf_not_mem_value (v : Value) : '\n' ∉ v.json := by
  cases v with
  | text s | quoted s => exact lf_not_mem_quoteJson s.toList
  | number n => exact lf_not_mem_numeral n

theorem lf_not_mem_jsonMembers {ms : List (String × List Char)} (h : ∀ f ∈ ms, '\n' ∉ f.2) :
    '\n' ∉ Layout.jsonMembers ms := by
  induction ms with
  | nil => simp [Layout.jsonMembers]
  | cons f ms ih =>
    obtain ⟨hf, hms⟩ := List.forall_mem_cons.1 h
    obtain ⟨k, v⟩ := f
    cases ms with
    | nil => simp [Layout.jsonMembers, lf_not_mem_quoteJson, hf]
    | cons g ms =>
      rw [jsonMembers_cons_cons]
      simp [lf_not_mem_quoteJson, hf, ih hms]

theorem lf_not_mem_jsonObject {ms : List (String × List Char)} (h : ∀ f ∈ ms, '\n' ∉ f.2) :
    '\n' ∉ Layout.jsonObject ms := by
  simp [Layout.jsonObject, lf_not_mem_jsonMembers h]

/-- The fields of an event as its line has them, the message first. -/
def fieldTexts (e : Event) : List (String × List Char) :=
  ("message", quoteJson e.message.toList) :: e.fields.map fun f => (f.1, f.2.json)

theorem writes_fieldTexts (e : Event) :
    Writes (Layout.jsonObject (fieldTexts e))
      (.object (("message".toList, .text e.message.toList) ::
        e.fields.map fun f => (f.1.toList, ofValue f.2))) := by
  refine writes_jsonObject (.cons ⟨rfl, writes_quoteJson _⟩ ?_)
  rw [List.forall₂_map_left_iff, List.forall₂_map_right_iff]
  exact List.forall₂_same.2 fun f _ => ⟨rfl, writes_value f.2⟩

theorem lf_not_mem_fieldTexts (e : Event) : '\n' ∉ Layout.jsonObject (fieldTexts e) := by
  apply lf_not_mem_jsonObject
  unfold fieldTexts
  rw [List.forall_mem_cons, List.forall_mem_map]
  exact ⟨lf_not_mem_quoteJson _, fun f _ => lf_not_mem_value f.2⟩

/-- The members of the object that the line of an event is. -/
def memberTexts (l : Layout) (m : Marks) (e : Event) : List (String × List Char) :=
  [("timestamp", quoteJson m.time.toList), ("level", quoteJson e.level.name.toList),
    ("fields", Layout.jsonObject (fieldTexts e))] ++
    if l.target then [("target", quoteJson e.target.toList)] else []

theorem jsonLine_eq (l : Layout) (m : Marks) (e : Event) :
    l.jsonLine m e = Layout.jsonObject (memberTexts l m e) ++ ['\n'] :=
  rfl

theorem writes_memberTexts (l : Layout) (m : Marks) (e : Event) :
    Writes (Layout.jsonObject (memberTexts l m e)) (ofEvent l m e) := by
  refine writes_jsonObject (List.rel_append
    (.cons ⟨rfl, writes_quoteJson _⟩ (.cons ⟨rfl, writes_quoteJson _⟩
      (.cons ⟨rfl, writes_fieldTexts e⟩ .nil))) ?_)
  split
  · exact .cons ⟨rfl, writes_quoteJson _⟩ .nil
  · exact .nil

theorem lf_not_mem_memberTexts (l : Layout) (m : Marks) (e : Event) :
    '\n' ∉ Layout.jsonObject (memberTexts l m e) := by
  apply lf_not_mem_jsonObject
  unfold memberTexts
  rw [List.forall_mem_append]
  constructor
  · simp only [List.forall_mem_cons]
    exact ⟨lf_not_mem_quoteJson _, lf_not_mem_quoteJson _, lf_not_mem_fieldTexts e, by simp⟩
  · split
    · simp [lf_not_mem_quoteJson]
    · simp

/-- The line of any event is one line and says what there is to say of the event. -/
theorem jsonLine_inLine (l : Layout) (m : Marks) (e : Event) :
    ∃ line, '\n' ∉ line ∧ l.jsonLine m e = line ++ ['\n'] ∧
      decode? line = some (ofEvent l m e) :=
  ⟨_, lf_not_mem_memberTexts l m e, jsonLine_eq l m e, decode?_of_writes (writes_memberTexts l m e)⟩

end Json

end Log

namespace Iban

theorem unregisteredEvent_inLine (showValues : Bool) (code v : String) :
    (unregisteredEvent showValues code v).InLine where
  target := by
    show '\n' ∉ "idcheck_validate::iban".toList
    decide
  message := by
    show '\n' ∉ "No IBAN format registered for country".toList
    decide
  fields := by
    have hcode : '\n' ∉ "country_code".toList := by decide
    have hiban : '\n' ∉ "iban".toList := by decide
    simp only [unregisteredEvent, List.forall_mem_cons]
    exact ⟨⟨hcode, Text.lf_not_mem_quote _⟩, ⟨hiban, Text.lf_not_mem_quote _⟩, by simp⟩

/-- The value is in the tree of the event where it is looked for. -/
theorem iban_of_unregisteredEvent (l : Log.Layout) (m : Log.Marks) (code v : String) :
    ((Log.Json.ofEvent l m (unregisteredEvent true code v)).at? "fields").bind (·.at? "iban") =
      some (.text v.toList) := by
  simp [Log.Json.at?, Log.Json.ofEvent, Log.Json.ofValue, unregisteredEvent, Log.redact]

end Iban

namespace Session

variable {s t : Session} {u : Subscriber} {a : Snapshot} {pin : Option Snapshot}
  {scope : Option Iban.CountryScope} {v code : String}

theorem ibanReads_of_unregistered {r : Iban.Registry} (h : r.verdict v = .unregistered code)
    (restricted : Bool) : ibanReads restricted v = true := by
  rw [ibanReads_eq_true_iff]
  rintro ⟨-, rfl⟩
  cases h

/-- With values shown, a value of an unregistered country gets exactly one line of the log, be it
compact or JSON, whatever it is made of. From JSON it comes back as it was. -/
theorem checkIban_logs_one_line (hshown : s.showValues = true) (hu : s.subscriber = some u)
    (hadmits : u.filter.admits (Iban.unregisteredEvent true code v) = true)
    (hformat : u.layout.format = .compact ∨ u.layout.format = .json)
    (htables : s.tablesFor pin = (.ok a, t)) (hv : a.tables.iban.verdict v = .unregistered code) :
    ∃ line, '\n' ∉ line ∧
      (s.checkIban pin scope v).2 = t.write u.sink (String.ofList (line ++ ['\n'])) ∧
      (u.layout.format = .json → ∃ j, Log.Json.decode? line = some j ∧
        (j.at? "fields").bind (·.at? "iban") = some (.text v.toList)) := by
  have hsubscriber : t.subscriber = some u := by
    have hsame := (sameSettings_tablesFor s pin).subscriber
    rw [htables] at hsame
    exact hsame.trans hu
  have hreports : a.tables.iban.reports t.showValues v = [Iban.unregisteredEvent true code v] := by
    rw [showValues_tablesFor htables, hshown, Iban.Registry.reports, hv]
  have hwritten : (s.checkIban pin scope v).2 = t.write u.sink (String.ofList
      (u.layout.render Subscriber.marks (Iban.unregisteredEvent true code v))) := by
    obtain ⟨b, hcheck⟩ := checkIban_reports pin (ibanReads_of_unregistered hv scope.isSome) htables
    rw [hcheck, hreports]
    unfold report
    rw [hsubscriber]
    simp only [Subscriber.textOf, List.filter_cons_of_pos hadmits, List.filter_nil,
      List.flatMap_cons, List.flatMap_nil, List.append_nil]
  have htime : '\n' ∉ Subscriber.marks.time.toList := by decide
  rcases hformat with hcompact | hjson
  · obtain ⟨line, hline, hrender⟩ := Log.compactLine_inLine (l := u.layout) htime
      (Iban.unregisteredEvent_inLine true code v)
    refine ⟨line, hline, ?_, by simp [hcompact]⟩
    rw [hwritten, Log.Layout.render, hcompact, ← hrender]
  · obtain ⟨line, hline, hrender, hdecode⟩ := Log.Json.jsonLine_inLine u.layout Subscriber.marks
      (Iban.unregisteredEvent true code v)
    refine ⟨line, hline, ?_, fun _ => ⟨_, hdecode, Iban.iban_of_unregisteredEvent _ _ code v⟩⟩
    rw [hwritten, Log.Layout.render, hjson, ← hrender]

/-- Values are shown, in JSON, and Norway is the only country. -/
def shown : Session :=
  (({} : Session).run
    [⟨.startLogging { showValues := true, layout := { format := .json } } true, none⟩,
      ⟨.installTexts ⟨"iban.tsv", "Norway\t15\t11n\tNOkk bbbb cccc ccx\n"⟩
        ⟨"currencies.tsv", "NOK\t578\tKrone\tNorway\n"⟩, none⟩]).2

/-- A value with a line break, a quote, a backslash and a control character in it. -/
theorem checkIban_logs_one_line_shown :
    ∃ line, '\n' ∉ line ∧
      (shown.checkIban none none "XX00\n\"12345678\\\x07901").2 =
        shown.write .buffer (String.ofList (line ++ ['\n'])) ∧
      ∃ j, Log.Json.decode? line = some j ∧
        (j.at? "fields").bind (·.at? "iban") =
          some (.text "XX00\n\"12345678\\\x07901".toList) := by
  let u : Subscriber := ⟨({} : Log.Config).filter, { format := .json }, .buffer⟩
  have hadmits : u.filter.admits
      (Iban.unregisteredEvent true "XX" "XX00\n\"12345678\\\x07901") = true := by
    decide +kernel
  have hverdict : shown.active.map (·.tables.iban.verdict "XX00\n\"12345678\\\x07901") =
      some (.unregistered "XX") := by
    decide +kernel
  obtain ⟨a, ha, hv⟩ := Option.map_eq_some_iff.1 hverdict
  have hsubscriber : shown.subscriber = some u := by decide +kernel
  have htables : shown.tablesFor none = (.ok a, shown) :=
    ensure_of_active ha shown.configuredSource
  have hshown : shown.showValues = true := by decide +kernel
  obtain ⟨line, hline, hlog, hback⟩ :=
    checkIban_logs_one_line hshown hsubscriber hadmits (Or.inr rfl) htables hv
  exact ⟨line, hline, hlog, hback rfl⟩

end Session

end FieldFormats
