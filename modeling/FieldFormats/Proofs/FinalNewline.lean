import FieldFormats.Proofs.RecordPlaces
/-! # The end of the last line

One LF more at the end of a text ends a record's line that had no end, or makes a blank line, and
nothing changes. It also ends a comment that had no end. Only then is the comment passed over; without
the LF it is read as a record, which no table of more than one column allows. -/
namespace FieldFormats.Table

open FieldFormats.Text

/-- A comment, at the start of the text or of a line, goes on to the end of the text. -/
def EndsInComment (cs : List Char) : Prop :=
  ∃ front text, cs = front ++ '#' :: text ∧ '\n' ∉ text ∧ ∀ c ∈ front.getLast?, IsBreak c

theorem IsBreak.ne_hash {c : Char} (hc : IsBreak c) : c ≠ '#' := by
  rcases hc with rfl | rfl <;> decide

section Comments

variable {xs ys : List Char} {c : Char}

theorem getLast?_append_cons (xs ys : List Char) (c : Char) :
    (xs ++ c :: ys).getLast? = some (ys.getLast?.getD c) := by
  rw [List.getLast?_append, List.getLast?_cons, Option.some_or]

theorem not_endsInComment_nil : ¬ EndsInComment [] := by
  rintro ⟨front, text, hsplit, -⟩
  simp at hsplit

theorem endsInComment_hash {text : List Char} (h : '\n' ∉ text) : EndsInComment ('#' :: text) :=
  ⟨[], text, rfl, h, by simp⟩

/-- An end of line stands in front of the open comment, or inside it, which an LF cannot. -/
theorem EndsInComment.split (h : EndsInComment (xs ++ c :: ys)) (hc : IsBreak c) :
    EndsInComment ys ∨ c ≠ '\n' ∧ EndsInComment xs := by
  obtain ⟨front, text, hsplit, htext, hfront⟩ := h
  rcases List.append_eq_append_iff.1 hsplit with ⟨as, rfl, hrest⟩ | ⟨bs, rfl, hrest⟩
  · left
    cases as with
    | nil =>
      cases hrest
      exact absurd rfl hc.ne_hash
    | cons d as =>
      cases hrest
      refine ⟨as, text, rfl, htext, ?_⟩
      intro e he
      apply hfront
      rw [getLast?_append_cons, Option.mem_def.1 he]
      rfl
  · right
    cases bs with
    | nil =>
      cases hrest
      exact absurd rfl hc.ne_hash
    | cons d bs =>
      rw [List.cons_append, List.cons.injEq] at hrest
      obtain ⟨rfl, rfl⟩ := hrest
      rw [List.mem_append, List.mem_cons, not_or, not_or] at htext
      exact ⟨Ne.symm htext.2.1, front, bs, rfl, htext.1, hfront⟩

theorem EndsInComment.behind (h : EndsInComment ys) (xs : List Char) (hc : IsBreak c) :
    EndsInComment (xs ++ c :: ys) := by
  obtain ⟨front, text, rfl, htext, hfront⟩ := h
  refine ⟨xs ++ c :: front, text, by simp, htext, ?_⟩
  intro d hd
  rw [getLast?_append_cons, Option.mem_some_iff] at hd
  subst hd
  cases hlast : front.getLast? with
  | none => exact hc
  | some d => exact hfront d hlast

theorem IsLine.not_endsInComment {line : List Char} (h : IsLine line) : ¬ EndsInComment line := by
  rintro ⟨front, text, rfl, -, hfront⟩
  rcases List.eq_nil_or_concat front with rfl | ⟨more, c, rfl⟩
  · exact h.no_comment rfl
  · have hc : c ≠ '\n' ∧ c ≠ '\r' := h.unbroken c (by simp)
    exact not_or.2 hc (hfront c (by simp))

theorem Skips.endsInComment_append {skipped : List Char} (h : Skips skipped) (cs : List Char) :
    EndsInComment (skipped ++ cs) ↔ EndsInComment cs := by
  induction h with
  | nil => exact Iff.rfl
  | @blank c rest hc _ ih =>
    rw [← ih]
    constructor
    · intro hends
      have hsplit : EndsInComment (rest ++ cs) ∨ c ≠ '\n' ∧ EndsInComment [] :=
        EndsInComment.split hends hc
      rcases hsplit with hrest | ⟨-, hnil⟩
      · exact hrest
      · exact absurd hnil not_endsInComment_nil
    · exact fun hends => hends.behind [] hc
  | @comment text rest htext _ ih =>
    have hsplit : '#' :: text ++ '\n' :: rest ++ cs = '#' :: text ++ '\n' :: (rest ++ cs) := by simp
    have hlf : IsBreak '\n' := Or.inl rfl
    rw [hsplit, ← ih]
    constructor
    · intro hends
      rcases hends.split hlf with hrest | ⟨hne, -⟩
      · exact hrest
      · exact absurd rfl hne
    · exact fun hends => hends.behind _ hlf

end Comments

/-- Places of a text and of the text with one LF more. They are the same, or there is one less and
it is that of an open comment. -/
theorem Stand.append_lf {before cs : List Char} {ps : List Place} (h : Stand before cs ps) :
    (¬ EndsInComment cs ∧ Stand before (cs ++ ['\n']) ps) ∨
      EndsInComment cs ∧ ∃ front p, ps = front ++ [p] ∧ p.line.head? = some '#' ∧
        Stand before (cs ++ ['\n']) front := by
  have hlf : IsBreak '\n' := Or.inl rfl
  have hblank : Skips ['\n'] := .blank hlf .nil
  induction h with
  | @none before rest hrest =>
    refine Or.inl ⟨?_, .none (hrest.append hblank)⟩
    rw [← List.append_nil rest, hrest.endsInComment_append]
    exact not_endsInComment_nil
  | @last before skipped line hskipped hline =>
    refine Or.inl ⟨?_, ?_⟩
    · rw [hskipped.endsInComment_append]
      exact hline.not_endsInComment
    · rw [List.append_assoc]
      exact .ended hskipped hline hlf (.none .nil)
  | @cutOff before skipped text hskipped htext =>
    refine Or.inr ⟨?_, [], _, rfl, rfl, .none ?_⟩
    · rw [hskipped.endsInComment_append]
      exact endsInComment_hash htext
    · rw [List.append_assoc]
      exact hskipped.append (.comment htext .nil)
  | @ended before skipped line rest c ps hskipped hline hc _ ih =>
    have hends : EndsInComment (skipped ++ (line ++ c :: rest)) ↔ EndsInComment rest := by
      rw [hskipped.endsInComment_append]
      constructor
      · intro h
        exact (h.split hc).resolve_right fun h => hline.not_endsInComment h.2
      · exact fun h => h.behind line hc
    have hsplit : skipped ++ (line ++ c :: rest) ++ ['\n'] =
        skipped ++ (line ++ c :: (rest ++ ['\n'])) := by
      simp
    rw [hends, hsplit]
    rcases ih with ⟨hnot, hstand⟩ | ⟨hopen, front, p, rfl, hp, hstand⟩
    · exact Or.inl ⟨hnot, .ended hskipped hline hc hstand⟩
    · exact Or.inr ⟨hopen, _ :: front, p, rfl, hp, .ended hskipped hline hc hstand⟩

theorem dropMark_append_lf (cs : List Char) : dropMark (cs ++ ['\n']) = dropMark cs ++ ['\n'] := by
  by_cases h : cs.head? = some '\ufeff'
  · obtain ⟨rest, rfl⟩ := List.head?_eq_some_iff.1 h
    rfl
  · rw [dropMark_of_head? h]
    cases cs with
    | nil => rfl
    | cons c cs => exact dropMark_of_head? h

theorem checkWidth_append (table : String) (width : ℕ) (rs qs : List Record) :
    (checkWidth table width (rs ++ qs)).result =
      (checkWidth table width rs).result.bind fun out =>
        (checkWidth table width qs).result.map (out ++ ·) := by
  induction rs with
  | nil =>
    rw [List.nil_append, checkWidth]
    cases (checkWidth table width qs).result <;> rfl
  | cons r rs ih =>
    rw [List.cons_append, checkWidth, checkWidth]
    by_cases hr : r.fields.length = width
    · rw [if_pos hr, if_pos hr]
      simp only [Traced.result_bind, Traced.result_note, Traced.result_map, ih, Except.bind]
      cases (checkWidth table width rs).result with
      | error e => rfl
      | ok out => cases (checkWidth table width qs).result <;> rfl
    · rw [if_neg hr, if_neg hr]
      rfl

/-- An open comment is a record with one field, which is empty. -/
theorem checkWidth_comment (table : String) (width : ℕ) {p : Place}
    (hp : p.line.head? = some '#') :
    (checkWidth table width [p.record]).result =
      if width = 1 then .ok [p.record] else .error (.fieldCount table p.record.line width 1) := by
  have hfields : p.record.fields = [""] := if_pos hp
  rw [checkWidth, hfields, List.length_singleton]
  by_cases hwidth : width = 1
  · subst hwidth
    rfl
  · rw [if_neg (Ne.symm hwidth), if_neg hwidth]
    rfl

/-- One LF more at the end of a text changes nothing, events included, if the text does not end in
an open comment. If it does, the text has one record more than with the LF, and the load goes on to
that record: it is a row of a table of one column and an error in any other. So the LF matters
exactly for an open comment at the end of what loads with it. -/
theorem load_final_newline (table content : String) (width : ℕ) :
    (¬ EndsInComment (dropMark content.toList) →
      load table width (content ++ "\n") = load table width content) ∧
    (EndsInComment (dropMark content.toList) →
      ∃ front p, Stand [] (dropMark content.toList) (front ++ [p]) ∧
        p.line.head? = some '#' ∧ records content = records (content ++ "\n") ++ [p.record] ∧
        (∀ e, (load table width (content ++ "\n")).result = .error e →
          (load table width content).result = .error e) ∧
        ∀ rs, (load table width (content ++ "\n")).result = .ok rs →
          (load table width content).result =
            if width = 1 then .ok (rs ++ [p.record])
            else .error (.fieldCount table p.record.line width 1)) ∧
    ((load table width (content ++ "\n")).result = (load table width content).result ↔
      ¬ EndsInComment (dropMark content.toList) ∨
        ∃ e, (load table width (content ++ "\n")).result = .error e) := by
  have htext : dropMark (content ++ "\n").toList = dropMark content.toList ++ ['\n'] := by
    rw [String.toList_append]
    exact dropMark_append_lf _
  obtain ⟨ps, hps⟩ := exists_stand [] (dropMark content.toList)
  rcases hps.append_lf with ⟨hnot, hmore⟩ | ⟨hopen, front, p, rfl, hp, hmore⟩
  · rw [← htext] at hmore
    have hsame : load table width (content ++ "\n") = load table width content := by
      rw [load, load, hmore.records, hps.records]
    exact ⟨fun _ => hsame, fun h => absurd h hnot, iff_of_true (by rw [hsame]) (Or.inl hnot)⟩
  · rw [← htext] at hmore
    have hrecords : records content = records (content ++ "\n") ++ [p.record] := by
      rw [hmore.records, hps.records, List.map_append]
      rfl
    have hload : (load table width content).result =
        (load table width (content ++ "\n")).result.bind fun rs =>
          (checkWidth table width [p.record]).result.map (rs ++ ·) := by
      rw [load, hrecords, checkWidth_append]
      rfl
    have hcomment := checkWidth_comment table width hp
    refine ⟨fun h => absurd hopen h, fun _ => ⟨front, p, hps, hp, hrecords, ?_, ?_⟩, ?_⟩
    · intro e he
      rw [hload, he]
      rfl
    · intro rs hrs
      rw [hload, hrs, hcomment]
      split <;> rfl
    · cases hresult : (load table width (content ++ "\n")).result with
      | error e =>
        rw [hload, hresult]
        exact iff_of_true rfl (Or.inr ⟨e, rfl⟩)
      | ok rs =>
        rw [hload, hresult, hcomment]
        refine iff_of_false ?_ ?_
        · split <;> simp [Except.bind, Except.map]
        · rintro (h | ⟨e, h⟩)
          · exact h hopen
          · cases h

/-- A record, and a comment without an end below it. -/
def openEnded : String :=
  "EUR\t978\n# end"

theorem load_final_newline_openEnded :
    ¬ EndsInComment (dropMark "EUR\t978".toList) ∧
      load "currencies.tsv" 2 "EUR\t978\n" = load "currencies.tsv" 2 "EUR\t978" ∧
      EndsInComment (dropMark openEnded.toList) ∧
      (load "currencies.tsv" 2 (openEnded ++ "\n")).result = .ok [⟨1, ["EUR", "978"]⟩] ∧
      ∃ n, (load "currencies.tsv" 2 openEnded).result =
        .error (.fieldCount "currencies.tsv" n 2 1) := by
  have hline : IsLine "EUR\t978".toList := ⟨by simp, by simp, by simp⟩
  have hmark : dropMark "EUR\t978".toList = "EUR\t978".toList := by decide +kernel
  have hnot : ¬ EndsInComment (dropMark "EUR\t978".toList) := by
    rw [hmark]
    exact hline.not_endsInComment
  have hopen : EndsInComment (dropMark openEnded.toList) :=
    ⟨"EUR\t978\n".toList, " end".toList, rfl, by simp, by simp [IsBreak]⟩
  have hload : (load "currencies.tsv" 2 (openEnded ++ "\n")).result =
      .ok [⟨1, ["EUR", "978"]⟩] := by
    decide +kernel
  obtain ⟨front, p, -, -, -, -, hok⟩ := (load_final_newline "currencies.tsv" openEnded 2).2.1 hopen
  refine ⟨hnot, ?_, hopen, hload, p.record.line, hok _ hload⟩
  exact (load_final_newline "currencies.tsv" "EUR\t978" 2).1 hnot

/-- The table loads with an end of its last line, and without one it does not. -/
theorem open_comment_refused :
    (load "currencies.tsv" 2 (openEnded ++ "\n")).result = .ok [⟨1, ["EUR", "978"]⟩] ∧
      (load "currencies.tsv" 2 openEnded).result = .error (.fieldCount "currencies.tsv" 2 2 1) ∧
      ¬ ∀ table content width,
        (load table width (content ++ "\n")).result = (load table width content).result := by
  have hwith : (load "currencies.tsv" 2 (openEnded ++ "\n")).result =
      .ok [⟨1, ["EUR", "978"]⟩] := by
    decide +kernel
  have hwithout : (load "currencies.tsv" 2 openEnded).result =
      .error (.fieldCount "currencies.tsv" 2 2 1) := by
    decide +kernel
  refine ⟨hwith, hwithout, ?_⟩
  intro h
  have hsame := h "currencies.tsv" openEnded 2
  rw [hwith, hwithout] at hsame
  cases hsame

end FieldFormats.Table
