import FieldFormats.Session.Step
import Mathlib.Tactic.Common
/-! # Logging that could not be turned on

What a failed attempt leaves behind. The subscriber there is stays, and so does all that was
written. Values are shown or masked as the attempt asked for, though, unless it failed for a log
file that cannot be opened. -/
namespace FieldFormats

namespace Files

/-- What stands in the first tree stands in the second too. -/
def Keeps (fs gs : Files) : Prop :=
  ∀ p n, fs.node? p = some n → gs.node? p = some n

theorem node?_put_of_ne {p q : Place} (fs : Files) (n : Node) (h : q ≠ p) :
    (fs.put p n).node? q = fs.node? q := by
  have hkept : (fs.nodes.filter (·.1 ≠ p)).find? (·.1 = q) = fs.nodes.find? (·.1 = q) := by
    rw [List.find?_filter]
    congr 1
    funext entry
    by_cases hentry : entry.1 = q
    · simp [hentry, h]
    · simp [hentry]
  unfold node? put
  dsimp only
  rw [List.find?_cons_of_neg (by simpa using h.symm), hkept]

theorem keeps_put {fs : Files} {p : Place} {n : Node} (h : fs.node? p = none) :
    fs.Keeps (fs.put p n) := by
  intro q m hq
  have hne : q ≠ p := by
    rintro rfl
    rw [h] at hq
    cases hq
  rw [node?_put_of_ne fs n hne]
  exact hq

theorem keeps_openAppend {fs gs : Files} {path : String} {p : Place}
    (h : fs.openAppend path = .ok (gs, p)) : fs.Keeps gs := by
  unfold openAppend at h
  split at h
  · dsimp only at h
    split at h <;> cases h
  · split at h
    · cases h
    · split at h
      · cases h
      · cases h
        exact fun _ _ hq => hq
      · next hnone =>
        cases h
        exact keeps_put hnone

end Files

namespace Log

theorem redact_eq_iff {a b : Bool} : (∀ v, redact a v = redact b v) ↔ a = b := by
  constructor
  · intro h
    have hempty := h ""
    cases a <;> cases b <;> first | rfl | exact absurd hempty (by decide)
  · rintro rfl
    exact fun _ => rfl

end Log

namespace Session

/-- What a failed attempt leaves. The last line says when values are shown and masked as before. -/
structure LeftBehind (s : Session) (config : Log.Config) (e : LoggingError) (t : Session) :
    Prop where
  others : t = { s with files := t.files, showValues := t.showValues }
  files : s.files.Keeps t.files
  unopened : ∀ path fault, e = .logFile path fault → t = s
  taken : e = .alreadyOn → s.subscriber.isSome = true
  masked_alike : (∀ v, Log.redact t.showValues v = Log.redact s.showValues v) ↔
    (∃ path fault, e = .logFile path fault) ∨ config.showValues = s.showValues

theorem startLogging_error {s t : Session} {config : Log.Config} {sink : Sink} {e : LoggingError}
    (h : s.startLogging config sink = (.error e, t)) :
    t = { s with showValues := config.showValues } ∧ (∀ path fault, e ≠ .logFile path fault) ∧
      (e = .alreadyOn → s.subscriber.isSome = true) := by
  unfold startLogging at h
  dsimp only at h
  split at h
  · cases h
    exact ⟨rfl, by simp, by simp⟩
  · next hsubscriber =>
    cases h
    exact ⟨rfl, by simp, fun _ => by rw [hsubscriber]; rfl⟩
  · cases h

theorem leftBehind_startLogging {s t : Session} {files : Files} {config : Log.Config} {sink : Sink}
    {e : LoggingError} (hfiles : s.files.Keeps files)
    (h : { s with files := files }.startLogging config sink = (.error e, t)) :
    LeftBehind s config e t := by
  obtain ⟨rfl, hopened, htaken⟩ := startLogging_error h
  refine ⟨rfl, hfiles, fun path fault he => absurd he (hopened path fault), htaken, ?_⟩
  rw [Log.redact_eq_iff]
  constructor
  · exact Or.inr
  · rintro (⟨path, fault, he⟩ | hsame)
    · exact absurd he (hopened path fault)
    · exact hsame

theorem leftBehind_startLoggingConfigured {s t : Session} {config : Log.Config} {e : LoggingError}
    (h : s.startLoggingConfigured config = (.error e, t)) : LeftBehind s config e t := by
  unfold startLoggingConfigured at h
  split at h
  · exact leftBehind_startLogging (fun _ _ hq => hq) h
  · split at h
    · next fault _ =>
      cases h
      refine ⟨rfl, fun _ _ hq => hq, fun _ _ _ => rfl, by simp, ?_⟩
      exact iff_of_true (fun _ => rfl) (Or.inl ⟨_, fault, rfl⟩)
    · next hopen => exact leftBehind_startLogging (Files.keeps_openAppend hopen) h

/-- The subscriber, the tables and the log stay as they were. -/
theorem failed_startLogging {s t : Session} {config : Log.Config} {toBuffer : Bool}
    {e : LoggingError} (h : s.act (.startLogging config toBuffer) = (.error (.logging e), t)) :
    LeftBehind s config e t := by
  have hanswer : ∀ r : Except LoggingError Unit × Session,
      loggingAnswer r = (.error (.logging e), t) → r = (.error e, t) := by
    rintro ⟨d | u, after⟩ hr
    · cases hr
      rfl
    · cases hr
  have hresult := hanswer _ h
  split at hresult
  · have hsame : s.files.Keeps s.files := fun _ _ hq => hq
    exact leftBehind_startLogging hsame hresult
  · exact leftBehind_startLoggingConfigured hresult

/-- Logging is on and masks values, and someone asks for it again, with values shown. -/
def askedTwice : List Step :=
  [⟨.startLogging {} true, none⟩, ⟨.startLogging { showValues := true } true, none⟩]

theorem failed_startLogging_masked :
    ∃ s : Session, s.act (.startLogging {} true) = (.error (.logging .alreadyOn), s) ∧
      ∀ v, Log.redact s.showValues v = Log.mask := by
  have hagain : (({} : Session).run (askedTwice.take 1)).2.act (.startLogging {} true) =
      (.error (.logging .alreadyOn), (({} : Session).run (askedTwice.take 1)).2) := rfl
  exact ⟨_, hagain, (failed_startLogging hagain).masked_alike.2 (Or.inr rfl)⟩

/-- The second attempt fails, and values are shown from then on. -/
theorem askedTwice_shows_values :
    (({} : Session).run (askedTwice.take 1)).2.showValues = false ∧
      (({} : Session).run askedTwice).1 = [.ok .done, .error (.logging .alreadyOn)] ∧
      ¬ ∀ v, Log.redact (({} : Session).run askedTwice).2.showValues v =
        Log.redact (({} : Session).run (askedTwice.take 1)).2.showValues v := by
  refine ⟨rfl, rfl, ?_⟩
  intro h
  exact absurd (h "NL91ABNA0417164300") (by decide)

end Session

end FieldFormats
