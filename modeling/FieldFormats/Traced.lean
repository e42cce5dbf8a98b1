import FieldFormats.LoadError
import FieldFormats.Log.Event
/-! # Traced loading

The result of a load together with the events it reported on the way. An error ends the load;
the events reported before it stand.
-/
namespace FieldFormats

structure Traced (α : Type) where
  events : List Log.Event
  result : Except LoadError α

namespace Traced

variable {α β : Type}

def fail (e : LoadError) : Traced α :=
  ⟨[], .error e⟩

def note (e : Log.Event) : Traced Unit :=
  ⟨[e], .ok ()⟩

def ofExcept (r : Except LoadError α) : Traced α :=
  ⟨[], r⟩

/-- Goes on with a value; what the continuation reports comes after. -/
def andThen (x : Traced α) (f : α → Traced β) : Traced β :=
  match x.result with
  | .error e => ⟨x.events, .error e⟩
  | .ok a =>
    let y := f a
    ⟨x.events ++ y.events, y.result⟩

instance : Monad Traced where
  pure a := ⟨[], .ok a⟩
  bind := andThen
  map f x := ⟨x.events, x.result.map f⟩

@[simp] theorem result_pure (a : α) : (pure a : Traced α).result = .ok a := rfl
@[simp] theorem events_pure (a : α) : (pure a : Traced α).events = [] := rfl
@[simp] theorem result_fail (e : LoadError) : (fail e : Traced α).result = .error e := rfl
@[simp] theorem events_fail (e : LoadError) : (fail e : Traced α).events = [] := rfl
@[simp] theorem result_note (e : Log.Event) : (note e).result = .ok () := rfl
@[simp] theorem events_note (e : Log.Event) : (note e).events = [e] := rfl
@[simp] theorem result_ofExcept (r : Except LoadError α) : (ofExcept r).result = r := rfl
@[simp] theorem events_ofExcept (r : Except LoadError α) : (ofExcept r).events = [] := rfl

@[simp] theorem result_map (f : α → β) (x : Traced α) : (f <$> x).result = x.result.map f := rfl
@[simp] theorem events_map (f : α → β) (x : Traced α) : (f <$> x).events = x.events := rfl

@[simp] theorem result_bind (x : Traced α) (f : α → Traced β) :
    (x >>= f).result = x.result.bind fun a => (f a).result := by
  show (andThen x f).result = _
  unfold andThen
  cases x.result <;> rfl

theorem bind_eq_ok_iff {x : Traced α} {f : α → Traced β} {b : β} :
    (x >>= f).result = .ok b ↔ ∃ a, x.result = .ok a ∧ (f a).result = .ok b := by
  rw [result_bind]
  cases x.result with
  | error e => simp [Except.bind]
  | ok a => simp [Except.bind]

theorem bind_eq_error_iff {x : Traced α} {f : α → Traced β} {e : LoadError} :
    (x >>= f).result = .error e ↔
      x.result = .error e ∨ ∃ a, x.result = .ok a ∧ (f a).result = .error e := by
  rw [result_bind]
  cases x.result with
  | error d => simp [Except.bind]
  | ok a => simp [Except.bind]

theorem events_bind_error {x : Traced α} {e : LoadError} (h : x.result = .error e)
    (f : α → Traced β) : (x >>= f).events = x.events := by
  show (andThen x f).events = _
  unfold andThen
  rw [h]

theorem events_bind_ok {x : Traced α} {a : α} (h : x.result = .ok a)
    (f : α → Traced β) : (x >>= f).events = x.events ++ (f a).events := by
  show (andThen x f).events = _
  unfold andThen
  rw [h]

/-- Changing the value alone is the same as going on without a report. -/
theorem map_eq_bind (f : α → β) (x : Traced α) : f <$> x = x >>= fun a => pure (f a) := by
  obtain ⟨events, result⟩ := x
  cases result with
  | error e => rfl
  | ok a => exact congrArg (Traced.mk · (.ok (f a))) (List.append_nil events).symm

end Traced

end FieldFormats
