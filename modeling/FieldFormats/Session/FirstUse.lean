import FieldFormats.Session.Tables
/-! # First uses at the same time

Callers that ask for the active tables at the same time, each with a source of its own. They share
a session and one lock. A caller looks for tables, takes the lock if there are none, looks again
and builds only if there are still none. The steps of the callers mix in any order, and files may
change in between; nobody replaces the active tables meanwhile.
-/
namespace FieldFormats

/-- What a caller does next. From `lookingAgain` to `leaving` it has the lock, except that tables
found at first sight are taken without it. -/
inductive Progress where
  | asking
  | waiting
  | lookingAgain
  | building
  | announcing (t : Snapshot)
  | publishing (t : Snapshot)
  | taking (locked : Bool)
  | leaving (answer : Except LoadError Snapshot)
  | answered (answer : Except LoadError Snapshot)
  deriving Repr

structure FirstUse (ι : Type) where
  session : Session
  lock : Option ι := none
  progress : ι → Progress := fun _ => .asking

inductive Happening (ι : Type) where
  | built (i : ι) (t : Snapshot)
  /-- The tables are the active ones from now on. -/
  | published (i : ι) (t : Snapshot)
  deriving DecidableEq, Repr

inductive Move (ι : Type) where
  | caller (i : ι)
  | files (files : Files)

namespace FirstUse

variable {ι : Type} [DecidableEq ι]

def moveTo (r : FirstUse ι) (i : ι) (p : Progress) : FirstUse ι :=
  { r with progress := fun j => if j = i then p else r.progress j }

/-- The next step of one caller. It stays where it is while it waits for the lock of another, and
once it has its answer. -/
def step (sources : ι → Source) (r : FirstUse ι) (i : ι) : Option (Happening ι) × FirstUse ι :=
  match r.progress i with
  | .asking => (none, r.moveTo i (if r.session.active.isSome then .taking false else .waiting))
  | .waiting =>
    match r.lock with
    | some _ => (none, r)
    | none => (none, { r with lock := some i }.moveTo i .lookingAgain)
  | .lookingAgain =>
    (none, r.moveTo i (if r.session.active.isSome then .taking true else .building))
  | .building =>
    match r.session.load (sources i) with
    | (.error e, s) => (none, { r with session := s }.moveTo i (.leaving (.error e)))
    | (.ok t, s) => (some (.built i t), { r with session := s }.moveTo i (.announcing t))
  | .announcing t =>
    let s := r.session.report [t.tables.installedEvent]
    (none, { r with session := s }.moveTo i (.publishing t))
  | .publishing t =>
    match r.session.active with
    | some _ => (none, r.moveTo i (.taking true))
    | none =>
      let s := { r.session with active := some t }
      (some (.published i t), { r with session := s }.moveTo i (.taking true))
  | .taking locked =>
    match r.session.active with
    | none => (none, r)
    | some t =>
      (none, r.moveTo i (if locked then .leaving (.ok t) else .answered (.ok t)))
  | .leaving answer => (none, { r with lock := none }.moveTo i (.answered answer))
  | .answered _ => (none, r)

def move (sources : ι → Source) (r : FirstUse ι) : Move ι → Option (Happening ι) × FirstUse ι
  | .caller i => r.step sources i
  | .files files => (none, { r with session := { r.session with files := files } })

/-- What happens along moves, and the state they lead to. -/
def run (sources : ι → Source) (r : FirstUse ι) : List (Move ι) → List (Happening ι) × FirstUse ι
  | [] => ([], r)
  | m :: ms =>
    let (happening, r) := r.move sources m
    let (happenings, r) := run sources r ms
    (happening.toList ++ happenings, r)

end FirstUse

end FieldFormats
