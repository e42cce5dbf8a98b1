import FieldFormats.Session.FirstUse
/-! # Replacements at the same time

Callers that replace the active tables, each as it asks, while others use them. A replacement makes
its tables, sees to it that there are active ones, its own if there are none, and then puts its own
in place. It takes no lock. The steps of replacements and of uses mix in any order, and files may
change in between.

A use is a call of `FirstUse`; the caller of many uses is many callers. One that has found tables
takes those that are active by then. -/
namespace FieldFormats

/-- What a replacement asks for. -/
inductive Replacement where
  | rebuild (source : Source)
  | install (t : Snapshot)

/-- The tables to put in place, under a reference of their own. -/
def Replacement.make (s : Session) : Replacement → Except LoadError Snapshot × Session
  | .rebuild source => s.load source
  | .install t => (.ok { t with stamp := s.fresh }, { s with fresh := s.fresh + 1 })

/-- The whole replacement at once. -/
def Replacement.apply (s : Session) : Replacement → Except LoadError Snapshot × Session
  | .rebuild source => s.reload source
  | .install t =>
    let (copy, s) := s.installCopy t
    (.ok copy, s)

/-- What a replacement does next. -/
inductive Replacing where
  | called
  | announcing (t : Snapshot)
  /-- About to make its tables active if none are. -/
  | opening (t : Snapshot)
  | storing (t : Snapshot)
  | refused (e : LoadError)
  | replaced (t : Snapshot)
  deriving Repr

/-- How tables become active: by a first use, by a replacement that finds none, or by one that puts
its own in place. -/
inductive Write (ι κ : Type) where
  | used (i : ι) (t : Snapshot)
  | opened (k : κ) (t : Snapshot)
  | stored (k : κ) (t : Snapshot)
  deriving DecidableEq, Repr

def Write.tables {ι κ : Type} : Write ι κ → Snapshot
  | used _ t | opened _ t | stored _ t => t

def Happening.write? {ι κ : Type} : Happening ι → Option (Write ι κ)
  | built _ _ => none
  | published i t => some (.used i t)

/-- The tables that a move takes as an answer. -/
def FirstUse.taken? {ι : Type} (r : FirstUse ι) : Move ι → Option (ι × Snapshot)
  | .caller i =>
    match r.progress i with
    | .taking _ => r.session.active.map fun t => (i, t)
    | _ => none
  | .files _ => none

structure Exchange (ι κ : Type) where
  uses : FirstUse ι
  replacing : κ → Replacing := fun _ => .called

namespace Exchange

inductive Event (ι κ : Type) where
  | wrote (w : Write ι κ)
  | saw (i : ι) (t : Snapshot)
  deriving DecidableEq, Repr

inductive Turn (ι κ : Type) where
  | use (m : Move ι)
  | replacement (k : κ)

variable {ι κ : Type} [DecidableEq ι] [DecidableEq κ]

def session (e : Exchange ι κ) : Session := e.uses.session

def moveTo (e : Exchange ι κ) (s : Session) (k : κ) (p : Replacing) : Exchange ι κ where
  uses := { e.uses with session := s }
  replacing j := if j = k then p else e.replacing j

/-- The next step of one replacement. The first tables become active once as such, and once more
when they are put in place. -/
def step (requests : κ → Replacement) (e : Exchange ι κ) (k : κ) :
    Option (Write ι κ) × Exchange ι κ :=
  match e.replacing k with
  | .called =>
    match (requests k).make e.session with
    | (.error reason, s) => (none, e.moveTo s k (.refused reason))
    | (.ok t, s) => (none, e.moveTo s k (.announcing t))
  | .announcing t =>
    (none, e.moveTo (e.session.report [t.tables.installedEvent]) k (.opening t))
  | .opening t =>
    match e.session.active with
    | some _ => (none, e.moveTo e.session k (.storing t))
    | none => (some (.opened k t), e.moveTo { e.session with active := some t } k (.storing t))
  | .storing t =>
    (some (.stored k t), e.moveTo { e.session with active := some t } k (.replaced t))
  | .refused _ | .replaced _ => (none, e)

def take (sources : ι → Source) (requests : κ → Replacement) (e : Exchange ι κ) :
    Turn ι κ → List (Event ι κ) × Exchange ι κ
  | .use m =>
    let (happening, uses) := e.uses.move sources m
    let write := (happening.bind Happening.write?).map Event.wrote
    let sight := (e.uses.taken? m).map fun (i, t) => Event.saw i t
    (write.toList ++ sight.toList, { e with uses := uses })
  | .replacement k =>
    let (write, e) := e.step requests k
    ((write.map Event.wrote).toList, e)

/-- What happens along turns, and the state they lead to. -/
def run (sources : ι → Source) (requests : κ → Replacement) (e : Exchange ι κ) :
    List (Turn ι κ) → List (Event ι κ) × Exchange ι κ
  | [] => ([], e)
  | m :: ms =>
    let (happening, e) := e.take sources requests m
    let (happenings, e) := run sources requests e ms
    (happening ++ happenings, e)

end Exchange

end FieldFormats
