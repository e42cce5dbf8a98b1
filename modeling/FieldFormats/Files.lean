import FieldFormats.Text.Pieces
/-! # Files

A tree of files and directories below a current directory, which is empty at first, and the paths
that name places in it. Links, permissions and times are not modelled. Of the places outside the
current directory only the root and the directories above the current one exist. Names have at most
255 bytes and paths at most 4095, and neither holds the character NUL.
-/
namespace FieldFormats

open FieldFormats.Text

inductive Node where
  | file (bytes : ByteArray)
  | directory

/-- A place relative to the current directory, or to the root: `up` steps to the enclosing
directory, then down along `names`. -/
structure Place where
  rooted : Bool := false
  up : Nat := 0
  names : List String := []
  deriving DecidableEq, Repr

namespace Place

/-- One step along a path. An empty name and a dot stay where they are. -/
def step (p : Place) (name : String) : Place :=
  if name = "" ∨ name = "." then p
  else if name = ".." then
    if p.names ≠ [] then { p with names := p.names.dropLast }
    else if p.rooted then p
    else { p with up := p.up + 1 }
  else { p with names := p.names ++ [name] }

end Place

inductive FileFault where
  | noSuchFile
  | notADirectory
  | isADirectory
  | nameTooLong
  | nulInPath
  | notUtf8
  deriving DecidableEq, Repr

def FileFault.message : FileFault → String
  | noSuchFile => "No such file or directory (os error 2)"
  | notADirectory => "Not a directory (os error 20)"
  | isADirectory => "Is a directory (os error 21)"
  | nameTooLong => "File name too long (os error 36)"
  | nulInPath => "file name contained an unexpected NUL byte"
  | notUtf8 => "stream did not contain valid UTF-8"

/-- What stands at the places that were written. -/
structure Files where
  nodes : List (Place × Node) := []

namespace Files

def node? (fs : Files) (p : Place) : Option Node :=
  if p.names = [] then some .directory
  else (fs.nodes.find? (·.1 = p)).map (·.2)

def put (fs : Files) (p : Place) (n : Node) : Files :=
  ⟨(p, n) :: fs.nodes.filter (·.1 ≠ p)⟩

def erase (fs : Files) (p : Place) : Files :=
  ⟨fs.nodes.filter (·.1 ≠ p)⟩

/-- Where a path starts, and the names along it. -/
def route (path : String) : Place × List String :=
  let names := (pieces '/' path.toList).map String.ofList
  match path.toList with
  | '/' :: _ => ({ rooted := true }, names)
  | _ => ({}, names)

def maxNameBytes : Nat := 255

def maxPathBytes : Nat := 4095

/-- What is wrong with a path whatever files there are. The empty path names no place. -/
def pathFault? (path : String) : Option FileFault :=
  if '\x00' ∈ path.toList then some .nulInPath
  else if path = "" then some .noSuchFile
  else if maxPathBytes < path.utf8ByteSize then some .nameTooLong
  else none

/-- Follows names through existing directories. The last place need not exist. -/
def walk (fs : Files) (p : Place) : List String → Except FileFault Place
  | [] => .ok p
  | name :: rest =>
    match fs.node? p with
    | none => .error .noSuchFile
    | some (.file _) => .error .notADirectory
    | some .directory =>
      if maxNameBytes < name.utf8ByteSize then .error .nameTooLong
      else walk fs (p.step name) rest

def resolve (fs : Files) (path : String) : Except FileFault Place :=
  match pathFault? path with
  | some fault => .error fault
  | none => walk fs (route path).1 (route path).2

def isDirectory (fs : Files) (path : String) : Bool :=
  match (fs.resolve path).map fs.node? with
  | .ok (some .directory) => true
  | _ => false

def readBytes (fs : Files) (path : String) : Except FileFault ByteArray :=
  match fs.resolve path with
  | .error f => .error f
  | .ok p =>
    match fs.node? p with
    | none => .error .noSuchFile
    | some .directory => .error .isADirectory
    | some (.file bytes) => .ok bytes

/-- A file's text. All of it has to be UTF-8. -/
def readText (fs : Files) (path : String) : Except FileFault String :=
  match fs.readBytes path with
  | .error f => .error f
  | .ok bytes =>
    match String.fromUTF8? bytes with
    | some text => .ok text
    | none => .error .notUtf8

/-- Makes the directories along a route that are missing, up to a file that is in the way. -/
def makeAlong (fs : Files) (p : Place) : List String → Files
  | [] => fs
  | name :: rest =>
    let q := p.step name
    match fs.node? q with
    | none => (fs.put q .directory).makeAlong q rest
    | some .directory => fs.makeAlong q rest
    | some (.file _) => fs

def makeDirectory (fs : Files) (path : String) : Files :=
  fs.makeAlong (route path).1 (route path).2

/-- Writes a file, after making the directories on the way to it. A place that cannot hold a
file is left alone. -/
def writeBytes (fs : Files) (path : String) (bytes : ByteArray) : Files :=
  let fs := fs.makeAlong (route path).1 (route path).2.dropLast
  match fs.resolve path with
  | .error _ => fs
  | .ok p =>
    match fs.node? p with
    | some .directory => fs
    | _ => fs.put p (.file bytes)

def remove (fs : Files) (path : String) : Files :=
  match fs.resolve path with
  | .error _ => fs
  | .ok p =>
    match fs.node? p with
    | some (.file _) => fs.erase p
    | _ => fs

/-- The names of a route without the empty ones that slashes at its end leave. -/
def dropTrailing (names : List String) : List String :=
  (names.reverse.dropWhile (· = "")).reverse

/-- Opens a file for appending and creates it if it is missing. A path that ends in a slash cannot
name a file, whether there is something at its place or not. -/
def openAppend (fs : Files) (path : String) : Except FileFault (Files × Place) :=
  if (pathFault? path).isNone ∧ path.toList.getLast? = some '/' then
    let (start, names) := route path
    match (fs.walk start (dropTrailing names).dropLast).map fs.node? with
    | .error f => .error f
    | .ok none => .error .noSuchFile
    | .ok (some (.file _)) => .error .notADirectory
    | .ok (some .directory) => .error .isADirectory
  else match fs.resolve path with
    | .error f => .error f
    | .ok p =>
      match fs.node? p with
      | some .directory => .error .isADirectory
      | some (.file _) => .ok (fs, p)
      | none => .ok (fs.put p (.file ByteArray.empty), p)

/-- Adds to the end of a file that is open. Nothing happens if it is gone. -/
def append (fs : Files) (p : Place) (bytes : ByteArray) : Files :=
  match fs.node? p with
  | some (.file old) => fs.put p (.file (old ++ bytes))
  | _ => fs

/-- A path to a file in a directory, with one slash between them where there is none. -/
def inside (dir file : String) : String :=
  if dir.toList.getLast? = some '/' then dir ++ file else dir ++ "/" ++ file

end Files

end FieldFormats
