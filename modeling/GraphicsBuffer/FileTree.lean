/-
  GraphicsBuffer.FileTree

  Walking paths in the files of a system, one name at a time, from the root or from the directory
  that the process works in. What there is to find differs from system to system, so the files are
  a parameter. A walk fails where a name is not found, where something that is no directory is in
  the way, where a name or the path is too long, and where it meets too many links.
-/

import GraphicsBuffer.Errno
import GraphicsBuffer.Path

namespace GraphicsBuffer

/-! ## Files -/

namespace FileTree

/-- What a name in a directory stands for. -/
inductive Entry where
  /-- A directory. One that is kept on a disk or in memory refuses names that are too long; one
      that the system makes up on the fly only does not find them. -/
  | directory (limitsNames : Bool) (entries : List (String × Entry))
  /-- A file or a device that can be opened for reading and writing, with its answer to the
      question for the name of a graphics driver. -/
  | node (driver : Except Errno (List UInt8))
  /-- Something that refuses to be opened for writing. -/
  | guarded (refusal : Errno)
  /-- A name for another path, which starts from the directory that holds the link if it is not
      absolute. -/
  | link (target : String)
  /-- A link to something that may have no name of its own: to the last of these entries. The
      first of them is in the directory that holds the link, each other one in the one before. -/
  | jump (trail : List Entry)
  /-- A link to the directory that the process works in. -/
  | workingLink
deriving Inhabited

/-- Where a walk stands: at an entry, with the directories above it, the nearest first. -/
structure Place where
  here : Entry
  above : List Entry

/-- What a name stands for among the entries of a directory. -/
def find? (entries : List (String × Entry)) (name : Path.Name) : Option Entry :=
  (entries.find? fun entry => Path.name entry.1 = name).map (·.2)

/-- The place above; the root is above itself. -/
def Place.up (place : Place) : Place :=
  match place.above with
  | [] => place
  | nearest :: rest => ⟨nearest, rest⟩

/-- An entry of the directory at a place. -/
def Place.down (place : Place) (entry : Entry) : Place := ⟨entry, place.here :: place.above⟩

end FileTree

/-- The files of a system, as a process finds them. -/
structure FileTree where
  /-- The root directory. -/
  root : FileTree.Entry
  /-- Where the process works. -/
  working : FileTree.Place

namespace FileTree

/-! ## Walking -/

/-- The longest path is one byte shorter than this. -/
def pathLimit : Nat := 4096

/-- The longest name of a directory entry. -/
def nameLimit : Nat := 255

/-- How many links one walk may follow. -/
def linkLimit : Nat := 40

variable (files : FileTree)

/-- Where a path starts, seen from a place. -/
def start (path : List UInt8) (place : Place) : Place :=
  if Path.absolute path then ⟨files.root, []⟩ else place

/-- Where one name leads. -/
inductive Step where
  /-- To the entry itself. -/
  | entry (next : Place)
  /-- Through a link: to a place, and from there along more names. -/
  | follow (next : Place) (names : List Path.Name)

/-- Where an entry of the directory at a place leads. -/
def step (place : Place) : Entry → Step
  | .link target => .follow (files.start (Path.name target) place) (Path.names (Path.name target))
  | .jump trail => .follow (trail.foldl Place.down place) []
  | .workingLink => .follow files.working []
  | entry => .entry (place.down entry)

/-- Follows names from a place; each of them has to be looked up in a directory. -/
def walk (links : Nat) (place : Place) (names : List Path.Name) : Except Errno Place :=
  match names with
  | [] => .ok place
  | name :: rest =>
    match place.here with
    | .directory limitsNames entries =>
      if name = Path.here then walk links place rest
      else if name = Path.parent then walk links place.up rest
      else if limitsNames && nameLimit < name.length then .error .nameTooLong
      else
        match find? entries name with
        | none => .error .noEntry
        | some entry =>
          match files.step place entry, links with
          -- a link uses up one of the links, any other entry the name that led to it
          | .entry next, links => walk links next rest
          | .follow _ _, 0 => .error .tooManyLinks
          | .follow next more, links + 1 => walk links next (more ++ rest)
    | _ => .error .notDirectory
termination_by (links, names.length)

/-- The names that a path is walked by. A slash at its end asks for a directory, as a last name
    `.` does. -/
def asked (path : List UInt8) : List Path.Name :=
  if path.getLast? = some Path.slash then Path.names path ++ [Path.here] else Path.names path

/-- What a path leads to. -/
def resolve (path : List UInt8) : Except Errno Entry :=
  if path = [] then .error .noEntry
  else if pathLimit ≤ path.length then .error .nameTooLong
  else (·.here) <$> files.walk linkLimit (files.start path files.working) (asked path)

end FileTree

end GraphicsBuffer
