/-
  GraphicsBuffer.Path

  Paths are byte strings: names with slashes between them. How many slashes stand in a row, and
  most names `.`, do not matter for where a path leads, so one place has many spellings.
  `Path.steps` is what the spellings have in common.
-/

namespace GraphicsBuffer.Path

/-- One name of a path. -/
abbrev Name := List UInt8

def slash : UInt8 := 0x2f

/-- The bytes of a name. -/
def name (text : String) : Name := text.toUTF8.toList

/-- The name that stands for the directory it is looked up in. -/
def here : Name := name "."

/-- The name that stands for the directory above. -/
def parent : Name := name ".."

/-- Whether a path starts at the root of the file tree. -/
def absolute (path : List UInt8) : Bool := path.head? = some slash

/-- The names between the slashes of a path, in order. -/
def names (path : List UInt8) : List Name :=
  (path.splitBy fun a b => a ≠ slash && b ≠ slash).filter fun run => run ≠ [slash]

/-- What a path says apart from its spelling. -/
structure Steps where
  absolute : Bool
  names : List Name
deriving DecidableEq

/-- The steps of a path. A name `.` is a step only at the start of a path that is not absolute,
    where it says that the path starts in the working directory. -/
def steps (path : List UInt8) : Steps :=
  let kept := (names path).filter (· ≠ here)
  let marked := !absolute path && (names path).head? = some here
  { absolute := absolute path, names := if marked then here :: kept else kept }

/-- Whether two paths are spellings of the same steps. -/
def same (p q : List UInt8) : Bool := steps p = steps q

end GraphicsBuffer.Path
