/-!
# Files

A path is a list of names, separated by slashes, that leads from a folder to a file.
`Place.fileAt` follows a path: a name that is empty or a dot leads nowhere else, two dots lead
to the folder around, and any other name to what the folder holds under it.
-/

namespace MediaClock.Replay

/-- A file, or a folder with the files and folders it holds. -/
inductive File where
  | octets (content : List UInt8)
  | folder (entries : List (String × File))

/-- Why nothing can be opened under a path. -/
inductive OpenError where
  | missing
  /-- The path leads on from a file that is no folder. -/
  | notFolder
  /-- The path, or a name in it, is too long. -/
  | longName
deriving DecidableEq, Repr

/-- What the system says. -/
def OpenError.message : OpenError → String
  | .missing => "No such file or directory (os error 2)"
  | .notFolder => "Not a directory (os error 20)"
  | .longName => "File name too long (os error 36)"

/-- A folder among others, from which paths lead. -/
structure Place where
  /-- What the folder holds. -/
  entries : List (String × File) := []
  /-- What the folders around it hold, the innermost one first and the root last. -/
  around : List (List (String × File)) := []

namespace Place

/-- The number of octets that a name may have. -/
def nameLimit : Nat := 255

/-- The number of octets that a path may have. -/
def pathLimit : Nat := 4095

/-- The folder around; the root is its own one. -/
def up (p : Place) : Place :=
  match p.around with
  | [] => p
  | entries :: around => { entries, around }

/-- A folder that this one holds. -/
def down (p : Place) (entries : List (String × File)) : Place :=
  { entries, around := p.entries :: p.around }

/-- The folder around all others. -/
def root (p : Place) : Place := { entries := p.around.getLastD p.entries }

/-- What some names lead to. -/
def follow (p : Place) : List String → Except OpenError File
  | [] => .ok (.folder p.entries)
  | name :: rest =>
    if name = "" || name = "." then p.follow rest
    else if name = ".." then p.up.follow rest
    else if nameLimit < name.utf8ByteSize then .error .longName
    else
      match p.entries.lookup name with
      | none => .error .missing
      | some (.folder entries) => (p.down entries).follow rest
      | some (.octets content) =>
        if rest.isEmpty then .ok (.octets content) else .error .notFolder

/-- What a path leads to; with a slash in front it leads from the root. -/
def fileAt (p : Place) (path : String) : Except OpenError File :=
  let start := if path.toList.head? = some '/' then p.root else p
  if path = "" then .error .missing
  else if pathLimit < path.utf8ByteSize then .error .longName
  else start.follow (path.splitOn "/")

end Place

end MediaClock.Replay
