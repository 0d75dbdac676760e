import SelectBinding.CommandLine.Session
import SelectBinding.Path

/-!
Files in memory: a folder with all that lies below it, which answers as the files of a system do.

A path is followed part by part, so of two things that are wrong with it the first one counts. Of
the folders around this one it is only known that they are there.
-/

namespace SelectBinding.CommandLine

/-- Why a file cannot be read or written. -/
inductive Refusal where
  | missing
  | notFolder
  | isFolder
  | tooLong
  /-- No path of a system has the character NUL in it. -/
  | hasNul
deriving Repr, DecidableEq

/-- The reason in words, with the number that systems give it if one of them is asked. -/
def Refusal.text : Refusal → String
  | .missing => "No such file or directory (os error 2)"
  | .notFolder => "Not a directory (os error 20)"
  | .isFolder => "Is a directory (os error 21)"
  | .tooLong => "File name too long (os error 36)"
  | .hasNul => "file name contained an unexpected NUL byte"

/-- A folder: the texts of the files below it, by the parts of their paths. A folder below it is
there when a file is in it. -/
structure Folder where
  files : List (List String × String) := []
deriving Repr, DecidableEq

namespace Folder

/-- The folder with files at the given paths. -/
def ofPaths (files : List (String × String)) : Folder :=
  ⟨files.map fun (path, text) => ((path.splitOn "/").filter fun part => !Path.isIdle part, text)⟩

/-- The text of the file at a place. -/
def textAt? (folder : Folder) (place : List String) : Option String :=
  folder.files.lookup place

/-- Whether a place is that of a folder. -/
def isFolderAt (folder : Folder) (place : List String) : Bool :=
  place.isEmpty || folder.files.any fun (path, _) => place.isPrefixOf path && place != path

/-- Whether a part of a path stays on the way, in the same folder or in the one around it. -/
def isDots (part : String) : Bool :=
  Path.isIdle part || part == ".."

/-- What is at the end of parts that are followed from a folder outside. -/
def outside : List String → Refusal
  | [] => .isFolder
  | part :: rest =>
    if isDots part then outside rest
    else if Path.longestPart < part.utf8ByteSize then .tooLong
    else .missing

/-- The place at the end of parts that are followed from a place. Only the last part may be
missing. -/
def follow (folder : Folder) (place : List String) : List String → Except Refusal (List String)
  | [] => .ok place
  | part :: rest =>
    if !folder.isFolderAt place then
      .error (if (folder.textAt? place).isSome then .notFolder else .missing)
    else if Path.isIdle part then folder.follow place rest
    else if part == ".." then
      if place.isEmpty then .error (outside rest) else folder.follow place.dropLast rest
    else if Path.longestPart < part.utf8ByteSize then .error .tooLong
    else folder.follow (place ++ [part]) rest

/-- The place at the end of the parts of a path, for a path that a system takes. -/
def placeOf (folder : Folder) (path : String) (parts : List String) :
    Except Refusal (List String) :=
  if Path.hasNul path then .error .hasNul
  else if path.isEmpty then .error .missing
  else if Path.longestPath < path.utf8ByteSize then .error .tooLong
  else if Path.isAbsolute path then .error (outside parts)
  else folder.follow [] parts

/-- The text of the file at a path. -/
def read (folder : Folder) (path : String) : Except Refusal String := do
  let place ← folder.placeOf path (path.splitOn "/")
  match folder.textAt? place with
  | some text => return text
  | none => throw (if folder.isFolderAt place then .isFolder else .missing)

/-- Whether something is at a path. -/
def isThere (folder : Folder) (path : String) : Bool :=
  match folder.placeOf path (path.splitOn "/") with
  | .ok place => (folder.textAt? place).isSome || folder.isFolderAt place
  | .error _ => false

/-- The place of a file that is to be written. A path with a slash at its end names a folder, which
need not be there. -/
def placeToWrite (folder : Folder) (path : String) : Except Refusal (List String) := do
  let parts := path.splitOn "/"
  match parts.reverse.dropWhile String.isEmpty with
  | last :: before =>
    if path.endsWith "/" && !isDots last then
      let _ ← folder.placeOf path (before.reverse ++ [""])
      throw .isFolder
    else
      let place ← folder.placeOf path parts
      if folder.isFolderAt place then throw .isFolder else return place
  | [] =>
    let _ ← folder.placeOf path parts
    throw .isFolder

/-- The folder with a text in the file at a path. -/
def write (folder : Folder) (path text : String) : Except Refusal Folder := do
  let place ← folder.placeToWrite path
  return ⟨(place, text) :: folder.files.filter fun file => file.1 != place⟩

end Folder

/-- The files of a folder in memory, as a session uses them. -/
def folderFiles : Files (StateM Folder) where
  read path := do return ((← get).read path).mapError Refusal.text
  write path text := do
    match (← get).write path text with
    | .ok folder =>
      set folder
      return .ok ()
    | .error e => return .error e.text
  isThere path := do return (← get).isThere path

end SelectBinding.CommandLine
