/-!
Paths of files: names between slashes.

A path with a slash in front stands on its own; any other one starts from some folder. Nothing is
resolved here, so two dots stay what they are.
-/

namespace SelectBinding.Path

/-- The greatest number of bytes in a part of a path. -/
def longestPart : Nat := 255

/-- The greatest number of bytes in a path. -/
def longestPath : Nat := 4095

/-- Whether a path has the character NUL in it. No file is at such a path. -/
def hasNul (path : String) : Bool :=
  path.toList.contains '\x00'

/-- Whether a path stands on its own. -/
def isAbsolute (path : String) : Bool :=
  path.startsWith "/"

/-- A path that starts from a folder. The empty folder adds nothing. -/
def join (folder path : String) : String :=
  if isAbsolute path || folder.isEmpty then path
  else if folder.endsWith "/" then folder ++ path
  else folder ++ "/" ++ path

/-- Whether a part of a path leads nowhere. -/
def isIdle (part : String) : Bool :=
  part.isEmpty || part == "."

/-- The parts of a path that lead somewhere or stand before one that does, the last one first. -/
def partsBackwards (path : String) : List String :=
  (path.splitOn "/").reverse.dropWhile isIdle

/-- The folder of a file. -/
def folder (path : String) : String :=
  match (partsBackwards path).tail.dropWhile isIdle with
  | [] => if isAbsolute path then "/" else if path.startsWith "./" then "." else ""
  | parts => String.intercalate "/" parts.reverse

/-- The name of a file without its folder. -/
def fileName? (path : String) : Option String :=
  match partsBackwards path with
  | [] => none
  | name :: _ => if name == ".." then none else some name

/-- What follows the last point of a name. A point in front of a name starts no extension. -/
def extensionOf? (name : String) : Option String :=
  let backwards := name.toList.reverse
  match backwards.dropWhile fun c => c != '.' with
  | _ :: _ :: _ => some (String.ofList (backwards.takeWhile fun c => c != '.').reverse)
  | _ => none

/-- The extension of the name of a file. -/
def extension? (path : String) : Option String :=
  (fileName? path).bind extensionOf?

end SelectBinding.Path
