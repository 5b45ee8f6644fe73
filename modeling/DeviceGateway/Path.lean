/-! Paths of files. A path is absolute when it starts with a slash; empty parts and single
dots in it do not count. -/

namespace DeviceGateway

/-- Why the file at a path cannot be read. -/
inductive FileFault where
  | absent
  | denied
  | notDirectory
  | isDirectory
  | nameTooLong
  /-- The path has the character zero in it. -/
  | zeroInPath
  deriving DecidableEq, Repr

/-- What the system says. -/
def FileFault.message : FileFault → String
  | .absent => "No such file or directory (os error 2)"
  | .denied => "Permission denied (os error 13)"
  | .notDirectory => "Not a directory (os error 20)"
  | .isDirectory => "Is a directory (os error 21)"
  | .nameTooLong => "File name too long (os error 36)"
  | .zeroInPath => "file name contained an unexpected NUL byte"

namespace Path

/-- The parts of a path that count. -/
def parts (path : String) : List String :=
  ((path.splitToList (· == '/')).filter fun p => p ≠ "" ∧ p ≠ ".")

def isAbsolute (path : String) : Bool := path.toList.head? == some '/'

/-- A path as it is seen from a directory. -/
def within (directory path : String) : String :=
  if isAbsolute path then path
  else if directory.toList.getLast? = some '/' then directory ++ path
  else directory ++ "/" ++ path

/-- The parts after those that two lists share at the front. -/
def dropShared : List String → List String → List String × List String
  | a :: as, b :: bs => if a = b then dropShared as bs else (a :: as, b :: bs)
  | as, bs => (as, bs)

/-- The way from a directory to a path, both absolute. -/
def relative (directory path : String) : String :=
  let (down, up) := dropShared (parts path) (parts directory)
  String.intercalate "/" (up.map (fun _ => "..") ++ down)

/-- The paths of a name in a directory, whose parts are reversed, and in those that it
lies in. -/
def upwards (name : String) : List String → List String
  | [] => ["/" ++ name]
  | p :: up => String.join ((name :: p :: up).reverse.map ("/" ++ ·)) :: upwards name up

/-- A path with more at the end of its last part that counts, and nothing after that; none
if this part is no name. -/
def extend? (suffix path : String) : Option String :=
  match (path.splitToList (· == '/')).reverse.dropWhile fun p => p = "" ∨ p = "." with
  | [] | ".." :: _ => none
  | p :: up => some (String.intercalate "/" ((p ++ suffix) :: up).reverse)

/-- What the last part of a path has after its last point, unless that is its first
character. -/
def extension? (path : String) : Option String := do
  let name ← (parts path).getLast?
  let reversed := name.toList.reverse
  let suffix := reversed.takeWhile (· != '.')
  if suffix.length + 1 < reversed.length then some (String.ofList suffix.reverse) else none

end Path

end DeviceGateway
