/-!
# Paths and what can be wrong with them

A path is a text with slashes. Its parts are what stands between them, in order and including empty
ones; the enclosing paths of a path are what remains as its last proper parts are taken away. The
faults say why a file or directory at a path could not be read, made or written.
-/
namespace EventScript.Files

/-- The cause of a failed file operation. -/
inductive Fault where
  | missing
  | alreadyThere
  | notDirectory
  | isDirectory
  | nameTooLong
  | nulInName
  /-- The bytes of a file are not UTF-8. -/
  | notText
  /-- A cause that only a host system knows, in its own words. -/
  | other (words : String)
deriving DecidableEq, Repr

/-- The causes that a system numbers carry their number. -/
def Fault.message : Fault → String
  | missing => "No such file or directory (os error 2)"
  | alreadyThere => "File exists (os error 17)"
  | notDirectory => "Not a directory (os error 20)"
  | isDirectory => "Is a directory (os error 21)"
  | nameTooLong => "File name too long (os error 36)"
  | nulInName => "file name contained an unexpected NUL byte"
  | notText => "stream did not contain valid UTF-8"
  | other words => words

/-- What stands between the slashes. A text without slashes is one part. -/
def partsOf : List Char → List (List Char)
  | [] => [[]]
  | '/' :: rest => [] :: partsOf rest
  | c :: rest =>
    match partsOf rest with
    | [] => [[c]]
    | first :: others => (c :: first) :: others

/-- The parts of a path. -/
def parts (path : String) : List String := (partsOf path.toList).map String.ofList

/-- A path with a slash in front starts at the root and not at the working directory. -/
def isAbsolute (path : String) : Bool := path.toList.head? == some '/'

/-- A path inside a directory. An absolute path is inside none, and the empty path is the working
directory itself. -/
def join (directory path : String) : String :=
  if isAbsolute path then path
  else if directory.isEmpty || directory.toList.getLast? == some '/' then directory ++ path
  else directory ++ "/" ++ path

/-- Parts that lead somewhere: empty parts and single points do not, except for a single point that
begins a path. -/
def properParts (path : String) : List String :=
  let leads (part : String) : Bool := part ≠ "" && part ≠ "."
  match parts path with
  | "." :: rest => "." :: rest.filter leads
  | all => all.filter leads

/-- The path that leads through the given parts. -/
def ofParts (absolute : Bool) (parts : List String) : String :=
  (if absolute then "/" else "") ++ String.intercalate "/" parts

/-- The nonempty beginnings of a list but for the list itself, the longest first. -/
def properBeginnings : List α → List (List α)
  | [] => []
  | [_] => []
  | first :: rest => (properBeginnings rest).map (first :: ·) ++ [[first]]

/-- The paths that enclose a path, the nearest first. The working directory is not among them. -/
def enclosing (path : String) : List String :=
  let absolute := isAbsolute path
  (properBeginnings (properParts path)).map (ofParts absolute) ++ (if absolute then ["/"] else [])

end EventScript.Files
