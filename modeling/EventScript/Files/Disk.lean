import EventScript.Files.Path

/-!
# Disks

A tree of directories and files, and the operations of a program that runs in one of its
directories. A path is followed part by part, and every directory on the way has to exist, even
where the next part leads back out of it. A failed operation leaves what it has done so far.
-/
namespace EventScript.Files

/-- A file holds text, or bytes that are not the UTF-8 form of a text. -/
inductive Content where
  | text (text : String)
  | binary (bytes : List UInt8)
deriving DecidableEq, Repr, Inhabited

/-- The content that bytes amount to. -/
def Content.ofBytes (bytes : List UInt8) : Content :=
  match String.fromUTF8? ⟨bytes.toArray⟩ with
  | some decoded => .text decoded
  | none => .binary bytes

/-- A file or a directory. The names in a directory are distinct. -/
inductive Node where
  | file (content : Content)
  | directory (entries : List (String × Node))
deriving Inhabited

/-- The node that names lead to. -/
def Node.find? (tree : Node) (names : List String) : Option Node :=
  match names, tree with
  | [], _ => some tree
  | name :: rest, .directory entries => (entries.lookup name).bind fun node => node.find? rest
  | _ :: _, .file _ => none

/-- Replaces what stands under a name, or adds it. -/
def replace (name : String) (node : Node) : List (String × Node) → List (String × Node)
  | [] => [(name, node)]
  | (other, present) :: rest =>
    if other = name then (name, node) :: rest else (other, present) :: replace name node rest

/-- The tree with a node where names lead to. Directories that are missing on the way are made, and
a file on the way gives place to one. -/
def Node.put (tree : Node) (names : List String) (node : Node) : Node :=
  match names, tree with
  | [], _ => node
  | name :: rest, .directory entries =>
    .directory (replace name (put ((entries.lookup name).getD (.directory [])) rest node) entries)
  | name :: rest, .file _ => .directory [(name, put (.directory []) rest node)]

/-- A tree and the directory in it where the program runs. -/
structure Disk where
  root : Node := .directory []
  /-- The names that lead from the root to the working directory. -/
  here : List String := []
deriving Inhabited

namespace Disk

/-- An operation on a disk, which a fault does not undo. -/
abbrev Operation := EStateM Fault Disk

/-- The most bytes that a name may have. -/
def nameLimit : Nat := 255

/-- The most bytes that a path may have. -/
def pathLimit : Nat := 4095

/-- Follows one part of a path from a place that has to be a directory. From the root there is no
way out. -/
def follow (root : Node) (place : List String) (part : String) : Except Fault (List String) :=
  match root.find? place with
  | none => .error .missing
  | some (.file _) => .error .notDirectory
  | some (.directory _) =>
    if part = "" || part = "." then .ok place
    else if part = ".." then .ok place.dropLast
    else if nameLimit < part.utf8ByteSize then .error .nameTooLong
    else .ok (place ++ [part])

/-- The place that parts of a path lead to. The place itself need not exist. -/
def locate (disk : Disk) (path : String) (parts : List String) : Except Fault (List String) :=
  if path.toList.contains '\x00' then .error .nulInName
  else if path.isEmpty then .error .missing
  else if pathLimit < path.utf8ByteSize then .error .nameTooLong
  else parts.foldlM (follow disk.root) (if isAbsolute path then [] else disk.here)

/-- Whether a path leads to a directory. -/
def isDirectory (disk : Disk) (path : String) : Bool :=
  match disk.locate path (parts path) with
  | .error _ => false
  | .ok place =>
    match disk.root.find? place with
    | some (.directory _) => true
    | _ => false

/-- Where a path leads. -/
def place (path : String) (parts : List String) : Operation (List String) := do
  match (← get).locate path parts with
  | .ok place => return place
  | .error fault => throw fault

/-- The text of a file. -/
def readText (path : String) : Operation String := do
  let place ← place path (parts path)
  match (← get).root.find? place with
  | none => throw .missing
  | some (.directory _) => throw .isDirectory
  | some (.file (.binary _)) => throw .notText
  | some (.file (.text text)) => return text

/-- Gives a file a text. The file need not exist before. -/
def writeText (path text : String) : Operation Unit := do
  let place ← place path (parts path)
  match (← get).root.find? place with
  | some (.directory _) => throw .isDirectory
  | _ => modify fun disk => { disk with root := disk.root.put place (.file (.text text)) }

/-- Makes one directory, in which slashes at the end of the path do not count. -/
def makeDirectory (path : String) : Operation Unit := do
  let place ← place path ((parts path).reverse.dropWhile (· == "")).reverse
  match (← get).root.find? place with
  | some _ => throw .alreadyThere
  | none => modify fun disk => { disk with root := disk.root.put place (.directory []) }

end Disk

mutual

/-- All files below a node, each with the names that lead to it from there. -/
def Node.files : Node → List (List String × Content)
  | .file content => [([], content)]
  | .directory entries => filesOfEntries entries

/-- All files below the entries of a directory. -/
def filesOfEntries : List (String × Node) → List (List String × Content)
  | [] => []
  | (name, node) :: rest =>
    (node.files.map fun (names, content) => (name :: names, content)) ++ filesOfEntries rest

end

end EventScript.Files
