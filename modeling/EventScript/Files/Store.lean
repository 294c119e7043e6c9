import EventScript.Files.Disk

/-!
# Stores

What a program can do with files, wherever they are kept: on the system, or on a disk in memory.
Making a directory together with those that enclose it needs no more than making one.
-/
namespace EventScript.Files

/-- The file operations of a place where files are kept. -/
structure Store (m : Type → Type) where
  readText : String → m (Except Fault String)
  writeText : String → String → m (Except Fault Unit)
  /-- Makes one directory inside one that is there. -/
  makeDirectory : String → m (Except Fault Unit)
  isDirectory : String → m Bool

namespace Store

variable {m : Type → Type} [Monad m]

/-- Makes one directory. It is no fault when the directory is already there. -/
def ensure (store : Store m) (path : String) : m (Except Fault Unit) := do
  match ← store.makeDirectory path with
  | .ok () => return .ok ()
  | .error fault => if ← store.isDirectory path then return .ok () else return .error fault

/-- Makes a directory and first, where the directory around it is missing, those that enclose it. -/
def ensureWithin (store : Store m) (path : String) : List String → m (Except Fault Unit)
  | [] => store.ensure path
  | nearest :: others => do
    match ← store.ensure path with
    | .error .missing =>
      match ← store.ensureWithin nearest others with
      | .ok () => store.ensure path
      | .error fault => return .error fault
    | answer => return answer

/-- Makes a directory with all that enclose it. The working directory is always there. -/
def makeDirectories (store : Store m) (path : String) : m (Except Fault Unit) :=
  if path.isEmpty then return .ok () else store.ensureWithin path (enclosing path)

end Store

end EventScript.Files
