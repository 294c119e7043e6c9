import EventScript.CommandLine

/-!
# The program

The command line on the system that it is started on.
-/
namespace EventScript.CommandLine

/-- The number of a system error, which some operations report with its sign changed. -/
def errorNumber (code : UInt32) : Nat :=
  if code < 0x80000000 then code.toNat else (0 - code).toNat

/-- The cause that a system error stands for. -/
def causeOf : IO.Error → Files.Fault
  | .noFileOrDirectory .. => .missing
  | .alreadyExists .. => .alreadyThere
  | .inappropriateType _ code _ => if errorNumber code = 20 then .notDirectory else .isDirectory
  | .permissionDenied .. => .other "Permission denied (os error 13)"
  | .invalidArgument _ code _ =>
    if errorNumber code = 36 then .nameTooLong else .other "Invalid argument (os error 22)"
  | error => .other (toString error)

/-- An operation of the system on a path. Its errors become answers. -/
def guarded (path : String) (operation : IO α) : IO (Except Files.Fault α) := do
  if path.toList.contains '\x00' then return .error .nulInName
  try return .ok (← operation)
  catch error => return .error (causeOf error)

/-- The system as a host. -/
def system : Host IO where
  readText path := do
    match ← guarded path (IO.FS.readBinFile path) with
    | .error cause => return .error cause
    | .ok bytes =>
      match Files.Content.ofBytes bytes.toList with
      | .text text => return .ok text
      | .binary _ => return .error .notText
  writeText path text := guarded path (IO.FS.writeFile path text)
  makeDirectory path := guarded path (IO.FS.createDir path)
  isDirectory path := do
    match ← guarded path (IO.FS.realPath path) with
    | .error _ => return false
    | .ok place => place.isDir
  print text := do (← IO.getStdout).putStr text
  complain text := do (← IO.getStderr).putStr text

end EventScript.CommandLine

/-- Runs the command line. -/
def main (arguments : List String) : IO UInt32 :=
  EventScript.CommandLine.run EventScript.CommandLine.system "gbvm-scriptc" arguments
