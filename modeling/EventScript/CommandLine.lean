import EventScript.Files.Store
import EventScript.Reading

/-!
# The command line

The compiler as a program: it reads a configuration and a document, compiles all scripts of the
document, and only then makes the output directory and writes one file a script. What it does to the
system goes through a host, so the same program runs on a system and on a disk in memory, and how
texts are understood is told by a format, which is TOML where the program is started. Two things are
taken for granted of a host: printing and complaining never fail, and arguments are text.
-/
namespace EventScript

namespace CommandLine

/-- What a program can ask of the system it runs on. Only operations on files can fail. -/
structure Host (m : Type → Type) extends Files.Store m where
  /-- Adds to what the program answers. -/
  print : String → m Unit
  /-- Adds to what the program complains about. -/
  complain : String → m Unit

/-- What the arguments ask for. -/
structure Request where
  input : String := ""
  outputDirectory : String := "."
  configuration : Option String := none
  verbose : Bool := false
deriving DecidableEq, Repr

/-- What becomes of the arguments. -/
inductive Choice where
  | help
  | compile (request : Request)
  /-- The arguments are refused, some of the reasons with a reminder of the usage. -/
  | refuse (reason : String) (remind : Bool)
deriving DecidableEq, Repr

/-- Reads the arguments from left to right, up to a call for help or a reason to refuse. An empty
argument is an input that is not there. -/
def choose (request : Request) : List String → Choice
  | [] => if request.input = "" then .refuse "No input file specified" true else .compile request
  | argument :: rest =>
    if argument = "-o" ∨ argument = "--output" then
      match rest with
      | [] => .refuse "-o requires a directory" false
      | directory :: rest => choose { request with outputDirectory := directory } rest
    else if argument = "-c" ∨ argument = "--config" then
      match rest with
      | [] => .refuse "-c requires a filename" false
      | path :: rest => choose { request with configuration := some path } rest
    else if argument = "-v" ∨ argument = "--verbose" then
      choose { request with verbose := true } rest
    else if argument = "-h" ∨ argument = "--help" then .help
    else if argument.toList.head? = some '-' then
      .refuse ("Unknown option '" ++ argument ++ "'") true
    else if request.input = "" then choose { request with input := argument } rest
    else .refuse "Multiple input files specified" false

/-- How the program is used. -/
def usage (program : String) : String :=
  joinLines
    ["gbvm-scriptc - GBVM event script compiler",
      "",
      "Usage: " ++ program ++ " [OPTIONS] <script.toml>",
      "",
      "Options:",
      "  -o, --output <DIR>     Output directory for .s files (default: .)",
      "  -c, --config <FILE>    Compiler configuration (TOML)",
      "  -v, --verbose          Print a line per compiled script",
      "  -h, --help             Show this help message",
      "",
      "Set RUST_LOG=debug to trace label allocation and stack depth."]

/-- Why a request was not carried out. -/
inductive Failure where
  | configuration (fault : Fault)
  | document (input : String) (fault : Fault)
  | compilation (fault : Fault)
  | outputDirectory (path : String) (cause : Files.Fault)
  | outputFile (path : String) (cause : Files.Fault)
deriving DecidableEq, Repr

/-- The wording of each failure. -/
def Failure.message : Failure → String
  | configuration fault => "Error: " ++ fault.message
  | document input fault => "Error reading '" ++ input ++ "': " ++ fault.message
  | compilation fault => "Compilation failed: " ++ fault.message
  | outputDirectory path cause => "Error creating '" ++ path ++ "': " ++ cause.message
  | outputFile path cause => "Error writing '" ++ path ++ "': " ++ cause.message

section

variable {m : Type → Type} [Monad m]

/-- Reads a text from a file and makes something of it. -/
def load (host : Host m) (read : String → Except Fault α) (path : String) : ExceptT Fault m α := do
  match ← host.readText path with
  | .ok text => ExceptT.mk (pure (read text))
  | .error cause => throw (.unreadable path cause)

/-- The options of a request. Without a configuration they are the defaults. -/
def options (host : Host m) (format : Format) (request : Request) : ExceptT Fault m Options :=
  match request.configuration with
  | some path => load host format.readOptions path
  | none => return {}

/-- Gives a failure to what is done for a reason. -/
def blame (failure : ε → Failure) (action : m (Except ε α)) : ExceptT Failure m α :=
  ExceptT.mk (Except.mapError failure <$> action)

/-- The file of a script. -/
def outputPath (request : Request) (script : Compiled) : String :=
  Files.join request.outputDirectory (script.name ++ ".s")

/-- Writes the file of a script. -/
def writeScript (host : Host m) (request : Request) (script : Compiled) :
    ExceptT Failure m Unit := do
  let path := outputPath request script
  blame (.outputFile path) (host.writeText path script.text)
  if request.verbose then
    host.print (script.name ++ " -> " ++ path ++ " (" ++ toString script.text.utf8ByteSize ++
      " bytes)\n")

/-- Writes the files of all scripts. -/
def writeScripts (host : Host m) (request : Request) : List Compiled → ExceptT Failure m Unit
  | [] => return
  | script :: rest => do
    writeScript host request script
    writeScripts host request rest

/-- The scripts of a request and the scene that they belong to. Nothing is written. -/
def compile (host : Host m) (format : Format) (request : Request) :
    ExceptT Failure m (List Compiled × String) := do
  let options ← blame .configuration (options host format request).run
  let document ← blame (.document request.input) (load host format.readDocument request.input).run
  let scripts ← blame .compilation (pure (document.compile options))
  return (scripts, document.setting.scene.id)

/-- Carries out a request. -/
def perform (host : Host m) (format : Format) (request : Request) : ExceptT Failure m Unit := do
  let (scripts, scene) ← compile host format request
  blame (.outputDirectory request.outputDirectory) (host.makeDirectories request.outputDirectory)
  writeScripts host request scripts
  if request.verbose then
    host.print ("Compiled " ++ toString scripts.length ++ " script(s) from scene '" ++ scene ++
      "'\n")

/-- Runs the program under a name with arguments, where configurations and documents have some
format. The answer is its exit code. -/
def runWith (host : Host m) (format : Format) (program : String) (arguments : List String) :
    m UInt32 := do
  if arguments.isEmpty then
    host.print (usage program)
    return 1
  match choose {} arguments with
  | .help =>
    host.print (usage program)
    return 0
  | .refuse reason remind =>
    host.complain ("Error: " ++ reason ++ "\n")
    if remind then host.print (usage program)
    return 1
  | .compile request =>
    match ← (perform host format request).run with
    | .ok () => return 0
    | .error failure =>
      host.complain (failure.message ++ "\n")
      return 1

/-- Runs the program on configurations and documents in TOML. -/
def run (host : Host m) (program : String) (arguments : List String) : m UInt32 :=
  runWith host .toml program arguments

end

/-- A disk in memory and what a program has said. -/
structure Session where
  disk : Files.Disk := {}
  printed : String := ""
  complained : String := ""
deriving Inhabited

/-- An operation on the disk of a session. -/
def Session.onDisk (operation : Files.Disk.Operation α) : StateM Session (Except Files.Fault α) :=
  fun session =>
    match operation session.disk with
    | .ok value disk => (.ok value, { session with disk := disk })
    | .error fault disk => (.error fault, { session with disk := disk })

/-- A disk in memory as a host. -/
def Session.host : Host (StateM Session) where
  readText path := onDisk (Files.Disk.readText path)
  writeText path text := onDisk (Files.Disk.writeText path text)
  makeDirectory path := onDisk (Files.Disk.makeDirectory path)
  isDirectory path := return (← get).disk.isDirectory path
  print text := modify fun session => { session with printed := session.printed ++ text }
  complain text := modify fun session => { session with complained := session.complained ++ text }

end CommandLine

end EventScript
