import EventScript.Draft.Assembled
import EventScript.Event.Lowering

/-!
# Documents

A document holds the scripts of one scene. Each script is compiled on a draft of its own, so the
scripts of a document do not influence one another, except that no two of them share a name.
-/
namespace EventScript

/-- A named list of events. -/
structure Script where
  name : String
  /-- Whether the linker sees the symbol of the script. -/
  exported : Bool := false
  events : List Event := []

/-- Scripts that belong to one scene and one owner. -/
structure Document where
  setting : Setting
  scripts : List Script := []

/-- The text of a script. -/
structure Compiled where
  name : String
  text : String
deriving DecidableEq, Repr

/-- Compiles one script. -/
def Script.compile (options : Options) (setting : Setting) (script : Script) :
    Except Fault Compiled :=
  match lowerEvents setting script.events {} with
  | .error fault _ => .error fault
  | .ok _ draft =>
    (draft.assemble options script.name script.exported).map fun text =>
      { name := script.name, text := text }

/-- The first name that stands earlier in the list, or among the names already seen. -/
def firstRepeated? (seen : List String) : List String → Option String
  | [] => none
  | name :: rest => if name ∈ seen then some name else firstRepeated? (name :: seen) rest

/-- The scripts of a document have distinct names. -/
def Document.checkNames (document : Document) : Except Fault Unit :=
  match firstRepeated? [] (document.scripts.map (·.name)) with
  | some name => .error (.duplicateScript name)
  | none => .ok ()

/-- Compiles every script, up to the first that fails. Names are checked before any script. -/
def Document.compile (options : Options) (document : Document) : Except Fault (List Compiled) := do
  document.checkNames
  document.scripts.mapM (Script.compile options document.setting)

end EventScript
