/-!
# Options

What a configuration decides about the text around a script.
-/
namespace EventScript

/-- When the cells of the local actor are reserved. -/
inductive LocalActorMode where
  /-- When the script addresses them. -/
  | auto
  | always
  | never
deriving DecidableEq, Repr

/-- Names of modes are in lower case. -/
def LocalActorMode.ofText? : String → Option LocalActorMode
  | "auto" => some auto
  | "always" => some always
  | "never" => some never
  | _ => none

/-- The name of a mode. -/
def LocalActorMode.name : LocalActorMode → String
  | auto => "auto"
  | always => "always"
  | never => "never"

/-- The bank that leaves the choice of a bank to the linker. -/
def autoBank : Nat := 255

/-- The options of one compilation. -/
structure Options where
  includes : List String := ["vm.i", "data/game_globals.i"]
  bank : Nat := autoBank
  localActor : LocalActorMode := .auto
deriving DecidableEq, Repr

end EventScript
