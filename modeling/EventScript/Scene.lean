import EventScript.Fault

/-!
# Scenes and references

The actors and variables that a script may name, and what each name stands for: an actor is
addressed by a slot, a variable by a symbol.
-/
namespace EventScript

/-- The project data that a script is compiled against. -/
structure Scene where
  id : String := ""
  actors : List String := []
  triggers : List String := []
  /-- The declared variables. Without a declaration any well-formed name may be used. -/
  declared : Option (List String) := none
deriving DecidableEq, Repr

/-- Where a script runs: a scene, and the actor or trigger that owns the script, if one does. -/
structure Setting where
  scene : Scene := {}
  owner : Option String := none
deriving DecidableEq, Repr

/-- The reference that always means the player. -/
def playerName : String := "player"

/-- The reference that means the owner of the script. -/
def selfName : String := "$self$"

/-- Actors occupy the slots after the player's, in the order of the scene. Of two actors with one
name the later one answers to it. -/
def Scene.slot? (scene : Scene) (actor : String) : Option Nat :=
  (scene.actors.zipIdx 1).reverse.lookup actor

/-- The owner of the script, where it has one. -/
def Setting.self (setting : Setting) : Except Fault String :=
  match setting.owner with
  | some id => .ok id
  | none => .error .noActiveEntity

/-- The name that a reference stands for. Only the reference to the owner stands for another. -/
def Setting.named (setting : Setting) (reference : String) : Except Fault String :=
  if reference = selfName then setting.self else .ok reference

/-- The slot of an actor. The player holds slot zero also where it owns the script or where an actor
of the scene has the player's name. -/
def Setting.slot (setting : Setting) (reference : String) : Except Fault Nat := do
  let name ← setting.named reference
  if name = playerName then return 0
  match setting.scene.slot? name with
  | some slot => return slot
  | none => throw (.unknownActor name)

/-- Letters, digits and underscores of ASCII may occur in the name of a variable. -/
def isVariableChar (c : Char) : Bool := c.isAlphanum || c == '_'

/-- Whether a scene knows a variable. -/
def Scene.hasVariable (scene : Scene) (variableName : String) : Bool :=
  match scene.declared with
  | none => true
  | some names => names.contains variableName

/-- The symbol of a variable. -/
def Setting.symbol (setting : Setting) (variableName : String) : Except Fault String :=
  if variableName ≠ "" ∧ variableName.toList.all isVariableChar = true ∧
      setting.scene.hasVariable variableName = true then
    .ok ("VAR_VARIABLE_" ++ variableName)
  else
    .error (.unknownVariable variableName)

end EventScript
