import EventScript.Draft.Action
import EventScript.Event.Basic

/-!
# Commands of events

The names that an event may give its command, the arguments that each of them reads, and in which
order: of two faulty arguments the one that is read first is reported.
-/
namespace EventScript

open Assembly (Comparison)

/-- What an event asks for: to do something, or to choose between two of its lists of events. -/
inductive Command where
  | act (action : Action)
  | choose (condition : Condition)
deriving DecidableEq, Repr

namespace Event

/-- The way to a tile, horizontal where the event names none. -/
def readMoveKind (event : Event) : Except Fault MoveKind :=
  match event.args.lookup "moveType" with
  | none => .ok .horizontal
  | some _ => do
    let name ← event.readText "moveType"
    match MoveKind.ofText? name with
    | some kind => .ok kind
    | none => .error (event.misused (.unknownMoveKind name))

/-- The comparison of a conditional. -/
def readComparison (event : Event) : Except Fault Comparison := do
  let name ← event.readText "operator"
  match Comparison.ofText? name with
  | some comparison => .ok comparison
  | none => .error (event.misused (.unknownOperator name))

/-- A move reads its way first, although its coordinates come first in the action. -/
def readMove (event : Event) : Except Fault Action := do
  let kind ← event.readMoveKind
  let x ← event.readNumber (.signed 32) "x"
  let y ← event.readNumber (.signed 32) "y"
  let collide ← event.readFlag "useCollisions" true
  return .moveTo x y collide kind

/-- A comparison reads its operator before its variable. -/
def readCompare (event : Event) : Except Fault Condition := do
  let comparison ← event.readComparison
  let variableName ← event.readName "variable"
  let value ← event.readNumber (.signed 32) "comparator"
  return .compare variableName comparison value

/-- The command of an event with its arguments read. -/
def read (event : Event) : Except Fault Command :=
  match event.command with
  | "EVENT_ACTOR_SET_ACTIVE" => return .act (.setActive (← event.readText "actorId"))
  | "EVENT_ACTOR_MOVE_TO" => return .act (← event.readMove)
  | "EVENT_WAIT" => return .act (.wait (← event.readNumber (.unsigned 16) "frames").toNat)
  | "EVENT_TEXT" => return .act (.say (← event.readText "text"))
  | "EVENT_IF_TRUE" => return .choose (.isTrue (← event.readName "variable"))
  | "EVENT_IF_VALUE" => return .choose (← event.readCompare)
  | "EVENT_LABEL_DEFINE" => return .act (.label (← event.readText "label"))
  | "EVENT_LABEL_GOTO" => return .act (.goto (← event.readText "label"))
  | "EVENT_DEBUG" => return .act (.debug (← event.readText "text"))
  | "EVENT_END" => return .act .stop
  | other => .error (.unknownCommand event.id other)

end Event

end EventScript
