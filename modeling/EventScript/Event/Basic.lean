import EventScript.Fault

/-!
# Events

An event tells the game to do one thing. It names a command, carries arguments, and may hold further
events under names of its own choice. Reading an argument checks that it is there, that it is of the
kind asked for and that a number lies in the range asked for.
-/
namespace EventScript

/-- An event of a script. Arguments and children are listed under distinct keys. -/
structure Event where
  id : String := ""
  command : String
  args : List (String × Arg) := []
  children : List (String × List Event) := []
  disabled : Bool := false
deriving Inhabited

namespace Event

/-- The events under a name. A name that the event does not have holds none. -/
def childrenOf (event : Event) (key : String) : List Event :=
  (event.children.lookup key).getD []

/-- A fault of an argument names the command that was to read it. -/
def misused (event : Event) (misuse : Misuse) : Fault := .invalidArgument event.command misuse

/-- A text. -/
def readText (event : Event) (key : String) : Except Fault String :=
  match event.args.lookup key with
  | some (.text text) => .ok text
  | some other => .error (event.misused (.wrongKind key "text" other))
  | none => .error (event.misused (.missing key))

/-- A name, for which a number stands by its decimal digits. -/
def readName (event : Event) (key : String) : Except Fault String :=
  match event.args.lookup key with
  | some (.text text) => .ok text
  | some (.number n) => .ok (toString n)
  | some other => .error (event.misused (.wrongKind key "an id" other))
  | none => .error (event.misused (.missing key))

/-- A whole number of an interval. -/
def readNumber (event : Event) (interval : Interval) (key : String) : Except Fault Int :=
  match event.args.lookup key with
  | some (.number n) =>
    if interval.holds n = true then .ok n else .error (event.misused (.outOfRange key n))
  | some other => .error (event.misused (.wrongKind key "a number" other))
  | none => .error (event.misused (.missing key))

/-- A truth value. Only this kind of argument may be left out. -/
def readFlag (event : Event) (key : String) (default : Bool) : Except Fault Bool :=
  match event.args.lookup key with
  | some (.flag value) => .ok value
  | some other => .error (event.misused (.wrongKind key "true or false" other))
  | none => .ok default

end Event

end EventScript
