import EventScript.Arg
import EventScript.Files.Path

/-!
# Faults

Every way in which a script, a document, a configuration or a file can be refused, one constructor a
cause, and the one function that words them.
-/
namespace EventScript

/-- What is wrong with one argument of an event. -/
inductive Misuse where
  | missing (key : String)
  /-- The argument is there, but it is not what its command expects. -/
  | wrongKind (key expected : String) (got : Arg)
  | outOfRange (key : String) (value : Int)
  | unknownMoveKind (name : String)
  | unknownOperator (name : String)
  /-- Labels that are empty or all digits are kept for conditionals. -/
  | reservedLabel (name : String)
deriving DecidableEq, Repr

/-- The detail of a message about an argument. -/
def Misuse.message : Misuse → String
  | missing key => "missing '" ++ key ++ "'"
  | wrongKind key expected got =>
    "'" ++ key ++ "' must be " ++ expected ++ ", got " ++ got.describe
  | outOfRange key value => "'" ++ key ++ "' out of range: " ++ toString value
  | unknownMoveKind name => "unknown move type '" ++ name ++ "'"
  | unknownOperator name => "unknown operator '" ++ name ++ "'"
  | reservedLabel name => "'" ++ name ++ "' is reserved for generated labels"

/-- Why a text was refused as a configuration or a document. -/
inductive Rejection where
  /-- The text does not follow the grammar, or gives a key twice. -/
  | grammar
  /-- The text is well formed, but a required key is absent or a value is of the wrong kind. -/
  | shape
deriving DecidableEq, Repr

/-- The detail of a message about a refused text. -/
def Rejection.message : Rejection → String
  | grammar => "the text is not well-formed TOML"
  | shape => "a required key is missing or a value is of the wrong kind"

/-- Why no assembly text came about. Depths count the words on the operand stack. -/
inductive Fault where
  | unknownActor (id : String)
  | unknownVariable (id : String)
  | noActiveEntity
  | duplicateLabel (name : String)
  | stackImbalance (site : String) (expected found : Nat)
  | stackUnderflow (requested depth : Nat)
  | undefinedLabel (symbol : String)
  | noEventCompiler
  | unknownCommand (event command : String)
  | invalidArgument (command : String) (misuse : Misuse)
  | duplicateScript (name : String)
  | badDocument (rejection : Rejection)
  | badConfiguration (rejection : Rejection)
  | unreadable (path : String) (cause : Files.Fault)
deriving DecidableEq, Repr

/-- The wording of each fault. -/
def Fault.message : Fault → String
  | unknownActor id => "Unknown actor '" ++ id ++ "' in scene"
  | unknownVariable id => "Unknown variable '" ++ id ++ "'"
  | noActiveEntity => "Self reference used in a script with no owning actor"
  | duplicateLabel name => "Label '" ++ name ++ "' defined more than once"
  | stackImbalance site expected found =>
    "Stack imbalance at '" ++ site ++ "': expected depth " ++ toString expected ++ ", found " ++
      toString found
  | stackUnderflow requested depth =>
    "Stack underflow: cannot pop " ++ toString requested ++ " word(s) at depth " ++ toString depth
  | undefinedLabel symbol => "Jump to label '" ++ symbol ++ "' which is never defined"
  | noEventCompiler => "Event branch given but no event compiler is configured"
  | unknownCommand event command => "Unknown command '" ++ command ++ "' in event '" ++ event ++ "'"
  | invalidArgument command misuse => "Invalid argument for " ++ command ++ ": " ++ misuse.message
  | duplicateScript name =>
    "Invalid argument for script document: duplicate script name '" ++ name ++ "'"
  | badDocument rejection => "Invalid argument for script document: " ++ rejection.message
  | badConfiguration rejection => "Configuration error: " ++ rejection.message
  | unreadable path cause => "IO error: " ++ path ++ ": " ++ cause.message

end EventScript
