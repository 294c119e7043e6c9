import EventScript.Draft
import EventScript.Scene

/-!
# Actions and conditions

The commands that do one thing each, as a caller gives them, and what each of them writes. An action
that cannot be carried out is refused before it writes a line, unless only the scene can tell: an
actor is looked up after the comment of its command.

A condition is what a conditional asks. A variable is asked for by its name, under a comment of its
own; an operand that the assembler already understands is compared as it stands.
-/
namespace EventScript

open Assembly (Comparison Operand flags expression)

/-- Which way an actor takes to a tile that lies neither in its row nor in its column. -/
inductive MoveKind where
  | horizontal
  | vertical
  | diagonal
deriving DecidableEq, Repr

/-- Names of ways are in lower case. -/
def MoveKind.ofText? : String → Option MoveKind
  | "horizontal" => some horizontal
  | "vertical" => some vertical
  | "diagonal" => some diagonal
  | _ => none

/-- The flag that asks the machine for a way. The vertical way is the one taken unasked. -/
def MoveKind.flag : MoveKind → List String
  | horizontal => [".ACTOR_ATTR_H_FIRST"]
  | diagonal => [".ACTOR_ATTR_DIAGONAL"]
  | vertical => []

/-- A command that takes no events under it. -/
inductive Action where
  | setActive (actor : String)
  /-- The tile is counted from the corner of the scene. -/
  | moveTo (x y : Int) (collide : Bool) (kind : MoveKind)
  | wait (frames : Nat)
  | say (text : String)
  | debug (text : String)
  | label (name : String)
  | goto (name : String)
  | stop
deriving DecidableEq, Repr

/-- The name of the command that moves an actor, under which a tile out of reach is reported. -/
def moveToCommand : String := "EVENT_ACTOR_MOVE_TO"

/-- The width of a tile in the units of the machine. -/
def tileSize : Int := 128

/-- The place of a tile in units of the machine, which holds it in a signed word of 32 bits. -/
def tilePlace (axis : String) (tile : Int) : Except Fault Int :=
  let place := tile * tileSize
  if (Interval.signed 32).holds place = true then .ok place
  else .error (.invalidArgument moveToCommand (.outOfRange axis tile))

/-- Names of digits only are those of generated labels, and the empty name would be one as well. -/
def isReserved (name : String) : Bool := name.toList.all Char.isDigit

/-- A label that a script names itself. -/
def checkLabel (name : String) : Except Fault Unit :=
  if isReserved name = true then .error (.invalidArgument "label" (.reservedLabel name)) else .ok ()

namespace Writing

/-- The local actor is told which actor of the scene it stands for. -/
def setActive (setting : Setting) (actor : String) : Writing Unit :=
  command "Actor Set Active" do
    let slot ← answer (setting.slot actor)
    emit "VM_SET_CONST" [← actorField 0, .number slot]

/-- Fills the fields of the local actor one by one, then sets it on its way. -/
def moveTo (x y : Int) (collide : Bool) (kind : MoveKind) : Writing Unit := do
  let right ← answer (tilePlace "x" x)
  let down ← answer (tilePlace "y" y)
  command "Actor Move To" do
    let attributes := (if collide then [".ACTOR_ATTR_CHECK_COLL"] else []) ++ kind.flag
    emit "VM_SET_CONST" [← actorField 1, .number right]
    emit "VM_SET_CONST" [← actorField 2, .number down]
    emit "VM_SET_CONST" [← actorField 3, .text (flags attributes)]
    emit "VM_ACTOR_MOVE_TO" [← actorField 0]

/-- The waiting routine takes the number of frames from the stack and removes it. -/
def wait (frames : Nat) : Writing Unit :=
  command "Wait N Frames" do
    emit "VM_PUSH_CONST" [.number frames]
    onLedger (Ledger.push 1)
    emit "VM_INVOKE" [.text "b_wait_frames", .text "_wait_frames", .number 1, .text ".ARG0"]
    onLedger (Ledger.pop 1)

/-- The dialogue window slides in, shows the text until a button is pressed, and slides out. -/
def say (text : String) : Writing Unit :=
  command "Text Dialogue" do
    emit "VM_LOAD_TEXT" [.number 0]
    line (.literal text)
    emit "VM_OVERLAY_CLEAR"
      [.number 0, .number 0, .number 20, .number 4, .text ".UI_COLOR_WHITE",
        .text (flags [".UI_AUTO_SCROLL", ".UI_DRAW_FRAME"])]
    emit "VM_OVERLAY_MOVE_TO" [.number 0, .number 14, .text ".OVERLAY_TEXT_IN_SPEED"]
    emit "VM_DISPLAY_TEXT" []
    emit "VM_OVERLAY_WAIT"
      [.text ".UI_MODAL", .text (flags [".UI_WAIT_WINDOW", ".UI_WAIT_TEXT", ".UI_WAIT_BTN_A"])]
    emit "VM_OVERLAY_MOVE_TO" [.number 0, .number 18, .text ".OVERLAY_TEXT_OUT_SPEED"]
    emit "VM_OVERLAY_WAIT"
      [.text ".UI_MODAL", .text (flags [".UI_WAIT_WINDOW", ".UI_WAIT_TEXT"])]

/-- A message for whoever watches the game run. -/
def debug (text : String) : Writing Unit := do
  emit "VM_DEBUG" [.number 0]
  line (.literal text)

/-- Puts a label that the script names itself. -/
def labelHere (name : String) : Writing Unit := do
  answer (checkLabel name)
  label name

/-- Jumps to a label that the script names itself. -/
def goto (name : String) : Writing Unit := do
  answer (checkLabel name)
  jump name

/-- The script ends here. -/
def stop : Writing Unit := do
  line (.comment "Stop Script")
  line .stop

end Writing

/-- What an action writes. -/
def Action.write (setting : Setting) : Action → Writing Unit
  | setActive actor => Writing.setActive setting actor
  | moveTo x y collide kind => Writing.moveTo x y collide kind
  | wait frames => Writing.wait frames
  | say text => Writing.say text
  | debug text => Writing.debug text
  | label name => Writing.labelHere name
  | goto name => Writing.goto name
  | stop => Writing.stop

/-- The question of a conditional. -/
inductive Condition where
  /-- A variable is true when it is greater than zero. -/
  | isTrue (variableName : String)
  | compare (variableName : String) (comparison : Comparison) (value : Int)
  | operand (symbol : String) (comparison : Comparison) (value : Int)
deriving DecidableEq, Repr

/-- What a conditional writes around its two arms. -/
def Condition.write (setting : Setting) (condition : Condition) (onTrue onFalse : Writing Unit) :
    Writing Unit :=
  match condition with
  | isTrue variableName =>
    Writing.command "If Variable True" do
      let symbol ← Writing.answer (setting.symbol variableName)
      Writing.conditional .greater symbol 0 onTrue onFalse
  | compare variableName comparison value =>
    Writing.command "If Variable Compare" do
      let symbol ← Writing.answer (setting.symbol variableName)
      Writing.conditional comparison symbol value onTrue onFalse
  | operand symbol comparison value => Writing.conditional comparison symbol value onTrue onFalse

end EventScript
