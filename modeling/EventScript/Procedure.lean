import EventScript.Document

/-!
# Procedures

A procedure writes a draft step by step, with all that a draft offers: actions and conditionals,
pushes and pops, labels, lines of the caller's own, lists of events, and recovery from faults. The
arms of a conditional may again be procedures. It is what a caller other than a document says.
-/
namespace EventScript

open Assembly (Operand)

mutual

/-- One step of a procedure. -/
inductive Step where
  | act (action : Action)
  | choose (condition : Condition) (onTrue onFalse : Arm)
  | events (events : List Event)
  | push (words : Nat)
  | pop (words : Nat)
  | freshLabel
  | emit (mnemonic : String) (operands : List String)
  | comment (text : String)
  | raw (text : String)
  | blank
  | literal (text : String)
  /-- Runs steps up to the first fault, which the step answers with. -/
  | attempt (steps : List Step)
  | slot (reference : String)
  | symbol (variableName : String)
  | self
  | assemble (name : String) (exported : Bool)

/-- One arm of a conditional. -/
inductive Arm where
  | empty
  | events (events : List Event)
  | block (steps : List Step)

end

instance : Inhabited Step := ⟨.blank⟩

instance : Inhabited Arm := ⟨.empty⟩

/-- An arm as a message shows it. -/
def Arm.describe : Arm → String
  | empty => "Empty"
  | events listed => "Events(" ++ toString listed.length ++ ")"
  | block _ => "Block"

/-- What a step answers. -/
inductive Answer where
  | none
  | number (value : Nat)
  | text (value : String)
  | fault (fault : Fault)
deriving DecidableEq, Repr

/-- Where a procedure runs. -/
structure Workshop where
  setting : Setting := {}
  options : Options := {}
  /-- What a list of events writes, where the workshop can lower events. -/
  lowering : Option (List Event → Writing Unit) := none

/-- The empty list needs no lowering. -/
def Workshop.lower (workshop : Workshop) (events : List Event) : Writing Unit :=
  match events, workshop.lowering with
  | [], _ => pure ()
  | _, some lowering => lowering events
  | _, none => throw .noEventCompiler

/-- A step without an answer. -/
def silently (writing : Writing Unit) : Writing Answer := do
  writing
  return .none

mutual

/-- What a step writes and answers. -/
def Step.run (workshop : Workshop) : Step → Writing Answer
  | .act action => silently (action.write workshop.setting)
  | .choose condition onTrue onFalse =>
    silently (condition.write workshop.setting (onTrue.run workshop) (onFalse.run workshop))
  | .events events => silently (workshop.lower events)
  | .push words => silently (Writing.onLedger (Ledger.push words))
  | .pop words => silently (Writing.onLedger (Ledger.pop words))
  | .freshLabel => return .text (← Writing.onLedger Ledger.freshLabel)
  | .emit mnemonic operands => silently (Writing.emit mnemonic (operands.map Operand.text))
  | .comment text => silently (Writing.line (.comment text))
  | .raw text => silently (Writing.line (.raw text))
  | .blank => silently (Writing.line .blank)
  | .literal text => silently (Writing.line (.literal text))
  | .attempt steps => do
    match ← Writing.attempt (runSteps workshop steps) with
    | none => return .none
    | some fault => return .fault fault
  | .slot reference => return .number (← Writing.answer (workshop.setting.slot reference))
  | .symbol variableName =>
    return .text (← Writing.answer (workshop.setting.symbol variableName))
  | .self => return .text (← Writing.answer workshop.setting.self)
  | .assemble name exported => do
    return .text (← Writing.answer ((← get).assemble workshop.options name exported))

/-- Steps in order, up to the first fault. Their answers are dropped. -/
def runSteps (workshop : Workshop) : List Step → Writing Unit
  | [] => pure ()
  | step :: rest => do
    let _ ← step.run workshop
    runSteps workshop rest

/-- What an arm writes. -/
def Arm.run (workshop : Workshop) : Arm → Writing Unit
  | .empty => pure ()
  | .events events => workshop.lower events
  | .block steps => runSteps workshop steps

end

end EventScript
