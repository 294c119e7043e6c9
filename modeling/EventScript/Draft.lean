import EventScript.Assembly.Line

/-!
# Drafts

A draft is a script while it is written: the lines so far, the ledger of its stack and labels, and
whether a line addresses the local actor. Writing only ever appends. A fault ends the writing of a
command and not the draft, so a caller may go on after it with all that was written before.
-/
namespace EventScript

open Assembly (Comparison Line)

/-- A line of a draft and the depth of the stack at which it was written. -/
structure Entry where
  line : Line
  depth : Nat
deriving DecidableEq, Repr

/-- A script while it is written. -/
structure Draft where
  ledger : Ledger := {}
  entries : Array Entry := #[]
  usesLocalActor : Bool := false
deriving DecidableEq, Repr

/-- The lines that a draft holds, in the order of writing. -/
def Draft.lines (draft : Draft) : List String :=
  draft.entries.toList.map fun entry => entry.line.render

/-- An act of writing, which a fault does not undo. -/
abbrev Writing := EStateM Fault Draft

namespace Writing

/-- Writes one line at the present depth. -/
def line (line : Line) : Writing Unit :=
  modify fun draft =>
    { draft with entries := draft.entries.push { line := line, depth := draft.ledger.depth } }

/-- An operation on the ledger of the draft. -/
def onLedger (operation : Ledger.Operation α) : Writing α := fun draft =>
  match operation draft.ledger with
  | .ok value ledger => .ok value { draft with ledger := ledger }
  | .error fault ledger => .error fault { draft with ledger := ledger }

/-- The present depth of the stack. -/
def depth : Writing Nat := return (← get).ledger.depth

/-- What can be answered without a draft. -/
def answer (answer : Except Fault α) : Writing α :=
  match answer with
  | .ok value => pure value
  | .error fault => throw fault

/-- Demands the depth that a construct began with. -/
def expectDepth (site : String) (expected : Nat) : Writing Unit := do
  let found ← depth
  if found ≠ expected then throw (.stackImbalance site expected found)

/-- An instruction. -/
def emit (mnemonic : String) (operands : List Assembly.Operand) : Writing Unit :=
  line (.instruction mnemonic operands)

/-- The operand for a field of the local actor. From here on the script needs that actor. -/
def actorField (field : Nat) : Writing Assembly.Operand := do
  modify fun draft => { draft with usesLocalActor := true }
  return .actor field (← depth)

/-- A command stands between its comment and a blank line, and leaves the depth as it found it. -/
def command (title : String) (body : Writing Unit) : Writing Unit := do
  let before ← depth
  line (.comment title)
  body
  expectDepth title before
  line .blank

/-- Puts a label here. -/
def label (name : String) : Writing Unit := do
  onLedger (Ledger.define name)
  line (.label name)

/-- Jumps to a label, which may be defined later. -/
def jump (name : String) : Writing Unit := do
  onLedger (Ledger.jump name)
  line (.jump name)

/-- A two-way conditional. The branch is taken to the arm for true, so the arm for false comes first
and jumps over it. Both arms leave the depth as they found it, and they meet at one label. -/
def conditional (comparison : Comparison) (operand : String) (value : Int)
    (onTrue onFalse : Writing Unit) : Writing Unit := do
  let chosen ← onLedger Ledger.freshLabel
  let join ← onLedger Ledger.freshLabel
  let before ← depth
  onLedger (Ledger.jump chosen)
  line (.branch comparison operand value chosen)
  onFalse
  expectDepth (Ledger.symbol chosen) before
  jump join
  label chosen
  onTrue
  expectDepth (Ledger.symbol join) before
  label join

/-- Goes on after a fault, which becomes the answer. -/
def attempt (writing : Writing Unit) : Writing (Option Fault) := fun draft =>
  match writing draft with
  | .ok _ after => .ok none after
  | .error fault after => .ok (some fault) after

end Writing

end EventScript
