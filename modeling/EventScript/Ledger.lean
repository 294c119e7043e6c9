import EventScript.Fault

/-!
# The stack and label ledger

While a script is written, the ledger keeps the depth of the operand stack and the depth that each
label commits to. A label that stands in the script commits to the depth at its definition; one that
has only been jumped to commits to the depth at the jump, so that a later definition at another
depth is refused. The depth is kept in a machine word, which a push may overflow. A fault ends an
operation and not the ledger: what the operation had already entered stays.
-/
namespace EventScript

/-- The bookkeeping of one script. Both lists of labels are in order of entry. -/
structure Ledger where
  depth : Nat := 0
  /-- The number that the next generated label takes. -/
  nextLabel : Nat := 1
  /-- The labels that stand in the script, each with the depth at its definition. -/
  defined : List (String × Nat) := []
  /-- The labels that are jumped to and not yet defined, each with the depth its jumps share. -/
  pending : List (String × Nat) := []
deriving DecidableEq, Repr

namespace Ledger

/-- An operation on the ledger, which a fault does not undo. -/
abbrev Operation := EStateM Fault Ledger

/-- How many depths there are: the depth is a word of 64 bits. -/
def depths : Nat := UInt64.size

/-- The symbol by which the assembler knows a label. -/
def symbol (name : String) : String := name ++ "$"

/-- Words go onto the stack. Nothing checks that there is room for them: beyond the greatest depth
the count starts again at zero. -/
def push (words : Nat) : Operation Unit :=
  modify fun ledger => { ledger with depth := (ledger.depth + words) % depths }

/-- Words leave the stack, which has to hold them. -/
def pop (words : Nat) : Operation Unit := do
  let depth := (← get).depth
  if depth < words then throw (.stackUnderflow words depth)
  modify fun ledger => { ledger with depth := depth - words }

/-- A generated label is named by the next number. Names of that kind are closed to scripts. -/
def freshLabel : Operation String := do
  let number := (← get).nextLabel
  modify fun ledger => { ledger with nextLabel := number + 1 }
  return toString number

/-- A label is defined once, and at the depth that earlier jumps to it committed to. A refused
definition still withdraws that commitment. -/
def define (name : String) : Operation Unit := do
  let ledger ← get
  if (ledger.defined.lookup name).isSome then throw (.duplicateLabel name)
  let committed := ledger.pending.lookup name
  set { ledger with pending := ledger.pending.filter (·.1 != name) }
  if let some expected := committed then
    if expected ≠ ledger.depth then throw (.stackImbalance name expected ledger.depth)
  modify fun ledger => { ledger with defined := ledger.defined ++ [(name, ledger.depth)] }

/-- The depth that a label commits to, where it does. A definition goes before a jump. -/
def commitment (ledger : Ledger) (name : String) : Option Nat :=
  (ledger.defined.lookup name).orElse fun _ => ledger.pending.lookup name

/-- A jump happens at the depth that its label commits to. The first jump to a label that is not
yet defined makes the commitment. -/
def jump (name : String) : Operation Unit := do
  let ledger ← get
  match ledger.commitment name with
  | some expected =>
    if expected ≠ ledger.depth then throw (.stackImbalance name expected ledger.depth)
  | none => set { ledger with pending := ledger.pending ++ [(name, ledger.depth)] }

/-- The labels that are jumped to and never defined, the earliest jump first. -/
def unresolved (ledger : Ledger) : List String := ledger.pending.map (·.1)

end Ledger

end EventScript
