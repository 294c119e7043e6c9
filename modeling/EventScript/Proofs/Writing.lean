import EventScript.Proofs.Ledger

/-!
# How writings run

The small steps of writing, each as what it makes of a draft. Larger writings are opened down to
these and no further.
-/
namespace EventScript

open Assembly (Comparison Line)

namespace Draft

/-- The draft with one more line, written at its present depth. -/
def write (draft : Draft) (line : Line) : Draft :=
  { draft with entries := draft.entries.push { line := line, depth := draft.ledger.depth } }

/-- The draft with its ledger moved. -/
def withLedger (draft : Draft) (ledger : Ledger) : Draft := { draft with ledger := ledger }

/-- A ledger that has not moved changes no draft. -/
@[simp]
theorem withLedger_self (draft : Draft) : draft.withLedger draft.ledger = draft := rfl

/-- Of two moves of the ledger the later one counts. -/
@[simp]
theorem withLedger_withLedger (draft : Draft) (first second : Ledger) :
    (draft.withLedger first).withLedger second = draft.withLedger second := rfl

/-- A line moves no ledger. -/
@[simp]
theorem write_ledger (draft : Draft) (line : Line) : (draft.write line).ledger = draft.ledger := rfl

/-- The ledger of a draft that is given one. -/
@[simp]
theorem withLedger_ledger (draft : Draft) (ledger : Ledger) :
    (draft.withLedger ledger).ledger = ledger := rfl

/-- A move of the ledger leaves the entries. -/
@[simp]
theorem withLedger_entries (draft : Draft) (ledger : Ledger) :
    (draft.withLedger ledger).entries = draft.entries := rfl

/-- A line addresses no actor by itself. -/
@[simp]
theorem write_usesLocalActor (draft : Draft) (line : Line) :
    (draft.write line).usesLocalActor = draft.usesLocalActor := rfl

/-- A move of the ledger addresses no actor. -/
@[simp]
theorem withLedger_usesLocalActor (draft : Draft) (ledger : Ledger) :
    (draft.withLedger ledger).usesLocalActor = draft.usesLocalActor := rfl

/-- A line is entered last, with the depth at which it is written. -/
@[simp]
theorem write_entries (draft : Draft) (line : Line) :
    (draft.write line).entries.toList =
      draft.entries.toList ++ [{ line := line, depth := draft.ledger.depth }] := by
  simp [write]

end Draft

namespace Writing

variable {α : Type}

/-- The draft that a writing leaves behind, whether it succeeds or fails. -/
def leaves (writing : Writing α) (draft : Draft) : Draft :=
  match writing draft with
  | .ok _ after => after
  | .error _ after => after

/-- What a writing leaves where it succeeds. -/
theorem leaves_of_ok {writing : Writing α} {draft after : Draft} {value : α}
    (ran : writing draft = .ok value after) : writing.leaves draft = after := by
  simp [leaves, ran]

/-- What a writing leaves where it fails. -/
theorem leaves_of_error {writing : Writing α} {draft after : Draft} {fault : Fault}
    (failed : writing draft = .error fault after) : writing.leaves draft = after := by
  simp [leaves, failed]

/-- Two writings in a row leave what the second one leaves, where the first succeeds. -/
theorem leaves_bind_of_ok {β : Type} {first : Writing α} {draft after : Draft} {value : α}
    (ran : first draft = .ok value after) (second : α → Writing β) :
    (first >>= second).leaves draft = (second value).leaves after := by
  simp [leaves, ran]

/-- Two writings in a row leave what the first one leaves, where that fails. -/
theorem leaves_bind_of_error {β : Type} {first : Writing α} {draft after : Draft} {fault : Fault}
    (failed : first draft = .error fault after) (second : α → Writing β) :
    (first >>= second).leaves draft = after := by
  simp [leaves, failed]

/-- Writing a line always succeeds. -/
@[simp]
theorem run_line (line : Line) (draft : Draft) :
    Writing.line line draft = .ok () (draft.write line) := rfl

/-- An instruction is a line. -/
@[simp]
theorem run_emit (mnemonic : String) (operands : List Assembly.Operand) (draft : Draft) :
    emit mnemonic operands draft = .ok () (draft.write (.instruction mnemonic operands)) := rfl

/-- Reading the depth changes nothing. -/
@[simp]
theorem run_depth (draft : Draft) : depth draft = .ok draft.ledger.depth draft := rfl

/-- An operation on the ledger moves the ledger of the draft alone, also where it fails. -/
@[simp]
theorem run_onLedger (operation : Ledger.Operation α) (draft : Draft) :
    onLedger operation draft =
      match operation draft.ledger with
      | .ok value ledger => .ok value (draft.withLedger ledger)
      | .error fault ledger => .error fault (draft.withLedger ledger) := rfl

/-- What can be answered without a draft is answered without touching it. -/
@[simp]
theorem run_answer (result : Except Fault α) (draft : Draft) :
    answer result draft =
      match result with
      | .ok value => .ok value draft
      | .error fault => .error fault draft := by
  cases result <;> rfl

/-- An answer does not touch the draft. -/
theorem answer_eq_ok {result : Except Fault α} {draft after : Draft} {value : α}
    (answered : answer result draft = .ok value after) : after = draft := by
  cases result <;> cases answered
  rfl

/-- A demanded depth is met or reported. -/
@[simp]
theorem run_expectDepth (site : String) (expected : Nat) (draft : Draft) :
    expectDepth site expected draft =
      if draft.ledger.depth = expected then .ok () draft
      else .error (.stackImbalance site expected draft.ledger.depth) draft := by
  by_cases met : draft.ledger.depth = expected <;> simp [expectDepth, met]

/-- A demanded depth that is met is the depth of the draft, which stays as it is. -/
theorem expectDepth_eq_ok_iff {site : String} {expected : Nat} {draft after : Draft} :
    expectDepth site expected draft = .ok () after ↔
      draft.ledger.depth = expected ∧ draft = after := by
  rw [run_expectDepth]
  by_cases met : draft.ledger.depth = expected <;> simp [met]

/-- A field of the local actor is addressed from the present depth, and the draft remembers it. -/
@[simp]
theorem run_actorField (field : Nat) (draft : Draft) :
    actorField field draft =
      .ok (.actor field draft.ledger.depth) { draft with usesLocalActor := true } := rfl

/-- An instruction whose first operand is a field of the local actor. -/
def address (field : Nat) (mnemonic : String) (operands : List Assembly.Operand) :
    Writing Unit := do
  emit mnemonic ((← actorField field) :: operands)

/-- A move writes the fields of the local actor one instruction at a time. -/
theorem moveTo_eq (x y : Int) (collide : Bool) (kind : MoveKind) :
    moveTo x y collide kind = (do
      let right ← answer (tilePlace "x" x)
      let down ← answer (tilePlace "y" y)
      command "Actor Move To" (do
        address 1 "VM_SET_CONST" [.number right]
        address 2 "VM_SET_CONST" [.number down]
        address 3 "VM_SET_CONST"
          [.text (Assembly.flags
            ((if collide then [".ACTOR_ATTR_CHECK_COLL"] else []) ++ kind.flag))]
        address 0 "VM_ACTOR_MOVE_TO" [])) := by
  simp only [moveTo, address, bind_assoc]

/-- The test of a conditional, which jumps when it holds. -/
def branch (comparison : Comparison) (operand : String) (value : Int) (target : String) :
    Writing Unit := do
  onLedger (Ledger.jump target)
  line (.branch comparison operand value target)

/-- A conditional after its two labels are taken and its depth is read. -/
def arms (comparison : Comparison) (operand : String) (value : Int) (chosen join : String)
    (before : Nat) (onTrue onFalse : Writing Unit) : Writing Unit := do
  branch comparison operand value chosen
  onFalse
  expectDepth (Ledger.symbol chosen) before
  jump join
  label chosen
  onTrue
  expectDepth (Ledger.symbol join) before
  label join

/-- A conditional takes its labels and reads its depth before anything else. -/
theorem conditional_eq (comparison : Comparison) (operand : String) (value : Int)
    (onTrue onFalse : Writing Unit) :
    conditional comparison operand value onTrue onFalse = (do
      let chosen ← onLedger Ledger.freshLabel
      let join ← onLedger Ledger.freshLabel
      let before ← depth
      arms comparison operand value chosen join before onTrue onFalse) := by
  simp only [arms, branch, bind_assoc]
  rfl

/-- A reserved name is refused as the label of a script. -/
theorem checkLabel_of_reserved {name : String} (reserved : isReserved name = true) :
    checkLabel name = .error (.invalidArgument "label" (.reservedLabel name)) := by
  rw [checkLabel, if_pos reserved]

/-- A name that is not reserved may be the label of a script. -/
theorem checkLabel_of_allowed {name : String} (allowed : isReserved name = false) :
    checkLabel name = .ok () := by
  rw [checkLabel, allowed]
  rfl

/-- A label of the script is put as any other, once its name is checked. -/
theorem labelHere_of_allowed {name : String} (allowed : isReserved name = false) :
    labelHere name = label name := by
  rw [labelHere, checkLabel_of_allowed allowed]
  rfl

/-- A label of the script is jumped to as any other, once its name is checked. -/
theorem goto_of_allowed {name : String} (allowed : isReserved name = false) :
    Writing.goto name = jump name := by
  rw [Writing.goto, checkLabel_of_allowed allowed]
  rfl

/-- A label is put without moving the stack. -/
theorem label_depth {name : String} {before after : Draft}
    (succeeded : label name before = .ok () after) :
    after.ledger.depth = before.ledger.depth := by
  obtain ⟨_, _, refused⟩ | ⟨_, _, _, _, refused⟩ | ⟨_, _, entered⟩ :=
    Ledger.define_cases before.ledger name
  · simp [label, refused] at succeeded
  · simp [label, refused] at succeeded
  · obtain rfl : _ = after := by simpa [label, entered] using succeeded
    rfl

/-- A command that succeeds ends at the depth that it began with. -/
theorem command_depth {title : String} {body : Writing Unit} {before after : Draft}
    (succeeded : command title body before = .ok () after) :
    after.ledger.depth = before.ledger.depth := by
  obtain ⟨_, _, read, succeeded⟩ := run_bind_eq_ok_iff.mp succeeded
  obtain ⟨rfl, rfl⟩ : before.ledger.depth = _ ∧ before = _ := by simpa using read
  obtain ⟨_, _, _, succeeded⟩ := run_bind_eq_ok_iff.mp succeeded
  obtain ⟨_, _, _, succeeded⟩ := run_bind_eq_ok_iff.mp succeeded
  obtain ⟨_, _, demanded, succeeded⟩ := run_bind_eq_ok_iff.mp succeeded
  obtain ⟨met, rfl⟩ := expectDepth_eq_ok_iff.mp demanded
  obtain rfl : _ = after := by simpa using succeeded
  exact met

/-- The labels of a conditional are those of the next two numbers. -/
theorem run_conditional (comparison : Comparison) (operand : String) (value : Int)
    (onTrue onFalse : Writing Unit) (draft : Draft) :
    conditional comparison operand value onTrue onFalse draft =
      arms comparison operand value (toString draft.ledger.nextLabel)
        (toString (draft.ledger.nextLabel + 1)) draft.ledger.depth onTrue onFalse
        (draft.withLedger draft.ledger.take.take) := by
  rw [conditional_eq]
  rfl

/-- A conditional that succeeds ends at the depth that it began with. -/
theorem conditional_depth {comparison : Comparison} {operand : String} {value : Int}
    {onTrue onFalse : Writing Unit} {before after : Draft}
    (succeeded : conditional comparison operand value onTrue onFalse before = .ok () after) :
    after.ledger.depth = before.ledger.depth := by
  rw [run_conditional, arms] at succeeded
  obtain ⟨_, _, _, succeeded⟩ := run_bind_eq_ok_iff.mp succeeded
  obtain ⟨_, _, _, succeeded⟩ := run_bind_eq_ok_iff.mp succeeded
  obtain ⟨_, _, _, succeeded⟩ := run_bind_eq_ok_iff.mp succeeded
  obtain ⟨_, _, _, succeeded⟩ := run_bind_eq_ok_iff.mp succeeded
  obtain ⟨_, _, _, succeeded⟩ := run_bind_eq_ok_iff.mp succeeded
  obtain ⟨_, _, _, succeeded⟩ := run_bind_eq_ok_iff.mp succeeded
  obtain ⟨_, _, demanded, succeeded⟩ := run_bind_eq_ok_iff.mp succeeded
  obtain ⟨met, rfl⟩ := expectDepth_eq_ok_iff.mp demanded
  exact (label_depth succeeded).trans met

end Writing

end EventScript
