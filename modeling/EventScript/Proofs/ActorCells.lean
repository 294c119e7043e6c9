import EventScript.Proofs.ActorOperands
import EventScript.Proofs.Balance
import EventScript.Proofs.Reaching

/-!
# The cells of the local actor

Every operand of the local actor that is written is aimed: it counts the words that the script has
pushed when its line is written, and it names a field that is reserved. Each writing adds aimed
lines only, so all lines of a draft that calls can come to are aimed, whatever faults the calls go
on from and however their arms are nested. An aimed operand leads to a reserved cell. Operands that
a caller has spelled out itself are the caller's own affair.
-/
namespace EventScript

open Assembly (Comparison Line Operand)
open Writing

/-- The operands of a line. -/
def Assembly.Line.operands : Line → List Operand
  | .instruction _ operands => operands
  | _ => []

/-- A line addresses the local actor from the depth at which it was written, and a field that is
reserved. -/
def Entry.Aimed (entry : Entry) : Prop :=
  ∀ operand ∈ entry.line.operands, operand.isActor = true →
    ∃ field < localActorSize, operand = .actor field entry.depth

/-- Every line of a draft is aimed. -/
def Draft.Aimed (draft : Draft) : Prop := ∀ entry ∈ draft.entries.toList, entry.Aimed

namespace Writing

variable {α β : Type}

/-- A writing that adds aimed lines only, whether it succeeds or fails. -/
def Aims (writing : Writing α) : Prop := ∀ draft, draft.Aimed → (writing.leaves draft).Aimed

/-- Writings in a row aim where each of them does. -/
theorem Aims.bind {first : Writing α} {second : α → Writing β} (start : Aims first)
    (next : ∀ value, Aims (second value)) : Aims (first >>= second) := fun draft aimed =>
  leaves_bind_keeps Draft.Aimed (start draft aimed) fun value middle => next value middle

/-- A writing that adds no line aims. -/
theorem aims_still {writing : Writing α}
    (still : ∀ draft, (writing.leaves draft).entries = draft.entries) : Aims writing := by
  intro draft aimed
  rw [Draft.Aimed, still draft]
  exact aimed

/-- What is answered without a draft aims. -/
theorem aims_answer (result : Except Fault α) : Aims (answer result) := by
  apply aims_still
  intro draft
  cases result <;> rfl

/-- Moving the ledger aims. -/
theorem aims_onLedger (operation : Ledger.Operation α) : Aims (onLedger operation) := by
  apply aims_still
  intro draft
  cases ran : operation draft.ledger <;> simp [leaves, ran]

/-- Demanding a depth aims. -/
theorem aims_expectDepth (site : String) (expected : Nat) : Aims (expectDepth site expected) := by
  apply aims_still
  intro draft
  by_cases met : draft.ledger.depth = expected <;> simp [leaves, met]

/-- A line that does not address the local actor aims. -/
theorem aims_line {line : Line} (noActor : line.addressesActor = false) :
    Aims (Writing.line line) := by
  intro draft aimed entry member
  rw [leaves, run_line, Draft.write_entries, List.mem_append, List.mem_singleton] at member
  rcases member with early | rfl
  · exact aimed entry early
  · intro operand listed actor
    cases line with
    | instruction mnemonic operands =>
      exact absurd actor (by simpa using List.any_eq_false.mp noActor operand listed)
    | _ => cases listed

/-- An instruction that does not address the local actor aims. -/
theorem aims_emit (mnemonic : String) {operands : List Operand}
    (noActor : operands.any Operand.isActor = false) : Aims (emit mnemonic operands) :=
  aims_line noActor

/-- An instruction that addresses a reserved field aims. -/
theorem aims_address {field : Nat} (reserved : field < localActorSize) (mnemonic : String)
    {operands : List Operand} (noActor : operands.any Operand.isActor = false) :
    Aims (address field mnemonic operands) := by
  intro draft aimed entry member
  have left : (address field mnemonic operands).leaves draft =
      { draft with usesLocalActor := true }.write
        (.instruction mnemonic (.actor field draft.ledger.depth :: operands)) := rfl
  rw [left, Draft.write_entries, List.mem_append, List.mem_singleton] at member
  rcases member with early | rfl
  · exact aimed entry early
  · intro operand listed actor
    rcases List.mem_cons.mp listed with rfl | other
    · exact ⟨field, reserved, rfl⟩
    · exact absurd actor (by simpa using List.any_eq_false.mp noActor operand other)

/-- Putting a label aims. -/
theorem aims_label (name : String) : Aims (label name) :=
  (aims_onLedger _).bind fun _ => aims_line rfl

/-- Jumping to a label aims. -/
theorem aims_jump (name : String) : Aims (jump name) :=
  (aims_onLedger _).bind fun _ => aims_line rfl

/-- What the steps of commands and conditionals write is aimed. -/
theorem aims_composes : Composes @Aims where
  bind := Aims.bind
  depth := aims_still fun _ => rfl
  expectDepth := aims_expectDepth
  comment := fun _ => aims_line rfl
  blank := aims_line rfl
  symbol := fun _ _ => aims_answer _
  freshLabel := aims_onLedger _
  branch := fun _ _ _ _ => (aims_onLedger _).bind fun _ => aims_line rfl
  jump := aims_jump
  label := aims_label

/-- Going on after a fault aims where the writing does that has it. -/
theorem Aims.attempt {writing : Writing Unit} (aims : Aims writing) :
    Aims (Writing.attempt writing) := by
  intro draft aimed
  rw [leaves_attempt]
  exact aims draft aimed

end Writing

/-- Every action aims. -/
theorem Action.aims (setting : Setting) (action : Action) : Aims (action.write setting) := by
  have reserved : ∀ {field : Nat}, field < 4 → field < localActorSize := id
  cases action with
  | setActive actor =>
    apply aims_composes.command
    apply (aims_answer _).bind
    intro slot
    exact aims_address (reserved (by decide)) "VM_SET_CONST" rfl
  | moveTo x y collide kind =>
    rw [Action.write, moveTo_eq]
    refine (aims_answer _).bind fun right => (aims_answer _).bind fun down => ?_
    apply aims_composes.command
    refine (aims_address (reserved (by decide)) _ rfl).bind fun _ => ?_
    refine (aims_address (reserved (by decide)) _ rfl).bind fun _ => ?_
    refine (aims_address (reserved (by decide)) _ rfl).bind fun _ => ?_
    exact aims_address (reserved (by decide)) _ rfl
  | wait frames =>
    apply aims_composes.command
    refine (aims_emit _ rfl).bind fun _ => (aims_onLedger _).bind fun _ => ?_
    exact (aims_emit _ rfl).bind fun _ => aims_onLedger _
  | say text =>
    apply aims_composes.command
    refine (aims_emit _ rfl).bind fun _ => (aims_line rfl).bind fun _ => ?_
    refine (aims_emit _ rfl).bind fun _ => (aims_emit _ rfl).bind fun _ => ?_
    refine (aims_emit _ rfl).bind fun _ => (aims_emit _ rfl).bind fun _ => ?_
    exact (aims_emit _ rfl).bind fun _ => aims_emit _ rfl
  | debug text => exact (aims_emit _ rfl).bind fun _ => aims_line rfl
  | label name => exact (aims_answer _).bind fun _ => aims_label name
  | goto name => exact (aims_answer _).bind fun _ => aims_jump name
  | stop => exact (aims_line rfl).bind fun _ => aims_line rfl

/-- Whatever a workshop lowers events to aims. -/
def Workshop.Aiming (workshop : Workshop) : Prop :=
  ∀ lowering, workshop.lowering = some lowering → ∀ events, Aims (lowering events)

/-- The workshop of a setting aims. -/
theorem Setting.workshop_aiming (setting : Setting) (options : Options) :
    (setting.workshop options).Aiming := by
  rintro lowering ⟨⟩ events
  exact aims_composes.lowerEvents setting (aims_still fun _ => rfl) (Action.aims setting)
    (fun _ => aims_still fun _ => rfl) events

/-- Where a workshop aims, its lists of events do. -/
theorem Workshop.Aiming.lower {workshop : Workshop} (aiming : workshop.Aiming)
    (events : List Event) : Aims (workshop.lower events) := by
  obtain nothing | refused | ⟨lowering, given, lowered⟩ := workshop.lower_cases events
  · exact nothing ▸ aims_still fun _ => rfl
  · exact refused ▸ aims_still fun _ => rfl
  · exact lowered ▸ aiming lowering given events

/-- Dropping the value of a writing changes nothing about its aim. -/
theorem aims_silently {writing : Writing Unit} (aims : Aims writing) : Aims (silently writing) :=
  aims.bind fun _ => aims_still fun _ => rfl

mutual

/-- Every step aims in a workshop that does. What a caller spells out itself is text and no operand
of the local actor. -/
theorem Step.aims {workshop : Workshop} (aiming : workshop.Aiming) (step : Step) :
    Aims (step.run workshop) := by
  cases step with
  | act action => exact aims_silently (action.aims _)
  | choose condition onTrue onFalse =>
    exact aims_silently
      (aims_composes.condition _ condition (onTrue.aims aiming) (onFalse.aims aiming))
  | events events => exact aims_silently (aiming.lower events)
  | push words => exact aims_silently (aims_onLedger _)
  | pop words => exact aims_silently (aims_onLedger _)
  | freshLabel => exact (aims_onLedger _).bind fun _ => aims_still fun _ => rfl
  | emit mnemonic operands =>
    refine aims_silently (aims_emit _ ?_)
    simp [Operand.isActor]
  | comment text => exact aims_silently (aims_line rfl)
  | raw text => exact aims_silently (aims_line rfl)
  | blank => exact aims_silently (aims_line rfl)
  | literal text => exact aims_silently (aims_line rfl)
  | attempt steps =>
    refine Aims.bind (.attempt (aims_runSteps aiming steps)) fun result => ?_
    cases result <;> exact aims_still fun _ => rfl
  | slot reference => exact (aims_answer _).bind fun _ => aims_still fun _ => rfl
  | symbol variableName => exact (aims_answer _).bind fun _ => aims_still fun _ => rfl
  | self => exact (aims_answer _).bind fun _ => aims_still fun _ => rfl
  | assemble name exported =>
    refine (aims_still fun _ => rfl).bind fun draft => ?_
    exact (aims_answer _).bind fun _ => aims_still fun _ => rfl

/-- Every arm aims in a workshop that does. -/
theorem Arm.aims {workshop : Workshop} (aiming : workshop.Aiming) (arm : Arm) :
    Aims (arm.run workshop) := by
  cases arm with
  | empty => exact aims_still fun _ => rfl
  | events events => exact aiming.lower events
  | block steps => exact aims_runSteps aiming steps

/-- Every procedure aims in a workshop that does. -/
theorem aims_runSteps {workshop : Workshop} (aiming : workshop.Aiming) (steps : List Step) :
    Aims (runSteps workshop steps) := by
  cases steps with
  | nil => exact aims_still fun _ => rfl
  | cons step rest => exact (step.aims aiming).bind fun _ => aims_runSteps aiming rest

end

/-- Where a workshop aims, calls keep a draft aimed, those that fail and those within arms included.
-/
theorem Workshop.Reaches.aimed {workshop : Workshop} {start draft : Draft}
    (reached : workshop.Reaches start draft) (aiming : workshop.Aiming) (aimed : start.Aimed) :
    draft.Aimed := by
  have refused : ∀ fault, Aims (throw fault : Writing Unit) := fun _ => aims_still fun _ => rfl
  induction reached with
  | start => exact aimed
  | call step _ inductionHypothesis => exact step.aims aiming _ inductionHypothesis
  | onFalse condition onTrue _ entered inductionHypothesis =>
    rw [← leaves_of_error (entered .noEventCompiler)]
    exact aims_composes.condition _ condition (onTrue.aims aiming) (refused _) _
      inductionHypothesis
  | onTrue condition onFalse _ entered inductionHypothesis =>
    rw [← leaves_of_error (entered .noEventCompiler)]
    exact aims_composes.condition _ condition (refused _) (onFalse.aims aiming) _
      inductionHypothesis

/-- A workshop whose compiler of events is made of calls aims. -/
theorem Workshop.MadeOfCalls.aiming {workshop : Workshop} (made : workshop.MadeOfCalls) :
    workshop.Aiming := fun lowering given events draft =>
  (made lowering given events draft).aimed (Setting.workshop_aiming _ _)

/-- In a draft that calls have come to, every operand of the local actor leads to a reserved cell.
On such a draft, setting the actor stores its slot in the first cell, and moving it stores the place
of the tile and the flags in the next three and moves the actor at the first cell, in this order.
All cells are counted at the height of the reserved words and of the depth at the time. -/
theorem actor_cells_fixed (workshop : Workshop) (made : workshop.MadeOfCalls) (draft : Draft)
    (reached : workshop.Reaches {} draft) :
    (∀ entry ∈ draft.entries.toList, ∀ operand ∈ entry.line.operands, operand.isActor = true →
      ∃ place, placeOf? operand.render = some place ∧
        0 ≤ (localActorSize + entry.depth : Nat) + place ∧
        (localActorSize + entry.depth : Nat) + place < localActorSize) ∧
    (∀ actor after,
      (Action.setActive actor).write workshop.setting draft = .ok () after →
      ∃ slot lines, workshop.setting.slot actor = .ok slot ∧ after.lines = draft.lines ++ lines ∧
        lines.filterMap (access? (localActorSize + draft.ledger.depth)) =
          [.store 0 (toString slot)]) ∧
    ∀ x y collide kind after,
      (Action.moveTo x y collide kind).write workshop.setting draft = .ok () after →
      ∃ lines, after.lines = draft.lines ++ lines ∧
        lines.filterMap (access? (localActorSize + draft.ledger.depth)) =
          [.store 1 (toString (128 * x)), .store 2 (toString (128 * y)),
            .store 3 (moveFlags collide kind), .move 0] := by
  have aimed : draft.Aimed := reached.aimed made.aiming (by simp [Draft.Aimed])
  refine ⟨?_, ?_, ?_⟩
  · intro entry member operand listed actor
    obtain ⟨field, reserved, rfl⟩ := aimed entry member operand listed actor
    refine ⟨_, placeOf?_actor field entry.depth, ?_⟩
    rw [height_add_place]
    omega
  · intro actor after succeeded
    cases found : workshop.setting.slot actor with
    | error fault => simp [Action.write, Writing.setActive, command, found] at succeeded
    | ok slot =>
      obtain ⟨written, ran, added⟩ := run_setActive found draft
      obtain rfl : written = after := by simpa [ran] using succeeded
      exact ⟨slot, _, rfl, lines_eq_append added, accesses_setLines draft.ledger.depth slot⟩
  · intro x y collide kind after succeeded
    cases right : tilePlace "x" x with
    | error fault => simp [Action.write, Writing.moveTo, right] at succeeded
    | ok across =>
      cases down : tilePlace "y" y with
      | error fault => simp [Action.write, Writing.moveTo, right, down] at succeeded
      | ok along =>
        obtain ⟨written, ran, added⟩ := run_moveTo right down workshop.setting collide kind draft
        obtain rfl : written = after := by simpa [ran] using succeeded
        obtain rfl := eq_of_tilePlace right
        obtain rfl := eq_of_tilePlace down
        exact ⟨_, lines_eq_append added,
          accesses_moveLines draft.ledger.depth (128 * x) (128 * y) collide kind⟩

/-- A caller pushes two words and sets the player. -/
def pushedSteps : List Step := [.push 2, .act (.setActive "player")]

/-- In an arm for false that is opened behind these steps, a move is written two words above the
reserved ones and accesses the reserved ones. -/
theorem pushed_actor_cells :
    ∃ inside after lines, (({} : Setting).workshop {}).MadeOfCalls ∧
      (({} : Setting).workshop {}).Reaches {} inside ∧ inside.ledger.depth = 2 ∧
      inside.entries[1]? =
        some { line := .instruction "VM_SET_CONST" [.actor 0 2, .number 0], depth := 2 } ∧
      (Action.moveTo 3 (-1) true .diagonal).write {} inside = .ok () after ∧
      after.lines = inside.lines ++ lines ∧
      lines.filterMap (access? 6) =
        [.store 1 "384", .store 2 "-128",
          .store 3 "^/(.ACTOR_ATTR_CHECK_COLL | .ACTOR_ATTR_DIAGONAL)/", .move 0] := by
  have made := ({} : Setting).workshop_madeOfCalls {}
  obtain ⟨inside, entered, level, set⟩ : ∃ inside, (∀ fault,
      (Condition.operand "VAR_VARIABLE_0" .equal 3).write {}
        (Arm.empty.run (({} : Setting).workshop {})) (throw fault)
        (((Step.attempt pushedSteps).run (({} : Setting).workshop {})).leaves {}) =
          .error fault inside) ∧
      inside.ledger.depth = 2 ∧ inside.entries[1]? =
        some { line := .instruction "VM_SET_CONST" [.actor 0 2, .number 0], depth := 2 } :=
    ⟨_, fun fault => by cbv, by rfl, by rfl⟩
  have reached : (({} : Setting).workshop {}).Reaches {} inside :=
    .onFalse (.operand "VAR_VARIABLE_0" .equal 3) .empty (.call (.attempt pushedSteps) .start)
      entered
  obtain ⟨after, moved, _⟩ := run_moveTo (x := 3) (y := -1) (by rfl) (by rfl) {} true .diagonal
    inside
  obtain ⟨_, _, moves⟩ := actor_cells_fixed _ made inside reached
  obtain ⟨lines, added, accessed⟩ := moves 3 (-1) true .diagonal after moved
  rw [level] at accessed
  exact ⟨inside, after, lines, made, reached, level, set, moved, added, accessed⟩

end EventScript
