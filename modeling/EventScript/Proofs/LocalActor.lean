import EventScript.Proofs.Judgement
import EventScript.Proofs.Writing

/-!
# The local actor is reserved where events address it

A draft remembers whether a line addresses the local actor, and only the two places of the preamble
that reserve the actor depend on it. After events that are lowered to their end the draft remembers
just what their commands tell: whether one that is lowered sets or moves an actor. The rest of a
script has nothing to do with how the actor is reserved, and neither has its success.
-/
namespace EventScript

open Assembly (Comparison Line Operand)

namespace Writing

variable {α β : Type}

/-- Where a writing succeeds, it has marked the draft for the local actor or left the mark as it
was. -/
def Marks (writing : Writing α) (mark : Bool) : Prop :=
  ∀ draft value after, writing draft = .ok value after →
    after.usesLocalActor = (draft.usesLocalActor || mark)

/-- Writings in a row mark a draft where one of them does. -/
theorem Marks.bind {first : Writing α} {second : α → Writing β} {mark more : Bool}
    (start : Marks first mark) (next : ∀ value, Marks (second value) more) :
    Marks (first >>= second) (mark || more) := by
  intro draft result after succeeded
  obtain ⟨value, middle, ran, later⟩ := run_bind_eq_ok_iff.mp succeeded
  rw [next value middle result after later, start draft value middle ran, Bool.or_assoc]

/-- After a writing that leaves the mark as it was it is the next one that counts. -/
theorem Marks.next {first : Writing α} {second : α → Writing β} {more : Bool}
    (start : Marks first false) (next : ∀ value, Marks (second value) more) :
    Marks (first >>= second) more := start.bind next

/-- Before writings that leave the mark as it was it is the first one that counts. -/
theorem Marks.ahead {first : Writing α} {second : α → Writing β} {mark : Bool}
    (start : Marks first mark) (next : ∀ value, Marks (second value) false) :
    Marks (first >>= second) mark := by
  have both := start.bind next
  rwa [Bool.or_false] at both

/-- A mark is not lost by marking again. -/
theorem Marks.again {first : Writing α} {second : α → Writing β} (start : Marks first true)
    (next : ∀ value, Marks (second value) true) : Marks (first >>= second) true := start.bind next

/-- Giving a value leaves the mark as it was. -/
theorem marks_pure (value : α) : Marks (pure value : Writing α) false := by
  rintro draft value after ⟨⟩
  exact (Bool.or_false _).symm

/-- What is answered without a draft leaves the mark as it was. -/
theorem marks_answer (result : Except Fault α) : Marks (answer result) false := by
  intro draft value after succeeded
  rw [answer_eq_ok succeeded, Bool.or_false]

/-- Reading the depth leaves the mark as it was. -/
theorem marks_depth : Marks depth false := by
  rintro draft value after ⟨⟩
  exact (Bool.or_false _).symm

/-- Demanding a depth leaves the mark as it was. -/
theorem marks_expectDepth (site : String) (expected : Nat) :
    Marks (expectDepth site expected) false := by
  intro draft value after succeeded
  obtain ⟨_, rfl⟩ := expectDepth_eq_ok_iff.mp succeeded
  exact (Bool.or_false _).symm

/-- A line leaves the mark as it was. -/
theorem marks_line (line : Line) : Marks (Writing.line line) false := by
  rintro draft value after ⟨⟩
  exact (Bool.or_false _).symm

/-- An instruction leaves the mark as it was. -/
theorem marks_emit (mnemonic : String) (operands : List Operand) :
    Marks (emit mnemonic operands) false := marks_line _

/-- An instruction that addresses the local actor marks the draft. -/
theorem marks_address (field : Nat) (mnemonic : String) (operands : List Operand) :
    Marks (address field mnemonic operands) true := by
  rintro draft value after ⟨⟩
  exact (Bool.or_true _).symm

/-- The ledger is moved without the mark. -/
theorem marks_onLedger (operation : Ledger.Operation α) : Marks (onLedger operation) false := by
  intro draft value after succeeded
  rw [run_onLedger] at succeeded
  cases ran : operation draft.ledger with
  | error fault ledger => simp [ran] at succeeded
  | ok result ledger =>
    obtain ⟨_, rfl⟩ : result = value ∧ draft.withLedger ledger = after := by
      simpa [ran] using succeeded
    exact (Bool.or_false _).symm

/-- Putting a label leaves the mark as it was. -/
theorem marks_label (name : String) : Marks (label name) false :=
  (marks_onLedger _).next fun _ => marks_line _

/-- Jumping to a label leaves the mark as it was. -/
theorem marks_jump (name : String) : Marks (jump name) false :=
  (marks_onLedger _).next fun _ => marks_line _

/-- A command marks a draft where its body does. -/
theorem Marks.command (title : String) {body : Writing Unit} {mark : Bool}
    (inside : Marks body mark) : Marks (Writing.command title body) mark := by
  refine marks_depth.next fun before => (marks_line _).next fun _ => inside.ahead fun _ => ?_
  exact (marks_expectDepth title before).next fun _ => marks_line _

/-- A conditional marks a draft where one of its arms does. -/
theorem Marks.conditional (comparison : Comparison) (operand : String) (value : Int)
    {onTrue onFalse : Writing Unit} {mark more : Bool} (whenTrue : Marks onTrue more)
    (whenFalse : Marks onFalse mark) :
    Marks (Writing.conditional comparison operand value onTrue onFalse) (mark || more) := by
  refine (marks_onLedger _).next fun chosen => (marks_onLedger _).next fun join => ?_
  refine marks_depth.next fun before => (marks_onLedger _).next fun _ => ?_
  refine (marks_line _).next fun _ => whenFalse.bind fun _ => ?_
  refine (marks_expectDepth _ before).next fun _ => (marks_jump join).next fun _ => ?_
  refine (marks_label chosen).next fun _ => whenTrue.ahead fun _ => ?_
  exact (marks_expectDepth _ before).next fun _ => marks_label join

end Writing

open Writing

/-- Whether an action has to do with an actor. -/
def Action.addressesActor : Action → Bool
  | setActive _ => true
  | moveTo _ _ _ _ => true
  | _ => false

/-- Whether an event has to do with an actor, which its command alone decides. -/
def Event.addressesActor (event : Event) : Bool :=
  event.command == "EVENT_ACTOR_SET_ACTIVE" || event.command == "EVENT_ACTOR_MOVE_TO"

/-- An event has to do with an actor where the action does that it is read as. -/
theorem Event.addressesActor_of_act {event : Event} {action : Action}
    (read : event.read = .ok (.act action)) : event.addressesActor = action.addressesActor := by
  rw [addressesActor, command_of_act read]
  cases action <;> rfl

/-- A conditional has nothing to do with an actor. -/
theorem Event.addressesActor_of_choose {event : Event} {condition : Condition}
    (read : event.read = .ok (.choose condition)) : event.addressesActor = false := by
  have conditional := isConditional_of_choose read
  rw [isConditional, Bool.or_eq_true, beq_iff_eq, beq_iff_eq] at conditional
  rcases conditional with named | named
  · rw [addressesActor, named]
    rfl
  · rw [addressesActor, named]
    rfl

/-- An action marks a draft where it has to do with an actor. -/
theorem Action.marks (setting : Setting) (action : Action) :
    Marks (action.write setting) action.addressesActor := by
  cases action with
  | setActive actor =>
    exact .command _ ((marks_answer _).next fun slot => marks_address 0 _ [.number slot])
  | moveTo x y collide kind =>
    rw [Action.write, moveTo_eq]
    refine (marks_answer _).next fun right => (marks_answer _).next fun down => .command _ ?_
    refine (marks_address 1 _ [.number right]).again fun _ => ?_
    refine (marks_address 2 _ [.number down]).again fun _ => ?_
    exact (marks_address 3 _ [_]).again fun _ => marks_address 0 _ []
  | wait frames =>
    refine .command _ ((marks_emit _ _).next fun _ => (marks_onLedger _).next fun _ => ?_)
    exact (marks_emit _ _).next fun _ => marks_onLedger _
  | say text =>
    refine .command _ ((marks_emit _ _).next fun _ => (marks_line _).next fun _ => ?_)
    refine (marks_emit _ _).next fun _ => (marks_emit _ _).next fun _ => ?_
    refine (marks_emit _ _).next fun _ => (marks_emit _ _).next fun _ => ?_
    exact (marks_emit _ _).next fun _ => marks_emit _ _
  | debug text => exact (marks_emit _ _).next fun _ => marks_line _
  | label name => exact (marks_answer _).next fun _ => marks_label name
  | goto name => exact (marks_answer _).next fun _ => marks_jump name
  | stop => exact (marks_line _).next fun _ => marks_line _

/-- A conditional of any kind marks a draft where one of its arms does. -/
theorem Condition.marks (setting : Setting) (condition : Condition)
    {onTrue onFalse : Writing Unit} {mark more : Bool} (whenTrue : Marks onTrue more)
    (whenFalse : Marks onFalse mark) :
    Marks (condition.write setting onTrue onFalse) (mark || more) := by
  cases condition with
  | isTrue variableName =>
    exact .command _ ((marks_answer _).next fun _ => .conditional _ _ _ whenTrue whenFalse)
  | compare variableName comparison value =>
    exact .command _ ((marks_answer _).next fun _ => .conditional _ _ _ whenTrue whenFalse)
  | operand symbol comparison value => exact .conditional _ _ _ whenTrue whenFalse

/-- Lowering marks a draft where one of the events that are lowered has to do with an actor. -/
theorem marks_lowerEvents (setting : Setting) (events : List Event) :
    Marks (lowerEvents setting events)
      ((Event.inOrder events).any Event.addressesActor) := by
  induction events using Outline.ofEvents.induct with
  | case1 =>
    rw [lowerEvents, Event.inOrder]
    exact marks_pure ()
  | case2 event rest disabled inductionHypothesis =>
    rw [lowerEvents_disabled rest disabled, Event.inOrder_disabled rest disabled]
    exact inductionHypothesis
  | case3 event rest enabled fault read _ =>
    rw [lowerEvents_enabled rest enabled, Event.lower_eq, read]
    intro draft value after succeeded
    cases succeeded
  | case4 event rest enabled action read inductionHypothesis =>
    rw [lowerEvents_enabled rest enabled, Event.lower_eq, read,
      Event.inOrder_act rest enabled read, List.any_cons, Event.addressesActor_of_act read]
    exact (action.marks setting).bind fun _ => inductionHypothesis
  | case5 event rest enabled condition read trueHypothesis falseHypothesis inductionHypothesis =>
    rw [lowerEvents_enabled rest enabled, Event.lower_eq, read,
      Event.inOrder_choose rest enabled read, List.any_cons, List.any_append, List.any_append,
      Event.addressesActor_of_choose read, Bool.false_or]
    exact (condition.marks setting trueHypothesis falseHypothesis).bind fun _ => inductionHypothesis

/-- Whether a mode reserves the local actor, for a script that addresses it or does not. -/
def LocalActorMode.reserves (mode : LocalActorMode) (addressed : Bool) : Bool :=
  match mode with
  | auto => addressed
  | always => true
  | never => false

/-- Whether a draft has its local actor reserved is up to the mode and to the mark. -/
theorem Draft.reservesLocalActor_eq (draft : Draft) (options : Options) :
    draft.reservesLocalActor options = options.localActor.reserves draft.usesLocalActor := by
  unfold Draft.reservesLocalActor
  cases options.localActor <;> rfl

namespace Options

/-- The lines up to those of the code area. -/
def area (options : Options) : List String :=
  options.includes.map (fun path => ".include \"" ++ path ++ "\"") ++
    ["", ".area _CODE_" ++ toString options.bank, ""]

/-- The lines from that of the bank to the label at which a script is entered. -/
def entrance (options : Options) (name : String) (exported : Bool) : List String :=
  ["___bank_" ++ name ++ " = " ++ toString options.bank, ".globl ___bank_" ++ name] ++
    (if exported then [".globl _" ++ name] else []) ++ ["", "_" ++ name ++ "::"]

/-- The local actor is reserved in two places, between the area and the bank and behind the entry
label. -/
theorem preamble_eq_area (options : Options) (reserves : Bool) (name : String) (exported : Bool) :
    options.preamble reserves name exported =
      options.area ++ (if reserves then localActorSymbol else []) ++
        options.entrance name exported ++ if reserves then localActorWords else [] := by
  simp [preamble, area, entrance]

end Options

/-- The symbol of the local actor, written out. -/
theorem localActorSymbol_eq : localActorSymbol = ["ACTOR = -4", ""] := by decide

/-- The words of the local actor, written out. -/
theorem localActorWords_eq :
    localActorWords =
      ["        ; Local Actor", "        VM_PUSH_CONST           0",
        "        VM_PUSH_CONST           0", "        VM_PUSH_CONST           0",
        "        VM_PUSH_CONST           0", ""] := by decide

end EventScript
