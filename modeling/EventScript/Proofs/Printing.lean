import EventScript.Proofs.Judgement
import EventScript.Proofs.Meaning

/-!
# What actions print

An action that has to do neither with labels nor with the end of a script either fails, on every
draft and with the fault that is judged for it, or prints: on every level draft it succeeds, leaves
the ledger alone and adds the same lines, the ones that it writes by itself.
-/
namespace EventScript

open Assembly (Comparison Line)

/-- Whether a line neither jumps nor labels nor stops. -/
def Assembly.Line.isStraight : Line → Bool
  | .branch _ _ _ _ => false
  | .jump _ => false
  | .label _ => false
  | .stop => false
  | _ => true

/-- Whether an action does nothing but show its lines. -/
def Action.isPlain : Action → Bool
  | label _ => false
  | goto _ => false
  | stop => false
  | _ => true

namespace Writing

variable {α β : Type}

/-- On every level draft a writing succeeds, leaves the ledger alone and adds the same lines, which
do not jump. -/
structure Prints (writing : Writing α) (lines : List Line) : Prop where
  runs : ∀ draft, draft.ledger.depth = 0 → ∃ value after, writing draft = .ok value after ∧
    after.ledger = draft.ledger ∧ after.body = draft.body ++ lines
  straight : ∀ line ∈ lines, line.isStraight = true

/-- Writing a line prints it. -/
theorem prints_line {line : Line} (straight : line.isStraight = true) :
    Prints (Writing.line line) [line] where
  runs := fun draft _ => ⟨(), draft.write line, rfl, rfl, draft.body_write line⟩
  straight := by simpa using straight

/-- An instruction is printed. -/
theorem prints_emit (mnemonic : String) (operands : List Assembly.Operand) :
    Prints (emit mnemonic operands) [.instruction mnemonic operands] := prints_line rfl

/-- An instruction that addresses the local actor is printed for depth zero. -/
theorem prints_address (field : Nat) (mnemonic : String) (operands : List Assembly.Operand) :
    Prints (address field mnemonic operands)
      [.instruction mnemonic (.actor field 0 :: operands)] where
  runs := by
    intro draft level
    refine ⟨(), _, rfl, rfl, ?_⟩
    rw [← level]
    exact draft.body_write _
  straight := by simp [Line.isStraight]

/-- An instruction is printed for which a word is on the stack. -/
theorem prints_held (mnemonic : String) (operands : List Assembly.Operand) :
    Prints (do
      onLedger (Ledger.push 1)
      emit mnemonic operands
      onLedger (Ledger.pop 1)) [.instruction mnemonic operands] where
  runs := by
    intro draft level
    let held := { draft.ledger with depth := draft.ledger.depth + 1 }
    have counted : (draft.ledger.depth + 1) % Ledger.depths = draft.ledger.depth + 1 := by
      rw [level]
      rfl
    refine ⟨(), ((draft.withLedger held).write (.instruction mnemonic operands)).withLedger
      draft.ledger, ?_, rfl, ?_⟩
    · simp [Ledger.push, Ledger.pop, held, counted]
    · simp
  straight := by simp [Line.isStraight]

/-- What is printed in a row is printed as one. -/
theorem Prints.bind {first : Writing α} {second : α → Writing β} {lines more : List Line}
    (start : Prints first lines) (next : ∀ value, Prints (second value) more) :
    Prints (first >>= second) (lines ++ more) where
  runs := by
    intro draft level
    obtain ⟨value, middle, ran, kept, written⟩ := start.runs draft level
    obtain ⟨result, after, later, keptAfter, added⟩ := (next value).runs middle (kept ▸ level)
    refine ⟨result, after, by simp [ran, later], keptAfter.trans kept, ?_⟩
    rw [added, written, List.append_assoc]
  straight := by
    intro line member
    rcases List.mem_append.mp member with early | late
    · exact start.straight line early
    · obtain ⟨value, _⟩ := start.runs {} rfl
      exact (next value).straight line late

/-- What is answered without a fault goes on with its answer. -/
theorem answer_ok_bind (value : α) (next : α → Writing β) :
    answer (.ok value) >>= next = next value := rfl

/-- A command prints its comment, its body and a blank line. -/
theorem Prints.command (title : String) {body : Writing Unit} {lines : List Line}
    (inside : Prints body lines) :
    Prints (command title body) (.comment title :: (lines ++ [.blank])) where
  runs := by
    intro draft level
    obtain ⟨⟨⟩, after, ran, kept, written⟩ := inside.runs (draft.write (.comment title)) level
    refine ⟨(), after.write .blank, ?_, kept, ?_⟩
    · have same : after.ledger.depth = draft.ledger.depth := congrArg Ledger.depth kept
      simp [Writing.command, ran, same]
    · simp [written]
  straight := by
    intro line member
    rcases List.mem_cons.mp member with rfl | member
    · rfl
    · rcases List.mem_append.mp member with early | late
      · exact inside.straight line early
      · exact List.mem_singleton.mp late ▸ rfl

end Writing

open Writing

/-- The flags of a move in writing. -/
def moveFlags (collide : Bool) (kind : MoveKind) : String :=
  Assembly.flags ((if collide then [".ACTOR_ATTR_CHECK_COLL"] else []) ++ kind.flag)

/-- The lines that set an actor, at some depth. -/
def setLines (depth slot : Nat) : List Line :=
  [.comment "Actor Set Active", .instruction "VM_SET_CONST" [.actor 0 depth, .number slot], .blank]

/-- The lines of a move to a place, at some depth. -/
def moveLines (depth : Nat) (across along : Int) (collide : Bool) (kind : MoveKind) : List Line :=
  [.comment "Actor Move To",
    .instruction "VM_SET_CONST" [.actor 1 depth, .number across],
    .instruction "VM_SET_CONST" [.actor 2 depth, .number along],
    .instruction "VM_SET_CONST" [.actor 3 depth, .text (moveFlags collide kind)],
    .instruction "VM_ACTOR_MOVE_TO" [.actor 0 depth], .blank]

/-- An actor that is found is set at every depth. -/
theorem run_setActive {setting : Setting} {actor : String} {slot : Nat}
    (found : setting.slot actor = .ok slot) (draft : Draft) :
    ∃ after, (Action.setActive actor).write setting draft = .ok () after ∧
      after.body = draft.body ++ setLines draft.ledger.depth slot := by
  refine ⟨_, by simp [Action.write, Writing.setActive, command, found]; rfl, ?_⟩
  simp [Draft.body, Draft.write, setLines]

/-- A move to a tile within reach is written at every depth. -/
theorem run_moveTo {x y across along : Int} (right : tilePlace "x" x = .ok across)
    (down : tilePlace "y" y = .ok along) (setting : Setting) (collide : Bool) (kind : MoveKind)
    (draft : Draft) :
    ∃ after, (Action.moveTo x y collide kind).write setting draft = .ok () after ∧
      after.body = draft.body ++ moveLines draft.ledger.depth across along collide kind := by
  refine ⟨_, by simp [Action.write, Writing.moveTo, command, right, down]; rfl, ?_⟩
  simp [Draft.body, Draft.write, moveLines, moveFlags]

/-- An action that prints at least one line prints its lines. -/
theorem Action.prints_lines {setting : Setting} {action : Action}
    (prints : ∃ first rest, Prints (action.write setting) (first :: rest)) :
    action.lines setting ≠ [] ∧ Prints (action.write setting) (action.lines setting) := by
  obtain ⟨first, rest, printed⟩ := prints
  obtain ⟨_, after, ran, _, written⟩ := printed.runs {} rfl
  have same : action.lines setting = first :: rest := by
    rw [Action.lines, leaves, ran, written]
    rfl
  exact same ▸ ⟨List.cons_ne_nil first rest, printed⟩

/-- An action that does nothing but show its lines fails as it is judged to, or prints its lines. -/
theorem Action.fails_or_prints {action : Action} (setting : Setting) (labels : List String)
    (plain : action.isPlain = true) :
    (∃ fault, action.fault? setting labels = some fault ∧
        ∀ draft, ∃ after, action.write setting draft = .error fault after) ∨
      (action.fault? setting labels = none ∧ action.lines setting ≠ [] ∧
        Prints (action.write setting) (action.lines setting)) := by
  cases action with
  | setActive actor =>
    cases found : setting.slot actor with
    | error fault =>
      have fails :
          ∀ draft, ∃ after, (setActive actor).write setting draft = .error fault after := by
        intro draft
        exact ⟨draft.write (.comment "Actor Set Active"),
          by simp [write, Writing.setActive, Writing.command, found]⟩
      exact Or.inl ⟨fault, by simp [fault?, faultOf?, found], fails⟩
    | ok slot =>
      refine Or.inr ⟨by simp [fault?, faultOf?, found], prints_lines ?_⟩
      apply Exists.intro
      apply Exists.intro
      rw [write, Writing.setActive, found]
      exact .command _ (prints_address 0 _ [.number slot])
  | moveTo x y collide kind =>
    cases right : tilePlace "x" x with
    | error fault =>
      have fails : ∀ draft, ∃ after,
          (moveTo x y collide kind).write setting draft = .error fault after := by
        intro draft
        exact ⟨draft, by simp [write, Writing.moveTo, right]⟩
      exact Or.inl ⟨fault, by simp [fault?, faultOf?, right], fails⟩
    | ok across =>
      cases down : tilePlace "y" y with
      | error fault =>
        have fails : ∀ draft, ∃ after,
            (moveTo x y collide kind).write setting draft = .error fault after := by
          intro draft
          exact ⟨draft, by simp [write, Writing.moveTo, right, down]⟩
        exact Or.inl ⟨fault, by simp [fault?, faultOf?, right, down], fails⟩
      | ok along =>
        refine Or.inr ⟨by simp [fault?, faultOf?, right, down], prints_lines ?_⟩
        apply Exists.intro
        apply Exists.intro
        rw [write, moveTo_eq, right, down, answer_ok_bind, answer_ok_bind]
        apply Prints.command
        apply (prints_address 1 _ [.number across]).bind
        intro _
        apply (prints_address 2 _ [.number along]).bind
        intro _
        exact (prints_address 3 _ [_]).bind fun _ => prints_address 0 _ []
  | wait frames =>
    refine Or.inr ⟨rfl, prints_lines ?_⟩
    exact ⟨_, _, .command _ ((prints_emit _ _).bind fun _ => prints_held _ _)⟩
  | say text =>
    refine Or.inr ⟨rfl, prints_lines ?_⟩
    apply Exists.intro
    apply Exists.intro
    apply Prints.command
    apply (prints_emit _ _).bind
    intro _
    apply (prints_line rfl).bind
    intro _
    exact (prints_emit _ _).bind fun _ => (prints_emit _ _).bind fun _ => (prints_emit _ _).bind
      fun _ => (prints_emit _ _).bind fun _ => (prints_emit _ _).bind fun _ => prints_emit _ _
  | debug text =>
    have literal : Prints (Writing.line (.literal text)) _ := prints_line rfl
    have printed := (prints_emit "VM_DEBUG" [.number 0]).bind fun _ => literal
    exact Or.inr ⟨rfl, prints_lines ⟨_, _, printed⟩⟩
  | label name => cases plain
  | goto name => cases plain
  | stop => cases plain

/-- An action that does nothing but show its lines prints them, if it succeeds anywhere. -/
theorem Action.prints {setting : Setting} {action : Action} {before after : Draft}
    (plain : action.isPlain = true) (succeeded : action.write setting before = .ok () after) :
    action.lines setting ≠ [] ∧ Prints (action.write setting) (action.lines setting) := by
  rcases action.fails_or_prints setting [] plain with ⟨fault, _, fails⟩ | ⟨_, printed⟩
  · obtain ⟨stopped, failed⟩ := fails before
    rw [failed] at succeeded
    cases succeeded
  · exact printed

end EventScript
