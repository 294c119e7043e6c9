import EventScript.Proofs.Composition
import EventScript.Proofs.Judgement

/-!
# Lowering keeps the depth, also where it fails

Events take nothing from the stack and leave nothing there, wherever their lowering stops. A word
that is pushed is taken back before anything can fail, so the demands for a depth that stand in
commands and around arms are met, and the word that a wait takes back is there. All that this asks
of the depth is that one more word can be counted: a wait at the greatest depth wraps around.
-/
namespace EventScript

open Assembly (Comparison Line Operand)

/-- One more word can be counted. -/
def Ledger.HasRoom (ledger : Ledger) : Prop := ledger.depth + 1 < depths

/-- Where there is room at a depth, there is room wherever the depth is the same. -/
theorem Ledger.HasRoom.of_level {ledger other : Ledger} (room : ledger.HasRoom)
    (level : other.depth = ledger.depth) : other.HasRoom := by
  rwa [HasRoom, level]

/-- Where there is room, a word is counted as one. -/
theorem Ledger.HasRoom.depth_eq {ledger : Ledger} (room : ledger.HasRoom) :
    (ledger.depth + 1) % depths = ledger.depth + 1 := Nat.mod_eq_of_lt room

namespace Writing

variable {α β : Type}

/-- What the first of two writings brings about and the second keeps, both in a row bring about,
wherever they stop. -/
theorem leaves_bind_keeps {first : Writing α} {second : α → Writing β} {draft : Draft}
    (kept : Draft → Prop) (start : kept (first.leaves draft))
    (next : ∀ value middle, kept middle → kept ((second value).leaves middle)) :
    kept ((first >>= second).leaves draft) := by
  cases ran : first draft with
  | error fault after =>
    rw [leaves_of_error ran] at start
    rwa [leaves_bind_of_error ran]
  | ok value middle =>
    rw [leaves_of_ok ran] at start
    rw [leaves_bind_of_ok ran]
    exact next value middle start

/-- A writing that keeps the depth wherever there is room, whether it succeeds or fails. -/
def Balanced (writing : Writing α) : Prop :=
  ∀ draft, draft.ledger.HasRoom → (writing.leaves draft).ledger.depth = draft.ledger.depth

/-- Balanced writings in a row are balanced. -/
theorem Balanced.bind {first : Writing α} {second : α → Writing β} (start : Balanced first)
    (next : ∀ value, Balanced (second value)) : Balanced (first >>= second) := by
  intro draft room
  apply leaves_bind_keeps (fun after => after.ledger.depth = draft.ledger.depth) (start draft room)
  intro value middle same
  rw [next value middle (room.of_level same), same]

/-- A writing that leaves the ledger as it is wherever there is room, and meets no fault there that
only a procedure can meet. -/
structure Harmless (writing : Writing α) : Prop where
  still : ∀ draft, draft.ledger.HasRoom → (writing.leaves draft).ledger = draft.ledger
  plain : ∀ draft fault after, draft.ledger.HasRoom → writing draft = .error fault after →
    fault.isProcedural = false

/-- A harmless writing is balanced. -/
theorem Harmless.balanced {writing : Writing α} (harmless : Harmless writing) : Balanced writing :=
  fun draft room => congrArg Ledger.depth (harmless.still draft room)

/-- Harmless writings in a row are harmless. -/
theorem Harmless.bind {first : Writing α} {second : α → Writing β} (start : Harmless first)
    (next : ∀ value, Harmless (second value)) : Harmless (first >>= second) where
  still := by
    intro draft room
    apply leaves_bind_keeps (fun after => after.ledger = draft.ledger) (start.still draft room)
    intro value middle same
    rw [(next value).still middle (room.of_level (congrArg Ledger.depth same)), same]
  plain := by
    intro draft fault after room failed
    obtain early | ⟨value, middle, ran, late⟩ := run_bind_eq_error_iff.mp failed
    · exact start.plain draft fault after room early
    · have same : middle.ledger = draft.ledger := leaves_of_ok ran ▸ start.still draft room
      have still := room.of_level (congrArg Ledger.depth same)
      exact (next value).plain middle fault after still late

/-- What is answered without a draft is harmless, if its fault is. -/
theorem harmless_answer {result : Except Fault α} (plain : Plain (faultOf? result)) :
    Harmless (answer result) where
  still := by
    intro draft room
    cases result <;> rfl
  plain := by
    intro draft fault after room failed
    cases result with
    | ok value => cases failed
    | error other =>
      cases failed
      exact plain fault rfl

/-- A line is harmless. -/
theorem harmless_line (line : Line) : Harmless (Writing.line line) where
  still := fun _ _ => rfl
  plain := fun _ _ _ _ failed => by cases failed

/-- An instruction is harmless. -/
theorem harmless_emit (mnemonic : String) (operands : List Operand) :
    Harmless (emit mnemonic operands) := harmless_line _

/-- An instruction that addresses the local actor is harmless. -/
theorem harmless_address (field : Nat) (mnemonic : String) (operands : List Operand) :
    Harmless (address field mnemonic operands) where
  still := fun _ _ => rfl
  plain := fun _ _ _ _ failed => by cases failed

/-- An instruction for which a word is on the stack is harmless: the word that is taken back is
there. -/
theorem harmless_held (mnemonic : String) (operands : List Operand) :
    Harmless (do
      onLedger (Ledger.push 1)
      emit mnemonic operands
      onLedger (Ledger.pop 1)) where
  still := by
    intro draft room
    simp [leaves, Ledger.push, Ledger.pop, room.depth_eq]
  plain := by
    intro draft fault after room failed
    simp [Ledger.push, Ledger.pop, room.depth_eq] at failed

/-- The demand of a command is met where its body keeps the depth, so it is the body that fails. -/
theorem run_command_balanced {title : String} {body : Writing Unit} (balanced : Balanced body)
    {draft : Draft} (room : draft.ledger.HasRoom) :
    command title body draft = (do line (.comment title); body; line .blank) draft := by
  cases ran : body (draft.write (.comment title)) with
  | error fault after => simp [command, ran]
  | ok value after =>
    have level : after.ledger.depth = draft.ledger.depth :=
      leaves_of_ok ran ▸ balanced (draft.write (.comment title)) room
    simp [command, ran, level]

/-- A command with a balanced body fails where its body does. -/
theorem command_eq_error_iff {title : String} {body : Writing Unit} (balanced : Balanced body)
    {draft after : Draft} (room : draft.ledger.HasRoom) {fault : Fault} :
    command title body draft = .error fault after ↔
      body (draft.write (.comment title)) = .error fault after := by
  rw [run_command_balanced balanced room]
  cases ran : body (draft.write (.comment title)) <;> simp [ran]

/-- A command with a harmless body is harmless. -/
theorem Harmless.command (title : String) {body : Writing Unit} (inside : Harmless body) :
    Harmless (Writing.command title body) := by
  have framed : Harmless (do line (.comment title); body; line .blank : Writing Unit) :=
    (harmless_line _).bind fun _ => inside.bind fun _ => harmless_line _
  constructor
  · intro draft room
    rw [leaves, run_command_balanced inside.balanced room]
    exact framed.still draft room
  · intro draft fault after room failed
    rw [run_command_balanced inside.balanced room] at failed
    exact framed.plain draft fault after room failed

/-- Reading the depth keeps it. -/
theorem balanced_depth : Balanced depth := fun _ _ => rfl

/-- Demanding a depth keeps it. -/
theorem balanced_expectDepth (site : String) (expected : Nat) :
    Balanced (expectDepth site expected) := by
  intro draft _
  by_cases met : draft.ledger.depth = expected <;> simp [leaves, met]

/-- Taking a number keeps the depth. -/
theorem balanced_freshLabel : Balanced (onLedger Ledger.freshLabel) := fun _ _ => rfl

/-- Putting a label keeps the depth, also where the label is refused. -/
theorem balanced_label (name : String) : Balanced (label name) := by
  intro draft _
  obtain ⟨_, _, refused⟩ | ⟨_, _, _, _, refused⟩ | ⟨_, _, entered⟩ :=
    Ledger.define_cases draft.ledger name
  · simp [leaves, label, refused]
  · simp [leaves, label, refused, Ledger.withdraw]
  · simp [leaves, label, entered, Ledger.enter, Ledger.withdraw]

/-- Writing a line that jumps keeps the depth, also where the jump is refused. -/
theorem balanced_jump (name : String) (line : Line) :
    Balanced (do onLedger (Ledger.jump name); Writing.line line) := by
  intro draft _
  obtain ⟨_, _, _, refused⟩ | ⟨_, kept⟩ | ⟨_, awaited⟩ := Ledger.jump_cases draft.ledger name
  · simp [leaves, refused]
  · simp [leaves, kept]
  · simp [leaves, awaited, Ledger.await]

/-- The steps of commands and conditionals keep the depth, whether they succeed or fail. -/
theorem balanced_composes : Composes @Balanced where
  bind := Balanced.bind
  depth := balanced_depth
  expectDepth := balanced_expectDepth
  comment := fun _ => (harmless_line _).balanced
  blank := (harmless_line _).balanced
  symbol := fun setting variableName =>
    (harmless_answer (setting.plain_symbol variableName)).balanced
  freshLabel := balanced_freshLabel
  branch := fun _ _ _ target => balanced_jump target _
  jump := fun name => balanced_jump name _
  label := balanced_label

end Writing

open Writing

/-- An action that has nothing to do with labels is harmless. -/
theorem Action.harmless (setting : Setting) {action : Action} (noLabel : action.label? = none)
    (noTarget : action.target? = none) : Harmless (action.write setting) := by
  cases action with
  | setActive actor =>
    refine .command _ ((harmless_answer (setting.plain_slot actor)).bind fun slot => ?_)
    exact harmless_address 0 _ [.number slot]
  | moveTo x y collide kind =>
    rw [Action.write, moveTo_eq]
    refine (harmless_answer (plain_tilePlace "x" x)).bind fun right => ?_
    refine (harmless_answer (plain_tilePlace "y" y)).bind fun down => .command _ ?_
    refine (harmless_address 1 _ [.number right]).bind fun _ => ?_
    refine (harmless_address 2 _ [.number down]).bind fun _ => ?_
    exact (harmless_address 3 _ [_]).bind fun _ => harmless_address 0 _ []
  | wait frames => exact .command _ ((harmless_emit _ _).bind fun _ => harmless_held _ _)
  | say text =>
    refine .command _ ((harmless_emit _ _).bind fun _ => (harmless_line _).bind fun _ => ?_)
    refine (harmless_emit _ _).bind fun _ => (harmless_emit _ _).bind fun _ => ?_
    refine (harmless_emit _ _).bind fun _ => (harmless_emit _ _).bind fun _ => ?_
    exact (harmless_emit _ _).bind fun _ => harmless_emit _ _
  | debug text => exact (harmless_emit _ _).bind fun _ => harmless_line _
  | label name => cases noLabel
  | goto name => cases noTarget
  | stop => exact (harmless_line _).bind fun _ => harmless_line _

/-- Every action is balanced. -/
theorem Action.balanced (setting : Setting) (action : Action) :
    Balanced (action.write setting) := by
  cases action with
  | label name =>
    exact (harmless_answer (plain_checkLabel name)).balanced.bind fun _ => balanced_label name
  | goto name =>
    exact (harmless_answer (plain_checkLabel name)).balanced.bind fun _ => balanced_jump name _
  | _ => exact (Action.harmless setting rfl rfl).balanced

/-- Lowering a list of events keeps the depth wherever there is room, whether it succeeds or fails.
-/
theorem balanced_lowerEvents (setting : Setting) (events : List Event) :
    Balanced (lowerEvents setting events) :=
  balanced_composes.lowerEvents setting (fun _ _ => rfl) (Action.balanced setting)
    (fun _ _ _ => rfl) events

end EventScript
