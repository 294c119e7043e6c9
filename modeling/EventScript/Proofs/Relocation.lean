import EventScript.Proofs.Balance
import EventScript.Proofs.Freshness
import EventScript.Proofs.Meaning
import EventScript.Proofs.Rendering

/-!
# Lowered events can be moved to other numbers

Events without labels of their own write the same on every draft, except that their conditionals
take the numbers that come next there. Two lowerings of such events on two drafts of one depth are
followed side by side. They take equally many numbers, write equal lines up to the numbers of
generated labels, and end alike, in success or with the same fault. What else the drafts hold, which
labels stand there and which are awaited, makes no difference.

The side by side argument needs that no jump and no definition of a conditional is refused, because
such a fault would name a generated label. That is where the freshness of the numbers comes in.
-/
namespace EventScript

open Assembly (Comparison Line Operand)

/-- A line, and the same line where generated labels are counted from another number on. Only the
targets of tests and jumps and the lines of labels have numbers of generated labels. -/
inductive Assembly.Line.Renumbered (first second : Nat) : Line → Line → Prop where
  | branch (comparison : Comparison) (operand : String) (value : Int) (index : Nat) :
    Renumbered first second (.branch comparison operand value (toString (first + index)))
      (.branch comparison operand value (toString (second + index)))
  | jump (index : Nat) :
    Renumbered first second (.jump (toString (first + index))) (.jump (toString (second + index)))
  | label (index : Nat) :
    Renumbered first second (.label (toString (first + index)))
      (.label (toString (second + index)))
  | same (line : Line) (noTarget : line.target? = none) (noLabel : line.label? = none) :
    Renumbered first second line line

/-- A line in writing, and the same line where generated labels are counted from another number on.
The two differ in the symbol of one generated label, or not at all. -/
def Relabelled (first second : Nat) (line moved : String) : Prop :=
  line = moved ∨ ∃ before index after,
    line = before ++ Ledger.symbol (toString (first + index)) ++ after ∧
    moved = before ++ Ledger.symbol (toString (second + index)) ++ after

namespace Assembly.Line

/-- A renumbered line is relabelled in writing. -/
theorem Renumbered.render {first second : Nat} {line moved : Line}
    (renumbered : line.Renumbered first second moved) :
    Relabelled first second line.render moved.render := by
  cases renumbered with
  | branch comparison operand value index =>
    exact .inr ⟨_, index, _, render_branch _ _ _ _, render_branch _ _ _ _⟩
  | jump index =>
    have written : ∀ target, (Line.jump target).render =
        Assembly.instruction "VM_JUMP" [""] ++ Ledger.symbol target ++ "" := by
      intro target
      rw [render_jump, String.append_empty]
    exact .inr ⟨_, index, _, written _, written _⟩
  | label index =>
    have written : ∀ name, (Line.label name).render = "" ++ Ledger.symbol name ++ ":" := by
      simp [Line.render]
    exact .inr ⟨_, index, _, written _, written _⟩
  | same line noTarget noLabel => exact .inl rfl

end Assembly.Line

namespace Ledger

/-- Two ledgers that have come equally far from two numbers. -/
structure Twin (first second : Nat) (left right : Ledger) : Prop where
  level : left.depth = right.depth
  taken : ∃ count, left.nextLabel = first + count ∧ right.nextLabel = second + count
  leftGenerates : left.Generates 0
  rightGenerates : right.Generates 0

namespace Twin

variable {first second : Nat} {left right : Ledger}

/-- A number may be taken on both sides. -/
theorem take (twin : Twin first second left right) : Twin first second left.take right.take where
  level := twin.level
  taken := by
    obtain ⟨count, leftCount, rightCount⟩ := twin.taken
    exact ⟨count + 1, congrArg (· + 1) leftCount, congrArg (· + 1) rightCount⟩
  leftGenerates := twin.leftGenerates.take
  rightGenerates := twin.rightGenerates.take

/-- The depth may be changed on both sides. -/
theorem atDepth (twin : Twin first second left right) (depth : Nat) :
    Twin first second { left with depth := depth } { right with depth := depth } where
  level := rfl
  taken := twin.taken
  leftGenerates := twin.leftGenerates
  rightGenerates := twin.rightGenerates

/-- A label that is generated on one side is generated under its own number on the other. -/
theorem knows {index : Nat} (twin : Twin first second left right)
    (inside : first + index < left.nextLabel) :
    left.Knows (toString (first + index)) ∧ right.Knows (toString (second + index)) := by
  obtain ⟨count, leftCount, rightCount⟩ := twin.taken
  exact ⟨Writing.knows_toString inside, Writing.knows_toString (by omega)⟩

/-- A generated label may be jumped to on both sides. -/
theorem await {index : Nat} (twin : Twin first second left right)
    (inside : first + index < left.nextLabel) :
    Twin first second (left.await (toString (first + index)))
      (right.await (toString (second + index))) where
  level := twin.level
  taken := twin.taken
  leftGenerates := twin.leftGenerates.await (twin.knows inside).1 (by simp)
  rightGenerates := twin.rightGenerates.await (twin.knows inside).2 (by simp)

/-- A generated label may be defined on both sides. -/
theorem enter {index : Nat} (twin : Twin first second left right)
    (inside : first + index < left.nextLabel) :
    Twin first second (left.enter (toString (first + index)))
      (right.enter (toString (second + index))) where
  level := twin.level
  taken := twin.taken
  leftGenerates := twin.leftGenerates.enter (twin.knows inside).1 (by simp)
  rightGenerates := twin.rightGenerates.enter (twin.knows inside).2 (by simp)

end Twin

end Ledger

namespace Draft

/-- Two drafts that have come equally far from two others: since then the same lines have been
written on both, up to the numbers of generated labels. -/
structure Twin (first second left right : Draft) : Prop where
  ledgers : Ledger.Twin first.ledger.nextLabel second.ledger.nextLabel left.ledger right.ledger
  added : ∃ lines moved, left.body = first.body ++ lines ∧ right.body = second.body ++ moved ∧
    List.Forall₂ (Line.Renumbered first.ledger.nextLabel second.ledger.nextLabel) lines moved

namespace Twin

variable {first second left right : Draft} {ledger other : Ledger}

/-- The ledgers may be moved on both sides. -/
theorem withLedger (twin : Twin first second left right)
    (ledgers : Ledger.Twin first.ledger.nextLabel second.ledger.nextLabel ledger other) :
    Twin first second (left.withLedger ledger) (right.withLedger other) :=
  ⟨ledgers, twin.added⟩

/-- A line may be written on both sides. -/
theorem write {line moved : Line} (twin : Twin first second left right)
    (renumbered : line.Renumbered first.ledger.nextLabel second.ledger.nextLabel moved) :
    Twin first second (left.write line) (right.write moved) where
  ledgers := twin.ledgers
  added := by
    obtain ⟨lines, others, leftBody, rightBody, alike⟩ := twin.added
    refine ⟨lines ++ [line], others ++ [moved], ?_, ?_, ?_⟩
    · rw [body_write, leftBody, List.append_assoc]
    · rw [body_write, rightBody, List.append_assoc]
    · exact List.rel_append alike (.cons renumbered .nil)

/-- A generated label may be put on both sides. -/
theorem meet {index : Nat} (twin : Twin first second left right)
    (inside : first.ledger.nextLabel + index < left.ledger.nextLabel) :
    Twin first second (left.meet (toString (first.ledger.nextLabel + index)))
      (right.meet (toString (second.ledger.nextLabel + index))) :=
  (twin.withLedger (twin.ledgers.enter inside)).write (.label index)

end Twin

end Draft

namespace Draft.Twin

variable {first second left right : Draft}

/-- The drafts between the arms of a conditional come equally far, where both labels are generated.
-/
theorem turn {chosen join : Nat} (twin : Twin first second left right)
    (chosenInside : first.ledger.nextLabel + chosen < left.ledger.nextLabel)
    (joinInside : first.ledger.nextLabel + join < left.ledger.nextLabel) :
    Twin first second
      (left.turn (toString (first.ledger.nextLabel + chosen))
        (toString (first.ledger.nextLabel + join)))
      (right.turn (toString (second.ledger.nextLabel + chosen))
        (toString (second.ledger.nextLabel + join))) :=
  ((twin.withLedger (twin.ledgers.await joinInside)).write (.jump join)).meet chosenInside

/-- The drafts behind the test of a conditional come equally far. -/
theorem test {count : Nat} (twin : Twin first second left right) (comparison : Comparison)
    (operand : String) (value : Int)
    (leftCount : left.ledger.nextLabel = first.ledger.nextLabel + count)
    (rightCount : right.ledger.nextLabel = second.ledger.nextLabel + count) :
    Twin first second (left.test comparison operand value)
      (right.test comparison operand value) := by
  have inside : first.ledger.nextLabel + count < left.ledger.take.take.nextLabel := by
    simp only [Ledger.take_nextLabel]
    omega
  rw [Draft.test, Draft.test, leftCount, rightCount]
  exact (twin.withLedger (twin.ledgers.take.take.await inside)).write (.branch _ _ _ count)

end Draft.Twin

namespace Writing

open Draft

variable {α β : Type}

/-- Two results with one value or one fault, and drafts that have come equally far. -/
inductive Alike (first second : Draft) :
    EStateM.Result Fault Draft α → EStateM.Result Fault Draft α → Prop where
  | ok {left right : Draft} (value : α) (twin : Draft.Twin first second left right) :
    Alike first second (.ok value left) (.ok value right)
  | error {left right : Draft} (fault : Fault) (twin : Draft.Twin first second left right) :
    Alike first second (.error fault left) (.error fault right)

/-- A writing takes drafts that have come equally far equally far. -/
def Portable (writing : Writing α) : Prop :=
  ∀ first second left right, Draft.Twin first second left right →
    Alike first second (writing left) (writing right)

/-- Results that are alike stay alike when what comes next is alike. -/
theorem Alike.bind {writing : Writing α} {next other : α → Writing β}
    {first second left right : Draft} (start : Alike first second (writing left) (writing right))
    (goOn : ∀ value reached moved, writing left = .ok value reached →
      Draft.Twin first second reached moved →
      Alike first second (next value reached) (other value moved)) :
    Alike first second ((writing >>= next) left) ((writing >>= other) right) := by
  rw [run_bind, run_bind]
  generalize ran : writing left = leftResult at start
  generalize writing right = rightResult at start
  cases start with
  | ok value twin => exact goOn value _ _ ran twin
  | error fault twin => exact .error fault twin

/-- Portable writings in a row are portable. -/
theorem Portable.bind {writing : Writing α} {next : α → Writing β} (start : Portable writing)
    (goOn : ∀ value, Portable (next value)) : Portable (writing >>= next) :=
  fun _ _ left right twin => (start _ _ left right twin).bind fun value reached moved _ =>
    goOn value _ _ reached moved

/-- Giving a value is portable. -/
theorem portable_pure (value : α) : Portable (pure value : Writing α) :=
  fun _ _ _ _ twin => .ok value twin

/-- Failing is portable. -/
theorem portable_throw (fault : Fault) : Portable (throw fault : Writing α) :=
  fun _ _ _ _ twin => .error fault twin

/-- What is answered without a draft is portable. -/
theorem portable_answer (result : Except Fault α) : Portable (answer result) := by
  cases result with
  | ok value => exact portable_pure value
  | error fault => exact portable_throw fault

/-- The depth is the same on both sides. -/
theorem portable_depth : Portable depth := by
  intro first second left right twin
  rw [run_depth, run_depth, twin.ledgers.level]
  exact .ok _ twin

/-- A demand for a depth is met on both sides or on neither. -/
theorem portable_expectDepth (site : String) (expected : Nat) :
    Portable (expectDepth site expected) := by
  intro first second left right twin
  rw [run_expectDepth, run_expectDepth, twin.ledgers.level]
  split
  · exact .ok () twin
  · exact .error _ twin

/-- A line that neither jumps nor labels is portable. -/
theorem portable_line (line : Line) (noTarget : line.target? = none)
    (noLabel : line.label? = none) : Portable (Writing.line line) :=
  fun _ _ _ _ twin => .ok () (twin.write (.same line noTarget noLabel))

/-- An instruction is portable. -/
theorem portable_emit (mnemonic : String) (operands : List Operand) :
    Portable (emit mnemonic operands) := portable_line _ rfl rfl

/-- An instruction that addresses the local actor does so from one depth on both sides. -/
theorem portable_address (field : Nat) (mnemonic : String) (operands : List Operand) :
    Portable (address field mnemonic operands) := by
  intro first second left right twin
  have marked : Draft.Twin first second { left with usesLocalActor := true }
      { right with usesLocalActor := true } := ⟨twin.ledgers, twin.added⟩
  have written := marked.write
    (.same (.instruction mnemonic (.actor field left.ledger.depth :: operands)) rfl rfl)
  have ran : ∀ draft : Draft, address field mnemonic operands draft =
      .ok () (Draft.write { draft with usesLocalActor := true }
        (.instruction mnemonic (.actor field draft.ledger.depth :: operands))) := fun _ => rfl
  rw [ran, ran, ← twin.ledgers.level]
  exact .ok () written

/-- Pushing words is portable. -/
theorem portable_push (words : Nat) : Portable (onLedger (Ledger.push words)) := by
  intro first second left right twin
  have pushed := twin.withLedger
    (twin.ledgers.atDepth ((left.ledger.depth + words) % Ledger.depths))
  have ran : ∀ draft : Draft, onLedger (Ledger.push words) draft =
      .ok () (draft.withLedger
        { draft.ledger with depth := (draft.ledger.depth + words) % Ledger.depths }) := fun _ => rfl
  rw [ran, ran, ← twin.ledgers.level]
  exact .ok () pushed

/-- Popping words is portable: both sides hold them or neither does. -/
theorem portable_pop (words : Nat) : Portable (onLedger (Ledger.pop words)) := by
  intro first second left right twin
  have level := twin.ledgers.level
  rw [run_onLedger, run_onLedger]
  obtain ⟨short, refused⟩ | ⟨held, popped⟩ := Ledger.pop_cases left.ledger words
  · obtain ⟨_, alsoRefused⟩ | ⟨enough, _⟩ := Ledger.pop_cases right.ledger words
    · rw [refused, alsoRefused, level]
      exact .error _ twin
    · omega
  · obtain ⟨short, _⟩ | ⟨_, alsoPopped⟩ := Ledger.pop_cases right.ledger words
    · omega
    · rw [popped, alsoPopped, ← level]
      exact .ok () (twin.withLedger (twin.ledgers.atDepth _))

/-- A command is portable when its body is. -/
theorem Portable.command (title : String) {body : Writing Unit} (inside : Portable body) :
    Portable (command title body) := by
  refine portable_depth.bind fun before => ?_
  refine (portable_line _ rfl rfl).bind fun _ => ?_
  refine inside.bind fun _ => ?_
  refine (portable_expectDepth title before).bind fun _ => ?_
  exact portable_line _ rfl rfl

/-- A writing that ends at the depth that it began with, where it succeeds. -/
def Steady (writing : Writing Unit) : Prop :=
  ∀ before after, writing before = .ok () after → after.ledger.depth = before.ledger.depth

/-- A writing that may stand in a conditional that is moved. -/
structure Movable (writing : Writing Unit) : Prop where
  portable : Portable writing
  charted : Charted False writing
  steady : Steady writing

/-- An arm meets the demand for its depth on both sides, so the demands may name different labels.
-/
theorem Movable.arm {writing : Writing Unit} (movable : Movable writing)
    {next other : Writing Unit} {first second left right : Draft}
    (site otherSite : String) (twin : Draft.Twin first second left right)
    (goOn : ∀ reached moved, Draft.Twin first second reached moved →
      reached.ledger.depth = left.ledger.depth →
      left.ledger.nextLabel ≤ reached.ledger.nextLabel →
      Alike first second (next reached) (other moved)) :
    Alike first second
      ((do writing; expectDepth site left.ledger.depth; next) left)
      ((do writing; expectDepth otherSite left.ledger.depth; other) right) := by
  refine (movable.portable _ _ left right twin).bind fun _ reached moved ran twin => ?_
  have level : reached.ledger.depth = left.ledger.depth := movable.steady left reached ran
  rw [run_expectDepth_bind, run_expectDepth_bind, if_pos level,
    if_pos (twin.ledgers.level.symm.trans level)]
  exact goOn reached moved twin level (movable.charted.nextLabel_le ran)

/-- What a conditional does around its arms is alike on both sides, each with its own labels. -/
theorem alike_bracket {onTrue onFalse : Writing Unit} (whenTrue : Movable onTrue)
    (whenFalse : Movable onFalse) {first second left right : Draft} {chosen join : Nat}
    (twin : Draft.Twin first second left right)
    (chosenInside : first.ledger.nextLabel + chosen < left.ledger.nextLabel)
    (joinInside : first.ledger.nextLabel + join < left.ledger.nextLabel) :
    Alike first second
      (bracket left.ledger.depth (toString (first.ledger.nextLabel + chosen))
        (toString (first.ledger.nextLabel + join)) onTrue onFalse left)
      (bracket left.ledger.depth (toString (second.ledger.nextLabel + chosen))
        (toString (second.ledger.nextLabel + join)) onTrue onFalse right) := by
  rw [bracket, bracket]
  refine whenFalse.arm _ _ twin fun lowered _ twin level risen => ?_
  have turned := twin.turn (chosenInside.trans_le risen) (joinInside.trans_le risen)
  rw [run_bind_of_ok (run_modify _ _), run_bind_of_ok (run_modify _ _), ← level]
  refine whenTrue.arm _ _ turned fun raised _ twin _ further => ?_
  exact .ok () (twin.meet ((joinInside.trans_le risen).trans_le further))

/-- A conditional is portable: none of its own jumps and definitions is refused, and a fault in its
arms does not name its labels. -/
theorem portable_conditional (comparison : Comparison) (operand : String) (value : Int)
    {onTrue onFalse : Writing Unit} (whenTrue : Movable onTrue) (whenFalse : Movable onFalse) :
    Portable (conditional comparison operand value onTrue onFalse) := by
  intro first second left right twin
  obtain ⟨count, leftCount, rightCount⟩ := twin.ledgers.taken
  have tested := twin.test comparison operand value leftCount rightCount
  have inside : ∀ index, index < count + 2 → first.ledger.nextLabel + index <
      (left.test comparison operand value).ledger.nextLabel := by
    intro index small
    have two : (left.test comparison operand value).ledger.nextLabel =
        left.ledger.nextLabel + 1 + 1 := rfl
    omega
  rw [conditional_eq_bracket comparison operand value whenTrue.charted whenFalse.charted left
      twin.ledgers.leftGenerates,
    conditional_eq_bracket comparison operand value whenTrue.charted whenFalse.charted right
      twin.ledgers.rightGenerates, leftCount, rightCount, Nat.add_assoc, Nat.add_assoc,
    ← twin.ledgers.level]
  exact alike_bracket whenTrue whenFalse tested (inside count (by omega))
    (inside (count + 1) (by omega))

end Writing

open Writing

/-- An action that has nothing to do with labels is portable. -/
theorem Action.portable (setting : Setting) {action : Action} (noLabel : action.label? = none)
    (noTarget : action.target? = none) : Portable (action.write setting) := by
  cases action with
  | setActive actor =>
    exact .command _ ((portable_answer _).bind fun slot => portable_address 0 _ [.number slot])
  | moveTo x y collide kind =>
    rw [Action.write, moveTo_eq]
    refine (portable_answer _).bind fun right => (portable_answer _).bind fun down => .command _ ?_
    refine (portable_address 1 _ [.number right]).bind fun _ => ?_
    refine (portable_address 2 _ [.number down]).bind fun _ => ?_
    refine (portable_address 3 _ [_]).bind fun _ => ?_
    exact portable_address 0 _ []
  | wait frames =>
    refine .command _ ((portable_emit _ _).bind fun _ => (portable_push 1).bind fun _ => ?_)
    exact (portable_emit _ _).bind fun _ => portable_pop 1
  | say text =>
    refine .command _ ((portable_emit _ _).bind fun _ => ?_)
    refine (portable_line _ rfl rfl).bind fun _ => ?_
    refine (portable_emit _ _).bind fun _ => (portable_emit _ _).bind fun _ => ?_
    refine (portable_emit _ _).bind fun _ => (portable_emit _ _).bind fun _ => ?_
    exact (portable_emit _ _).bind fun _ => portable_emit _ _
  | debug text => exact (portable_emit _ _).bind fun _ => portable_line _ rfl rfl
  | label name => cases noLabel
  | goto name => cases noTarget
  | stop => exact (portable_line _ rfl rfl).bind fun _ => portable_line _ rfl rfl

/-- An action that has nothing to do with labels ends at the depth that it began with: a command
demands so itself. -/
theorem Action.steady (setting : Setting) {action : Action} (noLabel : action.label? = none)
    (noTarget : action.target? = none) : Steady (action.write setting) := by
  intro before after succeeded
  cases action with
  | setActive actor => exact command_depth succeeded
  | moveTo x y collide kind =>
    obtain ⟨right, _, across, rest⟩ := run_bind_eq_ok_iff.mp succeeded
    obtain ⟨down, _, along, moved⟩ := run_bind_eq_ok_iff.mp rest
    obtain rfl := answer_eq_ok across
    obtain rfl := answer_eq_ok along
    exact command_depth moved
  | wait frames => exact command_depth succeeded
  | say text => exact command_depth succeeded
  | debug text =>
    cases succeeded
    rfl
  | label name => cases noLabel
  | goto name => cases noTarget
  | stop =>
    cases succeeded
    rfl

/-- A conditional of any kind is portable. -/
theorem Condition.portable (setting : Setting) (condition : Condition)
    {onTrue onFalse : Writing Unit} (whenTrue : Movable onTrue) (whenFalse : Movable onFalse) :
    Portable (condition.write setting onTrue onFalse) := by
  cases condition with
  | isTrue variableName =>
    refine .command _ ((portable_answer _).bind fun symbol => ?_)
    exact portable_conditional _ _ _ whenTrue whenFalse
  | compare variableName comparison value =>
    refine .command _ ((portable_answer _).bind fun symbol => ?_)
    exact portable_conditional _ _ _ whenTrue whenFalse
  | operand symbol comparison value => exact portable_conditional _ _ _ whenTrue whenFalse

namespace Writing

/-- Giving nothing is movable. -/
theorem movable_pure : Movable (pure ()) where
  portable := portable_pure ()
  charted := charted_pure ()
  steady := fun _ _ succeeded => by cases succeeded; rfl

/-- Failing is movable. -/
theorem movable_throw (fault : Fault) : Movable (throw fault) where
  portable := portable_throw fault
  charted := charted_throw fault
  steady := fun _ _ succeeded => by cases succeeded

/-- Movable writings in a row are movable. -/
theorem Movable.bind {first second : Writing Unit} (start : Movable first) (next : Movable second) :
    Movable (do first; second) where
  portable := start.portable.bind fun _ => next.portable
  charted := start.charted.bind fun _ => next.charted
  steady := by
    intro before after succeeded
    obtain ⟨_, middle, ran, succeeded⟩ := run_bind_eq_ok_iff.mp succeeded
    rw [next.steady middle after succeeded, start.steady before middle ran]

end Writing

/-- An action that has nothing to do with labels may stand in a conditional that is moved. -/
theorem Action.movable (setting : Setting) {action : Action} (noLabel : action.label? = none)
    (noTarget : action.target? = none) : Movable (action.write setting) :=
  ⟨action.portable setting noLabel noTarget, action.charted setting,
    action.steady setting noLabel noTarget⟩

/-- A conditional may itself stand in a conditional that is moved. -/
theorem Condition.movable (setting : Setting) (condition : Condition)
    {onTrue onFalse : Writing Unit} (whenTrue : Movable onTrue) (whenFalse : Movable onFalse) :
    Movable (condition.write setting onTrue onFalse) :=
  ⟨condition.portable setting whenTrue whenFalse,
    condition.charted setting whenTrue.charted whenFalse.charted,
    fun _ _ => condition.depth_eq⟩

/-- A list of events without labels of its own may stand in a conditional that is moved. -/
theorem movable_lowerEvents (setting : Setting) (events : List Event)
    (unnamed : ∀ event ∈ Event.inOrder events,
      event.command ≠ "EVENT_LABEL_DEFINE" ∧ event.command ≠ "EVENT_LABEL_GOTO") :
    Movable (lowerEvents setting events) := by
  induction events using Outline.ofEvents.induct with
  | case1 =>
    rw [lowerEvents]
    exact movable_pure
  | case2 event rest disabled inductionHypothesis =>
    rw [Event.inOrder_disabled rest disabled] at unnamed
    rw [lowerEvents_disabled rest disabled]
    exact inductionHypothesis unnamed
  | case3 event rest enabled fault read _ =>
    rw [lowerEvents_enabled rest enabled, Event.lower_eq, read]
    exact movable_throw fault
  | case4 event rest enabled action read inductionHypothesis =>
    rw [Event.inOrder_act rest enabled read] at unnamed
    obtain ⟨defines, jumps⟩ := unnamed event List.mem_cons_self
    obtain ⟨noLabel, noTarget⟩ := Event.unnamed_of_act read defines jumps
    rw [lowerEvents_enabled rest enabled, Event.lower_eq, read]
    exact (action.movable setting noLabel noTarget).bind
      (inductionHypothesis fun other member => unnamed other (List.mem_cons_of_mem event member))
  | case5 event rest enabled condition read trueHypothesis falseHypothesis inductionHypothesis =>
    simp only [Event.inOrder_choose rest enabled read, List.mem_cons, List.mem_append] at unnamed
    rw [lowerEvents_enabled rest enabled, Event.lower_eq, read]
    have whenFalse := falseHypothesis fun other member => unnamed other (.inr (.inl (.inl member)))
    have whenTrue := trueHypothesis fun other member => unnamed other (.inr (.inl (.inr member)))
    exact (condition.movable setting whenTrue whenFalse).bind
      (inductionHypothesis fun other member => unnamed other (.inr (.inr member)))

/-- Two drafts of one depth have come equally far from themselves. -/
theorem Draft.Twin.refl {first second : Draft} (level : first.ledger.depth = second.ledger.depth)
    (firstGenerates : first.ledger.Generates 0) (secondGenerates : second.ledger.Generates 0) :
    Draft.Twin first second first second where
  ledgers := ⟨level, ⟨0, rfl, rfl⟩, firstGenerates, secondGenerates⟩
  added := ⟨[], [], by simp, by simp, .nil⟩

/-- The lines that two drafts have added are renumbered, and relabelled in writing. -/
theorem Draft.Twin.exists_written {first second left right : Draft}
    (twin : Draft.Twin first second left right) :
    ∃ lines renumbered, left.body = first.body ++ lines ∧ right.body = second.body ++ renumbered ∧
      List.Forall₂ (Line.Renumbered first.ledger.nextLabel second.ledger.nextLabel)
        lines renumbered ∧
      left.lines = first.lines ++ lines.map Line.render ∧
      right.lines = second.lines ++ renumbered.map Line.render ∧
      List.Forall₂ (Relabelled first.ledger.nextLabel second.ledger.nextLabel)
        (lines.map Line.render) (renumbered.map Line.render) := by
  obtain ⟨lines, renumbered, added, alsoAdded, moved⟩ := twin.added
  refine ⟨lines, renumbered, added, alsoAdded, moved, ?_, ?_, ?_⟩
  · rw [left.lines_eq, first.lines_eq, added, List.map_append]
  · rw [right.lines_eq, second.lines_eq, alsoAdded, List.map_append]
  · rw [List.forall₂_map_left_iff, List.forall₂_map_right_iff]
    exact moved.imp fun _ _ renumbered => renumbered.render

/-- Events that neither define a label nor jump to one are lowered alike on any two drafts that
callers can come to and that are equally deep. Both lowerings succeed or both fail with the same
fault, they take equally many numbers, and they add the same lines, with every generated label
counted from the number that came next. In writing the lines differ in the symbols of these labels
alone. -/
theorem lowering_relocates (setting : Setting) (events : List Event)
    (unnamed : ∀ event ∈ Event.inOrder events,
      event.command ≠ "EVENT_LABEL_DEFINE" ∧ event.command ≠ "EVENT_LABEL_GOTO")
    (workshop other : Workshop) (made : workshop.MadeOfCalls) (otherMade : other.MadeOfCalls)
    (first second : Draft) (reached : workshop.Reaches {} first)
    (otherReached : other.Reaches {} second)
    (level : first.ledger.depth = second.ledger.depth) :
    ∃ after moved,
      ((lowerEvents setting events first = .ok () after ∧
          lowerEvents setting events second = .ok () moved) ∨
        ∃ fault, lowerEvents setting events first = .error fault after ∧
          lowerEvents setting events second = .error fault moved) ∧
      (∃ taken, after.ledger.nextLabel = first.ledger.nextLabel + taken ∧
        moved.ledger.nextLabel = second.ledger.nextLabel + taken) ∧
      ∃ lines renumbered, after.body = first.body ++ lines ∧
        moved.body = second.body ++ renumbered ∧
        List.Forall₂ (Line.Renumbered first.ledger.nextLabel second.ledger.nextLabel)
          lines renumbered ∧
        after.lines = first.lines ++ lines.map Line.render ∧
        moved.lines = second.lines ++ renumbered.map Line.render ∧
        List.Forall₂ (Relabelled first.ledger.nextLabel second.ledger.nextLabel)
          (lines.map Line.render) (renumbered.map Line.render) := by
  have movable := movable_lowerEvents setting events unnamed
  have alike := movable.portable first second first second (.refl level
    ((reached.generates made).weaken (Nat.zero_le 1))
    ((otherReached.generates otherMade).weaken (Nat.zero_le 1)))
  generalize ran : lowerEvents setting events first = result at alike
  generalize ranOther : lowerEvents setting events second = otherResult at alike
  cases alike with
  | @ok after moved _ twin =>
    exact ⟨after, moved, .inl ⟨rfl, rfl⟩, twin.ledgers.taken, twin.exists_written⟩
  | @error after moved fault twin =>
    exact ⟨after, moved, .inr ⟨fault, rfl, rfl⟩, twin.ledgers.taken, twin.exists_written⟩

/-- A choice whose arm for false holds another choice. -/
def choiceEvents : List Event :=
  [{ command := "EVENT_IF_TRUE", args := [("variable", .text "0")],
     children := [("true", [{ command := "EVENT_END" }]),
       ("false", [{ command := "EVENT_IF_TRUE", args := [("variable", .text "1")],
                    children := [("true",
                      [{ command := "EVENT_TEXT", args := [("text", .text "1$")] }])] }])] }]

/-- A caller that writes a choice, jumps ahead and pushes a word. -/
def prefaceSteps : List Step :=
  [.choose (.isTrue "9") .empty .empty, .act (.goto "x"), .push 1]

/-- After one pushed word the choice takes the labels from number 1 on, and after the preface those
from number 3 on. The text that looks like a label stays as it is. -/
theorem choice_relocates :
    ∃ first second after moved, first.ledger.depth = 1 ∧ second.ledger.depth = 1 ∧
      first.ledger.nextLabel = 1 ∧ second.ledger.nextLabel = 3 ∧
      lowerEvents {} choiceEvents first = .ok () after ∧
      lowerEvents {} choiceEvents second = .ok () moved ∧
      ∃ lines renumbered, after.body = first.body ++ lines ∧
        moved.body = second.body ++ renumbered ∧
        List.Forall₂ (Line.Renumbered 1 3) lines renumbered ∧
        after.lines = first.lines ++ lines.map Line.render ∧
        moved.lines = second.lines ++ renumbered.map Line.render ∧
        List.Forall₂ (Relabelled 1 3) (lines.map Line.render) (renumbered.map Line.render) := by
  have made := ({} : Setting).workshop_madeOfCalls {}
  have unnamed : ∀ event ∈ Event.inOrder choiceEvents,
      event.command ≠ "EVENT_LABEL_DEFINE" ∧ event.command ≠ "EVENT_LABEL_GOTO" := by
    have commands : (Event.inOrder choiceEvents).map (·.command) =
        ["EVENT_IF_TRUE", "EVENT_IF_TRUE", "EVENT_TEXT", "EVENT_END"] := by cbv
    intro event member
    have named : event.command ∈ (Event.inOrder choiceEvents).map (·.command) :=
      List.mem_map_of_mem member
    rw [commands] at named
    constructor
    · rintro same
      simp [same] at named
    · rintro same
      simp [same] at named
  have pushed : ((Step.push 1).run (({} : Setting).workshop {})).leaves {} =
      { ledger := { depth := 1 } } := by cbv
  obtain ⟨entries, prefaced⟩ : ∃ entries,
      ((Step.attempt prefaceSteps).run (({} : Setting).workshop {})).leaves {} =
        { ledger := { depth := 1, nextLabel := 3, defined := [("1", 0), ("2", 0)],
                      pending := [("x", 0)] }, entries := entries } := ⟨_, by cbv⟩
  obtain ⟨done, succeeded⟩ : ∃ done,
      lowerEvents {} choiceEvents { ledger := { depth := 1 } } = .ok () done := ⟨_, by cbv⟩
  have reached : (({} : Setting).workshop {}).Reaches {} _ := .call (.push 1) .start
  have otherReached : (({} : Setting).workshop {}).Reaches {} _ :=
    .call (.attempt prefaceSteps) .start
  rw [pushed] at reached
  rw [prefaced] at otherReached
  obtain ⟨after, moved, ended, _, relocated⟩ :=
    lowering_relocates {} choiceEvents unnamed _ _ made made _ _ reached otherReached rfl
  rcases ended with ⟨ran, alsoRan⟩ | ⟨fault, failed, _⟩
  · exact ⟨_, _, after, moved, rfl, rfl, rfl, rfl, ran, alsoRan, relocated⟩
  · rw [succeeded] at failed
    cases failed

end EventScript
