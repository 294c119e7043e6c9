import EventScript.Proofs.Acceptance
import EventScript.Proofs.Entries
import EventScript.Proofs.Layout

/-!
# Lines of scripts are clear

Every line that events write can be read back for what it is. The mnemonics of actions are not those
of jumps, tests and stops. What a test carries beside numbers is the symbol of a variable and a
generated label, which are words, since the scene knows the variable. Labels that a script names
itself may say anything, and so may its texts, but they stand where this does no harm.
-/
namespace EventScript

open Assembly (Line)

/-- Every line of an action is clear, whether the action succeeds or not. -/
theorem Action.all_isClear (setting : Setting) (action : Action) :
    (action.lines setting).all Line.isClear = true := by
  cases action with
  | setActive actor =>
    rw [lines_setActive]
    cases setting.slot actor <;> rfl
  | moveTo x y collide kind =>
    rw [lines_moveTo]
    cases tilePlace "x" x with
    | error fault => rfl
    | ok across =>
      cases tilePlace "y" y with
      | error fault => rfl
      | ok along => cases collide <;> cases kind <;> rfl
  | label name =>
    cases reserved : isReserved name with
    | true =>
      simp [lines, Writing.leaves, write, Writing.labelHere,
        Writing.checkLabel_of_reserved reserved, Draft.body]
    | false =>
      rw [lines_label reserved]
      rfl
  | goto name =>
    cases reserved : isReserved name with
    | true =>
      simp [lines, Writing.leaves, write, Writing.goto, Writing.checkLabel_of_reserved reserved,
        Draft.body]
    | false =>
      rw [lines_goto reserved]
      rfl
  | _ => rfl

/-- The symbol of a variable that a scene knows is tame, and it is a word. -/
theorem Setting.isWord_of_symbol {setting : Setting} {variableName : String}
    (found : faultOf? (setting.symbol variableName) = none) :
    isTame ("VAR_VARIABLE_" ++ variableName) = true ∧
      isWord ("VAR_VARIABLE_" ++ variableName) = true := by
  unfold Setting.symbol at found
  split at found
  case isFalse => cases found
  case isTrue known =>
    have symbolChars : ("VAR_VARIABLE_" ++ variableName).toList.all isVariableChar = true := by
      rw [String.toList_append, List.all_append, known.2.1]
      rfl
    refine ⟨isTame_of_all symbolChars rfl rfl, List.all_eq_true.mpr fun c member => ?_⟩
    have belongs : isVariableChar c = true := List.all_eq_true.mp symbolChars c member
    rw [Bool.and_eq_true, bne_iff_ne, bne_iff_ne]
    constructor <;> (rintro rfl; cases belongs)

/-- What an event without a fault asks for is a variable, so its test is clear. -/
theorem Event.isClear_test {event : Event} {condition : Condition} {setting : Setting}
    {known : List String} {target : String} (read : event.read = .ok (.choose condition))
    (faultless : event.fault? setting known = none) (targetOwn : isReserved target = true) :
    (condition.test target).isClear = true := by
  have judged : condition.fault? setting = none := by rwa [Event.fault?_of_choose read] at faultless
  have targetWord := isWord_of_isReserved targetOwn
  have clear : ∀ variableName comparison value, faultOf? (setting.symbol variableName) = none →
      (Line.branch comparison ("VAR_VARIABLE_" ++ variableName) value target).isClear = true := by
    intro variableName comparison value found
    obtain ⟨tame, word⟩ := Setting.isWord_of_symbol found
    simp [Line.isClear, Line.isTame, Line.isLegible, tame, word, targetWord]
  cases condition with
  | isTrue variableName => exact clear _ _ _ judged
  | compare variableName comparison value => exact clear _ _ _ judged
  | operand symbol comparison value => exact absurd read (event.read_ne_operand _ _ _)

namespace Condition

/-- The lines before the test of a conditional are clear. -/
theorem isClear_opening (condition : Condition) :
    ∀ line ∈ condition.opening, line.isClear = true := by
  cases condition <;> simp [opening] <;> rfl

/-- The lines behind the second label of a conditional are clear. -/
theorem isClear_closing (condition : Condition) :
    ∀ line ∈ condition.closing, line.isClear = true := by
  cases condition <;> simp [closing] <;> rfl

/-- The question that a condition is about. -/
def question : Condition → Question
  | isTrue variableName => ⟨.greater, "VAR_VARIABLE_" ++ variableName, 0⟩
  | compare variableName comparison value => ⟨comparison, "VAR_VARIABLE_" ++ variableName, value⟩
  | operand symbol comparison value => ⟨comparison, symbol, value⟩

/-- The test of a conditional puts its question. -/
theorem test_eq (condition : Condition) (target : String) :
    condition.test target = .branch condition.question.comparison condition.question.operand
      condition.question.value target := by
  cases condition <;> rfl

end Condition

/-- A conditional asks what it is read as. -/
theorem Event.question?_of_choose {event : Event} {condition : Condition}
    (read : event.read = .ok (.choose condition)) :
    event.question? = some condition.question := by
  rw [question?]
  cases asks_of_read read with
  | isTrue named given => simp [named, given, Condition.question]
  | compare named operator given comparator =>
    obtain ⟨name, word, comparison⟩ := Option.bind_eq_some_iff.mp operator
    simp [named, word, comparison, given, comparator, Condition.question]

/-- The lines of events without faults are clear. -/
theorem Lays.isClear {setting : Setting} {events : List Event} {lines : List Line}
    (laid : Lays setting events lines)
    (faultless : ∀ event ∈ Event.inOrder events, ∃ known, event.fault? setting known = none)
    {line : Line} (member : line ∈ lines) : line.isClear = true := by
  induction laid with
  | nil => cases member
  | skip disabled _ inductionHypothesis =>
    rw [Event.inOrder_disabled _ disabled] at faultless
    exact inductionHypothesis faultless member
  | @act event action events lines enabled read sound _ inductionHypothesis =>
    rw [Event.inOrder_act _ enabled read] at faultless
    rcases List.mem_append.mp member with own | later
    · exact List.all_eq_true.mp (action.all_isClear setting) line own
    · exact inductionHypothesis (fun other listed => faultless other (.tail _ listed)) later
  | @choose event condition events chosen join whenFalse whenTrue lines enabled read chosenOwn _ _ _
      _ falseHypothesis trueHypothesis inductionHypothesis =>
    simp only [Event.inOrder_choose _ enabled read, List.mem_cons, List.mem_append] at faultless
    obtain ⟨known, judged⟩ := faultless event (.inl rfl)
    simp only [Condition.frame, List.mem_append, List.mem_cons] at member
    rcases member with (first | rfl | inFalse | rfl | rfl | inTrue | rfl | last) | later
    · exact condition.isClear_opening line first
    · exact Event.isClear_test read judged chosenOwn
    · exact falseHypothesis
        (fun other listed => faultless other (.inr (.inl (.inl listed)))) inFalse
    · rfl
    · rfl
    · exact trueHypothesis
        (fun other listed => faultless other (.inr (.inl (.inr listed)))) inTrue
    · rfl
    · exact condition.isClear_closing line last
    · exact inductionHypothesis (fun other listed => faultless other (.inr (.inr listed))) later

/-- The lines of events that are lowered on an empty draft are clear. -/
theorem isClear_of_ok {setting : Setting} {events : List Event} {draft : Draft}
    (succeeded : lowerEvents setting events {} = .ok () draft) :
    ∀ line ∈ draft.body, line.isClear = true := by
  obtain ⟨faultless, -⟩ := faultless_of_ok succeeded
  obtain ⟨-, lines, written, laid⟩ := appends_lowerEvents setting events {} () draft rfl succeeded
  have all : draft.body = lines := written
  rw [all]
  exact fun line => laid.isClear fun event => Event.exists_fault?_eq_none faultless

end EventScript
