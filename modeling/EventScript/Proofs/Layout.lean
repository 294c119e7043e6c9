import EventScript.Proofs.Printing

/-!
# How scripts are laid out

Lowering lays events out in order: an action as the lines that it writes by itself, and a
conditional as a test, the arm for false, a jump over the arm for true, and the arm for true between
the two labels of the conditional. The layout says nothing of the ledger. It holds of every list of
events that is lowered without a fault, whatever labels the conditionals are given. Which labels
they are given is told by the number that comes next when the lowering begins: a conditional takes
two numbers, then its arm for false takes its own, then its arm for true, then what comes after it.
-/
namespace EventScript

open Assembly (Comparison Line)

namespace Condition

/-- The lines before the test of a conditional. -/
def opening : Condition → List Line
  | isTrue _ => [.comment "If Variable True"]
  | compare _ _ _ => [.comment "If Variable Compare"]
  | operand _ _ _ => []

/-- The test of a conditional, which jumps when it holds. -/
def test : Condition → String → Line
  | isTrue variableName, target => .branch .greater ("VAR_VARIABLE_" ++ variableName) 0 target
  | compare variableName comparison value, target =>
    .branch comparison ("VAR_VARIABLE_" ++ variableName) value target
  | operand symbol comparison value, target => .branch comparison symbol value target

/-- The lines behind the second label of a conditional. -/
def closing : Condition → List Line
  | operand _ _ _ => []
  | _ => [.blank]

/-- A conditional with its two labels and its arms, the one for false first. -/
def frame (condition : Condition) (chosen join : String) (whenFalse whenTrue : List Line) :
    List Line :=
  condition.opening ++ condition.test chosen :: (whenFalse ++
    .jump join :: .label chosen :: (whenTrue ++ .label join :: condition.closing))

/-- A conditional with what comes after it, in one row. -/
theorem frame_append (condition : Condition) (chosen join : String)
    (whenFalse whenTrue after : List Line) :
    condition.frame chosen join whenFalse whenTrue ++ after =
      condition.opening ++ condition.test chosen :: (whenFalse ++ .jump join :: .label chosen ::
        (whenTrue ++ .label join :: (condition.closing ++ after))) := by
  simp [frame]

/-- A label in a conditional is one of its own or stands in one of its arms. -/
theorem label_mem_frame {condition : Condition} {name chosen join : String}
    {whenFalse whenTrue : List Line}
    (member : .label name ∈ condition.frame chosen join whenFalse whenTrue) :
    .label name ∈ whenFalse ∨ name = chosen ∨ .label name ∈ whenTrue ∨ name = join := by
  have opened : .label name ∉ condition.opening := by cases condition <;> simp [opening]
  have tested : .label name ≠ condition.test chosen := by cases condition <;> simp [test]
  have closed : .label name ∉ condition.closing := by cases condition <;> simp [closing]
  simpa [frame, opened, tested, closed] using member

end Condition

namespace Action

/-- What accepted actions keep to. Their labels are not reserved, only those that have to do with
labels or with the end of the script write lines that do, and all of them write something. -/
structure Sound (setting : Setting) (action : Action) : Prop where
  allowed : ∀ name, action = .label name ∨ action = .goto name → isReserved name = false
  straight : action.isPlain = true → ∀ line ∈ action.lines setting, line.isStraight = true
  writes : action.lines setting ≠ []

end Action

/-- A list of events laid out as lines. The labels of conditionals are reserved, and those of events
are not. -/
inductive Lays (setting : Setting) : List Event → List Line → Prop where
  | nil : Lays setting [] []
  | skip {event : Event} {events : List Event} {lines : List Line}
    (disabled : event.disabled = true) (rest : Lays setting events lines) :
    Lays setting (event :: events) lines
  | act {event : Event} {action : Action} {events : List Event} {lines : List Line}
    (enabled : ¬event.disabled = true) (read : event.read = .ok (.act action))
    (sound : action.Sound setting)
    (rest : Lays setting events lines) :
    Lays setting (event :: events) (action.lines setting ++ lines)
  | choose {event : Event} {condition : Condition} {events : List Event} {chosen join : String}
    {whenFalse whenTrue lines : List Line} (enabled : ¬event.disabled = true)
    (read : event.read = .ok (.choose condition)) (chosenOwn : isReserved chosen = true)
    (joinOwn : isReserved join = true)
    (onFalse : Lays setting (event.childrenOf "false") whenFalse)
    (onTrue : Lays setting (event.childrenOf "true") whenTrue) (rest : Lays setting events lines) :
    Lays setting (event :: events) (condition.frame chosen join whenFalse whenTrue ++ lines)

/-- A list of events laid out as lines, on a draft whose next generated label has the first number,
with the number that is next behind the lines. -/
inductive Numbered (setting : Setting) : Nat → List Event → List Line → Nat → Prop where
  | nil (number : Nat) : Numbered setting number [] [] number
  | skip {event : Event} {events : List Event} {lines : List Line} {number last : Nat}
    (disabled : event.disabled = true) (rest : Numbered setting number events lines last) :
    Numbered setting number (event :: events) lines last
  | act {event : Event} {action : Action} {events : List Event} {lines : List Line}
    {number last : Nat} (enabled : ¬event.disabled = true) (read : event.read = .ok (.act action))
    (sound : action.Sound setting) (rest : Numbered setting number events lines last) :
    Numbered setting number (event :: events) (action.lines setting ++ lines) last
  | choose {event : Event} {condition : Condition} {events : List Event}
    {whenFalse whenTrue lines : List Line} {number middle behind last : Nat}
    (enabled : ¬event.disabled = true) (read : event.read = .ok (.choose condition))
    (onFalse : Numbered setting (number + 2) (event.childrenOf "false") whenFalse middle)
    (onTrue : Numbered setting middle (event.childrenOf "true") whenTrue behind)
    (rest : Numbered setting behind events lines last) :
    Numbered setting number (event :: events)
      (condition.frame (toString number) (toString (number + 1)) whenFalse whenTrue ++ lines) last

/-- The labels of conditionals are reserved, whatever their numbers are. -/
theorem Numbered.lays {setting : Setting} {events : List Event} {lines : List Line}
    {number last : Nat} (numbered : Numbered setting number events lines last) :
    Lays setting events lines := by
  induction numbered with
  | nil number => exact .nil
  | skip disabled _ inductionHypothesis => exact .skip disabled inductionHypothesis
  | act enabled read sound _ inductionHypothesis =>
    exact .act enabled read sound inductionHypothesis
  | choose enabled read _ _ _ falseHypothesis trueHypothesis inductionHypothesis =>
    exact .choose enabled read (isReserved_toString _) (isReserved_toString _) falseHypothesis
      trueHypothesis inductionHypothesis

open Writing

namespace Writing

variable {α β : Type}

/-- On a level draft, a writing that succeeds leaves the draft level and adds lines of some shape.
-/
def Appends (writing : Writing α) (shape : List Line → Prop) : Prop :=
  ∀ before value after, before.ledger.depth = 0 → writing before = .ok value after →
    after.ledger.depth = 0 ∧ ∃ lines, after.body = before.body ++ lines ∧ shape lines

/-- On a level draft whose next generated label has the given number, a writing that succeeds leaves
the draft level and adds lines of some shape, which may depend on the number that is next then. -/
def AppendsFrom (number : Nat) (writing : Writing α) (shape : List Line → Nat → Prop) : Prop :=
  ∀ before value after, before.ledger.depth = 0 → before.ledger.nextLabel = number →
    writing before = .ok value after → after.ledger.depth = 0 ∧
      ∃ lines, after.body = before.body ++ lines ∧ shape lines after.ledger.nextLabel

variable {number : Nat} {shape : List Line → Nat → Prop}

/-- A wider shape is easier to have. -/
theorem AppendsFrom.weaken {writing : Writing α} {narrow : List Line → Nat → Prop}
    (appends : AppendsFrom number writing narrow)
    (implied : ∀ lines last, narrow lines last → shape lines last) :
    AppendsFrom number writing shape := by
  intro before value after level next succeeded
  obtain ⟨levelAfter, lines, added, shaped⟩ := appends before value after level next succeeded
  exact ⟨levelAfter, lines, added, implied lines _ shaped⟩

/-- Writings in a row add their lines in a row, each from the number that the one before it leaves.
-/
theorem AppendsFrom.bind {first : Writing α} {second : α → Writing β}
    {start : List Line → Nat → Prop} (starts : AppendsFrom number first start)
    (next : ∀ value lines reached, start lines reached →
      AppendsFrom reached (second value) fun more => shape (lines ++ more)) :
    AppendsFrom number (first >>= second) shape := by
  intro before value after level same succeeded
  obtain ⟨given, middle, ran, later⟩ := run_bind_eq_ok_iff.mp succeeded
  obtain ⟨levelMiddle, lines, written, started⟩ := starts before given middle level same ran
  obtain ⟨levelAfter, more, added, shaped⟩ :=
    next given lines _ started middle value after levelMiddle rfl later
  refine ⟨levelAfter, lines ++ more, ?_, shaped⟩
  rw [added, written, List.append_assoc]

/-- A writing that only answers adds no line and takes no number. -/
theorem appendsFrom_still {writing : Writing α} (holds : shape [] number)
    (still : ∀ before value after, writing before = .ok value after → after = before) :
    AppendsFrom number writing shape := by
  intro before value after level next succeeded
  obtain rfl := still before value after succeeded
  exact ⟨level, [], by simp, next ▸ holds⟩

/-- A writing that adds just some lines and takes no number. -/
def AppendsOnly (writing : Writing α) (lines : List Line) : Prop :=
  ∀ number, AppendsFrom number writing fun added last => added = lines ∧ last = number

/-- Behind a writing that adds just some lines, these lines come first. -/
theorem AppendsOnly.bind {first : Writing α} {second : α → Writing β} {lines : List Line}
    (starts : AppendsOnly first lines)
    (next : ∀ value, AppendsFrom number (second value) fun more => shape (lines ++ more)) :
    AppendsFrom number (first >>= second) shape := by
  refine (starts number).bind fun value added reached started => ?_
  obtain ⟨rfl, rfl⟩ := started
  exact next value

/-- Demanding a depth adds no line. -/
theorem appendsOnly_expectDepth (site : String) (expected : Nat) :
    AppendsOnly (expectDepth site expected) [] := fun _ =>
  appendsFrom_still ⟨rfl, rfl⟩ fun _ _ _ succeeded => (expectDepth_eq_ok_iff.mp succeeded).2.symm

/-- What is printed is added. -/
theorem Prints.appendsOnly {writing : Writing α} {lines : List Line}
    (prints : Prints writing lines) : AppendsOnly writing lines := by
  intro number before value after level next succeeded
  obtain ⟨other, reached, ran, kept, added⟩ := prints.runs before level
  obtain ⟨-, rfl⟩ : other = value ∧ reached = after := by simpa [ran] using succeeded
  exact ⟨kept ▸ level, lines, added, rfl, kept ▸ next⟩

/-- A command adds its comment and a blank line around what its body adds. -/
theorem AppendsFrom.command {title : String} {body : Writing Unit}
    (inside : AppendsFrom number body fun lines =>
      shape (.comment title :: (lines ++ [.blank]))) :
    AppendsFrom number (command title body) shape := by
  intro before value after level next succeeded
  obtain ⟨given, same, ran, rest⟩ := run_bind_eq_ok_iff.mp succeeded
  obtain ⟨rfl, rfl⟩ : before.ledger.depth = given ∧ before = same := by simpa using ran
  obtain ⟨_, titled, ran, rest⟩ := run_bind_eq_ok_iff.mp rest
  obtain rfl : before.write (.comment title) = titled := by simpa using ran
  obtain ⟨_, filled, ran, rest⟩ := run_bind_eq_ok_iff.mp rest
  obtain ⟨levelFilled, lines, added, shaped⟩ :=
    inside (before.write (.comment title)) _ _ level next ran
  obtain ⟨_, checked, ran, rest⟩ := run_bind_eq_ok_iff.mp rest
  obtain ⟨-, rfl⟩ := expectDepth_eq_ok_iff.mp ran
  obtain rfl : filled.write .blank = after := by simpa using rest
  refine ⟨levelFilled, _, ?_, shaped⟩
  simp [added]

/-- A line that jumps is added where the ledger accepts the jump. -/
theorem appendsOnly_jumpLine (name : String) (line : Line) :
    AppendsOnly (do onLedger (Ledger.jump name); Writing.line line) [line] := by
  intro number before value after level next succeeded
  obtain ⟨_, _, _, refused⟩ | ⟨_, kept⟩ | ⟨_, awaited⟩ := Ledger.jump_cases before.ledger name
  · simp [refused] at succeeded
  · obtain rfl : before.write line = after := by simpa [kept] using succeeded
    exact ⟨level, [line], by simp, rfl, next⟩
  · obtain rfl : (before.withLedger (before.ledger.await name)).write line = after := by
      simpa [awaited] using succeeded
    exact ⟨level, [line], by simp, rfl, next⟩

/-- A label is added where the ledger accepts it. -/
theorem appendsOnly_label (name : String) : AppendsOnly (label name) [.label name] := by
  intro number before value after level next succeeded
  obtain ⟨_, _, refused⟩ | ⟨_, _, _, _, refused⟩ | ⟨_, _, entered⟩ :=
    Ledger.define_cases before.ledger name
  · simp [label, refused] at succeeded
  · simp [label, refused] at succeeded
  · obtain rfl : (before.withLedger (before.ledger.enter name)).write (.label name) = after := by
      simpa [label, entered] using succeeded
    exact ⟨level, [.label name], by simp, rfl, next⟩

/-- The lines of a conditional between its test and its second label, both included. -/
def armLines (test : Line) (chosen join : String) (whenFalse whenTrue : List Line) : List Line :=
  test :: (whenFalse ++ .jump join :: .label chosen :: (whenTrue ++ [.label join]))

variable {trueShape falseShape : Nat → List Line → Nat → Prop} {onTrue onFalse : Writing Unit}

/-- The arms of a conditional are added between its labels, and the arm for false is numbered before
the arm for true. -/
theorem appendsFrom_arms (comparison : Comparison) (operand : String) (value : Int)
    (chosen join : String) (before : Nat)
    (whenTrue : ∀ number, AppendsFrom number onTrue (trueShape number))
    (whenFalse : ∀ number, AppendsFrom number onFalse (falseShape number)) :
    AppendsFrom number (arms comparison operand value chosen join before onTrue onFalse)
      fun lines last => ∃ falseLines trueLines middle,
        falseShape number falseLines middle ∧ trueShape middle trueLines last ∧
        lines = armLines (.branch comparison operand value chosen) chosen join falseLines
          trueLines := by
  refine (appendsOnly_jumpLine chosen _).bind fun _ => ?_
  refine (whenFalse number).bind fun _ falseLines middle lowered => ?_
  refine (appendsOnly_expectDepth _ _).bind fun _ => ?_
  refine (appendsOnly_jumpLine join _).bind fun _ => ?_
  refine (appendsOnly_label chosen).bind fun _ => ?_
  refine (whenTrue middle).bind fun _ trueLines behind raised => ?_
  refine (appendsOnly_expectDepth _ _).bind fun _ => ?_
  refine (appendsOnly_label join behind).weaken fun lines last joined => ?_
  obtain ⟨rfl, rfl⟩ := joined
  refine ⟨falseLines, trueLines, middle, lowered, raised, ?_⟩
  simp [armLines]

/-- A conditional takes two numbers for its labels and adds its arms between them. -/
theorem appendsFrom_conditional (comparison : Comparison) (operand : String) (value : Int)
    (whenTrue : ∀ number, AppendsFrom number onTrue (trueShape number))
    (whenFalse : ∀ number, AppendsFrom number onFalse (falseShape number)) :
    AppendsFrom number (conditional comparison operand value onTrue onFalse)
      fun lines last => ∃ falseLines trueLines middle,
        falseShape (number + 2) falseLines middle ∧ trueShape middle trueLines last ∧
        lines = armLines (.branch comparison operand value (toString number)) (toString number)
          (toString (number + 1)) falseLines trueLines := by
  intro before given after level next succeeded
  rw [run_conditional, next] at succeeded
  refine appendsFrom_arms comparison operand value (toString number) (toString (number + 1))
    before.ledger.depth whenTrue whenFalse (before.withLedger before.ledger.take.take) given after
    level ?_ succeeded
  exact congrArg (· + 2) next

/-- A label of the script is no reserved one, where it is accepted. -/
theorem allowed_of_ok {name : String} {writing : Writing Unit} {before after : Draft}
    (succeeded : (do answer (checkLabel name); writing) before = .ok () after) :
    isReserved name = false ∧ writing before = .ok () after := by
  cases reserved : isReserved name with
  | true => simp [checkLabel_of_reserved reserved] at succeeded
  | false => simpa [checkLabel_of_allowed reserved] using succeeded

end Writing

namespace Action

variable {setting : Setting}

/-- The lines of an event that sets the actor, of which an actor that is not found leaves the
comment. -/
theorem lines_setActive (actor : String) :
    (setActive actor).lines setting = match setting.slot actor with
      | .ok slot => setLines 0 slot
      | .error _ => [.comment "Actor Set Active"] := by
  cases found : setting.slot actor with
  | error fault =>
    simp [lines, leaves, write, Writing.setActive, Writing.command, found, Draft.body, Draft.write]
  | ok slot =>
    obtain ⟨after, ran, written⟩ := run_setActive found {}
    rw [lines, leaves_of_ok ran, written]
    rfl

/-- The lines of a move, of which a tile out of reach leaves none. -/
theorem lines_moveTo (x y : Int) (collide : Bool) (kind : MoveKind) :
    (moveTo x y collide kind).lines setting = match tilePlace "x" x, tilePlace "y" y with
      | .ok across, .ok along => moveLines 0 across along collide kind
      | _, _ => [] := by
  cases right : tilePlace "x" x with
  | error fault => simp [lines, leaves, write, Writing.moveTo, right, Draft.body]
  | ok across =>
    cases down : tilePlace "y" y with
    | error fault => simp [lines, leaves, write, Writing.moveTo, right, down, Draft.body]
    | ok along =>
      obtain ⟨after, ran, written⟩ := run_moveTo right down setting collide kind {}
      rw [lines, leaves_of_ok ran, written]
      rfl

/-- The line of a label that an event defines. -/
theorem lines_label {name : String} (allowed : isReserved name = false) :
    (label name).lines setting = [.label name] := by
  simp [lines, leaves, write, labelHere_of_allowed allowed, Writing.label, Ledger.define,
    Draft.body]

/-- The line of a jump of an event. -/
theorem lines_goto {name : String} (allowed : isReserved name = false) :
    (goto name).lines setting = [.jump name] := by
  simp [lines, leaves, write, goto_of_allowed allowed, jump, Ledger.jump, Ledger.commitment,
    Draft.body]

/-- The lines of an event that ends the script. -/
theorem lines_stop : stop.lines setting = [.comment "Stop Script", .stop] := rfl

/-- The only label among the lines of a sound action is the one that it defines. -/
theorem Sound.eq_label {action : Action} {name : String} (sound : action.Sound setting)
    (member : .label name ∈ action.lines setting) : action = .label name := by
  cases action with
  | label other =>
    rw [lines_label (sound.allowed other (Or.inl rfl)), List.mem_singleton] at member
    rw [Line.label.inj member]
  | goto other =>
    rw [lines_goto (sound.allowed other (Or.inr rfl)), List.mem_singleton] at member
    cases member
  | stop =>
    rw [lines_stop] at member
    simp at member
  | _ => cases sound.straight rfl _ member

/-- An action that succeeds adds its lines, takes no number and is sound. -/
theorem appendsFrom (action : Action) (number : Nat) :
    AppendsFrom number (action.write setting) fun lines last =>
      lines = action.lines setting ∧ action.Sound setting ∧ last = number := by
  intro before value after level next succeeded
  cases action with
  | label name =>
    obtain ⟨allowed, put⟩ := allowed_of_ok succeeded
    obtain ⟨levelAfter, lines, added, rfl, same⟩ :=
      appendsOnly_label name number before value after level next put
    have sound : (label name).Sound setting :=
      ⟨by simpa using allowed, by simp [isPlain], by simp [lines_label allowed]⟩
    exact ⟨levelAfter, _, added, (lines_label allowed).symm, sound, same⟩
  | goto name =>
    obtain ⟨allowed, jumped⟩ := allowed_of_ok succeeded
    obtain ⟨levelAfter, lines, added, rfl, same⟩ :=
      appendsOnly_jumpLine name (.jump name) number before value after level next jumped
    have sound : (goto name).Sound setting :=
      ⟨by simpa using allowed, by simp [isPlain], by simp [lines_goto allowed]⟩
    exact ⟨levelAfter, _, added, (lines_goto allowed).symm, sound, same⟩
  | stop =>
    obtain rfl : (before.write (.comment "Stop Script")).write .stop = after := by
      simpa [write, Writing.stop] using succeeded
    have sound : stop.Sound setting := ⟨by simp, by simp [isPlain], by simp [lines_stop]⟩
    exact ⟨level, _, by simp, lines_stop.symm, sound, next⟩
  | _ =>
    obtain ⟨writes, printed⟩ := prints rfl succeeded
    obtain ⟨levelAfter, lines, added, rfl, same⟩ :=
      printed.appendsOnly number before value after level next succeeded
    exact ⟨levelAfter, _, added, rfl, ⟨by simp, fun _ => printed.straight, writes⟩, same⟩

end Action

/-- A variable that is found has its symbol. -/
theorem Setting.symbol_eq {setting : Setting} {variableName symbol : String}
    (found : setting.symbol variableName = .ok symbol) :
    symbol = "VAR_VARIABLE_" ++ variableName := by
  unfold Setting.symbol at found
  split at found
  · exact (Except.ok.inj found).symm
  · cases found

/-- A conditional that succeeds adds its frame, with its arms between the labels of the next two
numbers. -/
theorem Condition.appendsFrom {setting : Setting} (condition : Condition) (number : Nat)
    {onTrue onFalse : Writing Unit} {trueShape falseShape : Nat → List Line → Nat → Prop}
    (whenTrue : ∀ number, AppendsFrom number onTrue (trueShape number))
    (whenFalse : ∀ number, AppendsFrom number onFalse (falseShape number)) :
    AppendsFrom number (condition.write setting onTrue onFalse) fun lines last =>
      ∃ falseLines trueLines middle,
        falseShape (number + 2) falseLines middle ∧ trueShape middle trueLines last ∧
        lines = condition.frame (toString number) (toString (number + 1)) falseLines
          trueLines := by
  have asked : ∀ variableName comparison value, AppendsFrom number (do
      let symbol ← answer (setting.symbol variableName)
      conditional comparison symbol value onTrue onFalse) fun lines last =>
        ∃ falseLines trueLines middle,
          falseShape (number + 2) falseLines middle ∧ trueShape middle trueLines last ∧
          lines = armLines
            (.branch comparison ("VAR_VARIABLE_" ++ variableName) value (toString number))
            (toString number) (toString (number + 1)) falseLines trueLines := by
    intro variableName comparison value
    cases found : setting.symbol variableName with
    | error fault =>
      intro before given after level next succeeded
      cases succeeded
    | ok symbol =>
      obtain rfl := Setting.symbol_eq found
      exact appendsFrom_conditional comparison _ value whenTrue whenFalse
  cases condition with
  | isTrue variableName =>
    refine .command ((asked variableName .greater 0).weaken ?_)
    rintro _ last ⟨falseLines, trueLines, middle, lowered, raised, rfl⟩
    exact ⟨falseLines, trueLines, middle, lowered, raised,
      by simp [frame, opening, closing, test, armLines]⟩
  | compare variableName comparison value =>
    refine .command ((asked variableName comparison value).weaken ?_)
    rintro _ last ⟨falseLines, trueLines, middle, lowered, raised, rfl⟩
    exact ⟨falseLines, trueLines, middle, lowered, raised,
      by simp [frame, opening, closing, test, armLines]⟩
  | operand symbol comparison value =>
    apply (appendsFrom_conditional comparison symbol value whenTrue whenFalse).weaken
    rintro _ last ⟨falseLines, trueLines, middle, lowered, raised, rfl⟩
    exact ⟨falseLines, trueLines, middle, lowered, raised,
      by simp [frame, opening, closing, test, armLines]⟩

/-- Every list of events that is lowered on a level draft is laid out there, numbered from the
number that comes next. -/
theorem appendsFrom_lowerEvents (setting : Setting) (events : List Event) (number : Nat) :
    AppendsFrom number (lowerEvents setting events) (Numbered setting number events) := by
  induction events using Outline.ofEvents.induct generalizing number with
  | case1 =>
    rw [lowerEvents]
    exact appendsFrom_still (.nil number) fun _ _ _ succeeded => by cases succeeded; rfl
  | case2 event rest disabled inductionHypothesis =>
    rw [lowerEvents_disabled rest disabled]
    exact (inductionHypothesis number).weaken fun _ _ => .skip disabled
  | case3 event rest enabled fault read _ =>
    rw [lowerEvents_enabled rest enabled, Event.lower_eq, read]
    intro before value after level next succeeded
    cases succeeded
  | case4 event rest enabled action read inductionHypothesis =>
    rw [lowerEvents_enabled rest enabled, Event.lower_eq, read]
    refine (action.appendsFrom number).bind fun _ lines reached written => ?_
    obtain ⟨rfl, sound, rfl⟩ := written
    exact (inductionHypothesis reached).weaken fun _ _ => .act enabled read sound
  | case5 event rest enabled condition read trueHypothesis falseHypothesis inductionHypothesis =>
    rw [lowerEvents_enabled rest enabled, Event.lower_eq, read]
    refine (condition.appendsFrom number trueHypothesis falseHypothesis).bind
      fun _ lines behind written => ?_
    obtain ⟨_, _, middle, onFalse, onTrue, rfl⟩ := written
    exact (inductionHypothesis behind).weaken fun _ _ => .choose enabled read onFalse onTrue

/-- Every list of events that is lowered on a level draft is laid out there. -/
theorem appends_lowerEvents (setting : Setting) (events : List Event) :
    Appends (lowerEvents setting events) (Lays setting events) := by
  intro before value after level succeeded
  obtain ⟨levelAfter, lines, added, numbered⟩ :=
    appendsFrom_lowerEvents setting events _ before value after level rfl succeeded
  exact ⟨levelAfter, lines, added, numbered.lays⟩

end EventScript
