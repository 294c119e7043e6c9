import EventScript.Procedure
import EventScript.Proofs.Course

/-!
# Every writing takes a course

Actions, conditionals, lists of events and procedures take their drafts along courses, by one law
for each way of putting writings together. A conditional is charted for whatever runs in its arms,
as long as the arms are charted: its two labels have numbers that no arm has seen.
-/
namespace EventScript

open Assembly (Comparison Line Operand)

namespace Writing

variable {α β : Type} {calm : Prop} {base : Nat} {draft : Draft}

/-- Charted writings in a row are charted. -/
theorem Charted.bind {first : Writing α} {second : α → Writing β} (start : Charted calm first)
    (next : ∀ value, Charted calm (second value)) : Charted calm (first >>= second) := by
  intro draft
  refine (start draft).bind fun value middle _ risen => ?_
  exact (next value middle).weaken risen id

/-- What is charted as calm is charted without being called so. -/
theorem Charted.weaken {calmer : Prop} {writing : Writing α} (charted : Charted calmer writing)
    (implied : calm → calmer) : Charted calm writing :=
  fun draft => (charted draft).weaken (Nat.le_refl _) implied

/-- A writing that only answers is charted. -/
theorem Charted.still {writing : Writing α} (unchanged : ∀ draft, writing.leaves draft = draft) :
    Charted calm writing := fun draft => .still (unchanged draft)

/-- Giving a value is charted. -/
theorem charted_pure (value : α) : Charted calm (pure value : Writing α) := .still fun _ => rfl

/-- Failing is charted. -/
theorem charted_throw (fault : Fault) : Charted calm (throw fault : Writing α) :=
  .still fun _ => rfl

/-- Reading the depth is charted. -/
theorem charted_depth : Charted calm depth := .still fun _ => rfl

/-- What is answered without a draft is charted. -/
theorem charted_answer (result : Except Fault α) : Charted calm (answer result) := by
  refine .still fun draft => ?_
  cases result <;> rfl

/-- Demanding a depth is charted. -/
theorem charted_expectDepth (site : String) (expected : Nat) :
    Charted calm (expectDepth site expected) := by
  refine .still fun draft => ?_
  by_cases met : draft.ledger.depth = expected <;> simp [leaves, met]

/-- A line that neither jumps nor labels nor addresses the local actor is charted. -/
theorem charted_line (line : Line) (noTarget : line.target? = none) (noLabel : line.label? = none)
    (noActor : line.addressesActor = false) : Charted calm (Writing.line line) := by
  intro draft
  refine .single (.write line) (.plain draft line noTarget noLabel noActor) ?_ (by simp)
  simp [Deed.label?, noTarget, noLabel]

/-- An instruction without a field of the local actor is charted. -/
theorem charted_emit (mnemonic : String) (operands : List Operand)
    (noActor : operands.any Operand.isActor = false) : Charted calm (emit mnemonic operands) :=
  charted_line _ rfl rfl noActor

/-- An instruction that asks for a field of the local actor and uses it is charted. The mark on the
draft and the line that deserves it come together. -/
theorem charted_address (field : Nat) (mnemonic : String) (operands : List Operand) :
    Charted calm (address field mnemonic operands) := by
  intro draft
  refine .single (.write (.instruction mnemonic (.actor field draft.ledger.depth :: operands)))
    (.address draft _ rfl rfl rfl) ?_ (by simp)
  simp [Deed.label?, Line.label?, Line.target?]

/-- Pushing words is charted. -/
theorem charted_push (words : Nat) : Charted calm (onLedger (Ledger.push words)) := by
  intro draft
  exact .single (.push words) (.push draft words) (by simp [Deed.label?]) (by simp)

/-- Popping words is charted. -/
theorem charted_pop (words : Nat) : Charted calm (onLedger (Ledger.pop words)) := by
  intro draft
  obtain ⟨_, short⟩ | ⟨held, popped⟩ := Ledger.pop_cases draft.ledger words
  · exact .still (by simp [leaves, short])
  · have moved : Deed.Moves (.pop words) draft ((onLedger (Ledger.pop words)).leaves draft) := by
      simpa [leaves, popped] using Deed.Moves.pop draft words held
    exact .single (.pop words) moved (by simp [Deed.label?]) (by simp)

/-- Taking a number is charted. -/
theorem charted_freshLabel : Charted calm (onLedger Ledger.freshLabel) := by
  intro draft
  exact .single .number (.number draft) (by simp [Deed.label?]) (by simp)

/-- Putting a known label follows a course. Only where its definition is refused does the ledger
move without a line. -/
theorem follows_label {name : String} (known : draft.ledger.Knows name)
    (own : ∀ number < base, name ≠ toString number) :
    FollowsFrom calm base (label name) draft := by
  have ownName : ∀ other, some name = some other → ∀ number < base, other ≠ toString number := by
    rintro other ⟨⟩
    exact own
  obtain ⟨_, _, duplicate⟩ | ⟨absent, expected, awaited, elsewhere, refused⟩ |
      ⟨absent, agreed, entered⟩ := Ledger.define_cases draft.ledger name
  · exact .still (by simp [leaves, label, duplicate])
  · have moved : Deed.Moves (.refuse name) draft ((label name).leaves draft) := by
      simpa [leaves, label, refused] using
        Deed.Moves.refuse draft name expected absent awaited elsewhere
    exact .single (.refuse name) moved ownName (by simp [label, refused])
  · have moved : Deed.Moves (.write (.label name)) draft ((label name).leaves draft) := by
      simpa [leaves, label, entered] using Deed.Moves.label draft name known absent agreed
    exact .single (.write (.label name)) moved ownName (by simp)

/-- Writing a line that jumps to a known label, where the ledger lets it, follows a course. -/
theorem follows_jump (line : Line) {name : String} (target : line.target? = some name)
    (known : draft.ledger.Knows name) (own : ∀ number < base, name ≠ toString number) :
    FollowsFrom calm base (do onLedger (Ledger.jump name); Writing.line line) draft := by
  have noLabel : line.label? = none := by cases line <;> first | rfl | cases target
  have ownName : ∀ other, Deed.label? (.write line) = some other →
      ∀ number < base, other ≠ toString number := by
    intro other about
    rw [Deed.label?, noLabel, target] at about
    obtain rfl : name = other := by simpa using about
    exact own
  obtain ⟨_, _, _, refused⟩ | ⟨committed, kept⟩ | ⟨free, awaited⟩ :=
    Ledger.jump_cases draft.ledger name
  · exact .still (by simp [leaves, refused])
  · refine .single (.write line) ?_ ownName (by simp)
    simpa [leaves, kept] using Deed.Moves.jump draft line name target committed
  · refine .single (.write line) ?_ ownName (by simp)
    simpa [leaves, awaited] using
      Deed.Moves.jumpAhead draft line name target known free

/-- A label that a script may name itself is no generated label. -/
theorem ne_toString {name : String} (allowed : ¬isReserved name = true) (number : Nat) :
    name ≠ toString number := fun same => allowed (same ▸ isReserved_toString number)

/-- Putting a label that the script names is charted. -/
theorem charted_labelHere (name : String) : Charted calm (labelHere name) := by
  cases reserved : isReserved name with
  | true => exact .still fun _ => by simp [leaves, labelHere, checkLabel_of_reserved reserved]
  | false =>
    have known : ∀ ledger : Ledger, ledger.Knows name := by simp [Ledger.Knows, reserved]
    intro draft
    rw [labelHere_of_allowed reserved]
    exact follows_label (known draft.ledger) fun number _ => ne_toString (by simp [reserved]) number

/-- Jumping to a label that the script names is charted. -/
theorem charted_goto (name : String) : Charted calm (Writing.goto name) := by
  cases reserved : isReserved name with
  | true => exact .still fun _ => by simp [leaves, Writing.goto, checkLabel_of_reserved reserved]
  | false =>
    have known : ∀ ledger : Ledger, ledger.Knows name := by simp [Ledger.Knows, reserved]
    intro draft
    rw [goto_of_allowed reserved]
    exact follows_jump (.jump name) rfl (known draft.ledger) fun number _ =>
      ne_toString (by simp [reserved]) number

/-- A command is charted when its body is. -/
theorem Charted.command (title : String) {body : Writing Unit} (inside : Charted calm body) :
    Charted calm (command title body) := by
  refine charted_depth.bind fun before => ?_
  refine (charted_line _ rfl rfl rfl).bind fun _ => ?_
  refine inside.bind fun _ => ?_
  refine (charted_expectDepth title before).bind fun _ => ?_
  exact charted_line _ rfl rfl rfl

/-- A generated label is no generated label of a lower number. -/
theorem toString_ne_of_lt {base number : Nat} (least : base ≤ number) :
    ∀ lower < base, toString number ≠ toString lower := by
  intro lower less same
  have equal : number = lower := toString_injective same
  omega

/-- A generated label is known once its number is taken. -/
theorem knows_toString {ledger : Ledger} {number : Nat} (taken : number < ledger.nextLabel) :
    ledger.Knows (toString number) := fun _ => ⟨number, taken, rfl⟩

/-- The arms of a conditional follow a course when they are charted and its two labels are taken.
What runs in an arm knows only numbers that are taken later. -/
theorem follows_arms (comparison : Comparison) (operand : String) (value : Int) (before : Nat)
    {chosen join : Nat} {onTrue onFalse : Writing Unit} (whenTrue : Charted calm onTrue)
    (whenFalse : Charted calm onFalse) (chosenOwn : base ≤ chosen) (joinOwn : base ≤ join)
    (chosenTaken : chosen < draft.ledger.nextLabel) (joinTaken : join < draft.ledger.nextLabel) :
    FollowsFrom calm base
      (arms comparison operand value (toString chosen) (toString join) before onTrue onFalse)
      draft := by
  refine (follows_jump (.branch comparison operand value (toString chosen)) rfl
    (knows_toString chosenTaken) (toString_ne_of_lt chosenOwn)).bind fun _ tested _ rise => ?_
  refine ((whenFalse tested).weaken (by omega) id).bind fun _ lowered _ further => ?_
  refine (charted_expectDepth _ _ lowered |>.weaken (by omega) id).bind fun _ same _ still => ?_
  refine (follows_jump (.jump (toString join)) rfl (knows_toString (by omega))
    (toString_ne_of_lt joinOwn)).bind fun _ jumped _ more => ?_
  refine (follows_label (knows_toString (by omega)) (toString_ne_of_lt chosenOwn)).bind
    fun _ labelled _ onward => ?_
  refine ((whenTrue labelled).weaken (by omega) id).bind fun _ raised _ higher => ?_
  refine (charted_expectDepth _ _ raised |>.weaken (by omega) id).bind fun _ met _ level => ?_
  exact follows_label (knows_toString (by omega)) (toString_ne_of_lt joinOwn)

/-- A conditional is charted when its arms are: it takes the two numbers that come next. -/
theorem Charted.conditional (comparison : Comparison) (operand : String) (value : Int)
    {onTrue onFalse : Writing Unit} (whenTrue : Charted calm onTrue)
    (whenFalse : Charted calm onFalse) :
    Charted calm (conditional comparison operand value onTrue onFalse) := by
  intro draft
  rw [conditional_eq]
  refine (charted_freshLabel draft).bind fun chosen taken took _ => ?_
  obtain ⟨rfl, rfl⟩ : toString draft.ledger.nextLabel = chosen ∧
      draft.withLedger draft.ledger.take = taken := by simpa using took
  refine (charted_freshLabel _ |>.weaken (by simp) id).bind fun join both took _ => ?_
  obtain ⟨rfl, rfl⟩ : toString (draft.ledger.nextLabel + 1) = join ∧
      draft.withLedger draft.ledger.take.take = both := by simpa using took
  refine (FollowsFrom.still rfl).bind fun before same found _ => ?_
  obtain ⟨rfl, rfl⟩ : draft.ledger.depth = before ∧
      draft.withLedger draft.ledger.take.take = same := by simpa using found
  exact follows_arms comparison operand value _ whenTrue whenFalse (Nat.le_refl _) (Nat.le_succ _)
    (by simp) (by simp)

/-- Going on after a fault leaves what the fault leaves. -/
theorem leaves_attempt (writing : Writing Unit) (draft : Draft) :
    (attempt writing).leaves draft = writing.leaves draft := by
  cases ran : writing draft <;> simp [leaves, attempt, ran]

/-- Going on after a fault takes the course that led to the fault. It is charted, but not as calm.
-/
theorem charted_attempt {writing : Writing Unit} (charted : Charted False writing) :
    Charted False (attempt writing) := by
  intro draft
  obtain ⟨deeds, course, own, _⟩ := charted draft
  exact ⟨deeds, leaves_attempt writing draft ▸ course, own, False.elim⟩

end Writing

open Writing

variable {calm : Prop}

/-- Every action is charted. -/
theorem Action.charted (setting : Setting) (action : Action) :
    Charted calm (action.write setting) := by
  cases action with
  | setActive actor =>
    exact .command _ ((charted_answer _).bind fun slot => charted_address 0 _ [.number slot])
  | moveTo x y collide kind =>
    rw [Action.write, moveTo_eq]
    refine (charted_answer _).bind fun right => (charted_answer _).bind fun down => .command _ ?_
    refine (charted_address 1 _ [.number right]).bind fun _ => ?_
    refine (charted_address 2 _ [.number down]).bind fun _ => ?_
    refine (charted_address 3 _ [_]).bind fun _ => ?_
    exact charted_address 0 _ []
  | wait frames =>
    refine .command _ ((charted_emit _ _ rfl).bind fun _ => (charted_push 1).bind fun _ => ?_)
    exact (charted_emit _ _ rfl).bind fun _ => charted_pop 1
  | say text =>
    refine .command _ ((charted_emit _ _ rfl).bind fun _ => ?_)
    refine (charted_line _ rfl rfl rfl).bind fun _ => ?_
    refine (charted_emit _ _ rfl).bind fun _ => (charted_emit _ _ rfl).bind fun _ => ?_
    refine (charted_emit _ _ rfl).bind fun _ => (charted_emit _ _ rfl).bind fun _ => ?_
    exact (charted_emit _ _ rfl).bind fun _ => charted_emit _ _ rfl
  | debug text => exact (charted_emit _ _ rfl).bind fun _ => charted_line _ rfl rfl rfl
  | label name => exact charted_labelHere name
  | goto name => exact charted_goto name
  | stop => exact (charted_line _ rfl rfl rfl).bind fun _ => charted_line _ rfl rfl rfl

/-- A conditional of any kind is charted when its arms are. -/
theorem Condition.charted (setting : Setting) (condition : Condition)
    {onTrue onFalse : Writing Unit} (whenTrue : Charted calm onTrue)
    (whenFalse : Charted calm onFalse) :
    Charted calm (condition.write setting onTrue onFalse) := by
  cases condition with
  | isTrue variableName =>
    refine .command _ ((charted_answer _).bind fun symbol => ?_)
    exact .conditional _ _ _ whenTrue whenFalse
  | compare variableName comparison value =>
    refine .command _ ((charted_answer _).bind fun symbol => ?_)
    exact .conditional _ _ _ whenTrue whenFalse
  | operand symbol comparison value => exact .conditional _ _ _ whenTrue whenFalse

/-- Every outline is charted, by induction over its demands and its arms. -/
theorem Outline.charted (setting : Setting) (outline : Outline) :
    Charted calm (outline.write setting) := by
  induction outline with
  | done => exact charted_pure ()
  | act action rest inductionHypothesis =>
    exact (action.charted setting).bind fun _ => inductionHypothesis
  | choose condition onTrue onFalse rest whenTrue whenFalse inductionHypothesis =>
    exact (condition.charted setting whenTrue whenFalse).bind fun _ => inductionHypothesis
  | refuse fault rest => exact charted_throw fault

/-- Every list of events is charted. -/
theorem charted_lowerEvents (setting : Setting) (events : List Event) :
    Charted calm (lowerEvents setting events) := by
  rw [lowerEvents_eq_write]
  exact Outline.charted setting _

mutual

/-- Whether a step goes on after no fault. -/
def Step.isCalm : Step → Bool
  | .attempt _ => false
  | .choose _ onTrue onFalse => onTrue.isCalm && onFalse.isCalm
  | _ => true

/-- Whether an arm goes on after no fault. -/
def Arm.isCalm : Arm → Bool
  | .block steps => areCalm steps
  | _ => true

/-- Whether none of the steps goes on after a fault. -/
def areCalm : List Step → Bool
  | [] => true
  | step :: rest => step.isCalm && areCalm rest

end

/-- Whatever a workshop lowers events to is charted. -/
def Workshop.Lawful (calm : Prop) (workshop : Workshop) : Prop :=
  ∀ lowering, workshop.lowering = some lowering → ∀ events, Charted calm (lowering events)

/-- The workshop of a setting, which lowers events as documents have them lowered. -/
def Setting.workshop (setting : Setting) (options : Options) : Workshop :=
  { setting := setting, options := options, lowering := some (lowerEvents setting) }

/-- The workshop of a setting is lawful and calm. -/
theorem Setting.workshop_lawful (setting : Setting) (options : Options) :
    (setting.workshop options).Lawful calm := by
  rintro lowering ⟨⟩ events
  exact charted_lowerEvents setting events

/-- A workshop lowers the empty list to nothing, and other lists as it is told to, if it is. -/
theorem Workshop.lower_cases (workshop : Workshop) (events : List Event) :
    workshop.lower events = pure () ∨ workshop.lower events = throw .noEventCompiler ∨
      ∃ lowering, workshop.lowering = some lowering ∧
        workshop.lower events = lowering events := by
  cases events with
  | nil => exact .inl rfl
  | cons event rest =>
    cases given : workshop.lowering with
    | none => exact .inr (.inl (by simp [Workshop.lower, given]))
    | some lowering => exact .inr (.inr ⟨lowering, rfl, by simp [Workshop.lower, given]⟩)

/-- A lawful workshop lowers lists of events along courses. -/
theorem Workshop.Lawful.lower {workshop : Workshop} (lawful : workshop.Lawful calm)
    (events : List Event) : Charted calm (workshop.lower events) := by
  obtain nothing | refused | ⟨lowering, given, lowered⟩ := workshop.lower_cases events
  · exact nothing ▸ charted_pure ()
  · exact refused ▸ charted_throw _
  · exact lowered ▸ lawful lowering given events

/-- Dropping the value of a writing changes nothing about what it leaves. -/
theorem leaves_silently (writing : Writing Unit) (draft : Draft) :
    (silently writing).leaves draft = writing.leaves draft := by
  cases ran : writing draft <;> simp [silently, leaves, ran]

/-- Dropping the value of a writing changes nothing about its course. -/
theorem charted_silently {writing : Writing Unit} (charted : Charted calm writing) :
    Charted calm (silently writing) := charted.bind fun _ => charted_pure _

mutual

/-- Every step is charted, and calm where it goes on after no fault. -/
theorem Step.charted {workshop : Workshop} (lawful : workshop.Lawful calm) (step : Step) :
    Charted (calm ∧ step.isCalm = true) (step.run workshop) := by
  cases step with
  | act action => exact charted_silently (action.charted _)
  | choose condition onTrue onFalse =>
    refine charted_silently (condition.charted _ ?_ ?_)
    · apply (onTrue.charted lawful).weaken
      rintro ⟨isCalm, both⟩
      exact ⟨isCalm, ((Bool.and_eq_true _ _).mp both).1⟩
    · apply (onFalse.charted lawful).weaken
      rintro ⟨isCalm, both⟩
      exact ⟨isCalm, ((Bool.and_eq_true _ _).mp both).2⟩
  | events events => exact charted_silently ((lawful.lower events).weaken And.left)
  | push words => exact charted_silently (charted_push words)
  | pop words => exact charted_silently (charted_pop words)
  | freshLabel => exact charted_freshLabel.bind fun _ => charted_pure _
  | emit mnemonic operands =>
    refine charted_silently (charted_emit _ _ ?_)
    simp [Operand.isActor]
  | comment text => exact charted_silently (charted_line _ rfl rfl rfl)
  | raw text => exact charted_silently (charted_line _ rfl rfl rfl)
  | blank => exact charted_silently (charted_line _ rfl rfl rfl)
  | literal text => exact charted_silently (charted_line _ rfl rfl rfl)
  | attempt steps =>
    have inside : Charted False (runSteps workshop steps) :=
      (charted_runSteps lawful steps).weaken False.elim
    have whole : Charted False ((Step.attempt steps).run workshop) := by
      refine (charted_attempt inside).bind fun result => ?_
      cases result <;> exact charted_pure _
    exact whole.weaken fun both => Bool.false_ne_true both.2
  | slot reference => exact (charted_answer _).bind fun _ => charted_pure _
  | symbol variableName => exact (charted_answer _).bind fun _ => charted_pure _
  | self => exact (charted_answer _).bind fun _ => charted_pure _
  | assemble name exported =>
    refine Charted.bind (.still fun _ => rfl) fun draft => ?_
    exact (charted_answer _).bind fun _ => charted_pure _

/-- Every arm is charted, and calm where it goes on after no fault. -/
theorem Arm.charted {workshop : Workshop} (lawful : workshop.Lawful calm) (arm : Arm) :
    Charted (calm ∧ arm.isCalm = true) (arm.run workshop) := by
  cases arm with
  | empty => exact charted_pure ()
  | events events => exact (lawful.lower events).weaken And.left
  | block steps => exact charted_runSteps lawful steps

/-- Every procedure is charted, and calm where it goes on after no fault. -/
theorem charted_runSteps {workshop : Workshop} (lawful : workshop.Lawful calm)
    (steps : List Step) : Charted (calm ∧ areCalm steps = true) (runSteps workshop steps) := by
  cases steps with
  | nil => exact charted_pure ()
  | cons step rest =>
    refine ((step.charted lawful).weaken ?_).bind fun _ =>
      (charted_runSteps lawful rest).weaken ?_
    · rintro ⟨isCalm, both⟩
      exact ⟨isCalm, ((Bool.and_eq_true _ _).mp both).1⟩
    · rintro ⟨isCalm, both⟩
      exact ⟨isCalm, ((Bool.and_eq_true _ _).mp both).2⟩

end

end EventScript
