import EventScript.Proofs.Freshness

/-!
# A conditional fails only because of its arms

A conditional makes two jumps and two definitions of its own, and any arm may run between them. No
arm that is made of calls can touch the two labels, so none of the four is ever refused, whatever
faults an arm raises or goes on from. What is left are four ways to fail, two for each arm: the arm
fails, or it ends at another depth than the conditional began at. The arm for false comes first.
-/
namespace EventScript

open Assembly (Comparison)

/-- A label stands at a depth, and no jump waits for it. -/
structure Ledger.Settles (ledger : Ledger) (name : String) (depth : Nat) : Prop where
  stands : ledger.defined.lookup name = some depth
  unawaited : name ∉ ledger.unresolved

namespace Ledger

variable {ledger other : Ledger} {name : String} {depth : Nat}

/-- Where two ledgers agree about a label it is settled on both or on neither. -/
theorem Agrees.settles (agrees : ledger.Agrees name other) (settles : ledger.Settles name depth) :
    other.Settles name depth where
  stands := agrees.defined.trans settles.stands
  unawaited := by
    have unawaited := settles.unawaited
    rw [unresolved, ← lookup_isSome_iff] at unawaited ⊢
    rwa [agrees.pending]

/-- The definition of a label that does not stand settles it. -/
theorem settles_enter (absent : ledger.defined.lookup name = none) :
    (ledger.enter name).Settles name ledger.depth where
  stands := by simp [enter, lookup_concat, absent]
  unawaited := by simp [unresolved_enter]

end Ledger

namespace Workshop

/-- A writing that is made of calls: whatever it leaves of a draft, calls can come to from there. -/
def Allows (workshop : Workshop) (writing : Writing Unit) : Prop :=
  ∀ draft, workshop.Reaches draft (writing.leaves draft)

variable {workshop : Workshop} {start middle after : Draft}

/-- Calls go on from where calls have come to. -/
theorem Reaches.trans (reached : workshop.Reaches start middle)
    (further : workshop.Reaches middle after) : workshop.Reaches start after := by
  induction further with
  | start => exact reached
  | call step _ inductionHypothesis => exact .call step inductionHypothesis
  | onFalse condition onTrue _ entered inductionHypothesis =>
    exact .onFalse condition onTrue inductionHypothesis entered
  | onTrue condition onFalse _ entered inductionHypothesis =>
    exact .onTrue condition onFalse inductionHypothesis entered

/-- What is made of calls is charted, whatever is lowered by calls in the workshop. -/
theorem Allows.charted {writing : Writing Unit} (allowed : workshop.Allows writing)
    (made : workshop.MadeOfCalls) : Writing.Charted False writing :=
  fun draft => ((allowed draft).ownCourse made.lawful).followsFrom

/-- Steps in a row are made of calls. -/
theorem allows_runSteps (workshop : Workshop) (steps : List Step) :
    workshop.Allows (runSteps workshop steps) := by
  induction steps with
  | nil => exact fun _ => .start
  | cons step rest inductionHypothesis =>
    intro draft
    have called : workshop.Reaches draft ((step.run workshop).leaves draft) := .call step .start
    cases ran : step.run workshop draft with
    | error fault stopped =>
      rw [Writing.leaves_of_error ran] at called
      rwa [runSteps, Writing.leaves_bind_of_error ran]
    | ok answer middle =>
      rw [Writing.leaves_of_ok ran] at called
      rw [runSteps, Writing.leaves_bind_of_ok ran]
      exact called.trans (inductionHypothesis middle)

/-- What a step without an answer writes is made of calls. -/
theorem allows_of_silently {writing : Writing Unit} (step : Step)
    (runs : step.run workshop = silently writing) : workshop.Allows writing := by
  intro draft
  have called : workshop.Reaches draft ((step.run workshop).leaves draft) := .call step .start
  rwa [runs, leaves_silently] at called

/-- An action is a call. -/
theorem allows_action (workshop : Workshop) (action : Action) :
    workshop.Allows (action.write workshop.setting) :=
  allows_of_silently (.act action) (by rw [Step.run])

/-- A conditional is a call. -/
theorem allows_condition (workshop : Workshop) (condition : Condition) (onTrue onFalse : Arm) :
    workshop.Allows
      (condition.write workshop.setting (onTrue.run workshop) (onFalse.run workshop)) :=
  allows_of_silently (.choose condition onTrue onFalse) (by rw [Step.run])

/-- The arms that a caller can give to a conditional are made of calls. -/
theorem allows_arm (workshop : Workshop) (arm : Arm) : workshop.Allows (arm.run workshop) := by
  cases arm with
  | empty => exact fun _ => .start
  | events events => exact allows_of_silently (.events events) (by rw [Step.run, Arm.run])
  | block steps => exact workshop.allows_runSteps steps

end Workshop

namespace Writing

variable {onTrue onFalse : Writing Unit} {before : Nat} {chosen join : String}
  {tested after : Draft}

/-- How a conditional ends, as its arms have it. Each arm may fail or end at another depth than the
conditional began at, and the arm for true is given nothing where that for false has done so. -/
def outcome (before : Nat) (chosen join : String) (onTrue onFalse : Writing Unit)
    (tested : Draft) : EStateM.Result Fault Draft Unit :=
  match onFalse tested with
  | .error fault lowered => .error fault lowered
  | .ok _ lowered =>
    if lowered.ledger.depth ≠ before then
      .error (.stackImbalance (Ledger.symbol chosen) before lowered.ledger.depth) lowered
    else
      match onTrue (lowered.turn chosen join) with
      | .error fault raised => .error fault raised
      | .ok _ raised =>
        if raised.ledger.depth ≠ before then
          .error (.stackImbalance (Ledger.symbol join) before raised.ledger.depth) raised
        else .ok () (raised.meet join)

/-- A conditional whose jumps and definitions are accepted ends as its arms have it. -/
theorem bracket_eq_outcome (onTrue onFalse : Writing Unit) (tested : Draft) :
    bracket before chosen join onTrue onFalse tested =
      outcome before chosen join onTrue onFalse tested := by
  rw [bracket, outcome]
  cases ranFalse : onFalse tested with
  | error fault lowered => simp [ranFalse]
  | ok value lowered =>
    rw [run_bind_of_ok ranFalse]
    by_cases level : lowered.ledger.depth = before
    · cases ranTrue : onTrue (lowered.turn chosen join) with
      | error fault raised => simp [level, ranTrue]
      | ok value raised =>
        by_cases still : raised.ledger.depth = before <;> simp [level, ranTrue, still]
    · simp [level]

/-- A conditional succeeds where both arms succeed and keep the depth. -/
theorem outcome_eq_ok_iff :
    outcome before chosen join onTrue onFalse tested = .ok () after ↔
      ∃ lowered raised, onFalse tested = .ok () lowered ∧ lowered.ledger.depth = before ∧
        onTrue (lowered.turn chosen join) = .ok () raised ∧ raised.ledger.depth = before ∧
        raised.meet join = after := by
  rw [outcome]
  cases ranFalse : onFalse tested with
  | error fault lowered => simp
  | ok value lowered =>
    by_cases level : lowered.ledger.depth = before
    · cases ranTrue : onTrue (lowered.turn chosen join) with
      | error fault raised => simp [level, ranTrue]
      | ok value raised =>
        by_cases still : raised.ledger.depth = before <;> simp [level, ranTrue, still]
    · simp [level]

end Writing

open Writing in
/-- A conditional that is opened on a draft which calls have come to, with arms that are made of
calls, ends as its arms have it. Its own jumps and definitions are accepted wherever it comes to
them, and where it succeeds it has kept the depth and settled both of its labels there. -/
theorem conditional_ends_with_arms (workshop : Workshop) (made : workshop.MadeOfCalls)
    (draft : Draft) (reached : workshop.Reaches {} draft) (comparison : Comparison)
    (operand : String) (value : Int) (onTrue onFalse : Writing Unit)
    (whenTrue : workshop.Allows onTrue) (whenFalse : workshop.Allows onFalse) :
    let before := draft.ledger.depth
    let chosen := toString draft.ledger.nextLabel
    let join := toString (draft.ledger.nextLabel + 1)
    let tested := draft.test comparison operand value
    conditional comparison operand value onTrue onFalse draft =
        outcome before chosen join onTrue onFalse tested ∧
      Ledger.jump chosen draft.ledger.take.take = .ok () tested.ledger ∧
      (∀ lowered, onFalse tested = .ok () lowered → lowered.ledger.depth = before →
        ∃ jumped, Ledger.jump join lowered.ledger = .ok () jumped ∧
          Ledger.define chosen jumped = .ok () (lowered.turn chosen join).ledger ∧
          ∀ raised, onTrue (lowered.turn chosen join) = .ok () raised →
            raised.ledger.depth = before →
            Ledger.define join raised.ledger = .ok () (raised.meet join).ledger) ∧
      ∀ after, conditional comparison operand value onTrue onFalse draft = .ok () after →
        after.ledger.depth = before ∧ after.ledger.Settles chosen before ∧
          after.ledger.Settles join before := by
  intro before chosen join tested
  have generates : draft.ledger.Generates 0 := (reached.generates made).weaken (Nat.zero_le 1)
  have trueCharted := whenTrue.charted made
  have falseCharted := whenFalse.charted made
  have opens := opens_test comparison operand value generates
  have ends : conditional comparison operand value onTrue onFalse draft =
      outcome before chosen join onTrue onFalse tested := by
    rw [conditional_eq_bracket comparison operand value trueCharted falseCharted draft generates,
      bracket_eq_outcome]
  have opened : ∀ lowered, onFalse tested = .ok () lowered → lowered.ledger.depth = before →
      lowered.ledger.Opens draft.ledger.nextLabel (draft.ledger.nextLabel + 1)
        lowered.ledger.depth := by
    intro lowered ranFalse level
    rw [level]
    exact falseCharted.opens ranFalse (opens_test comparison operand value generates)
  refine ⟨ends, jump_test comparison operand value generates, ?_, ?_⟩
  · intro lowered ranFalse level
    have opens := opened lowered ranFalse level
    refine ⟨_, opens.jump_join, opens.define_chosen, fun raised ranTrue levelTrue => ?_⟩
    apply Ledger.define_of_awaits
    rw [levelTrue, ← level]
    exact (trueCharted.agrees ranTrue opens.joinTaken).awaits opens.awaits_join
  · intro after succeeded
    obtain ⟨lowered, raised, ranFalse, level, ranTrue, levelTrue, rfl⟩ :=
      outcome_eq_ok_iff.mp (ends.symm.trans succeeded)
    have opens := opened lowered ranFalse level
    have turned : (lowered.turn chosen join).ledger.Settles chosen before :=
      level ▸ Ledger.settles_enter opens.awaits.absent
    have awaited := (trueCharted.agrees ranTrue opens.joinTaken).awaits opens.awaits_join
    have chosenKept := (trueCharted.agrees ranTrue opens.chosenTaken).settles turned
    refine ⟨levelTrue, ?_, ?_⟩
    · exact (Ledger.agrees_enter opens.distinct.symm).settles chosenKept
    · exact levelTrue ▸ Ledger.settles_enter awaited.absent

/-- An arm that goes on after a pop that is refused, takes a number, and opens a conditional of its
own with a jump in it. -/
def restlessArm : Arm :=
  .block [.attempt [.push 1, .act (.label "x"), .pop 5], .pop 1, .freshLabel,
    .choose (.operand "VAR_VARIABLE_1" .less 0) (.block [.act (.goto "y")]) .empty]

/-- A conditional with such an arm for false, on a draft that calls have brought to depth one,
succeeds and settles its labels, which are the first two numbers. -/
theorem restless_conditional_settles :
    ∃ draft after, (({} : Setting).workshop {}).Reaches {} draft ∧ draft.ledger.depth = 1 ∧
      Writing.conditional .equal "VAR_VARIABLE_0" 3 (Arm.empty.run (({} : Setting).workshop {}))
        (restlessArm.run (({} : Setting).workshop {})) draft = .ok () after ∧
      after.ledger.depth = 1 ∧ after.ledger.Settles "1" 1 ∧ after.ledger.Settles "2" 1 := by
  obtain ⟨after, succeeded⟩ : ∃ after,
      Writing.conditional .equal "VAR_VARIABLE_0" 3 (Arm.empty.run (({} : Setting).workshop {}))
        (restlessArm.run (({} : Setting).workshop {}))
        (((Step.attempt detourSteps).run (({} : Setting).workshop {})).leaves {}) =
          .ok () after := ⟨_, by cbv⟩
  have reached : (({} : Setting).workshop {}).Reaches {} _ := .call (.attempt detourSteps) .start
  obtain ⟨_, _, _, settles⟩ := conditional_ends_with_arms _
    (({} : Setting).workshop_madeOfCalls {}) _ reached .equal "VAR_VARIABLE_0" 3 _ _
    (Workshop.allows_arm _ .empty) (Workshop.allows_arm _ restlessArm)
  exact ⟨_, after, reached, by rfl, succeeded, settles after succeeded⟩

end EventScript
