import EventScript.Event.Lowering
import EventScript.Proofs.Ledger

/-!
# Outlines of event trees

An outline is what is left of a tree of events once every argument is read: disabled events are
gone, a conditional holds its two arms, and an event that cannot be read stands as its fault.
Lowering depends on a tree only through its outline, so what holds of all outlines holds of all
trees. An outline is one chain of demands with arms hanging off it, which makes induction over
trees an induction over three smaller outlines.
-/
namespace EventScript

/-- What a list of events asks for, in the order of the list. -/
inductive Outline where
  | done
  | act (action : Action) (rest : Outline)
  | choose (condition : Condition) (onTrue onFalse rest : Outline)
  /-- An event whose arguments do not fit its command. -/
  | refuse (fault : Fault) (rest : Outline)
deriving DecidableEq, Repr

/-- The events under a name take up less room than their event. -/
theorem Event.sizeOf_childrenOf_lt (event : Event) (key : String) :
    sizeOf (event.childrenOf key) < sizeOf event := by
  obtain ⟨id, command, args, children, disabled⟩ := event
  have inside : sizeOf ((children.lookup key).getD []) < 1 + sizeOf children := by
    cases found : children.lookup key with
    | none =>
      have positive : 0 < sizeOf children := by cases children <;> simp
      simpa using positive
    | some events =>
      obtain ⟨before, after, split, _⟩ := List.lookup_eq_some_iff.mp found
      have member : (key, events) ∈ children := by simp [split]
      have smaller : sizeOf (key, events) < sizeOf children := List.sizeOf_lt_of_mem member
      simp only [Prod.mk.sizeOf_spec] at smaller
      simp only [Option.getD_some]
      omega
  simp only [Event.childrenOf, Event.mk.sizeOf_spec]
  omega

namespace Outline

/-- The outline of a list of events. Children are looked at where a conditional has them as arms,
and nowhere else. -/
def ofEvents : List Event → Outline
  | [] => done
  | event :: rest =>
    if event.disabled then ofEvents rest
    else
      match event.read with
      | .error fault => refuse fault (ofEvents rest)
      | .ok (.act action) => act action (ofEvents rest)
      | .ok (.choose condition) =>
        choose condition (ofEvents (event.childrenOf "true")) (ofEvents (event.childrenOf "false"))
          (ofEvents rest)
termination_by events => sizeOf events
decreasing_by
  all_goals simp only [List.cons.sizeOf_spec]
  all_goals try omega
  all_goals
    have first := event.sizeOf_childrenOf_lt "true"
    have second := event.sizeOf_childrenOf_lt "false"
    omega

/-- A disabled event leaves no mark on an outline. -/
theorem ofEvents_disabled {event : Event} (rest : List Event) (disabled : event.disabled = true) :
    ofEvents (event :: rest) = ofEvents rest := by
  rw [ofEvents, if_pos disabled]

/-- An event that cannot be read stands in an outline as its fault. -/
theorem ofEvents_refuse {event : Event} {fault : Fault} (rest : List Event)
    (enabled : ¬event.disabled = true) (read : event.read = .error fault) :
    ofEvents (event :: rest) = refuse fault (ofEvents rest) := by
  rw [ofEvents, if_neg enabled, read]

/-- An event that does one thing stands in an outline as its action. -/
theorem ofEvents_act {event : Event} {action : Action} (rest : List Event)
    (enabled : ¬event.disabled = true) (read : event.read = .ok (.act action)) :
    ofEvents (event :: rest) = act action (ofEvents rest) := by
  rw [ofEvents, if_neg enabled, read]

/-- A conditional stands in an outline with its two arms. -/
theorem ofEvents_choose {event : Event} {condition : Condition} (rest : List Event)
    (enabled : ¬event.disabled = true) (read : event.read = .ok (.choose condition)) :
    ofEvents (event :: rest) =
      choose condition (ofEvents (event.childrenOf "true")) (ofEvents (event.childrenOf "false"))
        (ofEvents rest) := by
  rw [ofEvents, if_neg enabled, read]

/-- What an outline writes, up to the first fault. -/
def write (setting : Setting) : Outline → Writing Unit
  | done => pure ()
  | act action rest => do
    action.write setting
    rest.write setting
  | choose condition onTrue onFalse rest => do
    condition.write setting (onTrue.write setting) (onFalse.write setting)
    rest.write setting
  | refuse fault _ => throw fault

end Outline

/-- A disabled event is not lowered. -/
theorem lowerEvents_disabled {setting : Setting} {event : Event} (rest : List Event)
    (disabled : event.disabled = true) :
    lowerEvents setting (event :: rest) = lowerEvents setting rest := by
  rw [lowerEvents, disabled]
  rfl

/-- An enabled event is lowered before the rest of its list. -/
theorem lowerEvents_enabled {setting : Setting} {event : Event} (rest : List Event)
    (enabled : ¬event.disabled = true) :
    lowerEvents setting (event :: rest) = (do
      event.lower setting
      lowerEvents setting rest) := by
  rw [lowerEvents, Bool.eq_false_iff.mpr enabled]
  rfl

/-- A list of events is lowered to what its outline writes. -/
theorem lowerEvents_eq_write (setting : Setting) (events : List Event) :
    lowerEvents setting events = (Outline.ofEvents events).write setting := by
  induction events using Outline.ofEvents.induct with
  | case1 =>
    rw [lowerEvents, Outline.ofEvents]
    rfl
  | case2 event rest disabled inductionHypothesis =>
    rw [lowerEvents_disabled rest disabled, Outline.ofEvents_disabled rest disabled,
      inductionHypothesis]
  | case3 event rest enabled fault read _ =>
    rw [lowerEvents_enabled rest enabled, Outline.ofEvents_refuse rest enabled read,
      Event.lower_eq, read]
    rfl
  | case4 event rest enabled action read inductionHypothesis =>
    rw [lowerEvents_enabled rest enabled, Outline.ofEvents_act rest enabled read,
      Event.lower_eq, read, inductionHypothesis]
    rfl
  | case5 event rest enabled condition read trueHypothesis falseHypothesis inductionHypothesis =>
    rw [lowerEvents_enabled rest enabled, Outline.ofEvents_choose rest enabled read,
      Event.lower_eq, read, inductionHypothesis, trueHypothesis, falseHypothesis]
    rfl

end EventScript
