import EventScript.Event.Command

/-!
# Lowering of events

An event tree becomes lines. The events of a list are lowered in order, disabled ones are passed
over with all below them, and an event with two arms takes them from its children named `true` and
`false`; its other children, and all children of other events, are never looked at.
-/
namespace EventScript

mutual

/-- What one event writes. Its arguments are read before the first line. -/
def Event.lower (setting : Setting) : Event → Writing Unit
  | event@⟨_, _, _, children, _⟩ => do
    let arms := lowerChildren setting children
    match ← Writing.answer event.read with
    | .act action => action.write setting
    | .choose condition =>
      condition.write setting ((arms.lookup "true").getD (pure ()))
        ((arms.lookup "false").getD (pure ()))

/-- What a list of events writes, up to the first fault. -/
def lowerEvents (setting : Setting) : List Event → Writing Unit
  | [] => pure ()
  | event :: rest => do
    unless event.disabled do event.lower setting
    lowerEvents setting rest

/-- The lists of children, each as what it would write. -/
def lowerChildren (setting : Setting) :
    List (String × List Event) → List (String × Writing Unit)
  | [] => []
  | (key, events) :: rest => (key, lowerEvents setting events) :: lowerChildren setting rest

end

/-- Looking a list of children up and lowering it may be done in either order. -/
theorem lookup_lowerChildren (setting : Setting) (key : String)
    (children : List (String × List Event)) :
    (lowerChildren setting children).lookup key =
      (children.lookup key).map (lowerEvents setting) := by
  induction children with
  | nil => rfl
  | cons child rest ih =>
    obtain ⟨name, events⟩ := child
    rw [lowerChildren, List.lookup_cons, List.lookup_cons, ih]
    cases key == name <;> rfl

/-- An event lowers its arms as it would lower them as lists of their own. -/
theorem Event.lower_eq (setting : Setting) (event : Event) :
    event.lower setting = (do
      match ← Writing.answer event.read with
      | .act action => action.write setting
      | .choose condition =>
        condition.write setting (lowerEvents setting (event.childrenOf "true"))
          (lowerEvents setting (event.childrenOf "false"))) := by
  have arm (key : String) : ((lowerChildren setting event.children).lookup key).getD (pure ()) =
      lowerEvents setting (event.childrenOf key) := by
    rw [lookup_lowerChildren, Event.childrenOf]
    cases event.children.lookup key <;> rfl
  obtain ⟨id, command, args, children, disabled⟩ := event
  rw [Event.lower, arm, arm]

end EventScript
