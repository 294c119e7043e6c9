import EventScript.Proofs.Outline
import EventScript.Proofs.Writing

/-!
# Properties that pass on to what is put together

Commands, conditionals and lists of events are put together from few small steps, one after the
other. A property of writings that these steps have, and that two writings in a row have where each
of them does, passes on to all of them. So the way in which a conditional is put together is gone
through once, here, and a property is told by its steps.
-/
namespace EventScript.Writing

open Assembly (Comparison)

/-- A property that the steps of commands and conditionals have, and that passes on to writings in a
row. -/
structure Composes (holds : {α : Type} → Writing α → Prop) : Prop where
  bind : ∀ {α β : Type} {first : Writing α} {second : α → Writing β}, holds first →
    (∀ value, holds (second value)) → holds (first >>= second)
  depth : holds depth
  expectDepth : ∀ site expected, holds (expectDepth site expected)
  comment : ∀ title, holds (line (.comment title))
  blank : holds (line .blank)
  symbol : ∀ (setting : Setting) variableName, holds (answer (setting.symbol variableName))
  freshLabel : holds (onLedger Ledger.freshLabel)
  branch : ∀ comparison operand value target, holds (branch comparison operand value target)
  jump : ∀ name, holds (jump name)
  label : ∀ name, holds (label name)

namespace Composes

variable {holds : {α : Type} → Writing α → Prop} (composes : Composes holds)

include composes

/-- A command has the property where its body does. -/
theorem command (title : String) {body : Writing Unit} (inside : holds body) :
    holds (Writing.command title body) := by
  apply composes.bind composes.depth
  intro before
  apply composes.bind (composes.comment title)
  intro _
  apply composes.bind inside
  intro _
  exact composes.bind (composes.expectDepth title before) fun _ => composes.blank

/-- A conditional has the property where its arms do. -/
theorem conditional (comparison : Comparison) (operand : String) (value : Int)
    {onTrue onFalse : Writing Unit} (whenTrue : holds onTrue) (whenFalse : holds onFalse) :
    holds (Writing.conditional comparison operand value onTrue onFalse) := by
  rw [conditional_eq]
  apply composes.bind composes.freshLabel
  intro chosen
  apply composes.bind composes.freshLabel
  intro join
  apply composes.bind composes.depth
  intro before
  apply composes.bind (composes.branch comparison operand value chosen)
  intro _
  apply composes.bind whenFalse
  intro _
  apply composes.bind (composes.expectDepth (Ledger.symbol chosen) before)
  intro _
  apply composes.bind (composes.jump join)
  intro _
  apply composes.bind (composes.label chosen)
  intro _
  apply composes.bind whenTrue
  intro _
  exact composes.bind (composes.expectDepth (Ledger.symbol join) before) fun _ =>
    composes.label join

/-- A conditional of any kind has the property where its arms do. -/
theorem condition (setting : Setting) (condition : Condition) {onTrue onFalse : Writing Unit}
    (whenTrue : holds onTrue) (whenFalse : holds onFalse) :
    holds (condition.write setting onTrue onFalse) := by
  cases condition with
  | isTrue variableName =>
    apply composes.command
    apply composes.bind (composes.symbol setting variableName)
    intro symbol
    exact composes.conditional .greater symbol 0 whenTrue whenFalse
  | compare variableName comparison value =>
    apply composes.command
    apply composes.bind (composes.symbol setting variableName)
    intro symbol
    exact composes.conditional comparison symbol value whenTrue whenFalse
  | operand symbol comparison value =>
    exact composes.conditional comparison symbol value whenTrue whenFalse

/-- A list of events is lowered with the property where all actions, and refusals, have it. The
induction is over the outline of the list: its demands and the arms that hang off it. -/
theorem lowerEvents (setting : Setting) (nothing : holds (pure () : Writing Unit))
    (acts : ∀ action : Action, holds (action.write setting))
    (refuses : ∀ fault, holds (throw fault : Writing Unit)) (events : List Event) :
    holds (EventScript.lowerEvents setting events) := by
  rw [lowerEvents_eq_write]
  induction Outline.ofEvents events with
  | done => exact nothing
  | act action rest inductionHypothesis =>
    exact composes.bind (acts action) fun _ => inductionHypothesis
  | choose condition onTrue onFalse rest whenTrue whenFalse inductionHypothesis =>
    apply composes.bind (composes.condition setting condition whenTrue whenFalse)
    intro _
    exact inductionHypothesis
  | refuse fault rest => exact refuses fault

end Composes

end EventScript.Writing
