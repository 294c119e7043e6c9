import EventScript.Proofs.Arms
import EventScript.Proofs.Balance

/-!
# Where lowering fails, an event is to blame

A conditional over events relays the faults of its arms and adds none of its own. So the fault that
ends the lowering of a tree is always that of one event by itself, met on a draft that calls can
come to and at the depth that lowering began at. It is none that only a procedure can meet, unless
the ledger refuses a label that the event names. One depth is left out of this, the greatest: there
a wait cannot count the word that it passes on, and does not find it again.
-/
namespace EventScript

open Assembly (Comparison)

namespace Writing

/-- Between arms that keep the depth, no demand of a conditional fails. -/
theorem outcome_eq_error_iff {onTrue onFalse : Writing Unit} (whenTrue : Balanced onTrue)
    (whenFalse : Balanced onFalse) {chosen join : String} {tested after : Draft} {fault : Fault}
    (room : tested.ledger.HasRoom) :
    outcome tested.ledger.depth chosen join onTrue onFalse tested = .error fault after ↔
      onFalse tested = .error fault after ∨ ∃ lowered, onFalse tested = .ok () lowered ∧
        onTrue (lowered.turn chosen join) = .error fault after := by
  rw [outcome]
  cases ranFalse : onFalse tested with
  | error other lowered => simp
  | ok value lowered =>
    have level : lowered.ledger.depth = tested.ledger.depth :=
      leaves_of_ok ranFalse ▸ whenFalse tested room
    cases ranTrue : onTrue (lowered.turn chosen join) with
    | error other raised => simp [level, ranTrue]
    | ok value raised =>
      have same : raised.ledger.depth = (lowered.turn chosen join).ledger.depth :=
        leaves_of_ok ranTrue ▸ whenTrue (lowered.turn chosen join) (room.of_level level)
      have still : raised.ledger.depth = tested.ledger.depth := same.trans level
      simp [level, ranTrue, still]

/-- A writing that can stand as an arm and make its conditional fail by its own faults alone. -/
structure Fitting (writing : Writing Unit) : Prop where
  charted : Charted False writing
  balanced : Balanced writing

/-- Failing at once is fitting. -/
theorem fitting_throw (fault : Fault) : Fitting (throw fault) :=
  ⟨charted_throw fault, fun _ _ => rfl⟩

/-- A conditional fails on a draft just as its arms do, if they are fitting. Both are given drafts
of the same depth. -/
def Relays (ask : Writing Unit → Writing Unit → Writing Unit) (draft : Draft) : Prop :=
  ∃ tested chosen join, tested.ledger.depth = draft.ledger.depth ∧
    ∀ onTrue onFalse, Fitting onTrue → Fitting onFalse → ∀ fault after,
      ask onTrue onFalse draft = .error fault after ↔
        onFalse tested = .error fault after ∨ ∃ lowered, onFalse tested = .ok () lowered ∧
          onTrue (lowered.turn chosen join) = .error fault after

/-- A conditional relays the faults of its arms and has none of its own. -/
theorem relays_conditional (comparison : Comparison) (operand : String) (value : Int)
    {draft : Draft} (generates : draft.ledger.Generates 0) (room : draft.ledger.HasRoom) :
    Relays (conditional comparison operand value) draft := by
  refine ⟨draft.test comparison operand value, toString draft.ledger.nextLabel,
    toString (draft.ledger.nextLabel + 1), rfl, ?_⟩
  intro onTrue onFalse whenTrue whenFalse fault after
  rw [conditional_eq_bracket comparison operand value whenTrue.charted whenFalse.charted draft
    generates, bracket_eq_outcome]
  exact outcome_eq_error_iff whenTrue.balanced whenFalse.balanced (room.of_level rfl)

/-- A conditional under a comment relays what it relays without one. -/
theorem relays_command (title : String) (comparison : Comparison) (operand : String) (value : Int)
    {draft : Draft} (generates : draft.ledger.Generates 0) (room : draft.ledger.HasRoom) :
    Relays (fun onTrue onFalse =>
      command title (conditional comparison operand value onTrue onFalse)) draft := by
  have commented : (draft.write (.comment title)).ledger.Generates 0 := generates
  obtain ⟨tested, chosen, join, level, relays⟩ :=
    relays_conditional comparison operand value commented room
  refine ⟨tested, chosen, join, level, ?_⟩
  intro onTrue onFalse whenTrue whenFalse fault after
  have inside : Balanced (conditional comparison operand value onTrue onFalse) :=
    balanced_composes.conditional comparison operand value whenTrue.balanced whenFalse.balanced
  rw [command_eq_error_iff inside room]
  exact relays onTrue onFalse whenTrue whenFalse fault after

/-- A conditional on a variable fails where the variable is not known, whatever its arms are, or
else relays the faults of its arms. -/
theorem fails_or_relays (setting : Setting) (title variableName : String) (comparison : Comparison)
    (value : Int) {draft : Draft} (generates : draft.ledger.Generates 0)
    (room : draft.ledger.HasRoom) :
    let ask onTrue onFalse := command title do
      let symbol ← answer (setting.symbol variableName)
      conditional comparison symbol value onTrue onFalse
    (∃ fault stopped, fault.isProcedural = false ∧
      ∀ onTrue onFalse, ask onTrue onFalse draft = .error fault stopped) ∨ Relays ask draft := by
  have plain := setting.plain_symbol variableName
  cases found : setting.symbol variableName with
  | error fault =>
    refine .inl ⟨fault, draft.write (.comment title), plain fault (by rw [found]; rfl), ?_⟩
    intro onTrue onFalse
    simp [command]
  | ok symbol => exact .inr (relays_command title comparison symbol value generates room)

/-- A label is refused by the ledger. -/
theorem define_of_label {name : String} {draft after : Draft} {fault : Fault}
    (failed : label name draft = .error fault after) :
    Ledger.define name draft.ledger = .error fault after.ledger := by
  cases defined : Ledger.define name draft.ledger with
  | ok value ledger => simp [label, defined] at failed
  | error other ledger =>
    obtain ⟨rfl, rfl⟩ : other = fault ∧ draft.withLedger ledger = after := by
      simpa [label, defined] using failed
    rfl

/-- A jump is refused by the ledger. -/
theorem jump_of_jump {name : String} {draft after : Draft} {fault : Fault}
    (failed : jump name draft = .error fault after) :
    Ledger.jump name draft.ledger = .error fault after.ledger := by
  cases jumped : Ledger.jump name draft.ledger with
  | ok value ledger => simp [jump, jumped] at failed
  | error other ledger =>
    obtain ⟨rfl, rfl⟩ : other = fault ∧ draft.withLedger ledger = after := by
      simpa [jump, jumped] using failed
    rfl

end Writing

open Writing

/-- An action fails for a reason that any script can have, or else the ledger refuses its label. -/
theorem Action.error_cases {setting : Setting} {action : Action} {draft after : Draft}
    {fault : Fault} (room : draft.ledger.HasRoom)
    (failed : action.write setting draft = .error fault after) :
    fault.isProcedural = false ∨
      (∃ name, action = .label name ∧ Ledger.define name draft.ledger = .error fault after.ledger) ∨
      ∃ name, action = .goto name ∧ Ledger.jump name draft.ledger = .error fault after.ledger := by
  cases action with
  | label name =>
    obtain reserved | ⟨_, _, checked, refused⟩ := run_bind_eq_error_iff.mp failed
    · exact .inl ((harmless_answer (plain_checkLabel name)).plain _ _ _ room reserved)
    · obtain rfl := answer_eq_ok checked
      exact .inr (.inl ⟨name, rfl, define_of_label refused⟩)
  | goto name =>
    obtain reserved | ⟨_, _, checked, refused⟩ := run_bind_eq_error_iff.mp failed
    · exact .inl ((harmless_answer (plain_checkLabel name)).plain _ _ _ room reserved)
    · obtain rfl := answer_eq_ok checked
      exact .inr (.inr ⟨name, rfl, jump_of_jump refused⟩)
  | _ => exact .inl ((Action.harmless setting rfl rfl).plain _ _ _ room failed)

/-- A conditional of any kind fails at its question, whatever its arms are, or else relays the
faults of its arms. -/
theorem Condition.fails_or_relays (setting : Setting) (condition : Condition) {draft : Draft}
    (generates : draft.ledger.Generates 0) (room : draft.ledger.HasRoom) :
    (∃ fault stopped, fault.isProcedural = false ∧
      ∀ onTrue onFalse, condition.write setting onTrue onFalse draft = .error fault stopped) ∨
      Relays (condition.write setting) draft := by
  cases condition with
  | isTrue variableName =>
    exact Writing.fails_or_relays setting _ variableName .greater 0 generates room
  | compare variableName comparison value =>
    exact Writing.fails_or_relays setting _ variableName comparison value generates room
  | operand symbol comparison value =>
    exact .inr (relays_conditional comparison symbol value generates room)

/-- A list of events can stand as an arm. -/
theorem fitting_lowerEvents (setting : Setting) (events : List Event) :
    Fitting (lowerEvents setting events) :=
  ⟨charted_lowerEvents setting events, balanced_lowerEvents setting events⟩

namespace Event

/-- An event fails by itself on a draft: it cannot be read, its action fails, or its question does,
whatever its arms are. -/
def Fails (setting : Setting) (event : Event) (draft : Draft) (fault : Fault) (after : Draft) :
    Prop :=
  match event.read with
  | .error other => other = fault ∧ draft = after
  | .ok (.act action) => action.write setting draft = .error fault after
  | .ok (.choose condition) =>
    ∀ onTrue onFalse, condition.write setting onTrue onFalse draft = .error fault after

/-- The name of a label is read from the argument of that name. -/
theorem lookup_of_label {event : Event} {name : String}
    (read : event.read = .ok (.act (.label name)) ∨ event.read = .ok (.act (.goto name))) :
    event.args.lookup "label" = some (.text name) := by
  rw [← text?_eq_some_iff]
  rcases read with read | read
  · cases asks_of_read read
    assumption
  · cases asks_of_read read
    assumption

/-- An event names a label on a draft that the ledger refuses to define or to jump to. -/
def Refused (event : Event) (site : String) (draft : Draft) (fault : Fault) (after : Draft) :
    Prop :=
  event.args.lookup "label" = some (.text site) ∧
    ((event.command = "EVENT_LABEL_DEFINE" ∧
        Ledger.define site draft.ledger = .error fault after.ledger) ∨
      (event.command = "EVENT_LABEL_GOTO" ∧
        Ledger.jump site draft.ledger = .error fault after.ledger))

/-- An event that fails by itself meets no fault of procedures, unless the ledger refuses its label.
-/
theorem Fails.plain_or_refused {setting : Setting} {event : Event} {draft after : Draft}
    {fault : Fault} (fails : event.Fails setting draft fault after)
    (generates : draft.ledger.Generates 0) (room : draft.ledger.HasRoom) :
    fault.isProcedural = false ∨ ∃ site, event.Refused site draft fault after := by
  unfold Fails at fails
  split at fails
  next other read =>
    obtain ⟨rfl, _⟩ := fails
    exact .inl (event.plain_read other (by rw [read]; rfl))
  next action read =>
    obtain plain | ⟨name, rfl, refused⟩ | ⟨name, rfl, refused⟩ := Action.error_cases room fails
    · exact .inl plain
    · exact .inr ⟨name, lookup_of_label (.inl read), .inl ⟨command_of_act read, refused⟩⟩
    · exact .inr ⟨name, lookup_of_label (.inr read), .inr ⟨command_of_act read, refused⟩⟩
  next condition read =>
    have failed := fails (throw .noActiveEntity) (throw .noActiveEntity)
    obtain ⟨other, stopped, plain, always⟩ | ⟨tested, chosen, join, _, relays⟩ :=
      condition.fails_or_relays setting generates room
    · rw [always] at failed
      cases failed
      exact .inl plain
    · obtain stopped | ⟨_, ran, _⟩ := (relays _ _ (fitting_throw _) (fitting_throw _) _ _).mp failed
      · cases stopped
        exact .inl rfl
      · cases ran

/-- A refused label has been defined before, or it is committed to another depth than the present
one. -/
theorem Refused.fault_eq {event : Event} {site : String} {draft after : Draft} {fault : Fault}
    (refused : event.Refused site draft fault after) :
    fault = .duplicateLabel site ∨
      ∃ expected, expected ≠ draft.ledger.depth ∧
        fault = .stackImbalance site expected draft.ledger.depth := by
  obtain ⟨_, ⟨_, refused⟩ | ⟨_, refused⟩⟩ := refused
  · obtain ⟨_, _, duplicate⟩ | ⟨_, expected, _, elsewhere, imbalance⟩ | ⟨_, _, entered⟩ :=
      Ledger.define_cases draft.ledger site
    · exact .inl (EStateM.Result.error.inj (refused.symm.trans duplicate)).1
    · exact .inr ⟨expected, elsewhere, (EStateM.Result.error.inj (refused.symm.trans imbalance)).1⟩
    · cases refused.symm.trans entered
  · obtain ⟨expected, _, elsewhere, imbalance⟩ | ⟨_, kept⟩ | ⟨_, awaited⟩ :=
      Ledger.jump_cases draft.ledger site
    · exact .inr ⟨expected, elsewhere, (EStateM.Result.error.inj (refused.symm.trans imbalance)).1⟩
    · cases refused.symm.trans kept
    · cases refused.symm.trans awaited

end Event

namespace Workshop

variable {workshop : Workshop} {start draft : Draft}

/-- Wherever calls come to, the reserved names of a ledger are decimals of numbers taken. -/
theorem Reaches.generates_zero (reached : workshop.Reaches start draft)
    (made : workshop.MadeOfCalls) (generates : start.ledger.Generates 0) :
    draft.ledger.Generates 0 := by
  obtain ⟨deeds, course, _⟩ := reached.ownCourse made.lawful
  have own : OwnCourse 0 start draft := ⟨deeds, course, by simp⟩
  exact own.generates generates

/-- One of some events fails by itself, on a draft that calls can come to at the depth of another
draft. -/
def Blames (workshop : Workshop) (events : List Event) (draft : Draft) (fault : Fault)
    (after : Draft) : Prop :=
  ∃ event ∈ events, ∃ middle, workshop.Reaches draft middle ∧
    middle.ledger.depth = draft.ledger.depth ∧ event.Fails workshop.setting middle fault after

/-- What is blamed on events from where calls have come to is blamed on them and on others from
where the calls have come from. -/
theorem Blames.of_reaches {few many : List Event} {middle after : Draft} {fault : Fault}
    (blames : workshop.Blames few middle fault after) (reached : workshop.Reaches draft middle)
    (level : middle.ledger.depth = draft.ledger.depth) (listed : ∀ event ∈ few, event ∈ many) :
    workshop.Blames many draft fault after := by
  obtain ⟨event, member, inside, further, same, fails⟩ := blames
  exact ⟨event, listed event member, inside, reached.trans further, same.trans level, fails⟩

/-- An enabled event that fails by itself at once is to blame. -/
theorem blames_first {event : Event} {rest : List Event} {after : Draft} {fault : Fault}
    (enabled : ¬event.disabled = true) (fails : event.Fails workshop.setting draft fault after) :
    workshop.Blames (Event.inOrder (event :: rest)) draft fault after := by
  obtain ⟨others, listed⟩ := Event.exists_inOrder rest enabled
  exact ⟨event, by simp [listed], draft, .start, rfl, fails⟩

end Workshop

section Arms

variable {setting : Setting} {options : Options} {draft after : Draft} {fault : Fault}
  {onTrue onFalse : List Event}

/-- A list of events as an arm in the workshop of a setting. -/
theorem run_arm_events (setting : Setting) (options : Options) (events : List Event) :
    (Arm.events events).run (setting.workshop options) = lowerEvents setting events := by
  rw [Arm.run, setting.workshop_lower options]

/-- Where a conditional over lists of events fails, its question does, whatever its arms are, or an
event in its arms is to blame. -/
theorem blames_of_condition (condition : Condition) (generates : draft.ledger.Generates 0)
    (room : draft.ledger.HasRoom)
    (whenTrue : ∀ inside, inside.ledger.Generates 0 → inside.ledger.HasRoom →
      lowerEvents setting onTrue inside = .error fault after →
      (setting.workshop options).Blames (Event.inOrder onTrue) inside fault after)
    (whenFalse : ∀ inside, inside.ledger.Generates 0 → inside.ledger.HasRoom →
      lowerEvents setting onFalse inside = .error fault after →
      (setting.workshop options).Blames (Event.inOrder onFalse) inside fault after)
    (failed : condition.write setting (lowerEvents setting onTrue) (lowerEvents setting onFalse)
      draft = .error fault after) :
    (∀ first second, condition.write setting first second draft = .error fault after) ∨
      (setting.workshop options).Blames (Event.inOrder onFalse ++ Event.inOrder onTrue) draft fault
        after := by
  have made := setting.workshop_madeOfCalls options
  have trueFits := fitting_lowerEvents setting onTrue
  have falseFits := fitting_lowerEvents setting onFalse
  obtain ⟨other, stopped, _, always⟩ | ⟨tested, chosen, join, level, relays⟩ :=
    condition.fails_or_relays setting generates room
  · rw [always] at failed
    cases failed
    exact .inl always
  · have inner := room.of_level level
    apply Or.inr
    obtain failedFalse | ⟨lowered, ranFalse, failedTrue⟩ :=
      (relays _ _ trueFits falseFits _ _).mp failed
    · have entered : ∀ other, condition.write setting
          ((Arm.events onTrue).run (setting.workshop options)) (throw other) draft =
            .error other tested := by
        intro other
        rw [run_arm_events]
        exact (relays _ _ trueFits (fitting_throw other) other tested).mpr (.inl (run_throw _ _))
      have reached : (setting.workshop options).Reaches draft tested :=
        .onFalse condition (.events onTrue) .start entered
      have blames := whenFalse tested (reached.generates_zero made generates) inner failedFalse
      exact blames.of_reaches reached level fun _ => List.mem_append_left _
    · have entered : ∀ other, condition.write setting (throw other)
          ((Arm.events onFalse).run (setting.workshop options)) draft =
            .error other (lowered.turn chosen join) := by
        intro other
        rw [run_arm_events]
        exact (relays _ _ (fitting_throw other) falseFits other _).mpr
          (.inr ⟨lowered, ranFalse, run_throw _ _⟩)
      have reached : (setting.workshop options).Reaches draft (lowered.turn chosen join) :=
        .onTrue condition (.events onFalse) .start entered
      have kept : lowered.ledger.depth = tested.ledger.depth :=
        leaves_of_ok ranFalse ▸ falseFits.balanced tested inner
      have blames :=
        whenTrue _ (reached.generates_zero made generates) (inner.of_level kept) failedTrue
      exact blames.of_reaches reached (kept.trans level) fun _ => List.mem_append_right _

end Arms

/-- Where lowering fails, one of its enabled events fails by itself, at the depth that lowering
began at. By induction over the events: a conditional relays the faults of its arms, and what comes
after an event starts from a draft that calls have come to. -/
theorem blames_of_lowerEvents (setting : Setting) (options : Options) (events : List Event)
    {draft after : Draft} {fault : Fault} (generates : draft.ledger.Generates 0)
    (room : draft.ledger.HasRoom)
    (failed : lowerEvents setting events draft = .error fault after) :
    (setting.workshop options).Blames (Event.inOrder events) draft fault after := by
  have made := setting.workshop_madeOfCalls options
  induction events using Outline.ofEvents.induct generalizing draft with
  | case1 =>
    rw [lowerEvents] at failed
    cases failed
  | case2 event rest disabled inductionHypothesis =>
    rw [lowerEvents_disabled rest disabled] at failed
    rw [Event.inOrder_disabled rest disabled]
    exact inductionHypothesis generates room failed
  | case3 event rest enabled other read _ =>
    rw [lowerEvents_enabled rest enabled, Event.lower_eq, read] at failed
    apply Workshop.blames_first enabled
    rw [Event.Fails, read]
    cases failed
    exact ⟨rfl, rfl⟩
  | case4 event rest enabled action read inductionHypothesis =>
    rw [lowerEvents_enabled rest enabled, Event.lower_eq, read] at failed
    obtain early | ⟨_, middle, ran, late⟩ := run_bind_eq_error_iff.mp failed
    · apply Workshop.blames_first enabled
      rw [Event.Fails, read]
      exact early
    · have left : (action.write setting).leaves draft = middle := leaves_of_ok ran
      have reached : (setting.workshop options).Reaches draft middle :=
        left ▸ (setting.workshop options).allows_action action draft
      have level : middle.ledger.depth = draft.ledger.depth :=
        left ▸ action.balanced setting draft room
      have blames :=
        inductionHypothesis (reached.generates_zero made generates) (room.of_level level) late
      refine blames.of_reaches reached level fun other member => ?_
      rw [Event.inOrder_act rest enabled read]
      exact List.mem_cons_of_mem event member
  | case5 event rest enabled condition read trueHypothesis falseHypothesis inductionHypothesis =>
    rw [lowerEvents_enabled rest enabled, Event.lower_eq, read] at failed
    have listed := Event.inOrder_choose rest enabled read
    obtain early | ⟨_, middle, ran, late⟩ := run_bind_eq_error_iff.mp failed
    · obtain always | blames := blames_of_condition condition generates room
        (fun _ => trueHypothesis) (fun _ => falseHypothesis) early
      · apply Workshop.blames_first enabled
        rw [Event.Fails, read]
        exact always
      · refine blames.of_reaches .start rfl fun other member => ?_
        rw [listed]
        exact List.mem_cons_of_mem event (List.mem_append_left _ member)
    · have left : (condition.write setting (lowerEvents setting (event.childrenOf "true"))
          (lowerEvents setting (event.childrenOf "false"))).leaves draft = middle :=
        leaves_of_ok ran
      have called := (setting.workshop options).allows_condition condition
        (.events (event.childrenOf "true")) (.events (event.childrenOf "false")) draft
      rw [run_arm_events, run_arm_events] at called
      have reached : (setting.workshop options).Reaches draft middle := left ▸ called
      have level : middle.ledger.depth = draft.ledger.depth :=
        left ▸ balanced_composes.condition setting condition (balanced_lowerEvents setting _)
          (balanced_lowerEvents setting _) draft room
      have blames :=
        inductionHypothesis (reached.generates_zero made generates) (room.of_level level) late
      refine blames.of_reaches reached level fun other member => ?_
      rw [listed]
      exact List.mem_cons_of_mem event (List.mem_append_right _ member)

/-- Events that wait, and then put a label where a variable is true. -/
def lateLabelEvents : List Event :=
  [{ command := "EVENT_WAIT", args := [("frames", .number 30)] },
    { command := "EVENT_IF_TRUE", args := [("variable", .text "0")],
      children := [("true",
        [{ command := "EVENT_LABEL_DEFINE", args := [("label", .text "x")] }])] }]

/-- Events that wait for a frame. -/
def waitEvents : List Event := [{ command := "EVENT_WAIT", args := [("frames", .number 1)] }]

end EventScript
