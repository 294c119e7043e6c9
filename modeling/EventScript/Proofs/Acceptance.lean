import EventScript.Proofs.Level
import EventScript.Proofs.Printing

/-!
# Compiling agrees with the judgement

Lowering is followed action by action through the ledgers of level drafts. Each writing either fails
with the fault that is judged for it or adds the labels and jumps of its events to what the ledger
tells, whatever conditionals are open around it. At the end no conditional is open, so the draft
awaits a label exactly when a jump of the script dangles.
-/
namespace EventScript

open Assembly (Comparison Line)

namespace Writing

variable {α β : Type}

/-- From a draft, a writing fails with a fault or, where there is none, succeeds with a good draft.
-/
def Yields (writing : Writing α) (draft : Draft) (fault? : Option Fault) (good : Draft → Prop) :
    Prop :=
  match fault? with
  | some fault => ∃ after, writing draft = .error fault after
  | none => ∃ value after, writing draft = .ok value after ∧ good after

/-- A writing that succeeds. -/
theorem yields_ok {writing : Writing α} {draft after : Draft} {value : α} {good : Draft → Prop}
    (ran : writing draft = .ok value after) (well : good after) : Yields writing draft none good :=
  ⟨value, after, ran, well⟩

/-- After a writing that succeeds it is the next one that counts. -/
theorem yields_after {first : Writing α} {second : α → Writing β} {draft middle : Draft}
    {value : α} {fault? : Option Fault} {good : Draft → Prop} (ran : first draft = .ok value middle)
    (next : Yields (second value) middle fault? good) :
    Yields (first >>= second) draft fault? good := by
  cases fault? with
  | some fault =>
    obtain ⟨after, later⟩ := next
    exact ⟨after, by simp [ran, later]⟩
  | none =>
    obtain ⟨result, after, later, well⟩ := next
    exact ⟨result, after, by simp [ran, later], well⟩

/-- Of two writings in a row the first fault counts. -/
theorem Yields.bind {first : Writing α} {second : α → Writing β} {draft : Draft}
    {fault? later? : Option Fault} {good best : Draft → Prop}
    (start : Yields first draft fault? good)
    (next : ∀ value middle, good middle → Yields (second value) middle later? best) :
    Yields (first >>= second) draft (fault?.or later?) best := by
  cases fault? with
  | some fault =>
    obtain ⟨after, ran⟩ := start
    exact ⟨after, by simp [ran]⟩
  | none =>
    obtain ⟨value, middle, ran, well⟩ := start
    rw [Option.none_or]
    exact yields_after ran (next value middle well)

/-- What comes after a writing that cannot fail decides about the fault. -/
theorem Yields.next {first : Writing α} {second : α → Writing β} {draft : Draft}
    {fault? : Option Fault} {good best : Draft → Prop} (start : Yields first draft none good)
    (next : ∀ value middle, good middle → Yields (second value) middle fault? best) :
    Yields (first >>= second) draft fault? best := by
  obtain ⟨value, middle, ran, well⟩ := start
  exact yields_after ran (next value middle well)

/-- Whatever conditionals are open, a writing after events that have defined some labels and jumped
to some either fails with a fault or adds to these labels and jumps. -/
def Adds (writing : Writing α) (labels jumps : List String) (fault? : Option Fault)
    (moreLabels moreJumps : List String) : Prop :=
  ∀ (opened : List String) (draft : Draft), draft.ledger.Tells opened labels jumps →
    Yields writing draft fault? fun after =>
      after.ledger.Tells opened (labels ++ moreLabels) (jumps ++ moreJumps)

variable {labels jumps moreLabels moreJumps : List String} {fault? : Option Fault}

/-- What is printed has no labels and no jumps. -/
theorem Prints.adds {writing : Writing α} {lines : List Line} (prints : Prints writing lines) :
    Adds writing labels jumps none [] [] := by
  intro opened draft told
  obtain ⟨value, after, ran, kept, _⟩ := prints.runs draft told.level
  apply yields_ok ran
  simpa [kept] using told

/-- Giving a value adds nothing. -/
theorem adds_pure (value : α) : Adds (pure value : Writing α) labels jumps none [] [] := by
  intro opened draft told
  apply yields_ok (run_pure value draft)
  simpa using told

/-- What is answered without a draft faults as its answer does and adds nothing. -/
theorem adds_answer (result : Except Fault α) :
    Adds (answer result) labels jumps (faultOf? result) [] [] := by
  cases result with
  | ok value => exact adds_pure value
  | error fault => exact fun _ draft _ => ⟨draft, rfl⟩

/-- Writings in a row add one after the other. -/
theorem Adds.bind {first : Writing α} {second : α → Writing β} {later? : Option Fault}
    {lastLabels lastJumps : List String}
    (start : Adds first labels jumps fault? moreLabels moreJumps)
    (next : ∀ value, Adds (second value) (labels ++ moreLabels) (jumps ++ moreJumps) later?
      lastLabels lastJumps) :
    Adds (first >>= second) labels jumps (fault?.or later?) (moreLabels ++ lastLabels)
      (moreJumps ++ lastJumps) := by
  intro opened draft told
  refine (start opened draft told).bind fun value middle told => ?_
  simpa only [List.append_assoc] using next value opened middle told

/-- On a level draft a demand for the depth of a level draft is met. -/
theorem run_expectDepth_level (site : String) {before : Nat} {draft : Draft} (zero : before = 0)
    (level : draft.ledger.depth = 0) : expectDepth site before draft = .ok () draft := by
  simp [zero, level]

/-- A command adds what its body adds. -/
theorem Adds.command (title : String) {body : Writing Unit}
    (inside : Adds body labels jumps fault? moreLabels moreJumps) :
    Adds (command title body) labels jumps fault? moreLabels moreJumps := by
  intro opened draft told
  have closing : ∀ middle : Draft,
      middle.ledger.Tells opened (labels ++ moreLabels) (jumps ++ moreJumps) →
      Yields (do expectDepth title draft.ledger.depth; line .blank) middle none fun after =>
        after.ledger.Tells opened (labels ++ moreLabels) (jumps ++ moreJumps) := by
    intro middle toldMiddle
    have demanded := run_expectDepth_level title told.level toldMiddle.level
    exact yields_after demanded (yields_ok (run_line .blank middle) toldMiddle)
  have written := inside opened (draft.write (.comment title)) told
  have ended := written.bind fun _ => closing
  rw [Option.or_none] at ended
  exact yields_after (run_depth draft) (yields_after (run_line _ draft) ended)

/-- A jump to an open label adds nothing. -/
theorem yields_jumpOpened {opened : List String} {draft : Draft} {name : String}
    (told : draft.ledger.Tells opened labels jumps) (member : name ∈ opened) (line : Line) :
    Yields (do onLedger (Ledger.jump name); Writing.line line) draft none
      fun after => after.ledger.Tells opened labels jumps := by
  obtain ⟨ledger, accepted, toldAfter⟩ := told.jumpOpened member
  have ran : (do onLedger (Ledger.jump name); Writing.line line : Writing Unit) draft =
      .ok () ((draft.withLedger ledger).write line) := by simp [accepted]
  exact yields_ok ran toldAfter

/-- An open label that is put is open no more. -/
theorem yields_labelOpened {opened : List String} {draft : Draft} {name : String}
    (told : draft.ledger.Tells (name :: opened) labels jumps) (once : name ∉ opened) :
    Yields (label name) draft none fun after => after.ledger.Tells opened labels jumps := by
  obtain ⟨accepted, toldAfter⟩ := told.defineOpened once
  have ran : label name draft =
      .ok () ((draft.withLedger (draft.ledger.enter name)).write (.label name)) := by
    simp [label, accepted]
  exact yields_ok ran toldAfter

/-- The arms of a conditional are written while its labels are open, the arm for false first, and
the labels are closed behind them. -/
theorem yields_arms (comparison : Comparison) (operand : String) (value : Int)
    {chosen join : String} {opened : List String} {before : Nat} {draft : Draft}
    {onTrue onFalse : Writing Unit} {later? : Option Fault} {lastLabels lastJumps : List String}
    (told : draft.ledger.Tells (chosen :: join :: opened) labels jumps) (zero : before = 0)
    (chosenOnce : chosen ∉ join :: opened) (joinOnce : join ∉ opened)
    (whenFalse : Adds onFalse labels jumps fault? moreLabels moreJumps)
    (whenTrue : Adds onTrue (labels ++ moreLabels) (jumps ++ moreJumps) later?
      lastLabels lastJumps) :
    Yields (arms comparison operand value chosen join before onTrue onFalse) draft
      (fault?.or later?) fun after => after.ledger.Tells opened
        (labels ++ moreLabels ++ lastLabels) (jumps ++ moreJumps ++ lastJumps) := by
  have joined : ∀ middle : Draft, middle.ledger.Tells (join :: opened)
        (labels ++ moreLabels ++ lastLabels) (jumps ++ moreJumps ++ lastJumps) →
      Yields (do expectDepth (Ledger.symbol join) before; label join) middle none fun after =>
        after.ledger.Tells opened (labels ++ moreLabels ++ lastLabels)
          (jumps ++ moreJumps ++ lastJumps) := by
    intro middle toldMiddle
    exact yields_after (run_expectDepth_level _ zero toldMiddle.level)
      (yields_labelOpened toldMiddle joinOnce)
  have second : ∀ middle : Draft, middle.ledger.Tells (join :: opened) (labels ++ moreLabels)
        (jumps ++ moreJumps) →
      Yields (do onTrue; expectDepth (Ledger.symbol join) before; label join) middle later?
        fun after => after.ledger.Tells opened (labels ++ moreLabels ++ lastLabels)
          (jumps ++ moreJumps ++ lastJumps) := by
    intro middle toldMiddle
    have raised := (whenTrue _ middle toldMiddle).bind fun _ => joined
    rwa [Option.or_none] at raised
  refine (yields_jumpOpened told List.mem_cons_self _).next fun _ tested toldTested => ?_
  refine (whenFalse _ tested toldTested).bind fun _ lowered toldLowered => ?_
  apply yields_after (run_expectDepth_level _ zero toldLowered.level)
  have joinMember : join ∈ chosen :: join :: opened := List.mem_cons_of_mem _ List.mem_cons_self
  refine (yields_jumpOpened toldLowered joinMember _).next fun _ jumped toldJumped => ?_
  exact (yields_labelOpened toldJumped chosenOnce).next fun _ => second

/-- A conditional adds what its arms add. Nothing of its own labels is left behind it. -/
theorem Adds.conditional (comparison : Comparison) (operand : String) (value : Int)
    {onTrue onFalse : Writing Unit} {later? : Option Fault} {lastLabels lastJumps : List String}
    (whenFalse : Adds onFalse labels jumps fault? moreLabels moreJumps)
    (whenTrue : Adds onTrue (labels ++ moreLabels) (jumps ++ moreJumps) later?
      lastLabels lastJumps) :
    Adds (conditional comparison operand value onTrue onFalse) labels jumps (fault?.or later?)
      (moreLabels ++ lastLabels) (moreJumps ++ lastJumps) := by
  intro opened draft told
  obtain ⟨chosenNew, toldChosen⟩ := told.take
  obtain ⟨joinNew, toldJoin⟩ := toldChosen.take
  rw [Ledger.take_nextLabel] at joinNew toldJoin
  have toldBoth : (draft.withLedger draft.ledger.take.take).ledger.Tells
      (toString draft.ledger.nextLabel :: toString (draft.ledger.nextLabel + 1) :: opened)
      labels jumps := toldJoin.reorder (by simp [or_left_comm])
  have chosenOnce : toString draft.ledger.nextLabel ∉
      toString (draft.ledger.nextLabel + 1) :: opened := by
    intro member
    rcases List.mem_cons.mp member with same | old
    · exact joinNew (same ▸ List.mem_cons_self)
    · exact chosenNew old
  have joinOnce : toString (draft.ledger.nextLabel + 1) ∉ opened :=
    fun old => joinNew (List.mem_cons_of_mem _ old)
  have written := yields_arms comparison operand value toldBoth told.level chosenOnce joinOnce
    whenFalse whenTrue
  simp only [List.append_assoc] at written
  simp only [Yields, run_conditional]
  exact written

/-- A label of the script is refused where its name is reserved or taken, and is added otherwise. -/
theorem adds_labelHere (name : String) :
    Adds (labelHere name) labels jumps
      ((faultOf? (checkLabel name)).or
        (if name ∈ labels then some (.duplicateLabel name) else none)) [name] [] := by
  intro opened draft told
  cases reserved : isReserved name with
  | true =>
    have checked := checkLabel_of_reserved reserved
    rw [checked]
    exact ⟨draft, by simp [labelHere, checked]⟩
  | false =>
    rw [checkLabel_of_allowed reserved, labelHere_of_allowed reserved, faultOf?, Option.none_or]
    by_cases taken : name ∈ labels
    · have refused := told.defineAgain reserved taken
      rw [if_pos taken]
      exact ⟨draft, by simp [label, refused]⟩
    · obtain ⟨accepted, toldAfter⟩ := told.defineNamed reserved taken
      rw [if_neg taken, List.append_nil]
      have ran : label name draft =
          .ok () ((draft.withLedger (draft.ledger.enter name)).write (.label name)) := by
        simp [label, accepted]
      exact yields_ok ran toldAfter

/-- A jump of the script is refused where its name is reserved, and is added otherwise. -/
theorem adds_goto (name : String) :
    Adds (Writing.goto name) labels jumps (faultOf? (checkLabel name)) [] [name] := by
  intro opened draft told
  cases reserved : isReserved name with
  | true =>
    have checked := checkLabel_of_reserved reserved
    rw [checked]
    exact ⟨draft, by simp [Writing.goto, checked]⟩
  | false =>
    obtain ⟨ledger, accepted, toldAfter⟩ := told.jumpNamed reserved
    have ran : jump name draft = .ok () ((draft.withLedger ledger).write (.jump name)) := by
      simp [jump, accepted]
    rw [checkLabel_of_allowed reserved, goto_of_allowed reserved, List.append_nil]
    exact yields_ok ran toldAfter

end Writing

open Writing

variable {labels jumps : List String}

/-- A plain action fails with the fault that is judged for it, or adds nothing. -/
theorem Action.adds_plain {action : Action} (setting : Setting) (plain : action.isPlain = true) :
    Adds (action.write setting) labels jumps (action.fault? setting labels) [] [] := by
  rcases action.fails_or_prints setting labels plain with
    ⟨fault, judged, fails⟩ | ⟨judged, _, prints⟩
  · rw [judged]
    exact fun _ draft _ => fails draft
  · rw [judged]
    exact prints.adds

/-- An action fails with the fault that is judged for it, or adds its label and its jump. -/
theorem Action.adds (setting : Setting) (action : Action) :
    Adds (action.write setting) labels jumps (action.fault? setting labels) action.label?.toList
      action.target?.toList := by
  cases action with
  | label name => exact adds_labelHere name
  | goto name => exact adds_goto name
  | stop =>
    intro opened draft told
    have stopped : Writing.stop draft =
        .ok () ((draft.write (.comment "Stop Script")).write .stop) := rfl
    apply yields_ok stopped
    simpa [Action.label?, Action.target?] using told
  | _ => exact adds_plain setting rfl

/-- A conditional fails with the fault of its question or as its arms do, and adds what they add. -/
theorem Condition.adds (setting : Setting) (condition : Condition) {onTrue onFalse : Writing Unit}
    {fault? later? : Option Fault} {moreLabels moreJumps lastLabels lastJumps : List String}
    (whenFalse : Adds onFalse labels jumps fault? moreLabels moreJumps)
    (whenTrue : Adds onTrue (labels ++ moreLabels) (jumps ++ moreJumps) later?
      lastLabels lastJumps) :
    Adds (condition.write setting onTrue onFalse) labels jumps
      ((condition.fault? setting).or (fault?.or later?)) (moreLabels ++ lastLabels)
      (moreJumps ++ lastJumps) := by
  have asked : ∀ (result : Except Fault String) comparison value,
      Adds (do conditional comparison (← answer result) value onTrue onFalse) labels jumps
        ((faultOf? result).or (fault?.or later?)) (moreLabels ++ lastLabels)
        (moreJumps ++ lastJumps) := by
    intro result comparison value
    refine (adds_answer result).bind fun symbol => ?_
    rw [List.append_nil, List.append_nil]
    exact .conditional comparison symbol value whenFalse whenTrue
  cases condition with
  | isTrue variableName => exact .command _ (asked _ _ _)
  | compare variableName comparison value => exact .command _ (asked _ _ _)
  | operand symbol comparison value =>
    rw [Condition.fault?, Option.none_or]
    exact .conditional _ _ _ whenFalse whenTrue

/-- A list of events fails with its first fault, or adds its labels and jumps. -/
theorem adds_lowerEvents (setting : Setting) (events : List Event) (labels jumps : List String) :
    Adds (lowerEvents setting events) labels jumps
      (Event.firstFault? setting labels (Event.inOrder events))
      ((Event.inOrder events).filterMap Event.label?)
      ((Event.inOrder events).filterMap Event.target?) := by
  induction events using Outline.ofEvents.induct generalizing labels jumps with
  | case1 =>
    rw [lowerEvents, Event.inOrder]
    exact adds_pure ()
  | case2 event rest disabled inductionHypothesis =>
    rw [lowerEvents_disabled rest disabled, Event.inOrder_disabled rest disabled]
    exact inductionHypothesis labels jumps
  | case3 event rest enabled fault read _ =>
    obtain ⟨others, listed⟩ := Event.exists_inOrder rest enabled
    have judged : event.fault? setting labels = some fault := Event.fault?_of_error read
    rw [lowerEvents_enabled rest enabled, Event.lower_eq, read, listed, Event.firstFault?, judged]
    exact fun _ draft _ => ⟨draft, rfl⟩
  | case4 event rest enabled action read inductionHypothesis =>
    rw [lowerEvents_enabled rest enabled, Event.lower_eq, read, Event.inOrder_act rest enabled read,
      Event.firstFault?, Event.filterMap_cons_append, Event.filterMap_cons_append,
      Event.fault?_of_act read, Event.label?_of_act read, Event.target?_of_act read]
    exact (action.adds setting).bind fun _ => inductionHypothesis _ _
  | case5 event rest enabled condition read trueHypothesis falseHypothesis inductionHypothesis =>
    obtain ⟨label, target⟩ := Event.unnamed_of_choose read
    have whole := (condition.adds setting (falseHypothesis labels jumps)
      (trueHypothesis _ _)).bind fun _ => inductionHypothesis _ _
    rw [lowerEvents_enabled rest enabled, Event.lower_eq, read,
      Event.inOrder_choose rest enabled read, Event.firstFault?, Event.filterMap_cons_append,
      Event.filterMap_cons_append, Event.fault?_of_choose read, label, target]
    simp only [Event.firstFault?_append, List.filterMap_append, Option.toList_none, List.nil_append,
      List.append_nil, ← Option.or_assoc, ← List.append_assoc] at whole ⊢
    exact whole

/-- Events that are lowered on an empty draft are without fault, and the ledger tells their labels
and jumps. -/
theorem faultless_of_ok {setting : Setting} {events : List Event} {draft : Draft}
    (succeeded : lowerEvents setting events {} = .ok () draft) :
    Event.firstFault? setting [] (Event.inOrder events) = none ∧
      draft.ledger.Tells [] ((Event.inOrder events).filterMap Event.label?)
        ((Event.inOrder events).filterMap Event.target?) := by
  have judged := adds_lowerEvents setting events [] [] [] {} Ledger.tells_empty
  cases first : Event.firstFault? setting [] (Event.inOrder events) with
  | some fault =>
    rw [first] at judged
    obtain ⟨after, failed⟩ := judged
    rw [succeeded] at failed
    cases failed
  | none =>
    rw [first] at judged
    obtain ⟨_, other, ran, told⟩ := judged
    obtain rfl : draft = other := by simpa [succeeded] using ran
    exact ⟨rfl, told⟩

/-- A script compiles when its judgement finds no fault, and fails with the fault that it finds. -/
theorem Script.compile_of_judgement (options : Options) (setting : Setting) (script : Script) :
    match script.fault? setting with
    | some fault => script.compile options setting = .error fault
    | none =>
      ∃ text, script.compile options setting = .ok { name := script.name, text := text } := by
  have lowered := adds_lowerEvents setting script.events [] [] [] {} Ledger.tells_empty
  simp only [List.nil_append] at lowered
  cases first : Event.firstFault? setting [] (Event.inOrder script.events) with
  | some fault =>
    rw [first] at lowered
    obtain ⟨after, failed⟩ := lowered
    have judged : script.fault? setting = some fault := by rw [Script.fault?, first, Option.some_or]
    rw [judged]
    simp [Script.compile, failed]
  | none =>
    rw [first] at lowered
    obtain ⟨_, draft, succeeded, told⟩ := lowered
    have waiting := told.head?_unresolved
    change draft.ledger.unresolved.head? = Event.dangling? (Event.inOrder script.events) at waiting
    have judged : script.fault? setting =
        (draft.ledger.unresolved.head?).map fun name => .undefinedLabel (name ++ "$") := by
      rw [Script.fault?, first, Option.none_or, waiting]
    rw [judged]
    cases unresolved : draft.ledger.unresolved with
    | nil => simp [Script.compile, succeeded, Draft.assemble, unresolved, Except.map]
    | cons name rest =>
      simp [Script.compile, succeeded, Draft.assemble, unresolved, Except.map, Ledger.symbol]

end EventScript
