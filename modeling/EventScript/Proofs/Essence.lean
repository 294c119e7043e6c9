import EventScript.Proofs.Judgement
import EventScript.Proofs.Writing

/-!
# The essence of an event tree

Much of a tree of events never reaches the text of a script: disabled events, arguments that no
command asks for, children of events that have no arms, names of events, and the order in which
arguments and lists of children are noted down. The essence of a tree is what remains without all
this, written as a tree again. Compiling a script is compiling its essence, except that the event
of an unknown command is no longer named. Two scripts with one essence therefore have one result,
whatever else they hold.

Of the scene only the actors and the declared variables are asked for.
-/
namespace EventScript

/-- The arguments that a command asks for, in the order of asking. -/
def argumentsOf (command : String) : List String :=
  ((demandsOf? command).getD []).map fun asked => asked.1

/-- The argument that stands for another under a key: a variable may be given by its number, which
stands for its decimal digits. -/
def Arg.standing (key : String) : Arg → Arg
  | number n => if key = "variable" then text (toString n) else number n
  | other => other

namespace Event

/-- What the argument under a key stands for, where there is one. -/
def standing? (event : Event) (key : String) : Option Arg :=
  (event.args.lookup key).map (Arg.standing key)

/-- The arguments of an event that its command asks for. -/
def askedArgs (event : Event) : List (String × Arg) :=
  (argumentsOf event.command).filterMap fun key => (event.standing? key).map (Prod.mk key)

/-- The event with a list of children, and of its arguments those that are asked for. It has no
name. -/
def bare (event : Event) (children : List (String × List Event)) : Event :=
  { command := event.command, args := event.askedArgs, children := children }

/-- What counts of a list of events. A list of children that is missing counts as an empty one. -/
def essences : List Event → List Event
  | [] => []
  | event :: rest =>
    if event.disabled then essences rest
    else if event.isConditional then
      event.bare [("true", essences (event.childrenOf "true")),
        ("false", essences (event.childrenOf "false"))] :: essences rest
    else event.bare [] :: essences rest
termination_by events => sizeOf events
decreasing_by
  all_goals simp only [List.cons.sizeOf_spec]
  all_goals try omega
  all_goals
    have first := event.sizeOf_childrenOf_lt "true"
    have second := event.sizeOf_childrenOf_lt "false"
    omega

end Event

/-- A fault without the event that an unknown command was found in. -/
def Fault.anonymous : Fault → Fault
  | unknownCommand _ command => unknownCommand "" command
  | fault => fault

/-- A fault has one event to forget at most. -/
@[simp]
theorem Fault.anonymous_anonymous (fault : Fault) :
    fault.anonymous.anonymous = fault.anonymous := by
  cases fault <;> rfl

/-- Reading an event whose command is known does not tell which event it is. -/
theorem Event.mapError_read {event : Event} {demands : List (String × Demand)}
    (known : demandsOf? event.command = some demands) :
    event.read.mapError Fault.anonymous = event.read := by
  cases read : event.read with
  | ok command => rfl
  | error fault =>
    have misread : event.misread? = some fault := by rw [← faultOf?_read, read, faultOf?]
    rw [misread?, known] at misread
    obtain ⟨asked, _, judged⟩ := List.exists_of_findSome?_eq_some misread
    obtain ⟨misuse, _, rfl⟩ := Option.map_eq_some_iff.mp judged
    rfl

/-- An event whose command is unknown cannot be read. -/
theorem Event.read_of_unknown {event : Event} (unknown : demandsOf? event.command = none) :
    event.read = .error (.unknownCommand event.id event.command) := by
  have misread := event.faultOf?_read
  rw [misread?, unknown] at misread
  cases read : event.read with
  | ok command => simp [read, faultOf?] at misread
  | error fault => simpa [read, faultOf?] using misread

/-- What is collected under keys is found under each of them. -/
theorem lookup_filterMap_keys {α : Type} (give : String → Option α) {keys : List String}
    {key : String} (member : key ∈ keys) :
    (keys.filterMap fun name => (give name).map (Prod.mk name)).lookup key = give key := by
  cases given : give key with
  | none =>
    rw [List.lookup_eq_none_iff]
    simp only [List.mem_filterMap, Option.map_eq_some_iff]
    rintro _ ⟨name, _, value, found, rfl⟩
    simp only [bne_iff_ne]
    rintro rfl
    simp [given] at found
  | some value =>
    induction keys with
    | nil => cases member
    | cons first rest inductionHypothesis =>
      by_cases same : key = first
      · subst same
        simp [given]
      · have later := inductionHypothesis ((List.mem_cons.mp member).resolve_left same)
        cases other : give first with
        | none => simpa [other] using later
        | some _ =>
          rw [List.filterMap_cons, other, Option.map_some, lookup_cons_ite, if_neg same]
          exact later

namespace Event

variable (event : Event) (children : List (String × List Event))

/-- An argument that is asked for is found as before, up to what it stands for. -/
theorem lookup_bare {key : String} (asked : key ∈ argumentsOf event.command) :
    (event.bare children).args.lookup key = (event.args.lookup key).map (Arg.standing key) := by
  exact lookup_filterMap_keys event.standing? asked

/-- Under every key but that of a variable an argument stands for itself. -/
theorem lookup_bare_of_ne {key : String} (asked : key ∈ argumentsOf event.command)
    (other : key ≠ "variable") : (event.bare children).args.lookup key = event.args.lookup key := by
  have itself : Arg.standing key = fun arg => arg := by
    funext arg
    cases arg <;> simp [Arg.standing, other]
  rw [event.lookup_bare children asked, itself, Option.map_id_fun']
  rfl

/-- A text that is asked for is read as before. -/
theorem readText_bare {key : String} (asked : key ∈ argumentsOf event.command)
    (other : key ≠ "variable") : (event.bare children).readText key = event.readText key := by
  rw [readText, readText, event.lookup_bare_of_ne children asked other]
  rfl

/-- A number that is asked for is read as before. -/
theorem readNumber_bare (interval : Interval) {key : String}
    (asked : key ∈ argumentsOf event.command) (other : key ≠ "variable") :
    (event.bare children).readNumber interval key = event.readNumber interval key := by
  rw [readNumber, readNumber, event.lookup_bare_of_ne children asked other]
  rfl

/-- A truth value that is asked for is read as before. -/
theorem readFlag_bare (default : Bool) {key : String}
    (asked : key ∈ argumentsOf event.command) (other : key ≠ "variable") :
    (event.bare children).readFlag key default = event.readFlag key default := by
  rw [readFlag, readFlag, event.lookup_bare_of_ne children asked other]
  rfl

/-- A variable has one name, by number or by digits. -/
theorem readName_bare (asked : "variable" ∈ argumentsOf event.command) :
    (event.bare children).readName "variable" = event.readName "variable" := by
  rw [readName, readName, event.lookup_bare children asked]
  cases event.args.lookup "variable" with
  | none => rfl
  | some arg => cases arg <;> rfl

/-- A move is read as before. -/
theorem readMove_bare (named : event.command = "EVENT_ACTOR_MOVE_TO") :
    (event.bare children).readMove = event.readMove := by
  have asked : argumentsOf event.command = ["moveType", "x", "y", "useCollisions"] := by
    rw [named]
    rfl
  have kind : (event.bare children).readMoveKind = event.readMoveKind := by
    have kindAsked : "moveType" ∈ argumentsOf event.command := by simp [asked]
    rw [readMoveKind, readMoveKind, event.lookup_bare_of_ne children kindAsked (by decide),
      event.readText_bare children kindAsked (by decide)]
    rfl
  rw [readMove, readMove, kind,
    event.readNumber_bare children _ (by simp [asked]) (by decide),
    event.readNumber_bare children _ (by simp [asked]) (by decide),
    event.readFlag_bare children _ (by simp [asked]) (by decide)]

/-- A comparison is read as before. -/
theorem readCompare_bare (named : event.command = "EVENT_IF_VALUE") :
    (event.bare children).readCompare = event.readCompare := by
  have asked : argumentsOf event.command = ["operator", "variable", "comparator"] := by
    rw [named]
    rfl
  have comparison : (event.bare children).readComparison = event.readComparison := by
    rw [readComparison, readComparison, event.readText_bare children (by simp [asked]) (by decide)]
    rfl
  rw [readCompare, readCompare, comparison, event.readName_bare children (by simp [asked]),
    event.readNumber_bare children _ (by simp [asked]) (by decide)]

/-- A bare event is read as before, only that it does not say where an unknown command is. -/
theorem read_bare : (event.bare children).read = event.read.mapError Fault.anonymous := by
  have same : (event.bare children).command = event.command := rfl
  cases demanded : demandsOf? event.command with
  | none =>
    rw [read_of_unknown demanded, read_of_unknown (same ▸ demanded), same]
    rfl
  | some demands =>
    rw [mapError_read demanded, read, read, same]
    split <;> rename_i named
    case h_2 => rw [readMove_bare _ _ named]
    case h_3 => rw [readNumber_bare _ _ _ (by simp [named, argumentsOf, demandsOf?]) (by decide)]
    case h_5 => rw [readName_bare _ _ (by simp [named, argumentsOf, demandsOf?])]
    case h_6 => rw [readCompare_bare _ _ named]
    case h_10 => rfl
    case h_11 =>
      -- No other command is known.
      rw [demandsOf?.eq_def] at demanded
      split at demanded <;> simp_all
    all_goals rw [readText_bare _ _ (by simp [named, argumentsOf, demandsOf?]) (by decide)]

/-- A disabled event has no part in the essence. -/
theorem essences_disabled {event : Event} (rest : List Event) (disabled : event.disabled = true) :
    essences (event :: rest) = essences rest := by
  rw [essences, if_pos disabled]

/-- An event that is not disabled is bare in the essence. -/
theorem exists_essences {event : Event} (rest : List Event) (enabled : ¬event.disabled = true) :
    ∃ children, essences (event :: rest) = event.bare children :: essences rest := by
  rw [essences, if_neg enabled]
  split
  · exact ⟨_, rfl⟩
  · exact ⟨_, rfl⟩

/-- A conditional keeps the essences of its two arms. -/
theorem essences_choose {event : Event} {condition : Condition} (rest : List Event)
    (enabled : ¬event.disabled = true) (read : event.read = .ok (.choose condition)) :
    essences (event :: rest) =
      event.bare [("true", essences (event.childrenOf "true")),
        ("false", essences (event.childrenOf "false"))] :: essences rest := by
  rw [essences, if_neg enabled, if_pos (isConditional_of_choose read)]

end Event

namespace Outline

/-- An outline without the events that unknown commands were found in. -/
def anonymous : Outline → Outline
  | done => done
  | act action rest => act action rest.anonymous
  | choose condition onTrue onFalse rest =>
    choose condition onTrue.anonymous onFalse.anonymous rest.anonymous
  | refuse fault rest => refuse fault.anonymous rest.anonymous

/-- The essence of a list of events has the outline of the list. -/
theorem ofEvents_essences (events : List Event) :
    ofEvents (Event.essences events) = (ofEvents events).anonymous := by
  have enabled {event : Event} {children} : ¬(event.bare children).disabled = true := by
    simp [Event.bare]
  induction events using ofEvents.induct with
  | case1 => rw [Event.essences, ofEvents, anonymous]
  | case2 event rest disabled inductionHypothesis =>
    rw [Event.essences_disabled rest disabled, ofEvents_disabled rest disabled,
      inductionHypothesis]
  | case3 event rest allowed fault read inductionHypothesis =>
    obtain ⟨children, listed⟩ := Event.exists_essences rest allowed
    have again : (event.bare children).read = .error fault.anonymous := by
      rw [event.read_bare, read]
      rfl
    rw [listed, ofEvents_refuse _ enabled again, ofEvents_refuse rest allowed read, anonymous,
      inductionHypothesis]
  | case4 event rest allowed action read inductionHypothesis =>
    obtain ⟨children, listed⟩ := Event.exists_essences rest allowed
    have again : (event.bare children).read = .ok (.act action) := by
      rw [event.read_bare, read]
      rfl
    rw [listed, ofEvents_act _ enabled again, ofEvents_act rest allowed read, anonymous,
      inductionHypothesis]
  | case5 event rest allowed condition read trueHypothesis falseHypothesis inductionHypothesis =>
    have again (children) : (event.bare children).read = .ok (.choose condition) := by
      rw [event.read_bare, read]
      rfl
    rw [Event.essences_choose rest allowed read, ofEvents_choose _ enabled (again _),
      ofEvents_choose rest allowed read, anonymous, ← trueHypothesis, ← falseHypothesis,
      ← inductionHypothesis]
    rfl

end Outline

namespace Writing

variable {α β : Type}

/-- Two ends of a writing that differ in the event of an unknown command at most. -/
inductive SameEnd : EStateM.Result Fault Draft α → EStateM.Result Fault Draft α → Prop where
  | ok (value : α) (draft : Draft) : SameEnd (.ok value draft) (.ok value draft)
  | error {fault other : Fault} (same : fault.anonymous = other.anonymous) (draft : Draft) :
    SameEnd (.error fault draft) (.error other draft)

/-- Two writings that end alike on every draft. -/
def Agree (first second : Writing α) : Prop := ∀ draft, SameEnd (first draft) (second draft)

/-- A writing agrees with itself. -/
theorem Agree.refl (writing : Writing α) : Agree writing writing := by
  intro draft
  cases writing draft with
  | ok value after => exact .ok value after
  | error fault after => exact .error rfl after

/-- Writings in a row agree when each agrees with its counterpart. -/
theorem Agree.bind {first second : Writing α} {next other : α → Writing β}
    (start : Agree first second) (rest : ∀ value, Agree (next value) (other value)) :
    Agree (first >>= next) (second >>= other) := by
  intro draft
  have ends := start draft
  rw [run_bind, run_bind]
  generalize first draft = result at ends
  generalize second draft = counterpart at ends
  cases ends with
  | ok value after => exact rest value after
  | error same after => exact .error same after

/-- Commands agree when their bodies do. -/
theorem Agree.command (title : String) {first second : Writing Unit} (inside : Agree first second) :
    Agree (command title first) (command title second) :=
  (Agree.refl _).bind fun _ => (Agree.refl _).bind fun _ => inside.bind fun _ => Agree.refl _

/-- Conditionals agree when their arms do. -/
theorem Agree.conditional (comparison : Assembly.Comparison) (operand : String) (value : Int)
    {onTrue onFalse otherTrue otherFalse : Writing Unit} (whenTrue : Agree onTrue otherTrue)
    (whenFalse : Agree onFalse otherFalse) :
    Agree (conditional comparison operand value onTrue onFalse)
      (conditional comparison operand value otherTrue otherFalse) := by
  simp only [conditional_eq]
  refine (Agree.refl _).bind fun _ => (Agree.refl _).bind fun _ => (Agree.refl _).bind fun _ => ?_
  exact (Agree.refl _).bind fun _ => whenFalse.bind fun _ => (Agree.refl _).bind fun _ =>
    (Agree.refl _).bind fun _ => (Agree.refl _).bind fun _ => whenTrue.bind fun _ => Agree.refl _

end Writing

open Writing (Agree SameEnd)

/-- Questions agree when the arms below them do. -/
theorem Condition.agree (setting : Setting) (condition : Condition)
    {onTrue onFalse otherTrue otherFalse : Writing Unit} (whenTrue : Agree onTrue otherTrue)
    (whenFalse : Agree onFalse otherFalse) :
    Agree (condition.write setting onTrue onFalse)
      (condition.write setting otherTrue otherFalse) := by
  cases condition with
  | isTrue variableName =>
    exact Agree.command _ ((Agree.refl _).bind fun _ => .conditional _ _ _ whenTrue whenFalse)
  | compare variableName comparison value =>
    exact Agree.command _ ((Agree.refl _).bind fun _ => .conditional _ _ _ whenTrue whenFalse)
  | operand symbol comparison value => exact .conditional _ _ _ whenTrue whenFalse

/-- An outline writes the same with and without the events of its unknown commands. -/
theorem Outline.agree_anonymous (setting : Setting) (outline : Outline) :
    Agree (outline.anonymous.write setting) (outline.write setting) := by
  induction outline with
  | done => exact .refl _
  | act action rest inductionHypothesis => exact (Agree.refl _).bind fun _ => inductionHypothesis
  | choose condition onTrue onFalse rest trueHypothesis falseHypothesis inductionHypothesis =>
    exact (condition.agree setting trueHypothesis falseHypothesis).bind fun _ => inductionHypothesis
  | refuse fault rest _ => exact fun draft => .error fault.anonymous_anonymous draft

/-- An outline asks nothing of a scene but its actors and its declared variables. -/
theorem Outline.write_congr {scene other : Scene} (owner : Option String)
    (actors : scene.actors = other.actors) (declared : scene.declared = other.declared)
    (outline : Outline) : outline.write ⟨scene, owner⟩ = outline.write ⟨other, owner⟩ := by
  obtain ⟨id, actors, triggers, declared⟩ := scene
  obtain ⟨otherId, _, otherTriggers, _⟩ := other
  subst actors declared
  induction outline with
  | done => rfl
  | act action rest inductionHypothesis =>
    rw [write, write, inductionHypothesis]
    cases action <;> rfl
  | choose condition onTrue onFalse rest trueHypothesis falseHypothesis inductionHypothesis =>
    rw [write, write, inductionHypothesis, trueHypothesis, falseHypothesis]
    cases condition <;> rfl
  | refuse fault rest _ => rfl

namespace Script

/-- The script with the essence of its events. -/
def essence (script : Script) : Script := { script with events := Event.essences script.events }

/-- The result of a compilation without the event that an unknown command was found in. -/
def outcome (options : Options) (setting : Setting) (script : Script) : Except Fault Compiled :=
  (script.compile options setting).mapError Fault.anonymous

/-- Compiling a script is compiling its essence. -/
theorem outcome_essence (options : Options) (setting : Setting) (script : Script) :
    script.essence.outcome options setting = script.outcome options setting := by
  have agree : SameEnd (lowerEvents setting script.essence.events {})
      (lowerEvents setting script.events {}) := by
    rw [lowerEvents_eq_write, lowerEvents_eq_write, essence, Outline.ofEvents_essences]
    exact Outline.agree_anonymous setting _ {}
  rw [outcome, outcome, compile, compile]
  generalize lowerEvents setting script.essence.events {} = result at agree
  generalize lowerEvents setting script.events {} = counterpart at agree
  cases agree with
  | ok value draft => rfl
  | error same draft => exact congrArg Except.error same

/-- Compiling a script asks nothing of the scene but its actors and its declared variables. -/
theorem compile_congr (options : Options) {scene other : Scene} (owner : Option String)
    (actors : scene.actors = other.actors) (declared : scene.declared = other.declared)
    (script : Script) :
    script.compile options ⟨scene, owner⟩ = script.compile options ⟨other, owner⟩ := by
  rw [compile, compile, lowerEvents_eq_write, lowerEvents_eq_write,
    Outline.write_congr owner actors declared]

end Script

/-- Two scripts of one name that are exported or not alike, compiled for one owner in scenes with
the same actors and the same declared variables, have one result if their events have one essence:
the same text or the same fault, up to the event that an unknown command was found in. -/
theorem compile_eq_of_essences_eq (options : Options) (owner : Option String) (scene other : Scene)
    (actors : scene.actors = other.actors) (declared : scene.declared = other.declared)
    (first second : Script) (name : first.name = second.name)
    (exported : first.exported = second.exported)
    (essences : Event.essences first.events = Event.essences second.events) :
    (first.compile options ⟨scene, owner⟩).mapError Fault.anonymous =
      (second.compile options ⟨other, owner⟩).mapError Fault.anonymous := by
  have same : first.essence = second.essence := by
    rw [Script.essence, Script.essence, essences, Script.mk.injEq]
    exact ⟨name, exported, rfl⟩
  calc first.outcome options ⟨scene, owner⟩
    _ = first.essence.outcome options ⟨scene, owner⟩ := (first.outcome_essence options _).symm
    _ = second.essence.outcome options ⟨scene, owner⟩ := by rw [same]
    _ = second.outcome options ⟨scene, owner⟩ := second.outcome_essence options _
    _ = second.outcome options ⟨other, owner⟩ := by
      rw [Script.outcome, second.compile_congr options owner actors declared, Script.outcome]

/-- A choice with one arm, and the end. -/
def plainEvents : List Event :=
  [{ command := "EVENT_IF_TRUE", args := [("variable", .text "3")],
     children := [("true", [{ command := "EVENT_TEXT", args := [("text", .text "Yes")] }])] },
    { command := "EVENT_END" }]

/-- The same choice and the same end among much that does not count. -/
def crowdedEvents : List Event :=
  [{ id := "e0", command := "EVENT_NONE", disabled := true },
    { id := "e1", command := "EVENT_IF_TRUE",
      args := [("note", .flag true), ("variable", .number 3)],
      children := [("else", [{ command := "EVENT_NONE" }]),
        ("false", [{ command := "EVENT_END", disabled := true }]),
        ("true", [{ id := "e2", command := "EVENT_TEXT",
                    args := [("variable", .number 4), ("text", .text "Yes")],
                    children := [("true", [{ command := "EVENT_NONE" }])] }])] },
    { id := "e3", command := "EVENT_END", args := [("text", .text "Yes")] }]

/-- In two scenes that differ in their names and triggers, the plain events and the crowded ones
compile to one text. -/
theorem crowded_compiles_alike :
    Event.essences plainEvents = Event.essences crowdedEvents ∧
      ∃ output, Script.compile {} {} { name := "S", events := plainEvents } = .ok output ∧
        Script.compile {} { scene := { id := "s", triggers := ["t"] } }
          { name := "S", events := crowdedEvents } = .ok output := by
  have essences : Event.essences plainEvents = Event.essences crowdedEvents := by
    simp [plainEvents, crowdedEvents, Event.essences, Event.bare, Event.askedArgs,
      Event.isConditional, Event.standing?, Event.childrenOf, Arg.standing, argumentsOf,
      demandsOf?, List.lookup]
    rfl
  obtain ⟨draft, succeeded, resolved⟩ : ∃ draft, lowerEvents {} plainEvents {} = .ok () draft ∧
      draft.ledger.unresolved = [] := ⟨_, by cbv, by cbv⟩
  obtain ⟨output, compiled⟩ : ∃ output,
      Script.compile {} {} { name := "S", events := plainEvents } = .ok output := by
    simp [Script.compile, succeeded, Draft.assemble, resolved, Except.map]
  have same := compile_eq_of_essences_eq {} none {} { id := "s", triggers := ["t"] } rfl rfl
    { name := "S", events := plainEvents } { name := "S", events := crowdedEvents } rfl rfl essences
  refine ⟨essences, output, compiled, ?_⟩
  rw [compiled] at same
  cases again : Script.compile {} { scene := { id := "s", triggers := ["t"] } }
      { name := "S", events := crowdedEvents } with
  | ok other =>
    rw [again] at same
    exact congrArg Except.ok (Except.ok.inj same).symm
  | error fault =>
    rw [again] at same
    cases same

end EventScript
