import EventScript.Document
import EventScript.Proofs.Demands
import EventScript.Proofs.Outline
import EventScript.Proofs.References

/-!
# The judgement of a script

A script is judged by its events alone, listed in the order of lowering. The first event of the list
that has a fault is reported, whatever comes after it. Without one, the first jump in the list to a
label that no event of the list defines is reported. The judgement knows nothing of how events are
read, of ledgers, of stacks or of generated labels: an event is at fault where its arguments are not
what the table of demands asks for, or else where what they give does not resolve, is out of reach
or is taken. None of the faults that only a procedure can meet is reported.
-/
namespace EventScript

open Assembly (Comparison)

/-- The label that an action puts into the script. -/
def Action.label? : Action → Option String
  | label name => some name
  | _ => none

/-- The label that an action jumps to. -/
def Action.target? : Action → Option String
  | goto name => some name
  | _ => none

/-- The command that an action is read from. -/
def Action.commandName : Action → String
  | setActive _ => "EVENT_ACTOR_SET_ACTIVE"
  | moveTo _ _ _ _ => moveToCommand
  | wait _ => "EVENT_WAIT"
  | say _ => "EVENT_TEXT"
  | debug _ => "EVENT_DEBUG"
  | label _ => "EVENT_LABEL_DEFINE"
  | goto _ => "EVENT_LABEL_GOTO"
  | stop => "EVENT_END"

/-- The fault of a label that an event names. The empty name is reserved, and so are those of digits
only. -/
def labelFault? (name : String) : Option Fault :=
  if name.toList.all Char.isDigit = true then some (.invalidArgument "label" (.reservedLabel name))
  else none

/-- The fault of a tile whose place, at 128 units a tile, does not fit in 32 bits. -/
def tileFault? (axis : String) (tile : Int) : Option Fault :=
  if -2147483648 ≤ 128 * tile ∧ 128 * tile ≤ 2147483647 then none
  else some (.invalidArgument "EVENT_ACTOR_MOVE_TO" (.outOfRange axis tile))

namespace Setting

/-- The fault of a reference that does not resolve to an actor. -/
def actorFault? (setting : Setting) (reference : String) : Option Fault :=
  match setting.meant? reference with
  | none => some .noActiveEntity
  | some name =>
    if name = playerName ∨ name ∈ setting.scene.actors then none else some (.unknownActor name)

/-- The fault of a variable that does not resolve: it is no word, or it is not declared in a scene
that declares its variables. -/
def variableFault? (setting : Setting) (variableName : String) : Option Fault :=
  if variableName ≠ "" ∧ (∀ c ∈ variableName.toList, c.isAlphanum = true ∨ c = '_') ∧
      ∀ names ∈ setting.scene.declared, variableName ∈ names then none
  else some (.unknownVariable variableName)

end Setting

namespace Event

/-- Whether an event has arms, which its command alone decides. -/
def isConditional (event : Event) : Bool :=
  event.command == "EVENT_IF_TRUE" || event.command == "EVENT_IF_VALUE"

/-- The label that an event defines. -/
def label? (event : Event) : Option String :=
  if event.command = "EVENT_LABEL_DEFINE" then event.text? "label" else none

/-- The label that an event jumps to. -/
def target? (event : Event) : Option String :=
  if event.command = "EVENT_LABEL_GOTO" then event.text? "label" else none

/-- Why an event with well-formed arguments is refused after events that have defined some labels.
-/
def refusal? (setting : Setting) (labels : List String) (event : Event) : Option Fault :=
  match event.command with
  | "EVENT_ACTOR_SET_ACTIVE" => (event.text? "actorId").bind setting.actorFault?
  | "EVENT_ACTOR_MOVE_TO" =>
    ((event.number? "x").bind (tileFault? "x")).or ((event.number? "y").bind (tileFault? "y"))
  | "EVENT_IF_TRUE" => (event.name? "variable").bind setting.variableFault?
  | "EVENT_IF_VALUE" => (event.name? "variable").bind setting.variableFault?
  | "EVENT_LABEL_DEFINE" =>
    (event.text? "label").bind fun name =>
      (labelFault? name).or (if name ∈ labels then some (.duplicateLabel name) else none)
  | "EVENT_LABEL_GOTO" => (event.text? "label").bind labelFault?
  | _ => none

/-- The fault of an event by itself, after events that have defined some labels. The events under it
are not looked at. -/
def fault? (setting : Setting) (labels : List String) (event : Event) : Option Fault :=
  event.misread?.or (event.refusal? setting labels)

/-- The enabled events in the order of lowering. A conditional goes before the events of its arm for
false, and those go before the events of its arm for true. -/
def inOrder : List Event → List Event
  | [] => []
  | event :: rest =>
    if event.disabled then inOrder rest
    else if event.isConditional then
      event :: (inOrder (event.childrenOf "false") ++ inOrder (event.childrenOf "true") ++
        inOrder rest)
    else event :: inOrder rest
termination_by events => sizeOf events
decreasing_by
  all_goals simp only [List.cons.sizeOf_spec]
  all_goals try omega
  all_goals
    have first := event.sizeOf_childrenOf_lt "false"
    have second := event.sizeOf_childrenOf_lt "true"
    omega

/-- The first fault in a list of events, the labels of each being known to all after it. -/
def firstFault? (setting : Setting) : List String → List Event → Option Fault
  | _, [] => none
  | labels, event :: rest =>
    (event.fault? setting labels).or (firstFault? setting (labels ++ event.label?.toList) rest)

/-- The first label that a list of events jumps to and does not define. -/
def dangling? (events : List Event) : Option String :=
  (events.filterMap target?).find? (· ∉ events.filterMap label?)

end Event

/-- Why a script does not compile, where it does not. -/
def Script.fault? (setting : Setting) (script : Script) : Option Fault :=
  let listed := Event.inOrder script.events
  (Event.firstFault? setting [] listed).or
    ((Event.dangling? listed).map fun name => .undefinedLabel (name ++ "$"))

/-- The fault of an action after events that have defined some labels. -/
def Action.fault? (setting : Setting) (labels : List String) : Action → Option Fault
  | setActive actor => faultOf? (setting.slot actor)
  | moveTo x y _ _ => (faultOf? (tilePlace "x" x)).or (faultOf? (tilePlace "y" y))
  | label name =>
    (faultOf? (checkLabel name)).or (if name ∈ labels then some (.duplicateLabel name) else none)
  | goto name => faultOf? (checkLabel name)
  | _ => none

/-- The fault of the question of a conditional. -/
def Condition.fault? (setting : Setting) : Condition → Option Fault
  | isTrue variableName => faultOf? (setting.symbol variableName)
  | compare variableName _ _ => faultOf? (setting.symbol variableName)
  | operand _ _ _ => none

/-- A label is checked as it is judged. -/
theorem faultOf?_checkLabel (name : String) : faultOf? (checkLabel name) = labelFault? name := by
  rw [checkLabel, labelFault?, isReserved]
  split <;> rfl

/-- A tile is placed as it is judged. -/
theorem faultOf?_tilePlace (axis : String) (tile : Int) :
    faultOf? (tilePlace axis tile) = tileFault? axis tile := by
  have fits : (Interval.signed 32).holds (128 * tile) = true ↔
      -2147483648 ≤ 128 * tile ∧ 128 * tile ≤ 2147483647 := Interval.holds_iff _ _
  rw [tilePlace, tileFault?, tileSize, Int.mul_comm]
  simp only [fits]
  split <;> rfl

/-- Where a tile has a place, it is the tile in units of the machine. -/
theorem eq_of_tilePlace {axis : String} {tile place : Int}
    (placed : tilePlace axis tile = .ok place) : place = 128 * tile := by
  simp only [tilePlace] at placed
  split at placed
  · rw [← Except.ok.inj placed, tileSize, Int.mul_comm]
  · cases placed

namespace Setting

/-- An actor is looked up as it is judged. -/
theorem faultOf?_slot (setting : Setting) (reference : String) :
    faultOf? (setting.slot reference) = setting.actorFault? reference := by
  have answered := setting.resolves_slot reference
  generalize setting.slot reference = answer at answered
  rw [actorFault?]
  cases answered with
  | ownerless nobody => rw [nobody]; rfl
  | player meant => rw [meant]; rfl
  | actor meant other last => simp [meant, List.mem_of_getElem? last.1, faultOf?]
  | unknown meant other absent => simp [meant, other, absent, faultOf?]

/-- A variable is looked up as it is judged. -/
theorem faultOf?_symbol (setting : Setting) (variableName : String) :
    faultOf? (setting.symbol variableName) = setting.variableFault? variableName := by
  rw [symbol, variableFault?]
  have declared : setting.scene.hasVariable variableName = true ↔
      ∀ names ∈ setting.scene.declared, variableName ∈ names := by
    rw [Scene.hasVariable]
    cases setting.scene.declared <;> simp
  simp only [List.all_eq_true, isVariableChar, Bool.or_eq_true, beq_iff_eq, declared]
  split <;> rfl

end Setting

namespace Event

variable {event : Event} {fault : Fault} {action : Action} {condition : Condition}

/-- Only the two conditional commands are read as conditionals. -/
theorem isConditional_of_choose (read : event.read = .ok (.choose condition)) :
    event.isConditional = true := by
  cases asks_of_read read with
  | isTrue named given => simp [isConditional, named]
  | compare named operator given comparator => simp [isConditional, named]

/-- An event is read as the action that its command names. -/
theorem command_of_act (read : event.read = .ok (.act action)) :
    event.command = action.commandName := by
  cases asks_of_read read <;> assumption

/-- The two conditional commands are never read as actions. -/
theorem isConditional_of_act (read : event.read = .ok (.act action)) :
    event.isConditional = false := by
  rw [isConditional, command_of_act read]
  cases action <;> rfl

/-- Events ask for variables, not for operands of the assembler. -/
theorem read_ne_operand (event : Event) (symbol : String) (comparison : Comparison) (value : Int) :
    event.read ≠ .ok (.choose (.operand symbol comparison value)) := by
  intro read
  cases asks_of_read read

/-- An event that is read as an action defines the label of the action. -/
theorem label?_of_act (read : event.read = .ok (.act action)) :
    event.label? = action.label? := by
  rw [label?]
  cases asks_of_read read with
  | label named given => rw [if_pos named, given, Action.label?]
  | _ => simp [*, Action.label?]

/-- An event that is read as an action jumps to the label that the action jumps to. -/
theorem target?_of_act (read : event.read = .ok (.act action)) :
    event.target? = action.target? := by
  rw [target?]
  cases asks_of_read read with
  | goto named given => rw [if_pos named, given, Action.target?]
  | _ => simp [*, Action.target?]

/-- A conditional defines no label by itself and jumps to none. -/
theorem unnamed_of_choose (read : event.read = .ok (.choose condition)) :
    event.label? = none ∧ event.target? = none := by
  rw [label?, target?]
  cases asks_of_read read <;> simp [*]

/-- Only two commands have to do with labels. -/
theorem unnamed_of_act (read : event.read = .ok (.act action))
    (defines : event.command ≠ "EVENT_LABEL_DEFINE") (jumps : event.command ≠ "EVENT_LABEL_GOTO") :
    action.label? = none ∧ action.target? = none := by
  rw [← label?_of_act read, ← target?_of_act read]
  exact ⟨if_neg defines, if_neg jumps⟩

/-- An event that cannot be read is judged by the fault of its reading. -/
theorem fault?_of_error {setting : Setting} {labels : List String}
    (read : event.read = .error fault) : event.fault? setting labels = some fault := by
  rw [fault?, ← faultOf?_read, read]
  rfl

/-- An event that is read as an action is judged by the action. -/
theorem fault?_of_act {setting : Setting} {labels : List String}
    (read : event.read = .ok (.act action)) :
    event.fault? setting labels = action.fault? setting labels := by
  rw [fault?, ← faultOf?_read, read, refusal?]
  cases asks_of_read read <;>
    simp [*, faultOf?, Action.fault?, ← faultOf?_checkLabel, ← faultOf?_tilePlace,
      ← Setting.faultOf?_slot]

/-- An event that is read as a conditional is judged by its question. -/
theorem fault?_of_choose {setting : Setting} {labels : List String}
    (read : event.read = .ok (.choose condition)) :
    event.fault? setting labels = condition.fault? setting := by
  rw [fault?, ← faultOf?_read, read, refusal?]
  cases asks_of_read read <;>
    simp [*, faultOf?, Condition.fault?, ← Setting.faultOf?_symbol]

/-- A disabled event is not listed. -/
theorem inOrder_disabled {event : Event} (rest : List Event) (disabled : event.disabled = true) :
    inOrder (event :: rest) = inOrder rest := by
  rw [inOrder, if_pos disabled]

/-- An event that is read as an action is listed alone. -/
theorem inOrder_act {event : Event} {action : Action} (rest : List Event)
    (enabled : ¬event.disabled = true) (read : event.read = .ok (.act action)) :
    inOrder (event :: rest) = event :: inOrder rest := by
  rw [inOrder, if_neg enabled, if_neg (by simp [isConditional_of_act read])]

/-- An event that is read as a conditional is listed with its arms. -/
theorem inOrder_choose {event : Event} {condition : Condition} (rest : List Event)
    (enabled : ¬event.disabled = true) (read : event.read = .ok (.choose condition)) :
    inOrder (event :: rest) =
      event :: (inOrder (event.childrenOf "false") ++ inOrder (event.childrenOf "true") ++
        inOrder rest) := by
  rw [inOrder, if_neg enabled, if_pos (isConditional_of_choose read)]

/-- What is kept of a conditional with its arms, of a list of events that begins with one. -/
theorem filter_inOrder_choose {event : Event} {condition : Condition} (keep : Event → Bool)
    (rest : List Event) (enabled : ¬event.disabled = true)
    (read : event.read = .ok (.choose condition)) :
    (inOrder (event :: rest)).filter keep =
      [event].filter keep ++ ((inOrder (event.childrenOf "false")).filter keep ++
        ((inOrder (event.childrenOf "true")).filter keep ++ (inOrder rest).filter keep)) := by
  rw [inOrder_choose rest enabled read, ← List.singleton_append, List.filter_append,
    List.filter_append, List.filter_append, List.append_assoc]

/-- An enabled event is listed before all others of its list and before the events under it. -/
theorem exists_inOrder {event : Event} (rest : List Event) (enabled : ¬event.disabled = true) :
    ∃ others, inOrder (event :: rest) = event :: others := by
  rw [inOrder, if_neg enabled]
  split
  · exact ⟨_, rfl⟩
  · exact ⟨_, rfl⟩

/-- What is collected from a list begins with what its first entry gives. -/
theorem filterMap_cons_append {α β : Type} (give : α → Option β) (first : α) (rest : List α) :
    (first :: rest).filterMap give = (give first).toList ++ rest.filterMap give := by
  cases given : give first <;> simp [given]

/-- The first fault of two lists in a row. -/
theorem firstFault?_append (setting : Setting) (labels : List String) (first second : List Event) :
    firstFault? setting labels (first ++ second) =
      (firstFault? setting labels first).or
        (firstFault? setting (labels ++ first.filterMap label?) second) := by
  induction first generalizing labels with
  | nil => simp [firstFault?]
  | cons event rest inductionHypothesis =>
    rw [List.cons_append, firstFault?, firstFault?, inductionHypothesis, Option.or_assoc,
      filterMap_cons_append, List.append_assoc]

/-- Where a list of events has no fault, none of its events has one. -/
theorem exists_fault?_eq_none {setting : Setting} {labels : List String} {events : List Event}
    (faultless : firstFault? setting labels events = none) {event : Event}
    (member : event ∈ events) : ∃ known, event.fault? setting known = none := by
  induction events generalizing labels with
  | nil => cases member
  | cons first rest inductionHypothesis =>
    rw [firstFault?, Option.or_eq_none_iff] at faultless
    rcases List.mem_cons.mp member with rfl | later
    · exact ⟨labels, faultless.1⟩
    · exact inductionHypothesis faultless.2 later

end Event

/-- Whether only a procedure can meet a fault: events take no words from the stack, leave none
there, and are lowered by the compiler that reads them. -/
def Fault.isProcedural : Fault → Bool
  | stackImbalance _ _ _ => true
  | stackUnderflow _ _ => true
  | noEventCompiler => true
  | _ => false

/-- The fault, where there is one, is none that only a procedure can meet. -/
def Plain (fault? : Option Fault) : Prop :=
  ∀ fault, fault? = some fault → fault.isProcedural = false

/-- Where there is no fault there is none of any kind. -/
theorem plain_none : Plain none := by simp [Plain]

/-- A fault of another kind. -/
theorem plain_some {fault : Fault} (plain : fault.isProcedural = false) : Plain (some fault) := by
  simpa [Plain] using plain

/-- Of two faults the first one counts. -/
theorem Plain.or {first second : Option Fault} (start : Plain first) (rest : Plain second) :
    Plain (first.or second) := by
  cases first with
  | none => exact rest
  | some fault => exact start

/-- Results in a row fault as one of them does. -/
theorem Plain.bind {α β : Type} {first : Except Fault α} {second : α → Except Fault β}
    (start : Plain (faultOf? first)) (next : ∀ value, Plain (faultOf? (second value))) :
    Plain (faultOf? (first >>= second)) := by
  cases first with
  | ok value => exact next value
  | error fault => exact start

namespace Event

/-- No event is refused by its reading for a reason that only a procedure can have. -/
theorem plain_read (event : Event) : Plain (faultOf? event.read) := by
  rw [faultOf?_read, misread?]
  split
  · exact plain_some rfl
  · intro fault found
    obtain ⟨asked, _, judged⟩ := List.exists_of_findSome?_eq_some found
    obtain ⟨misuse, _, rfl⟩ := Option.map_eq_some_iff.mp judged
    rfl

end Event

/-- Looking an actor up meets no fault of procedures. -/
theorem Setting.plain_slot (setting : Setting) (reference : String) :
    Plain (faultOf? (setting.slot reference)) := by
  refine Plain.bind ?_ fun name => ?_
  · unfold Setting.named
    split
    · unfold Setting.self
      split
      · exact plain_none
      · exact plain_some rfl
    · exact plain_none
  · split
    · exact plain_none
    · split
      · exact plain_none
      · exact plain_some rfl

/-- Looking a variable up meets no fault of procedures. -/
theorem Setting.plain_symbol (setting : Setting) (variableName : String) :
    Plain (faultOf? (setting.symbol variableName)) := by
  unfold Setting.symbol
  split
  · exact plain_none
  · exact plain_some rfl

/-- Placing a tile meets no fault of procedures. -/
theorem plain_tilePlace (axis : String) (tile : Int) : Plain (faultOf? (tilePlace axis tile)) := by
  simp only [tilePlace]
  split
  · exact plain_none
  · exact plain_some rfl

/-- Checking a label meets no fault of procedures. -/
theorem plain_checkLabel (name : String) : Plain (faultOf? (checkLabel name)) := by
  unfold checkLabel
  split
  · exact plain_some rfl
  · exact plain_none

/-- No action meets a fault of procedures. -/
theorem Action.plain_fault? (setting : Setting) (labels : List String) (action : Action) :
    Plain (action.fault? setting labels) := by
  cases action with
  | setActive actor => exact setting.plain_slot actor
  | moveTo x y collide kind => exact (plain_tilePlace "x" x).or (plain_tilePlace "y" y)
  | label name =>
    apply (plain_checkLabel name).or
    split
    · exact plain_some rfl
    · exact plain_none
  | goto name => exact plain_checkLabel name
  | _ => exact plain_none

/-- No event meets a fault of procedures. -/
theorem Event.plain_fault? (setting : Setting) (labels : List String) (event : Event) :
    Plain (event.fault? setting labels) := by
  cases read : event.read with
  | error fault =>
    have reading := event.plain_read
    rw [read] at reading
    rwa [fault?_of_error read]
  | ok command =>
    cases command with
    | act action =>
      rw [fault?_of_act read]
      exact action.plain_fault? setting labels
    | choose condition =>
      rw [fault?_of_choose read]
      cases condition with
      | isTrue variableName => exact setting.plain_symbol variableName
      | compare variableName comparison value => exact setting.plain_symbol variableName
      | operand symbol comparison value => exact plain_none

/-- The judgement of a script reports no fault that only a procedure can meet. -/
theorem Script.plain_fault? (setting : Setting) (script : Script) :
    Plain (script.fault? setting) := by
  have listed : ∀ events labels, Plain (Event.firstFault? setting labels events) := by
    intro events
    induction events with
    | nil => exact fun _ => plain_none
    | cons event rest inductionHypothesis =>
      exact fun labels => (event.plain_fault? setting labels).or (inductionHypothesis _)
  apply (listed _ _).or
  cases Event.dangling? (Event.inOrder script.events) with
  | none => exact plain_none
  | some name => exact plain_some rfl

end EventScript
