import EventScript.Document
import EventScript.Proofs.Entries
import EventScript.Proofs.Judgement
import EventScript.Proofs.Runs
import EventScript.Proofs.Writing

/-!
# What scripts mean

Two processes. The machine reads the entries of an output as a program: it moves from entry to
entry, goes on at the definition of a label where an entry says so, and shows every entry that does
something in the game. The walk goes through the events themselves, by their commands and their
arguments: it enters the arms of conditionals, skips disabled events, goes on behind the event that
defines a label where an event says so, and shows for every other event the entries of its command.
Both ask the same oracle for the values of variables, question by question. Neither knows anything
of the other, nor of how events are read and lowered.
-/
namespace EventScript

open Assembly (Comparison Line)

/-- The answer to each question of a run, which may depend on the operand that is asked for and on
the number of questions before it. -/
abbrev Oracle := Nat → String → Int

/-- Whether a number compares with another in the way that a comparison says. -/
def Assembly.Comparison.holds (comparison : Comparison) (answer value : Int) : Bool :=
  match comparison with
  | equal => answer = value
  | unequal => answer ≠ value
  | less => answer < value
  | greater => answer > value
  | lessOrEqual => answer ≤ value
  | greaterOrEqual => answer ≥ value

/-- Where a process stands: what is ahead of it, how many questions it has asked, and what it has
shown. -/
structure Moment (α : Type) where
  ahead : List α
  asked : Nat := 0
  trace : List String := []

/-- The lines of a draft. -/
def Draft.body (draft : Draft) : List Line := draft.entries.toList.map (·.line)

/-- A line is written behind those of a draft. -/
@[simp]
theorem Draft.body_write (draft : Draft) (line : Line) :
    (draft.write line).body = draft.body ++ [line] := by
  simp [body]

/-- A move of the ledger writes nothing. -/
@[simp]
theorem Draft.body_withLedger (draft : Draft) (ledger : Ledger) :
    (draft.withLedger ledger).body = draft.body := rfl

/-- The lines of a draft in writing are the lines of its body. -/
theorem Draft.lines_eq (draft : Draft) : draft.lines = draft.body.map Line.render := by
  rw [Draft.lines, Draft.body, List.map_map]
  rfl

namespace Machine

/-- A program from the entry of a symbol on. -/
def seek (symbol : String) : List String → Option (List String)
  | [] => none
  | entry :: rest => if entry = symbol ++ ":" then some (entry :: rest) else seek symbol rest

/-- One step of a program. Comments, blank entries and definitions of labels do nothing. -/
def step (oracle : Oracle) (program : List String) (now : Moment String) :
    Option (Moment String) :=
  match now.ahead with
  | [] => none
  | entry :: rest =>
    match sense entry with
    | .idle => some { now with ahead := rest }
    | .label _ => some { now with ahead := rest }
    | .jump symbol => (seek symbol program).map fun ahead => { now with ahead := ahead }
    | .test comparison operand value symbol =>
      if comparison.holds (oracle now.asked operand) value = true then
        (seek symbol program).map fun ahead => { now with ahead := ahead, asked := now.asked + 1 }
      else some { now with ahead := rest, asked := now.asked + 1 }
    | .stop => none
    | .shown => some { now with ahead := rest, trace := now.trace ++ [entry] }

/-- A program ends where it stops and behind its last entry. -/
def Ended (now : Moment String) : Prop :=
  now.ahead = [] ∨ now.ahead.head?.map sense = some .stop

/-- A program as a process. -/
def process (oracle : Oracle) (program : List String) : Process (Moment String) where
  step := step oracle program
  ended := Ended
  trace := Moment.trace
  rests := by
    rintro ⟨ahead, asked, trace⟩ (rfl | stops)
    · rfl
    · obtain ⟨entry, first, halts⟩ := Option.map_eq_some_iff.mp stops
      obtain ⟨rest, rfl⟩ := List.head?_eq_some_iff.mp first
      simp [step, halts]
  grows := by
    rintro ⟨ahead, asked, trace⟩ next moved
    cases ahead with
    | nil => cases moved
    | cons entry rest =>
      simp only [step] at moved
      split at moved
      case h_3 =>
        obtain ⟨found, _, rfl⟩ := Option.map_eq_some_iff.mp moved
        exact List.prefix_rfl
      case h_4 =>
        split at moved
        · obtain ⟨found, _, rfl⟩ := Option.map_eq_some_iff.mp moved
          exact List.prefix_rfl
        · obtain rfl := Option.some.inj moved
          exact List.prefix_rfl
      case h_5 => cases moved
      all_goals
        obtain rfl := Option.some.inj moved
        simp

end Machine

/-- What a conditional asks: how an operand compares with a value. -/
structure Question where
  comparison : Comparison
  operand : String
  value : Int
deriving DecidableEq, Repr

/-- Whether a question is answered with yes. -/
def Question.holds (question : Question) (answer : Int) : Bool :=
  question.comparison.holds answer question.value

namespace Event

/-- The question of a conditional. A variable is true when it is greater than zero. -/
def question? (event : Event) : Option Question :=
  match event.command with
  | "EVENT_IF_TRUE" => do
    let name ← event.name? "variable"
    return ⟨.greater, "VAR_VARIABLE_" ++ name, 0⟩
  | "EVENT_IF_VALUE" => do
    let operator ← event.text? "operator"
    let comparison ← comparisonNamed? operator
    let name ← event.name? "variable"
    let value ← event.number? "comparator"
    return ⟨comparison, "VAR_VARIABLE_" ++ name, value⟩
  | _ => none

/-- The attributes of a move, by its way and by whether it heeds collisions. -/
def attributes : Bool → MoveKind → String
  | true, .horizontal => "^/(.ACTOR_ATTR_CHECK_COLL | .ACTOR_ATTR_H_FIRST)/"
  | true, .vertical => ".ACTOR_ATTR_CHECK_COLL"
  | true, .diagonal => "^/(.ACTOR_ATTR_CHECK_COLL | .ACTOR_ATTR_DIAGONAL)/"
  | false, .horizontal => ".ACTOR_ATTR_H_FIRST"
  | false, .vertical => "0"
  | false, .diagonal => ".ACTOR_ATTR_DIAGONAL"

/-- The entry of a text. -/
def literalEntry (text : String) : String :=
  "        .asciz \"" ++ Assembly.escape text ++ "\""

/-- The entries that an event shows, which are those of its command with its arguments filled in. An
actor is given by its slot, and a tile by its place. -/
def shows (setting : Setting) (event : Event) : List String :=
  match event.command with
  | "EVENT_ACTOR_SET_ACTIVE" =>
    match (event.text? "actorId").map setting.slot with
    | some (.ok slot) => ["        VM_SET_CONST            ACTOR, " ++ toString slot]
    | _ => []
  | "EVENT_ACTOR_MOVE_TO" =>
    match event.number? "x", event.number? "y" with
    | some x, some y =>
      let way := ((event.text? "moveType").bind fun name => wayNames.lookup name).getD .horizontal
      let collide := (event.flag? "useCollisions").getD true
      ["        VM_SET_CONST            ^/(ACTOR + 1)/, " ++ toString (128 * x),
        "        VM_SET_CONST            ^/(ACTOR + 2)/, " ++ toString (128 * y),
        "        VM_SET_CONST            ^/(ACTOR + 3)/, " ++ attributes collide way,
        "        VM_ACTOR_MOVE_TO        ACTOR"]
    | _, _ => []
  | "EVENT_WAIT" =>
    match event.number? "frames" with
    | some frames =>
      ["        VM_PUSH_CONST           " ++ toString frames,
        "        VM_INVOKE               b_wait_frames, _wait_frames, 1, .ARG0"]
    | none => []
  | "EVENT_TEXT" =>
    match event.text? "text" with
    | some text =>
      ["        VM_LOAD_TEXT            0",
        literalEntry text,
        "        VM_OVERLAY_CLEAR        0, 0, 20, 4, .UI_COLOR_WHITE, " ++
          "^/(.UI_AUTO_SCROLL | .UI_DRAW_FRAME)/",
        "        VM_OVERLAY_MOVE_TO      0, 14, .OVERLAY_TEXT_IN_SPEED",
        "        VM_DISPLAY_TEXT",
        "        VM_OVERLAY_WAIT         .UI_MODAL, " ++
          "^/(.UI_WAIT_WINDOW | .UI_WAIT_TEXT | .UI_WAIT_BTN_A)/",
        "        VM_OVERLAY_MOVE_TO      0, 18, .OVERLAY_TEXT_OUT_SPEED",
        "        VM_OVERLAY_WAIT         .UI_MODAL, ^/(.UI_WAIT_WINDOW | .UI_WAIT_TEXT)/"]
    | none => []
  | "EVENT_DEBUG" =>
    match event.text? "text" with
    | some text => ["        VM_DEBUG                0", literalEntry text]
    | none => []
  | _ => []

end Event

/-- The lines that an action writes by itself, on an empty draft. -/
def Action.lines (setting : Setting) (action : Action) : List Line :=
  ((action.write setting).leaves {}).body

/-- Whether a line does something in the game. -/
def Assembly.Line.isShown : Line → Bool
  | .instruction _ _ => true
  | .literal _ => true
  | .raw _ => true
  | _ => false

namespace Walk

/-- What is left of events behind the first enabled event that defines a label, wherever it stands.
The arms of a conditional are looked at before the events after it, the one for false first. -/
def resume (name : String) : List Event → Option (List Event)
  | [] => none
  | event :: rest =>
    if event.disabled then resume name rest
    else if event.label? = some name then some rest
    else if event.isConditional then
      ((resume name (event.childrenOf "false")).map (· ++ rest)).or
        (((resume name (event.childrenOf "true")).map (· ++ rest)).or (resume name rest))
    else resume name rest
termination_by events => sizeOf events
decreasing_by
  all_goals simp only [List.cons.sizeOf_spec]
  all_goals try omega
  all_goals
    have first := event.sizeOf_childrenOf_lt "false"
    have second := event.sizeOf_childrenOf_lt "true"
    omega

/-- The events from the first enabled one on. -/
def enabled (events : List Event) : List Event := events.dropWhile (·.disabled)

/-- One step through events. A conditional puts its chosen arm before the events after it. -/
def step (oracle : Oracle) (setting : Setting) (whole : List Event) (now : Moment Event) :
    Option (Moment Event) :=
  match enabled now.ahead with
  | [] => none
  | event :: rest =>
    if event.isConditional then
      event.question?.map fun question =>
        let arm := if question.holds (oracle now.asked question.operand) then "true" else "false"
        { now with ahead := event.childrenOf arm ++ rest, asked := now.asked + 1 }
    else
      match event.command with
      | "EVENT_LABEL_GOTO" =>
        ((event.text? "label").bind fun name => resume name whole).map fun ahead =>
          { now with ahead := ahead }
      | "EVENT_END" => none
      | _ => some { now with ahead := rest, trace := now.trace ++ event.shows setting }

/-- A walk ends where an event stops it and where no enabled event is ahead. -/
def Ended (now : Moment Event) : Prop :=
  enabled now.ahead = [] ∨ (enabled now.ahead).head?.map (·.command) = some "EVENT_END"

/-- A list of events as a process. -/
def process (oracle : Oracle) (setting : Setting) (whole : List Event) :
    Process (Moment Event) where
  step := step oracle setting whole
  ended := Ended
  trace := Moment.trace
  rests := by
    rintro now (finished | stops)
    · simp [step, finished]
    · obtain ⟨event, first, ends⟩ := Option.map_eq_some_iff.mp stops
      obtain ⟨rest, next⟩ := List.head?_eq_some_iff.mp first
      simp [step, next, ends, Event.isConditional]
  grows := by
    intro now next moved
    unfold step at moved
    split at moved
    · cases moved
    · split at moved
      · obtain ⟨question, _, rfl⟩ := Option.map_eq_some_iff.mp moved
        exact List.prefix_rfl
      · split at moved
        · obtain ⟨found, _, rfl⟩ := Option.map_eq_some_iff.mp moved
          exact List.prefix_rfl
        · cases moved
        · obtain rfl := Option.some.inj moved
          exact List.prefix_append _ _

end Walk

end EventScript
