import EventScript.Event.Command
import EventScript.Proofs.Ledger

/-!
# What commands demand of their arguments

A table that says, for each command, which arguments it asks for, in which order, and what each of
them has to be. It knows nothing of how an event is read. From the table follow the first fault of
an event that cannot be read and, where it can be read, what its arguments give. The reading of an
event agrees with both.
-/
namespace EventScript

open Assembly (Comparison)

/-- What an argument has to be. -/
inductive Demand where
  | text
  /-- A text, or a whole number in its place. -/
  | name
  /-- A whole number between two bounds, both of them included. -/
  | number (low high : Int)
  /-- A truth value, which may be left out. -/
  | flag
  /-- The name of a way to a tile, which may be left out. -/
  | way
  /-- The name of a comparison. -/
  | comparison
deriving DecidableEq, Repr

/-- The demand for a number of a signed word of 32 bits. -/
def Demand.integer : Demand := .number (-2147483648) 2147483647

/-- The arguments that a command asks for, in the order of asking. Other commands are unknown. -/
def demandsOf? : String → Option (List (String × Demand))
  | "EVENT_ACTOR_SET_ACTIVE" => some [("actorId", .text)]
  | "EVENT_ACTOR_MOVE_TO" =>
    some [("moveType", .way), ("x", .integer), ("y", .integer), ("useCollisions", .flag)]
  | "EVENT_WAIT" => some [("frames", .number 0 65535)]
  | "EVENT_TEXT" => some [("text", .text)]
  | "EVENT_IF_TRUE" => some [("variable", .name)]
  | "EVENT_IF_VALUE" =>
    some [("operator", .comparison), ("variable", .name), ("comparator", .integer)]
  | "EVENT_LABEL_DEFINE" => some [("label", .text)]
  | "EVENT_LABEL_GOTO" => some [("label", .text)]
  | "EVENT_DEBUG" => some [("text", .text)]
  | "EVENT_END" => some []
  | _ => none

/-- The ways by their names. -/
def wayNames : List (String × MoveKind) :=
  [("horizontal", .horizontal), ("vertical", .vertical), ("diagonal", .diagonal)]

/-- The comparisons by their names, each a sign or a word with or without its dot. -/
def comparisonNames : List (String × Comparison) :=
  [("==", .equal), ("EQ", .equal), (".EQ", .equal),
    ("!=", .unequal), ("NE", .unequal), (".NE", .unequal),
    ("<", .less), ("LT", .less), (".LT", .less),
    (">", .greater), ("GT", .greater), (".GT", .greater),
    ("<=", .lessOrEqual), ("LTE", .lessOrEqual), (".LTE", .lessOrEqual),
    (">=", .greaterOrEqual), ("GTE", .greaterOrEqual), (".GTE", .greaterOrEqual)]

/-- The comparison that a text names, apart from blanks around it and from the case of letters. -/
def comparisonNamed? (name : String) : Option Comparison :=
  comparisonNames.lookup (String.ofList ((Text.trim name.toList).map Char.toUpper))

namespace Demand

/-- What an argument has to be, as a message says it. -/
def wording : Demand → String
  | name => "an id"
  | number _ _ => "a number"
  | flag => "true or false"
  | _ => "text"

/-- What is wrong with an argument under a key, or with its absence. -/
def misuse? (demand : Demand) (key : String) : Option Arg → Option Misuse
  | none =>
    match demand with
    | flag => none
    | way => none
    | _ => some (.missing key)
  | some arg =>
    match demand, arg with
    | text, .text _ => none
    | name, .text _ => none
    | name, .number _ => none
    | number low high, .number n => if low ≤ n ∧ n ≤ high then none else some (.outOfRange key n)
    | flag, .flag _ => none
    | way, .text given =>
      if (wayNames.lookup given).isSome then none else some (.unknownMoveKind given)
    | comparison, .text given =>
      if (comparisonNamed? given).isSome then none else some (.unknownOperator given)
    | _, other => some (.wrongKind key demand.wording other)

end Demand

namespace Event

/-- The text under a key. -/
def text? (event : Event) (key : String) : Option String :=
  match event.args.lookup key with
  | some (.text text) => some text
  | _ => none

/-- The name under a key, for which a number stands by its decimal digits. -/
def name? (event : Event) (key : String) : Option String :=
  match event.args.lookup key with
  | some (.text text) => some text
  | some (.number n) => some (toString n)
  | _ => none

/-- The number under a key. -/
def number? (event : Event) (key : String) : Option Int :=
  match event.args.lookup key with
  | some (.number n) => some n
  | _ => none

/-- The truth value under a key. -/
def flag? (event : Event) (key : String) : Option Bool :=
  match event.args.lookup key with
  | some (.flag value) => some value
  | _ => none

/-- The fault of the argument under a key. -/
def argumentFault? (event : Event) (key : String) (demand : Demand) : Option Fault :=
  (demand.misuse? key (event.args.lookup key)).map (.invalidArgument event.command)

/-- Why an event cannot be read: its command is unknown, or an argument is not what the command
demands, the first one that it asks for. -/
def misread? (event : Event) : Option Fault :=
  match demandsOf? event.command with
  | none => some (.unknownCommand event.id event.command)
  | some demands => demands.findSome? fun asked => event.argumentFault? asked.1 asked.2

/-- What an event with well-formed arguments asks for. -/
inductive Asks (event : Event) : Command → Prop where
  | setActive {actor : String} (named : event.command = "EVENT_ACTOR_SET_ACTIVE")
    (given : event.text? "actorId" = some actor) : Asks event (.act (.setActive actor))
  | moveTo {x y : Int} {collide : Bool} {kind : MoveKind}
    (named : event.command = "EVENT_ACTOR_MOVE_TO")
    (way : ((event.text? "moveType").bind fun name => wayNames.lookup name).getD .horizontal = kind)
    (right : event.number? "x" = some x) (down : event.number? "y" = some y)
    (collides : (event.flag? "useCollisions").getD true = collide) :
    Asks event (.act (.moveTo x y collide kind))
  | wait {frames : Nat} (named : event.command = "EVENT_WAIT")
    (given : event.number? "frames" = some (frames : Int)) : Asks event (.act (.wait frames))
  | say {text : String} (named : event.command = "EVENT_TEXT")
    (given : event.text? "text" = some text) : Asks event (.act (.say text))
  | isTrue {variableName : String} (named : event.command = "EVENT_IF_TRUE")
    (given : event.name? "variable" = some variableName) :
    Asks event (.choose (.isTrue variableName))
  | compare {variableName : String} {comparison : Comparison} {value : Int}
    (named : event.command = "EVENT_IF_VALUE")
    (operator : (event.text? "operator").bind comparisonNamed? = some comparison)
    (given : event.name? "variable" = some variableName)
    (comparator : event.number? "comparator" = some value) :
    Asks event (.choose (.compare variableName comparison value))
  | label {name : String} (named : event.command = "EVENT_LABEL_DEFINE")
    (given : event.text? "label" = some name) : Asks event (.act (.label name))
  | goto {name : String} (named : event.command = "EVENT_LABEL_GOTO")
    (given : event.text? "label" = some name) : Asks event (.act (.goto name))
  | debug {text : String} (named : event.command = "EVENT_DEBUG")
    (given : event.text? "text" = some text) : Asks event (.act (.debug text))
  | stop (named : event.command = "EVENT_END") : Asks event (.act .stop)

end Event

section Results

variable {α β : Type}

/-- The fault that a result may be. -/
def faultOf? : Except Fault α → Option Fault
  | .ok _ => none
  | .error fault => some fault

/-- A mapped result faults as the result does. -/
theorem faultOf?_map (change : α → β) (result : Except Fault α) :
    faultOf? (change <$> result) = faultOf? result := by
  cases result <;> rfl

/-- Of results in a row the first fault counts. -/
theorem faultOf?_bind {first : Except Fault α} {second : α → Except Fault β} {later? : Option Fault}
    (next : ∀ value, first = .ok value → faultOf? (second value) = later?) :
    faultOf? (first >>= second) = (faultOf? first).or later? := by
  cases first with
  | ok value => exact next value rfl
  | error fault => rfl

/-- A mapped result succeeds where the result does. -/
theorem map_eq_ok_iff {ε : Type} {result : Except ε α} {change : α → β} {value : β} :
    change <$> result = .ok value ↔ ∃ inner, result = .ok inner ∧ change inner = value := by
  cases result with
  | ok inner => simp
  | error fault => simp

/-- Results in a row succeed when the first does and the second does with its value. -/
theorem bind_eq_ok_iff {ε : Type} {first : Except ε α} {second : α → Except ε β} {value : β} :
    first >>= second = .ok value ↔ ∃ inner, first = .ok inner ∧ second inner = .ok value := by
  cases first with
  | ok inner => simp [Bind.bind, Except.bind]
  | error fault => simp [Bind.bind, Except.bind]

end Results

/-- The table of comparisons is the one that events are read by. -/
theorem comparisonNamed?_eq (name : String) : comparisonNamed? name = Comparison.ofText? name := by
  rw [comparisonNamed?, Comparison.ofText?]
  generalize String.ofList ((Text.trim name.toList).map Char.toUpper) = word
  split
  case h_19 => exact List.lookup_eq_none_iff.mpr (by simp_all [comparisonNames])
  all_goals rfl

/-- The table of ways is the one that events are read by. -/
theorem lookup_wayNames (name : String) : wayNames.lookup name = MoveKind.ofText? name := by
  rw [MoveKind.ofText?.eq_def]
  split
  case h_4 => exact List.lookup_eq_none_iff.mpr (by simp_all [wayNames])
  all_goals rfl

namespace Event

variable (event : Event) (key : String)

/-- A text is read as it is demanded. -/
theorem faultOf?_readText : faultOf? (event.readText key) = event.argumentFault? key .text := by
  rw [readText, argumentFault?]
  cases event.args.lookup key with
  | none => rfl
  | some arg => cases arg <;> rfl

/-- A name is read as it is demanded. -/
theorem faultOf?_readName : faultOf? (event.readName key) = event.argumentFault? key .name := by
  rw [readName, argumentFault?]
  cases event.args.lookup key with
  | none => rfl
  | some arg => cases arg <;> rfl

/-- A number is read as it is demanded. -/
theorem faultOf?_readNumber (interval : Interval) :
    faultOf? (event.readNumber interval key) =
      event.argumentFault? key (.number interval.low interval.high) := by
  rw [readNumber, argumentFault?]
  cases event.args.lookup key with
  | none => rfl
  | some arg =>
    cases arg with
    | number n =>
      simp only [interval.holds_iff, Demand.misuse?]
      split <;> rfl
    | _ => rfl

/-- A truth value is read as it is demanded. -/
theorem faultOf?_readFlag (default : Bool) :
    faultOf? (event.readFlag key default) = event.argumentFault? key .flag := by
  rw [readFlag, argumentFault?]
  cases event.args.lookup key with
  | none => rfl
  | some arg => cases arg <;> rfl

/-- A way is read as it is demanded. -/
theorem faultOf?_readMoveKind :
    faultOf? event.readMoveKind = event.argumentFault? "moveType" .way := by
  rw [readMoveKind, argumentFault?]
  cases found : event.args.lookup "moveType" with
  | none => rfl
  | some arg =>
    cases arg with
    | text name =>
      simp only [readText, found, Demand.misuse?, lookup_wayNames, Bind.bind, Except.bind]
      cases MoveKind.ofText? name <;> rfl
    | _ => simp only [readText, found]; rfl

/-- A comparison is read as it is demanded. -/
theorem faultOf?_readComparison :
    faultOf? event.readComparison = event.argumentFault? "operator" .comparison := by
  rw [readComparison, argumentFault?]
  cases found : event.args.lookup "operator" with
  | none => simp only [readText, found]; rfl
  | some arg =>
    cases arg with
    | text name =>
      simp only [readText, found, Demand.misuse?, comparisonNamed?_eq, Bind.bind, Except.bind]
      cases Comparison.ofText? name <;> rfl
    | _ => simp only [readText, found]; rfl

/-- A move asks for its arguments in the order of the table. -/
theorem faultOf?_readMove : faultOf? event.readMove =
    (event.argumentFault? "moveType" .way).or ((event.argumentFault? "x" .integer).or
      ((event.argumentFault? "y" .integer).or (event.argumentFault? "useCollisions" .flag))) := by
  have right := event.faultOf?_readNumber "x" (.signed 32)
  have down := event.faultOf?_readNumber "y" (.signed 32)
  have collides := event.faultOf?_readFlag "useCollisions" true
  rw [readMove, ← faultOf?_readMoveKind]
  refine faultOf?_bind fun kind _ => ?_
  refine (faultOf?_bind fun x _ => ?_).trans (congrArg (Option.or · _) right)
  refine (faultOf?_bind fun y _ => ?_).trans (congrArg (Option.or · _) down)
  exact (faultOf?_map _ _).trans collides

/-- A comparison asks for its arguments in the order of the table. -/
theorem faultOf?_readCompare : faultOf? event.readCompare =
    (event.argumentFault? "operator" .comparison).or ((event.argumentFault? "variable" .name).or
      (event.argumentFault? "comparator" .integer)) := by
  have value := event.faultOf?_readNumber "comparator" (.signed 32)
  rw [readCompare, ← faultOf?_readComparison, ← faultOf?_readName]
  refine faultOf?_bind fun comparison _ => faultOf?_bind fun name _ => ?_
  exact (faultOf?_map _ _).trans value

/-- Of a list of arguments the first that is not what is demanded counts. -/
theorem findSome?_argumentFault?_cons (demand : Demand) (rest : List (String × Demand)) :
    ((key, demand) :: rest).findSome? (fun asked => event.argumentFault? asked.1 asked.2) =
      (event.argumentFault? key demand).or
        (rest.findSome? fun asked => event.argumentFault? asked.1 asked.2) := by
  rw [List.findSome?_cons]
  cases event.argumentFault? key demand <;> rfl

/-- The reading of an event fails as the table of demands says, and only then. -/
theorem faultOf?_read : faultOf? event.read = event.misread? := by
  rw [read, misread?]
  split <;> rename_i named
  case h_3 =>
    have frames := event.faultOf?_readNumber "frames" (.unsigned 16)
    simp only [named, demandsOf?, findSome?_argumentFault?_cons, List.findSome?_nil, Option.or_none,
      bind_pure_comp, faultOf?_map]
    exact frames
  case h_11 =>
    have unknown : demandsOf? event.command = none := by
      rw [demandsOf?.eq_def]
      split <;> simp_all
    rw [unknown]
    rfl
  all_goals
    simp only [named, demandsOf?, findSome?_argumentFault?_cons, List.findSome?_nil, Option.or_none,
      bind_pure_comp, faultOf?_map, faultOf?_readText, faultOf?_readName, faultOf?_readMove,
      faultOf?_readCompare]
  rfl

variable {event} {key}

/-- A text stands under a key where the argument there is that text. -/
theorem text?_eq_some_iff {text : String} :
    event.text? key = some text ↔ event.args.lookup key = some (.text text) := by
  rw [text?]
  cases event.args.lookup key with
  | none => simp
  | some arg => cases arg <;> simp

/-- A text that is read is the text under its key. -/
theorem text?_of_readText {text : String} (read : event.readText key = .ok text) :
    event.text? key = some text := by
  rw [readText] at read
  rw [text?]
  split at read
  case h_1 found => rw [found, Except.ok.inj read]
  all_goals cases read

/-- A name that is read is the name under its key. -/
theorem name?_of_readName {name : String} (read : event.readName key = .ok name) :
    event.name? key = some name := by
  rw [readName] at read
  rw [name?]
  split at read
  case h_1 found => rw [found, Except.ok.inj read]
  case h_2 found => rw [found, ← Except.ok.inj read]
  all_goals cases read

/-- A number that is read is the number under its key, and lies in the interval. -/
theorem number?_of_readNumber {interval : Interval} {n : Int}
    (read : event.readNumber interval key = .ok n) :
    event.number? key = some n ∧ interval.holds n = true := by
  rw [readNumber] at read
  rw [number?]
  split at read
  case h_1 found =>
    split at read
    case isTrue held =>
      obtain rfl := Except.ok.inj read
      exact ⟨by rw [found], held⟩
    case isFalse => cases read
  all_goals cases read

/-- A truth value that is read is the one under its key, or the one that stands for none. -/
theorem flag?_of_readFlag {default value : Bool} (read : event.readFlag key default = .ok value) :
    (event.flag? key).getD default = value := by
  rw [readFlag] at read
  rw [flag?]
  split at read
  case h_1 found => rw [found, ← Except.ok.inj read, Option.getD_some]
  case h_2 => cases read
  case h_3 absent => rw [absent, ← Except.ok.inj read, Option.getD_none]

/-- A way that is read is the one that is named, or horizontal where none is. -/
theorem way_of_readMoveKind {kind : MoveKind} (read : event.readMoveKind = .ok kind) :
    ((event.text? "moveType").bind fun name => wayNames.lookup name).getD .horizontal = kind := by
  rw [readMoveKind] at read
  split at read
  next absent => rw [text?, absent, ← Except.ok.inj read, Option.bind_none, Option.getD_none]
  next found =>
    obtain ⟨name, given, read⟩ := bind_eq_ok_iff.mp read
    rw [text?_of_readText given, Option.bind_some, lookup_wayNames]
    split at read
    next known => rw [known, ← Except.ok.inj read, Option.getD_some]
    next => cases read

/-- A comparison that is read is the one that is named. -/
theorem comparisonNamed?_of_readComparison {comparison : Comparison}
    (read : event.readComparison = .ok comparison) :
    (event.text? "operator").bind comparisonNamed? = some comparison := by
  obtain ⟨name, given, read⟩ := bind_eq_ok_iff.mp read
  rw [text?_of_readText given, Option.bind_some, comparisonNamed?_eq]
  split at read
  next known => rw [known, Except.ok.inj read]
  next => cases read

/-- An event that can be read asks for what it is read as. -/
theorem asks_of_read {command : Command} (read : event.read = .ok command) :
    event.Asks command := by
  rw [Event.read] at read
  split at read <;> rename_i named
  case h_1 =>
    obtain ⟨actor, given, ⟨⟩⟩ := bind_eq_ok_iff.mp read
    exact .setActive named (text?_of_readText given)
  case h_2 =>
    obtain ⟨action, moves, ⟨⟩⟩ := bind_eq_ok_iff.mp read
    obtain ⟨kind, way, moves⟩ := bind_eq_ok_iff.mp moves
    obtain ⟨x, right, moves⟩ := bind_eq_ok_iff.mp moves
    obtain ⟨y, down, moves⟩ := bind_eq_ok_iff.mp moves
    obtain ⟨collide, collides, ⟨⟩⟩ := bind_eq_ok_iff.mp moves
    exact .moveTo named (way_of_readMoveKind way) (number?_of_readNumber right).1
      (number?_of_readNumber down).1 (flag?_of_readFlag collides)
  case h_3 =>
    obtain ⟨frames, given, ⟨⟩⟩ := bind_eq_ok_iff.mp read
    obtain ⟨given, held⟩ := number?_of_readNumber given
    have positive : 0 ≤ frames := ((Interval.holds_iff _ _).mp held).1
    exact .wait named (by rw [given, Int.toNat_of_nonneg positive])
  case h_4 =>
    obtain ⟨text, given, ⟨⟩⟩ := bind_eq_ok_iff.mp read
    exact .say named (text?_of_readText given)
  case h_5 =>
    obtain ⟨name, given, ⟨⟩⟩ := bind_eq_ok_iff.mp read
    exact .isTrue named (name?_of_readName given)
  case h_6 =>
    obtain ⟨condition, compares, ⟨⟩⟩ := bind_eq_ok_iff.mp read
    obtain ⟨comparison, operator, compares⟩ := bind_eq_ok_iff.mp compares
    obtain ⟨name, given, compares⟩ := bind_eq_ok_iff.mp compares
    obtain ⟨value, comparator, ⟨⟩⟩ := bind_eq_ok_iff.mp compares
    exact .compare named (comparisonNamed?_of_readComparison operator) (name?_of_readName given)
      (number?_of_readNumber comparator).1
  case h_7 =>
    obtain ⟨name, given, ⟨⟩⟩ := bind_eq_ok_iff.mp read
    exact .label named (text?_of_readText given)
  case h_8 =>
    obtain ⟨name, given, ⟨⟩⟩ := bind_eq_ok_iff.mp read
    exact .goto named (text?_of_readText given)
  case h_9 =>
    obtain ⟨text, given, ⟨⟩⟩ := bind_eq_ok_iff.mp read
    exact .debug named (text?_of_readText given)
  case h_10 =>
    cases read
    exact .stop named
  case h_11 => cases read

end Event

end EventScript
