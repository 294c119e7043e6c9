import EventScript.Proofs.Acceptance
import EventScript.Proofs.Literals
import EventScript.Proofs.Numbering
import EventScript.Proofs.Reaching

/-!
# Whose line is whose

Each line of a lowered script is owed to one event. Six belong to each conditional itself. All
others belong to the events that do one thing, and there they are the lines that each of these
events writes by itself on an empty draft, one event after the other in the order of lowering. So
what an event writes does not depend on where it stands, and no event is left out, written twice or
moved, not even in an arm that is never entered when the script runs. In particular the literals
among the lines are the texts that the events bring, in their order.
-/
namespace EventScript

open Assembly (Line readText?)
open Event (conditionals inOrder)

/-- A line with its owner: a conditional by its index, or else the events that do one thing. -/
abbrev OwnedLine := Option Nat × Line

/-- The lines of one owner. -/
def linesOf (owner : Option Nat) (owned : List OwnedLine) : List Line :=
  (owned.filter fun line => line.1 = owner).map (·.2)

/-- Lines that have one owner. -/
def ownedBy (owner : Option Nat) (lines : List Line) : List OwnedLine :=
  lines.map fun line => (owner, line)

section Owners

variable {owner other : Option Nat} {owned : List OwnedLine} {lines : List Line}

/-- The lines of an owner come in the order in which they are written. -/
theorem linesOf_append (first second : List OwnedLine) :
    linesOf owner (first ++ second) = linesOf owner first ++ linesOf owner second := by
  simp [linesOf]

/-- Lines of one owner are all of them or none. -/
theorem linesOf_ownedBy :
    linesOf owner (ownedBy other lines) = if other = owner then lines else [] := by
  by_cases same : other = owner <;>
    simp [linesOf, ownedBy, List.filter_map, Function.comp_def, same]

/-- Who owns no line has none. -/
theorem linesOf_eq_nil (foreign : ∀ line, (owner, line) ∉ owned) : linesOf owner owned = [] := by
  rw [linesOf, List.map_eq_nil_iff, List.filter_eq_nil_iff]
  rintro ⟨whose, line⟩ member same
  exact foreign line (of_decide_eq_true same ▸ member)

/-- An owner is told beside its lines, which stay what they are. -/
theorem map_ownedBy : (ownedBy owner lines).map (·.2) = lines := by
  simp [ownedBy, Function.comp_def]

end Owners

namespace Event

/-- The enabled events that do one thing, in the order of lowering. -/
def leaves (events : List Event) : List Event :=
  (inOrder events).filter fun event => !event.isConditional

/-- Where there are no events, none does one thing. -/
theorem leaves_nil : leaves [] = [] := by
  rw [leaves, inOrder, List.filter_nil]

/-- A disabled event is passed over, and so is what stands under it. -/
theorem leaves_disabled {event : Event} (rest : List Event) (disabled : event.disabled = true) :
    leaves (event :: rest) = leaves rest := by
  rw [leaves, inOrder_disabled rest disabled, leaves]

/-- An action does one thing. -/
theorem leaves_act {event : Event} {action : Action} (rest : List Event)
    (enabled : ¬event.disabled = true) (read : event.read = .ok (.act action)) :
    leaves (event :: rest) = event :: leaves rest := by
  rw [leaves, inOrder_act rest enabled read,
    List.filter_cons_of_pos (by simp [isConditional_of_act read]), leaves]

/-- A conditional is no such event itself. Those in its arm for false come first. -/
theorem leaves_choose {event : Event} {condition : Condition} (rest : List Event)
    (enabled : ¬event.disabled = true) (read : event.read = .ok (.choose condition)) :
    leaves (event :: rest) =
      leaves (event.childrenOf "false") ++ (leaves (event.childrenOf "true") ++ leaves rest) := by
  rw [leaves, filter_inOrder_choose _ rest enabled read,
    List.filter_cons_of_neg (by simp [isConditional_of_choose read])]
  rfl

/-- The lines that an event writes by itself, on an empty draft. -/
def alone (setting : Setting) (event : Event) : List Line :=
  ((lowerEvents setting [event]).leaves {}).body

/-- An event that does one thing is lowered as its action is carried out. -/
theorem lowerEvents_singleton {setting : Setting} {event : Event} {action : Action}
    (enabled : ¬event.disabled = true) (read : event.read = .ok (.act action)) :
    lowerEvents setting [event] = action.write setting := by
  rw [lowerEvents_enabled [] enabled, Event.lower_eq, read]
  exact bind_pure_unit

/-- An event that does one thing writes the lines of its action. -/
theorem alone_eq {setting : Setting} {event : Event} {action : Action}
    (enabled : ¬event.disabled = true) (read : event.read = .ok (.act action)) :
    event.alone setting = action.lines setting := by
  rw [alone, lowerEvents_singleton enabled read, Action.lines]

/-- An event that has no fault after some labels succeeds by itself. -/
theorem exists_lowerEvents_singleton {setting : Setting} {event : Event} {action : Action}
    {known : List String} (enabled : ¬event.disabled = true)
    (read : event.read = .ok (.act action)) (faultless : event.fault? setting known = none) :
    ∃ after, lowerEvents setting [event] {} = .ok () after := by
  have single : inOrder [event] = [event] := by
    rw [inOrder_act [] enabled read, inOrder]
  have first : event.fault? setting [] = none := by
    rw [fault?_of_act read] at faultless ⊢
    cases action with
    | label name => simpa [Action.fault?] using (Option.or_eq_none_iff.mp faultless).1
    | _ => exact faultless
  have judged := adds_lowerEvents setting [event] [] [] [] {} Ledger.tells_empty
  rw [single, firstFault?, first, firstFault?, Option.or_none] at judged
  obtain ⟨_, after, ran, _⟩ := judged
  exact ⟨after, ran⟩

end Event

/-- How lines are shared out among events, if the conditional that comes first has the given index.
-/
structure Shares (setting : Setting) (index : Nat) (events : List Event)
    (owned : List OwnedLine) : Prop where
  leaves : linesOf none owned = (Event.leaves events).flatMap (Event.alone setting)
  own : ∀ event number, (event, number) ∈ (conditionals events).zipIdx index →
    ∃ condition, event.read = .ok (.choose condition) ∧ linesOf (some number) owned =
      condition.frame (toString (2 * number + 1)) (toString (2 * number + 2)) [] []
  range : ∀ number line, (some number, line) ∈ owned →
    index ≤ number ∧ number < index + (conditionals events).length

namespace Shares

variable {setting : Setting} {index : Nat} {events : List Event}
  {owned : List OwnedLine}

/-- No line is owed to a conditional of another index. -/
theorem linesOf_eq_nil (shares : Shares setting index events owned) (number : Nat)
    (outside : number < index ∨ index + (conditionals events).length ≤ number) :
    linesOf (some number) owned = [] := by
  apply EventScript.linesOf_eq_nil
  intro line member
  have range := shares.range number line member
  omega

/-- Events without lines share nothing. -/
theorem nil : Shares setting index [] [] where
  leaves := by
    rw [Event.leaves_nil]
    rfl
  own := by simp [Event.conditionals_nil]
  range := by simp

/-- A disabled event has no share. -/
theorem skip {event : Event} (disabled : event.disabled = true)
    (rest : Shares setting index events owned) : Shares setting index (event :: events) owned := by
  constructor
  · rw [Event.leaves_disabled _ disabled]
    exact rest.leaves
  · rw [Event.conditionals_disabled _ disabled]
    exact rest.own
  · rw [Event.conditionals_disabled _ disabled]
    exact rest.range

/-- An event that does one thing has the lines of its action for its share. -/
theorem act {event : Event} {action : Action} (enabled : ¬event.disabled = true)
    (read : event.read = .ok (.act action)) (rest : Shares setting index events owned) :
    Shares setting index (event :: events) (ownedBy none (action.lines setting) ++ owned) := by
  constructor
  · rw [Event.leaves_act _ enabled read, linesOf_append, linesOf_ownedBy, if_pos rfl, rest.leaves,
      List.flatMap_cons, Event.alone_eq enabled read]
  · intro event number listed
    rw [Event.conditionals_act _ enabled read] at listed
    rw [linesOf_append, linesOf_ownedBy, if_neg (by simp), List.nil_append]
    exact rest.own event number listed
  · intro number line member
    rw [Event.conditionals_act _ enabled read]
    rcases List.mem_append.mp member with own | later
    · simp [ownedBy] at own
    · exact rest.range number line later

/-- The lines of a conditional with those of its arms and those behind it, each with its owner. -/
def framed (condition : Condition) (index : Nat) (whenFalse whenTrue owned : List OwnedLine) :
    List OwnedLine :=
  let chosen := toString (2 * index + 1)
  let join := toString (2 * index + 2)
  ownedBy (some index) (condition.opening ++ [condition.test chosen]) ++ whenFalse ++
    ownedBy (some index) [.jump join, .label chosen] ++ whenTrue ++
    ownedBy (some index) (.label join :: condition.closing) ++ owned

/-- Another owner than a conditional has no lines in its frame but those in its arms. -/
theorem linesOf_framed {owner : Option Nat} (other : some index ≠ owner) (condition : Condition)
    (whenFalse whenTrue : List OwnedLine) :
    linesOf owner (framed condition index whenFalse whenTrue owned) =
      linesOf owner whenFalse ++ (linesOf owner whenTrue ++ linesOf owner owned) := by
  simp [framed, linesOf_append, linesOf_ownedBy, other]

/-- A conditional has its frame without the arms for its share, and the shares in its arms and
behind it are those that these have alone. -/
theorem choose {event : Event} {condition : Condition}
    {whenFalse whenTrue : List OwnedLine} (enabled : ¬event.disabled = true)
    (read : event.read = .ok (.choose condition))
    (onFalse : Shares setting (index + 1) (event.childrenOf "false") whenFalse)
    (onTrue : Shares setting (index + 1 + (conditionals (event.childrenOf "false")).length)
      (event.childrenOf "true") whenTrue)
    (rest : Shares setting (index + 1 + (conditionals (event.childrenOf "false")).length +
      (conditionals (event.childrenOf "true")).length) events owned) :
    Shares setting index (event :: events) (framed condition index whenFalse whenTrue owned) := by
  constructor
  · rw [Event.leaves_choose _ enabled read, linesOf_framed (by simp), onFalse.leaves, onTrue.leaves,
      rest.leaves, List.flatMap_append, List.flatMap_append]
  · intro asking number listed
    rw [Event.conditionals_choose _ enabled read, List.zipIdx_cons, List.zipIdx_append,
      List.zipIdx_append, List.mem_cons, List.mem_append, List.mem_append] at listed
    rcases listed with here | inFalse | inTrue | later
    · obtain ⟨rfl, rfl⟩ := Prod.mk.inj here
      refine ⟨condition, read, ?_⟩
      have noFalse := onFalse.linesOf_eq_nil number (by omega)
      have noTrue := onTrue.linesOf_eq_nil number (by omega)
      have noRest := rest.linesOf_eq_nil number (by omega)
      simp [framed, linesOf_append, linesOf_ownedBy, noFalse, noTrue, noRest, Condition.frame]
    · have least := List.le_snd_of_mem_zipIdx inFalse
      have most := List.snd_lt_add_of_mem_zipIdx inFalse
      rw [linesOf_framed (by simp; omega), onTrue.linesOf_eq_nil number (by omega),
        rest.linesOf_eq_nil number (by omega), List.append_nil, List.append_nil]
      exact onFalse.own asking number inFalse
    · have least := List.le_snd_of_mem_zipIdx inTrue
      have most := List.snd_lt_add_of_mem_zipIdx inTrue
      rw [linesOf_framed (by simp; omega), onFalse.linesOf_eq_nil number (by omega),
        rest.linesOf_eq_nil number (by omega), List.append_nil, List.nil_append]
      exact onTrue.own asking number inTrue
    · have least := List.le_snd_of_mem_zipIdx later
      rw [linesOf_framed (by simp; omega), onFalse.linesOf_eq_nil number (by omega),
        onTrue.linesOf_eq_nil number (by omega), List.nil_append, List.nil_append]
      exact rest.own asking number later
  · intro number line member
    rw [Event.conditionals_choose _ enabled read, List.length_cons, List.length_append,
      List.length_append]
    have inFalse := onFalse.range number line
    have inTrue := onTrue.range number line
    have later := rest.range number line
    simp only [framed, ownedBy, List.mem_append, List.mem_map, Prod.mk.injEq, Option.some.injEq]
      at member
    grind

end Shares

/-- Numbered lines can be shared out among their events. -/
theorem Numbered.exists_shares {setting : Setting} {events : List Event} {lines : List Line}
    {number last : Nat} (numbered : Numbered setting number events lines last) (index : Nat)
    (counted : number = 2 * index + 1) :
    ∃ owned, owned.map (·.2) = lines ∧ Shares setting index events owned := by
  induction numbered generalizing index with
  | nil number => exact ⟨[], rfl, .nil⟩
  | skip disabled _ inductionHypothesis =>
    obtain ⟨owned, same, shares⟩ := inductionHypothesis index counted
    exact ⟨owned, same, shares.skip disabled⟩
  | act enabled read _ _ inductionHypothesis =>
    obtain ⟨owned, same, shares⟩ := inductionHypothesis index counted
    refine ⟨_, ?_, shares.act enabled read⟩
    rw [List.map_append, map_ownedBy, same]
  | @choose event condition events whenFalse whenTrue lines number middle behind last enabled read
      onFalse onTrue rest falseHypothesis trueHypothesis inductionHypothesis =>
    have risen := onFalse.last_eq
    have further := onTrue.last_eq
    obtain ⟨falseOwned, falseSame, falseShares⟩ := falseHypothesis (index + 1) (by omega)
    obtain ⟨trueOwned, trueSame, trueShares⟩ := trueHypothesis
      (index + 1 + (conditionals (event.childrenOf "false")).length) (by omega)
    obtain ⟨owned, same, shares⟩ := inductionHypothesis
      (index + 1 + (conditionals (event.childrenOf "false")).length +
        (conditionals (event.childrenOf "true")).length) (by omega)
    refine ⟨_, ?_, falseShares.choose enabled read trueShares shares⟩
    simp [Shares.framed, map_ownedBy, falseSame, trueSame, same, counted, Condition.frame]

/-- Whether an event brings a text into the script. -/
def Event.speaks (event : Event) : Bool :=
  event.command == "EVENT_TEXT" || event.command == "EVENT_DEBUG"

/-- The text arguments of the enabled events that bring texts, in the order of lowering. -/
def Event.texts (events : List Event) : List (Option Arg) :=
  ((inOrder events).filter Event.speaks).map fun event => event.args.lookup "text"

/-- The text that an action brings. -/
def Action.text? : Action → Option String
  | say text => some text
  | debug text => some text
  | _ => none

/-- An action that brings a text is read from the text argument of an event that speaks, and any
other action from an event that does not. -/
theorem Event.texts_of_act {event : Event} {action : Action}
    (read : event.read = .ok (.act action)) :
    ([event].filter Event.speaks).map (fun event => event.args.lookup "text") =
      action.text?.toList.map fun text => some (.text text) := by
  have named := command_of_act read
  have given : ∀ text, action.text? = some text → event.args.lookup "text" = some (.text text) := by
    intro text brings
    cases asks_of_read read with
    | say _ found => exact Option.some.inj brings ▸ text?_eq_some_iff.mp found
    | debug _ found => exact Option.some.inj brings ▸ text?_eq_some_iff.mp found
    | _ => cases brings
  cases action with
  | say text => simp [speaks, named, Action.commandName, Action.text?, given text rfl]
  | debug text => simp [speaks, named, Action.commandName, Action.text?, given text rfl]
  | _ => simp [speaks, named, Action.commandName, Action.text?, moveToCommand]

/-- Conditionals bring no texts. -/
theorem Event.speaks_of_choose {event : Event} {condition : Condition}
    (read : event.read = .ok (.choose condition)) : event.speaks = false := by
  have asks := isConditional_of_choose read
  simp only [isConditional, Bool.or_eq_true, beq_iff_eq] at asks
  rcases asks with named | named <;> simp [speaks, named]

/-- The texts of a conditional are those in its arms. -/
theorem Event.texts_choose {event : Event} {condition : Condition} (rest : List Event)
    (enabled : ¬event.disabled = true) (read : event.read = .ok (.choose condition)) :
    texts (event :: rest) =
      texts (event.childrenOf "false") ++ (texts (event.childrenOf "true") ++ texts rest) := by
  rw [texts, filter_inOrder_choose _ rest enabled read,
    List.filter_cons_of_neg (by simp [speaks_of_choose read]), List.filter_nil, List.nil_append,
    List.map_append, List.map_append]
  rfl

/-- The lines of an action are its own, and the literal among them is its text. -/
theorem Action.texts {setting : Setting} {action : Action} (sound : action.Sound setting) :
    (action.lines setting).all Line.isOwn = true ∧
      (action.lines setting).filterMap Line.text? = action.text?.toList := by
  cases action with
  | setActive actor =>
    rw [lines_setActive]
    cases setting.slot actor <;> exact ⟨rfl, rfl⟩
  | moveTo x y collide kind =>
    rw [lines_moveTo]
    cases tilePlace "x" x with
    | error fault => exact ⟨rfl, rfl⟩
    | ok across => cases tilePlace "y" y <;> exact ⟨rfl, rfl⟩
  | label name =>
    rw [lines_label (sound.allowed name (.inl rfl))]
    exact ⟨rfl, rfl⟩
  | goto name =>
    rw [lines_goto (sound.allowed name (.inr rfl))]
    exact ⟨rfl, rfl⟩
  | _ => exact ⟨rfl, rfl⟩

/-- The lines of events are their own, and the literals among them are the texts of the events. -/
theorem Lays.texts {setting : Setting} {events : List Event} {lines : List Line}
    (laid : Lays setting events lines) :
    lines.all Line.isOwn = true ∧
      (lines.filterMap Line.text?).map (fun text => some (.text text)) = Event.texts events := by
  induction laid with
  | nil =>
    rw [Event.texts, Event.inOrder]
    exact ⟨rfl, rfl⟩
  | skip disabled _ inductionHypothesis =>
    rwa [Event.texts, Event.inOrder_disabled _ disabled]
  | @act event action events lines enabled read sound _ inductionHypothesis =>
    obtain ⟨own, brought⟩ := inductionHypothesis
    obtain ⟨ownHere, here⟩ := action.texts sound
    refine ⟨by rw [List.all_append, ownHere, own, Bool.true_and], ?_⟩
    rw [Event.texts, Event.inOrder_act _ enabled read, ← List.singleton_append, List.filter_append,
      List.map_append, Event.texts_of_act read, List.filterMap_append, List.map_append, here,
      brought, Event.texts]
  | @choose event condition events chosen join whenFalse whenTrue lines enabled read _ _ _ _ _
      falseHypothesis trueHypothesis inductionHypothesis =>
    obtain ⟨falseOwn, falseBrought⟩ := falseHypothesis
    obtain ⟨trueOwn, trueBrought⟩ := trueHypothesis
    obtain ⟨own, brought⟩ := inductionHypothesis
    have opened : condition.opening.all Line.isOwn = true ∧
        condition.opening.filterMap Line.text? = [] := by
      cases condition <;> exact ⟨rfl, rfl⟩
    have closed : condition.closing.all Line.isOwn = true ∧
        condition.closing.filterMap Line.text? = [] := by
      cases condition <;> exact ⟨rfl, rfl⟩
    have tested : (condition.test chosen).isOwn = true ∧ (condition.test chosen).text? = none := by
      cases condition <;> exact ⟨rfl, rfl⟩
    have jumps : (Line.jump join).isOwn = true ∧ (Line.jump join).text? = none := ⟨rfl, rfl⟩
    have labels : ∀ name, (Line.label name).isOwn = true ∧ (Line.label name).text? = none :=
      fun _ => ⟨rfl, rfl⟩
    rw [condition.frame_append]
    constructor
    · simp only [List.all_append, List.all_cons, opened, closed, tested, jumps, labels, falseOwn,
        trueOwn, own, Bool.and_true]
    · simp only [List.filterMap_append, List.filterMap_cons, List.map_append, opened, closed,
        tested, jumps, labels, falseBrought, trueBrought, brought, List.nil_append]
      exact (Event.texts_choose _ enabled read).symm

/-- The events that do one thing are enabled and can be read. -/
theorem Lays.exists_act {setting : Setting} {events : List Event} {lines : List Line}
    (laid : Lays setting events lines) {event : Event} (member : event ∈ Event.leaves events) :
    ¬event.disabled = true ∧ ∃ action, event.read = .ok (.act action) := by
  induction laid with
  | nil => simp [Event.leaves_nil] at member
  | skip disabled _ inductionHypothesis =>
    rw [Event.leaves_disabled _ disabled] at member
    exact inductionHypothesis member
  | act enabled read _ _ inductionHypothesis =>
    rw [Event.leaves_act _ enabled read, List.mem_cons] at member
    rcases member with rfl | later
    · exact ⟨enabled, _, read⟩
    · exact inductionHypothesis later
  | choose enabled read _ _ _ _ _ falseHypothesis trueHypothesis inductionHypothesis =>
    rw [Event.leaves_choose _ enabled read, List.mem_append, List.mem_append] at member
    rcases member with inFalse | inTrue | later
    · exact falseHypothesis inFalse
    · exact trueHypothesis inTrue
    · exact inductionHypothesis later

/-- The six lines of a conditional that an event asks for. -/
theorem Event.exists_title {event : Event} {condition : Condition}
    (read : event.read = .ok (.choose condition)) (chosen join : String) :
    ∃ title, condition.opening = [.comment title] ∧ condition.frame chosen join [] [] =
      [.comment title, condition.test chosen, .jump join, .label chosen, .label join, .blank] := by
  cases condition with
  | isTrue variableName => exact ⟨_, rfl, rfl⟩
  | compare variableName comparison value => exact ⟨_, rfl, rfl⟩
  | operand symbol comparison value => exact absurd read (event.read_ne_operand _ _ _)

/-- An event that says something. -/
def said (text : String) (disabled : Bool) : Event :=
  { command := "EVENT_TEXT", args := [("text", .text text)], disabled := disabled }

/-- A conditional with texts in both arms, one of them disabled, and a text behind it. -/
def branchingEvents : List Event :=
  [{ command := "EVENT_IF_TRUE"
     args := [("variable", .text "0")]
     children :=
      [("true", [said "yes" false]), ("false", [said "no" false, said "never" true])] },
    said "a \"quote\"" false]

end EventScript
