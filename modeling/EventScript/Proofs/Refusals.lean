import EventScript.Proofs.Composition
import EventScript.Proofs.Reaching

/-!
# Badly formed events

An event is badly formed where its command is not known, where an argument is missing, of another
kind or out of range, or where it names a label that is reserved. This is a matter of its command
and its arguments, and it is settled before the event has written a line. So every draft refuses
such an event alike and stays as it was, whatever is under the event and whatever comes after it.
What only the scene, the labels or the stack can tell comes later, and those faults are of other
kinds.
-/
namespace EventScript

open Assembly (Comparison Line)

/-- Whether a fault is one of what was asked for, be it a command, an argument or a document. -/
def Fault.isMalformed : Fault → Bool
  | unknownCommand _ _ => true
  | invalidArgument _ _ => true
  | duplicateScript _ => true
  | badDocument _ => true
  | _ => false

namespace Writing

variable {α β : Type}

/-- A writing that is never refused as badly formed. -/
def Formed (writing : Writing α) : Prop :=
  ∀ draft fault after, writing draft = .error fault after → fault.isMalformed = false

/-- Well-formed writings in a row are well formed. -/
theorem Formed.bind {first : Writing α} {second : α → Writing β} (start : Formed first)
    (next : ∀ value, Formed (second value)) : Formed (first >>= second) := by
  intro draft fault after failed
  obtain early | ⟨value, middle, _, late⟩ := run_bind_eq_error_iff.mp failed
  · exact start _ _ _ early
  · exact next value _ _ _ late

/-- A line is well formed. -/
theorem formed_line (line : Line) : Formed (Writing.line line) :=
  fun _ _ _ failed => by cases failed

/-- An instruction that addresses the local actor is well formed. -/
theorem formed_address (field : Nat) (mnemonic : String) (operands : List Assembly.Operand) :
    Formed (address field mnemonic operands) := fun _ _ _ failed => by cases failed

/-- Reading the depth is well formed. -/
theorem formed_depth : Formed depth := fun _ _ _ failed => by cases failed

/-- A depth that is not met is no fault of what was asked for. -/
theorem formed_expectDepth (site : String) (expected : Nat) :
    Formed (expectDepth site expected) := by
  intro draft fault after failed
  rw [run_expectDepth] at failed
  split at failed
  · cases failed
  · cases failed
    rfl

/-- An answer is well formed if its fault is. -/
theorem formed_answer {result : Except Fault α}
    (formed : ∀ fault, result = .error fault → fault.isMalformed = false) :
    Formed (answer result) := by
  intro draft fault after failed
  cases result with
  | ok value => cases failed
  | error other =>
    cases failed
    exact formed _ rfl

/-- An operation on the ledger is well formed if its faults are. -/
theorem formed_onLedger {operation : Ledger.Operation α}
    (formed : ∀ ledger fault after, operation ledger = .error fault after →
      fault.isMalformed = false) :
    Formed (onLedger operation) := by
  intro draft fault after failed
  rw [run_onLedger] at failed
  split at failed
  · cases failed
  next refused =>
    cases failed
    exact formed _ _ _ refused

/-- Pushing words is well formed. -/
theorem formed_push (words : Nat) : Formed (onLedger (Ledger.push words)) :=
  formed_onLedger fun _ _ _ failed => by cases failed

/-- Taking a number is well formed. -/
theorem formed_freshLabel : Formed (onLedger Ledger.freshLabel) :=
  formed_onLedger fun _ _ _ failed => by cases failed

/-- Too few words on the stack are no fault of what was asked for. -/
theorem formed_pop (words : Nat) : Formed (onLedger (Ledger.pop words)) := by
  refine formed_onLedger fun ledger fault after failed => ?_
  obtain ⟨_, refused⟩ | ⟨_, done⟩ := Ledger.pop_cases ledger words
  · cases refused.symm.trans failed
    rfl
  · cases done.symm.trans failed

/-- A jump that the ledger refuses is no fault of what was asked for. -/
theorem formed_ledgerJump (name : String) : Formed (onLedger (Ledger.jump name)) := by
  refine formed_onLedger fun ledger fault after failed => ?_
  obtain ⟨_, _, _, refused⟩ | ⟨_, done⟩ | ⟨_, done⟩ := Ledger.jump_cases ledger name
  · cases refused.symm.trans failed
    rfl
  · cases done.symm.trans failed
  · cases done.symm.trans failed

/-- A label that the ledger refuses is no fault of what was asked for. -/
theorem formed_define (name : String) : Formed (onLedger (Ledger.define name)) := by
  refine formed_onLedger fun ledger fault after failed => ?_
  obtain ⟨_, _, refused⟩ | ⟨_, _, _, _, refused⟩ | ⟨_, _, done⟩ := Ledger.define_cases ledger name
  · cases refused.symm.trans failed
    rfl
  · cases refused.symm.trans failed
    rfl
  · cases done.symm.trans failed

/-- Putting a label is well formed. -/
theorem formed_label (name : String) : Formed (label name) :=
  (formed_define name).bind fun _ => formed_line _

/-- A line that jumps is well formed. -/
theorem formed_jump (name : String) (line : Line) :
    Formed (do onLedger (Ledger.jump name); Writing.line line) :=
  (formed_ledgerJump name).bind fun _ => formed_line _

/-- A writing that is refused as badly formed by every draft if by one, and then at once. -/
def Prompt (writing : Writing α) : Prop :=
  ∀ draft fault after, writing draft = .error fault after → fault.isMalformed = true →
    ∀ other, writing other = .error fault other

/-- A writing that is never refused as badly formed is prompt. -/
theorem Formed.prompt {writing : Writing α} (formed : Formed writing) : Prompt writing := by
  intro draft fault after failed malformed
  cases malformed.symm.trans (formed _ _ _ failed)

/-- An answer may go before a prompt writing, since it does not touch the draft. -/
theorem prompt_answer_bind (result : Except Fault α) {next : α → Writing β}
    (later : ∀ value, Prompt (next value)) : Prompt (answer result >>= next) := by
  intro draft fault after failed malformed other
  cases result with
  | ok value => exact later value _ _ _ failed malformed other
  | error early =>
    cases failed
    rfl

end Writing

open Writing

/-- An actor that is not found is no fault of what was asked for. -/
theorem Setting.formed_slot (setting : Setting) (actor : String) :
    Formed (answer (setting.slot actor)) := by
  refine formed_answer fun fault failed => ?_
  cases named : setting.named actor with
  | error early =>
    rw [Setting.slot, named] at failed
    cases failed
    unfold Setting.named Setting.self at named
    split at named
    · split at named <;> cases named
      rfl
    · cases named
  | ok name =>
    simp only [Setting.slot, named, Bind.bind, Except.bind] at failed
    split at failed
    · cases failed
    · split at failed <;> cases failed
      rfl

/-- A variable that is not found is no fault of what was asked for. -/
theorem Setting.formed_symbol (setting : Setting) (variableName : String) :
    Formed (answer (setting.symbol variableName)) := by
  refine formed_answer fun fault failed => ?_
  unfold Setting.symbol at failed
  split at failed
  · cases failed
  · cases failed
    rfl

/-- No step of a command or a conditional is refused as badly formed. -/
theorem formed_composes : Composes @Formed where
  bind := Formed.bind
  depth := formed_depth
  expectDepth := formed_expectDepth
  comment := fun _ => formed_line _
  blank := formed_line _
  symbol := Setting.formed_symbol
  freshLabel := formed_freshLabel
  branch := fun _ _ _ target => formed_jump target _
  jump := fun name => formed_jump name _
  label := formed_label

/-- Every action that is refused as badly formed is refused at once. -/
theorem Action.prompt (setting : Setting) (action : Action) : Prompt (action.write setting) := by
  cases action with
  | setActive actor =>
    apply Formed.prompt
    apply formed_composes.command
    exact (setting.formed_slot actor).bind fun slot => formed_address 0 _ [.number slot]
  | moveTo x y collide kind =>
    -- Both tiles are placed before the command begins, and nothing in it is refused.
    rw [Action.write, moveTo_eq]
    apply prompt_answer_bind
    intro right
    apply prompt_answer_bind
    intro down
    apply Formed.prompt
    apply formed_composes.command
    apply (formed_address 1 _ [.number right]).bind
    intro _
    apply (formed_address 2 _ [.number down]).bind
    intro _
    exact (formed_address 3 _ [_]).bind fun _ => formed_address 0 _ []
  | wait frames =>
    apply Formed.prompt
    apply formed_composes.command
    apply (formed_line _).bind
    intro _
    exact (formed_push 1).bind fun _ => (formed_line _).bind fun _ => formed_pop 1
  | say text =>
    apply Formed.prompt
    apply formed_composes.command
    refine (formed_line _).bind fun _ => (formed_line _).bind fun _ => ?_
    refine (formed_line _).bind fun _ => (formed_line _).bind fun _ => ?_
    refine (formed_line _).bind fun _ => (formed_line _).bind fun _ => ?_
    exact (formed_line _).bind fun _ => formed_line _
  | debug text => exact ((formed_line _).bind fun _ => formed_line _).prompt
  | label name => exact prompt_answer_bind _ fun _ => (formed_label name).prompt
  | goto name => exact prompt_answer_bind _ fun _ => (formed_jump name _).prompt
  | stop => exact ((formed_line _).bind fun _ => formed_line _).prompt

/-- The event with nothing under it. -/
def Event.childless (event : Event) : Event := { event with children := [] }

/-- What an event asks for is not a matter of the events under it. -/
theorem Event.read_childless (event : Event) : event.childless.read = event.read := rfl

/-- What a badly formed event is refused for with nothing under it, it is refused for by every
draft, and at once. -/
theorem Event.lower_of_malformed {setting : Setting} {event : Event} {start stopped : Draft}
    {fault : Fault} (refused : event.childless.lower setting start = .error fault stopped)
    (malformed : fault.isMalformed = true) (draft : Draft) :
    event.lower setting draft = .error fault draft := by
  rw [Event.lower_eq, Event.read_childless] at refused
  rw [Event.lower_eq]
  cases read : event.read with
  | error early =>
    rw [read] at refused
    cases refused
    rfl
  | ok command =>
    rw [read] at refused
    cases command with
    | act action => exact Action.prompt setting action _ _ _ refused malformed draft
    | choose condition =>
      have empty : Formed (lowerEvents setting []) := fun _ _ _ failed => by cases failed
      have formed := formed_composes.condition setting condition empty empty _ _ _ refused
      cases malformed.symm.trans formed

/-- Lists of events are lowered one after the other. -/
theorem lowerEvents_append (setting : Setting) (first second : List Event) :
    lowerEvents setting (first ++ second) = (do
      lowerEvents setting first
      lowerEvents setting second) := by
  induction first with
  | nil => rfl
  | cons event rest inductionHypothesis =>
    by_cases disabled : event.disabled = true
    · rw [List.cons_append, lowerEvents_disabled _ disabled, lowerEvents_disabled _ disabled,
        inductionHypothesis]
    · rw [List.cons_append, lowerEvents_enabled _ disabled, lowerEvents_enabled _ disabled,
        inductionHypothesis, bind_assoc]

/-- Where a list of events has a badly formed one behind events that succeed, the list is refused
for what this one alone is refused for, and the draft is left as those before it made it. -/
theorem malformed_event_traceless (setting : Setting) (options : Options)
    (before after : List Event) (event : Event) (start draft middle stopped : Draft) (fault : Fault)
    (succeeded : (setting.workshop options).lower before draft = .ok () middle)
    (enabled : event.disabled = false)
    (refused : (setting.workshop options).lower [event.childless] start = .error fault stopped)
    (malformed : fault.isMalformed = true) :
    (setting.workshop options).lower (before ++ event :: after) draft = .error fault middle := by
  rw [setting.workshop_lower] at succeeded refused ⊢
  have alone : event.childless.lower setting start = .error fault stopped := by
    rw [lowerEvents_enabled [] (by simp [Event.childless, enabled])] at refused
    obtain failed | ⟨_, _, _, nothing⟩ := run_bind_eq_error_iff.mp refused
    · exact failed
    · cases nothing
  have stops := Event.lower_of_malformed alone malformed middle
  rw [lowerEvents_append, lowerEvents_enabled after (by simp [enabled])]
  simp [succeeded, stops]

/-- A pause. -/
def pauseEvent : Event := { command := "EVENT_WAIT", args := [("frames", .number 3)] }

/-- An event that would put a label whose name is kept for generated labels, with an event under
it. -/
def misnamedEvent : Event :=
  { command := "EVENT_LABEL_DEFINE"
    args := [("label", .text "7")]
    children := [("true", [pauseEvent])] }

/-- Between two pauses a label with a reserved name leaves the lines of the first pause. -/
theorem misnamed_event_traceless :
    ∃ middle, (({} : Setting).workshop {}).lower [pauseEvent] {} = .ok () middle ∧
      middle.entries.size = 4 ∧
      (({} : Setting).workshop {}).lower ([pauseEvent] ++ misnamedEvent :: [pauseEvent]) {} =
        .error (.invalidArgument "label" (.reservedLabel "7")) middle := by
  obtain ⟨middle, paused, lines⟩ : ∃ middle,
      (({} : Setting).workshop {}).lower [pauseEvent] {} = .ok () middle ∧
        middle.entries.size = 4 := ⟨_, by rfl, by rfl⟩
  refine ⟨middle, paused, lines, ?_⟩
  exact malformed_event_traceless {} {} [pauseEvent] [pauseEvent] misnamedEvent {} {} middle {} _
    paused rfl (by rfl) rfl

end EventScript
