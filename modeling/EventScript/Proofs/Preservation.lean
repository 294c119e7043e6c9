import EventScript.Proofs.Clarity
import EventScript.Proofs.Jumps

/-!
# Lowering preserves what scripts mean

The machine that reads the entries of a lowered script follows the walk through its events. The
relation between the two says that what is ahead of the machine are lines in writing that continue
with the events ahead of the walk: they lay these events out, except that lines of no effect may
stand in between and that a jump may lead to where the layout goes on. A jump of an event leads
behind the definition of its label, and there the same holds again, because no label stands twice in
a program. Each line is clear, so the machine takes it for what it is.
-/
namespace EventScript

open Assembly (Comparison Line)

/-- Whether a line has no effect at all. -/
def Assembly.Line.isQuiet : Line → Bool
  | .comment _ => true
  | .blank => true
  | .label _ => true
  | _ => false

/-- The lines of a script that was lowered without a fault and awaits no label. -/
structure Lowered (setting : Setting) (events : List Event) (program : List Line) : Prop where
  laid : Lays setting events program
  once : (program.filterMap Line.label?).Nodup
  closed : ∀ name, .jump name ∈ program → .label name ∈ program
  clear : ∀ line ∈ program, line.isClear = true

namespace Machine

/-- A label that stands once in a program is found where it stands. -/
theorem seek_eq_some {name : String} {program code : List Line}
    (clear : ∀ line ∈ program, line.isClear = true)
    (once : (program.filterMap Line.label?).Nodup) (suffix : .label name :: code <:+ program) :
    seek (name ++ "$") (program.map Line.render) =
      some ((.label name :: code).map Line.render) := by
  have named (line : Line) (known : line.isClear = true) :
      line.render = name ++ "$" ++ ":" ↔ line = .label name := by
    rw [String.append_assoc]
    exact render_eq_definition_iff (Line.isTame_of_isClear known) name
  obtain ⟨before, rfl⟩ := suffix
  induction before with
  | nil =>
    rw [List.nil_append, List.map_cons, seek, if_pos ((named (.label name) rfl).mpr rfl)]
  | cons line rest inductionHypothesis =>
    rw [List.cons_append] at clear once ⊢
    have distinct : line.render ≠ name ++ "$" ++ ":" := by
      intro same
      obtain rfl := (named line (clear line (.head _))).mp same
      simp [Line.label?] at once
    rw [List.map_cons, seek, if_neg distinct]
    refine inductionHypothesis (fun other member => clear other (.tail _ member)) ?_
    exact once.sublist ((List.sublist_cons_self _ _).filterMap _)

/-- A machine with some lines ahead of it, in writing. -/
def facing (lines : List Line) (asked : Nat) (trace : List String) : Moment String :=
  ⟨lines.map Line.render, asked, trace⟩

variable {oracle : Oracle} {program : List String} {code : List Line} {asked : Nat}
  {trace : List String}

/-- The machine passes a quiet line. -/
theorem run_quiet {line : Line} (quiet : line.isQuiet = true) (clear : line.isClear = true) :
    (process oracle program).Run 1 (facing (line :: code) asked trace)
      (facing code asked trace) := by
  apply Process.Run.single
  have read := Line.sense_render clear
  cases line with
  | comment text => simp [process, step, facing, read, Line.sense]
  | blank => simp [process, step, facing, read, Line.sense]
  | label name => simp [process, step, facing, read, Line.sense]
  | _ => cases quiet

/-- The machine goes through straight lines and shows what there is to show. -/
theorem run_straight {lines : List Line} (straight : ∀ line ∈ lines, line.isStraight = true)
    (clear : ∀ line ∈ lines, line.isClear = true) :
    (process oracle program).Run lines.length (facing (lines ++ code) asked trace)
      (facing code asked (trace ++ (lines.filter Line.isShown).map Line.render)) := by
  induction lines generalizing trace with
  | nil =>
    simp only [List.filter_nil, List.map_nil, List.append_nil]
    exact .stay _
  | cons line rest inductionHypothesis =>
    have first : line.isStraight = true := straight line List.mem_cons_self
    have read := Line.sense_render (clear line List.mem_cons_self)
    have moved : step oracle program (facing (line :: (rest ++ code)) asked trace) =
        some (facing (rest ++ code) asked
          (trace ++ ([line].filter Line.isShown).map Line.render)) := by
      cases line with
      | branch comparison operand value target => cases first
      | jump target => cases first
      | label name => cases first
      | stop => cases first
      | _ => simp [step, facing, read, Line.sense, List.filter, Line.isShown]
    have shown : trace ++ ((line :: rest).filter Line.isShown).map Line.render =
        trace ++ ([line].filter Line.isShown).map Line.render ++
          (rest.filter Line.isShown).map Line.render := by
      rw [← List.singleton_append, List.filter_append, List.map_append, List.append_assoc]
    rw [shown]
    exact .move moved (inductionHypothesis (fun other member => straight other (.tail _ member))
      fun other member => clear other (.tail _ member))

/-- The machine passes the lines before the test of a conditional. -/
theorem run_opening (condition : Condition) :
    (process oracle program).Run condition.opening.length
      (facing (condition.opening ++ code) asked trace) (facing code asked trace) := by
  have straight : ∀ line ∈ condition.opening, line.isStraight = true := by
    cases condition <;> simp [Condition.opening, Line.isStraight]
  have nothing : condition.opening.filter Line.isShown = [] := by
    cases condition <;> simp [Condition.opening, Line.isShown]
  have run : (process oracle program).Run _ _
      (facing code asked (trace ++ (condition.opening.filter Line.isShown).map Line.render)) :=
    run_straight straight condition.isClear_opening
  rwa [nothing, List.map_nil, List.append_nil] at run

/-- The machine goes on at a label that it jumps to. -/
theorem run_jump {name : String} {found : List Line}
    (sought : seek (name ++ "$") program = some (found.map Line.render)) :
    (process oracle program).Run 1 (facing (.jump name :: code) asked trace)
      (facing found asked trace) := by
  apply Process.Run.single
  have read : sense (Line.jump name).render = .jump (name ++ "$") := Line.sense_render rfl
  simp [process, step, facing, read, sought]

/-- The machine asks for the operand of a test and goes on as the answer says. -/
theorem run_test {condition : Condition} {chosen : String} {found : List Line}
    (clear : (condition.test chosen).isClear = true)
    (sought : seek (chosen ++ "$") program = some (found.map Line.render)) :
    (process oracle program).Run 1 (facing (condition.test chosen :: code) asked trace)
      (facing (if condition.question.holds (oracle asked condition.question.operand) = true then
        found else code) (asked + 1) trace) := by
  apply Process.Run.single
  have read := Line.sense_render clear
  rw [condition.test_eq] at read
  cases answer : condition.question.comparison.holds (oracle asked condition.question.operand)
      condition.question.value <;>
    simp [process, step, facing, condition.test_eq, read, Line.sense, sought, Question.holds,
      answer]

end Machine

/-- The lines ahead of a machine continue with the events ahead of a walk. -/
inductive Continues (setting : Setting) (program : List Line) : List Line → List Event → Prop where
  | done : Continues setting program [] []
  | lay {lines code : List Line} {events after : List Event} (laid : Lays setting events lines)
    (rest : Continues setting program code after) :
    Continues setting program (lines ++ code) (events ++ after)
  | pass {line : Line} {code : List Line} {events : List Event} (quiet : line.isQuiet = true)
    (rest : Continues setting program code events) :
    Continues setting program (line :: code) events
  | jump {target : String} {passed code : List Line} {events : List Event}
    (stands : .label target :: code <:+ program)
    (rest : Continues setting program (.label target :: code) events) :
    Continues setting program (.jump target :: passed) events

/-- The lines ahead of a machine begin with those of the first event ahead of a walk. -/
inductive Fronts (setting : Setting) (program : List Line) : List Line → List Event → Prop where
  | done : Fronts setting program [] []
  | act {event : Event} {action : Action} {code : List Line} {events : List Event}
    (read : event.read = .ok (.act action)) (sound : action.Sound setting)
    (rest : Continues setting program code events) :
    Fronts setting program (action.lines setting ++ code) (event :: events)
  | choose {event : Event} {condition : Condition} {chosen join : String}
    {whenFalse whenTrue code : List Line} {events : List Event}
    (read : event.read = .ok (.choose condition))
    (onFalse : Lays setting (event.childrenOf "false") whenFalse)
    (onTrue : Lays setting (event.childrenOf "true") whenTrue)
    (rest : Continues setting program code events) :
    Fronts setting program (condition.frame chosen join whenFalse whenTrue ++ code)
      (event :: events)

/-- A disabled event is passed over. -/
theorem Walk.enabled_disabled {event : Event} (rest : List Event)
    (disabled : event.disabled = true) : Walk.enabled (event :: rest) = Walk.enabled rest := by
  rw [Walk.enabled, List.dropWhile_cons_of_pos disabled, Walk.enabled]

/-- An enabled event is not passed over. -/
theorem Walk.enabled_enabled {event : Event} (rest : List Event)
    (enabled : ¬event.disabled = true) : Walk.enabled (event :: rest) = event :: rest := by
  rw [Walk.enabled, List.dropWhile_cons_of_neg enabled]

variable {setting : Setting} {program : List Line}

/-- Without showing anything, the machine comes to the lines of the first event ahead. -/
theorem Continues.front {whole : List Event} {code : List Line} {events : List Event}
    (lowered : Lowered setting whole program) (oracle : Oracle) (asked : Nat)
    (trace : List String) (continues : Continues setting program code events)
    (suffix : code <:+ program) :
    ∃ count reached, (Machine.process oracle (program.map Line.render)).Run count
        (Machine.facing code asked trace) (Machine.facing reached asked trace) ∧
      reached <:+ program ∧ Fronts setting program reached (Walk.enabled events) := by
  induction continues with
  | done => exact ⟨0, [], .stay _, suffix, .done⟩
  | @lay lines code events after laid rest inductionHypothesis =>
    -- The events of a layout may all be disabled, so what comes first may stand behind it.
    induction laid with
    | nil => exact inductionHypothesis suffix
    | @skip event events lines disabled _ skipHypothesis =>
      rw [List.cons_append, Walk.enabled_disabled _ disabled]
      exact skipHypothesis suffix
    | @act event action events lines enabled read sound laid _ =>
      rw [List.cons_append, Walk.enabled_enabled _ enabled]
      refine ⟨0, _, .stay _, suffix, ?_⟩
      rw [List.append_assoc]
      exact .act read sound (.lay laid rest)
    | @choose event condition events chosen join whenFalse whenTrue lines enabled read _ _ onFalse
        onTrue laid _ _ _ =>
      rw [List.cons_append, Walk.enabled_enabled _ enabled]
      refine ⟨0, _, .stay _, suffix, ?_⟩
      rw [List.append_assoc]
      exact .choose read onFalse onTrue (.lay laid rest)
  | @pass line code events quiet rest inductionHypothesis =>
    have clear := lowered.clear line (suffix.subset List.mem_cons_self)
    obtain ⟨count, reached, run, inside, fronts⟩ :=
      inductionHypothesis ((List.suffix_cons line code).trans suffix)
    exact ⟨1 + count, reached, (Machine.run_quiet quiet clear).append run, inside, fronts⟩
  | @jump target passed code events stands rest inductionHypothesis =>
    have sought := Machine.seek_eq_some lowered.clear lowered.once stands
    obtain ⟨count, reached, run, inside, fronts⟩ := inductionHypothesis stands
    exact ⟨1 + count, reached, (Machine.run_jump sought).append run, inside, fronts⟩

/-- Where the parts of a conditional stand in a program: the arm for false, the label of the arm for
true, and the label behind both. -/
theorem frame_suffixes {condition : Condition} {chosen join : String}
    {whenFalse whenTrue after : List Line}
    (suffix : condition.frame chosen join whenFalse whenTrue ++ after <:+ program) :
    whenFalse ++ .jump join :: .label chosen ::
        (whenTrue ++ .label join :: (condition.closing ++ after)) <:+ program ∧
      .label chosen :: (whenTrue ++ .label join :: (condition.closing ++ after)) <:+ program ∧
      .label join :: (condition.closing ++ after) <:+ program := by
  rw [Condition.frame_append] at suffix
  have tested := (List.suffix_append condition.opening _).trans suffix
  have lowered := (List.suffix_cons _ _).trans tested
  have jumped := (List.suffix_append whenFalse _).trans lowered
  have labelled := (List.suffix_cons _ _).trans jumped
  have raised := (List.suffix_cons _ _).trans labelled
  exact ⟨lowered, labelled, (List.suffix_append whenTrue _).trans raised⟩

/-- What comes behind a conditional comes behind its second label. -/
theorem Continues.join {condition : Condition} {join : String} {code : List Line}
    {events : List Event} (rest : Continues setting program code events) :
    Continues setting program (.label join :: (condition.closing ++ code)) events := by
  apply Continues.pass rfl
  cases condition with
  | operand symbol comparison value => exact rest
  | _ => exact .pass rfl rest

/-- The jump over the arm for true leads behind the conditional. -/
theorem Continues.leave {condition : Condition} {join : String} {passed code : List Line}
    {events : List Event} (suffix : .label join :: (condition.closing ++ code) <:+ program)
    (rest : Continues setting program code events) :
    Continues setting program (.jump join :: passed) events := .jump suffix rest.join

variable {name : String}

/-- Nothing is resumed at a disabled event. -/
theorem Walk.resume_disabled {event : Event} (rest : List Event)
    (disabled : event.disabled = true) : resume name (event :: rest) = resume name rest := by
  rw [resume, if_pos disabled]

/-- An event that is read as an action is resumed behind, if it defines the label. -/
theorem Walk.resume_act {event : Event} {action : Action} (rest : List Event)
    (enabled : ¬event.disabled = true) (read : event.read = .ok (.act action)) :
    resume name (event :: rest) =
      if action = .label name then some rest else resume name rest := by
  have defines : event.label? = some name ↔ action = .label name := by
    rw [Event.label?_of_act read]
    cases action <;> simp [Action.label?]
  rw [resume, if_neg enabled]
  simp only [defines, Event.isConditional_of_act read, Bool.false_eq_true, if_false]

/-- In a conditional it is the arms that are looked at. -/
theorem Walk.resume_choose {event : Event} {condition : Condition} (rest : List Event)
    (enabled : ¬event.disabled = true) (read : event.read = .ok (.choose condition)) :
    resume name (event :: rest) =
      ((resume name (event.childrenOf "false")).map (· ++ rest)).or
        (((resume name (event.childrenOf "true")).map (· ++ rest)).or (resume name rest)) := by
  obtain ⟨unnamed, -⟩ := Event.unnamed_of_choose read
  rw [resume, if_neg enabled, unnamed, if_neg (by simp),
    if_pos (Event.isConditional_of_choose read)]

/-- A list of events with a label defined in it, laid out in a program, has the label in the
program. What the lines behind the label continue with are the events behind the definition. -/
theorem Lays.exists_continues {events ahead after : List Event} {lines code : List Line}
    (laid : Lays setting events lines) (rest : Continues setting program code after)
    (suffix : lines ++ code <:+ program) (found : Walk.resume name events = some ahead) :
    ∃ behind, .label name :: behind <:+ program ∧
      Continues setting program behind (ahead ++ after) := by
  induction laid generalizing code after ahead with
  | nil =>
    rw [Walk.resume] at found
    cases found
  | @skip event events lines disabled _ inductionHypothesis =>
    rw [Walk.resume_disabled _ disabled] at found
    exact inductionHypothesis rest suffix found
  | @act event action events lines enabled read sound laid inductionHypothesis =>
    rw [Walk.resume_act _ enabled read] at found
    rw [List.append_assoc] at suffix
    by_cases defines : action = .label name
    · rw [if_pos defines] at found
      obtain rfl := Option.some.inj found
      rw [defines, Action.lines_label (sound.allowed name (Or.inl defines))] at suffix
      exact ⟨lines ++ code, suffix, .lay laid rest⟩
    · rw [if_neg defines] at found
      exact inductionHypothesis rest ((List.suffix_append _ _).trans suffix) found
  | @choose event condition events chosen join whenFalse whenTrue lines enabled read chosenOwn
      joinOwn onFalse onTrue laid falseHypothesis trueHypothesis inductionHypothesis =>
    rw [Walk.resume_choose _ enabled read] at found
    rw [List.append_assoc] at suffix
    obtain ⟨falseSuffix, chosenSuffix, joinSuffix⟩ := frame_suffixes suffix
    have trueSuffix := (List.suffix_cons _ _).trans chosenSuffix
    have follows : Continues setting program (lines ++ code) (events ++ after) := .lay laid rest
    -- Behind a label in the arm for false, the machine jumps over the arm for true.
    rcases Option.or_eq_some_iff.mp found with inFalse | ⟨-, found⟩
    · obtain ⟨inner, resumed, rfl⟩ := Option.map_eq_some_iff.mp inFalse
      obtain ⟨behind, stands, continues⟩ :=
        falseHypothesis (follows.leave joinSuffix) falseSuffix resumed
      rw [← List.append_assoc] at continues
      exact ⟨behind, stands, continues⟩
    · rcases Option.or_eq_some_iff.mp found with inTrue | ⟨-, behindBoth⟩
      · obtain ⟨inner, resumed, rfl⟩ := Option.map_eq_some_iff.mp inTrue
        obtain ⟨behind, stands, continues⟩ := trueHypothesis follows.join trueSuffix resumed
        rw [← List.append_assoc] at continues
        exact ⟨behind, stands, continues⟩
      · have tail : lines ++ code <:+ program := (List.suffix_append _ _).trans suffix
        exact inductionHypothesis rest tail behindBoth

/-- A label of the script that stands in the lines of events is defined by one of the events. -/
theorem Lays.isSome_resume {events : List Event} {lines : List Line}
    (laid : Lays setting events lines) (allowed : isReserved name = false)
    (member : .label name ∈ lines) : (Walk.resume name events).isSome = true := by
  induction laid with
  | nil => cases member
  | @skip event events lines disabled _ inductionHypothesis =>
    rw [Walk.resume_disabled _ disabled]
    exact inductionHypothesis member
  | @act event action events lines enabled read sound laid inductionHypothesis =>
    rw [Walk.resume_act _ enabled read]
    by_cases defines : action = .label name
    · rw [if_pos defines]
      rfl
    · rw [if_neg defines]
      apply inductionHypothesis
      apply (List.mem_append.mp member).resolve_left
      exact fun mine => defines (sound.eq_label mine)
  | @choose event condition events chosen join whenFalse whenTrue lines enabled read chosenOwn
      joinOwn onFalse onTrue laid falseHypothesis trueHypothesis inductionHypothesis =>
    rw [Walk.resume_choose _ enabled read]
    simp only [Option.isSome_or, Option.isSome_map, Bool.or_eq_true]
    rcases List.mem_append.mp member with framed | later
    · rcases Condition.label_mem_frame framed with inFalse | rfl | inTrue | rfl
      · exact Or.inl (falseHypothesis inFalse)
      · rw [chosenOwn] at allowed
        cases allowed
      · exact Or.inr (Or.inl (trueHypothesis inTrue))
      · rw [joinOwn] at allowed
        cases allowed
    · exact Or.inr (Or.inr (inductionHypothesis later))

/-- A machine and a walk that have asked and shown the same, and have the same ahead of them. -/
structure Related (setting : Setting) (program : List Line) (machine : Moment String)
    (walk : Moment Event) : Prop where
  ahead : ∃ code, machine = Machine.facing code walk.asked walk.trace ∧ code <:+ program ∧
    Continues setting program code walk.ahead

variable {whole : List Event} {walk next : Moment Event} {reached : List Line}

/-- Without showing anything, a related machine comes to the lines of the first event ahead. -/
theorem Related.front {machine : Moment String} (related : Related setting program machine walk)
    (lowered : Lowered setting whole program) (oracle : Oracle) :
    ∃ count reached, (Machine.process oracle (program.map Line.render)).Run count machine
        (Machine.facing reached walk.asked walk.trace) ∧
      reached <:+ program ∧ Fronts setting program reached (Walk.enabled walk.ahead) := by
  obtain ⟨code, rfl, inside, continues⟩ := related.ahead
  exact continues.front lowered oracle walk.asked walk.trace inside

variable {oracle : Oracle}

/-- From the lines of a conditional the machine comes to the arm that the walk chooses. -/
theorem run_conditional_frame {condition : Condition} {chosen join : String}
    {whenFalse whenTrue code : List Line} {asked : Nat} {trace : List String}
    (lowered : Lowered setting whole program)
    (suffix : condition.frame chosen join whenFalse whenTrue ++ code <:+ program) :
    ∃ count, (Machine.process oracle (program.map Line.render)).Run (count + 1)
      (Machine.facing (condition.frame chosen join whenFalse whenTrue ++ code) asked trace)
      (Machine.facing
        (if condition.question.holds (oracle asked condition.question.operand) = true then
          .label chosen :: (whenTrue ++ .label join :: (condition.closing ++ code))
        else whenFalse ++ .jump join :: .label chosen ::
          (whenTrue ++ .label join :: (condition.closing ++ code))) (asked + 1) trace) := by
  obtain ⟨-, chosenSuffix, -⟩ := frame_suffixes suffix
  have sought := Machine.seek_eq_some lowered.clear lowered.once chosenSuffix
  have clear : (condition.test chosen).isClear = true :=
    lowered.clear _ (suffix.subset (by simp [Condition.frame]))
  rw [Condition.frame_append]
  exact ⟨condition.opening.length,
    (Machine.run_opening condition).append (Machine.run_test clear sought)⟩

/-- An event that does nothing but show something shows the lines of its action, in writing. -/
theorem Event.shows_of_act {event : Event} {action : Action}
    (read : event.read = .ok (.act action)) (sound : action.Sound setting)
    (plain : action.isPlain = true) :
    event.shows setting = ((action.lines setting).filter Line.isShown).map Line.render := by
  have writes := sound.writes
  rw [shows]
  cases asks_of_read read with
  | setActive named given =>
    rw [Action.lines_setActive]
    simp only [named, given, Option.map_some]
    cases setting.slot _ with
    | ok slot => rfl
    | error fault => rfl
  | moveTo named way right down collides =>
    rename_i x y collide kind
    rw [Action.lines_moveTo] at writes ⊢
    simp only [named, way, right, down, collides]
    cases across : tilePlace "x" x with
    | error fault => simp [across] at writes
    | ok place =>
      cases along : tilePlace "y" y with
      | error fault => simp [across, along] at writes
      | ok depth =>
        rw [eq_of_tilePlace across, eq_of_tilePlace along]
        cases collide <;> cases kind <;> rfl
  | wait named given =>
    simp only [named, given]
    rfl
  | say named given =>
    simp only [named, given]
    rfl
  | debug named given =>
    simp only [named, given]
    rfl
  | label named given => cases plain
  | goto named given => cases plain
  | stop named => cases plain

/-- A walk shows what a plain action has to show. -/
theorem Walk.step_plain {event : Event} {action : Action} {rest : List Event}
    (ahead : Walk.enabled walk.ahead = event :: rest) (read : event.read = .ok (.act action))
    (sound : action.Sound setting) (plain : action.isPlain = true) :
    Walk.step oracle setting whole walk = some { walk with
      ahead := rest
      trace := walk.trace ++ ((action.lines setting).filter Line.isShown).map Line.render } := by
  rw [← Event.shows_of_act read sound plain]
  have named := Event.command_of_act read
  have acts := Event.isConditional_of_act read
  cases action with
  | label name => cases plain
  | goto name => cases plain
  | stop => cases plain
  | _ => simp [Walk.step, ahead, acts, named, Action.commandName, moveToCommand]

/-- A walk goes on behind the definition of a label. -/
theorem Walk.step_label {event : Event} {name : String} {rest : List Event}
    (ahead : Walk.enabled walk.ahead = event :: rest)
    (read : event.read = .ok (.act (.label name))) :
    Walk.step oracle setting whole walk = some { walk with ahead := rest } := by
  have named := Event.command_of_act read
  simp [Walk.step, ahead, Event.isConditional_of_act read, named, Action.commandName, Event.shows]

/-- A walk goes on where the label of a jump is defined. -/
theorem Walk.step_goto {event : Event} {name : String} {rest : List Event}
    (ahead : Walk.enabled walk.ahead = event :: rest)
    (read : event.read = .ok (.act (.goto name))) :
    Walk.step oracle setting whole walk =
      (Walk.resume name whole).map fun ahead => { walk with ahead := ahead } := by
  have acts := Event.isConditional_of_act read
  cases Event.asks_of_read read with
  | goto named given => simp [Walk.step, ahead, acts, named, given]

/-- A walk ends at an event that stops it. -/
theorem Walk.ended_of_stop {event : Event} {rest : List Event}
    (ahead : Walk.enabled walk.ahead = event :: rest) (read : event.read = .ok (.act .stop)) :
    Walk.Ended walk := by
  have named := Event.command_of_act read
  exact .inr (by simp [ahead, named, Action.commandName])

/-- A walk asks a conditional and enters one of its arms. -/
theorem Walk.step_choose {event : Event} {condition : Condition} {rest : List Event}
    (ahead : Walk.enabled walk.ahead = event :: rest)
    (read : event.read = .ok (.choose condition)) :
    Walk.step oracle setting whole walk = some { walk with
      ahead := event.childrenOf
        (if condition.question.holds (oracle walk.asked condition.question.operand) then "true"
          else "false") ++ rest
      asked := walk.asked + 1 } := by
  simp [Walk.step, ahead, Event.isConditional_of_choose read, Event.question?_of_choose read]

/-- The machine shows what a plain action has to show. -/
theorem run_plain {action : Action} {code : List Line} {asked : Nat} {trace : List String}
    {entries : List String} (sound : action.Sound setting) (plain : action.isPlain = true) :
    ∃ count, (Machine.process oracle entries).Run (count + 1)
      (Machine.facing (action.lines setting ++ code) asked trace)
      (Machine.facing code asked
        (trace ++ ((action.lines setting).filter Line.isShown).map Line.render)) := by
  have positive : 0 < (action.lines setting).length := List.length_pos_iff.mpr sound.writes
  have run : (Machine.process oracle entries).Run (action.lines setting).length
      (Machine.facing (action.lines setting ++ code) asked trace) _ :=
    Machine.run_straight (sound.straight plain) (List.all_eq_true.mp (action.all_isClear setting))
  refine ⟨(action.lines setting).length - 1, ?_⟩
  rwa [Nat.sub_add_cancel positive]

/-- A step of the walk through the first event ahead is answered by the machine. -/
theorem Fronts.answers (lowered : Lowered setting whole program)
    (fronts : Fronts setting program reached (Walk.enabled walk.ahead))
    (inside : reached <:+ program) (moved : Walk.step oracle setting whole walk = some next) :
    ∃ count after, (Machine.process oracle (program.map Line.render)).Run (count + 1)
      (Machine.facing reached walk.asked walk.trace) after ∧
        Related setting program after next := by
  generalize ahead : Walk.enabled walk.ahead = events at fronts
  cases fronts with
  | done => simp [Walk.step, ahead] at moved
  | @act event action code events read sound rest =>
    have behind : code <:+ program := (List.suffix_append _ _).trans inside
    cases action with
    | label name =>
      obtain rfl := Option.some.inj ((Walk.step_label ahead read).symm.trans moved)
      rw [Action.lines_label (sound.allowed name (Or.inl rfl))]
      exact ⟨0, _, Machine.run_quiet rfl rfl, ⟨code, rfl, behind, rest⟩⟩
    | goto name =>
      rw [Walk.step_goto ahead read] at moved
      obtain ⟨found, resumed, rfl⟩ := Option.map_eq_some_iff.mp moved
      rw [Action.lines_goto (sound.allowed name (Or.inr rfl))]
      have whole : program ++ [] <:+ program := by rw [List.append_nil]
      obtain ⟨behind, stands, continues⟩ := lowered.laid.exists_continues .done whole resumed
      rw [List.append_nil] at continues
      have sought := Machine.seek_eq_some lowered.clear lowered.once stands
      exact ⟨0, _, Machine.run_jump sought, ⟨_, rfl, stands, .pass rfl continues⟩⟩
    | stop =>
      have rests := (Walk.process oracle setting whole).rests walk (Walk.ended_of_stop ahead read)
      cases rests.symm.trans moved
    | _ =>
      obtain rfl := Option.some.inj ((Walk.step_plain ahead read sound rfl).symm.trans moved)
      obtain ⟨count, run⟩ := run_plain sound rfl
      exact ⟨count, _, run, ⟨code, rfl, behind, rest⟩⟩
  | @choose event condition chosen join whenFalse whenTrue code events read onFalse onTrue rest =>
    obtain rfl := Option.some.inj ((Walk.step_choose ahead read).symm.trans moved)
    obtain ⟨count, run⟩ := run_conditional_frame lowered inside
    obtain ⟨falseSuffix, chosenSuffix, joinSuffix⟩ := frame_suffixes inside
    refine ⟨count, _, run, ?_⟩
    cases answer : condition.question.holds (oracle walk.asked condition.question.operand) with
    | true =>
      simp only [if_true]
      exact ⟨_, rfl, chosenSuffix, .pass rfl (.lay onTrue rest.join)⟩
    | false =>
      simp only [Bool.false_eq_true, if_false]
      exact ⟨_, rfl, falseSuffix, .lay onFalse (rest.leave joinSuffix)⟩

/-- A walk that has an event ahead makes a step or ends there. -/
theorem Fronts.advances (lowered : Lowered setting whole program)
    (fronts : Fronts setting program reached (Walk.enabled walk.ahead))
    (inside : reached <:+ program) :
    Walk.Ended walk ∨ ∃ next, Walk.step oracle setting whole walk = some next := by
  generalize ahead : Walk.enabled walk.ahead = events at fronts
  cases fronts with
  | done => exact Or.inl (Or.inl ahead)
  | @act event action code events read sound rest =>
    cases action with
    | label name => exact Or.inr ⟨_, Walk.step_label ahead read⟩
    | goto name =>
      rw [Action.lines_goto (sound.allowed name (Or.inr rfl))] at inside
      have member : .jump name ∈ program := inside.subset List.mem_cons_self
      have defined := lowered.laid.isSome_resume (sound.allowed name (Or.inr rfl))
        (lowered.closed name member)
      obtain ⟨found, resumed⟩ := Option.isSome_iff_exists.mp defined
      exact Or.inr ⟨{ walk with ahead := found }, by rw [Walk.step_goto ahead read, resumed]; rfl⟩
    | stop => exact Or.inl (Walk.ended_of_stop ahead read)
    | _ => exact Or.inr ⟨_, Walk.step_plain ahead read sound rfl⟩
  | choose read onFalse onTrue rest => exact Or.inr ⟨_, Walk.step_choose ahead read⟩

/-- Where the walk ends, the machine ends soon after. -/
theorem Fronts.finishes {entries : List String}
    (fronts : Fronts setting program reached (Walk.enabled walk.ahead))
    (ended : Walk.Ended walk) :
    ∃ count after, (Machine.process oracle entries).Run count
      (Machine.facing reached walk.asked walk.trace) after ∧ Machine.Ended after ∧
        after.trace = walk.trace := by
  rcases ended with finished | stops
  · rw [finished] at fronts
    cases fronts with
    | done => exact ⟨0, _, .stay _, Or.inl rfl, rfl⟩
  · generalize ahead : Walk.enabled walk.ahead = events at fronts
    rw [ahead] at stops
    cases fronts with
    | done => cases stops
    | @act event action code events read sound rest =>
      have named : action.commandName = "EVENT_END" := by
        rw [← Event.command_of_act read]
        exact Option.some.inj stops
      obtain rfl : action = .stop := by
        cases action <;> first | rfl | simp [Action.commandName, moveToCommand] at named
      exact ⟨1, _, Machine.run_quiet rfl rfl, Or.inr (congrArg some sense_stop), rfl⟩
    | @choose event condition chosen join whenFalse whenTrue code events read onFalse onTrue rest =>
      have named : event.command = "EVENT_END" := Option.some.inj stops
      have asks := Event.isConditional_of_choose read
      simp [Event.isConditional, named] at asks

/-- The machine that reads the entries of a lowered script follows the walk through its events. -/
theorem Lowered.follows (lowered : Lowered setting whole program) (oracle : Oracle) :
    (Machine.process oracle (program.map Line.render)).Follows
      (Walk.process oracle setting whole) (Related setting program) where
  agrees := by
    intro machine walk related
    obtain ⟨code, rfl, -⟩ := related.ahead
    rfl
  advances := by
    intro machine walk related
    obtain ⟨_, reached, _, inside, fronts⟩ := related.front lowered oracle
    exact fronts.advances lowered inside
  answers := by
    intro machine walk next related moved
    obtain ⟨first, reached, run, inside, fronts⟩ := related.front lowered oracle
    obtain ⟨second, after, answered, relatedAfter⟩ := fronts.answers lowered inside moved
    refine ⟨first + second, after, ?_, relatedAfter⟩
    rw [Nat.add_assoc]
    exact run.append answered
  finishes := by
    intro machine walk related ended
    obtain ⟨first, reached, run, inside, fronts⟩ := related.front lowered oracle
    obtain ⟨second, after, finished, stops, same⟩ := fronts.finishes ended
    exact ⟨first + second, after, run.append finished, stops, same⟩

/-- The labels of a draft are those of its lines. -/
theorem Draft.filterMap_body (draft : Draft) :
    draft.body.filterMap Line.label? = draft.labels.map (·.1) := by
  simp only [body, labels, List.filterMap_map, List.map_filterMap, Option.map_map]
  congr 1
  funext entry
  cases named : entry.line.label? <;> simp [named]

/-- The lines of a script that is lowered on an empty draft, and awaits no label, are those of a
lowered script. -/
theorem lowered_body {setting : Setting} {events : List Event} {draft : Draft}
    (succeeded : lowerEvents setting events {} = .ok () draft)
    (resolved : draft.ledger.unresolved = []) : Lowered setting events draft.body := by
  obtain ⟨deeds, course, kept⟩ := exists_course_of_ok succeeded
  have settled : draft.ledger.pending = [] := List.map_eq_nil_iff.mp resolved
  have sound : draft.Consistent := course.consistent Draft.consistent_empty
  obtain ⟨-, lines, written, laid⟩ := appends_lowerEvents setting events {} () draft rfl succeeded
  have all : draft.body = lines := written
  constructor
  · rw [all]
    exact laid
  · rw [draft.filterMap_body, sound.recorded]
    exact sound.once
  · intro name member
    obtain ⟨entry, listed, line⟩ := List.mem_map.mp member
    have jumps : entry.line.target? = some name := by rw [line]; rfl
    obtain ⟨other, stands, labels⟩ := course.exists_label settled kept listed jumps
    exact List.mem_map.mpr ⟨other, stands, labels⟩
  · exact isClear_of_ok succeeded

/-- Lowering preserves meaning. Where a list of events is lowered on an empty draft without a fault,
and no label is left unresolved, the entries read as a program and the events walked directly show
the same, whatever the oracle answers, and the one ends exactly when the other does, with the same
trace. -/
theorem lowering_preserves_meaning (setting : Setting) (events : List Event) (draft : Draft)
    (oracle : Oracle) (succeeded : lowerEvents setting events {} = .ok () draft)
    (resolved : draft.ledger.unresolved = []) :
    (∀ shown, (Machine.process oracle draft.lines).Shows { ahead := draft.lines } shown ↔
      (Walk.process oracle setting events).Shows { ahead := events } shown) ∧
    ∀ trace, (Machine.process oracle draft.lines).Ends { ahead := draft.lines } trace ↔
      (Walk.process oracle setting events).Ends { ahead := events } trace := by
  have lowered := lowered_body succeeded resolved
  have start : Related setting draft.body { ahead := draft.lines } { ahead := events } := by
    have whole : Continues setting draft.body (draft.body ++ []) (events ++ []) :=
      .lay lowered.laid .done
    rw [List.append_nil, List.append_nil] at whole
    exact ⟨draft.body, by rw [draft.lines_eq]; rfl, List.suffix_rfl, whole⟩
  have follows := lowered.follows oracle
  rw [← draft.lines_eq] at follows
  exact ⟨follows.shows_iff start, follows.ends_iff start⟩

/-- A script that shows a text until a variable is no longer positive, or for ever. -/
def loopEvents : List Event :=
  [{ command := "EVENT_LABEL_DEFINE", args := [("label", .text "top")] },
    { command := "EVENT_TEXT", args := [("text", .text "Hello")] },
    { command := "EVENT_DEBUG", args := [("text", .text "never")], disabled := true },
    { command := "EVENT_IF_TRUE", args := [("variable", .text "0")],
      children := [("true", [{ command := "EVENT_LABEL_GOTO", args := [("label", .text "top")] }]),
        ("false", [{ command := "EVENT_END" }])] }]

/-- The loop is lowered without a fault and resolved, so for every oracle its entries and its events
show the same and end alike. -/
theorem loop_preserved :
    ∃ draft, lowerEvents {} loopEvents {} = .ok () draft ∧ draft.ledger.unresolved = [] ∧
      ∀ oracle trace, (Machine.process oracle draft.lines).Ends { ahead := draft.lines } trace ↔
        (Walk.process oracle {} loopEvents).Ends { ahead := loopEvents } trace := by
  obtain ⟨draft, succeeded, resolved⟩ : ∃ draft, lowerEvents {} loopEvents {} = .ok () draft ∧
      draft.ledger.unresolved = [] := ⟨_, by cbv, by rfl⟩
  refine ⟨draft, succeeded, resolved, fun oracle => ?_⟩
  exact (lowering_preserves_meaning {} loopEvents draft oracle succeeded resolved).2

end EventScript
