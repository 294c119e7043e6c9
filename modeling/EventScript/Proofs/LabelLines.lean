import EventScript.Proofs.Clarity
import EventScript.Proofs.Documents
import EventScript.Proofs.Jumps
import EventScript.Proofs.Numbering

/-!
# Definitions of labels in the text of a script

The ledger keeps labels apart by their names, but the assembler only reads lines. A line of the text
that ends in a dollar sign and a colon is a definition there, whoever wrote it. What the events of a
document bring into the text, dialogue, variables and messages, cannot make such a line: texts stand
inside literals on lines of their own, and the names of variables are words. Two things can. A label
with a newline in its name breaks its line in two, and the second half may be a definition of
another label. And the name of a script stands at the end of the lines that make it known to the
linker, so a label may be named like such a line. Without newlines in labels the definitions of a
text are unique up to the latter, and each definition of digits is a line of a conditional.
-/
namespace EventScript

open Assembly (Line)
open Event (conditionals)

/-- A line has no newline in writing, where the label that it mentions has none. -/
theorem unbroken_render {line : Line} (tame : line.isTame = true)
    (mentioned : ∀ name, line.mention? = some name → Unbroken name) : Unbroken line.render := by
  have dollar : Unbroken "$" := unbroken_of_isTame rfl
  cases line with
  | comment text => exact unbroken_of_isTame (Line.isTame_render_comment tame)
  | instruction mnemonic operands => exact unbroken_of_isTame (Line.isTame_render_instruction tame)
  | branch comparison operand value target =>
    have opened : isTame (Assembly.instruction ("VM_IF_CONST " ++ comparison.symbol)
        [operand, toString value, ""]) = true := by
      apply Assembly.isTame_instruction
      · cases comparison <;> rfl
      · have carried : isTame operand = true := tame
        have empty : isTame "" = true := rfl
        simp [carried, empty]
    rw [Line.render_branch, unbroken_append, unbroken_append, Ledger.symbol, unbroken_append]
    exact ⟨⟨unbroken_of_isTame opened, mentioned target rfl, dollar⟩, unbroken_of_isTame rfl⟩
  | jump target =>
    rw [Line.render_jump, unbroken_append, Ledger.symbol, unbroken_append]
    exact ⟨unbroken_of_isTame rfl, mentioned target rfl, dollar⟩
  | label name =>
    rw [Line.render_label, unbroken_append]
    exact ⟨mentioned name rfl, by simp [Unbroken]⟩
  | stop => exact unbroken_of_isTame rfl
  | literal text => exact Line.unbroken_render_literal text
  | raw text => cases tame
  | blank => exact unbroken_of_isTame rfl

/-- A script that is lowered without a fault and awaits no label: its lines are tame, its labels are
those of its events and those of its conditionals, and only these are jumped to. -/
structure Accepted (setting : Setting) (events : List Event) (draft : Draft) : Prop where
  sound : draft.Consistent
  tame : ∀ line ∈ draft.body, line.isTame = true
  stands : ∀ name, isReserved name = false →
    ((draft.ledger.defined.lookup name).isSome = true ↔
      name ∈ (Event.inOrder events).filterMap Event.label?)
  closed : ∀ line ∈ draft.body, ∀ name, line.mention? = some name →
    (draft.ledger.defined.lookup name).isSome = true

/-- A line mentions the label that it puts, or else the one that it goes on at. -/
theorem mention?_eq (line : Line) : line.mention? = line.label?.or line.target? := by
  cases line <;> rfl

/-- Events that are lowered on an empty draft, to a draft that awaits no label, are accepted. -/
theorem accepted_of_ok {setting : Setting} {events : List Event} {draft : Draft}
    (succeeded : lowerEvents setting events {} = .ok () draft)
    (resolved : draft.ledger.unresolved = []) : Accepted setting events draft := by
  obtain ⟨deeds, course, kept⟩ := exists_course_of_ok succeeded
  have settled : draft.ledger.pending = [] := List.map_eq_nil_iff.mp resolved
  have sound : draft.Consistent := course.consistent Draft.consistent_empty
  obtain ⟨-, told⟩ := faultless_of_ok succeeded
  refine ⟨sound, ?_, told.stands, ?_⟩
  · exact fun line member => Line.isTame_of_isClear (isClear_of_ok succeeded line member)
  · intro line member name mentions
    obtain ⟨entry, listed, rfl⟩ := List.mem_map.mp member
    rw [← sound.exists_label_iff]
    rw [mention?_eq] at mentions
    rcases Option.or_eq_some_iff.mp mentions with labelled | ⟨-, jumps⟩
    · exact ⟨entry, listed, line_eq_label_iff.mpr labelled⟩
    · exact course.exists_label settled kept listed jumps

/-- A label has one line where it stands, and none where it does not. -/
theorem Draft.Consistent.count_label {draft : Draft} (sound : draft.Consistent) (name : String) :
    draft.body.count (.label name) =
      if (draft.ledger.defined.lookup name).isSome = true then 1 else 0 := by
  have counted : draft.body.count (.label name) =
      (draft.entries.toList.filter (fun entry => entry.line = .label name)).length := by
    rw [Draft.body, List.count, List.countP_map, List.countP_eq_length_filter]
    congr 1
  rw [counted]
  cases found : draft.ledger.defined.lookup name with
  | some depth => rw [sound.filter_label found]; rfl
  | none =>
    have absent : ¬∃ entry ∈ draft.entries.toList, entry.line = .label name := by
      rw [sound.exists_label_iff, found]
      simp
    have empty : draft.entries.toList.filter (fun entry => entry.line = .label name) = [] := by
      rw [List.filter_eq_nil_iff]
      exact fun entry member line => absent ⟨entry, member, by simpa using line⟩
    rw [empty]
    rfl

/-- The definitions of a label among the lines of a draft, in writing, are its lines. -/
theorem count_lines {draft : Draft} (tame : ∀ line ∈ draft.body, line.isTame = true)
    (name : String) : draft.lines.count (name ++ "$:") = draft.body.count (.label name) := by
  rw [draft.lines_eq, List.count, List.count, List.countP_map]
  apply List.countP_congr
  intro line member
  simpa using render_eq_definition_iff (tame line member) name

/-- A script that compiles is lowered to a draft that awaits no label, and its text is the lines
before the body and those of the draft. -/
theorem Script.exists_draft_of_ok {options : Options} {setting : Setting} {script : Script}
    {output : Compiled} (compiled : script.compile options setting = .ok output) :
    ∃ draft, lowerEvents setting script.events {} = .ok () draft ∧
      draft.ledger.unresolved = [] ∧
      output.text = joinLines (options.preamble (draft.reservesLocalActor options) script.name
        script.exported ++ draft.lines) := by
  cases ran : lowerEvents setting script.events {} with
  | error fault draft => simp [Script.compile, ran] at compiled
  | ok value draft =>
    cases waiting : draft.ledger.unresolved with
    | cons name rest => simp [Script.compile, ran, Draft.assemble, waiting, Except.map] at compiled
    | nil =>
      simp only [Script.compile, ran, Draft.assemble, waiting, Except.map] at compiled
      exact ⟨draft, rfl, waiting, (Except.ok.inj compiled) ▸ rfl⟩

/-- Each text of a document that compiles is the text of the script of its place. -/
theorem Document.exists_script_of_ok {options : Options} {document : Document}
    {outputs : List Compiled} (compiled : document.compile options = .ok outputs) {index : Nat}
    {output : Compiled} (given : outputs[index]? = some output) :
    ∃ script, document.scripts[index]? = some script ∧
      script.compile options document.setting = .ok output := by
  obtain ⟨-, mapped⟩ := Document.compile_eq_ok_iff.mp compiled
  have same := congrArg (·[index]?) mapped
  simp only [List.getElem?_map, given, Option.map_some] at same
  exact Option.map_eq_some_iff.mp same

/-- A document of one script compiles, if the script is lowered to a draft that awaits no label. -/
theorem Document.compile_of_ok (options : Options) {setting : Setting} {events : List Event}
    {draft : Draft} (name : String) (exported : Bool)
    (succeeded : lowerEvents setting events {} = .ok () draft)
    (resolved : draft.ledger.unresolved = []) :
    Document.compile options
        { setting := setting,
          scripts := [{ name := name, exported := exported, events := events }] } =
      .ok [{ name := name, text := joinLines (options.preamble (draft.reservesLocalActor options)
        name exported ++ draft.lines) }] := by
  simp only [Document.compile, Document.checkNames, firstRepeated?, Script.compile, succeeded,
    Draft.assemble, resolved, Except.map, List.map_cons, List.map_nil, List.not_mem_nil, if_false,
    List.mapM_cons, List.mapM_nil, bind, Except.bind, pure, Except.pure]

/-- No label is defined by two lines of a text. -/
def UniqueDefinitions (text : String) : Prop :=
  ∀ label, (textLines text).count (label ++ "$:") ≤ 1

/-- A line of a text is the definition of one of the two labels of a conditional, written where the
conditional puts that label. Lines before the body of the script are counted in. -/
def DefinedByConditional (events : List Event) (body : List Line) (before position : Nat)
    (digits : String) : Prop :=
  ∃ (index : Nat) (event : Event) (condition : Condition) (span : Span),
    (conditionals events)[index]? = some event ∧ event.read = .ok (.choose condition) ∧
    span.Brackets body condition (toString (2 * index + 1)) (toString (2 * index + 2)) ∧
    ((digits = toString (2 * index + 1) ∧ position = before + (span.leave + 1)) ∨
      (digits = toString (2 * index + 2) ∧ position = before + span.join))

section Text

variable {setting : Setting} {events : List Event} {draft : Draft} {options : Options}
  {name : String} {exported : Bool}

/-- The lines of the text of an accepted script are those before the body, those of the draft, and
the empty one that seems to follow the last newline. -/
theorem Accepted.textLines_eq (accepted : Accepted setting events draft)
    (includesUnbroken : ∀ path ∈ options.includes, Unbroken path) (named : Unbroken name)
    (labelsUnbroken : ∀ label ∈ (Event.inOrder events).filterMap Event.label?, Unbroken label) :
    textLines (joinLines (options.preamble (draft.reservesLocalActor options) name exported ++
        draft.lines)) =
      options.preamble (draft.reservesLocalActor options) name exported ++ draft.lines ++ [""] := by
  refine Options.textLines_preamble includesUnbroken named fun line inBody => ?_
  obtain ⟨entry, listed, rfl⟩ := List.mem_map.mp inBody
  have inside : entry.line ∈ draft.body := List.mem_map_of_mem listed
  refine unbroken_render (accepted.tame _ inside) fun label mentions => ?_
  cases reserved : isReserved label with
  | true => exact unbroken_of_isTame (isTame_of_isReserved reserved)
  | false =>
    have stands := accepted.closed _ inside label mentions
    exact labelsUnbroken label ((accepted.stands label reserved).mp stands)

/-- A definition occurs among the lines of a text as often as among the lines for the linker, and
once more where its label stands. -/
theorem Accepted.count_text (accepted : Accepted setting events draft) (reserves : Bool)
    (label : String) :
    (options.preamble reserves name exported ++ draft.lines ++ [""]).count (label ++ "$:") =
      (Options.globals name exported).count (label ++ "$:") +
        if (draft.ledger.defined.lookup label).isSome = true then 1 else 0 := by
  have last : [""].count (label ++ "$:") = 0 :=
    List.count_eq_zero.mpr fun member => ne_definition rfl (List.mem_singleton.mp member).symm
  rw [List.count_append, List.count_append, Options.count_preamble, count_lines accepted.tame,
    accepted.sound.count_label, last, Nat.add_zero]

/-- The definitions in a text are unique exactly when no label of the events is written like a line
for the linker. -/
theorem Accepted.count_le_one_iff (accepted : Accepted setting events draft) (reserves : Bool) :
    (∀ label, (options.preamble reserves name exported ++ draft.lines ++ [""]).count
        (label ++ "$:") ≤ 1) ↔
      ∀ label ∈ (Event.inOrder events).filterMap Event.label?,
        label ++ "$:" ∉ Options.globals name exported := by
  simp only [accepted.count_text]
  constructor
  · intro unique label defined
    cases reserved : isReserved label with
    | true => exact Options.not_mem_globals reserved
    | false =>
      have once := unique label
      rw [if_pos ((accepted.stands label reserved).mpr defined)] at once
      exact List.count_eq_zero.mp (by omega)
  · intro free label
    have single := List.nodup_iff_count_le_one.mp (Options.nodup_globals name exported)
      (label ++ "$:")
    by_cases stands : (draft.ledger.defined.lookup label).isSome = true
    · have absent : label ++ "$:" ∉ Options.globals name exported := by
        cases reserved : isReserved label with
        | true => exact Options.not_mem_globals reserved
        | false => exact free label ((accepted.stands label reserved).mp stands)
      rw [if_pos stands, List.count_eq_zero.mpr absent]
    · rwa [if_neg stands]

/-- A definition of digits among the lines of a draft, in writing, is written by a conditional. -/
theorem Accepted.exists_conditional (accepted : Accepted setting events draft)
    (succeeded : lowerEvents setting events {} = .ok () draft) {before inner : Nat}
    {digits : String} (reserved : isReserved digits = true)
    (found : draft.lines[inner]? = some (digits ++ "$:")) :
    DefinedByConditional events draft.body before (before + inner) digits := by
  obtain ⟨line, standing, written⟩ : ∃ line, draft.body[inner]? = some line ∧
      line.render = digits ++ "$:" := by
    rw [draft.lines_eq, List.getElem?_map] at found
    exact Option.map_eq_some_iff.mp found
  have member := List.mem_of_getElem? standing
  obtain rfl := (render_eq_definition_iff (accepted.tame line member) digits).mp written
  have numbered := numbered_body succeeded
  obtain ⟨spans, placed, -⟩ := numbered.exists_spans
  obtain ⟨taken, least, most, rfl⟩ := numbered.exists_of_mention? member rfl reserved
  -- The numbers 2 k + 1 and 2 k + 2 are those of the conditional of index k.
  obtain ⟨index, parity⟩ : ∃ index, taken = 2 * index + 1 ∨ taken = 2 * index + 2 :=
    ⟨(taken - 1) / 2, by omega⟩
  have few : index < (conditionals events).length := by
    rw [numbered.last_eq] at most
    omega
  have listed := List.getElem?_eq_getElem few
  have spanned := List.getElem?_eq_getElem (placed.length_eq ▸ few)
  obtain ⟨condition, read, brackets, distinct⟩ := placed.own_brackets listed spanned
  have positions := brackets.position_eq distinct inner
  refine ⟨index, _, condition, _, listed, read, brackets, ?_⟩
  rcases parity with rfl | rfl
  · exact .inl ⟨rfl, congrArg _ (positions.1 standing)⟩
  · exact .inr ⟨rfl, congrArg _ (positions.2 standing)⟩

/-- A definition of digits in a text is written by a conditional. -/
theorem Accepted.definedByConditional (accepted : Accepted setting events draft)
    (succeeded : lowerEvents setting events {} = .ok () draft) {reserves : Bool} {position : Nat}
    {digits : String} (reserved : isReserved digits = true)
    (found : (options.preamble reserves name exported ++ draft.lines ++ [""])[position]? =
      some (digits ++ "$:")) :
    DefinedByConditional events draft.body (options.preamble reserves name exported).length
      position digits := by
  have notFirst : digits ++ "$:" ∉ options.preamble reserves name exported := by
    rw [← List.count_eq_zero, Options.count_preamble, List.count_eq_zero]
    exact Options.not_mem_globals reserved
  have notLast : digits ++ "$:" ∉ [""] :=
    fun member => ne_definition rfl (List.mem_singleton.mp member).symm
  rw [List.append_assoc] at found
  rcases Nat.lt_or_ge position (options.preamble reserves name exported).length with early | late
  · rw [List.getElem?_append_left early] at found
    exact absurd (List.mem_of_getElem? found) notFirst
  · obtain ⟨inner, rfl⟩ := Nat.exists_eq_add_of_le late
    rw [List.getElem?_append_right late, Nat.add_sub_cancel_left] at found
    rcases Nat.lt_or_ge inner draft.lines.length with inside | behind
    · rw [List.getElem?_append_left inside] at found
      exact accepted.exists_conditional succeeded reserved found
    · rw [List.getElem?_append_right behind] at found
      exact absurd (List.mem_of_getElem? found) notLast

end Text

/-- Of a document whose names of scripts and includes have no newline, every text is that of a
script at the same place. If no label of its events has a newline either, then the definitions of
labels in the text are unique exactly when no label of its events is written like a line for the
linker. The lines of the text are those before the body, those of the draft and an empty one, and
every one of them that is a definition of digits is written by a conditional. -/
theorem unique_definitions_iff (options : Options) (document : Document) (outputs : List Compiled)
    (includesUnbroken : ∀ path ∈ options.includes, Unbroken path)
    (namesUnbroken : ∀ script ∈ document.scripts, Unbroken script.name)
    (compiled : document.compile options = .ok outputs) (index : Nat) (output : Compiled)
    (given : outputs[index]? = some output) :
    ∃ script, document.scripts[index]? = some script ∧
      ((∀ label ∈ (Event.inOrder script.events).filterMap Event.label?, Unbroken label) →
        (UniqueDefinitions output.text ↔
          ∀ label ∈ (Event.inOrder script.events).filterMap Event.label?,
            label ++ "$:" ∉ Options.globals script.name script.exported) ∧
        ∃ draft before, lowerEvents document.setting script.events {} = .ok () draft ∧
          textLines output.text = before ++ draft.lines ++ [""] ∧
          ∀ (position : Nat) (digits : String), isReserved digits = true →
            (textLines output.text)[position]? = some (digits ++ "$:") →
            DefinedByConditional script.events draft.body before.length position digits) := by
  obtain ⟨script, listed, scriptCompiled⟩ := Document.exists_script_of_ok compiled given
  obtain ⟨draft, succeeded, resolved, text⟩ := Script.exists_draft_of_ok scriptCompiled
  refine ⟨script, listed, fun labelsUnbroken => ?_⟩
  have accepted := accepted_of_ok succeeded resolved
  have named := namesUnbroken script (List.mem_of_getElem? listed)
  have written := congrArg textLines text
  rw [accepted.textLines_eq includesUnbroken named labelsUnbroken] at written
  refine ⟨?_, draft, _, succeeded, written, ?_⟩
  · rw [UniqueDefinitions, written]
    exact accepted.count_le_one_iff _
  · intro position digits reserved found
    rw [written] at found
    exact accepted.definedByConditional succeeded reserved found

/-- A question after which a script may start over. -/
def restartEvents : List Event :=
  [{ command := "EVENT_LABEL_DEFINE", args := [("label", .text "start")] },
    { command := "EVENT_IF_TRUE", args := [("variable", .text "0")],
      children := [("true",
        [{ command := "EVENT_LABEL_GOTO", args := [("label", .text "start")] }])] }]

/-- A document of one script, which may start over. -/
def restartDocument : Document :=
  { setting := {}, scripts := [{ name := "S", events := restartEvents }] }

/-- The text of the script that may start over has unique definitions, and that of the label 1, in
the fifth line of the body, is written by its conditional. -/
theorem restart_unique :
    ∃ output before, ∃ draft : Draft, restartDocument.compile {} = .ok [output] ∧
      UniqueDefinitions output.text ∧ textLines output.text = before ++ draft.lines ++ [""] ∧
      draft.lines[4]? = some "1$:" ∧
      DefinedByConditional restartEvents draft.body before.length (before.length + 4) "1" := by
  obtain ⟨draft, succeeded, resolved, fifth⟩ : ∃ draft,
      lowerEvents {} restartEvents {} = .ok () draft ∧ draft.ledger.unresolved = [] ∧
      draft.lines[4]? = some "1$:" := ⟨_, by cbv, by cbv, by cbv⟩
  have labels : (Event.inOrder restartEvents).filterMap Event.label? = ["start"] := by
    decide +kernel
  have includesUnbroken : ∀ path ∈ Options.includes {}, Unbroken path := by simp [Unbroken]
  have namesUnbroken : ∀ script ∈ restartDocument.scripts, Unbroken script.name := by
    simp [restartDocument, Unbroken]
  have compiled : restartDocument.compile {} = .ok [_] :=
    Document.compile_of_ok {} "S" false succeeded resolved
  obtain ⟨script, listed, known⟩ := unique_definitions_iff {} restartDocument _
    includesUnbroken namesUnbroken compiled 0 _ rfl
  obtain rfl : { name := "S", events := restartEvents } = script := Option.some.inj listed
  obtain ⟨uniqueIff, other, before, alsoSucceeded, written, generated⟩ :=
    known (by simp [labels, Unbroken])
  obtain rfl : other = draft := by simpa [restartDocument, succeeded] using alsoSucceeded.symm
  refine ⟨_, before, other, compiled, uniqueIff.mpr ?_, written, fifth, generated _ "1" rfl ?_⟩
  · rw [labels]
    decide
  · have inside : 4 < other.lines.length := (List.getElem?_eq_some_iff.mp fifth).1
    rw [written, List.append_assoc, List.getElem?_append_right (Nat.le_add_right _ _),
      Nat.add_sub_cancel_left, List.getElem?_append_left inside]
    exact fifth

/-- A label whose name goes on in a second line, before a conditional. -/
def brokenEvents : List Event :=
  [{ command := "EVENT_LABEL_DEFINE", args := [("label", .text "x\n1")] },
    { command := "EVENT_IF_TRUE", args := [("variable", .text "0")] }]

/-- A document of one script, which has a broken label. -/
def brokenDocument : Document :=
  { setting := {}, scripts := [{ name := "S", events := brokenEvents }] }

/-- The document with the broken label compiles, though its text defines the label 1 twice: the name
of the label ends in a definition, and the conditional writes another. -/
theorem broken_label_collides :
    (∀ path ∈ Options.includes {}, Unbroken path) ∧
      (∀ script ∈ brokenDocument.scripts, Unbroken script.name) ∧
      ∃ output, brokenDocument.compile {} = .ok [output] ∧
        (textLines output.text).count "1$:" = 2 ∧ ¬UniqueDefinitions output.text := by
  obtain ⟨draft, rest, succeeded, resolved, free, lines, unbroken, once⟩ : ∃ draft rest,
      lowerEvents {} brokenEvents {} = .ok () draft ∧ draft.ledger.unresolved = [] ∧
      draft.reservesLocalActor {} = false ∧ draft.lines = ("x" ++ "\n" ++ "1$:") :: rest ∧
      (∀ line ∈ rest, Unbroken line) ∧ rest.count "1$:" = 1 :=
    ⟨_, _, by cbv, by cbv, by cbv, by cbv, by simp [Unbroken], by cbv⟩
  have includesUnbroken : ∀ path ∈ Options.includes {}, Unbroken path := by simp [Unbroken]
  have several : Options.preamble {} false "S" false ≠ [] := by simp [Options.preamble]
  have compiled : brokenDocument.compile {} = .ok [_] :=
    Document.compile_of_ok {} "S" false succeeded resolved
  rw [free, lines, joinLines_append_broken several] at compiled
  have written : textLines (joinLines (Options.preamble {} false "S" false ++
      "x" :: "1$:" :: rest)) = Options.preamble {} false "S" false ++ "x" :: "1$:" :: rest ++
        [""] := by
    apply textLines_joinLines (List.append_ne_nil_of_left_ne_nil several _)
    intro line member
    rcases List.mem_append.mp member with first | later
    · exact Options.unbroken_preamble includesUnbroken (by simp [Unbroken]) first
    · rcases List.mem_cons.mp later with rfl | later
      · simp [Unbroken]
      · rcases List.mem_cons.mp later with rfl | later
        · simp [Unbroken]
        · exact unbroken line later
  have twice : (textLines (joinLines (Options.preamble {} false "S" false ++
      "x" :: "1$:" :: rest))).count "1$:" = 2 := by
    have first : (Options.preamble {} false "S" false).count "1$:" = 0 := by decide
    simp [written, first, once]
  refine ⟨includesUnbroken, by simp [brokenDocument, Unbroken], _, compiled, twice, ?_⟩
  intro unique
  have atMostOnce : (textLines _).count "1$:" ≤ 1 := unique "1"
  rw [twice] at atMostOnce
  omega

end EventScript
