import EventScript.Proofs.Charted
import EventScript.Proofs.Consistency

/-!
# Where the jumps of a script land

A script that is assembled awaits no label. Where nothing was refused on the way, every jump of it
has exactly one line for its label, and both are at one depth. After faults that a procedure went on
from this need not hold: a refused definition withdraws what the ledger knew of the label, so the
jumps to it are no longer awaited and the script is assembled without the label. That is the only
way to lose one.
-/
namespace EventScript

open Assembly (Comparison Line)

/-- A draft is assembled exactly when it awaits no label. -/
theorem exists_assemble_iff (draft : Draft) (options : Options) (name : String) (exported : Bool) :
    (∃ text, draft.assemble options name exported = .ok text) ↔ draft.ledger.pending = [] := by
  cases awaited : draft.ledger.pending with
  | nil => simp [Draft.assemble, Ledger.unresolved, awaited]
  | cons first rest => simp [Draft.assemble, Ledger.unresolved, awaited]

/-- Among names that occur once, the entries of a name are the one that is found for it. -/
theorem filter_eq_of_lookup {entries : List (String × Nat)} {name : String} {depth : Nat}
    (once : (entries.map (·.1)).Nodup) (found : entries.lookup name = some depth) :
    entries.filter (·.1 = name) = [(name, depth)] := by
  induction entries with
  | nil => cases found
  | cons entry rest inductionHypothesis =>
    rw [List.map_cons, List.nodup_cons] at once
    rw [lookup_cons_ite] at found
    by_cases same : name = entry.1
    · have others : rest.filter (·.1 = name) = [] := by
        rw [List.filter_eq_nil_iff]
        intro other member again
        have repeated : entry.1 ∈ rest.map (·.1) :=
          List.mem_map.mpr ⟨other, member, by simpa [same] using again⟩
        exact once.1 repeated
      rw [if_pos same] at found
      have first : entry = (name, depth) := Prod.ext same.symm (Option.some.inj found)
      rw [List.filter_cons_of_pos (by simp [same]), others, first]
    · rw [if_neg same] at found
      rw [List.filter_cons_of_neg (by simpa using Ne.symm same),
        inductionHypothesis once.2 found]

/-- A line has the label that it puts into the script. -/
theorem line_eq_label_iff {line : Line} {name : String} :
    line = .label name ↔ line.label? = some name := by
  cases line <;> simp [Line.label?]

/-- The lines of one label are, with their depths, what the labels of the draft hold under its name.
-/
theorem filter_label (entries : List Entry) (name : String) :
    entries.filter (fun entry => entry.line = .label name) =
      ((entries.filterMap fun entry =>
        entry.line.label?.map fun other => (other, entry.depth)).filter (·.1 = name)).map
          fun label => { line := .label label.1, depth := label.2 } := by
  induction entries with
  | nil => rfl
  | cons entry rest inductionHypothesis =>
    cases labelled : entry.line.label? with
    | none =>
      have other : ¬entry.line = .label name := by simp [line_eq_label_iff, labelled]
      rw [List.filter_cons_of_neg (by simpa using other),
        List.filterMap_cons_none (by simp [labelled]), inductionHypothesis]
    | some found =>
      rw [List.filterMap_cons_some (b := (found, entry.depth)) (by simp [labelled])]
      by_cases same : found = name
      · have line : entry.line = .label name := line_eq_label_iff.mpr (same ▸ labelled)
        rw [List.filter_cons_of_pos (by simpa using line),
          List.filter_cons_of_pos (by simpa using same), List.map_cons, inductionHypothesis, same,
          ← line]
      · have other : ¬entry.line = .label name := by
          simpa [line_eq_label_iff, labelled] using same
        rw [List.filter_cons_of_neg (by simpa using other),
          List.filter_cons_of_neg (by simpa using same), inductionHypothesis]

/-- A label that the ledger of a consistent draft calls defined has one line, written at the depth
that the ledger says. -/
theorem Draft.Consistent.filter_label {draft : Draft} (sound : draft.Consistent) {name : String}
    {depth : Nat} (stands : draft.ledger.defined.lookup name = some depth) :
    draft.entries.toList.filter (fun entry => entry.line = .label name) =
      [{ line := .label name, depth := depth }] := by
  have one : draft.labels.filter (·.1 = name) = [(name, depth)] := by
    rw [sound.recorded]
    exact filter_eq_of_lookup sound.once stands
  rw [EventScript.filter_label]
  exact congrArg _ one

/-- A label has a line in a consistent draft exactly when the ledger calls it defined. -/
theorem Draft.Consistent.exists_label_iff {draft : Draft} (sound : draft.Consistent)
    (name : String) :
    (∃ entry ∈ draft.entries.toList, entry.line = .label name) ↔
      (draft.ledger.defined.lookup name).isSome = true := by
  constructor
  · rintro ⟨entry, member, line⟩
    rw [Ledger.lookup_isSome_iff, ← sound.recorded, List.mem_map]
    refine ⟨(name, entry.depth), List.mem_filterMap.mpr ⟨entry, member, ?_⟩, rfl⟩
    simp [line, Line.label?]
  · intro stands
    obtain ⟨depth, found⟩ := Option.isSome_iff_exists.mp stands
    have listed : ({ line := .label name, depth := depth } : Entry) ∈
        draft.entries.toList.filter (fun entry => entry.line = .label name) := by
      rw [sound.filter_label found]
      exact List.mem_singleton_self _
    exact ⟨_, (List.mem_filter.mp listed).1, rfl⟩

/-- A conditional that succeeds has the depth at its end that it had at its start, whatever its arms
do. -/
theorem Condition.depth_eq {setting : Setting} {condition : Condition}
    {onTrue onFalse : Writing Unit} {before after : Draft}
    (succeeded : condition.write setting onTrue onFalse before = .ok () after) :
    after.ledger.depth = before.ledger.depth := by
  cases condition with
  | isTrue variableName => exact Writing.command_depth succeeded
  | compare variableName comparison value => exact Writing.command_depth succeeded
  | operand symbol comparison value => exact Writing.conditional_depth succeeded

/-- A course that refuses no definition, to a draft that awaits no label, closes every jump with one
label at the depth of the jump. -/
theorem Course.closed {deeds : List Deed} {draft : Draft} (course : Course {} deeds draft)
    (settled : draft.ledger.pending = []) (kept : ∀ name, .refuse name ∉ deeds) {entry : Entry}
    (member : entry ∈ draft.entries.toList) {target : String}
    (jumps : entry.line.target? = some target) :
    draft.entries.toList.filter (fun other => other.line = .label target) =
      [{ line := .label target, depth := entry.depth }] := by
  have sound : draft.Consistent := course.consistent Draft.consistent_empty
  rcases course.committed entry member target jumps with committed | refused
  · rw [Ledger.commitment_eq, settled, List.lookup_nil, Option.or_none] at committed
    exact sound.filter_label committed
  · exact absurd refused (kept target)

/-- Such a course leaves a line for the label of every jump. -/
theorem Course.exists_label {deeds : List Deed} {draft : Draft} (course : Course {} deeds draft)
    (settled : draft.ledger.pending = []) (kept : ∀ name, .refuse name ∉ deeds) {entry : Entry}
    (member : entry ∈ draft.entries.toList) {target : String}
    (jumps : entry.line.target? = some target) :
    ∃ other ∈ draft.entries.toList, other.line = .label target := by
  have stands : ({ line := .label target, depth := entry.depth } : Entry) ∈
      draft.entries.toList.filter (fun other => other.line = .label target) := by
    rw [course.closed settled kept member jumps]
    exact List.mem_singleton_self _
  exact ⟨_, (List.mem_filter.mp stands).1, rfl⟩

/-- Events that are lowered on an empty draft without a fault take a course that refuses nothing. -/
theorem exists_course_of_ok {setting : Setting} {events : List Event} {draft : Draft}
    (succeeded : lowerEvents setting events {} = .ok () draft) :
    ∃ deeds, Course {} deeds draft ∧ ∀ name, .refuse name ∉ deeds := by
  have charted : Writing.Charted True (lowerEvents setting events) :=
    charted_lowerEvents setting events
  obtain ⟨deeds, course, -, mends⟩ := charted {}
  have arrived : (lowerEvents setting events).leaves {} = draft := by
    simp [Writing.leaves, succeeded]
  exact ⟨deeds, arrived ▸ course, mends trivial () draft succeeded⟩

/-- A procedure that jumps over a conditional, with words on the stack and an arm that pushes and
pops. -/
def leapSteps : List Step :=
  [.push 2, .act (.goto "end"),
    .choose (.isTrue "0") (.block [.push 1, .pop 1, .act (.wait 3)])
      (.events [{ command := "EVENT_END" }]),
    .act (.label "end"), .pop 2]

/-- Faults that a procedure goes on from can lose labels in one way only. Whatever is tried and
swallowed in whatever order and nesting, if the draft that is left is assembled then all its jumps
have their labels exactly when every label that was refused on the way has come to stand after all;
and a jump without its label goes to a refused one. -/
theorem jump_closed_iff_refusals_mended (workshop : Workshop) (lawful : workshop.Lawful False)
    (steps : List Step) (options : Options) (name text : String) (exported : Bool)
    (assembled : ((runSteps workshop steps).leaves {}).assemble options name exported = .ok text) :
    let entries := ((runSteps workshop steps).leaves {}).entries.toList
    (∃ deeds, Course {} deeds ((runSteps workshop steps).leaves {})) ∧
    ∀ deeds, Course {} deeds ((runSteps workshop steps).leaves {}) →
      ((∀ entry ∈ entries, ∀ target, entry.line.target? = some target →
          ∃ other ∈ entries, other.line = .label target) ↔
        ∀ target, .refuse target ∈ deeds → ∃ other ∈ entries, other.line = .label target) ∧
      ∀ entry ∈ entries, ∀ target, entry.line.target? = some target →
        (∃ other ∈ entries, other.line = .label target) ∨ .refuse target ∈ deeds := by
  intro entries
  obtain ⟨followed, course, _, _⟩ := charted_runSteps lawful steps {}
  refine ⟨⟨followed, course⟩, ?_⟩
  intro deeds course
  have sound := course.consistent Draft.consistent_empty
  have settled := (exists_assemble_iff _ _ _ _).mp ⟨text, assembled⟩
  have closed : ∀ entry ∈ entries, ∀ target, entry.line.target? = some target →
      (∃ other ∈ entries, other.line = .label target) ∨ .refuse target ∈ deeds := by
    intro entry member target jumps
    rcases course.committed entry member target jumps with committed | refused
    · rw [Ledger.commitment_eq, settled, List.lookup_nil, Option.or_none] at committed
      exact Or.inl ((sound.exists_label_iff target).mpr (by simp [committed]))
    · exact Or.inr refused
  refine ⟨⟨?_, ?_⟩, closed⟩
  · intro all target refused
    obtain ⟨entry, member, jumps⟩ := course.jumpsTo_of_refuse Draft.consistent_empty refused
    exact all entry member target jumps
  · intro mended entry member target jumps
    exact (closed entry member target jumps).elim id (mended target)

/-- A procedure that jumps to a label, and goes on after the label is refused one word higher. -/
def strandedSteps : List Step :=
  [.act (.goto "x"), .push 1, .attempt [.act (.label "x")]]

/-- What the stranded procedure leaves is one jump, and nothing that is awaited. -/
theorem leaves_strandedSteps :
    (runSteps (({} : Setting).workshop {}) strandedSteps).leaves {} =
      { ledger := { depth := 1 }, entries := #[{ line := .jump "x", depth := 0 }] } := by
  cbv

/-- A draft can be assembled with a jump whose label has no line. -/
theorem stranded_jump_assembled :
    ∃ steps text, ((runSteps (({} : Setting).workshop {}) steps).leaves {}).assemble {} "S" false =
        .ok text ∧
      ¬∀ entry ∈ ((runSteps (({} : Setting).workshop {}) steps).leaves {}).entries.toList,
        ∀ target, entry.line.target? = some target →
          ∃ other ∈ ((runSteps (({} : Setting).workshop {}) steps).leaves {}).entries.toList,
            other.line = .label target := by
  refine ⟨strandedSteps, ?_⟩
  rw [leaves_strandedSteps]
  obtain ⟨text, assembled⟩ := (exists_assemble_iff
    { ledger := { depth := 1 }, entries := #[{ line := .jump "x", depth := 0 }] }
    {} "S" false).mpr rfl
  refine ⟨text, assembled, ?_⟩
  simp [Line.target?]

/-- The label of the stranded jump was refused on the way. -/
theorem stranded_jump_refused :
    ∃ text deeds, ((runSteps (({} : Setting).workshop {}) strandedSteps).leaves {}).assemble {} "S"
        false = .ok text ∧
      Course {} deeds ((runSteps (({} : Setting).workshop {}) strandedSteps).leaves {}) ∧
      .refuse "x" ∈ deeds := by
  obtain ⟨text, assembled⟩ := (exists_assemble_iff
    ((runSteps (({} : Setting).workshop {}) strandedSteps).leaves {}) {} "S" false).mpr (by
      rw [leaves_strandedSteps])
  obtain ⟨⟨deeds, course⟩, closed⟩ := jump_closed_iff_refusals_mended (({} : Setting).workshop {})
    (Setting.workshop_lawful {} {}) strandedSteps {} "S" text false assembled
  refine ⟨text, deeds, assembled, course, ?_⟩
  have reported := (closed deeds course).2 { line := .jump "x", depth := 0 }
    (by simp [leaves_strandedSteps]) "x" rfl
  simpa [leaves_strandedSteps] using reported

end EventScript
