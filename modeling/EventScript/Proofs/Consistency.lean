import EventScript.Proofs.Course

/-!
# The ledger and the lines agree

The ledger of a draft is an account of its lines. The labels that it calls defined are those of the
lines, each with the depth at which its line was written, and no label has two lines. A label is
never both defined and awaited, and an awaited label has been jumped to. Every deed keeps this, so
it holds of every draft that a course from an empty one reaches.

A jump commits its label to the depth of the jump. The commitment stays in the ledger for good
unless a definition of the label is refused, which withdraws it.
-/
namespace EventScript

open Assembly (Line)

namespace Draft

/-- The labels that stand in a draft, each with the depth at which its line was written. -/
def labels (draft : Draft) : List (String × Nat) :=
  draft.entries.toList.filterMap fun entry => entry.line.label?.map fun name => (name, entry.depth)

/-- The lines of a draft that may go on at a label. -/
def JumpsTo (draft : Draft) (name : String) : Prop :=
  ∃ entry ∈ draft.entries.toList, entry.line.target? = some name

/-- The ledger of a draft accounts for its lines. -/
structure Consistent (draft : Draft) : Prop where
  recorded : draft.labels = draft.ledger.defined
  once : (draft.ledger.defined.map (·.1)).Nodup
  apart : ∀ name depth, draft.ledger.pending.lookup name = some depth →
    draft.ledger.defined.lookup name = none
  awaited : ∀ name depth, draft.ledger.pending.lookup name = some depth → draft.JumpsTo name

/-- Every jump of a draft has its label committed to its depth, but for labels that are excused. -/
def Committed (excused : String → Prop) (draft : Draft) : Prop :=
  ∀ entry ∈ draft.entries.toList, ∀ name, entry.line.target? = some name →
    draft.ledger.commitment name = some entry.depth ∨ excused name

/-- The empty draft has nothing to account for. -/
theorem consistent_empty : Consistent {} where
  recorded := rfl
  once := List.nodup_nil
  apart := by simp
  awaited := by simp

/-- The empty draft has no jump. -/
theorem committed_empty (excused : String → Prop) : Committed excused {} := by simp [Committed]

/-- A line without a label leaves the labels as they are. -/
theorem labels_write (draft : Draft) (line : Line) :
    (draft.write line).labels =
      draft.labels ++ (line.label?.map fun name => (name, draft.ledger.depth)).toList := by
  cases named : line.label? <;> simp [labels, named]

/-- A line at a ledger that keeps all commitments, where it fits them, keeps every jump committed.
-/
theorem Committed.write {draft : Draft} {excused : String → Prop} (kept : draft.Committed excused)
    (ledger : Ledger) (line : Line)
    (persists : ∀ name depth, draft.ledger.commitment name = some depth →
      ledger.commitment name = some depth)
    (fits : ∀ name, line.target? = some name → ledger.commitment name = some ledger.depth) :
    ((draft.withLedger ledger).write line).Committed excused := by
  intro entry member name target
  rw [write_entries, List.mem_append, List.mem_singleton] at member
  rcases member with old | rfl
  · exact (kept entry old name target).imp_left (persists name entry.depth)
  · exact Or.inl (fits name target)

/-- A line more takes no jump away. -/
theorem JumpsTo.write {draft : Draft} {name : String} (jumps : draft.JumpsTo name) (line : Line) :
    (draft.write line).JumpsTo name := by
  obtain ⟨entry, member, target⟩ := jumps
  exact ⟨entry, by simp [member], target⟩

/-- A line that jumps is a jump. -/
theorem jumpsTo_write {line : Line} {name : String} (draft : Draft)
    (target : line.target? = some name) : (draft.write line).JumpsTo name :=
  ⟨{ line := line, depth := draft.ledger.depth }, by simp, target⟩

end Draft

open Draft

/-- A line that jumps labels nothing. -/
theorem label?_eq_none_of_target? {line : Line} {name : String}
    (target : line.target? = some name) : line.label? = none := by
  cases line with
  | branch comparison operand value other => rfl
  | jump other => rfl
  | _ => cases target

namespace Deed

/-- A deed keeps the ledger true to the lines. -/
theorem Moves.consistent {deed : Deed} {before after : Draft} (moved : deed.Moves before after)
    (sound : before.Consistent) : after.Consistent := by
  obtain ⟨recorded, once, apart, awaited⟩ := sound
  cases moved with
  | push _ words => exact ⟨recorded, once, apart, awaited⟩
  | pop _ words held => exact ⟨recorded, once, apart, awaited⟩
  | number _ => exact ⟨recorded, once, apart, awaited⟩
  | refuse _ name expected absent isAwaited elsewhere =>
    refine ⟨recorded, once, ?_, ?_⟩
    all_goals
      intro other depth found
      simp only [withLedger_ledger, Ledger.withdraw, Ledger.lookup_filter_ne] at found
      split at found
      · cases found
    · exact apart other depth found
    · exact awaited other depth found
  | label _ name known absent agreed =>
    have fresh : name ∉ before.ledger.defined.map (·.1) := by
      rw [← Ledger.lookup_isSome_iff, absent]
      simp
    constructor
    · rw [labels_write]
      exact congrArg (· ++ [(name, before.ledger.depth)]) recorded
    · have extended :
          ((before.ledger.defined ++ [(name, before.ledger.depth)]).map (·.1)).Nodup := by
        rw [List.map_append, List.nodup_append]
        refine ⟨once, List.nodup_singleton name, ?_⟩
        intro old present new added same
        obtain rfl := List.mem_singleton.mp added
        exact fresh (same ▸ present)
      exact extended
    · intro other depth found
      simp only [write_ledger, withLedger_ledger, Ledger.enter, Ledger.withdraw,
        Ledger.lookup_filter_ne] at found
      split at found
      · cases found
      · rename_i distinct
        simp [Ledger.enter, Ledger.lookup_concat, distinct, apart other depth found]
    · intro other depth found
      simp only [write_ledger, withLedger_ledger, Ledger.enter, Ledger.withdraw,
        Ledger.lookup_filter_ne] at found
      split at found
      · cases found
      · exact (awaited other depth found).write _
  | jump _ line name target committed =>
    have noLabel : line.label? = none := label?_eq_none_of_target? target
    refine ⟨by simpa [labels_write, noLabel] using recorded, once, apart, ?_⟩
    exact fun other depth found => (awaited other depth found).write line
  | jumpAhead _ line name target known free =>
    have noLabel : line.label? = none := label?_eq_none_of_target? target
    obtain ⟨absent, _⟩ := Option.or_eq_none_iff.mp (before.ledger.commitment_eq name ▸ free)
    refine ⟨?_, once, ?_, ?_⟩
    · rw [labels_write, noLabel]
      exact (List.append_nil _).trans recorded
    all_goals
      intro other depth found
      simp only [write_ledger, withLedger_ledger, Ledger.await, Ledger.lookup_concat] at found
      by_cases same : other = name
    · exact same ▸ absent
    · exact apart other depth (by simpa [same] using found)
    · subst same
      exact jumpsTo_write _ target
    · exact (awaited other depth (by simpa [same] using found)).write line
  | plain _ line noTarget noLabel noActor =>
    refine ⟨by simpa [labels_write, noLabel] using recorded, once, apart, ?_⟩
    exact fun other depth found => (awaited other depth found).write line
  | address _ line noTarget noLabel actor =>
    have same : (before.write line).labels = before.labels := by simp [labels_write, noLabel]
    refine ⟨same.trans recorded, once, apart, ?_⟩
    exact fun other depth found => (awaited other depth found).write line

/-- A deed keeps every jump committed, if a refused label is excused. -/
theorem Moves.committed {deed : Deed} {before after : Draft} {excused : String → Prop}
    (moved : deed.Moves before after) (excuse : ∀ name, deed = .refuse name → excused name)
    (kept : before.Committed excused) : after.Committed excused := by
  cases moved with
  | push _ words => exact kept
  | pop _ words held => exact kept
  | number _ => exact kept
  | refuse _ name expected absent isAwaited elsewhere =>
    intro entry member other target
    by_cases same : other = name
    · exact Or.inr (same ▸ excuse name rfl)
    · simpa [Ledger.commitment_eq, Ledger.withdraw, Ledger.lookup_filter_ne, same] using
        kept entry member other target
  | label _ name known absent agreed =>
    refine kept.write (before.ledger.enter name) _ ?_ (by simp [Line.target?])
    intro other depth committed
    rw [Ledger.commitment_enter absent]
    by_cases same : other = name
    · subst same
      rw [Ledger.commitment_eq, absent, Option.none_or] at committed
      rw [if_pos rfl, agreed depth committed]
    · rw [if_neg same, committed]
  | jump _ line name target committed =>
    refine kept.write before.ledger line (fun _ _ found => found) ?_
    intro other same
    obtain rfl : name = other := by simpa [target] using same
    exact committed
  | jumpAhead _ line name target known free =>
    refine kept.write (before.ledger.await name) line ?_ ?_
    · intro other depth committed
      have distinct : other ≠ name := by
        rintro rfl
        rw [free] at committed
        cases committed
      rw [Ledger.commitment_await free, if_neg distinct, committed]
    · intro other same
      obtain rfl : name = other := by simpa [target] using same
      rw [Ledger.commitment_await free, if_pos rfl]
      rfl
  | plain _ line noTarget noLabel noActor =>
    exact kept.write before.ledger line (fun _ _ found => found) (by simp [noTarget])
  | address _ line noTarget noLabel actor =>
    exact kept.write before.ledger line (fun _ _ found => found) (by simp [noTarget])

/-- A deed takes no jump away. -/
theorem Moves.jumpsTo {deed : Deed} {before after : Draft} {name : String}
    (moved : deed.Moves before after) (jumps : before.JumpsTo name) : after.JumpsTo name := by
  cases moved with
  | push _ words => exact jumps
  | pop _ words held => exact jumps
  | number _ => exact jumps
  | refuse _ other expected absent isAwaited elsewhere => exact jumps
  | label _ other known absent agreed => exact jumps.write _
  | jump _ line other target committed => exact jumps.write line
  | jumpAhead _ line other target known free => exact jumps.write line
  | plain _ line noTarget noLabel noActor => exact jumps.write line
  | address _ line noTarget noLabel actor => exact jumps.write line

end Deed

namespace Course

variable {before after : Draft} {deeds : List Deed}

/-- A course keeps the ledger true to the lines. -/
theorem consistent (course : Course before deeds after) (sound : before.Consistent) :
    after.Consistent :=
  course.preserves Draft.Consistent (fun _ _ _ _ sound moved => moved.consistent sound) sound

/-- A course takes no jump away. -/
theorem jumpsTo {name : String} (course : Course before deeds after)
    (jumps : before.JumpsTo name) : after.JumpsTo name :=
  course.preserves (JumpsTo · name) (fun _ _ _ _ jumps moved => moved.jumpsTo jumps) jumps

/-- A course from an empty draft keeps every jump committed whose label it never refuses. -/
theorem committed (course : Course {} deeds after) :
    after.Committed fun name => .refuse name ∈ deeds := by
  refine course.preserves (Draft.Committed fun name => .refuse name ∈ deeds) ?_ (committed_empty _)
  intro deed member draft next kept moved
  exact moved.committed (fun name same => same ▸ member) kept

/-- Only a label that has been jumped to is ever refused. -/
theorem jumpsTo_of_refuse {name : String} (course : Course before deeds after)
    (sound : before.Consistent) (refused : .refuse name ∈ deeds) : after.JumpsTo name := by
  induction course with
  | stay draft => cases refused
  | @move draft next after deed deeds moved rest inductionHypothesis =>
    rcases List.mem_cons.mp refused with now | later
    · subst now
      refine rest.jumpsTo (moved.jumpsTo ?_)
      cases moved with
      | refuse _ _ expected absent isAwaited elsewhere =>
        exact sound.awaited name expected isAwaited
    · exact inductionHypothesis (moved.consistent sound) later

end Course

end EventScript
