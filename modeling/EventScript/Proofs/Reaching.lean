import EventScript.Proofs.Jumps
import EventScript.Proofs.Rendering

/-!
# What callers can bring a draft to

A caller brings a draft from state to state by calls, one after another and whatever they answer.
Inside a call to a conditional its arms make calls of their own, on the draft as the conditional has
left it for them. A compiler of events that the caller has supplied makes calls as well, and may
hand events on to the compiler of documents.

Every draft that is reached in this way lies on a course, so it is enough to follow the deeds. The
ledger of such a draft accounts for its lines, and later calls only add to it.
-/
namespace EventScript

open Assembly (Line)

/-- The drafts that calls can come to from a draft. A fault ends a call and not the caller, so
whatever a call leaves counts, also where it fails. An arm is entered where an arm in its place that
fails at once, with whatever fault, makes the conditional fail with that fault. -/
inductive Workshop.Reaches (workshop : Workshop) (start : Draft) : Draft → Prop where
  | start : Reaches workshop start start
  | call {draft : Draft} (step : Step) (reached : Reaches workshop start draft) :
    Reaches workshop start ((step.run workshop).leaves draft)
  | onFalse {draft inside : Draft} (condition : Condition) (onTrue : Arm)
    (reached : Reaches workshop start draft)
    (entered : ∀ fault,
      condition.write workshop.setting (onTrue.run workshop) (throw fault) draft =
        .error fault inside) :
    Reaches workshop start inside
  | onTrue {draft inside : Draft} (condition : Condition) (onFalse : Arm)
    (reached : Reaches workshop start draft)
    (entered : ∀ fault,
      condition.write workshop.setting (throw fault) (onFalse.run workshop) draft =
        .error fault inside) :
    Reaches workshop start inside

/-- A supplied compiler of events can do to a draft what calls can do to it, those to the compiler
of documents included, and nothing else. -/
def Workshop.MadeOfCalls (workshop : Workshop) : Prop :=
  ∀ lowering, workshop.lowering = some lowering → ∀ events draft,
    (workshop.setting.workshop workshop.options).Reaches draft ((lowering events).leaves draft)

/-- What the ledger of a draft and the mark for the local actor say of its lines. The lines of
labels are the defined labels in the order of definition, no label is both defined and awaited, a
name of digits is the decimal of a number that has been taken, and the mark is there where a line
addresses the local actor. -/
structure Draft.Accounted (draft : Draft) : Prop where
  labelled : (draft.entries.toList.filter fun entry => entry.line.label?.isSome).map
      (fun entry => entry.line.render) = draft.ledger.defined.map fun label => label.1 ++ "$:"
  once : (draft.ledger.defined.map (·.1)).Nodup
  apart : ∀ name ∈ draft.ledger.defined.map (·.1), name ∉ draft.ledger.unresolved
  named : ∀ name, name ∈ draft.ledger.defined.map (·.1) ∨ name ∈ draft.ledger.unresolved →
    name ≠ "" ∧ (isReserved name = true →
      ∃ number, 1 ≤ number ∧ number < draft.ledger.nextLabel ∧ name = toString number)
  marked : draft.usesLocalActor = true ↔
    ∃ entry ∈ draft.entries.toList, entry.line.addressesActor = true

/-- What no call takes back: lines and labels stay where they are, numbers are not given back, and
the mark for the local actor is not removed. -/
structure Draft.Extends (before after : Draft) : Prop where
  lines : before.entries.toList <+: after.entries.toList
  labels : before.ledger.defined <+: after.ledger.defined
  numbers : before.ledger.nextLabel ≤ after.ledger.nextLabel
  mark : before.usesLocalActor = true → after.usesLocalActor = true

open Draft Writing

/-- Deeds about labels of scripts and about generated labels from a base on lead from one draft to
another. -/
def OwnCourse (base : Nat) (before after : Draft) : Prop :=
  ∃ deeds, Course before deeds after ∧
    ∀ deed ∈ deeds, ∀ name, deed.label? = some name → ∀ number < base, name ≠ toString number

namespace OwnCourse

variable {base : Nat} {before middle after : Draft}

/-- No deed leads from a draft to itself. -/
theorem refl (base : Nat) (draft : Draft) : OwnCourse base draft draft :=
  ⟨[], .stay draft, by simp⟩

/-- Own courses that meet make one own course. -/
theorem trans (start : OwnCourse base before middle) (rest : OwnCourse base middle after) :
    OwnCourse base before after := by
  obtain ⟨first, firstCourse, firstOwn⟩ := start
  obtain ⟨second, secondCourse, secondOwn⟩ := rest
  refine ⟨first ++ second, firstCourse.append secondCourse, fun deed member => ?_⟩
  exact (List.mem_append.mp member).elim (firstOwn deed) (secondOwn deed)

/-- What is followed from a base on is an own course. -/
theorem of_followsFrom {α : Type} {calm : Prop} {writing : Writing α}
    (follows : FollowsFrom calm base writing before) :
    OwnCourse base before (writing.leaves before) := by
  obtain ⟨deeds, course, own, -⟩ := follows
  exact ⟨deeds, course, own⟩

/-- An own course to what a writing leaves is followed by the writing. -/
theorem followsFrom {α : Type} {writing : Writing α}
    (course : OwnCourse base before (writing.leaves before)) :
    FollowsFrom False base writing before := by
  obtain ⟨deeds, course, own⟩ := course
  exact ⟨deeds, course, own, False.elim⟩

/-- An own course does not give numbers back. -/
theorem nextLabel_le (course : OwnCourse base before after) :
    before.ledger.nextLabel ≤ after.ledger.nextLabel := by
  obtain ⟨_, course, _⟩ := course
  exact course.nextLabel_le

end OwnCourse

/-- Every draft that is reached in a lawful workshop lies on a course that is about no label which
had been generated before. -/
theorem Workshop.Reaches.ownCourse {workshop : Workshop} {start draft : Draft}
    (reached : workshop.Reaches start draft) (lawful : workshop.Lawful False) :
    OwnCourse start.ledger.nextLabel start draft := by
  have goOn : ∀ {before inside : Draft} {writing : Writing Unit} {fault : Fault},
      OwnCourse start.ledger.nextLabel start before → Charted False writing →
      writing before = .error fault inside → OwnCourse start.ledger.nextLabel start inside := by
    intro before inside writing fault course charted stopped
    have follows := (charted before).weaken course.nextLabel_le id
    exact leaves_of_error stopped ▸ course.trans (.of_followsFrom follows)
  induction reached with
  | start => exact .refl _ start
  | @call draft step _ inductionHypothesis =>
    have follows := (step.charted lawful draft).weaken inductionHypothesis.nextLabel_le False.elim
    exact inductionHypothesis.trans (.of_followsFrom follows)
  | onFalse condition onTrue _ entered inductionHypothesis =>
    have arm : Charted False (onTrue.run workshop) := (onTrue.charted lawful).weaken False.elim
    exact goOn inductionHypothesis (condition.charted _ arm (charted_throw .noEventCompiler))
      (entered _)
  | onTrue condition onFalse _ entered inductionHypothesis =>
    have arm : Charted False (onFalse.run workshop) := (onFalse.charted lawful).weaken False.elim
    exact goOn inductionHypothesis (condition.charted _ (charted_throw .noEventCompiler) arm)
      (entered _)

/-- A workshop whose compiler of events is made of calls is lawful. -/
theorem Workshop.MadeOfCalls.lawful {workshop : Workshop} (made : workshop.MadeOfCalls) :
    workshop.Lawful False := by
  intro lowering given events draft
  apply OwnCourse.followsFrom
  exact (made lowering given events draft).ownCourse (Setting.workshop_lawful _ _)

/-- The workshop of a setting lowers lists of events as documents have them lowered. -/
theorem Setting.workshop_lower (setting : Setting) (options : Options) (events : List Event) :
    (setting.workshop options).lower events = lowerEvents setting events := by
  cases events with
  | nil =>
    rw [lowerEvents]
    rfl
  | cons event rest => rfl

/-- The workshop of a setting is made of calls. -/
theorem Setting.workshop_madeOfCalls (setting : Setting) (options : Options) :
    (setting.workshop options).MadeOfCalls := by
  rintro lowering ⟨⟩ events draft
  have called : ((Step.events events).run (setting.workshop options)).leaves draft =
      (lowerEvents setting events).leaves draft := by
    rw [Step.run, setting.workshop_lower options events]
    cases ran : lowerEvents setting events draft <;> simp [silently, leaves, ran]
  rw [← called]
  exact .call (.events events) .start

namespace Ledger

/-- Every reserved name that the ledger knows anything of is the decimal of a number that has been
taken, not below the base. -/
def Generates (base : Nat) (ledger : Ledger) : Prop :=
  ∀ name depth, ledger.commitment name = some depth → isReserved name = true →
    ∃ number, base ≤ number ∧ number < ledger.nextLabel ∧ name = toString number

/-- Exactly the names that are defined or awaited are committed to a depth. -/
theorem exists_commitment_iff (ledger : Ledger) (name : String) :
    (∃ depth, ledger.commitment name = some depth) ↔
      name ∈ ledger.defined.map (·.1) ∨ name ∈ ledger.unresolved := by
  rw [← Option.isSome_iff_exists, commitment_eq, Option.isSome_or, Bool.or_eq_true,
    lookup_isSome_iff, lookup_isSome_iff, unresolved]

variable {base : Nat} {ledger after : Ledger} {name : String}

/-- A ledger that generates from a base on knows what it is committed to. -/
theorem Generates.knows {depth : Nat} (generates : ledger.Generates base)
    (committed : ledger.commitment name = some depth) : ledger.Knows name := by
  intro reserved
  obtain ⟨number, _, taken, decimal⟩ := generates name depth committed reserved
  exact ⟨number, taken, decimal⟩

/-- A lower base asks for less. -/
theorem Generates.weaken {lower : Nat} (generates : ledger.Generates base) (below : lower ≤ base) :
    ledger.Generates lower := by
  intro name depth committed reserved
  obtain ⟨number, least, taken, decimal⟩ := generates name depth committed reserved
  exact ⟨number, below.trans least, taken, decimal⟩

/-- A move about one known name keeps the ledger generating, if the name is no generated label below
the base. -/
theorem Generates.move (generates : ledger.Generates base) (known : ledger.Knows name)
    (own : ∀ number < base, name ≠ toString number) (same : after.nextLabel = ledger.nextLabel)
    (others : ∀ other, other ≠ name → ledger.Agrees other after) : after.Generates base := by
  intro other depth committed reserved
  rw [same]
  by_cases moved : other = name
  · obtain ⟨number, taken, decimal⟩ := known (moved ▸ reserved)
    have least : base ≤ number := Nat.le_of_not_lt fun below => own number below decimal
    exact ⟨number, least, taken, moved.trans decimal⟩
  · rw [(others other moved).commitment] at committed
    exact generates other depth committed reserved

/-- Taking a number keeps the ledger generating. -/
theorem Generates.take (generates : ledger.Generates base) : ledger.take.Generates base := by
  intro name depth committed reserved
  obtain ⟨number, least, taken, decimal⟩ := generates name depth committed reserved
  exact ⟨number, least, Nat.lt_succ_of_lt taken, decimal⟩

/-- The definition of a known name keeps the ledger generating. -/
theorem Generates.enter (generates : ledger.Generates base) (known : ledger.Knows name)
    (own : ∀ number < base, name ≠ toString number) : (ledger.enter name).Generates base :=
  generates.move known own rfl fun _ => agrees_enter

/-- The first jump to a known name keeps the ledger generating. -/
theorem Generates.await (generates : ledger.Generates base) (known : ledger.Knows name)
    (own : ∀ number < base, name ≠ toString number) : (ledger.await name).Generates base :=
  generates.move known own rfl fun _ => agrees_await

end Ledger

namespace Deed

variable {deed : Deed} {before after : Draft} {base : Nat}

/-- A deed takes nothing back. -/
theorem Moves.grows (moved : deed.Moves before after) : before.Extends after := by
  constructor
  case lines => cases moved <;> simp
  case labels => cases moved <;> simp [Ledger.withdraw, Ledger.enter, Ledger.await, Ledger.take]
  case numbers => exact moved.nextLabel_le
  case mark => cases moved <;> simp

/-- A deed about no generated label below the base keeps the ledger generating. -/
theorem Moves.generates (moved : deed.Moves before after)
    (own : ∀ name, deed.label? = some name → ∀ number < base, name ≠ toString number)
    (generates : before.ledger.Generates base) : after.ledger.Generates base := by
  cases moved with
  | number _ => exact generates.take
  | refuse _ name expected absent awaited elsewhere =>
    have committed : before.ledger.commitment name = some expected := by
      rw [Ledger.commitment_eq, absent, Option.none_or, awaited]
    exact generates.move (generates.knows committed) (own name rfl) rfl
      fun _ => Ledger.agrees_withdraw
  | label _ name known absent agreed => exact generates.enter known (own name rfl)
  | jumpAhead _ line name target known free =>
    have about : Deed.label? (.write line) = some name := by
      rw [Deed.label?, label?_eq_none_of_target? target, target, Option.none_or]
    exact generates.await known (own name about)
  | _ => exact generates

end Deed

namespace Draft

/-- The mark for the local actor is there exactly where a line addresses that actor. -/
def Marked (draft : Draft) : Prop :=
  draft.usesLocalActor = true ↔ ∃ entry ∈ draft.entries.toList, entry.line.addressesActor = true

/-- A line that does not address the local actor needs no mark. -/
theorem Marked.write {draft : Draft} {line : Line} (marked : draft.Marked) (ledger : Ledger)
    (noActor : line.addressesActor = false) : ((draft.withLedger ledger).write line).Marked := by
  rw [Marked] at marked ⊢
  simp [marked, noActor]

end Draft

/-- A line that jumps does not address the local actor. -/
theorem addressesActor_eq_false_of_target? {line : Line} {name : String}
    (target : line.target? = some name) : line.addressesActor = false := by
  cases line with
  | instruction mnemonic operands => cases target
  | _ => rfl

/-- A deed keeps the mark for the local actor in order. -/
theorem Deed.Moves.marked {deed : Deed} {before after : Draft} (moved : deed.Moves before after)
    (marked : before.Marked) : after.Marked := by
  cases moved with
  | label _ name known absent agreed => exact marked.write _ rfl
  | jump _ line name target committed =>
    exact marked.write before.ledger (addressesActor_eq_false_of_target? target)
  | jumpAhead _ line name target known free =>
    exact marked.write _ (addressesActor_eq_false_of_target? target)
  | plain _ line noTarget noLabel noActor => exact marked.write before.ledger noActor
  | address _ line noTarget noLabel actor => simp [Draft.Marked, actor]
  | _ => exact marked

/-- A course takes nothing back. -/
theorem Course.grows {before after : Draft} {deeds : List Deed}
    (course : Course before deeds after) : before.Extends after := by
  induction course with
  | stay draft => exact ⟨List.prefix_rfl, List.prefix_rfl, Nat.le_refl _, id⟩
  | move moved _ inductionHypothesis =>
    obtain ⟨lines, labels, numbers, mark⟩ := moved.grows
    obtain ⟨moreLines, moreLabels, moreNumbers, laterMark⟩ := inductionHypothesis
    exact ⟨lines.trans moreLines, labels.trans moreLabels, numbers.trans moreNumbers,
      laterMark ∘ mark⟩

/-- A course keeps the mark for the local actor in order. -/
theorem Course.marked {before after : Draft} {deeds : List Deed}
    (course : Course before deeds after) (marked : before.Marked) : after.Marked :=
  course.preserves Draft.Marked (fun _ _ _ _ marked moved => moved.marked marked) marked

/-- An own course keeps the ledger generating. -/
theorem OwnCourse.generates {base : Nat} {before after : Draft}
    (course : OwnCourse base before after) (start : before.ledger.Generates base) :
    after.ledger.Generates base := by
  obtain ⟨_, course, own⟩ := course
  exact course.preserves (·.ledger.Generates base)
    (fun deed member _ _ generates moved => moved.generates (own deed member) generates) start

/-- The ledger of a draft that calls can come to from an empty one generates from number one on. -/
theorem Workshop.Reaches.generates {workshop : Workshop} {draft : Draft}
    (reached : workshop.Reaches {} draft) (made : workshop.MadeOfCalls) :
    draft.ledger.Generates 1 :=
  (reached.ownCourse made.lawful).generates (by simp [Ledger.Generates, Ledger.commitment])

/-- The depth of a draft that calls can come to from an empty one is one that a word can hold. -/
theorem Workshop.Reaches.depth_lt {workshop : Workshop} {draft : Draft}
    (reached : workshop.Reaches {} draft) (made : workshop.MadeOfCalls) :
    draft.ledger.depth < Ledger.depths := by
  obtain ⟨_, course, _⟩ := reached.ownCourse made.lawful
  exact course.preserves (·.ledger.depth < Ledger.depths)
    (fun _ _ _ _ held moved => moved.depth_lt held) (by decide)

/-- The lines of labels, in writing, are the labels of a draft with the mark of a definition. -/
theorem map_render_label (entries : List Entry) :
    (entries.filter fun entry => entry.line.label?.isSome).map (fun entry => entry.line.render) =
      (entries.filterMap fun entry =>
        entry.line.label?.map fun name => (name, entry.depth)).map
          fun label => label.1 ++ "$:" := by
  induction entries with
  | nil => rfl
  | cons entry rest inductionHypothesis =>
    cases labelled : entry.line.label? with
    | none => simpa [labelled] using inductionHypothesis
    | some name =>
      have line : entry.line = .label name := line_eq_label_iff.mpr labelled
      have written : entry.line.render = name ++ "$:" := by rw [line, Line.render_label]
      simpa [labelled, written] using inductionHypothesis

/-- A consistent draft that generates from number one on, and is marked where it has to be, is
accounted for. -/
theorem Draft.Consistent.accounted {draft : Draft} (sound : draft.Consistent)
    (generates : draft.ledger.Generates 1) (marked : draft.Marked) : draft.Accounted where
  labelled := by
    rw [map_render_label, ← sound.recorded]
    rfl
  once := sound.once
  apart := by
    intro name stands waits
    rw [← Ledger.lookup_isSome_iff] at stands
    rw [Ledger.unresolved, ← Ledger.lookup_isSome_iff] at waits
    obtain ⟨depth, awaited⟩ := Option.isSome_iff_exists.mp waits
    rw [sound.apart name depth awaited] at stands
    cases stands
  named := by
    intro name held
    obtain ⟨depth, committed⟩ := (draft.ledger.exists_commitment_iff name).mpr held
    refine ⟨?_, generates name depth committed⟩
    rintro rfl
    obtain ⟨number, _, _, decimal⟩ := generates "" depth committed rfl
    exact Nat.repr_ne_empty decimal.symm
  marked := marked

/-- Every draft that calls can come to from an empty one is accounted for, and later calls take
nothing back, whether they succeed or fail, wherever they are nested and whatever faults are gone on
from. -/
theorem accounted_of_reaches (workshop : Workshop) (made : workshop.MadeOfCalls) (draft : Draft)
    (reached : workshop.Reaches {} draft) :
    draft.Accounted ∧ ∀ later, workshop.Reaches draft later → draft.Extends later := by
  obtain ⟨_, course, _⟩ := reached.ownCourse made.lawful
  have sound : draft.Consistent := course.consistent consistent_empty
  have marked : draft.Marked := course.marked (by simp [Draft.Marked])
  refine ⟨sound.accounted (reached.generates made) marked, fun later goesOn => ?_⟩
  obtain ⟨_, further, _⟩ := goesOn.ownCourse made.lawful
  exact further.grows

/-- A caller jumps to a label, pushes a word, goes on after the label is refused one word higher,
moves the local actor, and opens a conditional. -/
def detourSteps : List Step :=
  [.act (.goto "x"), .push 1, .attempt [.act (.label "x")], .act (.setActive "player")]

/-- Inside the arm for false of that conditional the draft is accounted for: the refused label is
forgotten, one of the two numbers that are taken is awaited, and the mark is there. -/
theorem detour_accounted :
    ∃ inside, (({} : Setting).workshop {}).MadeOfCalls ∧
      (({} : Setting).workshop {}).Reaches {} inside ∧
      inside.ledger = { depth := 1, nextLabel := 3, pending := [("1", 1)] } ∧
      inside.Accounted := by
  have made := ({} : Setting).workshop_madeOfCalls {}
  obtain ⟨inside, entered, ledger⟩ : ∃ inside, (∀ fault,
      (Condition.operand "VAR_VARIABLE_0" .equal 3).write {}
        (Arm.empty.run (({} : Setting).workshop {})) (throw fault)
        (((Step.attempt detourSteps).run (({} : Setting).workshop {})).leaves {}) =
          .error fault inside) ∧
      inside.ledger = { depth := 1, nextLabel := 3, pending := [("1", 1)] } :=
    ⟨_, fun fault => by cbv, by rfl⟩
  have reached : (({} : Setting).workshop {}).Reaches {} inside :=
    .onFalse (.operand "VAR_VARIABLE_0" .equal 3) .empty (.call (.attempt detourSteps) .start)
      entered
  exact ⟨inside, made, reached, ledger, (accounted_of_reaches _ made inside reached).1⟩

end EventScript
