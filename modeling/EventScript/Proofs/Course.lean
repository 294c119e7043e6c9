import EventScript.Proofs.Outline
import EventScript.Proofs.Writing

/-!
# Courses of drafts

Whatever is written, a draft moves by deeds of five kinds: words are pushed or popped, a number is
taken for a generated label, a definition is refused, or a line is written together with what it
enters into the ledger. A course is a finite sequence of deeds. Every writing, whether it succeeds
or fails, takes its draft along a course, so what one deed preserves every writing preserves.

Three facts about courses are kept with it. A writing names only labels of scripts and labels that
it has generated itself, so the generated labels of a construct are safe from whatever runs inside
it. The numbers of generated labels only rise. And a calm writing, one that goes on after no fault,
refuses no definition unless it fails.
-/
namespace EventScript

open Assembly (Comparison Line Operand)

/-- The label that a line may go on at. -/
def Assembly.Line.target? : Line → Option String
  | .branch _ _ _ target => some target
  | .jump target => some target
  | _ => none

/-- The label that a line puts into the script. -/
def Assembly.Line.label? : Line → Option String
  | .label name => some name
  | _ => none

/-- Whether an operand is a field of the local actor. -/
def Assembly.Operand.isActor : Operand → Bool
  | .actor _ _ => true
  | _ => false

/-- Whether a line addresses the local actor. -/
def Assembly.Line.addressesActor : Line → Bool
  | .instruction _ operands => operands.any Operand.isActor
  | _ => false

/-- What can happen to a draft. -/
inductive Deed where
  | push (words : Nat)
  | pop (words : Nat)
  /-- A number is taken for a generated label. -/
  | number
  /-- A label is not put where it would stand at another depth than a jump to it. -/
  | refuse (name : String)
  | write (line : Line)
deriving DecidableEq, Repr

namespace Deed

/-- The label that a deed is about. -/
def label? : Deed → Option String
  | refuse name => some name
  | write line => line.label?.or line.target?
  | _ => none

/-- How a deed moves a draft. A label is put once and where all jumps to it agree with it, and a
jump is written where its label commits to the present depth or to none. -/
inductive Moves : Deed → Draft → Draft → Prop where
  | push (draft : Draft) (words : Nat) :
    Moves (.push words) draft
      (draft.withLedger { draft.ledger with depth := (draft.ledger.depth + words) % Ledger.depths })
  | pop (draft : Draft) (words : Nat) (held : words ≤ draft.ledger.depth) :
    Moves (.pop words) draft
      (draft.withLedger { draft.ledger with depth := draft.ledger.depth - words })
  | number (draft : Draft) :
    Moves .number draft (draft.withLedger draft.ledger.take)
  | refuse (draft : Draft) (name : String) (expected : Nat)
    (absent : draft.ledger.defined.lookup name = none)
    (awaited : draft.ledger.pending.lookup name = some expected)
    (elsewhere : expected ≠ draft.ledger.depth) :
    Moves (.refuse name) draft (draft.withLedger (draft.ledger.withdraw name))
  | label (draft : Draft) (name : String) (known : draft.ledger.Knows name)
    (absent : draft.ledger.defined.lookup name = none)
    (agreed : ∀ expected, draft.ledger.pending.lookup name = some expected →
      expected = draft.ledger.depth) :
    Moves (.write (.label name)) draft
      ((draft.withLedger (draft.ledger.enter name)).write (.label name))
  | jump (draft : Draft) (line : Line) (name : String) (target : line.target? = some name)
    (committed : draft.ledger.commitment name = some draft.ledger.depth) :
    Moves (.write line) draft (draft.write line)
  | jumpAhead (draft : Draft) (line : Line) (name : String) (target : line.target? = some name)
    (known : draft.ledger.Knows name) (free : draft.ledger.commitment name = none) :
    Moves (.write line) draft ((draft.withLedger (draft.ledger.await name)).write line)
  | plain (draft : Draft) (line : Line) (noTarget : line.target? = none)
    (noLabel : line.label? = none) (noActor : line.addressesActor = false) :
    Moves (.write line) draft (draft.write line)
  | address (draft : Draft) (line : Line) (noTarget : line.target? = none)
    (noLabel : line.label? = none) (actor : line.addressesActor = true) :
    Moves (.write line) draft { draft.write line with usesLocalActor := true }

/-- No deed gives a number back. -/
theorem Moves.nextLabel_le {deed : Deed} {before after : Draft} (moved : deed.Moves before after) :
    before.ledger.nextLabel ≤ after.ledger.nextLabel := by
  cases moved <;> simp [Ledger.withdraw, Ledger.enter, Ledger.await]

/-- A depth stays one that a word can hold. -/
theorem Moves.depth_lt {deed : Deed} {before after : Draft} (moved : deed.Moves before after)
    (held : before.ledger.depth < Ledger.depths) : after.ledger.depth < Ledger.depths := by
  cases moved with
  | push _ words => exact Nat.mod_lt _ (by decide)
  | pop _ words enough => exact (Nat.sub_le _ _).trans_lt held
  | _ => exact held

end Deed

/-- A sequence of deeds that takes one draft to another. -/
inductive Course : Draft → List Deed → Draft → Prop where
  | stay (draft : Draft) : Course draft [] draft
  | move {before next after : Draft} {deed : Deed} {deeds : List Deed}
    (moved : deed.Moves before next) (rest : Course next deeds after) :
    Course before (deed :: deeds) after

namespace Course

/-- A course of one deed. -/
theorem single {deed : Deed} {before after : Draft} (moved : deed.Moves before after) :
    Course before [deed] after := move moved (stay after)

/-- Courses that meet make one course. -/
theorem append {before middle after : Draft} {first second : List Deed}
    (start : Course before first middle) (rest : Course middle second after) :
    Course before (first ++ second) after := by
  induction start with
  | stay draft => exact rest
  | move moved _ inductionHypothesis => exact move moved (inductionHypothesis rest)

/-- What each deed of a course preserves, the course preserves. -/
theorem preserves (invariant : Draft → Prop) {before after : Draft} {deeds : List Deed}
    (course : Course before deeds after)
    (kept : ∀ deed ∈ deeds, ∀ draft next, invariant draft → deed.Moves draft next → invariant next)
    (start : invariant before) : invariant after := by
  induction course with
  | stay draft => exact start
  | @move draft next after deed deeds moved _ inductionHypothesis =>
    have later : ∀ other ∈ deeds, ∀ draft next,
        invariant draft → other.Moves draft next → invariant next :=
      fun other member => kept other (List.mem_cons_of_mem deed member)
    exact inductionHypothesis later (kept deed List.mem_cons_self draft next start moved)

/-- The numbers of generated labels only rise. -/
theorem nextLabel_le {before after : Draft} {deeds : List Deed}
    (course : Course before deeds after) :
    before.ledger.nextLabel ≤ after.ledger.nextLabel :=
  course.preserves (fun draft => before.ledger.nextLabel ≤ draft.ledger.nextLabel)
    (fun _ _ _ _ reached moved => reached.trans moved.nextLabel_le) (Nat.le_refl _)

end Course

namespace Writing

variable {α β : Type}

/-- A writing takes a draft along the given deeds. They are about labels of scripts and about
generated labels from the base on, and where the writing is calm and succeeds none of them is a
refusal. -/
structure Follows (calm : Prop) (base : Nat) (writing : Writing α) (draft : Draft)
    (deeds : List Deed) : Prop where
  course : Course draft deeds (writing.leaves draft)
  own : ∀ deed ∈ deeds, ∀ name, deed.label? = some name → ∀ number < base, name ≠ toString number
  mends : calm → ∀ value after, writing draft = .ok value after →
    ∀ name, Deed.refuse name ∉ deeds

/-- Some deeds lead from a draft to what a writing leaves of it. -/
def FollowsFrom (calm : Prop) (base : Nat) (writing : Writing α) (draft : Draft) : Prop :=
  ∃ deeds, Follows calm base writing draft deeds

/-- From every draft a writing takes a course on which all generated labels are its own. -/
def Charted (calm : Prop) (writing : Writing α) : Prop :=
  ∀ draft, FollowsFrom calm draft.ledger.nextLabel writing draft

/-- A writing that leaves the draft as it was needs no deed. -/
theorem FollowsFrom.still {calm : Prop} {base : Nat} {writing : Writing α} {draft : Draft}
    (unchanged : writing.leaves draft = draft) : FollowsFrom calm base writing draft := by
  refine ⟨[], ?_, by simp, by simp⟩
  rw [unchanged]
  exact Course.stay draft

/-- A writing of one deed. -/
theorem FollowsFrom.single {calm : Prop} {base : Nat} {writing : Writing α} {draft : Draft}
    (deed : Deed) (moved : deed.Moves draft (writing.leaves draft))
    (own : ∀ name, deed.label? = some name → ∀ number < base, name ≠ toString number)
    (mends : ∀ value after, writing draft = .ok value after → ∀ name, deed ≠ .refuse name) :
    FollowsFrom calm base writing draft := by
  refine ⟨[deed], Course.single moved, by simpa using own, ?_⟩
  intro _ value after ran name
  simpa using (mends value after ran name).symm

/-- Fewer own labels and less calm are easier to have. -/
theorem FollowsFrom.weaken {calm calmer : Prop} {base higher : Nat} {writing : Writing α}
    {draft : Draft} (follows : FollowsFrom calmer higher writing draft) (below : base ≤ higher)
    (implied : calm → calmer) : FollowsFrom calm base writing draft := by
  obtain ⟨deeds, course, own, mends⟩ := follows
  refine ⟨deeds, course, ?_, fun isCalm => mends (implied isCalm)⟩
  intro deed member name about number less
  exact own deed member name about number (less.trans_le below)

/-- One writing after another takes the one course after the other. The second one starts with at
least as many numbers taken. -/
theorem FollowsFrom.bind {calm : Prop} {base : Nat} {first : Writing α} {second : α → Writing β}
    {draft : Draft} (start : FollowsFrom calm base first draft)
    (next : ∀ value middle, first draft = .ok value middle →
      draft.ledger.nextLabel ≤ middle.ledger.nextLabel →
      FollowsFrom calm base (second value) middle) :
    FollowsFrom calm base (first >>= second) draft := by
  obtain ⟨deeds, course, own, mends⟩ := start
  cases ran : first draft with
  | error fault middle =>
    rw [leaves_of_error ran] at course
    exact ⟨deeds, leaves_bind_of_error ran second ▸ course, own, by simp [ran]⟩
  | ok value middle =>
    rw [leaves_of_ok ran] at course
    obtain ⟨later, rest, laterOwn, laterMends⟩ := next value middle ran course.nextLabel_le
    refine ⟨deeds ++ later, ?_, ?_, ?_⟩
    · rw [leaves_bind_of_ok ran]
      exact course.append rest
    · intro deed member
      rcases List.mem_append.mp member with early | late
      · exact own deed early
      · exact laterOwn deed late
    · intro isCalm result after succeeded name
      simp only [run_bind, ran] at succeeded
      rw [List.mem_append, not_or]
      exact ⟨mends isCalm value middle ran name, laterMends isCalm result after succeeded name⟩

end Writing

end EventScript
