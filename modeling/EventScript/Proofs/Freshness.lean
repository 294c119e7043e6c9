import EventScript.Proofs.Reaching

/-!
# Generated labels are the conditional's own

No name above the numbers that have been taken is committed to anything, so the two labels that a
conditional takes are free. What runs in its arms is about labels of scripts and about numbers that
are taken later, so the two labels are left alone there. Hence none of the jumps and definitions of
a conditional is ever refused: it fails where an arm fails, or where an arm does not keep the depth,
and for no other reason.
-/
namespace EventScript

open Assembly (Comparison Line)

namespace Ledger

variable {base : Nat} {ledger : Ledger}

/-- A number that has not been taken is committed to nothing. -/
theorem Generates.free (generates : ledger.Generates base) {number : Nat}
    (untaken : ledger.nextLabel ≤ number) : ledger.commitment (toString number) = none := by
  cases found : ledger.commitment (toString number) with
  | none => rfl
  | some depth =>
    obtain ⟨other, _, taken, same⟩ := generates _ depth found (isReserved_toString number)
    have equal : number = other := toString_injective same
    omega

/-- A label is awaited at a depth, and does not stand yet. -/
structure Awaits (ledger : Ledger) (name : String) (depth : Nat) : Prop where
  absent : ledger.defined.lookup name = none
  awaited : ledger.pending.lookup name = some depth

/-- Where two ledgers agree about a label they await it alike. -/
theorem Agrees.awaits {name : String} {other : Ledger} {depth : Nat}
    (agrees : ledger.Agrees name other) (awaits : ledger.Awaits name depth) :
    other.Awaits name depth :=
  ⟨agrees.defined.trans awaits.absent, agrees.pending.trans awaits.awaited⟩

/-- A first jump to a label that nothing is known of awaits it. -/
theorem awaits_await {name : String} (free : ledger.commitment name = none) :
    (ledger.await name).Awaits name ledger.depth := by
  rw [commitment_eq, Option.or_eq_none_iff] at free
  exact ⟨free.1, by simp [await, lookup_concat, free.2]⟩

/-- A jump to a label that nothing is known of is accepted. -/
theorem jump_of_free {name : String} (free : ledger.commitment name = none) :
    jump name ledger = .ok () (ledger.await name) := by
  obtain ⟨_, committed, _, _⟩ | ⟨committed, _⟩ | ⟨_, awaited⟩ := jump_cases ledger name
  · rw [free] at committed
    cases committed
  · rw [free] at committed
    cases committed
  · exact awaited

/-- A label that is awaited at the present depth is defined. -/
theorem define_of_awaits {name : String} (awaits : ledger.Awaits name ledger.depth) :
    define name ledger = .ok () (ledger.enter name) := by
  obtain ⟨_, stands, _⟩ | ⟨_, expected, pending, elsewhere, _⟩ | ⟨_, _, entered⟩ :=
    define_cases ledger name
  · rw [awaits.absent] at stands
    cases stands
  · rw [awaits.awaited] at pending
    exact absurd (Option.some.inj pending).symm elsewhere
  · exact entered

/-- The two numbers of a conditional behind its test, until its arm for false has run: its first
label is awaited at a depth, and nothing is known of its end. -/
structure Opens (ledger : Ledger) (chosen join depth : Nat) : Prop where
  distinct : toString join ≠ toString chosen
  awaits : ledger.Awaits (toString chosen) depth
  free : ledger.commitment (toString join) = none
  chosenTaken : chosen < ledger.nextLabel
  joinTaken : join < ledger.nextLabel

section Opening

variable {chosen join : Nat}

/-- The jump to the end of a conditional is accepted. -/
theorem Opens.jump_join {depth : Nat} (opens : ledger.Opens chosen join depth) :
    jump (toString join) ledger = .ok () (ledger.await (toString join)) :=
  jump_of_free opens.free

/-- The first label of a conditional is put behind the jump to its end. -/
theorem Opens.define_chosen (opens : ledger.Opens chosen join ledger.depth) :
    define (toString chosen) (ledger.await (toString join)) =
      .ok () ((ledger.await (toString join)).enter (toString chosen)) :=
  define_of_awaits ((agrees_await opens.distinct.symm).awaits opens.awaits)

/-- Behind the first label of a conditional its end is awaited. -/
theorem Opens.awaits_join {depth : Nat} (opens : ledger.Opens chosen join depth) :
    ((ledger.await (toString join)).enter (toString chosen)).Awaits (toString join)
      ledger.depth :=
  (agrees_enter opens.distinct).awaits (awaits_await opens.free)

end Opening

end Ledger

/-- A deed about another label changes nothing about a label. -/
theorem Deed.Moves.agrees {deed : Deed} {before after : Draft} {name : String}
    (moved : deed.Moves before after) (foreign : deed.label? ≠ some name) :
    before.ledger.Agrees name after.ledger := by
  cases moved with
  | refuse _ other expected absent awaited elsewhere =>
    exact Ledger.agrees_withdraw fun same => foreign (same ▸ rfl)
  | label _ other known absent agreed =>
    exact Ledger.agrees_enter fun same => foreign (same ▸ rfl)
  | jumpAhead _ line other target known free =>
    have about : Deed.label? (.write line) = some other := by
      rw [Deed.label?, label?_eq_none_of_target? target, target, Option.none_or]
    exact Ledger.agrees_await fun same => foreign (same ▸ about)
  | _ => exact ⟨rfl, rfl⟩

/-- An own course changes nothing about generated labels below its base. -/
theorem OwnCourse.agrees {base number : Nat} {before after : Draft}
    (course : OwnCourse base before after) (below : number < base) :
    before.ledger.Agrees (toString number) after.ledger := by
  obtain ⟨deeds, course, own⟩ := course
  refine course.preserves (before.ledger.Agrees (toString number) ·.ledger) ?_ ⟨rfl, rfl⟩
  intro deed member draft next agrees moved
  have foreign : deed.label? ≠ some (toString number) :=
    fun about => own deed member _ about number below rfl
  exact agrees.trans (moved.agrees foreign)

namespace Draft

/-- The draft behind the test of a conditional that has taken its two numbers. -/
def test (draft : Draft) (comparison : Comparison) (operand : String) (value : Int) : Draft :=
  (draft.withLedger (draft.ledger.take.take.await (toString draft.ledger.nextLabel))).write
    (.branch comparison operand value (toString draft.ledger.nextLabel))

/-- The draft behind a label that is put there. -/
def meet (draft : Draft) (name : String) : Draft :=
  (draft.withLedger (draft.ledger.enter name)).write (.label name)

/-- The draft between the arms of a conditional, behind the jump to its end and its first label. -/
def turn (draft : Draft) (chosen join : String) : Draft :=
  ((draft.withLedger (draft.ledger.await join)).write (.jump join)).meet chosen

end Draft

namespace Writing

open Draft

/-- A jump that the ledger accepts is written. -/
theorem run_jump_accepted {draft : Draft} {name : String} {after : Ledger} (line : Line)
    (accepted : Ledger.jump name draft.ledger = .ok () after) :
    (do onLedger (Ledger.jump name); Writing.line line : Writing Unit) draft =
      .ok () ((draft.withLedger after).write line) := by
  simp [accepted]

/-- A label that the ledger accepts is put. -/
theorem run_label_accepted {draft : Draft} {name : String}
    (accepted : Ledger.define name draft.ledger = .ok () (draft.ledger.enter name)) :
    label name draft = .ok () (draft.meet name) := by
  simp [label, accepted, meet]

/-- What a charted writing leaves agrees with its draft about the numbers taken before it. -/
theorem Charted.agrees {α : Type} {writing : Writing α} {draft after : Draft} {value : α}
    (charted : Charted False writing) (ran : writing draft = .ok value after) {number : Nat}
    (taken : number < draft.ledger.nextLabel) :
    draft.ledger.Agrees (toString number) after.ledger := by
  exact leaves_of_ok ran ▸ (OwnCourse.of_followsFrom (charted draft)).agrees taken

/-- A charted writing gives no number back. -/
theorem Charted.nextLabel_le {α : Type} {writing : Writing α} {draft after : Draft} {value : α}
    (charted : Charted False writing) (ran : writing draft = .ok value after) :
    draft.ledger.nextLabel ≤ after.ledger.nextLabel := by
  exact leaves_of_ok ran ▸ (OwnCourse.of_followsFrom (charted draft)).nextLabel_le

/-- What is charted runs beside a conditional that is open, and leaves it open. -/
theorem Charted.opens {α : Type} {writing : Writing α} {draft after : Draft} {value : α}
    {chosen join depth : Nat} (charted : Charted False writing)
    (ran : writing draft = .ok value after) (opens : draft.ledger.Opens chosen join depth) :
    after.ledger.Opens chosen join depth where
  distinct := opens.distinct
  awaits := (charted.agrees ran opens.chosenTaken).awaits opens.awaits
  free := (charted.agrees ran opens.joinTaken).commitment.trans opens.free
  chosenTaken := opens.chosenTaken.trans_le (charted.nextLabel_le ran)
  joinTaken := opens.joinTaken.trans_le (charted.nextLabel_le ran)

variable {onTrue onFalse : Writing Unit}

/-- What a conditional does once its own jumps and definitions are known to be accepted. -/
def bracket (before : Nat) (chosen join : String) (onTrue onFalse : Writing Unit) :
    Writing Unit := do
  onFalse
  expectDepth (Ledger.symbol chosen) before
  modify (turn · chosen join)
  onTrue
  expectDepth (Ledger.symbol join) before
  modify (meet · join)

/-- A demand for a depth decides whether what comes after it runs. -/
theorem run_expectDepth_bind {α : Type} (site : String) (expected : Nat) (next : Unit → Writing α)
    (draft : Draft) :
    (expectDepth site expected >>= next) draft =
      if draft.ledger.depth = expected then next () draft
      else .error (.stackImbalance site expected draft.ledger.depth) draft := by
  by_cases met : draft.ledger.depth = expected <;> simp [met]

/-- The end of a conditional is put behind the arm for true where that arm keeps the depth. -/
theorem run_closing {join : Nat} {before : Nat} (site : String) (whenTrue : Charted False onTrue)
    {draft : Draft} (awaits : draft.ledger.Awaits (toString join) before)
    (taken : join < draft.ledger.nextLabel) :
    (do onTrue; expectDepth site before; label (toString join)) draft =
      (do onTrue; expectDepth site before; modify (meet · (toString join))) draft := by
  cases ran : onTrue draft with
  | error fault raised => simp [ran]
  | ok value raised =>
    rw [run_bind_of_ok ran, run_bind_of_ok ran]
    simp only [run_expectDepth_bind]
    by_cases level : raised.ledger.depth = before
    · have here : raised.ledger.Awaits (toString join) raised.ledger.depth :=
        level ▸ (whenTrue.agrees ran taken).awaits awaits
      rw [if_pos level, if_pos level, run_label_accepted (Ledger.define_of_awaits here)]
      rfl
    · rw [if_neg level, if_neg level]

/-- Between its arms a conditional jumps to its end and puts its first label, where the arm for
false keeps the depth. -/
theorem run_turning {chosen join : Nat} {before : Nat} (whenTrue : Charted False onTrue)
    (whenFalse : Charted False onFalse) {draft : Draft}
    (opens : draft.ledger.Opens chosen join before) :
    (do
      onFalse
      expectDepth (Ledger.symbol (toString chosen)) before
      jump (toString join)
      label (toString chosen)
      onTrue
      expectDepth (Ledger.symbol (toString join)) before
      label (toString join)) draft =
        bracket before (toString chosen) (toString join) onTrue onFalse draft := by
  rw [bracket]
  cases ran : onFalse draft with
  | error fault lowered => simp [ran]
  | ok value lowered =>
    rw [run_bind_of_ok ran, run_bind_of_ok ran]
    simp only [run_expectDepth_bind]
    by_cases level : lowered.ledger.depth = before
    · have still : lowered.ledger.Opens chosen join lowered.ledger.depth :=
        level ▸ whenFalse.opens ran opens
      have jumped : jump (toString join) lowered =
          .ok () ((lowered.withLedger (lowered.ledger.await (toString join))).write
            (.jump (toString join))) := run_jump_accepted _ still.jump_join
      rw [if_pos level, if_pos level, run_bind_of_ok jumped,
        run_bind_of_ok (run_label_accepted still.define_chosen),
        run_bind_of_ok (run_modify _ lowered)]
      exact run_closing _ whenTrue (level ▸ still.awaits_join) still.joinTaken
    · rw [if_neg level, if_neg level]

/-- The test of a conditional opens it: the two numbers that come next are committed to nothing. -/
theorem opens_test {draft : Draft} (comparison : Comparison) (operand : String) (value : Int)
    (generates : draft.ledger.Generates 0) :
    (draft.test comparison operand value).ledger.Opens draft.ledger.nextLabel
      (draft.ledger.nextLabel + 1) draft.ledger.depth where
  distinct := toString_ne_of_lt (Nat.le_refl _) _ (Nat.lt_succ_self _)
  awaits := by
    have free : draft.ledger.take.take.commitment (toString draft.ledger.nextLabel) = none :=
      generates.free (Nat.le_refl _)
    exact Ledger.awaits_await free
  free := by
    have distinct : toString (draft.ledger.nextLabel + 1) ≠ toString draft.ledger.nextLabel :=
      toString_ne_of_lt (Nat.le_refl _) _ (Nat.lt_succ_self _)
    exact (Ledger.agrees_await distinct).commitment.trans (generates.free (Nat.le_succ _))
  chosenTaken := Nat.lt_succ_of_le (Nat.le_succ _)
  joinTaken := Nat.lt_succ_of_le (Nat.le_refl _)

/-- The jump of the test of a conditional is accepted. -/
theorem jump_test {draft : Draft} (comparison : Comparison) (operand : String) (value : Int)
    (generates : draft.ledger.Generates 0) :
    Ledger.jump (toString draft.ledger.nextLabel) draft.ledger.take.take =
      .ok () (draft.test comparison operand value).ledger :=
  Ledger.jump_of_free (generates.free (Nat.le_refl _))

/-- None of the jumps and definitions of a conditional is refused, whatever its arms do. -/
theorem conditional_eq_bracket (comparison : Comparison) (operand : String) (value : Int)
    (whenTrue : Charted False onTrue) (whenFalse : Charted False onFalse) (draft : Draft)
    (generates : draft.ledger.Generates 0) :
    conditional comparison operand value onTrue onFalse draft =
      bracket draft.ledger.depth (toString draft.ledger.nextLabel)
        (toString (draft.ledger.nextLabel + 1)) onTrue onFalse
        (draft.test comparison operand value) := by
  have tested : branch comparison operand value (toString draft.ledger.nextLabel)
      (draft.withLedger draft.ledger.take.take) = .ok () (draft.test comparison operand value) :=
    run_jump_accepted _ (jump_test comparison operand value generates)
  rw [run_conditional, arms, run_bind_of_ok tested]
  exact run_turning whenTrue whenFalse (opens_test comparison operand value generates)

end Writing

end EventScript
