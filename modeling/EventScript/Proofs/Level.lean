import EventScript.Proofs.Outline
import EventScript.Proofs.Writing

/-!
# Events keep the ledger level

Lowering an event leaves no word on the stack, so all labels and jumps of a script of events commit
to depth zero, and the ledger refuses none of them for its depth. What such a ledger holds is told
by names alone: the labels that the events so far have defined, the labels that they have jumped to,
and the generated labels of the conditionals that are still open. The laws below say how each
operation changes these three lists, and when it is refused.
-/
namespace EventScript

open Assembly (Comparison Line)

namespace Ledger

/-- The labels of the script that are jumped to and not yet defined. -/
def awaited (ledger : Ledger) : List String := ledger.unresolved.filter (!isReserved ·)

/-- A ledger at depth zero on which events have defined some labels and jumped to some, inside
conditionals whose generated labels are open. Which jumps still wait for their labels is told by
search: whatever set holds all defined labels, the first name outside of it is the same among the
awaited labels as among all jumps. -/
structure Tells (ledger : Ledger) (opened labels jumps : List String) : Prop where
  level : ledger.depth = 0
  committed : ∀ name depth, ledger.commitment name = some depth → depth = 0 ∧ ledger.Knows name
  stands : ∀ name, isReserved name = false →
    ((ledger.defined.lookup name).isSome = true ↔ name ∈ labels)
  generated : ∀ name ∈ opened, ∃ number < ledger.nextLabel, name = toString number
  unset : ∀ name ∈ opened, ledger.defined.lookup name = none
  kept : ∀ name ∈ ledger.unresolved, isReserved name = true → name ∈ opened
  apart : ∀ name ∈ ledger.unresolved, ledger.defined.lookup name = none
  awaits : ∀ standing : String → Bool, (∀ name ∈ labels, standing name = true) →
    ledger.awaited.find? (!standing ·) = jumps.find? (!standing ·)

/-- The ledger of an empty draft has nothing to tell. -/
theorem tells_empty : Tells {} [] [] [] where
  level := rfl
  committed := by simp [commitment]
  stands := by simp
  generated := by simp
  unset := by simp
  kept := by simp [unresolved]
  apart := by simp [unresolved]
  awaits := by simp [awaited, unresolved]

namespace Tells

variable {ledger : Ledger} {opened labels jumps : List String} {name : String}

/-- A label of the script that no event has defined does not stand. -/
theorem lookup_eq_none (told : ledger.Tells opened labels jumps) (allowed : isReserved name = false)
    (fresh : name ∉ labels) : ledger.defined.lookup name = none := by
  rw [← Option.not_isSome_iff_eq_none, told.stands name allowed]
  exact fresh

/-- A new number opens its label, which was not open before. -/
theorem take (told : ledger.Tells opened labels jumps) :
    toString ledger.nextLabel ∉ opened ∧
      ledger.take.Tells (toString ledger.nextLabel :: opened) labels jumps := by
  have unknown : ¬ledger.Knows (toString ledger.nextLabel) := by
    intro known
    obtain ⟨number, less, same⟩ := known (isReserved_toString _)
    have equal : ledger.nextLabel = number := toString_injective same
    omega
  have free : ledger.commitment (toString ledger.nextLabel) = none := by
    cases found : ledger.commitment (toString ledger.nextLabel) with
    | none => rfl
    | some depth => exact absurd (told.committed _ depth found).2 unknown
  constructor
  · intro member
    exact unknown fun _ => told.generated _ member
  · constructor
    case level => exact told.level
    case committed =>
      intro name depth found
      obtain ⟨zero, known⟩ := told.committed name depth found
      refine ⟨zero, fun reserved => ?_⟩
      obtain ⟨number, less, same⟩ := known reserved
      exact ⟨number, Nat.lt_succ_of_lt less, same⟩
    case stands => exact told.stands
    case generated =>
      intro name member
      rcases List.mem_cons.mp member with rfl | old
      · exact ⟨ledger.nextLabel, Nat.lt_succ_self _, rfl⟩
      · obtain ⟨number, less, same⟩ := told.generated name old
        exact ⟨number, Nat.lt_succ_of_lt less, same⟩
    case unset =>
      intro name member
      rcases List.mem_cons.mp member with rfl | old
      · rw [commitment_eq, Option.or_eq_none_iff] at free
        exact free.1
      · exact told.unset name old
    case kept =>
      exact fun name waits reserved => List.mem_cons_of_mem _ (told.kept name waits reserved)
    case apart => exact told.apart
    case awaits => exact told.awaits

/-- Of open labels only the names count, not their order. -/
theorem reorder {others : List String} (told : ledger.Tells opened labels jumps)
    (same : ∀ name, name ∈ others ↔ name ∈ opened) : ledger.Tells others labels jumps :=
  { told with
    generated := fun name member => told.generated name ((same name).mp member)
    unset := fun name member => told.unset name ((same name).mp member)
    kept := fun name waits reserved => (same name).mpr (told.kept name waits reserved) }

/-- A first jump is added to what the ledger tells, where its label is open or the script's own. -/
theorem await (told : ledger.Tells opened labels jumps) (free : ledger.commitment name = none)
    (mine : isReserved name = true → name ∈ opened) :
    (ledger.await name).Tells opened labels
      (jumps ++ if isReserved name = true then [] else [name]) where
  level := told.level
  committed := by
    intro other depth found
    rw [commitment_await free] at found
    by_cases same : other = name
    · subst same
      rw [if_pos rfl] at found
      refine ⟨?_, fun reserved => told.generated other (mine reserved)⟩
      rw [← Option.some.inj found, told.level]
    · rw [if_neg same] at found
      exact told.committed other depth found
  stands := told.stands
  generated := told.generated
  unset := told.unset
  kept := by
    intro other waits reserved
    rw [unresolved_await, List.mem_append, List.mem_singleton] at waits
    rcases waits with old | rfl
    · exact told.kept other old reserved
    · exact mine reserved
  apart := by
    intro other waits
    rw [unresolved_await, List.mem_append, List.mem_singleton] at waits
    rcases waits with old | rfl
    · exact told.apart other old
    · rw [commitment_eq, Option.or_eq_none_iff] at free
      exact free.1
  awaits := by
    intro standing settled
    rw [awaited, unresolved_await, List.filter_append, List.find?_append, List.find?_append]
    congr 1
    · exact told.awaits standing settled
    · cases reserved : isReserved name <;> simp [reserved]

/-- A jump to an open label is accepted and changes nothing that is told. -/
theorem jumpOpened (told : ledger.Tells opened labels jumps) (member : name ∈ opened) :
    ∃ after, jump name ledger = .ok () after ∧ after.Tells opened labels jumps := by
  have reserved : isReserved name = true := by
    obtain ⟨number, _, rfl⟩ := told.generated name member
    exact isReserved_toString number
  obtain ⟨expected, committed, elsewhere, _⟩ | ⟨_, kept⟩ | ⟨free, awaited⟩ := jump_cases ledger name
  · rw [told.level] at elsewhere
    exact absurd (told.committed name expected committed).1 elsewhere
  · exact ⟨ledger, kept, told⟩
  · refine ⟨ledger.await name, awaited, ?_⟩
    simpa [reserved] using told.await free fun _ => member

/-- A jump to a label of the script is accepted and told. -/
theorem jumpNamed (told : ledger.Tells opened labels jumps) (allowed : isReserved name = false) :
    ∃ after, jump name ledger = .ok () after ∧ after.Tells opened labels (jumps ++ [name]) := by
  obtain ⟨expected, committed, elsewhere, _⟩ | ⟨committed, kept⟩ | ⟨free, awaited⟩ :=
    jump_cases ledger name
  · rw [told.level] at elsewhere
    exact absurd (told.committed name expected committed).1 elsewhere
  · refine ⟨ledger, kept, { told with awaits := ?_ }⟩
    intro standing settled
    rw [List.find?_append, ← told.awaits standing settled]
    by_cases defined : name ∈ labels
    · simp [settled name defined]
    · -- The label was jumped to before, so the search does not get as far as this jump.
      have waits : name ∈ ledger.awaited := by
        have absent := told.lookup_eq_none allowed defined
        rw [commitment_eq, absent, Option.none_or] at committed
        have pending : name ∈ ledger.unresolved :=
          (lookup_isSome_iff _ _).mp (by simp [committed])
        exact List.mem_filter.mpr ⟨pending, by simp [allowed]⟩
      cases found : standing name with
      | true => simp [found]
      | false =>
        have some : (ledger.awaited.find? (!standing ·)).isSome = true :=
          List.find?_isSome.mpr ⟨name, waits, by simp [found]⟩
        obtain ⟨first, earlier⟩ := Option.isSome_iff_exists.mp some
        rw [earlier, Option.some_or]
  · refine ⟨ledger.await name, awaited, ?_⟩
    simpa [allowed] using told.await free (by simp [allowed])

/-- The names that wait on a ledger with one more definition. -/
theorem awaited_enter (ledger : Ledger) (name : String) :
    (ledger.enter name).awaited = ledger.awaited.filter (· != name) := by
  rw [awaited, unresolved_enter, awaited, List.filter_filter, List.filter_filter]
  congr 1
  funext other
  exact Bool.and_comm _ _

/-- A definition of a label that does not stand is accepted. -/
theorem define_eq (told : ledger.Tells opened labels jumps)
    (absent : ledger.defined.lookup name = none) :
    define name ledger = .ok () (ledger.enter name) := by
  obtain ⟨_, stands, _⟩ | ⟨_, expected, pending, elsewhere, _⟩ | ⟨_, _, entered⟩ :=
    define_cases ledger name
  · rw [absent] at stands
    cases stands
  · have committed : ledger.commitment name = some expected := by
      rw [commitment_eq, absent, Option.none_or, pending]
    rw [told.level] at elsewhere
    exact absurd (told.committed name expected committed).1 elsewhere
  · exact entered

/-- What a definition commits is at depth zero and known. -/
theorem committed_enter (told : ledger.Tells opened labels jumps)
    (absent : ledger.defined.lookup name = none) (known : ledger.Knows name) (other : String)
    (depth : Nat) (found : (ledger.enter name).commitment other = some depth) :
    depth = 0 ∧ (ledger.enter name).Knows other := by
  rw [commitment_enter absent] at found
  by_cases same : other = name
  · rw [if_pos same, told.level] at found
    exact ⟨(Option.some.inj found).symm, same ▸ known⟩
  · rw [if_neg same] at found
    exact told.committed other depth found

/-- Looking for a label after one more definition. -/
theorem lookup_enter (ledger : Ledger) (name other : String) :
    (ledger.enter name).defined.lookup other =
      (ledger.defined.lookup other).or (if other = name then some ledger.depth else none) :=
  lookup_concat _ _ _ _

/-- What waits on a ledger with one more definition does not stand. -/
theorem apart_enter (told : ledger.Tells opened labels jumps) (other : String)
    (waits : other ∈ (ledger.enter name).unresolved) :
    (ledger.enter name).defined.lookup other = none := by
  rw [unresolved_enter, List.mem_filter, bne_iff_ne] at waits
  rw [lookup_enter, if_neg waits.2, Option.or_none]
  exact told.apart other waits.1

/-- An open label is closed by its definition. -/
theorem defineOpened (told : ledger.Tells (name :: opened) labels jumps) (once : name ∉ opened) :
    define name ledger = .ok () (ledger.enter name) ∧
      (ledger.enter name).Tells opened labels jumps := by
  have absent : ledger.defined.lookup name = none := told.unset name List.mem_cons_self
  have reserved : isReserved name = true := by
    obtain ⟨number, _, rfl⟩ := told.generated name List.mem_cons_self
    exact isReserved_toString number
  have other : ∀ wanted, wanted ≠ name →
      (ledger.enter name).defined.lookup wanted = ledger.defined.lookup wanted := by
    intro wanted distinct
    rw [lookup_enter, if_neg distinct, Option.or_none]
  refine ⟨told.define_eq absent, ?_⟩
  constructor
  case level => exact told.level
  case committed =>
    exact told.committed_enter absent fun _ => told.generated name List.mem_cons_self
  case stands =>
    intro wanted allowed
    rw [other wanted (by rintro rfl; simp [reserved] at allowed)]
    exact told.stands wanted allowed
  case generated => exact fun wanted member => told.generated wanted (List.mem_cons_of_mem _ member)
  case unset =>
    intro wanted member
    rw [other wanted (by rintro rfl; exact once member)]
    exact told.unset wanted (List.mem_cons_of_mem _ member)
  case kept =>
    intro wanted waits isReserved
    rw [unresolved_enter, List.mem_filter, bne_iff_ne] at waits
    exact (List.mem_cons.mp (told.kept wanted waits.1 isReserved)).resolve_left waits.2
  case apart => exact told.apart_enter
  case awaits =>
    intro standing settled
    have same : (ledger.enter name).awaited = ledger.awaited := by
      rw [awaited_enter, List.filter_eq_self]
      intro wanted member
      have allowed := (List.mem_filter.mp member).2
      rw [bne_iff_ne]
      rintro rfl
      simp [reserved] at allowed
    rw [same, told.awaits standing settled]

/-- A label of the script is defined where no event has defined it, which is told. -/
theorem defineNamed (told : ledger.Tells opened labels jumps) (allowed : isReserved name = false)
    (fresh : name ∉ labels) :
    define name ledger = .ok () (ledger.enter name) ∧
      (ledger.enter name).Tells opened (labels ++ [name]) jumps := by
  have absent := told.lookup_eq_none allowed fresh
  refine ⟨told.define_eq absent, ?_⟩
  constructor
  case level => exact told.level
  case committed => exact told.committed_enter absent (by simp [Knows, allowed])
  case stands =>
    intro wanted allowed
    rw [lookup_enter, Option.isSome_or, Bool.or_eq_true, told.stands wanted allowed,
      List.mem_append, List.mem_singleton]
    by_cases same : wanted = name <;> simp [same]
  case generated => exact told.generated
  case unset =>
    intro wanted member
    have distinct : wanted ≠ name := by
      rintro rfl
      obtain ⟨number, _, rfl⟩ := told.generated wanted member
      rw [isReserved_toString] at allowed
      cases allowed
    rw [lookup_enter, if_neg distinct, Option.or_none]
    exact told.unset wanted member
  case kept =>
    intro wanted waits isReserved
    rw [unresolved_enter, List.mem_filter] at waits
    exact told.kept wanted waits.1 isReserved
  case apart => exact told.apart_enter
  case awaits =>
    intro standing settled
    have stands : standing name = true := settled name (by simp)
    rw [awaited_enter, List.find?_filter,
      ← told.awaits standing fun wanted member => settled wanted (by simp [member])]
    congr 1
    funext wanted
    by_cases same : wanted = name <;> simp [same, stands]

/-- A label of the script is not defined again. -/
theorem defineAgain (told : ledger.Tells opened labels jumps) (allowed : isReserved name = false)
    (again : name ∈ labels) : define name ledger = .error (.duplicateLabel name) ledger := by
  obtain ⟨_, _, duplicate⟩ | ⟨absent, _⟩ | ⟨absent, _⟩ := define_cases ledger name
  · exact duplicate
  all_goals
    have stands := (told.stands name allowed).mpr again
    simp [absent] at stands

/-- When no conditional is open, the label that waits longest is the first jump that goes to no
label. -/
theorem head?_unresolved (told : ledger.Tells [] labels jumps) :
    ledger.unresolved.head? = jumps.find? (· ∉ labels) := by
  have mine : ∀ name ∈ ledger.unresolved, isReserved name = false := by
    intro name waits
    cases reserved : isReserved name with
    | true => cases told.kept name waits reserved
    | false => rfl
  have outside : ∀ name ∈ ledger.awaited, name ∉ labels := by
    intro name waits member
    have unresolved := (List.mem_filter.mp waits).1
    have stands := (told.stands name (mine name unresolved)).mpr member
    simp [told.apart name unresolved] at stands
  have all : ledger.awaited = ledger.unresolved := by
    rw [awaited, List.filter_eq_self]
    intro name waits
    simp [mine name waits]
  have searched := told.awaits (fun name => decide (name ∈ labels)) (by simp)
  rw [all] at searched outside
  simp only [← decide_not] at searched
  rw [← searched]
  cases waiting : ledger.unresolved with
  | nil => rfl
  | cons first rest =>
    have free : first ∉ labels := outside first (by simp [waiting])
    simp [free]

end Tells

end Ledger

end EventScript
