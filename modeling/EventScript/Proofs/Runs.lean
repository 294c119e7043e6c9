/-!
# Runs and their traces

A process moves from state to state, one step at a time, and shows a trace that only grows. It may
end, and it may as well go on for ever, so a process is known by two things: which traces it comes
to show, and which trace it ends with. A trace is a list of entries, each a text. One process
follows another when it answers each step of the other by at least one step of its own. Two
processes of which one follows the other show the same and end alike.
-/
namespace EventScript

/-- Something that runs step by step. No step is made after the end, but a process may also be
stuck. -/
structure Process (σ : Type) where
  step : σ → Option σ
  ended : σ → Prop
  trace : σ → List String
  rests : ∀ state, ended state → step state = none
  grows : ∀ state next, step state = some next → trace state <+: trace next

namespace Process

variable {σ τ : Type}

/-- A run of a number of steps. -/
inductive Run (process : Process σ) : Nat → σ → σ → Prop where
  | stay (state : σ) : Run process 0 state state
  | move {count : Nat} {before next after : σ} (moved : process.step before = some next)
    (rest : Run process count next after) : Run process (count + 1) before after

/-- A process comes to show a list of lines, and possibly more after it. -/
def Shows (process : Process σ) (start : σ) (shown : List String) : Prop :=
  ∃ count after, process.Run count start after ∧ shown <+: process.trace after

/-- A process ends with a trace. -/
def Ends (process : Process σ) (start : σ) (whole : List String) : Prop :=
  ∃ count after, process.Run count start after ∧ process.ended after ∧ process.trace after = whole

namespace Run

variable {process : Process σ} {before middle after other : σ} {first second : Nat}

/-- A run of one step. -/
theorem single (moved : process.step before = some after) : process.Run 1 before after :=
  move moved (stay after)

/-- Runs that meet make one run. -/
theorem append (start : process.Run first before middle) (rest : process.Run second middle after) :
    process.Run (first + second) before after := by
  induction start with
  | stay state => simpa using rest
  | @move count before next middle moved _ inductionHypothesis =>
    have joined := move moved (inductionHypothesis rest)
    rwa [Nat.add_right_comm] at joined

/-- Traces grow along a run. -/
theorem grows (run : process.Run first before after) :
    process.trace before <+: process.trace after := by
  induction run with
  | stay state => exact List.prefix_rfl
  | move moved _ inductionHypothesis => exact (process.grows _ _ moved).trans inductionHypothesis

/-- Of two runs from one state the longer one begins with the shorter one. -/
theorem rest (long : process.Run second before after) (short : process.Run first before middle)
    (shorter : first ≤ second) : process.Run (second - first) middle after := by
  induction short generalizing second with
  | stay state => exact long
  | @move count before next middle moved _ inductionHypothesis =>
    cases long with
    | stay => omega
    | @move more _ other _ movedToo rest =>
      obtain rfl : next = other := Option.some.inj (moved.symm.trans movedToo)
      have remaining := inductionHypothesis rest (by omega)
      rwa [Nat.add_sub_add_right]

/-- No run goes beyond the end of a process. -/
theorem le_of_ended (finished : process.Run first before middle) (ended : process.ended middle)
    (run : process.Run second before after) : second ≤ first := by
  apply Nat.le_of_not_lt
  intro longer
  have remaining := run.rest finished (by omega)
  cases count : second - first with
  | zero => omega
  | succ more =>
    rw [count] at remaining
    cases remaining with
    | move moved _ =>
      rw [process.rests middle ended] at moved
      cases moved

end Run

/-- A process follows another one along a relation between their states. Each step of the other is
answered by one step or more, an end by an end, and the other never gets stuck. -/
structure Follows (process : Process σ) (leader : Process τ) (related : σ → τ → Prop) : Prop where
  agrees : ∀ state led, related state led → process.trace state = leader.trace led
  advances : ∀ state led, related state led → leader.ended led ∨ ∃ next, leader.step led = some next
  answers : ∀ state led next, related state led → leader.step led = some next →
    ∃ count after, process.Run (count + 1) state after ∧ related after next
  finishes : ∀ state led, related state led → leader.ended led →
    ∃ count after, process.Run count state after ∧ process.ended after ∧
      process.trace after = leader.trace led

namespace Follows

variable {process : Process σ} {leader : Process τ} {related : σ → τ → Prop} {state : σ} {led : τ}

/-- A run is followed by a run of at least as many steps. -/
theorem run {count : Nat} {next : τ} (follows : process.Follows leader related)
    (start : related state led) (run : leader.Run count led next) :
    ∃ more after, count ≤ more ∧ process.Run more state after ∧ related after next := by
  induction run generalizing state with
  | stay led => exact ⟨0, state, Nat.le_refl 0, .stay state, start⟩
  | @move count led next last moved _ inductionHypothesis =>
    obtain ⟨first, middle, answered, met⟩ := follows.answers state led next start moved
    obtain ⟨more, after, enough, rest, arrived⟩ := inductionHypothesis met
    exact ⟨first + 1 + more, after, by omega, answered.append rest, arrived⟩

/-- A leader runs on for ever, or it ends. -/
theorem run_or_ends (follows : process.Follows leader related) (start : related state led)
    (count : Nat) :
    (∃ next, leader.Run count led next) ∨
      ∃ less next, leader.Run less led next ∧ leader.ended next := by
  induction count generalizing state led with
  | zero => exact Or.inl ⟨led, .stay led⟩
  | succ count inductionHypothesis =>
    rcases follows.advances state led start with ended | ⟨next, moved⟩
    · exact Or.inr ⟨0, led, .stay led, ended⟩
    · obtain ⟨_, after, _, met⟩ := follows.answers state led next start moved
      rcases inductionHypothesis met with ⟨last, run⟩ | ⟨less, last, run, ended⟩
      · exact Or.inl ⟨last, .move moved run⟩
      · exact Or.inr ⟨less + 1, last, .move moved run, ended⟩

/-- Where the leader ends, the process ends with the same trace. -/
theorem ends (follows : process.Follows leader related) (start : related state led) {count : Nat}
    {next : τ} (run : leader.Run count led next) (ended : leader.ended next) :
    ∃ more after, process.Run more state after ∧ process.ended after ∧
      process.trace after = leader.trace next := by
  obtain ⟨first, middle, _, answered, met⟩ := follows.run start run
  obtain ⟨last, after, rest, finished, same⟩ := follows.finishes middle next met ended
  exact ⟨first + last, after, answered.append rest, finished, same⟩

/-- The process and its leader come to show the same. -/
theorem shows_iff (follows : process.Follows leader related) (start : related state led)
    (shown : List String) : process.Shows state shown ↔ leader.Shows led shown := by
  constructor
  · rintro ⟨count, reached, run, seen⟩
    -- The leader goes on for as many steps, or ends before, and then the process has ended too.
    rcases follows.run_or_ends start count with ⟨next, ahead⟩ | ⟨less, next, ahead, ended⟩
    · obtain ⟨more, after, enough, longer, met⟩ := follows.run start ahead
      have grown := (longer.rest run enough).grows
      rw [follows.agrees after next met] at grown
      exact ⟨count, next, ahead, seen.trans grown⟩
    · obtain ⟨more, after, longer, finished, same⟩ := follows.ends start ahead ended
      have grown := (longer.rest run (longer.le_of_ended finished run)).grows
      rw [same] at grown
      exact ⟨less, next, ahead, seen.trans grown⟩
  · rintro ⟨count, next, run, seen⟩
    obtain ⟨more, after, _, answered, met⟩ := follows.run start run
    refine ⟨more, after, answered, ?_⟩
    rw [follows.agrees after next met]
    exact seen

/-- The process and its leader end alike. -/
theorem ends_iff (follows : process.Follows leader related) (start : related state led)
    (whole : List String) : process.Ends state whole ↔ leader.Ends led whole := by
  constructor
  · rintro ⟨count, reached, run, ended, same⟩
    rcases follows.run_or_ends start (count + 1) with
      ⟨next, ahead⟩ | ⟨less, next, ahead, leaderEnded⟩
    · obtain ⟨more, after, enough, longer, _⟩ := follows.run start ahead
      have bounded := run.le_of_ended ended longer
      omega
    · obtain ⟨more, after, longer, finished, sameTrace⟩ := follows.ends start ahead leaderEnded
      have bounded := run.le_of_ended ended longer
      have remaining := longer.rest run (longer.le_of_ended finished run)
      have none : more - count = 0 := by omega
      rw [none] at remaining
      cases remaining with
      | stay => exact ⟨less, next, ahead, leaderEnded, sameTrace.symm.trans same⟩
  · rintro ⟨count, next, run, ended, same⟩
    obtain ⟨more, after, answered, finished, sameTrace⟩ := follows.ends start run ended
    exact ⟨more, after, answered, finished, sameTrace.trans same⟩

end Follows

end Process

end EventScript
