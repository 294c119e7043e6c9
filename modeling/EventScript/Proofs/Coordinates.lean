import EventScript.Proofs.ActorOperands
import EventScript.Proofs.Reaching

/-!
# Coordinates of moves

The two coordinates of a move go through four checks before a line is written. Both are words as
they are read, and both are words again in the units of the machine, which is the narrower demand.
The first check that fails decides which coordinate is reported, so a coordinate that is no word at
all is reported before one that is merely too far away, whichever comes first in the event. What
passes is written exactly, and what is refused leaves the draft as it was.
-/
namespace EventScript

open Assembly (Line)

/-- The numbers that a signed word of 32 bits holds. -/
def wordRange : Interval := ⟨-2147483648, 2147483647⟩

/-- The checks of a move in their order: the name of a coordinate, its number, and where the number
has to lie. -/
def coordinateChecks (x y : Int) : List (String × Int × Interval) :=
  [("x", x, wordRange), ("y", y, wordRange), ("x", x, tileReach), ("y", y, tileReach)]

/-- The coordinate that fails the first of its checks to fail. -/
def refusedCoordinate? (x y : Int) : Option (String × Int) :=
  ((coordinateChecks x y).find? fun (_, number, range) => !range.holds number).map
    fun (axis, number, _) => (axis, number)

/-- Whether both coordinates pass is decided by the narrower of their checks. -/
theorem refusedCoordinate?_eq_none_iff (x y : Int) :
    refusedCoordinate? x y = none ↔
      (-16777216 ≤ x ∧ x ≤ 16777215) ∧ -16777216 ≤ y ∧ y ≤ 16777215 := by
  simp only [refusedCoordinate?, coordinateChecks, Option.map_eq_none_iff, List.find?_eq_none,
    List.forall_mem_cons, Bool.not_eq_true', Bool.not_eq_false, Interval.holds_iff, wordRange,
    tileReach]
  simp
  omega

namespace Event

variable {event : Event}

/-- A number is read where it stands and lies in the range. -/
theorem readNumber_eq {key : String} {number : Int} (interval : Interval)
    (found : event.args.lookup key = some (.number number)) :
    event.readNumber interval key =
      if interval.holds number = true then .ok number
      else .error (event.misused (.outOfRange key number)) := by
  rw [readNumber, found]

/-- The way of a move is the one that is named, or else some way. -/
theorem exists_readMoveKind (way : event.args.lookup "moveType" = none ∨
    ∃ name kind, event.args.lookup "moveType" = some (.text name) ∧
      MoveKind.ofText? name = some kind) : ∃ kind, event.readMoveKind = .ok kind := by
  obtain absent | ⟨name, kind, named, known⟩ := way
  · exact ⟨.horizontal, by rw [readMoveKind, absent]⟩
  · refine ⟨kind, ?_⟩
    have read : event.readText "moveType" = .ok name := by rw [readText, named]
    simp [readMoveKind, named, read, known, Bind.bind, Except.bind]

/-- A truth value is read, or else taken as it is by default. -/
theorem exists_readFlag {key : String} (flag : event.args.lookup key = none ∨
    ∃ value, event.args.lookup key = some (.flag value)) (default : Bool) :
    ∃ value, event.readFlag key default = .ok value := by
  obtain absent | ⟨value, given⟩ := flag
  · exact ⟨default, by rw [readFlag, absent]⟩
  · exact ⟨value, by rw [readFlag, given]⟩

end Event

/-- A move is read where both of its coordinates are words, and else the first that is none is
reported. -/
theorem Event.readMove_eq {event : Event} {x y : Int} {collide : Bool} {kind : MoveKind}
    (givenX : event.args.lookup "x" = some (.number x))
    (givenY : event.args.lookup "y" = some (.number y))
    (way : event.readMoveKind = .ok kind)
    (flag : event.readFlag "useCollisions" true = .ok collide) :
    event.readMove =
      if wordRange.holds x = true then
        if wordRange.holds y = true then .ok (.moveTo x y collide kind)
        else .error (event.misused (.outOfRange "y" y))
      else .error (event.misused (.outOfRange "x" x)) := by
  have word : Interval.signed 32 = wordRange := by decide
  rw [readMove, way, readNumber_eq _ givenX, readNumber_eq _ givenY, flag, word]
  by_cases first : wordRange.holds x = true <;> by_cases second : wordRange.holds y = true <;>
    simp [first, second, Bind.bind, Except.bind, Pure.pure, Except.pure]

/-- An event that moves an actor is lowered as its coordinates are judged: it is refused with the
coordinate that fails the first check, or it is a move between tiles in reach. -/
theorem lower_move {setting : Setting} {event : Event} {x y : Int} {collide : Bool}
    {kind : MoveKind} (enabled : ¬event.disabled = true)
    (command : event.command = "EVENT_ACTOR_MOVE_TO")
    (givenX : event.args.lookup "x" = some (.number x))
    (givenY : event.args.lookup "y" = some (.number y))
    (way : event.readMoveKind = .ok kind)
    (flag : event.readFlag "useCollisions" true = .ok collide) (draft : Draft) :
    lowerEvents setting [event] draft =
      match refusedCoordinate? x y with
      | some (axis, number) =>
        .error (.invalidArgument "EVENT_ACTOR_MOVE_TO" (.outOfRange axis number)) draft
      | none => (Action.moveTo x y collide kind).write setting draft := by
  have read : event.read = Command.act <$> event.readMove := by
    simp only [Event.read, command]
    rfl
  have named : ∀ misuse, event.misused misuse = .invalidArgument "EVENT_ACTOR_MOVE_TO" misuse := by
    intro misuse
    rw [Event.misused, command]
  have asked := Event.readMove_eq givenX givenY way flag
  rw [lowerEvents_enabled [] enabled, Event.lower_eq, read, asked]
  -- One case for each of the four checks that may be the first to fail, and one for none.
  by_cases wordX : wordRange.holds x = true
  case neg => simp [refusedCoordinate?, coordinateChecks, wordX, named]
  by_cases wordY : wordRange.holds y = true
  case neg => simp [refusedCoordinate?, coordinateChecks, wordX, wordY, named]
  by_cases reachX : tileReach.holds x = true
  case neg =>
    simp [refusedCoordinate?, coordinateChecks, wordX, wordY, reachX, Action.write, Writing.moveTo,
      tilePlace_eq, moveToCommand]
  by_cases reachY : tileReach.holds y = true
  case neg =>
    simp [refusedCoordinate?, coordinateChecks, wordX, wordY, reachX, reachY, Action.write,
      Writing.moveTo, tilePlace_eq, moveToCommand]
  cases moved : (Action.moveTo x y collide kind).write setting draft <;>
    simp [refusedCoordinate?, coordinateChecks, wordX, wordY, reachX, reachY, lowerEvents, moved]

/-- A coordinate that is refused is reported by its name and its number. -/
theorem message_refusedCoordinate (axis : String) (number : Int) :
    (Fault.invalidArgument "EVENT_ACTOR_MOVE_TO" (.outOfRange axis number)).message =
      "Invalid argument for EVENT_ACTOR_MOVE_TO: '" ++ axis ++ "' out of range: " ++
        toString number := by
  have opening : "Invalid argument for " ++ "EVENT_ACTOR_MOVE_TO" ++ ": " ++ "'" =
      "Invalid argument for EVENT_ACTOR_MOVE_TO: '" := by decide
  calc
    _ = "Invalid argument for " ++ "EVENT_ACTOR_MOVE_TO" ++ ": " ++
        ("'" ++ axis ++ "' out of range: " ++ toString number) := rfl
    _ = _ := by
      rw [← opening]
      simp only [String.append_assoc]

/-- An event that moves an actor to numbers succeeds where both are within reach, and then it stores
the exact places of both in the cells of the actor. Otherwise the draft is left as it was, and the
fault names the coordinate that fails the first check, with its number. -/
theorem move_coordinates_exact (setting : Setting) (options : Options) (draft : Draft)
    (event : Event) (x y : Int) (enabled : event.disabled = false)
    (command : event.command = "EVENT_ACTOR_MOVE_TO")
    (givenX : event.args.lookup "x" = some (.number x))
    (givenY : event.args.lookup "y" = some (.number y))
    (way : event.args.lookup "moveType" = none ∨
      ∃ name kind, event.args.lookup "moveType" = some (.text name) ∧
        MoveKind.ofText? name = some kind)
    (flag : event.args.lookup "useCollisions" = none ∨
      ∃ value, event.args.lookup "useCollisions" = some (.flag value)) :
    let compiled := (setting.workshop options).lower [event] draft
    ((∃ after, compiled = .ok () after) ↔
      (-16777216 ≤ x ∧ x ≤ 16777215) ∧ -16777216 ≤ y ∧ y ≤ 16777215) ∧
    (∀ after, compiled = .ok () after →
      ∃ lines flags, after.lines = draft.lines ++ lines ∧
        lines.filterMap (access? (localActorSize + draft.ledger.depth)) =
          [.store 1 (toString (128 * x)), .store 2 (toString (128 * y)), .store 3 flags,
            .move 0]) ∧
    ∀ fault after, compiled = .error fault after →
      after = draft ∧ ∃ axis number, refusedCoordinate? x y = some (axis, number) ∧
        fault = .invalidArgument "EVENT_ACTOR_MOVE_TO" (.outOfRange axis number) ∧
        fault.message = "Invalid argument for EVENT_ACTOR_MOVE_TO: '" ++ axis ++
          "' out of range: " ++ toString number := by
  intro compiled
  obtain ⟨kind, wayRead⟩ := Event.exists_readMoveKind way
  obtain ⟨collide, flagRead⟩ := Event.exists_readFlag flag true
  have judged : compiled = _ :=
    (congrFun (setting.workshop_lower options [event]) draft).trans
      (lower_move (by simp [enabled]) command givenX givenY wayRead flagRead draft)
  rw [← refusedCoordinate?_eq_none_iff]
  cases checked : refusedCoordinate? x y with
  | some refused =>
    obtain ⟨axis, number⟩ := refused
    rw [checked] at judged
    refine ⟨⟨fun ⟨after, ends⟩ => ?_, fun passes => by cases passes⟩, fun after ends => ?_,
      fun fault after ends => ?_⟩
    · cases judged.symm.trans ends
    · cases judged.symm.trans ends
    · cases judged.symm.trans ends
      exact ⟨rfl, axis, number, rfl, rfl, message_refusedCoordinate axis number⟩
  | none =>
    rw [checked] at judged
    obtain ⟨⟨left, right⟩, top, bottom⟩ := (refusedCoordinate?_eq_none_iff x y).mp checked
    have across : tilePlace "x" x = .ok (128 * x) := by
      rw [tilePlace_eq, if_pos ((Interval.holds_iff _ _).mpr ⟨left, right⟩)]
    have along : tilePlace "y" y = .ok (128 * y) := by
      rw [tilePlace_eq, if_pos ((Interval.holds_iff _ _).mpr ⟨top, bottom⟩)]
    obtain ⟨moved, ends, added⟩ := run_moveTo across along setting collide kind draft
    have done := judged.trans ends
    refine ⟨⟨fun _ => rfl, fun _ => ⟨moved, done⟩⟩, fun after again => ?_,
      fun fault after fails => ?_⟩
    · cases done.symm.trans again
      exact ⟨_, _, lines_eq_append added, accesses_moveLines _ _ _ _ _⟩
    · cases done.symm.trans fails

/-- A move to two numbers, with nothing else given. -/
def moveEvent (x y : Int) : Event :=
  { command := "EVENT_ACTOR_MOVE_TO", args := [("x", .number x), ("y", .number y)] }

/-- The farthest corner is reached exactly. A move that is too far across and has no word for its
other coordinate is refused by the latter. -/
theorem corner_move_exact :
    (∃ after flags,
      (({} : Setting).workshop {}).lower [moveEvent 16777215 (-16777216)] {} = .ok () after ∧
      after.lines.filterMap (access? 4) =
        [.store 1 "2147483520", .store 2 "-2147483648", .store 3 flags, .move 0]) ∧
    (({} : Setting).workshop {}).lower [moveEvent 16777216 2147483648] {} =
      .error (.invalidArgument "EVENT_ACTOR_MOVE_TO" (.outOfRange "y" 2147483648)) {} := by
  have judgement (x y : Int) :=
    move_coordinates_exact {} {} {} (moveEvent x y) x y rfl rfl rfl rfl (.inl rfl) (.inl rfl)
  constructor
  · obtain ⟨accepted, writes, -⟩ := judgement 16777215 (-16777216)
    obtain ⟨after, ends⟩ := accepted.mpr (by decide)
    obtain ⟨lines, flags, added, accessed⟩ := writes after ends
    obtain rfl : after.lines = lines := added
    exact ⟨after, flags, ends, accessed⟩
  · obtain ⟨accepted, -, refuses⟩ := judgement 16777216 2147483648
    cases ended : (({} : Setting).workshop {}).lower [moveEvent 16777216 2147483648] {} with
    | ok _ after => exact absurd (accepted.mp ⟨after, ended⟩) (by decide)
    | error fault after =>
      obtain ⟨rfl, axis, number, first, rfl, -⟩ := refuses fault after ended
      obtain ⟨rfl, rfl⟩ : "y" = axis ∧ 2147483648 = number := by
        simpa using (show some ("y", 2147483648) = some (axis, number) from first)
      rfl

end EventScript
