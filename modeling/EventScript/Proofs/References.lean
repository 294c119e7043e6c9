import EventScript.Proofs.Ledger

/-!
# References to actors

A reference is taken for a name first, and only the reference to the owner is taken for another name
than its own. The name is looked up next: the player holds slot zero, whatever the actors of the
scene are called, and any other name belongs to the last actor that has it. Owners and actors may
have the two special names, and actors may share one. What a reference is answered with is therefore
told by a relation of four cases, of which one applies and no two do.
-/
namespace EventScript

/-- The last position at which a name stands. -/
def LastAt (names : List String) (name : String) (position : Nat) : Prop :=
  names[position]? = some name ∧ ∀ later, position < later → names[later]? ≠ some name

/-- A name stands last at one position only. -/
theorem LastAt.unique {names : List String} {name : String} {first second : Nat}
    (here : LastAt names name first) (there : LastAt names name second) : first = second := by
  rcases Nat.lt_trichotomy first second with before | same | behind
  · exact absurd there.1 (here.2 second before)
  · exact same
  · exact absurd here.1 (there.2 first behind)

/-- The last of several names stands last where it is. -/
theorem lastAt_concat (names : List String) (name : String) :
    LastAt (names ++ [name]) name names.length := by
  refine ⟨List.getElem?_concat_length, fun later behind found => ?_⟩
  obtain ⟨inside, _⟩ := List.getElem?_eq_some_iff.mp found
  rw [List.length_append, List.length_singleton] at inside
  omega

/-- A name at the end of a list takes the last position from no other name. -/
theorem lastAt_concat_iff_of_ne {names : List String} {last name : String} (other : name ≠ last)
    (position : Nat) : LastAt (names ++ [last]) name position ↔ LastAt names name position := by
  have alike (index : Nat) :
      (names ++ [last])[index]? = some name ↔ names[index]? = some name := by
    rcases Nat.lt_trichotomy index names.length with inside | rfl | outside
    · rw [List.getElem?_append_left inside]
    · simp [Ne.symm other]
    · rw [List.getElem?_eq_none outside.le, List.getElem?_eq_none (by simpa using outside)]
  simp only [LastAt, ne_eq, alike]

/-- An actor at the end of a scene takes over its name and leaves the others to the actors that had
them. -/
theorem lookup_zipIdx_concat (actors : List String) (last name : String) :
    ((actors ++ [last]).zipIdx 1).reverse.lookup name =
      if name = last then some (actors.length + 1)
      else (actors.zipIdx 1).reverse.lookup name := by
  rw [List.zipIdx_append, List.reverse_append, List.zipIdx_singleton, List.reverse_singleton,
    List.singleton_append, lookup_cons_ite, Nat.add_comm 1]

/-- A name belongs to the last actor that has it. -/
theorem lookup_zipIdx_eq_some_iff (actors : List String) (name : String) (slot : Nat) :
    (actors.zipIdx 1).reverse.lookup name = some slot ↔
      ∃ position, slot = position + 1 ∧ LastAt actors name position := by
  induction actors using List.reverseRecOn with
  | nil => simp [LastAt]
  | append_singleton actors last inductionHypothesis =>
    rw [lookup_zipIdx_concat]
    by_cases taken : name = last
    · subst taken
      have only : ∀ position, LastAt (actors ++ [name]) name position ↔ position = actors.length :=
        fun position => ⟨fun ends => ends.unique (lastAt_concat actors name), by
          rintro rfl
          exact lastAt_concat actors name⟩
      simp [only, eq_comm]
    · simp only [if_neg taken, inductionHypothesis, lastAt_concat_iff_of_ne taken]

/-- A name that no actor has is not found. -/
theorem lookup_zipIdx_eq_none_iff (actors : List String) (name : String) :
    (actors.zipIdx 1).reverse.lookup name = none ↔ name ∉ actors := by
  rw [List.lookup_eq_none_iff]
  conv_rhs => rw [← List.zipIdx_map_fst 1 actors]
  simp only [List.mem_reverse, bne_iff_ne, List.mem_map, not_exists, not_and]
  exact ⟨fun unlike entry listed same => unlike entry listed same.symm,
    fun absent entry listed same => absent entry listed same.symm⟩

/-- Where names are distinct, each stands last where it stands. -/
theorem LastAt.of_nodup {names : List String} (distinct : names.Nodup) {name : String}
    {position : Nat} (stands : names[position]? = some name) : LastAt names name position := by
  refine ⟨stands, fun later behind again => ?_⟩
  obtain ⟨inside, _⟩ := List.getElem?_eq_some_iff.mp again
  exact List.nodup_iff_getElem?_ne_getElem?.mp distinct position later behind inside
    (stands.trans again.symm)

namespace Setting

variable {setting : Setting} {reference : String}

/-- The name that a reference stands for, which only the reference to the owner may lack. -/
def meant? (setting : Setting) (reference : String) : Option String :=
  if reference = selfName then setting.owner else some reference

/-- What a reference is answered with. -/
inductive Resolves (setting : Setting) (reference : String) : Except Fault Nat → Prop where
  | ownerless (nobody : setting.meant? reference = none) :
    Resolves setting reference (.error .noActiveEntity)
  | player (meant : setting.meant? reference = some playerName) :
    Resolves setting reference (.ok 0)
  | actor {name : String} {position : Nat} (meant : setting.meant? reference = some name)
    (other : name ≠ playerName) (last : LastAt setting.scene.actors name position) :
    Resolves setting reference (.ok (position + 1))
  | unknown {name : String} (meant : setting.meant? reference = some name)
    (other : name ≠ playerName) (absent : name ∉ setting.scene.actors) :
    Resolves setting reference (.error (.unknownActor name))

/-- Nobody is meant by a reference to the owner where there is none, and by no other reference. -/
theorem meant?_eq_none_iff :
    setting.meant? reference = none ↔ reference = selfName ∧ setting.owner = none := by
  unfold meant?
  split <;> simp [*]

/-- Any reference but that to the owner stands for itself. -/
theorem meant?_of_ne (other : reference ≠ selfName) : setting.meant? reference = some reference :=
  if_neg other

/-- A reference is answered in two steps, of which the second looks its name up. -/
theorem slot_eq (setting : Setting) (reference : String) :
    setting.slot reference =
      match setting.meant? reference with
      | none => .error .noActiveEntity
      | some name =>
        if name = playerName then .ok 0
        else
          match setting.scene.slot? name with
          | some slot => .ok slot
          | none => .error (.unknownActor name) := by
  have named : setting.named reference =
      match setting.meant? reference with
      | none => .error .noActiveEntity
      | some name => .ok name := by
    unfold Setting.named meant? self
    split
    · cases setting.owner <;> rfl
    · rfl
  rw [slot, named]
  cases setting.meant? reference with
  | none => rfl
  | some name =>
    by_cases player : name = playerName
    · simp [Bind.bind, Except.bind, Pure.pure, Except.pure, player]
    · simp only [Bind.bind, Except.bind, if_neg player]
      cases setting.scene.slot? name <;> rfl

/-- Every reference is answered by one of the four cases. -/
theorem resolves_slot (setting : Setting) (reference : String) :
    setting.Resolves reference (setting.slot reference) := by
  rw [slot_eq]
  split
  case h_1 nobody => exact .ownerless nobody
  case h_2 name meant =>
    split
    case isTrue player => exact .player (player ▸ meant)
    case isFalse other =>
      split
      case h_1 slot found =>
        obtain ⟨position, rfl, last⟩ := (lookup_zipIdx_eq_some_iff _ _ _).mp found
        exact .actor meant other last
      case h_2 missing =>
        exact .unknown meant other ((lookup_zipIdx_eq_none_iff _ _).mp missing)

/-- No other answer is given than that of the case that applies. -/
theorem Resolves.slot_eq {answer : Except Fault Nat}
    (resolves : setting.Resolves reference answer) : setting.slot reference = answer := by
  rw [Setting.slot_eq]
  cases resolves with
  | ownerless nobody => simp only [nobody]
  | player meant => simp only [meant, if_true]
  | actor meant other last =>
    have found := (lookup_zipIdx_eq_some_iff _ _ _).mpr ⟨_, rfl, last⟩
    simp only [meant, if_neg other, Scene.slot?, found]
  | unknown meant other absent =>
    have missing := (lookup_zipIdx_eq_none_iff _ _).mpr absent
    simp only [meant, if_neg other, Scene.slot?, missing]

/-- What a reference is answered with is told by the four cases. -/
theorem slot_eq_iff (answer : Except Fault Nat) :
    setting.slot reference = answer ↔ setting.Resolves reference answer :=
  ⟨fun same => same ▸ resolves_slot setting reference, Resolves.slot_eq⟩

/-- The slots of the actors are numbered from one. -/
theorem Resolves.le_length {slot : Nat} (resolves : setting.Resolves reference (.ok slot)) :
    slot ≤ setting.scene.actors.length := by
  cases resolves with
  | player => exact Nat.zero_le _
  | actor _ _ last => exact (List.getElem?_eq_some_iff.mp last.1).1

/-- References with one slot stand for one name. -/
theorem Resolves.meant?_eq {other : String} {slot : Nat}
    (resolves : setting.Resolves reference (.ok slot))
    (also : setting.Resolves other (.ok slot)) :
    setting.meant? other = setting.meant? reference := by
  cases resolves with
  | player meant =>
    cases also with
    | player alsoMeant => rw [meant, alsoMeant]
  | actor meant _ last =>
    cases also with
    | actor alsoMeant _ alsoLast => rw [meant, alsoMeant, ← last.1, ← alsoLast.1]

end Setting

/-- A reference is answered by one of four cases: nobody is meant, or the player, or the last actor
with the name that is meant, or somebody who is not in the scene. So no slot lies beyond the actors,
nothing of a scene but its actors counts, and references with one slot stand for one name. Where the
actors have distinct names, none of them the player's, each is found in the slot behind its
position, by its name or as the owner. -/
theorem references_find_last_actor (setting : Setting) (reference : String) :
    (∀ answer, setting.slot reference = answer ↔ setting.Resolves reference answer) ∧
      (setting.slot reference = .error .noActiveEntity ↔
        reference = selfName ∧ setting.owner = none) ∧
      (∀ slot, setting.slot reference = .ok slot → slot ≤ setting.scene.actors.length) ∧
      (∀ scene : Scene, scene.actors = setting.scene.actors →
        { setting with scene := scene }.slot reference = setting.slot reference) ∧
      (∀ other slot, setting.slot reference = .ok slot → setting.slot other = .ok slot →
        setting.meant? other = setting.meant? reference) ∧
      (setting.scene.actors.Nodup → playerName ∉ setting.scene.actors →
        ∀ position id, setting.scene.actors[position]? = some id →
          (id ≠ selfName → setting.slot id = .ok (position + 1)) ∧
            { setting with owner := some id }.slot selfName = .ok (position + 1)) := by
  refine ⟨fun answer => Setting.slot_eq_iff answer, ?_, fun slot found => ?_,
    fun scene same => ?_, fun other slot found alsoFound => ?_,
    fun distinct playerless position id stands => ?_⟩
  · rw [← Setting.meant?_eq_none_iff, Setting.slot_eq_iff]
    exact ⟨fun | .ownerless nobody => nobody, .ownerless⟩
  · exact Setting.Resolves.le_length ((Setting.slot_eq_iff _).mp found)
  · simp only [Setting.slot_eq, Setting.meant?, Scene.slot?, same]
  · exact ((Setting.slot_eq_iff _).mp found).meant?_eq ((Setting.slot_eq_iff _).mp alsoFound)
  · have other : id ≠ playerName := by
      rintro rfl
      exact playerless (List.mem_of_getElem? stands)
    have last := LastAt.of_nodup distinct stands
    have asOwner : { setting with owner := some id }.Resolves selfName (.ok (position + 1)) :=
      .actor (if_pos rfl) other last
    exact ⟨fun plain => Setting.Resolves.slot_eq (.actor (Setting.meant?_of_ne plain) other last),
      asOwner.slot_eq⟩

-- Actors may share a name and have both of the special names.
example :
    let setting : Setting :=
      { scene := { actors := ["a", "player", "$self$", "a"] }, owner := some "$self$" }
    setting.slot "a" = .ok 4 ∧ setting.slot "player" = .ok 0 ∧ setting.slot selfName = .ok 3 := by
  decide

/-- An actor is found as the owner even where it has the name of the reference to the owner. -/
theorem self_named_actor_found :
    let scene : Scene := { actors := ["a", "$self$"] }
    scene.actors.Nodup ∧ playerName ∉ scene.actors ∧
      ({ scene := scene } : Setting).slot "a" = .ok 1 ∧
      ({ scene := scene, owner := some "$self$" } : Setting).slot selfName = .ok 2 := by
  intro scene
  have distinct : scene.actors.Nodup := by decide
  have playerless : playerName ∉ scene.actors := by decide
  obtain ⟨-, -, -, -, -, numbered⟩ := references_find_last_actor { scene := scene } "a"
  obtain ⟨byName, -⟩ := numbered distinct playerless 0 "a" rfl
  obtain ⟨-, asOwner⟩ := numbered distinct playerless 1 "$self$" rfl
  exact ⟨distinct, playerless, byName (by decide), asOwner⟩

end EventScript
