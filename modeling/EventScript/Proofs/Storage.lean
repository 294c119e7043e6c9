import EventScript.Files.Disk
import EventScript.Proofs.Judgement

/-!
# Where texts are stored

What stands at a place of a tree is a directory or a file with its content, and all that a disk
answers depends on this alone. Giving a file a text changes what stands at one place: no directory
comes or goes, so every path leads where it led before, and every path that leads elsewhere finds
what it found before. Of several texts that are stored one after the other under paths to one file
the last one stays.
-/
namespace EventScript.Files

/-- What can stand at a place. -/
inductive Occupant where
  | directory
  | file (content : Content)
deriving DecidableEq, Repr

/-- A node without what is below it. -/
def Node.occupant : Node → Occupant
  | .directory _ => .directory
  | .file content => .file content

/-- What stands at a place of a tree. -/
def Node.occupant? (tree : Node) (place : List String) : Option Occupant :=
  (tree.find? place).map Node.occupant

/-- A replaced name answers with the new node, and every other as before. -/
theorem lookup_replace (name other : String) (node : Node) (entries : List (String × Node)) :
    (replace name node entries).lookup other =
      if other = name then some node else entries.lookup other := by
  induction entries with
  | nil => rw [replace, lookup_cons_ite, List.lookup_nil]
  | cons entry rest inductionHypothesis =>
    obtain ⟨first, present⟩ := entry
    rw [replace]
    by_cases same : first = name
    · rw [if_pos same, lookup_cons_ite, lookup_cons_ite, same]
      split <;> rfl
    · rw [if_neg same, lookup_cons_ite, lookup_cons_ite, inductionHypothesis]
      by_cases found : other = first
      · rw [if_pos found, if_neg (found ▸ same), if_pos found]
      · rw [if_neg found, if_neg found]

namespace Node

/-- Names in a row lead on from where the first of them lead. -/
theorem find?_append (tree : Node) (names others : List String) :
    tree.find? (names ++ others) = (tree.find? names).bind (·.find? others) := by
  induction names generalizing tree with
  | nil => rw [List.nil_append, find?, Option.bind_some]
  | cons name rest inductionHypothesis =>
    cases tree with
    | file content => rfl
    | directory entries =>
      rw [List.cons_append, find?, find?, Option.bind_assoc]
      simp only [inductionHypothesis]

/-- A directory stands at the root of a directory. -/
@[simp]
theorem occupant?_directory_nil (entries : List (String × Node)) :
    (directory entries).occupant? [] = some .directory := rfl

/-- Names lead on through the entries of a directory. -/
theorem occupant?_directory_cons (entries : List (String × Node)) (name : String)
    (rest : List String) :
    (directory entries).occupant? (name :: rest) =
      (entries.lookup name).bind (·.occupant? rest) := by
  rw [occupant?, find?, Option.map_bind]
  rfl

/-- Only in a directory do names lead on. -/
theorem exists_directory_of_occupant? {tree : Node} {name : String} {rest : List String}
    {occupant : Occupant} (stands : tree.occupant? (name :: rest) = some occupant) :
    ∃ entries node, tree = directory entries ∧ entries.lookup name = some node ∧
      node.occupant? rest = some occupant := by
  cases tree with
  | file content => cases stands
  | directory entries =>
    rw [occupant?_directory_cons] at stands
    obtain ⟨node, listed, found⟩ := Option.bind_eq_some_iff.mp stands
    exact ⟨entries, node, rfl, listed, found⟩

/-- What leads on from a place begins at a directory. -/
theorem occupant?_of_append {tree : Node} {place : List String} {name : String}
    {rest : List String} {occupant : Occupant}
    (stands : tree.occupant? (place ++ name :: rest) = some occupant) :
    tree.occupant? place = some .directory := by
  rw [occupant?, find?_append, Option.map_bind] at stands
  obtain ⟨node, found, leads⟩ := Option.bind_eq_some_iff.mp stands
  obtain ⟨entries, _, rfl, _, _⟩ := exists_directory_of_occupant? leads
  rw [occupant?, found]
  rfl

/-- A file that is put under a name of a directory, where no directory stands, changes what that
name leads to and nothing else. -/
theorem occupant?_put_entry {entries : List (String × Node)} {name : String} (content : Content)
    (free : (directory entries).occupant? [name] ≠ some .directory) (place : List String) :
    ((directory entries).put [name] (.file content)).occupant? place =
      if place = [name] then some (.file content) else (directory entries).occupant? place := by
  rw [put, put]
  cases place with
  | nil => simp
  | cons first rest =>
    rw [occupant?_directory_cons, occupant?_directory_cons, lookup_replace]
    by_cases same : first = name
    · subst same
      rw [if_pos rfl, Option.bind_some]
      cases rest with
      | nil => rw [if_pos rfl]; rfl
      | cons second others =>
        rw [if_neg (by simp)]
        cases listed : entries.lookup first with
        | none => rfl
        | some node =>
          cases node with
          | file other => rfl
          | directory inner => simp [occupant?_directory_cons, listed] at free
    · rw [if_neg same, if_neg (by simp [same])]

/-- A file that is put into a directory, where no directory stands, changes what stands at its own
place and nowhere else. -/
theorem occupant?_put_file {tree : Node} {parent : List String} {name : String}
    (content : Content) (inside : tree.occupant? parent = some .directory)
    (free : tree.occupant? (parent ++ [name]) ≠ some .directory) (place : List String) :
    (tree.put (parent ++ [name]) (.file content)).occupant? place =
      if place = parent ++ [name] then some (.file content) else tree.occupant? place := by
  induction parent generalizing tree place with
  | nil =>
    cases tree with
    | file other => cases inside
    | directory entries => exact occupant?_put_entry content free place
  | cons first others inductionHypothesis =>
    obtain ⟨entries, node, rfl, listed, below⟩ := exists_directory_of_occupant? inside
    rw [List.cons_append, occupant?_directory_cons, listed, Option.bind_some] at free
    rw [List.cons_append, put, listed, Option.getD_some]
    cases place with
    | nil => simp
    | cons second rest =>
      rw [occupant?_directory_cons, occupant?_directory_cons, lookup_replace]
      by_cases same : second = first
      · subst same
        rw [if_pos rfl, listed, Option.bind_some, Option.bind_some,
          inductionHypothesis below free]
        simp
      · rw [if_neg same, if_neg (by simp [same])]

end Node

/-- Whether a directory stands at a place. -/
def Node.IsDirectory (tree : Node) (place : List String) : Prop :=
  tree.occupant? place = some .directory

/-- The root and every directory above a directory is one. -/
theorem Node.IsDirectory.dropLast {tree : Node} {place : List String}
    (inside : tree.IsDirectory place) : tree.IsDirectory place.dropLast := by
  rcases List.eq_nil_or_concat place with rfl | ⟨above, name, rfl⟩
  · exact inside
  · rw [List.concat_eq_append, List.dropLast_concat]
    exact occupant?_of_append (List.concat_eq_append ▸ inside)

namespace Disk

/-- Where a part of a path leads from a directory. -/
def lead (place : List String) (part : String) : Option (List String) :=
  if part = "" ∨ part = "." then some place
  else if part = ".." then some place.dropLast
  else if nameLimit < part.utf8ByteSize then none
  else some (place ++ [part])

/-- A part of a path leads on from a directory, and from nowhere else. -/
theorem follow_eq_ok_iff {root : Node} {place next : List String} {part : String} :
    follow root place part = .ok next ↔ root.IsDirectory place ∧ lead place part = some next := by
  rw [follow, Node.IsDirectory, Node.occupant?]
  cases found : root.find? place with
  | none => simp
  | some node =>
    cases node with
    | file content => simp [Node.occupant]
    | directory entries =>
      rw [lead]
      by_cases still : part = "" ∨ part = "."
      · simp [still, Node.occupant]
      · by_cases back : part = ".."
        · simp [back, Node.occupant]
        · by_cases long : nameLimit < part.utf8ByteSize
          · simp [still, back, long, Node.occupant]
          · simp [still, back, long, Node.occupant]

/-- Trees with the same directories lead the same way. -/
theorem foldlM_follow_congr {root other : Node}
    (same : ∀ place, other.IsDirectory place ↔ root.IsDirectory place) {parts : List String}
    {start place : List String} :
    parts.foldlM (follow other) start = .ok place ↔
      parts.foldlM (follow root) start = .ok place := by
  induction parts generalizing start with
  | nil => rfl
  | cons part rest inductionHypothesis =>
    rw [List.foldlM_cons, List.foldlM_cons, bind_eq_ok_iff, bind_eq_ok_iff]
    simp only [follow_eq_ok_iff, same, inductionHypothesis]

/-- Parts of a path lead to a directory, or to a name in one. -/
theorem foldlM_follow_inside {root : Node} {parts : List String} (some : parts ≠ [])
    {start place : List String} (leads : parts.foldlM (follow root) start = .ok place) :
    root.IsDirectory place ∨ ∃ parent name, place = parent ++ [name] ∧ root.IsDirectory parent := by
  induction parts generalizing start with
  | nil => exact absurd rfl some
  | cons part rest inductionHypothesis =>
    rw [List.foldlM_cons] at leads
    obtain ⟨next, followed, leads⟩ := bind_eq_ok_iff.mp leads
    cases rest with
    | cons second others => exact inductionHypothesis (by simp) leads
    | nil =>
      obtain rfl := Except.ok.inj leads
      obtain ⟨inside, led⟩ := follow_eq_ok_iff.mp followed
      rw [lead] at led
      split at led
      · exact .inl (Option.some.inj led ▸ inside)
      · split at led
        · exact .inl (Option.some.inj led ▸ inside.dropLast)
        · split at led
          · cases led
          · exact .inr ⟨start, part, (Option.some.inj led).symm, inside⟩

/-- Whether a path leads to a place, at which nothing need stand. -/
def Leads (disk : Disk) (path : String) (place : List String) : Prop :=
  disk.locate path (parts path) = .ok place

/-- Whether two paths lead to one place. -/
def SamePlace (disk : Disk) (path other : String) : Prop :=
  ∃ place, disk.Leads path place ∧ disk.Leads other place

/-- Two paths lead to one place in either order. -/
theorem SamePlace.symm {disk : Disk} {path other : String} (same : disk.SamePlace path other) :
    disk.SamePlace other path := by
  obtain ⟨place, leads, otherLeads⟩ := same
  exact ⟨place, otherLeads, leads⟩

/-- Whether a text is read under a path. -/
def Holds (disk : Disk) (path text : String) : Prop := readText path disk = .ok text disk

/-- Every text has a part. -/
theorem partsOf_ne_nil (text : List Char) : partsOf text ≠ [] := by
  unfold partsOf
  split
  · simp
  · simp
  · split <;> simp

/-- A path that a system takes leads where its parts lead, from the root or from the directory of
the program. -/
theorem leads_iff {disk : Disk} {path : String} {place : List String} :
    disk.Leads path place ↔
      (¬path.toList.contains '\x00' = true ∧ ¬path.isEmpty = true ∧
        ¬pathLimit < path.utf8ByteSize) ∧
      (parts path).foldlM (follow disk.root) (if isAbsolute path then [] else disk.here) =
        .ok place := by
  rw [Leads, locate]
  split
  next hidden => exact ⟨fun fails => (by cases fails), fun taken => absurd hidden taken.1.1⟩
  next shown =>
    split
    next empty => exact ⟨fun fails => (by cases fails), fun taken => absurd empty taken.1.2.1⟩
    next named =>
      split
      next long => exact ⟨fun fails => (by cases fails), fun taken => absurd long taken.1.2.2⟩
      next short => rw [and_iff_right ⟨shown, named, short⟩]

/-- On a disk with the same directories every path leads where it led. -/
theorem leads_congr {disk after : Disk} (here : after.here = disk.here)
    (same : ∀ place, after.root.IsDirectory place ↔ disk.root.IsDirectory place) {path : String}
    {place : List String} : after.Leads path place ↔ disk.Leads path place := by
  rw [leads_iff, leads_iff, here, foldlM_follow_congr same]

/-- A path leads to a directory, or to a name in one. -/
theorem Leads.inside {disk : Disk} {path : String} {place : List String}
    (leads : disk.Leads path place) : disk.root.IsDirectory place ∨
      ∃ parent name, place = parent ++ [name] ∧ disk.root.IsDirectory parent :=
  foldlM_follow_inside (List.map_eq_nil_iff.not.mpr (partsOf_ne_nil path.toList))
    (leads_iff.mp leads).2

/-- A text is read under a path that leads to the file that has it, and the disk stays. -/
theorem readText_eq_ok_iff {disk after : Disk} {path text : String} :
    readText path disk = .ok text after ↔ disk = after ∧ ∃ place, disk.Leads path place ∧
      disk.root.occupant? place = some (.file (.text text)) := by
  simp only [readText, Disk.place, Leads, Node.occupant?]
  cases led : disk.locate path (parts path) with
  | error fault => simp [led]
  | ok place =>
    cases found : disk.root.find? place with
    | none => simp [led, found]
    | some node =>
      cases node with
      | directory entries => simp [led, found, Node.occupant]
      | file content => cases content <;> simp [led, found, Node.occupant, and_comm]

/-- Where no text is read the disk stays as well. -/
theorem eq_of_readText_eq_error {disk after : Disk} {path : String} {fault : Fault}
    (failed : readText path disk = .error fault after) : disk = after := by
  simp only [readText, Disk.place] at failed
  cases led : disk.locate path (parts path) with
  | error other => simp_all
  | ok place =>
    cases found : disk.root.find? place with
    | none => simp_all
    | some node =>
      cases node with
      | directory entries => simp_all
      | file content => cases content <;> simp_all

/-- A text is stored under a path that leads elsewhere than to a directory, as a file that is put
there. -/
theorem writeText_eq_ok_iff {disk after : Disk} {path text : String} :
    writeText path text disk = .ok () after ↔ ∃ place, disk.Leads path place ∧
      ¬disk.root.IsDirectory place ∧
      after = { disk with root := disk.root.put place (.file (.text text)) } := by
  simp only [writeText, Disk.place, Leads, Node.IsDirectory, Node.occupant?]
  cases led : disk.locate path (parts path) with
  | error fault => simp [led]
  | ok place =>
    cases found : disk.root.find? place with
    | none => simp [led, found, eq_comm]
    | some node =>
      cases node with
      | directory entries => simp [led, found, Node.occupant]
      | file content => simp [led, found, Node.occupant, eq_comm]

/-- A path leads to one place at most. -/
theorem Leads.unique {disk : Disk} {path : String} {place other : List String}
    (leads : disk.Leads path place) (alsoLeads : disk.Leads path other) : place = other :=
  Except.ok.inj (leads.symm.trans alsoLeads)

section Storing

variable {disk after : Disk} {path text : String}

/-- A stored text changes what stands at the place of its path, and nothing else. -/
theorem exists_place_of_writeText (stored : writeText path text disk = .ok () after) :
    ∃ place, disk.Leads path place ∧ ¬disk.root.IsDirectory place ∧ after.here = disk.here ∧
      ∀ other, after.root.occupant? other =
        if other = place then some (.file (.text text)) else disk.root.occupant? other := by
  obtain ⟨place, leads, free, rfl⟩ := writeText_eq_ok_iff.mp stored
  obtain ⟨parent, name, rfl, inside⟩ := leads.inside.resolve_left free
  exact ⟨_, leads, free, rfl, Node.occupant?_put_file (.text text) inside free⟩

/-- With a stored text no directory comes or goes. -/
theorem isDirectory_writeText (stored : writeText path text disk = .ok () after)
    (place : List String) : after.root.IsDirectory place ↔ disk.root.IsDirectory place := by
  obtain ⟨file, -, free, -, stands⟩ := exists_place_of_writeText stored
  rw [Node.IsDirectory, stands]
  by_cases same : place = file
  · rw [if_pos same, same]
    exact ⟨fun stays => (by cases stays), fun directory => absurd directory free⟩
  · rw [if_neg same, Node.IsDirectory]

/-- A stored text leads no path elsewhere. -/
theorem leads_writeText (stored : writeText path text disk = .ok () after) {other : String}
    {place : List String} : after.Leads other place ↔ disk.Leads other place := by
  obtain ⟨-, -, -, here, -⟩ := exists_place_of_writeText stored
  exact leads_congr here (isDirectory_writeText stored)

/-- A stored text is read under every path to its file. -/
theorem holds_of_samePlace (stored : writeText path text disk = .ok () after) {other : String}
    (same : after.SamePlace path other) : after.Holds other text := by
  obtain ⟨file, leads, -, -, stands⟩ := exists_place_of_writeText stored
  obtain ⟨place, pathLeads, otherLeads⟩ := same
  obtain rfl := leads.unique ((leads_writeText stored).mp pathLeads)
  exact readText_eq_ok_iff.mpr ⟨rfl, file, otherLeads, by rw [stands, if_pos rfl]⟩

/-- Under a path to another file the same is read as before. -/
theorem holds_of_not_samePlace (stored : writeText path text disk = .ok () after) {other : String}
    (apart : ¬after.SamePlace path other) (words : String) :
    after.Holds other words ↔ disk.Holds other words := by
  obtain ⟨file, leads, -, -, stands⟩ := exists_place_of_writeText stored
  have pathLeads := (leads_writeText stored).mpr leads
  simp only [Holds, readText_eq_ok_iff, true_and, leads_writeText stored]
  constructor
  · rintro ⟨place, otherLeads, found⟩
    have elsewhere : place ≠ file := by
      rintro rfl
      exact apart ⟨place, pathLeads, (leads_writeText stored).mpr otherLeads⟩
    exact ⟨place, otherLeads, by rwa [stands, if_neg elsewhere] at found⟩
  · rintro ⟨place, otherLeads, found⟩
    have elsewhere : place ≠ file := by
      rintro rfl
      exact apart ⟨place, pathLeads, (leads_writeText stored).mpr otherLeads⟩
    exact ⟨place, otherLeads, by rwa [stands, if_neg elsewhere]⟩

end Storing

section Names

/-- A slash ends one part and begins another. -/
theorem partsOf_append_slash (before after : List Char) :
    partsOf (before ++ '/' :: after) = partsOf before ++ partsOf after := by
  induction before with
  | nil => rfl
  | cons c rest inductionHypothesis =>
    by_cases slash : c = '/'
    · subst slash
      rw [List.cons_append, partsOf, partsOf, inductionHypothesis, List.cons_append]
    · rw [List.cons_append, partsOf, partsOf, inductionHypothesis]
      · cases found : partsOf rest with
        | nil => exact absurd found (partsOf_ne_nil rest)
        | cons first others => rfl
      · simpa using slash
      · simpa using slash

/-- A text without slashes is one part. -/
theorem partsOf_of_not_mem {text : List Char} (single : '/' ∉ text) : partsOf text = [text] := by
  induction text with
  | nil => rfl
  | cons c rest inductionHypothesis =>
    obtain ⟨other, later⟩ := not_or.mp (List.mem_cons.not.mp single)
    rw [partsOf, inductionHypothesis later]
    rintro rfl
    exact other rfl

/-- A name inside a directory is the last part of its path. -/
theorem exists_parts_join (directory : String) {name : String} (single : '/' ∉ name.toList) :
    ∃ before, parts (join directory name) = before ++ [name] := by
  have relative : isAbsolute name = false := by
    rw [isAbsolute, beq_eq_false_iff_ne]
    intro first
    exact single (List.mem_of_head? first)
  have last {path : String} (front : List Char)
      (ends : path.toList = front ++ '/' :: name.toList) :
      ∃ before, parts path = before ++ [name] := by
    refine ⟨(partsOf front).map String.ofList, ?_⟩
    simp [parts, ends, partsOf_append_slash, partsOf_of_not_mem single]
  rw [join, relative, if_neg Bool.false_ne_true]
  by_cases empty : directory.isEmpty = true
  · obtain rfl := String.isEmpty_iff.mp empty
    exact ⟨[], by simp [parts, partsOf_of_not_mem single]⟩
  · by_cases slash : (directory.toList.getLast? == some '/') = true
    · obtain ⟨front, split⟩ := List.getLast?_eq_some_iff.mp (beq_iff_eq.mp slash)
      rw [if_pos (Bool.or_eq_true_iff.mpr (.inr slash))]
      exact last front (by simp [split])
    · rw [if_neg (Bool.or_eq_true_iff.not.mpr (not_or.mpr ⟨empty, slash⟩))]
      exact last directory.toList (by simp)

/-- A path to a name inside a directory leads to that name, unless the name only leads about. -/
theorem Leads.join {disk : Disk} {directory name : String} {place : List String}
    (leads : disk.Leads (Files.join directory name) place) (single : '/' ∉ name.toList)
    (proper : name ≠ "" ∧ name ≠ "." ∧ name ≠ "..") : ∃ parent, place = parent ++ [name] := by
  obtain ⟨before, ends⟩ := exists_parts_join directory single
  have led := (leads_iff.mp leads).2
  rw [ends, List.foldlM_append] at led
  obtain ⟨parent, -, led⟩ := bind_eq_ok_iff.mp led
  rw [List.foldlM_cons] at led
  obtain ⟨next, followed, led⟩ := bind_eq_ok_iff.mp led
  obtain rfl := Except.ok.inj led
  obtain ⟨-, last⟩ := follow_eq_ok_iff.mp followed
  rw [lead, if_neg (not_or.mpr ⟨proper.1, proper.2.1⟩), if_neg proper.2.2] at last
  split at last
  · cases last
  · exact ⟨parent, (Option.some.inj last).symm⟩

end Names

/-- What is read under a path is read under every path to the same place. -/
theorem SamePlace.holds {disk : Disk} {path other text : String} (same : disk.SamePlace path other)
    (holds : disk.Holds other text) : disk.Holds path text := by
  obtain ⟨-, place, leads, found⟩ := readText_eq_ok_iff.mp holds
  obtain ⟨file, pathLeads, otherLeads⟩ := same
  obtain rfl := leads.unique otherLeads
  exact readText_eq_ok_iff.mpr ⟨rfl, place, pathLeads, found⟩

/-- Paths to one place hold one text. -/
theorem Holds.unique {disk : Disk} {path other text words : String} (holds : disk.Holds path text)
    (alsoHolds : disk.Holds other words) (same : disk.SamePlace path other) : text = words := by
  obtain ⟨-, place, leads, found⟩ := readText_eq_ok_iff.mp holds
  obtain ⟨-, otherPlace, otherLeads, alsoFound⟩ := readText_eq_ok_iff.mp (same.holds alsoHolds)
  obtain rfl := leads.unique otherLeads
  simpa [found] using alsoFound

/-- Texts are stored under their paths, one after the other. -/
inductive Stores : List (String × String) → Disk → Disk → Prop where
  | nil (disk : Disk) : Stores [] disk disk
  | cons {path text : String} {rest : List (String × String)} {disk middle after : Disk}
      (stored : writeText path text disk = .ok () middle) (later : Stores rest middle after) :
    Stores ((path, text) :: rest) disk after

namespace Stores

variable {files : List (String × String)} {disk after : Disk}

/-- Stored texts lead no path elsewhere. -/
theorem leads (stores : Stores files disk after) {path : String} {place : List String} :
    after.Leads path place ↔ disk.Leads path place := by
  induction stores with
  | nil disk => rfl
  | cons stored _ inductionHypothesis => rw [inductionHypothesis, leads_writeText stored]

/-- Stored texts lead no two paths together that were apart, nor apart that were together. -/
theorem samePlace (stores : Stores files disk after) {path other : String} :
    after.SamePlace path other ↔ disk.SamePlace path other := by
  simp only [SamePlace, stores.leads]

/-- Texts can be stored exactly when every path leads elsewhere than to a directory. -/
theorem exists_iff {files : List (String × String)} {disk : Disk} :
    (∃ after, Stores files disk after) ↔
      ∀ file ∈ files, ∃ place, disk.Leads file.1 place ∧ ¬disk.root.IsDirectory place := by
  induction files generalizing disk with
  | nil => simpa using ⟨disk, .nil disk⟩
  | cons file rest inductionHypothesis =>
    rw [List.forall_mem_cons]
    have later {middle : Disk} (stored : writeText file.1 file.2 disk = .ok () middle) :
        (∃ after, Stores rest middle after) ↔
          ∀ other ∈ rest, ∃ place, disk.Leads other.1 place ∧ ¬disk.root.IsDirectory place := by
      simp only [inductionHypothesis, leads_writeText stored, isDirectory_writeText stored]
    constructor
    · rintro ⟨after, _ | ⟨stored, stores⟩⟩
      obtain ⟨place, leads, free, -⟩ := writeText_eq_ok_iff.mp stored
      exact ⟨⟨place, leads, free⟩, (later stored).mp ⟨after, stores⟩⟩
    · rintro ⟨⟨place, leads, free⟩, others⟩
      obtain ⟨middle, stored⟩ : ∃ middle, writeText file.1 file.2 disk = .ok () middle :=
        ⟨_, writeText_eq_ok_iff.mpr ⟨place, leads, free, rfl⟩⟩
      obtain ⟨after, stores⟩ := (later stored).mpr others
      exact ⟨after, .cons stored stores⟩

/-- What stands in no file that is written stays. -/
theorem holds_iff (stores : Stores files disk after) {path : String}
    (apart : ∀ file ∈ files, ¬after.SamePlace file.1 path) (text : String) :
    after.Holds path text ↔ disk.Holds path text := by
  induction stores with
  | nil disk => rfl
  | cons stored later inductionHypothesis =>
    obtain ⟨first, others⟩ := List.forall_mem_cons.mp apart
    rw [inductionHypothesis others]
    exact holds_of_not_samePlace stored (later.samePlace.not.mp first) text

/-- A stored text is read in the end, if none that is stored later goes to its file. -/
theorem holds_last {before later : List (String × String)} {path text : String}
    (stores : Stores (before ++ (path, text) :: later) disk after)
    (apart : ∀ file ∈ later, ¬after.SamePlace file.1 path) : after.Holds path text := by
  induction before generalizing disk with
  | nil =>
    cases stores with
    | cons stored rest =>
      obtain ⟨place, leads, -⟩ := writeText_eq_ok_iff.mp stored
      have itself := (leads_writeText stored).mpr leads
      exact (rest.holds_iff apart text).mpr (holds_of_samePlace stored ⟨place, itself, itself⟩)
  | cons first others inductionHypothesis =>
    cases stores with
    | cons stored rest => exact inductionHypothesis rest

/-- After some texts that are stored the next one can be stored. -/
theorem exists_writeText {before later : List (String × String)} {path text : String}
    {middle : Disk} (stores : Stores (before ++ (path, text) :: later) disk after)
    (first : Stores before disk middle) :
    ∃ next, writeText path text middle = .ok () next ∧ Stores later next after := by
  induction first with
  | nil disk =>
    cases stores with
    | cons stored rest => exact ⟨_, stored, rest⟩
  | @cons _ _ _ disk next middle stored _ inductionHypothesis =>
    cases stores with
    | @cons _ _ _ _ other _ again rest =>
      obtain rfl : next = other := by simpa [stored] using again
      exact inductionHypothesis rest

/-- All stored texts are read in the end exactly when no two that differ go to one file. -/
theorem forall_holds_iff (stores : Stores files disk after) :
    (∀ file ∈ files, after.Holds file.1 file.2) ↔
      files.Pairwise fun earlier later =>
        after.SamePlace earlier.1 later.1 → earlier.2 = later.2 := by
  constructor
  · intro holds
    exact List.pairwise_of_forall_mem_list fun earlier first later second same =>
      (holds earlier first).unique (holds later second) same
  · intro agree
    induction stores with
    | nil disk => simp
    | @cons path text rest disk middle after stored later inductionHypothesis =>
      obtain ⟨first, others⟩ := List.pairwise_cons.mp agree
      have holds := inductionHypothesis others
      refine List.forall_mem_cons.mpr ⟨?_, holds⟩
      by_cases shared : ∃ file ∈ rest, after.SamePlace path file.1
      · obtain ⟨file, member, same⟩ := shared
        rw [first file member same]
        exact same.holds (holds file member)
      · have apart : ∀ file ∈ rest, ¬after.SamePlace file.1 path :=
          fun file member same => shared ⟨file, member, same.symm⟩
        have whole : Stores ([] ++ (path, text) :: rest) disk after := .cons stored later
        exact whole.holds_last apart

end Stores

end Disk

end EventScript.Files
