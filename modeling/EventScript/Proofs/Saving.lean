import EventScript.Proofs.Programs

/-!
# What is saved by a run that ends well

A run that ends well has written a file for every script. Names of scripts differ as texts, but what
is kept on the disk depends on where their paths lead. Of the scripts whose paths lead to one file
the last is kept, so every script is kept exactly when no two of them share a file and differ in
their texts. Names without slashes never share a file. The laws say nothing of files that were there
before, nor of links: a disk is a tree, where a path leads to one place. Printing never fails here,
and arguments are text.
-/
namespace EventScript

open Files (Disk)

/-- A script is compiled under its own name. -/
theorem Script.name_of_compile {options : Options} {setting : Setting} {script : Script}
    {output : Compiled} (compiled : script.compile options setting = .ok output) :
    output.name = script.name := by
  rw [Script.compile] at compiled
  split at compiled
  · cases compiled
  · obtain ⟨text, -, rfl⟩ := map_eq_ok_iff.mp compiled
    rfl

/-- Scripts that all compile are compiled under their own names. -/
theorem names_of_compile {options : Options} {setting : Setting} {scripts : List Script}
    {outputs : List Compiled}
    (compiled : scripts.map (Script.compile options setting) = outputs.map .ok) :
    outputs.map Compiled.name = scripts.map Script.name := by
  induction scripts generalizing outputs with
  | nil =>
    obtain rfl := List.map_eq_nil_iff.mp compiled.symm
    rfl
  | cons script rest inductionHypothesis =>
    obtain ⟨output, others, rfl, first, later⟩ := List.map_eq_cons_iff.mp compiled.symm
    rw [List.map_cons, List.map_cons, Script.name_of_compile first.symm,
      inductionHypothesis later.symm]

namespace CommandLine

variable {format : Format} {request : Request} {session : Session}

/-- Compiled scripts have distinct names. -/
theorem Prepared.nodup_names {disk : Disk} (prepared : Prepared format disk request) :
    (prepared.scripts.map Compiled.name).Nodup := by
  rw [names_of_compile prepared.compiled]
  exact prepared.read.namesDistinct

/-- The path of a script whose name has no slashes leads to a file of that name. -/
theorem exists_place_of_leads {disk : Disk} {script : Compiled} {place : List String}
    (leads : disk.Leads (outputPath request script) place) (single : '/' ∉ script.name.toList) :
    ∃ directory, place = directory ++ [script.name ++ ".s"] := by
  have ends (text : String) (other : text.toList.getLast? ≠ some 's') :
      script.name ++ ".s" ≠ text := by
    rintro rfl
    simp at other
  exact leads.join (by simpa using single)
    ⟨ends "" (by decide), ends "." (by decide), ends ".." (by decide)⟩

/-- Scripts whose names have no slashes share a file only if they have one name. -/
theorem name_eq_of_samePlace {disk : Disk} {script other : Compiled}
    (single : '/' ∉ script.name.toList) (otherSingle : '/' ∉ other.name.toList)
    (same : disk.SamePlace (outputPath request script) (outputPath request other)) :
    script.name = other.name := by
  obtain ⟨place, leads, otherLeads⟩ := same
  obtain ⟨directory, rfl⟩ := exists_place_of_leads leads single
  obtain ⟨otherDirectory, place⟩ := exists_place_of_leads otherLeads otherSingle
  have named := (List.append_inj' place rfl).2
  simpa using named

/-- What is said of all paths and texts is said of all scripts. -/
theorem forall_mem_outputs {scripts : List Compiled} {holds : String → String → Prop} :
    (∀ file ∈ outputs request scripts, holds file.1 file.2) ↔
      ∀ script ∈ scripts, holds (outputPath request script) script.text :=
  List.forall_mem_map

/-- What a success leaves under the paths of its scripts. -/
theorem holds_of_stores {disk after : Disk} {scripts : List Compiled}
    (stores : Disk.Stores (outputs request scripts) disk after) :
    (∀ before script later, scripts = before ++ script :: later →
      (∀ other ∈ later,
        ¬after.SamePlace (outputPath request other) (outputPath request script)) →
      after.Holds (outputPath request script) script.text) ∧
    ((∀ script ∈ scripts, after.Holds (outputPath request script) script.text) ↔
      scripts.Pairwise fun earlier later =>
        after.SamePlace (outputPath request earlier) (outputPath request later) →
          earlier.text = later.text) := by
  constructor
  · rintro before script later rfl apart
    rw [outputs, List.map_append, List.map_cons] at stores
    exact stores.holds_last (by simpa using apart)
  · rw [← forall_mem_outputs, stores.forall_holds_iff, outputs, List.pairwise_map]

/-- Texts of distinct names without slashes are all kept. -/
theorem holds_of_single {disk : Disk} {scripts : List Compiled}
    (distinct : (scripts.map Compiled.name).Nodup)
    (single : ∀ script ∈ scripts, '/' ∉ script.name.toList) :
    scripts.Pairwise fun earlier later =>
      disk.SamePlace (outputPath request earlier) (outputPath request later) →
        earlier.text = later.text := by
  refine (List.pairwise_map.mp distinct).imp_of_mem ?_
  intro earlier later first second apart same
  exact absurd (name_eq_of_samePlace (single earlier first) (single later second) same) apart

/-- A run that ends well without a call for help has compiled the document of the accepted arguments
and written a file for each of its scripts. A text is read back under the path of its script if no
later script has a path to the same file, so all texts are read back exactly when no two scripts
with different texts have paths to one file, as when no name has a slash in it. This holds for every
format of configurations and documents. -/
theorem scripts_saved_iff {arguments : List String} {program : String} {after : Session}
    (silent : ¬AsksForHelp arguments)
    (ended : runWith Session.host format program arguments session = (0, after)) :
    ∃ request, Accepts arguments request ∧ ∃ prepared : Prepared format session.disk request,
      prepared.document.compile prepared.options = .ok prepared.scripts ∧
      (∀ before script later, prepared.scripts = before ++ script :: later →
        (∀ other ∈ later,
          ¬after.disk.SamePlace (outputPath request other) (outputPath request script)) →
        after.disk.Holds (outputPath request script) script.text) ∧
      ((∀ script ∈ prepared.scripts,
          after.disk.Holds (outputPath request script) script.text) ↔
        prepared.scripts.Pairwise fun earlier later =>
          after.disk.SamePlace (outputPath request earlier) (outputPath request later) →
            earlier.text = later.text) ∧
      ((∀ script ∈ prepared.scripts, '/' ∉ script.name.toList) →
        ∀ script ∈ prepared.scripts,
          after.disk.Holds (outputPath request script) script.text) := by
  obtain ⟨request, accepts, prepared, made, -, stores⟩ := succeeds_of_run program silent ended
  obtain ⟨last, all⟩ := holds_of_stores stores
  refine ⟨request, accepts, prepared, prepared.compile_eq_ok, last, all, fun single => ?_⟩
  exact all.mpr (holds_of_single prepared.nodup_names single)

/-- The text of a script without events. -/
def quietText (name : String) : String := joinLines (({} : Options).preamble false name false ++ [])

/-- A document of scripts without events. -/
def quietDocument (names : List String) : Document :=
  { setting := { scene := { id := "" } }, scripts := names.map fun name => { name := name } }

/-- Scripts without events that are the whole document on a disk are prepared. -/
def quietPrepared (names : List String) (text : String)
    (read : Format.toml.readDocument text = .ok (quietDocument names)) :
    Prepared .toml (soleSession text).disk { input := "d.toml" } where
  options := {}
  document := quietDocument names
  scripts := names.map fun name => { name := name, text := quietText name }
  configured := rfl
  read := ⟨text, rfl, read⟩
  compiled := by
    rw [quietDocument, List.map_map, List.map_map]
    rfl

/-- A run with scripts without events ends well where their files can be stored, and stores them. -/
theorem exists_quiet_run {names : List String} {text : String} {files : List (String × String)}
    (read : Format.toml.readDocument text = .ok (quietDocument names))
    (named : outputs { input := "d.toml" } (quietPrepared names text read).scripts = files)
    (leads : ∀ file ∈ files, ∃ place, (soleSession text).disk.Leads file.1 place ∧
      ¬(soleSession text).disk.root.IsDirectory place) :
    ∃ after, run Session.host "gbvm-scriptc" ["d.toml"] (soleSession text) = (0, after) ∧
      Disk.Stores files (soleSession text).disk after.disk := by
  subst named
  obtain ⟨final, stores⟩ := Disk.Stores.exists_iff.mpr leads
  have zero := (run_eq_zero_iff "gbvm-scriptc").mpr (.inr ⟨final, _, sole_accepts,
    quietPrepared names text read, soleSession text, rfl, stores⟩)
  obtain ⟨request, accepts, prepared, made, done, written⟩ :=
    succeeds_of_run "gbvm-scriptc" sole_accepts.not_asksForHelp (Prod.ext zero rfl)
  obtain rfl := sole_accepts.unique accepts
  obtain rfl : soleSession text = made := congrArg Prod.snd done
  rw [prepared.unique (quietPrepared names text read)] at written
  exact ⟨_, Prod.ext zero rfl, written⟩

/-- Two scripts whose paths lead to different files. -/
def apartText : String := "scene=['']\nscripts=[['A'],['B']]"

/-- Two scripts whose names differ but whose paths lead to one file. -/
def overlapText : String := "scene=['']\nscripts=[['A'],['./A']]"

/-- Scripts with different files are both kept. -/
theorem apart_saved : ∃ after,
    run Session.host "gbvm-scriptc" ["d.toml"] (soleSession apartText) = (0, after) ∧
      ¬AsksForHelp ["d.toml"] ∧ after.disk.Holds "./A.s" (quietText "A") ∧
        after.disk.Holds "./B.s" (quietText "B") := by
  have read : Format.toml.readDocument apartText = .ok (quietDocument ["A", "B"]) := by cbv
  have named : outputs { input := "d.toml" } (quietPrepared ["A", "B"] apartText read).scripts =
      [("./A.s", quietText "A"), ("./B.s", quietText "B")] := by
    have path : Files.join "." "A.s" = "./A.s" := by decide
    have otherPath : Files.join "." "B.s" = "./B.s" := by decide
    simp [outputs, outputPath, quietPrepared, path, otherPath]
  obtain ⟨after, ended, -⟩ := exists_quiet_run read named (List.forall_mem_cons.mpr
    ⟨⟨["A.s"], rfl, by rintro ⟨⟩⟩, List.forall_mem_singleton.mpr ⟨["B.s"], rfl, by rintro ⟨⟩⟩⟩)
  obtain ⟨request, accepts, prepared, -, -, -, saved⟩ :=
    scripts_saved_iff sole_accepts.not_asksForHelp ended
  obtain rfl := sole_accepts.unique accepts
  rw [prepared.unique (quietPrepared _ _ read)] at saved
  have all := forall_mem_outputs.mpr (saved (by simp [quietPrepared]))
  rw [named] at all
  exact ⟨after, ended, sole_accepts.not_asksForHelp, by simpa using all⟩

/-- Of scripts with one file the first is not kept, although the run ends well. -/
theorem overlap_overwritten : ∃ after,
    run Session.host "gbvm-scriptc" ["d.toml"] (soleSession overlapText) = (0, after) ∧
      ¬AsksForHelp ["d.toml"] ∧ ∃ request, Accepts ["d.toml"] request ∧
        ∃ prepared : Prepared .toml (soleSession overlapText).disk request,
          ∃ script ∈ prepared.scripts,
            ¬after.disk.Holds (outputPath request script) script.text := by
  have read : Format.toml.readDocument overlapText = .ok (quietDocument ["A", "./A"]) := by cbv
  have named : outputs { input := "d.toml" } (quietPrepared ["A", "./A"] overlapText read).scripts =
      [("./A.s", quietText "A"), ("././A.s", quietText "./A")] := by
    have path : Files.join "." "A.s" = "./A.s" := by decide
    have otherPath : Files.join "." "./A.s" = "././A.s" := by decide
    simp [outputs, outputPath, quietPrepared, path, otherPath]
  obtain ⟨after, ended, stores⟩ := exists_quiet_run read named (List.forall_mem_cons.mpr
    ⟨⟨["A.s"], rfl, by rintro ⟨⟩⟩, List.forall_mem_singleton.mpr ⟨["A.s"], rfl, by rintro ⟨⟩⟩⟩)
  have same : after.disk.SamePlace "./A.s" "././A.s" := by
    rw [stores.samePlace]
    exact ⟨["A.s"], rfl, rfl⟩
  have differ : quietText "A" ≠ quietText "./A" := by decide
  have lost : ¬∀ file ∈ outputs { input := "d.toml" } (quietPrepared _ _ read).scripts,
      after.disk.Holds file.1 file.2 := by
    rw [named, stores.forall_holds_iff, List.pairwise_pair]
    exact fun agree => differ (agree same)
  rw [forall_mem_outputs] at lost
  push Not at lost
  exact ⟨after, ended, sole_accepts.not_asksForHelp, _, sole_accepts, quietPrepared _ _ read, lost⟩

end CommandLine

end EventScript
