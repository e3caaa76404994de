/-
This file shows what the conversion of one source does, and which names a target has.
-/

import SvgComponent.Proofs.Command.Invocation
import SvgComponent.Proofs.Command.Source
import SvgComponent.Proofs.Output.Placement
import SvgComponent.Proofs.Transform

namespace SvgComponent.Command

open FileTree (IsPlain IsWellFormed)

section Names

theorem enter_mem {path : Path} {name other : String} (member : other ∈ path.enter name) :
    other ∈ path ∨ other = name ∧ name ≠ ".." := by
  rw [Path.enter] at member
  split at member
  · exact .inl (List.dropLast_subset path member)
  · case _ inner =>
      rcases List.mem_append.mp member with known | last
      · exact .inl known
      · exact .inr ⟨List.mem_singleton.mp last, inner⟩

/-- The names of a resolved path are among those that were joined, without double dots. -/
theorem resolve_mem {base : Path} {text name : String} (member : name ∈ Path.resolve base text) :
    name ∈ Path.join base text ∧ name ≠ ".." := by
  have entered (names path : Path) (member : name ∈ names.foldl Path.enter path) :
      name ∈ path ∨ name ∈ names ∧ name ≠ ".." := by
    induction names generalizing path with
    | nil => exact .inl member
    | cons first names inductionHypothesis =>
        rcases inductionHypothesis (path.enter first) member with early | ⟨later, inner⟩
        · rcases enter_mem early with known | ⟨rfl, inner⟩
          · exact .inl known
          · exact .inr ⟨List.mem_cons_self, inner⟩
        · exact .inr ⟨List.mem_cons_of_mem _ later, inner⟩
  rcases entered _ [] member with none | found
  · contradiction
  · exact found

theorem resolve_inner (base : Path) (text : String) : ".." ∉ Path.resolve base text :=
  fun member => (resolve_mem member).2 rfl

theorem isValid_of_place {working path : Path} {argument : String}
    (named : place working argument = .ok path) : path.isValid = true := by
  obtain ⟨valid, rfl⟩ := place_eq_ok.mp named
  rw [Path.isValid, List.all_eq_true] at valid ⊢
  exact fun name member => valid name (resolve_mem member).1

theorem inner_of_place {working path : Path} {argument : String}
    (named : place working argument = .ok path) : ".." ∉ path := by
  obtain ⟨-, rfl⟩ := place_eq_ok.mp named
  exact resolve_inner working argument

theorem Asks.output_isValid {tree : FileTree} {working : Path} {arguments : List String}
    {parsed : Arguments} {job : Job} (asks : Asks tree working arguments parsed job) :
    job.output.isValid = true := by
  obtain ⟨-, output, -, -, named⟩ := asks.places
  exact isValid_of_place named

theorem Asks.output_inner {tree : FileTree} {working : Path} {arguments : List String}
    {parsed : Arguments} {job : Job} (asks : Asks tree working arguments parsed job) :
    ".." ∉ job.output := by
  obtain ⟨-, output, -, -, named⟩ := asks.places
  exact inner_of_place named

/-- A stem is the front of its name. -/
theorem stem_isPrefix (name : String) : (Path.stem name).toList <+: name.toList := by
  rw [Path.stem]
  split
  · exact List.prefix_rfl
  · rw [String.toList_ofList, List.drop_reverse, List.reverse_reverse]
    exact List.take_prefix _ _

/-- The names of a target are those of the output and of the source, up to a suffix. -/
theorem target_mem {tree : FileTree} {path output source : Path} {name : String}
    (member : name ∈ target tree path output source) :
    name ∈ output ∨ name ∈ source ∨ ∃ last, (last ∈ output ∨ last ∈ source) ∧
      name = targetName last := by
  rw [target] at member
  split at member
  · have either (last : String) (there : last ∈ output ++ source.drop path.length) :
        last ∈ output ∨ last ∈ source :=
      (List.mem_append.mp there).imp_right List.mem_of_mem_drop
    rw [Path.withSuffix] at member
    split at member
    · exact (either name member).imp_right .inl
    · case _ last found =>
        rcases List.mem_append.mp member with before | final
        · exact (either name (List.dropLast_subset _ before)).imp_right .inl
        · refine .inr (.inr ⟨last, either last (List.mem_of_getLast? found), ?_⟩)
          exact List.mem_singleton.mp final
  · exact .inl member

theorem targetName_inner (name : String) : targetName name ≠ ".." := by
  intro same
  have last := congrArg (fun text => text.toList.getLast?) same
  simp [targetName] at last

theorem target_inner {path output source : Path} (tree : FileTree) (outputInner : ".." ∉ output)
    (sourceInner : ".." ∉ source) : ".." ∉ target tree path output source := by
  intro member
  rcases target_mem member with known | known | ⟨last, -, same⟩
  · exact outputInner known
  · exact sourceInner known
  · exact targetName_inner last same.symm

theorem target_isValid {path output source : Path} (tree : FileTree)
    (outputValid : output.isValid = true) (sourceValid : source.isValid = true) :
    (target tree path output source).isValid = true := by
  rw [Path.isValid, List.all_eq_true] at outputValid sourceValid ⊢
  intro name member
  rcases target_mem member with known | known | ⟨last, either, rfl⟩
  · exact outputValid name known
  · exact sourceValid name known
  · have valid : '\x00' ∉ last.toList := by
      simpa using either.elim (outputValid last) (sourceValid last)
    have stem : '\x00' ∉ (Path.stem last).toList := fun there =>
      valid ((stem_isPrefix last).subset there)
    simpa [targetName] using stem

/-- A source is named like an entry of the tree, or is the path of the run. -/
theorem isPlain_of_mem_sources {tree : FileTree} (wellFormed : tree.IsWellFormed)
    {path source : Path} (present : tree.isPresent path = true)
    (member : source ∈ sources tree path) :
    IsPlain source := by
  cases directory : tree.isDirectory path with
  | false =>
      rw [sources_file directory, List.mem_singleton] at member
      subst member
      exact wellFormed.isPlain ((FileTree.isPresent_iff tree source).mp present)
  | true => exact wellFormed.named source ((mem_sources directory source).mp member).1

end Names

namespace Job

variable (job : Job) (library : Library) (tree : FileTree) (source : Path)

def target : Path := Command.target tree job.path job.output source

/-- The transform of a source with its own settings. -/
def transform : Except Fault Transform.Outcome :=
  (job.inputs tree source).map fun (settings, markup) =>
    Transform.run settings (Optimizer.ofLibrary library) markup

/-- The module of a source, or the fault that keeps it from having one. -/
def generate : Except Fault String :=
  (job.transform library tree source).bind fun outcome => outcome.result.mapError .transform

def requests : List Request :=
  match job.transform library tree source with
  | .error _ => []
  | .ok outcome => outcome.requests

/-- The module of a source is written to its target. -/
theorem convert_eq : job.convert library tree source =
    match job.generate library tree source with
    | .error fault => ⟨tree, job.requests library tree source, .error fault⟩
    | .ok content =>
        let written := Output.write job.mode (some Output.structural) tree (job.target tree source)
          content
        ⟨written.1, job.requests library tree source, written.2.mapError .output⟩ := by
  rw [convert, generate, requests, transform]
  cases job.inputs tree source with
  | error fault => rfl
  | ok inputs =>
      obtain ⟨settings, markup⟩ := inputs
      simp only [Except.map, Except.bind]
      cases (Transform.run settings (Optimizer.ofLibrary library) markup).result with
      | error failure => rfl
      | ok content =>
          simp only [Except.mapError, target]
          generalize Output.write job.mode (some Output.structural) tree
            (Command.target tree job.path job.output source) content = written
          obtain ⟨after, result⟩ := written
          cases result <;> rfl

variable {job library tree source}

/-- A source with a module is not converted if there is no room for the draft. -/
theorem convert_crowded {content : String}
    (generated : job.generate library tree source = .ok content) (replaces : job.mode = .replace)
    {directory : Path} {name : String}
    (made : (tree.makeDirectories (job.target tree source).dropLast).2 = .ok directory)
    (last : (job.target tree source).getLast? = some name) (visible : '\x00' ∉ name.toList)
    (crowded : FileTree.nameLimit < name.utf8ByteSize + Output.draftExcess) :
    job.convert library tree source =
      ⟨(tree.makeDirectories (job.target tree source).dropLast).1, job.requests library tree source,
        .error (.output (.obstacle .nameTooLong))⟩ := by
  rw [convert_eq, generated, replaces]
  simp only [Output.write_crowded made last visible crowded]
  rfl

theorem generate_isModule {content : String}
    (generated : job.generate library tree source = .ok content) :
    Transform.IsModule content := by
  obtain ⟨outcome, transformed, result⟩ := bind_eq_ok.mp generated
  rw [mapError_eq_ok] at result
  rw [transform] at transformed
  cases given : job.inputs tree source with
  | error fault =>
      rw [given] at transformed
      contradiction
  | ok inputs =>
      obtain ⟨settings, markup⟩ := inputs
      rw [given] at transformed
      obtain rfl := Except.ok.inj transformed
      rcases Transform.run_ofLibrary_cases settings library markup with
        ⟨message, failed⟩ | ⟨error, failed⟩ | ⟨source, found, isModule⟩
      · rw [failed] at result
        contradiction
      · rw [failed] at result
        contradiction
      · rw [found] at result
        exact Except.ok.inj result ▸ isModule

/-- A module is accepted when it is written. -/
theorem structural_of_isModule {content : String} (isModule : Transform.IsModule content) :
    ((some Output.structural).getD fun _ => .ok ()) content = .ok () := by
  obtain ⟨-, -, -, -, -, checked⟩ := isModule
  simp only [Option.getD_some, Output.structural, checked]

/-- A transform depends on the tree only through the entry of its source. -/
theorem transform_congr {other : FileTree} (same : other.entryAt? source = tree.entryAt? source) :
    job.transform library other source = job.transform library tree source := by
  rw [transform, transform, inputs, inputs, readSource, readSource, same]

theorem generate_congr {other : FileTree} (same : other.entryAt? source = tree.entryAt? source) :
    job.generate library other source = job.generate library tree source := by
  rw [generate, generate, transform_congr same]

theorem requests_congr {other : FileTree} (same : other.entryAt? source = tree.entryAt? source) :
    job.requests library other source = job.requests library tree source := by
  rw [requests, requests, transform_congr same]

section Steps

variable (job : Job) (library : Library) {result : Result} {source : Path} {others : List Path}

/-- A source that is converted is printed with its target. -/
theorem runFrom_converted
    (converted : (job.convert library result.tree source).result = .ok ()) :
    let conversion := job.convert library result.tree source
    job.runFrom library result (source :: others) =
      job.runFrom library { result with
        tree := conversion.tree
        requests := result.requests ++ conversion.requests
        printed := result.printed ++
          [source.text ++ " -> " ++ (job.target conversion.tree source).text] } others := by
  simp only [runFrom, converted, target]

/-- A source whose failure concerns nothing else is complained about. -/
theorem runFrom_reported {fault : Fault} {name message : String}
    (failed : (job.convert library result.tree source).result = .error fault)
    (reported : fault.report? = some (name, message)) :
    let conversion := job.convert library result.tree source
    job.runFrom library result (source :: others) =
      job.runFrom library { result with
        tree := conversion.tree
        requests := result.requests ++ conversion.requests
        complaints := result.complaints ++
          [source.text ++ ": " ++ name ++ ": " ++ message] } others := by
  simp only [runFrom, failed, reported]

/-- Any other fault ends the run. -/
theorem runFrom_stopped {fault : Fault}
    (failed : (job.convert library result.tree source).result = .error fault)
    (unreported : fault.report? = none) :
    let conversion := job.convert library result.tree source
    job.runFrom library result (source :: others) = { result with
      tree := conversion.tree
      requests := result.requests ++ conversion.requests
      exitCode := 1
      fault := some fault } := by
  simp only [runFrom, failed, unreported]

end Steps

section Summary

/-- The last complaint counts the failures, if there are any. -/
def summary (failed all : Nat) : List String :=
  if failed = 0 then [] else [toString failed ++ " of " ++ toString all ++ " file(s) failed"]

variable (job : Job) (library : Library) (tree : FileTree)

/-- The result before the failures are counted. -/
def runAll : Result :=
  job.runFrom library ⟨tree, [], [], [], 0, none⟩ (sources tree job.path)

theorem run_tree : (job.run library tree).tree = (job.runAll library tree).tree := by
  rw [run]
  split <;> rfl

/-- A run that no fault has ended fails exactly if there are complaints. -/
theorem run_finished (finished : (job.runAll library tree).fault = none)
    (unset : (job.runAll library tree).exitCode = 0) :
    let result := job.runAll library tree
    let failed := result.complaints.length
    job.run library tree = { result with
      complaints := result.complaints ++ summary failed (sources tree job.path).length
      exitCode := if failed = 0 then 0 else 1 } := by
  rw [run, ← runAll]
  generalize job.runAll library tree = result at finished unset ⊢
  obtain ⟨tree, printed, complaints, requests, exitCode, fault⟩ := result
  subst finished unset
  cases complaints <;> simp [summary]

end Summary

section Sole

variable {job : Job} {tree : FileTree} {source : Path} (library : Library)
  (sole : sources tree job.path = [source])

include sole

/-- A run with one source is its conversion, which ends the run if its failure is not reported. -/
theorem run_sole_failed {fault : Fault}
    (failed : (job.convert library tree source).result = .error fault) :
    let conversion := job.convert library tree source
    (job.run library tree).exitCode = 1 ∧ (job.run library tree).tree = conversion.tree ∧
      (job.run library tree).requests = conversion.requests ∧
      (fault.report? = none → (job.run library tree).fault = some fault) := by
  have start : job.runAll library tree =
      job.runFrom library ⟨tree, [], [], [], 0, none⟩ [source] := by
    rw [runAll, sole]
  cases reported : fault.report? with
  | none =>
      rw [job.runFrom_stopped library failed reported, List.nil_append] at start
      rw [run, ← runAll, start]
      exact ⟨rfl, rfl, rfl, fun _ => rfl⟩
  | some report =>
      rw [job.runFrom_reported library failed reported, List.nil_append, runFrom] at start
      rw [job.run_finished library tree (by rw [start]) (by rw [start]), start]
      exact ⟨rfl, rfl, rfl, nofun⟩

theorem run_sole_converted (converted : (job.convert library tree source).result = .ok ()) :
    let conversion := job.convert library tree source
    (job.run library tree).exitCode = 0 ∧ (job.run library tree).tree = conversion.tree ∧
      (job.run library tree).requests = conversion.requests := by
  have start : job.runAll library tree =
      job.runFrom library ⟨tree, [], [], [], 0, none⟩ [source] := by
    rw [runAll, sole]
  rw [job.runFrom_converted library converted, List.nil_append, runFrom] at start
  rw [job.run_finished library tree (by rw [start]) (by rw [start]), start]
  exact ⟨rfl, rfl, rfl⟩

end Sole

section File

variable {job : Job} {tree : FileTree} (library : Library)
  (file : tree.isDirectory job.path = false)

include file

theorem target_file (source : Path) : job.target tree source = job.output := by
  rw [target, Command.target, file]
  rfl

/-- A file without a module leaves everything as it was. -/
theorem run_file_failed {fault : Fault}
    (failed : job.generate library tree job.path = .error fault) :
    (job.run library tree).exitCode = 1 ∧ (job.run library tree).tree = tree ∧
      (job.run library tree).requests = job.requests library tree job.path := by
  have converted : job.convert library tree job.path =
      ⟨tree, job.requests library tree job.path, .error fault⟩ := by
    rw [convert_eq, failed]
  obtain ⟨exitCode, same, requests, -⟩ :=
    run_sole_failed library (sources_file file) (congrArg Conversion.result converted)
  rw [converted] at same requests
  exact ⟨exitCode, same, requests⟩

/-- The module of a file takes the place of its output. -/
theorem run_file_generated {content : String}
    (generated : job.generate library tree job.path = .ok content)
    (free : Output.IsFree job.mode tree job.output) :
    (job.run library tree).exitCode = 0 ∧
      Output.Puts tree (job.run library tree).tree job.output content.toUTF8 ∧
      (job.run library tree).requests = job.requests library tree job.path := by
  obtain ⟨returned, puts⟩ := free.write (structural_of_isModule (generate_isModule generated))
  have converted : job.convert library tree job.path =
      ⟨(Output.write job.mode (some Output.structural) tree job.output content).1,
        job.requests library tree job.path, .ok ()⟩ := by
    rw [convert_eq, generated, target_file file]
    simp only [returned]
    rfl
  obtain ⟨exitCode, same, requests⟩ :=
    run_sole_converted library (sources_file file) (congrArg Conversion.result converted)
  rw [converted] at same requests
  rw [same]
  exact ⟨exitCode, puts, requests⟩

end File

end Job
end SvgComponent.Command
