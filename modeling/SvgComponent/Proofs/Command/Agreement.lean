/-
This file shows that the command and a host make the same of one file.
-/

import SvgComponent.Proofs.Command.Conversion
import SvgComponent.Proofs.Delivery
import SvgComponent.Proofs.Text.Scan

namespace SvgComponent.Command

open Delivery (Host Report)
open FileTree (IsWellFormed)
open Output (IsFree HasRoom)

theorem joinLines_eq_self {text : List Char} (plain : '\r' ∉ text) : joinLines text = text := by
  fun_induction joinLines text with
  | case1 => rfl
  | case2 rest inductionHypothesis => exact absurd List.mem_cons_self plain
  | case3 c rest separate inductionHypothesis =>
      rw [if_neg (Ne.symm (List.ne_of_not_mem_cons plain)),
        inductionHypothesis (List.not_mem_of_not_mem_cons plain)]

/-- A file without carriage returns is read as it is. -/
theorem readSource_plain {tree : FileTree} {place : Path} {content : ByteArray} {text : String}
    (there : tree.entryAt? place = some (.file content))
    (decoded : String.fromUTF8? content = some text) (plain : '\r' ∉ text.toList) :
    readSource tree place = .ok text := by
  rw [readSource, there]
  simp [decodeText?, decoded, joinLines_eq_self plain]

/-- Arguments without a configuration and without transform flags. The output is replaced. -/
structure Arguments.IsPlain (arguments : Arguments) : Prop where
  config : arguments.config = none
  skipOptimization : arguments.skipOptimization = false
  preserveWhitespace : arguments.preserveWhitespace = false
  force : arguments.force = true

/-- The host of a single file, which has not been answered. -/
def hostOf (parsed : Arguments) (path : Path) : Host :=
  ⟨path.text, .string (parsed.query.getD ""), .accepting, false⟩

section Agreement

variable {tree : FileTree} {working : Path} {arguments : List String} {parsed : Arguments}
  {job : Job}

/-- A plain run resolves the settings of a source from the options of the query alone. -/
theorem Asks.inputs (asks : Asks tree working arguments parsed job) (plain : parsed.IsPlain)
    {source : Path} {text : String} (read : readSource tree source = .ok text) :
    job.inputs tree source =
      .ok (Settings.withOption job.options (.string source.text), text) := by
  have config : job.config = .object [] := by
    rcases asks.config with ⟨-, same⟩ | ⟨argument, file, given, -⟩
    · exact same
    · rw [plain.config] at given
      contradiction
  have keeps : job.skipOptimization = false := asks.skipOptimization.trans plain.skipOptimization
  have trims : job.preserveWhitespace = false :=
    asks.preserveWhitespace.trans plain.preserveWhitespace
  rw [Job.inputs, Job.configuration, config, keeps, trims, read, Settings.withOption]
  cases job.options.valueAt? Settings.optionName <;> rfl

/-- A host transforms the file under the same settings. -/
theorem Asks.load (asks : Asks tree working arguments parsed job) (optimizer : Optimizer)
    (text : String) :
    let settings := Settings.withOption job.options (.string job.path.text)
    let outcome := Transform.run settings optimizer text
    let step := (hostOf parsed job.path).load optimizer text
    step.requests = outcome.requests ∧
      step.reports = [.ofOutcome (outcome.result.mapError .transform)] := by
  intro settings outcome step
  have loaded := (hostOf parsed job.path).load_parsed rfl asks.query optimizer text
  rw [show step = _ from loaded]
  exact ⟨rfl, rfl⟩

/-- The settings of a plain run on a file are those of the host. -/
theorem Asks.transform (asks : Asks tree working arguments parsed job) (plain : parsed.IsPlain)
    {content : ByteArray} {text : String} (there : tree.entryAt? job.path = some (.file content))
    (decoded : String.fromUTF8? content = some text) (joined : '\r' ∉ text.toList)
    (library : Library) :
    let settings := Settings.withOption job.options (.string job.path.text)
    let outcome := Transform.run settings (Optimizer.ofLibrary library) text
    job.generate library tree job.path = outcome.result.mapError .transform ∧
      job.requests library tree job.path = outcome.requests := by
  intro settings outcome
  have transformed : job.transform library tree job.path = .ok outcome := by
    rw [Job.transform, asks.inputs plain (readSource_plain there decoded joined)]
    rfl
  rw [Job.generate, Job.requests, transformed]
  exact ⟨rfl, rfl⟩

/-- A run on one file exits with zero and leaves a module exactly if a host reports that module. It
fails and leaves its output as it was exactly if the host reports a failure. Both ask the same of
the library. -/
theorem command_agrees_with_host (wellFormed : tree.IsWellFormed)
    (asks : Asks tree working arguments parsed job) (plain : parsed.IsPlain)
    {content : ByteArray} {text : String} (there : tree.entryAt? job.path = some (.file content))
    (decoded : String.fromUTF8? content = some text) (joined : '\r' ∉ text.toList)
    (vacant : tree.entryAt? job.output ≠ some .directory)
    (parent : tree.entryAt? job.output.dropLast = some .directory)
    (room : ∀ name ∈ job.output.getLast?,
      name.utf8ByteSize + Output.draftExcess ≤ FileTree.nameLimit)
    (library : Library) :
    let result := run library tree working arguments
    let step := (hostOf parsed job.path).load (Optimizer.ofLibrary library) text
    (∀ source, result.exitCode = 0 ∧
        result.tree.entryAt? job.output = some (.file source.toUTF8) ↔
          step.reports = [.ofSource source]) ∧
      (result.exitCode = 1 ∧ result.tree.entryAt? job.output = tree.entryAt? job.output ↔
        step.reports = [.bare]) ∧
      result.requests = step.requests := by
  intro result step
  have replaces : job.mode = .replace := by rw [asks.mode, plain.force, if_pos rfl]
  have free : IsFree job.mode tree job.output := {
    valid := asks.output_isValid
    inner := asks.output_inner
    room := ⟨fun name member => (wellFormed.isPlain (by rw [parent]; exact nofun) name member).2.2,
      room⟩
    clear := wellFormed.isClear parent
    vacant
    absent := by
      rw [replaces]
      exact nofun }
  have file : tree.isDirectory job.path = false := by simp [FileTree.isDirectory, there]
  obtain ⟨generated, asked⟩ := asks.transform plain there decoded joined library
  obtain ⟨requests, reports⟩ := asks.load (Optimizer.ofLibrary library) text
  simp only [result, step, asks.run library, reports, requests]
  generalize Transform.run (Settings.withOption job.options (.string job.path.text))
    (Optimizer.ofLibrary library) text = outcome at generated asked
  cases found : outcome.result with
  | ok source =>
      rw [found] at generated
      obtain ⟨exitCode, puts, requested⟩ := Job.run_file_generated library file generated free
      have placed : (job.run library tree).plain.tree.entryAt? job.output =
          some (.file source.toUTF8) := puts.placed
      refine ⟨fun other => ⟨?_, ?_⟩, iff_of_false ?_ ?_, requested.trans asked⟩
      · rintro ⟨-, present⟩
        have same : source.toUTF8 = other.toUTF8 := by simpa [placed] using present
        rw [String.toByteArray_inj.mp same]
        rfl
      · intro reported
        have same : source = other := Report.ofSource_injective (List.cons.inj reported).1
        exact ⟨exitCode, same ▸ placed⟩
      · rintro ⟨one, -⟩
        exact absurd (exitCode.symm.trans one) zero_ne_one
      · intro reported
        exact Report.bare_ne_ofSource source (List.cons.inj reported).1.symm
  | error failure =>
      rw [found] at generated
      obtain ⟨exitCode, same, requested⟩ := Job.run_file_failed library file generated
      refine ⟨fun source => iff_of_false ?_ ?_, iff_of_true ⟨exitCode, ?_⟩ rfl,
        requested.trans asked⟩
      · rintro ⟨zero, -⟩
        exact absurd (exitCode.symm.trans zero) one_ne_zero
      · intro reported
        exact Report.bare_ne_ofSource source (List.cons.inj reported).1
      · exact congrArg (FileTree.entryAt? · job.output) same

/-- Markup that does not compile fails in both. -/
theorem command_agrees_with_host_unclosed :
    let tree : FileTree := [(["a.svg"], .file "<svg>".toUTF8)]
    let identity : Library := fun request => .ok request.markup
    let result := run identity tree [] ["--force", "a.svg", "a.js"]
    result.exitCode = 1 ∧ result.tree.entryAt? ["a.js"] = none ∧
      result.requests = [⟨"<svg>", []⟩] := by
  intro tree identity result
  let parsed : Arguments := ⟨none, none, false, false, true, false, false, ["a.svg", "a.js"]⟩
  let job : Job := ⟨["a.svg"], ["a.js"], .object [], [], false, false, .replace⟩
  have asks : Asks tree [] ["--force", "a.svg", "a.js"] parsed job :=
    ⟨by decide, rfl, ⟨"a.svg", "a.js", rfl, by decide, by decide⟩, by decide, .inl ⟨rfl, rfl⟩,
      by decide, rfl, rfl, rfl⟩
  have wellFormed : tree.IsWellFormed := by decide
  have decoded : String.fromUTF8? "<svg>".toUTF8 = some "<svg>" := rfl
  have there : tree.entryAt? job.path = some (.file "<svg>".toUTF8) := by decide
  obtain ⟨-, failing, requests⟩ := command_agrees_with_host wellFormed asks ⟨rfl, rfl, rfl, rfl⟩
    there decoded (by decide) (by decide) (by decide) (by decide) identity
  have reported : ((hostOf parsed job.path).load (Optimizer.ofLibrary identity) "<svg>").reports =
      [.bare] := by decide +kernel
  obtain ⟨exitCode, unchanged⟩ := failing.mpr reported
  exact ⟨exitCode, unchanged.trans (by decide), requests.trans (by decide +kernel)⟩

end Agreement

section Crowded

/-- A text without slashes names an entry of the root. -/
theorem place_single {name : String} (proper : FileTree.IsName name) (single : '/' ∉ name.toList)
    (named : name ≠ "") (other : name ≠ ".") : place [] name = .ok [name] := by
  have names : Path.names name = [name] := by
    rw [Path.names, Text.split_single fun c member => ?_]
    · simp [named, other]
    · rw [decide_eq_false_iff_not]
      rintro rfl
      exact single member
  have joined : Path.join [] name = [name] := by
    rw [Path.join, names]
    split <;> rfl
  rw [place_eq_ok, Path.resolve, joined]
  exact ⟨FileTree.IsPlain.isValid (List.forall_mem_singleton.mpr proper), if_neg proper.1⟩

def crowdedTree : FileTree := [(["a.svg"], .file "<svg/>".toUTF8)]

def crowdedJob (name : String) : Job :=
  ⟨["a.svg"], [name], .object [], [], false, false, .replace⟩

def crowdedArguments (name : String) : Arguments :=
  ⟨none, none, false, false, true, false, false, ["a.svg", name]⟩

theorem asks_crowded {name : String} (output : place [] name = .ok [name]) :
    Asks crowdedTree [] ["--force", "--", "a.svg", name] (crowdedArguments name)
      (crowdedJob name) := by
  have source : place [] "a.svg" = .ok ["a.svg"] := by decide
  have present : crowdedTree.isPresent ["a.svg"] = true := by decide
  have query : Query.parse "" = .ok [] := by decide
  exact ⟨rfl, rfl, ⟨"a.svg", name, rfl, source, output⟩, present, .inl ⟨rfl, rfl⟩, query, rfl, rfl,
    rfl⟩

theorem run_crowded {name : String} (output : place [] name = .ok [name])
    (visible : '\x00' ∉ name.toList)
    (crowded : FileTree.nameLimit < name.utf8ByteSize + Output.draftExcess) {library : Library}
    {content : String}
    (generated : (crowdedJob name).generate library crowdedTree ["a.svg"] = .ok content) :
    let result := run library crowdedTree [] ["--force", "--", "a.svg", name]
    result.exitCode = 1 ∧ result.tree = crowdedTree := by
  have file : crowdedTree.isDirectory ["a.svg"] = false := by decide
  have place : (crowdedJob name).target crowdedTree ["a.svg"] = [name] :=
    Job.target_file file ["a.svg"]
  have made : (crowdedTree.makeDirectories
      ((crowdedJob name).target crowdedTree ["a.svg"]).dropLast).2 = .ok [] := by
    rw [place]
    rfl
  have converted := Job.convert_crowded generated rfl made (by rw [place]; rfl) visible crowded
  have sole : sources crowdedTree (crowdedJob name).path = [["a.svg"]] := sources_file file
  obtain ⟨exitCode, same, -⟩ :=
    Job.run_sole_failed library sole (congrArg Conversion.result converted)
  rw [converted, place] at same
  rw [(asks_crowded output).run library]
  exact ⟨exitCode, same⟩

/-- A host reports the module of a file for which the name of the output is too long. -/
theorem command_differs_from_host :
    let identity : Library := fun request => .ok request.markup
    let name := String.ofList (List.replicate 242 'x')
    let result := run identity crowdedTree [] ["--force", "--", "a.svg", name]
    let step := (hostOf (crowdedArguments name) (crowdedJob name).path).load
      (Optimizer.ofLibrary identity) "<svg/>"
    crowdedTree.IsWellFormed ∧
      Asks crowdedTree [] ["--force", "--", "a.svg", name] (crowdedArguments name)
        (crowdedJob name) ∧
      (crowdedArguments name).IsPlain ∧
      crowdedTree.entryAt? (crowdedJob name).path = some (.file "<svg/>".toUTF8) ∧
      crowdedTree.entryAt? (crowdedJob name).output = none ∧
      crowdedTree.entryAt? (crowdedJob name).output.dropLast = some .directory ∧
      (result.exitCode = 1 ∧ result.tree = crowdedTree) ∧
      ∃ source, step.reports = [.ofSource source] := by
  intro identity name result step
  have visible (c : Char) (other : c ≠ 'x') : c ∉ name.toList := by
    rw [String.toList_ofList, List.mem_replicate]
    exact fun ⟨_, same⟩ => other same
  have proper : FileTree.IsName name :=
    ⟨by decide +kernel, visible '\x00' (by decide), by decide +kernel⟩
  have output := place_single proper (visible '/' (by decide)) (by decide +kernel)
    (by decide +kernel)
  have crowded : FileTree.nameLimit < name.utf8ByteSize + Output.draftExcess := by decide +kernel
  have absent : crowdedTree.entryAt? [name] = none := by decide +kernel
  have isOk : ((crowdedJob name).generate identity crowdedTree ["a.svg"]).isOk := by
    decide +kernel
  -- Nothing else depends on the letters of the name.
  clear_value name
  have asks := asks_crowded output
  have plain : (crowdedArguments name).IsPlain := ⟨rfl, rfl, rfl, rfl⟩
  obtain ⟨content, generated⟩ := exists_of_isOk isOk
  have there : crowdedTree.entryAt? ["a.svg"] = some (.file "<svg/>".toUTF8) := by decide
  have decoded : String.fromUTF8? "<svg/>".toUTF8 = some "<svg/>" := rfl
  refine ⟨by decide, asks, plain, there, absent, rfl,
    run_crowded output proper.2.1 crowded generated, content, ?_⟩
  obtain ⟨-, reports⟩ := asks.load (Optimizer.ofLibrary identity) "<svg/>"
  obtain ⟨same, -⟩ := asks.transform plain there decoded (by decide) identity
  have found := mapError_eq_ok.mp (same.symm.trans generated)
  rw [found] at reports
  exact reports

end Crowded

end SvgComponent.Command
