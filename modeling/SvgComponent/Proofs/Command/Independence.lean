/-
This file shows that a run converts every source as if it were alone.
-/

import SvgComponent.Proofs.Command.Batch
import SvgComponent.Proofs.Configuration

namespace SvgComponent.Command

open FileTree (IsWellFormed)
open Output (HasRoom IsFree Puts)

/-- There is a file with a text. -/
def IsText (tree : FileTree) (place : Path) : Prop :=
  ∃ content text, tree.entryAt? place = some (.file content) ∧ String.fromUTF8? content = some text

instance (tree : FileTree) (place : Path) : Decidable (IsText tree place) :=
  decidable_of_iff ((match tree.entryAt? place with
      | some (.file content) => (String.fromUTF8? content).isSome
      | _ => false) = true) <| by
    rw [IsText]
    rcases tree.entryAt? place with _ | _ | content <;> simp [Option.isSome_iff_exists]

namespace IsText

variable {tree : FileTree} {place : Path}

theorem isDirectory (isText : IsText tree place) : tree.isDirectory place = false := by
  obtain ⟨content, -, found, -⟩ := isText
  simp [FileTree.isDirectory, found]

theorem isPresent (isText : IsText tree place) : tree.isPresent place = true := by
  obtain ⟨content, -, found, -⟩ := isText
  simp [FileTree.isPresent, found]

theorem readSource (isText : IsText tree place) :
    ∃ markup, Command.readSource tree place = .ok markup := by
  obtain ⟨content, text, found, decoded⟩ := isText
  exact ⟨String.ofList (joinLines text.toList), by
    simp [Command.readSource, found, decodeText?, decoded]⟩

end IsText

namespace Job

/-- No file is on the way to a target, nothing that must stay is in its place, and no target lies at
or below another. -/
structure IsUnobstructed (job : Job) (tree : FileTree) : Prop where
  clear : ∀ source ∈ sources tree job.path, tree.IsClear [] (job.target tree source).dropLast
  vacant : ∀ source ∈ sources tree job.path,
    tree.entryAt? (job.target tree source) ≠ some .directory
  absent : job.mode = .refuse → ∀ source ∈ sources tree job.path,
    tree.entryAt? (job.target tree source) = none
  apart : ∀ first ∈ sources tree job.path, ∀ second ∈ sources tree job.path,
    job.target tree first <+: job.target tree second → first = second

section Outcome

variable (job : Job) (library : Library) (tree : FileTree)

/-- The sources without a module. -/
def failed : List Path :=
  (sources tree job.path).filter fun source => !(job.generate library tree source).isOk

/-- Every source has counted for itself in a run. -/
structure Separates (result : Result) : Prop where
  fault : result.fault = none
  exitCode : result.exitCode = if (job.failed library tree).length = 0 then 0 else 1
  placed : ∀ source ∈ sources tree job.path, ∀ content,
    job.generate library tree source = .ok content →
      result.tree.entryAt? (job.target tree source) = some (.file content.toUTF8)
  kept : ∀ source ∈ sources tree job.path, ∀ fault,
    job.generate library tree source = .error fault →
      result.tree.entryAt? (job.target tree source) = tree.entryAt? (job.target tree source)
  spared : ∀ place, ¬ job.IsWritten library tree (sources tree job.path) place →
    result.tree.entryAt? place = tree.entryAt? place ∨
      tree.entryAt? place = none ∧ result.tree.entryAt? place = some .directory ∧
        job.IsPassed library tree (sources tree job.path) place
  sorted : (sources tree job.path).Pairwise (· < ·)
  printed : result.printed =
    ((sources tree job.path).filterMap (job.report? library tree)).map Text.Terminal.plain
  complained : ((sources tree job.path).filterMap (job.complaint? library tree)).length =
    (job.failed library tree).length
  complaints : result.complaints =
    ((sources tree job.path).filterMap (job.complaint? library tree) ++
      summary (job.failed library tree).length (sources tree job.path).length).map
        Text.Terminal.plain
  requests : result.requests = (sources tree job.path).flatMap (job.requests library tree)

end Outcome

variable {job : Job} {library : Library} {tree : FileTree}

/-- Every source without a module is complained about once. -/
theorem length_complaints {all : List Path}
    (reported : ∀ source ∈ all, ∀ fault,
      job.generate library tree source = .error fault → fault.report? ≠ none) :
    (all.filterMap (job.complaint? library tree)).length =
      (all.filter fun source => !(job.generate library tree source).isOk).length := by
  induction all with
  | nil => rfl
  | cons source others inductionHypothesis =>
      obtain ⟨here, further⟩ := List.forall_mem_cons.mp reported
      have later := inductionHypothesis further
      cases outcome : job.generate library tree source with
      | ok content => simpa [complaint?, outcome, Except.isOk, Except.toBool] using later
      | error fault =>
          obtain ⟨report, found⟩ := Option.ne_none_iff_exists'.mp (here fault outcome)
          simpa [complaint?, outcome, found, Except.isOk, Except.toBool] using later

theorem run_separates (distinct : (Mapping.keys tree).Nodup) (ready : job.IsReady tree)
    (reported : ∀ source ∈ sources tree job.path, ∀ fault,
      job.generate library tree source = .error fault → fault.report? ≠ none) :
    job.Separates library tree (job.run library tree).plain := by
  have sorted := pairwise_sources distinct job.path
  have once : (sources tree job.path).Nodup := sorted.imp fun before => before.ne
  obtain ⟨holds, printed, complaints, requests, exitCode, fault⟩ :=
    runFrom_holds ready reported (List.nil_append _).symm once ⟨tree, [], [], [], 0, none⟩
      (holds_nil job library tree)
  rw [← runAll] at holds printed complaints requests exitCode fault
  rw [List.nil_append] at printed complaints requests
  have complained : ((sources tree job.path).filterMap (job.complaint? library tree)).length =
      (job.failed library tree).length := length_complaints reported
  have kept : ∀ source ∈ sources tree job.path, ∀ fault,
      job.generate library tree source = .error fault →
        (job.runAll library tree).tree.entryAt? (job.target tree source) =
          tree.entryAt? (job.target tree source) := by
    intro source member fault failed
    refine holds.unchanged ready (fun _ => id) member ?_
    rintro ⟨-, content, generated⟩
    rw [failed] at generated
    contradiction
  rw [job.run_finished library tree fault exitCode, complaints, complained]
  exact ⟨fault, rfl, holds.placed, kept, holds.spared, sorted,
    congrArg (List.map Text.Terminal.plain) printed, complained, rfl, requests⟩

/-- A configuration object without reserved names gives every text its settings. -/
theorem inputs_of_unreserved {members : List (String × Value)} (same : job.config = .object members)
    (free : ∀ member ∈ members, member.1 ∉ Configuration.reserved) {source : Path}
    (isText : IsText tree source) :
    ∃ settings markup, job.inputs tree source = .ok (settings, markup) := by
  obtain ⟨markup, read⟩ := isText.readSource
  obtain ⟨file, known, sound⟩ := Configuration.ofValue_isSound free
  have configured : ∃ configuration, job.configuration source = .ok configuration ∧
      configuration.IsSound := by
    have placed := sound.assign (show Settings.pathKey ≠ _ by decide) (.string source.text)
    rw [configuration, same, known]
    refine ⟨_, rfl, ?_⟩
    apply Configuration.IsSound.assignIf _ (by decide)
    apply Configuration.IsSound.assignIf _ (by decide)
    cases job.options.valueAt? Settings.optionName with
    | none => exact placed
    | some optimization => exact placed.assign (by decide) optimization
  obtain ⟨configuration, configured, settled⟩ := configured
  obtain ⟨settings, resolved⟩ := (Configuration.settings_isOk_iff configuration).mpr settled
  refine ⟨settings, markup, ?_⟩
  rw [inputs, configured, read]
  simp only [Except.mapError, bind, Except.bind, resolved]
  rfl

/-- With readable settings and text, only a numeral with too many digits keeps a failure from being
reported. -/
theorem report?_ne_none {members : List (String × Value)} (same : job.config = .object members)
    (free : ∀ member ∈ members, member.1 ∉ Configuration.reserved) {source : Path}
    (isText : IsText tree source) {fault : Fault}
    (failed : job.generate library tree source = .error fault)
    (other : fault ≠ .transform (.markup .oversizedNumeral)) : fault.report? ≠ none := by
  obtain ⟨settings, markup, given⟩ := inputs_of_unreserved same free isText
  simp only [generate, transform, given, Except.map, Except.bind] at failed
  rcases Transform.run_ofLibrary_cases settings library markup with
    ⟨message, rejected⟩ | ⟨error, refused⟩ | ⟨content, found, -⟩
  · rw [rejected] at failed
    obtain rfl := Except.error.inj failed
    simp [Fault.report?]
  · rw [refused] at failed
    obtain rfl := Except.error.inj failed
    cases error <;> simp_all [Fault.report?]
  · rw [found] at failed
    contradiction

variable {working : Path} {arguments : List String} {parsed : Arguments}

theorem IsUnobstructed.isReady (unobstructed : job.IsUnobstructed tree)
    (room : ∀ source ∈ sources tree job.path, HasRoom (job.target tree source))
    (wellFormed : tree.IsWellFormed) (asks : Asks tree working arguments parsed job) :
    job.IsReady tree where
  present := asks.present
  free := by
    intro source member
    have plain := isPlain_of_mem_sources wellFormed asks.present member
    exact {
      valid := target_isValid tree asks.output_isValid plain.isValid
      inner := target_inner tree asks.output_inner plain.inner
      room := room source member
      clear := unobstructed.clear source member
      vacant := unobstructed.vacant source member
      absent := fun refuses => unobstructed.absent refuses source member }
  apart := unobstructed.apart

end Job

/-- The same run with another path and output. -/
theorem Asks.single {tree : FileTree} {working : Path} {arguments : List String}
    {parsed : Arguments} {job : Job} (asks : Asks tree working arguments parsed job)
    {source target : Path} (present : tree.isPresent source = true) {single : List String}
    {path output : String}
    (read : Arguments.read single = .ok { parsed with positional := [path, output] })
    (sourcePlace : place working path = .ok source)
    (targetPlace : place working output = .ok target) :
    Asks tree working single { parsed with positional := [path, output] }
      { job with path := source, output := target } where
  read := read
  help := asks.help
  places := ⟨path, output, rfl, sourcePlace, targetPlace⟩
  present := present
  config := asks.config
  query := asks.query
  skipOptimization := asks.skipOptimization
  preserveWhitespace := asks.preserveWhitespace
  mode := asks.mode

/-- A run on texts whose targets are unobstructed. The configuration is an object without reserved
names. -/
structure IsBatch (tree : FileTree) (working : Path) (arguments : List String)
    (parsed : Arguments) (job : Job) : Prop where
  wellFormed : tree.IsWellFormed
  asks : Asks tree working arguments parsed job
  object : ∃ members, job.config = .object members ∧
    ∀ member ∈ members, member.1 ∉ Configuration.reserved
  texts : ∀ source ∈ sources tree job.path, IsText tree source
  unobstructed : job.IsUnobstructed tree

/-- If there is room for all drafts, every source of a batch is converted or complained about
without regard to the others, and its target is what a run on that source alone leaves there. -/
theorem sources_independent {tree : FileTree} {working : Path} {arguments : List String}
    {parsed : Arguments} {job : Job} (batch : IsBatch tree working arguments parsed job)
    (room : ∀ source ∈ sources tree job.path, HasRoom (job.target tree source)) (library : Library)
    (unreached : ∀ source ∈ sources tree job.path,
      job.generate library tree source ≠ .error (.transform (.markup .oversizedNumeral))) :
    let result := run library tree working arguments
    job.Separates library tree result ∧
      ∀ source ∈ sources tree job.path, ∀ single path output,
        Arguments.read single = .ok { parsed with positional := [path, output] } →
        place working path = .ok source → place working output = .ok (job.target tree source) →
          let alone := run library tree working single
          alone.tree.entryAt? (job.target tree source) =
              result.tree.entryAt? (job.target tree source) ∧
            (alone.exitCode = 0 ↔ ∃ content, job.generate library tree source = .ok content) := by
  obtain ⟨wellFormed, asks, ⟨members, object, free⟩, texts, unobstructed⟩ := batch
  have reported : ∀ source ∈ sources tree job.path, ∀ fault,
      job.generate library tree source = .error fault → fault.report? ≠ none :=
    fun source member fault failed =>
      Job.report?_ne_none object free (texts source member) failed
        fun same => unreached source member (same ▸ failed)
  have ready := unobstructed.isReady room wellFormed asks
  have separates := Job.run_separates wellFormed.distinct ready reported
  rw [asks.run library]
  refine ⟨separates, fun source member single path output read sourcePlace targetPlace => ?_⟩
  have isText := texts source member
  have asksAlone := asks.single isText.isPresent read sourcePlace targetPlace
  let own : Job := { job with path := source, output := job.target tree source }
  have free : Output.IsFree own.mode tree own.output := ready.free source member
  rw [asksAlone.run library]
  cases outcome : job.generate library tree source with
  | ok content =>
      have generated : own.generate library tree own.path = .ok content := outcome
      obtain ⟨succeeded, puts, -⟩ :=
        Job.run_file_generated library isText.isDirectory generated free
      have here := separates.placed source member content outcome
      exact ⟨puts.placed.trans here.symm, iff_of_true succeeded ⟨content, rfl⟩⟩
  | error fault =>
      have failed : own.generate library tree own.path = .error fault := outcome
      obtain ⟨unsuccessful, same, -⟩ := Job.run_file_failed library isText.isDirectory failed
      have here := separates.kept source member fault outcome
      have there := congrArg (FileTree.entryAt? · (job.target tree source)) same
      refine ⟨there.trans here.symm, iff_of_false (fun zero => ?_) nofun⟩
      exact absurd (unsuccessful.symm.trans zero) one_ne_zero

/-- One source is converted and the other complained about. -/
theorem sources_independent_pair :
    let tree : FileTree := [(["in"], .directory), (["in", "a.svg"], .file "<svg/>".toUTF8),
      (["in", "b.svg"], .file "<svg>".toUTF8)]
    let identity : Library := fun request => .ok request.markup
    let job : Job := ⟨["in"], ["out"], .object [], [], true, false, .refuse⟩
    let result := run identity tree [] ["--no-svgo", "in", "out"]
    let alone := run identity tree [] ["--no-svgo", "in/a.svg", "out/a.js"]
    job.Separates identity tree result ∧
      result.printed = ["/in/a.svg -> /out/a.js"] ∧
      result.complaints = ["/in/b.svg: CompilationError: Tag <svg> has no matching end tag",
        "1 of 2 file(s) failed"] ∧
      alone.tree.entryAt? ["out", "a.js"] = result.tree.entryAt? ["out", "a.js"] := by
  intro tree identity job result alone
  let parsed : Arguments := ⟨none, none, true, false, false, false, false, ["in", "out"]⟩
  have wellFormed : tree.IsWellFormed := by decide
  have asks : Asks tree [] ["--no-svgo", "in", "out"] parsed job :=
    ⟨by decide, rfl, ⟨"in", "out", rfl, by decide, by decide⟩, by decide, .inl ⟨rfl, rfl⟩,
      by decide, rfl, rfl, rfl⟩
  have directory : tree.isDirectory job.path = true := by decide
  have listed : sources tree job.path = [["in", "a.svg"], ["in", "b.svg"]] := by
    rw [sources, if_pos directory]
    exact (List.mergeSort_of_pairwise (by decide +kernel)).trans (by decide +kernel)
  have unobstructed : job.IsUnobstructed tree := by
    constructor <;> rw [listed] <;> decide
  have room : ∀ source ∈ sources tree job.path, HasRoom (job.target tree source) := by
    rw [listed]
    decide
  have texts : ∀ source ∈ sources tree job.path, IsText tree source := by
    rw [listed]
    decide +kernel
  have unreached : ∀ source ∈ sources tree job.path,
      job.generate identity tree source ≠ .error (.transform (.markup .oversizedNumeral)) := by
    rw [listed]
    decide +kernel
  obtain ⟨separates, own⟩ :=
    sources_independent ⟨wellFormed, asks, ⟨[], rfl, List.forall_mem_nil _⟩, texts, unobstructed⟩
      room identity unreached
  have printed := separates.printed
  rw [listed] at printed
  have complaints := separates.complaints
  rw [Job.failed, listed] at complaints
  refine ⟨separates, printed.trans (by decide +kernel), complaints.trans (by decide +kernel), ?_⟩
  have place : job.target tree ["in", "a.svg"] = ["out", "a.js"] := by decide
  rw [← place]
  have among : ["in", "a.svg"] ∈ sources tree job.path := by
    rw [listed]
    exact List.mem_cons_self
  exact (own ["in", "a.svg"] among ["--no-svgo", "in/a.svg", "out/a.js"] "in/a.svg" "out/a.js"
    (by decide +kernel) (by decide) (by decide)).1

section Solitary

/-- A directory with one source. -/
def solitary (name : String) : FileTree :=
  [(["in"], .directory), (["in", name], .file "<svg/>".toUTF8)]

def solitaryJob : Job := ⟨["in"], ["out"], .object [], [], true, false, .replace⟩

theorem solitary_isDirectory (name : String) : (solitary name).isDirectory ["in"] = true := by
  simp [solitary, FileTree.isDirectory, FileTree.entryAt?, Mapping.valueAt?]

theorem solitary_entryAt? (name : String) :
    (solitary name).entryAt? ["in", name] = some (.file "<svg/>".toUTF8) := by
  simp [solitary, FileTree.entryAt?, Mapping.valueAt?]

theorem sources_solitary {name : String} (named : isSource name = true) :
    sources (solitary name) solitaryJob.path = [["in", name]] := by
  rw [sources, solitaryJob, if_pos (solitary_isDirectory name)]
  simp [solitary, named]

theorem target_solitary (name : String) :
    solitaryJob.target (solitary name) ["in", name] = ["out", targetName name] :=
  target_below (solitary_isDirectory name) ["out"] [] name

theorem isBatch_solitary {name : String} (named : isSource name = true)
    (proper : FileTree.IsName name) :
    IsBatch (solitary name) [] ["--force", "--no-svgo", "in", "out"]
      ⟨none, none, true, false, true, false, false, ["in", "out"]⟩ solitaryJob where
  wellFormed := by
    refine ⟨?_, ?_, ?_⟩
    · simp [solitary, Mapping.keys]
    · simp [solitary, Mapping.keys, FileTree.entryAt?, Mapping.valueAt?]
    · have parent : FileTree.IsName "in" := by decide
      simp [solitary, Mapping.keys, FileTree.IsPlain, parent, proper]
  asks := by
    have present : (solitary name).isPresent solitaryJob.path = true := by
      simp [solitaryJob, solitary, FileTree.isPresent, FileTree.entryAt?, Mapping.valueAt?]
    exact ⟨by decide, rfl, ⟨"in", "out", rfl, by decide, by decide⟩, present, .inl ⟨rfl, rfl⟩,
      by decide, rfl, rfl, rfl⟩
  object := ⟨[], rfl, List.forall_mem_nil _⟩
  texts := by
    rw [sources_solitary named, List.forall_mem_singleton]
    exact ⟨_, _, solitary_entryAt? name, rfl⟩
  unobstructed := by
    constructor <;> rw [sources_solitary named] <;>
      simp only [List.forall_mem_singleton, target_solitary]
    · intro front within content
      rcases List.prefix_cons_iff.mp within with rfl | ⟨rest, rfl, short⟩
      · simp [FileTree.entryAt?]
      · rw [List.prefix_nil.mp short]
        simp [solitary, FileTree.entryAt?, Mapping.valueAt?]
    · simp [solitary, FileTree.entryAt?, Mapping.valueAt?]
    · simp [solitary, FileTree.entryAt?, Mapping.valueAt?]
    · exact fun _ => trivial

theorem generate_solitary (library : Library) (name : String) : ∃ content,
    solitaryJob.generate library (solitary name) ["in", name] = .ok content := by
  have decoded : decodeText? "<svg/>".toUTF8 = some "<svg/>" := by decide +kernel
  have compiled : Markup.compile false "<svg/>" = .ok ⟨Markup.Head.ofAttributes "svg" [], []⟩ := rfl
  obtain ⟨content, found, -⟩ := Component.check_source compiled
  let settings : Settings := ⟨.bool false, .string (Path.text ["in", name]), .bool false⟩
  have transformed : Transform.compile settings "<svg/>" = .ok content := by
    simp only [Transform.compile, settings, Value.isTruthy, compiled, found]
  have given : solitaryJob.inputs (solitary name) ["in", name] =
      .ok (settings, "<svg/>") := by
    rw [Job.inputs, readSource, solitary_entryAt?]
    simp only [decoded]
    rfl
  refine ⟨content, ?_⟩
  rw [Job.generate, Job.transform, given]
  exact congrArg (Except.mapError Fault.transform) transformed

theorem run_solitary_crowded (library : Library) {name : String} (named : isSource name = true)
    (proper : FileTree.IsName name) (visible : '\x00' ∉ (targetName name).toList)
    (crowded : FileTree.nameLimit < (targetName name).utf8ByteSize + Output.draftExcess) :
    (run library (solitary name) [] ["--force", "--no-svgo", "in", "out"]).fault =
      some (.output (.obstacle .nameTooLong)) := by
  obtain ⟨content, generated⟩ := generate_solitary library name
  have made : ((solitary name).makeDirectories
      (solitaryJob.target (solitary name) ["in", name]).dropLast).2 = .ok ["out"] := by
    have clear := (isBatch_solitary named proper).unobstructed.clear ["in", name]
      (by rw [sources_solitary named]; exact List.mem_singleton_self _)
    rw [target_solitary] at clear ⊢
    have plain : FileTree.IsPlain ["out"] := by decide
    exact FileTree.makeDirectories_clear plain clear
  have converted := Job.convert_crowded generated rfl made (by rw [target_solitary]; rfl) visible
    crowded
  obtain ⟨-, -, -, stopped⟩ := Job.run_sole_failed library (sources_solitary named)
    (congrArg Conversion.result converted)
  rw [(isBatch_solitary named proper).asks.run library]
  exact stopped rfl

/-- The name of a draft can be too long, which ends the run, and control sequences in names are not
printed. -/
theorem sources_dependent :
    let identity : Library := fun request => .ok request.markup
    let arguments := ["--force", "--no-svgo", "in", "out"]
    let parsed : Arguments := ⟨none, none, true, false, true, false, false, ["in", "out"]⟩
    let long := String.ofList (List.replicate 240 'x') ++ ".svg"
    let marked := "a\x1b[1mb.svg"
    (IsBatch (solitary long) [] arguments parsed solitaryJob ∧
      (∃ content, solitaryJob.generate identity (solitary long) ["in", long] = .ok content) ∧
      (run identity (solitary long) [] arguments).fault =
        some (.output (.obstacle .nameTooLong))) ∧
    IsBatch (solitary marked) [] arguments parsed solitaryJob ∧
      (∃ content, solitaryJob.generate identity (solitary marked) ["in", marked] = .ok content) ∧
      (run identity (solitary marked) [] arguments).printed = ["/in/ab.svg -> /out/ab.js"] := by
  intro identity arguments parsed long marked
  constructor
  · have named : String.ofList (List.replicate 240 'x') ≠ "" := by decide +kernel
    have visible (suffix : String) (proper : '\x00' ∉ suffix.toList) :
        '\x00' ∉ (String.ofList (List.replicate 240 'x') ++ suffix).toList := by
      rw [String.toList_append, String.toList_ofList, List.mem_append, List.mem_replicate]
      simpa using proper
    have proper : FileTree.IsName long :=
      ⟨by decide +kernel, visible ".svg" (by decide), by decide +kernel⟩
    have source : isSource long = true := isSource_append _
    refine ⟨isBatch_solitary source proper, generate_solitary identity long, ?_⟩
    refine run_solitary_crowded identity source proper ?_ ?_ <;> rw [targetName_append named]
    · exact visible ".js" (by decide)
    · decide +kernel
  · have named : isSource marked = true := by decide
    have proper : FileTree.IsName marked := by decide
    have batch := isBatch_solitary named proper
    obtain ⟨content, generated⟩ := generate_solitary identity marked
    have sole := sources_solitary named
    refine ⟨batch, ⟨content, generated⟩, ?_⟩
    have ready : solitaryJob.IsReady (solitary marked) := by
      refine batch.unobstructed.isReady ?_ batch.wellFormed batch.asks
      rw [sole, List.forall_mem_singleton, target_solitary]
      decide
    have reported : ∀ source ∈ sources (solitary marked) solitaryJob.path, ∀ fault,
        solitaryJob.generate identity (solitary marked) source = .error fault →
          fault.report? ≠ none := by
      rw [sole, List.forall_mem_singleton, generated]
      exact nofun
    have printed := (Job.run_separates batch.wellFormed.distinct ready reported).printed
    rw [sole] at printed
    rw [batch.asks.run identity, printed]
    simp only [List.filterMap_cons, Job.report?, generated, target_solitary]
    decide +kernel

end Solitary

end SvgComponent.Command
