/-
This file shows that runs without force keep every entry and add nothing but modules.
-/

import SvgComponent.Proofs.Command.Conversion

namespace SvgComponent.Command

open Output (Adds)

/-- The bytes of a module. -/
def IsModuleFile (content : ByteArray) : Prop :=
  ∃ source, Transform.IsModule source ∧ content = source.toUTF8

namespace Job

variable {job : Job} {tree : FileTree}

/-- One conversion only adds a module, and the tree stays well formed. -/
theorem convert_adds (library : Library) (wellFormed : tree.IsWellFormed)
    (refuses : job.mode = .refuse) (outputInner : ".." ∉ job.output) {source : Path}
    (sourceInner : ".." ∉ source) :
    Adds tree (job.convert library tree source).tree IsModuleFile ∧
      (job.convert library tree source).tree.IsWellFormed := by
  rw [convert_eq]
  cases generated : job.generate library tree source with
  | error fault => exact ⟨.refl tree _, wellFormed⟩
  | ok content =>
      have inner : ".." ∉ job.target tree source := target_inner tree outputInner sourceInner
      refine ⟨?_, Output.write_isWellFormed _ _ _ _ wellFormed⟩
      simp only [refuses]
      exact (Output.write_adds _ _ content wellFormed inner).mono fun _ same =>
        ⟨content, generate_isModule generated, same⟩

/-- The run goes on from the tree that the first conversion leaves, or ends with it. -/
theorem runFrom_cons (job : Job) (library : Library) (result : Result) (source : Path)
    (others : List Path) :
    ∃ next : Result, next.tree = (job.convert library result.tree source).tree ∧
      (job.runFrom library result (source :: others) = next ∨
        job.runFrom library result (source :: others) = job.runFrom library next others) := by
  cases converted : (job.convert library result.tree source).result with
  | ok => exact ⟨_, rfl, .inr (job.runFrom_converted library converted)⟩
  | error fault =>
      cases reported : fault.report? with
      | none => exact ⟨_, rfl, .inl (job.runFrom_stopped library converted reported)⟩
      | some report => exact ⟨_, rfl, .inr (job.runFrom_reported library converted reported)⟩

theorem runFrom_adds (library : Library) (refuses : job.mode = .refuse)
    (outputInner : ".." ∉ job.output) {result : Result} (wellFormed : result.tree.IsWellFormed)
    {all : List Path} (inner : ∀ source ∈ all, ".." ∉ source) :
    Adds result.tree (job.runFrom library result all).tree IsModuleFile ∧
      (job.runFrom library result all).tree.IsWellFormed := by
  induction all generalizing result with
  | nil => exact ⟨.refl _ _, wellFormed⟩
  | cons source others inductionHypothesis =>
      obtain ⟨sourceInner, othersInner⟩ := List.forall_mem_cons.mp inner
      obtain ⟨added, kept⟩ := convert_adds library wellFormed refuses outputInner sourceInner
      obtain ⟨next, same, last | further⟩ := job.runFrom_cons library result source others
      · rw [last, same]
        exact ⟨added, kept⟩
      · rw [← same] at added kept
        obtain ⟨later, final⟩ := inductionHypothesis kept othersInner
        rw [further]
        exact ⟨added.trans later, final⟩

end Job

/-- A run of the command with a library, in a working directory. -/
structure Invocation where
  library : Library
  working : Path
  arguments : List String

namespace Invocation

def perform (invocation : Invocation) (tree : FileTree) : Result :=
  run invocation.library tree invocation.working invocation.arguments

/-- No argument asks for existing files to be replaced. -/
def IsUnforced (invocation : Invocation) : Prop :=
  ∀ parsed, Arguments.read invocation.arguments = .ok parsed → parsed.force = false

instance : DecidablePred IsUnforced := fun invocation =>
  decidable_of_iff ((Arguments.read invocation.arguments).toOption.all (!·.force) = true) <| by
    rw [IsUnforced]
    cases Arguments.read invocation.arguments <;> simp [Except.toOption]

theorem perform_adds {invocation : Invocation} (unforced : invocation.IsUnforced) {tree : FileTree}
    (wellFormed : tree.IsWellFormed) :
    Adds tree (invocation.perform tree).tree IsModuleFile ∧
      (invocation.perform tree).tree.IsWellFormed := by
  rw [perform]
  rcases run_cases invocation.library tree invocation.working invocation.arguments with
    same | ⟨parsed, job, asks⟩
  · rw [same]
    exact ⟨.refl tree _, wellFormed⟩
  · have refuses : job.mode = .refuse := by
      rw [asks.mode, unforced parsed asks.read, if_neg Bool.false_ne_true]
    have inner (source : Path) (member : source ∈ sources tree job.path) : ".." ∉ source :=
      (isPlain_of_mem_sources wellFormed asks.present member).inner
    rw [asks.run, Result.plain, Job.run_tree]
    exact Job.runFrom_adds _ refuses asks.output_inner wellFormed inner

end Invocation

/-- What a run has done to a tree. -/
structure Step where
  invocation : Invocation
  before : FileTree
  result : Result

/-- The steps of runs that follow each other. -/
def history : FileTree → List Invocation → List Step
  | _, [] => []
  | tree, invocation :: later =>
      let result := invocation.perform tree
      ⟨invocation, tree, result⟩ :: history result.tree later

/-- Runs without force keep every entry as it is, whether they succeed or not, and every file that
they add is a module. This holds from each run to the next and from the first tree on. -/
theorem unforced_runs_keep {tree : FileTree} (wellFormed : tree.IsWellFormed)
    {invocations : List Invocation} (unforced : ∀ invocation ∈ invocations, invocation.IsUnforced) :
    ∀ step ∈ history tree invocations,
      Adds step.before step.result.tree IsModuleFile ∧ Adds tree step.result.tree IsModuleFile := by
  induction invocations generalizing tree with
  | nil =>
      intro step member
      contradiction
  | cons invocation later inductionHypothesis =>
      obtain ⟨first, others⟩ := List.forall_mem_cons.mp unforced
      obtain ⟨added, kept⟩ := invocation.perform_adds first wellFormed
      intro step member
      rcases List.mem_cons.mp member with rfl | further
      · exact ⟨added, added⟩
      · obtain ⟨here, whole⟩ := inductionHypothesis kept others step further
        exact ⟨here, added.trans whole⟩

/-- A file that stands in the place of a target stays through a refused run, a usage error and a run
that makes a directory for another module. -/
theorem unforced_runs_keep_target :
    let tree : FileTree := [(["a.svg"], .file "<svg/>".toUTF8), (["a.js"], .file "old".toUTF8)]
    let identity : Library := fun request => .ok request.markup
    let invocations : List Invocation := [⟨identity, [], ["a.svg", "a.js"]⟩,
      ⟨identity, [], ["--bogus"]⟩, ⟨identity, [], ["a.svg", "b/a.js"]⟩]
    tree.IsWellFormed ∧ (∀ invocation ∈ invocations, invocation.IsUnforced) ∧
      ∀ step ∈ history tree invocations,
        step.result.tree.entryAt? ["a.js"] = some (.file "old".toUTF8) := by
  intro tree identity invocations
  have wellFormed : tree.IsWellFormed := by decide
  have unforced : ∀ invocation ∈ invocations, invocation.IsUnforced := by decide +kernel
  refine ⟨wellFormed, unforced, fun step member => ?_⟩
  exact (unforced_runs_keep wellFormed unforced step member).2.keeps (by decide)

end SvgComponent.Command
