/-
This file shows that the sources of a run do not depend on each other.
-/

import SvgComponent.Proofs.Command.Conversion

namespace SvgComponent.Command

open Output (IsFree Puts)

namespace Job

/-- All targets of a job can be written side by side. -/
structure IsReady (job : Job) (tree : FileTree) : Prop where
  present : tree.isPresent job.path = true
  free : ∀ source ∈ sources tree job.path, IsFree job.mode tree (job.target tree source)
  apart : ∀ first ∈ sources tree job.path, ∀ second ∈ sources tree job.path,
    job.target tree first <+: job.target tree second → first = second

section Sources

variable {job : Job} {tree : FileTree}

theorem present_of_mem_sources (present : tree.isPresent job.path = true) {source : Path}
    (member : source ∈ sources tree job.path) : tree.entryAt? source ≠ none := by
  cases directory : tree.isDirectory job.path with
  | false =>
      rw [sources_file directory, List.mem_singleton] at member
      rw [member]
      exact (FileTree.isPresent_iff tree job.path).mp present
  | true =>
      rw [FileTree.entryAt?_ne_none_iff]
      exact .inr ((mem_sources directory source).mp member).1

/-- The target of one source is never another source. -/
theorem eq_of_target_eq {first second : Path} (firstSource : first ∈ sources tree job.path)
    (secondSource : second ∈ sources tree job.path) (same : job.target tree first = second) :
    first = second := by
  cases directory : tree.isDirectory job.path with
  | false =>
      rw [sources_file directory, List.mem_singleton] at firstSource secondSource
      rw [firstSource, secondSource]
  | true =>
      obtain ⟨-, middle, name, rfl, -⟩ := (mem_sources directory first).mp firstSource
      obtain ⟨-, middle', name', rfl, named⟩ := (mem_sources directory second).mp secondSource
      rw [target, target_below directory] at same
      have last := congrArg List.getLast? same
      rw [List.getLast?_concat, List.getLast?_concat, Option.some.injEq] at last
      rw [← last, isSource_targetName] at named
      contradiction

end Sources

section Invariant

variable (job : Job) (library : Library) (tree : FileTree) (done : List Path)

/-- A source is converted if its turn has come and it has a module. -/
def IsConverted (source : Path) : Prop :=
  source ∈ done ∧ ∃ content, job.generate library tree source = .ok content

/-- A place is written if it is the target of a converted source. -/
def IsWritten (place : Path) : Prop :=
  ∃ source, job.IsConverted library tree done source ∧ job.target tree source = place

/-- A place is passed if it is on the way to the target of a converted source. -/
def IsPassed (place : Path) : Prop :=
  ∃ source, job.IsConverted library tree done source ∧
    place <+: (job.target tree source).dropLast

variable {job library tree done} in
theorem IsConverted.concat {source : Path} (converted : job.IsConverted library tree done source)
    (next : Path) : job.IsConverted library tree (done ++ [next]) source :=
  ⟨List.mem_append_left _ converted.1, converted.2⟩

variable {job library tree done} in
theorem IsWritten.concat {place : Path} (written : job.IsWritten library tree done place)
    (next : Path) : job.IsWritten library tree (done ++ [next]) place := by
  obtain ⟨source, converted, same⟩ := written
  exact ⟨source, converted.concat next, same⟩

/-- The modules of some sources are in their places, and nothing else has changed but for new
directories on the way to them. -/
structure Holds (current : FileTree) : Prop where
  placed : ∀ source ∈ done, ∀ content, job.generate library tree source = .ok content →
    current.entryAt? (job.target tree source) = some (.file content.toUTF8)
  spared : ∀ place, ¬ job.IsWritten library tree done place →
    current.entryAt? place = tree.entryAt? place ∨
      tree.entryAt? place = none ∧ current.entryAt? place = some .directory ∧
        job.IsPassed library tree done place

/-- No module is written on the way to the target of another source. -/
theorem IsReady.notWritten {job : Job} {tree : FileTree} (ready : job.IsReady tree)
    {library : Library} {done : List Path}
    (within : ∀ source ∈ done, source ∈ sources tree job.path) {source place : Path}
    (member : source ∈ sources tree job.path) (idle : ¬ job.IsConverted library tree done source)
    (way : place <+: job.target tree source) : ¬ job.IsWritten library tree done place := by
  rintro ⟨other, converted, rfl⟩
  exact idle (ready.apart other (within other converted.1) source member way ▸ converted)

theorem holds_nil : job.Holds library tree [] tree where
  placed := nofun
  spared := fun _ _ => .inl rfl

end Invariant

namespace Holds

variable {job : Job} {library : Library} {tree current : FileTree} {done : List Path}

/-- An entry stays unless it is replaced. -/
theorem same (holds : job.Holds library tree done current) {place : Path}
    (present : tree.entryAt? place ≠ none) (unwritten : ¬ job.IsWritten library tree done place) :
    current.entryAt? place = tree.entryAt? place := by
  rcases holds.spared place unwritten with same | ⟨absent, -, -⟩
  · exact same
  · exact absurd absent present

variable (holds : job.Holds library tree done current) (ready : job.IsReady tree)
  (within : ∀ source ∈ done, source ∈ sources tree job.path)

include holds ready within

/-- No directory becomes a file, and no file a directory. -/
theorem isDirectory {place : Path} (present : tree.entryAt? place ≠ none) :
    current.isDirectory place = tree.isDirectory place := by
  by_cases written : job.IsWritten library tree done place
  · obtain ⟨source, ⟨member, content, generated⟩, rfl⟩ := written
    have vacant := (ready.free source (within source member)).vacant
    simp [FileTree.isDirectory, holds.placed source member content generated, vacant]
  · rw [FileTree.isDirectory, FileTree.isDirectory, holds.same present written]

theorem target (source : Path) : job.target current source = job.target tree source := by
  have present := (FileTree.isPresent_iff tree job.path).mp ready.present
  rw [Job.target, Job.target, Command.target, Command.target,
    holds.isDirectory ready within present]

variable {source : Path} (member : source ∈ sources tree job.path)

include member

/-- The target of a source that is not converted is as it was. -/
theorem unchanged (idle : ¬ job.IsConverted library tree done source) :
    current.entryAt? (job.target tree source) = tree.entryAt? (job.target tree source) := by
  have unwritten := ready.notWritten within member idle List.prefix_rfl
  rcases holds.spared _ unwritten with same | ⟨-, -, other, converted, way⟩
  · exact same
  · have above := way.trans (List.dropLast_prefix _)
    exact absurd (ready.apart source member other (within other converted.1) above ▸ converted) idle

variable (fresh : source ∉ done)

include fresh

/-- A source whose turn has not come is still there. -/
theorem unread : current.entryAt? source = tree.entryAt? source := by
  refine holds.same (present_of_mem_sources ready.present member) ?_
  rintro ⟨other, ⟨before, -⟩, same⟩
  exact fresh (eq_of_target_eq (within other before) member same ▸ before)

theorem free : IsFree job.mode current (job.target tree source) := by
  obtain ⟨valid, inner, room, clear, vacant, absent⟩ := ready.free source member
  have idle : ¬ job.IsConverted library tree done source := fun converted => fresh converted.1
  have unchanged := holds.unchanged ready within member idle
  refine ⟨valid, inner, room, ?_, ?_, ?_⟩
  · intro front way content
    have above := way.trans (List.dropLast_prefix _)
    rw [List.nil_append]
    rcases holds.spared front (ready.notWritten within member idle above) with
      same | ⟨-, made, -⟩
    · rw [same]
      exact clear front way content
    · rw [made]
      exact nofun
  · rw [unchanged]
    exact vacant
  · rw [unchanged]
    exact absent

/-- The next module is put in its place. -/
theorem concat {after : FileTree} {content : String}
    (generated : job.generate library tree source = .ok content)
    (puts : Puts current after (job.target tree source) content.toUTF8) :
    job.Holds library tree (done ++ [source]) after where
  placed := by
    intro other among content' generated'
    rcases List.mem_append.mp among with before | last
    · have distinct : job.target tree other ≠ job.target tree source := fun same =>
        ready.notWritten within member (fun converted => fresh converted.1) List.prefix_rfl
          ⟨other, ⟨before, content', generated'⟩, same⟩
      rcases puts.spared _ distinct with same | ⟨absent, -, -⟩
      · rw [same, holds.placed other before content' generated']
      · rw [holds.placed other before content' generated'] at absent
        contradiction
    · obtain rfl := List.mem_singleton.mp last
      rw [generated] at generated'
      obtain rfl := Except.ok.inj generated'
      exact puts.placed
  spared := by
    intro place unwritten
    have converted : job.IsConverted library tree (done ++ [source]) source :=
      ⟨by simp, content, generated⟩
    have distinct : place ≠ job.target tree source := by
      rintro rfl
      exact unwritten ⟨source, converted, rfl⟩
    have before : ¬ job.IsWritten library tree done place := fun written =>
      unwritten (written.concat source)
    rcases puts.spared place distinct with same | ⟨absent, made, way⟩
    · rw [same]
      rcases holds.spared place before with same | ⟨absent, made, other, passing, way⟩
      · exact .inl same
      · exact .inr ⟨absent, made, other, passing.concat source, way⟩
    · rcases holds.spared place before with same | ⟨-, there, -⟩
      · exact .inr ⟨same ▸ absent, made, source, converted, way⟩
      · rw [there] at absent
        contradiction

omit ready within member fresh in
/-- Nothing changes for a source without a module. -/
theorem concat_failed {fault : Fault}
    (failed : job.generate library tree source = .error fault) :
    job.Holds library tree (done ++ [source]) current where
  placed := by
    intro other among content generated
    rcases List.mem_append.mp among with before | last
    · exact holds.placed other before content generated
    · obtain rfl := List.mem_singleton.mp last
      rw [failed] at generated
      contradiction
  spared := by
    intro place unwritten
    have before : ¬ job.IsWritten library tree done place := fun written =>
      unwritten (written.concat source)
    rcases holds.spared place before with same | ⟨absent, made, other, passing, way⟩
    · exact .inl same
    · exact .inr ⟨absent, made, other, passing.concat source, way⟩

theorem convert_failed {fault : Fault}
    (failed : job.generate library tree source = .error fault) :
    job.convert library current source =
      ⟨current, job.requests library tree source, .error fault⟩ := by
  have unread := holds.unread ready within member fresh
  rw [convert_eq, generate_congr unread, failed, requests_congr unread]

theorem convert_generated {content : String}
    (generated : job.generate library tree source = .ok content) :
    ∃ after, job.convert library current source =
        ⟨after, job.requests library tree source, .ok ()⟩ ∧
      job.Holds library tree (done ++ [source]) after := by
  have unread := holds.unread ready within member fresh
  have accepted := structural_of_isModule (generate_isModule generated)
  obtain ⟨returned, puts⟩ := (holds.free ready within member fresh).write accepted
  refine ⟨_, ?_, holds.concat ready within member fresh generated puts⟩
  rw [convert_eq, generate_congr unread, generated, requests_congr unread,
    holds.target ready within source]
  simp only [returned]
  rfl

end Holds

section Run

variable (job : Job) (library : Library) (tree : FileTree)

/-- The line that is printed for a source with a module. -/
def report? (source : Path) : Option String :=
  match job.generate library tree source with
  | .ok _ => some (source.text ++ " -> " ++ (job.target tree source).text)
  | .error _ => none

/-- The line that is printed for a source without a module. -/
def complaint? (source : Path) : Option String :=
  match job.generate library tree source with
  | .ok _ => none
  | .error fault => fault.report?.map fun (name, message) =>
      source.text ++ ": " ++ name ++ ": " ++ message

variable {job library tree}

/-- The sources are converted one after the other, each as if it were alone. -/
theorem runFrom_holds (ready : job.IsReady tree)
    (reported : ∀ source ∈ sources tree job.path, ∀ fault,
      job.generate library tree source = .error fault → fault.report? ≠ none)
    {done others : List Path} (split : sources tree job.path = done ++ others)
    (once : (sources tree job.path).Nodup) (result : Result)
    (holds : job.Holds library tree done result.tree) :
    let final := job.runFrom library result others
    job.Holds library tree (sources tree job.path) final.tree ∧
      final.printed = result.printed ++ others.filterMap (job.report? library tree) ∧
      final.complaints = result.complaints ++ others.filterMap (job.complaint? library tree) ∧
      final.requests = result.requests ++ others.flatMap (job.requests library tree) ∧
      final.exitCode = result.exitCode ∧ final.fault = result.fault := by
  induction others generalizing done result with
  | nil =>
      rw [List.append_nil] at split
      simpa [runFrom, split] using holds
  | cons source others inductionHypothesis =>
      have member : source ∈ sources tree job.path := by simp [split]
      have within : ∀ other ∈ done, other ∈ sources tree job.path := fun other among => by
        rw [split]
        exact List.mem_append_left _ among
      have fresh : source ∉ done := by
        rw [split] at once
        exact fun among => (List.nodup_append.mp once).2.2 source among source (by simp) rfl
      have further : sources tree job.path = (done ++ [source]) ++ others := by simp [split]
      cases outcome : job.generate library tree source with
      | error fault =>
          have converted := holds.convert_failed ready within member fresh outcome
          obtain ⟨⟨name, message⟩, found⟩ :=
            Option.ne_none_iff_exists'.mp (reported source member fault outcome)
          let next : Result := { result with
            requests := result.requests ++ job.requests library tree source
            complaints := result.complaints ++ [source.text ++ ": " ++ name ++ ": " ++ message] }
          obtain ⟨final, printed, complaints, requests, exitCode, stopped⟩ :=
            inductionHypothesis further next (holds.concat_failed outcome)
          have step : job.runFrom library result (source :: others) =
              job.runFrom library next others := by
            rw [job.runFrom_reported library (by rw [converted]) found, converted]
          rw [step]
          refine ⟨final, ?_, ?_, ?_, exitCode, stopped⟩
          · rw [printed, List.filterMap_cons, report?, outcome]
          · rw [complaints, List.filterMap_cons, complaint?, outcome]
            simp [next, found]
          · rw [requests, List.flatMap_cons, List.append_assoc]
      | ok content =>
          obtain ⟨after, converted, concat⟩ :=
            holds.convert_generated ready within member fresh outcome
          have within' : ∀ other ∈ done ++ [source], other ∈ sources tree job.path := by
            rw [further]
            exact fun other => List.mem_append_left _
          let next : Result := { result with
            tree := after
            requests := result.requests ++ job.requests library tree source
            printed := result.printed ++ [source.text ++ " -> " ++ (job.target tree source).text] }
          obtain ⟨final, printed, complaints, requests, exitCode, stopped⟩ :=
            inductionHypothesis further next concat
          have step : job.runFrom library result (source :: others) =
              job.runFrom library next others := by
            rw [job.runFrom_converted library (by rw [converted]), converted,
              concat.target ready within']
          rw [step]
          refine ⟨final, ?_, ?_, ?_, exitCode, stopped⟩
          · rw [printed, List.filterMap_cons, report?, outcome, List.append_assoc]
            rfl
          · rw [complaints, List.filterMap_cons, complaint?, outcome]
          · rw [requests, List.flatMap_cons, List.append_assoc]

end Run

end Job
end SvgComponent.Command
