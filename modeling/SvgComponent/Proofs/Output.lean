/-
This file shows that a write takes full effect or leaves every file as it was, over whole runs.
-/

import Mathlib.Data.List.Basic
import SvgComponent.Output
import SvgComponent.Proofs.FileTree

namespace SvgComponent.Output

open FileTree (Extends Retains IsAncestor)

/-- One write, with the tokens that are tried one after the other for the name of its draft. -/
structure Call where
  mode : Mode
  validator : Option Validator
  path : Path
  content : String
  tokens : List String

/-- A draft lies beside its target. -/
def draftName (name token : String) : String :=
  "." ++ name ++ "." ++ token ++ ".tmp"

/-- A draft moves to its target. -/
def move (tree : FileTree) (draft directory : Path) (name : String) : Except Error FileTree :=
  if name = ".." then .error .targetIsBusy
  else if tree.isDirectory (directory ++ [name]) then .error .targetIsDirectory
  else
    match tree.entryAt? draft with
    | none => .error (.obstacle .missing)
    | some entry => .ok (Mapping.assign (tree.without draft) (directory ++ [name]) entry)

namespace Call

def write (call : Call) (tree : FileTree) : FileTree × Except Error Unit :=
  Output.write call.mode call.validator tree call.path call.content

def name (call : Call) : String := call.path.getLast?.getD ".."

/-- The name that is tried for the draft with a token. The root has no name. -/
def draftName (call : Call) (token : String) : String :=
  Output.draftName (call.path.getLast?.getD "") token

/-- The first free place for a draft. -/
def draft? (call : Call) (tree : FileTree) (directory : Path) : Option Path :=
  (call.tokens.map fun token => directory ++ [call.draftName token]).find?
    fun place => !tree.isPresent place

/-- Without a validator every content is valid. -/
def validate (call : Call) : Except Error Unit :=
  ((call.validator.getD fun _ => .ok ()) call.content).mapError .objection

/-- The content is written to a draft and checked. The draft moves to the target or is removed. -/
def commit (call : Call) (tree : FileTree) (directory draft : Path) :
    FileTree × Except Error Unit :=
  let drafted : FileTree := tree.assign draft (.file call.content.toUTF8)
  match call.validate.bind fun _ => move drafted draft directory call.name with
  | .error error => (drafted.without draft, .error error)
  | .ok written => (written, .ok ())

/-- A write in two phases. It fails if no draft can be named. -/
def perform (call : Call) (tree : FileTree) : FileTree × Except Error Unit :=
  match if call.mode = .refuse then refuseExisting tree call.path else .ok () with
  | .error error => (tree, .error error)
  | .ok () =>
      match tree.makeDirectories call.path.dropLast with
      | (prepared, .error found) => (prepared, .error (.obstacle found))
      | (prepared, .ok directory) =>
          match checkDraft call.name with
          | .error error => (prepared, .error error)
          | .ok () =>
              match call.draft? prepared directory with
              | none => (prepared, .error (.obstacle .occupied))
              | some draft => call.commit prepared directory draft

/-- One of the tokens gives a free name for the draft. -/
def HasFreeDraft (call : Call) (tree : FileTree) : Prop :=
  ∀ prepared directory, tree.makeDirectories call.path.dropLast = (prepared, .ok directory) →
    call.draft? prepared directory ≠ none

/-- A target that exists does not keep the call from going on. -/
def Admits (call : Call) (tree : FileTree) : Prop :=
  call.mode = .refuse → refuseExisting tree call.path = .ok ()

end Call

theorem draftName_length (name token : String) :
    (draftName name token).length = name.length + token.length + 6 := by
  simp only [draftName, String.length_append, show ".".length = 1 from rfl,
    show ".tmp".length = 4 from rfl]
  omega

theorem draftName_ne (name token : String) : draftName name token ≠ name := by
  intro same
  have length := congrArg String.length same
  rw [draftName_length] at length
  omega

/-- A name is short enough and has no null character if its draft can be made. -/
theorem checkDraft_ok {name : String} (checked : checkDraft name = .ok ()) :
    name.toList.contains '\x00' = false ∧ name.utf8ByteSize ≤ FileTree.nameLimit := by
  rw [checkDraft] at checked
  split at checked
  · contradiction
  · split at checked
    · contradiction
    · case _ valid short => exact ⟨by simpa using valid, by omega⟩

theorem checkDraft_not_alreadyExists {name : String} {error : Error}
    (failed : checkDraft name = .error error) (path : Path) : error ≠ .alreadyExists path := by
  rw [checkDraft] at failed
  split at failed
  · exact Except.error.inj failed ▸ nofun
  · split at failed
    · exact Except.error.inj failed ▸ nofun
    · contradiction

/-- The stages of a replacement. -/
theorem replace_eq (validator : Option Validator) (tree : FileTree) (directory : Path)
    (name content : String) :
    replace validator tree directory name content =
      (checkDraft name).bind fun _ =>
        (((validator.getD fun _ => .ok ()) content).mapError .objection).bind fun _ =>
          if name = ".." then .error .targetIsBusy
          else if tree.isDirectory (directory ++ [name]) then .error .targetIsDirectory
          else .ok (tree.assign (directory ++ [name]) (.file content.toUTF8)) :=
  rfl

/-- A replacement fails, or the target was no directory and is now a file with the content. -/
theorem replace_cases (validator : Option Validator) (tree : FileTree) (directory : Path)
    (name content : String) :
    (∃ error, replace validator tree directory name content = .error error ∧
      ∀ path, error ≠ .alreadyExists path) ∨
    checkDraft name = .ok () ∧ name ≠ ".." ∧
      tree.entryAt? (directory ++ [name]) ≠ some .directory ∧
      replace validator tree directory name content =
        .ok (tree.assign (directory ++ [name]) (.file content.toUTF8)) := by
  rw [replace_eq]
  cases checked : checkDraft name with
  | error error => exact .inl ⟨error, rfl, checkDraft_not_alreadyExists checked⟩
  | ok =>
      cases (validator.getD fun _ => .ok ()) content with
      | error objection => exact .inl ⟨.objection objection, rfl, nofun⟩
      | ok =>
          simp only [Except.mapError, Except.bind]
          by_cases busy : name = ".."
          · exact .inl ⟨.targetIsBusy, if_pos busy, nofun⟩
          · rw [if_neg busy]
            by_cases taken : tree.isDirectory (directory ++ [name]) = true
            · exact .inl ⟨.targetIsDirectory, if_pos taken, nofun⟩
            · refine .inr ⟨trivial, busy, ?_, if_neg taken⟩
              rwa [ne_eq, ← FileTree.isDirectory_iff]

theorem refuseExisting_alreadyExists (tree : FileTree) (path place : Path) :
    refuseExisting tree path = .error (.alreadyExists place) ↔
      place = path ∧ ∃ target, tree.locate path = .ok target ∧ tree.entryAt? target ≠ none := by
  rw [refuseExisting, FileTree.isTaken]
  cases located : tree.locate path with
  | error obstacle => cases obstacle <;> simp
  | ok target =>
      simp only [Except.ok.injEq, exists_eq_left', ← FileTree.isPresent_iff]
      cases tree.isPresent target <;> simp [eq_comm]

namespace Call

variable {call : Call} {tree : FileTree}

theorem draft?_eq_some {directory draft : Path} (found : call.draft? tree directory = some draft) :
    tree.entryAt? draft = none ∧ ∃ token, draft = directory ++ [call.draftName token] := by
  have free := List.find?_some found
  obtain ⟨token, -, same⟩ := List.mem_map.mp (List.mem_of_find?_eq_some found)
  refine ⟨?_, token, same.symm⟩
  simpa [FileTree.isPresent] using free

/-- A target with a name is named by the last name of its path. -/
theorem getLast?_of_name (inner : call.name ≠ "..") : call.path.getLast? = some call.name := by
  rw [Call.name] at inner ⊢
  cases last : call.path.getLast? with
  | none => simp [last] at inner
  | some final => rfl

/-- A draft never has the name of its target. -/
theorem draftName_ne (inner : call.name ≠ "..") (token : String) :
    call.draftName token ≠ call.name := by
  rw [draftName, getLast?_of_name inner]
  exact Output.draftName_ne call.name token

/-- A draft that cannot take the place of its target leaves no trace. A draft that can is the same
as a file that is made in that place. -/
theorem commit_eq {directory draft : Path} (checked : checkDraft call.name = .ok ())
    (found : call.draft? tree directory = some draft) :
    call.commit tree directory draft =
      match replace call.validator tree directory call.name call.content with
      | .error error => (tree, .error error)
      | .ok written => (written, .ok ()) := by
  obtain ⟨absent, token, rfl⟩ := draft?_eq_some found
  have removed := Mapping.without_assign (FileTree.valueAt?_of_absent absent)
    (.file call.content.toUTF8)
  have named : directory ++ [call.draftName token] ≠ [] := by simp
  have present := FileTree.entryAt?_assign tree named (.file call.content.toUTF8)
  rw [replace_eq, checked, Except.bind, ← validate, commit]
  cases call.validate with
  | error error => simp only [Except.bind, removed]
  | ok =>
      simp only [Except.bind, move]
      by_cases inner : call.name = ".."
      · simp only [if_pos inner, removed]
      · have other : directory ++ [call.draftName token] ≠ directory ++ [call.name] := fun same =>
          draftName_ne inner token (by simpa using same)
        have same : FileTree.isDirectory
            (tree.assign (directory ++ [call.draftName token]) (.file call.content.toUTF8))
            (directory ++ [call.name]) = tree.isDirectory (directory ++ [call.name]) := by
          rw [FileTree.isDirectory, present, if_neg other, FileTree.isDirectory]
        simp only [if_neg inner, same, present, if_true, removed]

theorem admits_iff (call : Call) (tree : FileTree) :
    call.Admits tree ↔
      (if call.mode = .refuse then refuseExisting tree call.path else .ok ()) = .ok () := by
  rw [Admits]
  split <;> simp [*]

/-- Writing in two phases is the same as writing at once, unless no draft can be named. -/
theorem perform_cases (call : Call) (tree : FileTree) :
    call.perform tree = call.write tree ∨
      ¬ call.HasFreeDraft tree ∧ call.Admits tree ∧
        call.perform tree =
          ((tree.makeDirectories call.path.dropLast).1, .error (.obstacle .occupied)) := by
  rw [perform, Call.write, Output.write, ← Call.name, admits_iff]
  cases if call.mode = .refuse then refuseExisting tree call.path else .ok () with
  | error error => exact .inl rfl
  | ok =>
      cases made : tree.makeDirectories call.path.dropLast with
      | mk prepared result =>
          cases result with
          | error found => exact .inl rfl
          | ok directory =>
              simp only
              cases checked : checkDraft call.name with
              | error error =>
                  left
                  rw [replace_eq, checked]
                  rfl
              | ok =>
                  cases found : call.draft? prepared directory with
                  | none => exact .inr ⟨fun free => free prepared directory made found, trivial, rfl⟩
                  | some draft => exact .inl (commit_eq checked found)

theorem perform_eq_write {call : Call} {tree : FileTree} (free : call.HasFreeDraft tree) :
    call.perform tree = call.write tree := by
  rcases perform_cases call tree with same | ⟨exhausted, -, -⟩
  · exact same
  · exact absurd free exhausted

end Call

/-- What a call can do to a tree. -/
inductive Outcome (call : Call) (before : FileTree) : FileTree → Except Error Unit → Prop where
  /-- The call stops before it makes anything. -/
  | refused {error : Error} (asked : call.mode = .refuse)
      (failed : refuseExisting before call.path = .error error) :
      Outcome call before before (.error error)
  /-- Nothing is made but directories. -/
  | failed {error : Error} (admitted : call.Admits before)
      (other : ∀ path, error ≠ .alreadyExists path) :
      Outcome call before (before.makeDirectories call.path.dropLast).1 (.error error)
  /-- The content is in the place of the target. -/
  | written {prepared : FileTree} {directory : Path} (admitted : call.Admits before)
      (made : before.makeDirectories call.path.dropLast = (prepared, .ok directory))
      (inner : call.name ≠ "..") (checked : checkDraft call.name = .ok ())
      (vacant : prepared.entryAt? (directory ++ [call.name]) ≠ some .directory) :
      Outcome call before
        (prepared.assign (directory ++ [call.name]) (.file call.content.toUTF8)) (.ok ())

namespace Call

theorem write_outcome (call : Call) (before : FileTree) :
    Outcome call before (call.write before).1 (call.write before).2 := by
  rw [Call.write, Output.write, ← Call.name]
  cases check : if call.mode = .refuse then refuseExisting before call.path else .ok () with
  | error error =>
      by_cases asked : call.mode = .refuse
      · rw [if_pos asked] at check
        exact .refused asked check
      · rw [if_neg asked] at check
        contradiction
  | ok =>
      have admitted := (admits_iff call before).mpr check
      have failing {error : Error} (other : ∀ path, error ≠ .alreadyExists path) :=
        Outcome.failed admitted other
      cases made : before.makeDirectories call.path.dropLast with
      | mk prepared result =>
          simp only [made] at failing
          cases result with
          | error found => exact failing nofun
          | ok directory =>
              simp only
              rcases replace_cases call.validator prepared directory call.name call.content with
                ⟨error, same, other⟩ | ⟨checked, inner, vacant, same⟩
              · rw [same]
                exact failing other
              · rw [same]
                exact .written admitted made inner checked vacant

theorem perform_outcome (call : Call) (before : FileTree) :
    Outcome call before (call.perform before).1 (call.perform before).2 := by
  rcases perform_cases call before with same | ⟨-, admitted, same⟩
  · rw [same]
    exact write_outcome call before
  · rw [same]
    exact .failed admitted nofun

end Call

/-- What a call has done to a tree. -/
structure Step where
  call : Call
  before : FileTree
  after : FileTree
  result : Except Error Unit

/-- The steps of calls that are made one after the other. -/
def run : FileTree → List Call → List Step
  | _, [] => []
  | tree, call :: calls =>
      ⟨call, tree, (call.perform tree).1, (call.perform tree).2⟩ ::
        run (call.perform tree).1 calls

namespace Step

/-- A place stays as it is, or a directory is made there on the way to the target. -/
def Spares (step : Step) (place : Path) : Prop :=
  step.after.entryAt? place = step.before.entryAt? place ∨
    step.before.entryAt? place = none ∧ step.after.entryAt? place = some .directory ∧
      step.after.IsAncestor step.call.path place

/-- The call returned and its content is in the place of its target. -/
def Writes (step : Step) (place : Path) (content : ByteArray) : Prop :=
  step.result = .ok () ∧ step.after.locate step.call.path = .ok place ∧
    step.call.content.toUTF8 = content

/-- A step takes full effect or leaves every file as it was. -/
structure IsAtomic (step : Step) : Prop where
  written : step.result = .ok () → ∃ target,
    step.Writes target step.call.content.toUTF8 ∧
    step.after.entryAt? target = some (.file step.call.content.toUTF8) ∧
    ∀ place, place ≠ target → step.Spares place
  failed : step.result ≠ .ok () → ∀ place, step.Spares place
  /-- An existing target is refused in one mode only, and then nothing changes. -/
  refused : step.result = .error (.alreadyExists step.call.path) ↔
    step.call.mode = .refuse ∧ ∃ target, step.before.locate step.call.path = .ok target ∧
      step.before.entryAt? target ≠ none
  unchanged : step.result = .error (.alreadyExists step.call.path) → step.after = step.before
  /-- Nothing changes if an ancestor was a file before the call. -/
  blocked : ∀ place content, step.before.IsAncestor step.call.path place →
    step.before.entryAt? place = some (.file content) →
    step.result ≠ .ok () ∧ step.after = step.before
  /-- No draft is left. -/
  undrafted : ∀ directory token content,
    step.after.entryAt? (directory ++ [step.call.draftName token]) = some (.file content) →
    step.before.entryAt? (directory ++ [step.call.draftName token]) = some (.file content)

end Step

/-- A file changes the way of no path if it stands where no directory was. -/
theorem retains_file {tree : FileTree} {place : Path} {content : ByteArray} (named : place ≠ [])
    (vacant : tree.entryAt? place ≠ some .directory) :
    Retains tree (tree.assign place (.file content)) := by
  intro spot present
  rw [FileTree.entryAt?_assign tree named, if_neg, present]
  rintro rfl
  exact vacant present

namespace Call

variable {call : Call} {before prepared : FileTree} {directory : Path}

/-- The path of a target leads to the target. -/
theorem locate_target (made : before.makeDirectories call.path.dropLast = (prepared, .ok directory))
    (inner : call.name ≠ "..") (checked : checkDraft call.name = .ok ()) :
    prepared.locate call.path = .ok (directory ++ [call.name]) := by
  obtain ⟨located, there⟩ := FileTree.makeDirectories_reaches made
  obtain ⟨valid, reached⟩ := FileTree.locate_eq_ok.mp located
  obtain ⟨visible, short⟩ := checkDraft_ok checked
  have path : call.path = call.path.dropLast ++ [call.name] :=
    (List.dropLast_append_getLast? call.name (getLast?_of_name inner)).symm
  rw [FileTree.locate_eq_ok]
  constructor
  · rw [path, Path.isValid, List.all_append, ← Path.isValid, valid]
    simpa using visible
  · rw [path, List.foldlM_append, reached]
    change [call.name].foldlM prepared.step directory = .ok (directory ++ [call.name])
    rw [List.foldlM_cons, FileTree.step_name there inner short]
    rfl

/-- A call that goes on has no target that it must refuse. -/
theorem Admits.vacant (admitted : call.Admits before) :
    ¬ (call.mode = .refuse ∧
      ∃ target, before.locate call.path = .ok target ∧ before.entryAt? target ≠ none) := by
  rintro ⟨asked, taken⟩
  have refused := (refuseExisting_alreadyExists before call.path call.path).mpr ⟨rfl, taken⟩
  rw [admitted asked] at refused
  contradiction

end Call

namespace Outcome

variable {call : Call} {before : FileTree}

theorem refused_isAtomic {error : Error} (asked : call.mode = .refuse)
    (stopped : refuseExisting before call.path = .error error) :
    Step.IsAtomic ⟨call, before, before, .error error⟩ where
  written := nofun
  failed := fun _ _ => .inl rfl
  refused := by
    have taken := refuseExisting_alreadyExists before call.path call.path
    rw [stopped] at taken
    simpa [asked] using taken
  unchanged := fun _ => rfl
  blocked := fun _ _ _ _ => ⟨nofun, rfl⟩
  undrafted := fun _ _ _ present => present

theorem failed_isAtomic {error : Error} (admitted : call.Admits before)
    (other : ∀ path, error ≠ .alreadyExists path) :
    Step.IsAtomic
      ⟨call, before, (before.makeDirectories call.path.dropLast).1, .error error⟩ where
  written := nofun
  failed := fun _ => FileTree.makeDirectories_extends before call.path
  refused := by
    constructor
    · intro same
      exact absurd (Except.error.inj same) (other call.path)
    · exact fun taken => absurd taken admitted.vacant
  unchanged := fun same => absurd (Except.error.inj same) (other call.path)
  blocked := by
    intro place content ancestor blocked
    obtain ⟨obstacle, stopped⟩ := FileTree.makeDirectories_blocked ancestor blocked
    rw [stopped]
    exact ⟨nofun, rfl⟩
  undrafted := fun _ _ _ present =>
    (FileTree.makeDirectories_extends before call.path).file present

theorem written_isAtomic {prepared : FileTree} {directory : Path} (admitted : call.Admits before)
    (made : before.makeDirectories call.path.dropLast = (prepared, .ok directory))
    (inner : call.name ≠ "..") (checked : checkDraft call.name = .ok ())
    (vacant : prepared.entryAt? (directory ++ [call.name]) ≠ some .directory) :
    Step.IsAtomic ⟨call, before,
      prepared.assign (directory ++ [call.name]) (.file call.content.toUTF8), .ok ()⟩ := by
  have named : directory ++ [call.name] ≠ [] := by simp
  have retained : Retains prepared
      (prepared.assign (directory ++ [call.name]) (.file call.content.toUTF8)) :=
    retains_file named vacant
  have present := FileTree.entryAt?_assign prepared named (.file call.content.toUTF8)
  have grown := FileTree.makeDirectories_extends before call.path
  rw [made] at grown
  constructor
  case written =>
    intro returned
    have located := FileTree.locate_mono retained (Call.locate_target made inner checked)
    refine ⟨directory ++ [call.name], ⟨rfl, located, rfl⟩, ?_, ?_⟩
    · rw [present, if_pos rfl]
    · intro place other
      rw [Step.Spares, present, if_neg other.symm]
      rcases grown place with same | ⟨absent, there, front, within, passed⟩
      · exact .inl same
      · exact .inr ⟨absent, there, front, within, FileTree.locate_mono retained passed⟩
  case failed => exact fun failed => absurd rfl failed
  case refused => exact ⟨nofun, fun taken => absurd taken admitted.vacant⟩
  case unchanged => exact nofun
  case blocked =>
    intro place content ancestor blocked
    obtain ⟨obstacle, stopped⟩ := FileTree.makeDirectories_blocked ancestor blocked
    simp [made] at stopped
  case undrafted =>
    intro beside token content drafted
    have other : directory ++ [call.name] ≠ beside ++ [call.draftName token] := fun same =>
      Call.draftName_ne inner token (by simpa using (List.append_inj' same rfl).2.symm)
    rw [present, if_neg other] at drafted
    exact grown.file drafted

theorem isAtomic {after : FileTree} {result : Except Error Unit}
    (outcome : Outcome call before after result) : Step.IsAtomic ⟨call, before, after, result⟩ := by
  cases outcome with
  | refused asked stopped => exact refused_isAtomic asked stopped
  | failed admitted other => exact failed_isAtomic admitted other
  | written admitted made inner checked vacant =>
      exact written_isAtomic admitted made inner checked vacant

end Outcome

namespace Step

/-- The file was in the tree, or one of the steps has put it there. -/
def Accounts (steps : List Step) (tree : FileTree) (place : Path) (content : ByteArray) : Prop :=
  tree.entryAt? place = some (.file content) ∨ ∃ step ∈ steps, step.Writes place content

/-- A step puts no file in any place but that of its target. -/
theorem IsAtomic.accounts {step : Step} (atomic : step.IsAtomic) {place : Path}
    {content : ByteArray} (present : step.after.entryAt? place = some (.file content)) :
    Accounts [step] step.before place content := by
  have spared (spares : step.Spares place) : Accounts [step] step.before place content := by
    rcases spares with same | ⟨-, made, -⟩
    · exact .inl (same ▸ present)
    · rw [present] at made
      exact nomatch made
  by_cases returned : step.result = .ok ()
  · obtain ⟨target, writes, there, others⟩ := atomic.written returned
    by_cases here : place = target
    · subst here
      rw [there] at present
      obtain rfl : step.call.content.toUTF8 = content := by simpa using present
      exact .inr ⟨step, List.mem_singleton_self step, writes⟩
    · exact spared (others place here)
  · exact spared (atomic.failed returned place)

end Step

theorem run_isAtomic (tree : FileTree) (calls : List Call) :
    ∀ step ∈ run tree calls, step.IsAtomic ∧
      (step.call.HasFreeDraft step.before →
        (step.after, step.result) = step.call.write step.before) := by
  induction calls generalizing tree with
  | nil =>
      intro step member
      contradiction
  | cons call calls inductionHypothesis =>
      intro step member
      rcases List.mem_cons.mp member with rfl | later
      · exact ⟨(call.perform_outcome tree).isAtomic, fun free => Call.perform_eq_write free⟩
      · exact inductionHypothesis _ step later

/-- Every file is accounted for by the steps up to the one after which it is there. -/
theorem run_accounts {tree : FileTree} {calls : List Call} {past future : List Step} {step : Step}
    (ran : run tree calls = past ++ step :: future) {place : Path} {content : ByteArray}
    (present : step.after.entryAt? place = some (.file content)) :
    Step.Accounts (past ++ [step]) tree place content := by
  induction calls generalizing tree past with
  | nil => simp [run] at ran
  | cons call calls inductionHypothesis =>
      have atomic := (call.perform_outcome tree).isAtomic
      rw [run] at ran
      cases past with
      | nil =>
          obtain ⟨rfl, -⟩ := List.cons.inj ran
          exact atomic.accounts present
      | cons first past =>
          obtain ⟨rfl, rest⟩ := List.cons.inj ran
          rcases inductionHypothesis rest with before | ⟨writer, member, writes⟩
          · rcases atomic.accounts before with initial | ⟨writer, member, writes⟩
            · exact .inl initial
            · rw [List.mem_singleton] at member
              subst member
              exact .inr ⟨_, List.mem_cons_self, writes⟩
          · exact .inr ⟨writer, List.mem_cons_of_mem _ member, writes⟩

/-- In every run over every tree, each call takes full effect or leaves every file as it was. New
directories are ancestors of the target, whether these are written with double dots or not. No draft
is left, and every file was there at first or is the target of a call that returned before. As long
as some draft has a free name, the drafts change nothing about what a call does. -/
theorem run_is_atomic (tree : FileTree) (calls : List Call) :
    (∀ step ∈ run tree calls, step.IsAtomic ∧
      (step.call.HasFreeDraft step.before →
        (step.after, step.result) = step.call.write step.before)) ∧
    ∀ past step future, run tree calls = past ++ step :: future →
      ∀ place content, step.after.entryAt? place = some (.file content) →
        Step.Accounts (past ++ [step]) tree place content :=
  ⟨run_isAtomic tree calls, fun _ _ _ ran _ _ present => run_accounts ran present⟩

/-- A file is refused as a target first and replaced then. -/
theorem run_is_atomic_replacing :
    let tree : FileTree := [(["x.js"], .file "old".toUTF8)]
    let first : Call := ⟨.refuse, none, ["x.js"], "new", ["token"]⟩
    let second : Call := ⟨.replace, none, ["x.js"], "new", ["token"]⟩
    ∃ refused written, run tree [first, second] = [refused, written] ∧
      refused.after = tree ∧ written.Writes ["x.js"] "new".toUTF8 ∧
      written.after.entryAt? ["x.js"] = some (.file "new".toUTF8) := by
  intro tree first second
  obtain ⟨atomic, -⟩ := run_is_atomic tree [first, second]
  refine ⟨⟨first, tree, _, _⟩, ⟨second, _, _, _⟩, rfl, ?_, ?_⟩
  · have refused := (atomic _ List.mem_cons_self).1
    have taken : tree.locate ["x.js"] = .ok ["x.js"] ∧ tree.entryAt? ["x.js"] ≠ none := by
      decide +kernel
    exact refused.unchanged (refused.refused.mpr ⟨rfl, ["x.js"], taken⟩)
  · have written := (atomic _ (List.mem_cons_of_mem _ List.mem_cons_self)).1
    obtain ⟨target, writes, present, -⟩ := written.written (by decide +kernel)
    have located : Except.ok target = .ok ["x.js"] := writes.2.1.symm.trans (by decide +kernel)
    obtain rfl := Except.ok.inj located
    exact ⟨writes, present⟩

/-- The directory `k` is made although the way leads from there to a file. -/
theorem directory_made_before_file :
    let tree : FileTree := [(["f"], .file "t".toUTF8)]
    let call : Call :=
      ⟨.refuse, some structural, ["k", "..", "f", "x.js"], "functional: true render()", ["token"]⟩
    ¬ ((call.perform tree).2 = .error (.obstacle .occupied) →
      (call.perform tree).1.IsAncestor call.path ["f"] →
      tree.entryAt? ["f"] = some (.file "t".toUTF8) → (call.perform tree).1 = tree) := by
  intro tree call unchanged
  have made : call.perform tree =
      ([(["f"], .file "t".toUTF8), (["k"], .directory)], .error (.obstacle .occupied)) := by
    decide +kernel
  rw [made] at unchanged
  have same := unchanged rfl ⟨["k", "..", "f"], by decide +kernel, by decide +kernel⟩ rfl
  exact absurd same (by decide)

end SvgComponent.Output
