/-
This file shows that file trees stay well formed, and where paths without double dots lead.
-/

import Mathlib.Data.List.Induction
import Mathlib.Data.List.Infix
import SvgComponent.Proofs.FileTree

namespace SvgComponent.FileTree

/-- A name that an entry can have. -/
def IsName (name : String) : Prop :=
  name ≠ ".." ∧ '\x00' ∉ name.toList ∧ name.utf8ByteSize ≤ nameLimit

instance : DecidablePred IsName := fun _ => inferInstanceAs (Decidable (_ ∧ _ ∧ _))

def IsPlain (path : Path) : Prop := ∀ name ∈ path, IsName name

instance : DecidablePred IsPlain := fun _ => List.decidableBAll _ _

/-- Every entry is listed once, has proper names and lies in a directory. -/
structure IsWellFormed (tree : FileTree) : Prop where
  distinct : (Mapping.keys tree).Nodup
  rooted : ∀ place ∈ Mapping.keys tree, tree.entryAt? place.dropLast = some .directory
  named : ∀ place ∈ Mapping.keys tree, IsPlain place

attribute [local instance (high)] ByteArray.instDecidableEq

instance : DecidablePred IsWellFormed := fun tree =>
  decidable_of_iff ((Mapping.keys tree).Nodup ∧
      (∀ place ∈ Mapping.keys tree, tree.entryAt? place.dropLast = some .directory) ∧
      ∀ place ∈ Mapping.keys tree, IsPlain place)
    ⟨fun ⟨distinct, rooted, named⟩ => ⟨distinct, rooted, named⟩,
      fun wellFormed => ⟨wellFormed.distinct, wellFormed.rooted, wellFormed.named⟩⟩

theorem entryAt?_eq_none_iff (tree : FileTree) (place : Path) :
    tree.entryAt? place = none ↔ place ≠ [] ∧ place ∉ Mapping.keys tree := by
  by_cases root : place = []
  · simp [root, entryAt?_root]
  · rw [entryAt?, if_neg root, Mapping.valueAt?_eq_none_iff, and_iff_right root]

/-- A place with an entry is the root or is listed. -/
theorem entryAt?_ne_none_iff (tree : FileTree) (place : Path) :
    tree.entryAt? place ≠ none ↔ place = [] ∨ place ∈ Mapping.keys tree := by
  rw [ne_eq, entryAt?_eq_none_iff, not_and_or, not_not, not_not]

section Plain

variable {tree : FileTree} {path : Path}

theorem IsPlain.inner (plain : IsPlain path) : ".." ∉ path :=
  fun member => (plain ".." member).1 rfl

theorem IsPlain.isValid (plain : IsPlain path) : path.isValid = true := by
  rw [Path.isValid, List.all_eq_true]
  intro name member
  simpa using (plain name member).2.1

theorem isPlain_append {front back : Path} :
    IsPlain (front ++ back) ↔ IsPlain front ∧ IsPlain back :=
  List.forall_mem_append

theorem IsPlain.of_isPrefix {front : Path} (plain : IsPlain path) (within : front <+: path) :
    IsPlain front :=
  fun name member => plain name (within.subset member)

end Plain

namespace IsWellFormed

variable {tree : FileTree} {place : Path}

theorem parent (wellFormed : tree.IsWellFormed) (present : tree.entryAt? place ≠ none) :
    tree.entryAt? place.dropLast = some .directory := by
  rcases (entryAt?_ne_none_iff tree place).mp present with rfl | listed
  · exact entryAt?_root tree
  · exact wellFormed.rooted place listed

theorem isPlain (wellFormed : tree.IsWellFormed) (present : tree.entryAt? place ≠ none) :
    IsPlain place := by
  rcases (entryAt?_ne_none_iff tree place).mp present with rfl | listed
  · exact List.forall_mem_nil IsName
  · exact wellFormed.named place listed

/-- A directory or file is put in a directory. A directory can only be replaced by itself. -/
theorem assign (wellFormed : tree.IsWellFormed) {entry : Entry} (named : place ≠ [])
    (plain : IsPlain place) (parent : tree.entryAt? place.dropLast = some .directory)
    (kept : tree.entryAt? place = some .directory → entry = .directory) :
    IsWellFormed (tree.assign place entry) where
  distinct := Mapping.nodup_keys_assign wellFormed.distinct place entry
  rooted := by
    intro other listed
    have above : tree.entryAt? other.dropLast = some .directory := by
      rcases (Mapping.mem_keys_assign tree place other entry).mp listed with known | rfl
      · exact wellFormed.rooted other known
      · exact parent
    rw [entryAt?_assign tree named]
    by_cases here : place = other.dropLast
    · rw [if_pos here, kept (here ▸ above)]
    · rw [if_neg here, above]
  named := by
    intro other listed
    rcases (Mapping.mem_keys_assign tree place other entry).mp listed with known | rfl
    · exact wellFormed.named other known
    · exact plain

/-- The directories on the way to a directory are directories. -/
theorem locate (wellFormed : tree.IsWellFormed) {path : Path} (plain : IsPlain path)
    (parent : tree.entryAt? path.dropLast = some .directory) : tree.locate path = .ok path := by
  rw [locate_eq_ok, and_iff_right plain.isValid]
  induction path using List.reverseRecOn with
  | nil => rfl
  | append_singleton front name inductionHypothesis =>
      rw [List.dropLast_concat] at parent
      obtain ⟨before, last⟩ := isPlain_append.mp plain
      obtain ⟨inner, -, short⟩ := last name (List.mem_singleton_self name)
      have above : tree.entryAt? front.dropLast = some .directory :=
        wellFormed.parent (by rw [parent]; exact nofun)
      rw [List.foldlM_append, inductionHypothesis before above]
      change [name].foldlM tree.step front = .ok (front ++ [name])
      rw [List.foldlM_cons, step_name parent inner short]
      rfl

theorem locate_present (wellFormed : tree.IsWellFormed) (present : tree.entryAt? place ≠ none) :
    tree.locate place = .ok place :=
  wellFormed.locate (wellFormed.isPlain present) (wellFormed.parent present)

end IsWellFormed

section Inner

variable {tree : FileTree}

/-- Without double dots every name is added to the place. -/
theorem follow_inner {names : List String} {place final : Path} (inner : ".." ∉ names)
    (led : names.foldlM tree.step place = .ok final) : final = place ++ names := by
  induction names generalizing place with
  | nil => exact (Except.ok.inj led).symm.trans (List.append_nil place).symm
  | cons name names inductionHypothesis =>
      rw [List.mem_cons, not_or] at inner
      rw [List.foldlM_cons] at led
      cases reached : tree.step place name with
      | error obstacle =>
          rw [reached] at led
          contradiction
      | ok next =>
          rw [reached] at led
          have moved : next = place ++ [name] := by
            rw [step] at reached
            split at reached
            · contradiction
            · contradiction
            · rw [if_neg (Ne.symm inner.1)] at reached
              split at reached
              · contradiction
              · exact (Except.ok.inj reached).symm
          rw [inductionHypothesis inner.2 led, moved, List.append_assoc, List.singleton_append]

theorem locate_inner {path place : Path} (inner : ".." ∉ path)
    (located : tree.locate path = .ok place) : place = path :=
  follow_inner inner (locate_eq_ok.mp located).2

/-- Without double dots the ancestors are the places named by the front of the path. -/
theorem makeDirectories_extends_inner (tree : FileTree) {path : Path}
    (inner : ".." ∉ path.dropLast) :
    Extends tree (tree.makeDirectories path.dropLast).1 (· <+: path.dropLast) := by
  refine (makeDirectories_extends tree path).mono ?_
  rintro place ⟨front, within, located⟩
  rwa [locate_inner (fun member => inner (within.subset member)) located]

end Inner

section Clear

variable {tree : FileTree}

/-- No name on the way leads to a file. -/
def IsClear (tree : FileTree) (place : Path) (names : List String) : Prop :=
  ∀ front, front <+: names → ∀ content, tree.entryAt? (place ++ front) ≠ some (.file content)

instance (tree : FileTree) (place : Path) (names : List String) :
    Decidable (tree.IsClear place names) :=
  decidable_of_iff (∀ front ∈ names.inits,
      tree.isPresent (place ++ front) = true → tree.isDirectory (place ++ front) = true) <| by
    refine forall_congr' fun front => imp_congr (List.mem_inits front names) ?_
    rw [isPresent, isDirectory]
    rcases tree.entryAt? (place ++ front) with _ | _ | content <;> simp

theorem IsClear.next {place : Path} {name : String} {names : List String}
    (clear : tree.IsClear place (name :: names)) : tree.IsClear (place ++ [name]) names := by
  intro front within content
  rw [List.append_assoc, List.singleton_append]
  exact clear (name :: front) (List.cons_prefix_cons.mpr ⟨rfl, within⟩) content

theorem IsClear.here {place : Path} {name : String} {names : List String}
    (clear : tree.IsClear place (name :: names)) (content : ByteArray) :
    tree.entryAt? (place ++ [name]) ≠ some (.file content) :=
  clear [name] ⟨names, rfl⟩ content

/-- More directories do not put a file on the way. -/
theorem IsClear.assign {place spot : Path} {names : List String} (clear : tree.IsClear place names)
    (named : spot ≠ []) : IsClear (tree.assign spot .directory) place names := by
  intro front within content
  rw [entryAt?_assign tree named]
  split
  · exact nofun
  · exact clear front within content

/-- A clear way leads to its end or to a place where nothing is. -/
theorem follow_clear {place : Path} {names : List String} (plain : IsPlain names)
    (clear : tree.IsClear place names) :
    names.foldlM tree.step place = .ok (place ++ names) ∨
      names.foldlM tree.step place = .error .missing := by
  induction names generalizing place with
  | nil => exact .inl (congrArg Except.ok (List.append_nil place).symm)
  | cons name names inductionHypothesis =>
      obtain ⟨⟨inner, -, short⟩, later⟩ := List.forall_mem_cons.mp plain
      rw [List.foldlM_cons]
      cases there : tree.entryAt? place with
      | none =>
          right
          rw [step, there]
          rfl
      | some entry =>
          cases entry with
          | file content =>
              exact absurd there (by simpa using clear [] List.nil_prefix content)
          | directory =>
              rw [step_name there inner short, List.append_cons place name names]
              exact inductionHypothesis later clear.next

/-- All directories of a clear way can be made. -/
theorem makeFrom_clear {place : Path} {names : List String} (plain : IsPlain names)
    (clear : tree.IsClear place names) (start : tree.entryAt? place = some .directory) :
    (tree.makeFrom place names).2 = .ok (place ++ names) := by
  induction names generalizing tree place with
  | nil => exact congrArg Except.ok (List.append_nil place).symm
  | cons name names inductionHypothesis =>
      obtain ⟨⟨inner, -, short⟩, later⟩ := List.forall_mem_cons.mp plain
      have named : place ++ [name] ≠ [] := by simp
      rw [makeFrom, step_name start inner short, List.append_cons place name names]
      cases there : tree.entryAt? (place ++ [name]) with
      | some entry =>
          cases entry with
          | file content => exact absurd there (clear.here content)
          | directory =>
              simp only [there]
              exact inductionHypothesis later clear.next there
      | none =>
          simp only [there]
          refine inductionHypothesis later (clear.next.assign named) ?_
          rw [entryAt?_assign tree named, if_pos rfl]

theorem makeDirectories_clear {path : Path} (plain : IsPlain path) (clear : tree.IsClear [] path) :
    (tree.makeDirectories path).2 = .ok path := by
  have made := makeFrom_clear plain clear (entryAt?_root tree)
  rw [List.nil_append] at made
  rw [makeDirectories, locate, if_pos plain.isValid]
  rcases follow_clear plain clear with reached | missing
  · rw [reached]
    exact made
  · rw [missing]
    exact made

end Clear

namespace IsWellFormed

variable {tree : FileTree}

/-- All ancestors of a directory are directories. -/
theorem isClear (wellFormed : tree.IsWellFormed) {place : Path}
    (directory : tree.entryAt? place = some .directory) : tree.IsClear [] place := by
  rintro front ⟨rest, rfl⟩ content
  rw [List.nil_append]
  induction rest using List.reverseRecOn with
  | nil =>
      rw [List.append_nil] at directory
      rw [directory]
      exact nofun
  | append_singleton before name inductionHypothesis =>
      refine inductionHypothesis ?_
      have above := wellFormed.parent (by rw [directory]; exact nofun)
      rwa [← List.append_assoc, List.dropLast_concat] at above

theorem makeFrom (wellFormed : tree.IsWellFormed) {names : Path} (valid : names.isValid = true)
    (place : Path) : (tree.makeFrom place names).1.IsWellFormed := by
  induction names generalizing tree place with
  | nil => exact wellFormed
  | cons name names inductionHypothesis =>
      rw [Path.isValid, List.all_cons, Bool.and_eq_true, ← Path.isValid] at valid
      rw [FileTree.makeFrom]
      cases led : tree.step place name with
      | error obstacle => exact wellFormed
      | ok next =>
          cases there : tree.entryAt? next with
          | some entry =>
              cases entry with
              | file content =>
                  simp only [there]
                  exact wellFormed
              | directory =>
                  simp only [there]
                  exact inductionHypothesis wellFormed valid.2 next
          | none =>
              simp only [there]
              refine inductionHypothesis ?_ valid.2 next
              have start := step_start led
              have present : tree.entryAt? place ≠ none := by simp [start]
              -- A double dot leads to a directory, so the new place has a name of its own.
              by_cases parent : name = ".."
              · simp only [step, start, if_pos parent, Except.ok.injEq] at led
                rw [← led, wellFormed.parent present] at there
                contradiction
              · simp only [step, start, if_neg parent] at led
                split at led
                · contradiction
                · case _ short =>
                    obtain rfl := Except.ok.inj led
                    have proper : IsName name :=
                      ⟨parent, by simpa using valid.1, Nat.not_lt.mp short⟩
                    refine wellFormed.assign (by simp) ?_ ?_ fun _ => rfl
                    · rw [isPlain_append]
                      exact ⟨wellFormed.isPlain present, by simpa [IsPlain] using proper⟩
                    · rw [List.dropLast_concat, start]

theorem makeDirectories (wellFormed : tree.IsWellFormed) (path : Path) :
    (tree.makeDirectories path).1.IsWellFormed := by
  rcases makeDirectories_cases tree path with ⟨obstacle, stopped⟩ | ⟨valid, followed⟩
  · rw [stopped]
    exact wellFormed
  · rw [followed]
    exact wellFormed.makeFrom valid []

end IsWellFormed

end SvgComponent.FileTree
