/-
This file shows what a write adds to a well-formed tree, and when it succeeds.
-/

import SvgComponent.Proofs.FileTree.WellFormed
import SvgComponent.Proofs.Output

namespace SvgComponent.Output

open FileTree (Extends IsPlain IsWellFormed IsClear)

/-- Entries stay as they are, and what is new is a directory or a file with an accepted content. -/
def Adds (before after : FileTree) (accepted : ByteArray → Prop) : Prop :=
  ∀ place, after.entryAt? place = before.entryAt? place ∨
    before.entryAt? place = none ∧
      ∀ content, after.entryAt? place = some (.file content) → accepted content

namespace Adds

variable {before middle after : FileTree} {accepted : ByteArray → Prop}

theorem refl (tree : FileTree) (accepted : ByteArray → Prop) : Adds tree tree accepted :=
  fun _ => .inl rfl

theorem trans (first : Adds before middle accepted) (second : Adds middle after accepted) :
    Adds before after accepted := by
  intro place
  rcases second place with same | ⟨absent, fine⟩
  · rw [same]
    exact first place
  · rcases first place with same | ⟨absent', -⟩
    · exact .inr ⟨same ▸ absent, fine⟩
    · exact .inr ⟨absent', fine⟩

theorem mono {wider : ByteArray → Prop} (added : Adds before after accepted)
    (implied : ∀ content, accepted content → wider content) : Adds before after wider := by
  intro place
  rcases added place with same | ⟨absent, fine⟩
  · exact .inl same
  · exact .inr ⟨absent, fun content present => implied content (fine content present)⟩

theorem of_extends {allowed : Path → Prop} (grown : Extends before after allowed) :
    Adds before after accepted := by
  intro place
  rcases grown place with same | ⟨absent, made, -⟩
  · exact .inl same
  · refine .inr ⟨absent, fun content present => ?_⟩
    rw [made] at present
    exact nomatch present

/-- No entry is lost or changed. -/
theorem keeps (added : Adds before after accepted) {place : Path} {entry : Entry}
    (present : before.entryAt? place = some entry) : after.entryAt? place = some entry := by
  rcases added place with same | ⟨absent, -⟩
  · rw [same, present]
  · rw [absent] at present
    contradiction

end Adds

section Preservation

variable {tree : FileTree} (mode : Mode) (validator : Option Validator) (path : Path)
  (content : String)

theorem write_isWellFormed (wellFormed : tree.IsWellFormed) :
    (write mode validator tree path content).1.IsWellFormed := by
  let call : Call := ⟨mode, validator, path, content, []⟩
  have outcome := call.write_outcome tree
  change IsWellFormed (call.write tree).1
  generalize (call.write tree).1 = after, (call.write tree).2 = result at outcome
  cases outcome with
  | refused => exact wellFormed
  | failed => exact wellFormed.makeDirectories _
  | written admitted made inner checked vacant =>
      have prepared := wellFormed.makeDirectories call.path.dropLast
      obtain ⟨-, there⟩ := FileTree.makeDirectories_reaches made
      rw [made] at prepared
      obtain ⟨visible, short⟩ := checkDraft_ok checked
      refine prepared.assign (by simp) ?_ ?_ fun present => absurd present vacant
      · rw [FileTree.isPlain_append]
        refine ⟨prepared.isPlain (by rw [there]; exact nofun), ?_⟩
        simpa [IsPlain, FileTree.IsName] using ⟨inner, by simpa using visible, short⟩
      · rw [List.dropLast_concat, there]

/-- A write that refuses existing targets only adds its content, if its path has no double dots. -/
theorem write_adds (wellFormed : tree.IsWellFormed) (inner : ".." ∉ path) :
    Adds tree (write .refuse validator tree path content).1 (· = content.toUTF8) := by
  let call : Call := ⟨.refuse, validator, path, content, []⟩
  have outcome := call.write_outcome tree
  change Adds tree (call.write tree).1 _
  generalize (call.write tree).1 = after, (call.write tree).2 = result at outcome
  cases outcome with
  | refused => exact .refl _ _
  | failed => exact .of_extends (FileTree.makeDirectories_extends tree call.path)
  | @written prepared directory admitted made named checked vacant =>
      have grown := FileTree.makeDirectories_extends tree call.path
      rw [made] at grown
      -- Without double dots the path itself is the place of the target.
      have located := FileTree.locate_inner inner (Call.locate_target made named checked)
      rw [located] at vacant ⊢
      have absent : tree.entryAt? path = none := by
        by_contra present
        exact admitted.vacant ⟨rfl, path, wellFormed.locate_present present, present⟩
      have root : path ≠ [] := FileTree.ne_root_of_entryAt?_ne vacant
      refine (Adds.of_extends grown).trans fun place => ?_
      rw [FileTree.entryAt?_assign prepared root]
      by_cases here : path = place
      · subst here
        rw [if_pos rfl]
        refine .inr ⟨?_, fun bytes present => ?_⟩
        · rcases grown path with same | ⟨-, there, -⟩
          · rw [same, absent]
          · exact absurd there vacant
        · simpa [call, eq_comm] using present
      · exact .inl (if_neg here)

end Preservation

/-- Every name is short enough, with room for the draft beside the last one. The tree has no limit
on whole paths. A system that has one must allow the path of the draft, which is longer as well. -/
def HasRoom (path : Path) : Prop :=
  (∀ name ∈ path.dropLast, name.utf8ByteSize ≤ FileTree.nameLimit) ∧
    ∀ name ∈ path.getLast?, name.utf8ByteSize + draftExcess ≤ FileTree.nameLimit

instance : DecidablePred HasRoom := fun _ => inferInstanceAs (Decidable (_ ∧ _))

/-- A content is in its place, and the directories on the way have been made. -/
structure Puts (before after : FileTree) (path : Path) (content : ByteArray) : Prop where
  placed : after.entryAt? path = some (.file content)
  spared : ∀ place, place ≠ path → after.entryAt? place = before.entryAt? place ∨
    before.entryAt? place = none ∧ after.entryAt? place = some .directory ∧ place <+: path.dropLast

/-- A target that can be written: its names can be used, no ancestor is a file, and nothing is in
its place that must stay. -/
structure IsFree (mode : Mode) (tree : FileTree) (path : Path) : Prop where
  valid : path.isValid = true
  inner : ".." ∉ path
  room : HasRoom path
  clear : tree.IsClear [] path.dropLast
  vacant : tree.entryAt? path ≠ some .directory
  absent : mode = .refuse → tree.entryAt? path = none

namespace IsFree

variable {mode : Mode} {tree : FileTree} {path : Path}

theorem named (free : IsFree mode tree path) : path ≠ [] :=
  FileTree.ne_root_of_entryAt?_ne free.vacant

theorem isPlain (free : IsFree mode tree path) : IsPlain path := by
  intro name member
  have short : name.utf8ByteSize ≤ FileTree.nameLimit := by
    rw [← List.dropLast_append_getLast free.named, List.mem_append, List.mem_singleton] at member
    rcases member with before | rfl
    · exact free.room.1 name before
    · have last := free.room.2 _ (List.getLast?_eq_some_getLast free.named)
      omega
  have valid := List.all_eq_true.mp free.valid name member
  refine ⟨?_, by simpa using valid, short⟩
  rintro rfl
  exact free.inner member

theorem checkDraft (free : IsFree mode tree path) :
    checkDraft (path.getLast free.named) = .ok () := by
  have room := free.room.2 _ (List.getLast?_eq_some_getLast free.named)
  have visible := (free.isPlain _ (List.getLast_mem free.named)).2.1
  rw [Output.checkDraft, if_neg (by simpa using visible), if_neg (Nat.not_lt.mpr room)]

/-- The whole way is clear if nothing is in the place of the target. -/
theorem clear_target (free : IsFree mode tree path) (absent : tree.entryAt? path = none) :
    tree.IsClear [] path := by
  intro front within content
  rw [← List.dropLast_append_getLast free.named, List.prefix_concat_iff,
    List.dropLast_append_getLast free.named] at within
  rcases within with rfl | before
  · rw [List.nil_append, absent]
    exact nofun
  · exact free.clear front before content

/-- A free target is not refused. -/
theorem admitted (free : IsFree mode tree path) :
    (if mode = .refuse then refuseExisting tree path else .ok ()) = .ok () := by
  split
  · case _ asked =>
      have absent := free.absent asked
      rw [refuseExisting, FileTree.isTaken, FileTree.locate, if_pos free.isPlain.isValid]
      rcases FileTree.follow_clear free.isPlain (free.clear_target absent) with reached | missing
      · rw [reached, List.nil_append]
        simp [FileTree.isPresent, absent]
      · rw [missing]
  · rfl

/-- Valid content takes the place of a free target. -/
theorem write (free : IsFree mode tree path) {validator : Option Validator} {content : String}
    (accepted : (validator.getD fun _ => .ok ()) content = .ok ()) :
    (write mode validator tree path content).2 = .ok () ∧
      Puts tree (write mode validator tree path content).1 path content.toUTF8 := by
  have before : path.dropLast ++ [path.getLast free.named] = path :=
    List.dropLast_append_getLast free.named
  have plain : IsPlain path.dropLast := free.isPlain.of_isPrefix (List.dropLast_prefix path)
  have made := FileTree.makeDirectories_clear plain free.clear
  have grown := FileTree.makeDirectories_extends_inner tree plain.inner
  have vacant : (tree.makeDirectories path.dropLast).1.isDirectory path = false := by
    rw [Bool.eq_false_iff, ne_eq, FileTree.isDirectory_iff]
    rcases grown path with same | ⟨-, -, within⟩
    · rw [same]
      exact free.vacant
    · have length := within.length_le
      have positive := List.length_pos_iff.mpr free.named
      rw [List.length_dropLast] at length
      omega
  have named : path.getLast free.named ≠ ".." := (free.isPlain _ (List.getLast_mem _)).1
  have result : Output.write mode validator tree path content =
      (Mapping.assign (tree.makeDirectories path.dropLast).1 path (.file content.toUTF8),
        .ok ()) := by
    rw [Output.write, free.admitted, List.getLast?_eq_some_getLast free.named, Option.getD_some]
    generalize tree.makeDirectories path.dropLast = outcome at made vacant
    obtain ⟨prepared, reached⟩ := outcome
    subst made
    simp only [replace_eq, free.checkDraft, accepted, Except.mapError, Except.bind, if_neg named,
      before, vacant]
    rfl
  have present := FileTree.entryAt?_assign (tree.makeDirectories path.dropLast).1 free.named
    (.file content.toUTF8)
  rw [result]
  refine ⟨rfl, by rw [present, if_pos rfl], fun place other => ?_⟩
  rw [present, if_neg (Ne.symm other)]
  exact grown place

end IsFree

/-- Without room for a draft nothing is made but directories. -/
theorem write_crowded {tree : FileTree} {path directory : Path} {name : String}
    (made : (tree.makeDirectories path.dropLast).2 = .ok directory)
    (last : path.getLast? = some name) (visible : '\x00' ∉ name.toList)
    (crowded : FileTree.nameLimit < name.utf8ByteSize + draftExcess)
    (validator : Option Validator) (content : String) :
    write .replace validator tree path content =
      ((tree.makeDirectories path.dropLast).1, .error (.obstacle .nameTooLong)) := by
  have refused : checkDraft name = .error (.obstacle .nameTooLong) := by
    rw [checkDraft, if_neg (by simpa using visible), if_pos crowded]
  have replaces : Mode.replace ≠ .refuse := by decide
  rw [write, if_neg replaces, last, Option.getD_some]
  generalize tree.makeDirectories path.dropLast = outcome at made
  obtain ⟨prepared, reached⟩ := outcome
  subst made
  simp only [replace_eq, refused, Except.bind]

end SvgComponent.Output
