/-
This file shows which sources a run has and when two of them have one target.
-/

import Mathlib.Data.List.Sort
import Mathlib.Data.String.Basic
import SvgComponent.Command.Source
import SvgComponent.Proofs.FileTree.WellFormed

namespace SvgComponent.Command

section Sources

variable {tree : FileTree} {path : Path}

theorem sources_file (file : tree.isDirectory path = false) : sources tree path = [path] := by
  rw [sources, file]
  rfl

/-- The sources of a directory are the entries below it with the name of a source. -/
theorem mem_sources (directory : tree.isDirectory path = true) (source : Path) :
    source ∈ sources tree path ↔ source ∈ Mapping.keys tree ∧
      ∃ middle name, source = path ++ middle ++ [name] ∧ isSource name = true := by
  rw [sources, if_pos directory, List.mem_mergeSort, List.mem_filter]
  refine and_congr_right fun listed => ?_
  simp only [Bool.and_eq_true, List.isPrefixOf_iff_prefix, decide_eq_true_eq, gt_iff_lt]
  constructor
  · rintro ⟨⟨⟨below, rfl⟩, longer⟩, named⟩
    rcases List.eq_nil_or_concat' below with rfl | ⟨middle, name, rfl⟩
    · simp at longer
    · rw [← List.append_assoc] at named ⊢
      exact ⟨middle, name, rfl, by simpa using named⟩
  · rintro ⟨middle, name, rfl, named⟩
    exact ⟨⟨⟨middle ++ [name], (List.append_assoc _ _ _).symm⟩, by simp⟩, by simpa using named⟩

theorem pairwise_mergeSort (entries : List Path) :
    (entries.mergeSort fun first second => !decide (second < first)).Pairwise (· ≤ ·) := by
  have sorted : (entries.mergeSort fun first second => !decide (second < first)).Pairwise
      fun first second => (!decide (second < first)) = true := by
    apply List.pairwise_mergeSort
    · intro first second third before after
      simp only [Bool.not_eq_true', decide_eq_false_iff_not, not_lt] at before after ⊢
      exact before.trans after
    · intro first second
      simpa using le_total first second
  simpa using sorted

/-- The sources of a run stand in the order of their paths, each of them once. -/
theorem pairwise_sources (distinct : (Mapping.keys tree).Nodup) (path : Path) :
    (sources tree path).Pairwise (· < ·) := by
  rw [sources]
  split
  · have once := (List.mergeSort_perm _ fun first second : Path =>
      !decide (second < first)).nodup_iff.mpr (distinct.filter fun entry =>
        path.isPrefixOf entry && entry.length > path.length && (entry.getLast?.any isSource))
    exact ((pairwise_mergeSort _).and once).imp fun ⟨before, other⟩ => lt_of_le_of_ne before other
  · exact List.pairwise_singleton _ _

end Sources

section Targets

/-- The stem of a source name is what stands before the suffix, unless that is nothing. -/
theorem stem_source {name : String} (source : isSource name = true) :
    name = ".svg" ∧ Path.stem name = ".svg" ∨
      ∃ base, base ≠ "" ∧ name = base ++ ".svg" ∧ Path.stem name = base := by
  obtain ⟨base, same⟩ := List.isSuffixOf_iff_suffix.mp source
  have whole : name = String.ofList base ++ ".svg" := by
    rw [← String.toList_inj, String.toList_append, String.toList_ofList, same]
  cases base with
  | nil =>
      left
      rw [whole]
      exact ⟨rfl, by decide⟩
  | cons first rest =>
      right
      refine ⟨String.ofList (first :: rest), by simp, whole, ?_⟩
      have back : name.toList.reverse = 'g' :: 'v' :: 's' :: '.' :: (first :: rest).reverse := by
        rw [← same, List.reverse_append]
        rfl
      rw [Path.stem, back]
      simp

/-- The name of a target. -/
def targetName (name : String) : String := Path.stem name ++ ".js"

theorem isSource_append (base : String) : isSource (base ++ ".svg") = true := by
  rw [isSource, String.toList_append, List.isSuffixOf_iff_suffix]
  exact List.suffix_append _ _

/-- The suffix is exchanged. -/
theorem targetName_append {base : String} (named : base ≠ "") :
    targetName (base ++ ".svg") = base ++ ".js" := by
  rcases stem_source (isSource_append base) with ⟨nothing, -⟩ | ⟨other, -, same, stem⟩
  · exact absurd (String.append_eq_right_iff.mp nothing) named
  · rw [targetName, stem, (String.append_left_inj _).mp same]

/-- Source names with one target name are the same, or one of them has nothing before its suffix. -/
theorem targetName_eq_iff {first second : String} (firstSource : isSource first = true)
    (secondSource : isSource second = true) :
    targetName first = targetName second ↔ first = second ∨
      first = ".svg" ∧ second = ".svg.svg" ∨ first = ".svg.svg" ∧ second = ".svg" := by
  have doubled : ".svg.svg" = ".svg" ++ ".svg" := rfl
  rw [targetName, targetName, String.append_left_inj]
  rcases stem_source firstSource with ⟨rfl, stem⟩ | ⟨base, named, rfl, stem⟩ <;>
    rcases stem_source secondSource with ⟨rfl, stem'⟩ | ⟨base', named', rfl, stem'⟩
  · simp
  · have other : ".svg" ≠ base' ++ ".svg" := fun same =>
      named' (String.append_eq_right_iff.mp same.symm)
    rw [stem, stem', doubled, String.append_left_inj]
    simp [other, eq_comm]
  · rw [stem, stem', doubled, String.append_left_inj]
    simp [named]
  · rw [stem, stem', String.append_left_inj]
    simp [named, named']

/-- No target has the name of a source. -/
theorem isSource_targetName (name : String) : isSource (targetName name) = false := by
  rw [Bool.eq_false_iff]
  intro source
  obtain ⟨base, same⟩ := List.isSuffixOf_iff_suffix.mp source
  have last := congrArg List.getLast? same
  simp [targetName] at last

/-- A name that has nothing before its suffix, and the same name with a second suffix. -/
def Shadows (first second : Path) : Prop :=
  ∃ directory, first = directory ++ [".svg"] ∧ second = directory ++ [".svg.svg"]

theorem shadows_concat {front back : Path} {name other : String} :
    Shadows (front ++ [name]) (back ++ [other]) ↔
      front = back ∧ name = ".svg" ∧ other = ".svg.svg" := by
  constructor
  · rintro ⟨directory, first, second⟩
    obtain ⟨rfl, rfl⟩ : front = directory ∧ name = ".svg" := by simpa using first
    obtain ⟨rfl, rfl⟩ : back = front ∧ other = ".svg.svg" := by simpa using second
    exact ⟨rfl, rfl, rfl⟩
  · rintro ⟨rfl, rfl, rfl⟩
    exact ⟨front, rfl, rfl⟩

variable {tree : FileTree} {path : Path}

theorem target_below (directory : tree.isDirectory path = true) (output middle : Path)
    (name : String) : target tree path output (path ++ middle ++ [name]) =
      output ++ middle ++ [targetName name] := by
  have below : output ++ (path ++ middle ++ [name]).drop path.length =
      output ++ middle ++ [name] := by
    simp
  rw [target, if_pos directory, below, Path.withSuffix, List.getLast?_concat]
  simp [targetName]

/-- Distinct sources of a run have distinct targets, unless they lie in one directory and have the
names `.svg` and `.svg.svg`. -/
theorem targets_coincide_iff (output : Path) {first second : Path}
    (firstSource : first ∈ sources tree path) (secondSource : second ∈ sources tree path) :
    target tree path output first = target tree path output second ↔
      first = second ∨ Shadows first second ∨ Shadows second first := by
  cases directory : tree.isDirectory path with
  | false =>
      rw [sources_file directory, List.mem_singleton] at firstSource secondSource
      simp [firstSource, secondSource]
  | true =>
      obtain ⟨-, middle, name, rfl, named⟩ := (mem_sources directory first).mp firstSource
      obtain ⟨-, middle', name', rfl, named'⟩ := (mem_sources directory second).mp secondSource
      rw [target_below directory, target_below directory, shadows_concat, shadows_concat]
      have parts (front : Path) (last other : String) :
          front ++ middle ++ [last] = front ++ middle' ++ [other] ↔
            middle = middle' ∧ last = other := by
        simp
      rw [parts, parts, targetName_eq_iff named named', List.append_right_inj,
        List.append_right_inj]
      tauto

/-- A directory may have both names. -/
theorem targets_coincide_hidden :
    let tree : FileTree := [(["d"], .directory), (["d", ".svg"], .file "<svg/>".toUTF8),
      (["d", ".svg.svg"], .file "<svg/>".toUTF8)]
    ["d", ".svg"] ∈ sources tree ["d"] ∧ ["d", ".svg.svg"] ∈ sources tree ["d"] ∧
      target tree ["d"] ["o"] ["d", ".svg"] = target tree ["d"] ["o"] ["d", ".svg.svg"] := by
  intro tree
  have directory : tree.isDirectory ["d"] = true := by decide
  have first : ["d", ".svg"] ∈ sources tree ["d"] :=
    (mem_sources directory _).mpr ⟨by decide, [], ".svg", rfl, by decide⟩
  have second : ["d", ".svg.svg"] ∈ sources tree ["d"] :=
    (mem_sources directory _).mpr ⟨by decide, [], ".svg.svg", rfl, by decide⟩
  exact ⟨first, second,
    (targets_coincide_iff ["o"] first second).mpr (.inr (.inl ⟨["d"], rfl, rfl⟩))⟩

end Targets

end SvgComponent.Command
