/-
This file shows which configurations can be read and have settings.
-/

import SvgComponent.Configuration
import SvgComponent.Proofs.Mapping

namespace SvgComponent.Configuration

/-- Names that cannot be assigned at all, or that replace what a transform needs. -/
def reserved : List String := [classKey, referencesKey, membersKey, resolveKey]

/-- A sound configuration has its optimizer options and can resolve them. -/
structure IsSound (configuration : Configuration) : Prop where
  resolves : configuration.members.valueAt? resolveKey = none
  optimized : (configuration.members.valueAt? Settings.optimizationKey).isSome = true

theorem isSound_initial : initial.IsSound := by
  constructor <;> decide

/-- Exactly the sound configurations have settings. -/
theorem settings_isOk_iff (configuration : Configuration) :
    (∃ settings, configuration.settings = .ok settings) ↔ configuration.IsSound := by
  rw [settings, read]
  constructor
  · rintro ⟨settings, found⟩
    split at found
    · contradiction
    · contradiction
    · case _ resolves optimized => exact ⟨resolves, by rw [optimized]; rfl⟩
  · rintro ⟨resolves, optimized⟩
    obtain ⟨optimization, optimized⟩ := Option.isSome_iff_exists.mp optimized
    rw [resolves, optimized]
    exact ⟨_, rfl⟩

namespace IsSound

variable {configuration : Configuration} (sound : configuration.IsSound)

include sound

theorem assign {name : String} (free : name ≠ resolveKey) (value : Value) :
    (configuration.assign name value).IsSound where
  resolves := by
    rw [Configuration.assign, Mapping.valueAt?_assign, if_neg free]
    exact sound.resolves
  optimized := by
    rw [Configuration.assign, Mapping.valueAt?_assign]
    split
    · rfl
    · exact sound.optimized

theorem assignIf {name : String} (free : name ≠ resolveKey) (value : Value) (flag : Bool) :
    (if flag then configuration.assign name value else configuration).IsSound := by
  cases flag with
  | false => exact sound
  | true => exact sound.assign free value

/-- A name that is not reserved is assigned or ignored. -/
theorem set {name : String} (free : name ∉ reserved) (value : Value) :
    ∃ next, configuration.set name value = .ok next ∧ next.IsSound := by
  simp only [reserved, List.mem_cons, List.not_mem_nil, or_false, not_or] at free
  obtain ⟨noClass, noReferences, noMembers, noResolve⟩ := free
  simp only [Configuration.set, if_neg noClass, if_neg noReferences, if_neg noMembers]
  split
  · exact ⟨_, rfl, sound.assign noResolve value⟩
  · exact ⟨_, rfl, sound⟩

/-- Members without reserved names are assigned or ignored one after the other. -/
theorem setAll {members : List (String × Value)}
    (free : ∀ member ∈ members, member.1 ∉ reserved) :
    ∃ next, members.foldlM
        (fun configuration member => configuration.set member.1 member.2) configuration =
      .ok next ∧ next.IsSound := by
  induction members generalizing configuration with
  | nil => exact ⟨configuration, rfl, sound⟩
  | cons member members inductionHypothesis =>
      obtain ⟨here, later⟩ := List.forall_mem_cons.mp free
      obtain ⟨next, assigned, kept⟩ := sound.set here member.2
      rw [List.foldlM_cons, assigned]
      exact inductionHypothesis kept later

end IsSound

/-- An object without reserved names can be read, and what is read is sound. -/
theorem ofValue_isSound {members : List (String × Value)}
    (free : ∀ member ∈ members, member.1 ∉ reserved) :
    ∃ configuration, ofValue (.object members) = .ok configuration ∧ configuration.IsSound :=
  isSound_initial.setAll free

/-- A value that hides the operation leaves a configuration that can be read but has no settings. -/
example : (ofValue (.object [(resolveKey, .int 1)])).bind settings =
    .error (.notCallable resolveKey) := by
  decide +kernel

end SvgComponent.Configuration
