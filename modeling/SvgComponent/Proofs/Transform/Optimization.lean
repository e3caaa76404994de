/-
This file shows that a library is no more than a stage in front of the transform without
optimization.
-/

import SvgComponent.Proofs.Mapping
import SvgComponent.Transform

namespace SvgComponent

namespace Settings

/-- The settings without optimization. -/
def unoptimized (settings : Settings) : Settings :=
  { settings with optimization := .bool false }

/-- The options that a library is handed are those of the settings other than a path. -/
def libraryOptions (settings : Settings) : Options :=
  match settings.optimization with
  | .object members => members.filter fun member => member.1 ≠ "path"
  | _ => []

/-- The name under which failures are reported is the path of the settings, if there is one. -/
def subject (settings : Settings) : String :=
  if settings.path.isTruthy then Value.Display.write settings.path else "<markup>"

/-- The path that the settings add to the options names the markup, and it is taken out again with
any path that was there. -/
theorem optimizerOptions?_eq_some {settings : Settings}
    (on : settings.optimization ≠ .bool false) :
    ∃ options, settings.optimizerOptions? = some options ∧
      options.without "path" = settings.libraryOptions ∧
      Optimizer.subject options = settings.subject := by
  rw [optimizerOptions?, libraryOptions]
  split
  · case _ off => exact absurd off on
  · case _ members object =>
      refine ⟨_, rfl, ?_, ?_⟩
      · have taken := Mapping.filter_assign (· ≠ "path") members "path" settings.path
        simpa [object, Mapping.without] using taken
      · rw [Optimizer.subject, Mapping.valueAt?_assign]
        rfl
  · case _ other =>
      refine ⟨_, rfl, ?_, rfl⟩
      split
      · case _ members object => exact absurd object (other members)
      · rfl

end Settings

namespace Transform

/-- Without optimization the markup is compiled, whatever the library does. -/
theorem run_unoptimized_eq (settings : Settings) (optimizer : Optimizer) (markup : String) :
    run settings.unoptimized optimizer markup = ⟨[], compile settings markup⟩ := rfl

/-- With optimization the library is called once, and the markup that it returns is compiled. -/
theorem run_ofLibrary {settings : Settings} (on : settings.optimization ≠ .bool false)
    (library : Library) (markup : String) :
    run settings (.ofLibrary library) markup =
      { requests := [⟨markup, settings.libraryOptions⟩]
        result := match library ⟨markup, settings.libraryOptions⟩ with
          | .ok optimized => compile settings optimized
          | .error message => .error (.optimizer (.rejected
              ("Failed to optimize " ++ settings.subject ++ ": " ++ message))) } := by
  obtain ⟨options, resolved, handed, named⟩ := Settings.optimizerOptions?_eq_some on
  rw [run, resolved]
  simp only [Optimizer.ofLibrary, handed, named]
  cases library ⟨markup, settings.libraryOptions⟩ <;> rfl

/-- A transform calls a library at most once, and it calls it exactly if optimization is not off.
The library gets the markup as it is, and the options of the settings other than a path. If it
returns markup, the transform has the result that this markup has without optimization, and if it
fails, so does the transform, whatever the markup is. A library that changes nothing makes no
difference. -/
theorem run_in_stages (settings : Settings) (library : Library) (markup : String) :
    let outcome := run settings (.ofLibrary library) markup
    let request : Request := ⟨markup, settings.libraryOptions⟩
    let plain := fun text => (run settings.unoptimized (.ofLibrary library) text).result
    outcome.requests.length ≤ 1 ∧
      (outcome.requests.length = 1 ↔ settings.optimization ≠ .bool false) ∧
      (∀ made ∈ outcome.requests, made = request) ∧
      (settings.optimization ≠ .bool false →
        (∀ optimized, library request = .ok optimized → outcome.result = plain optimized) ∧
        ∀ message, library request = .error message →
          outcome.result = .error (.optimizer (.rejected
            ("Failed to optimize " ++ settings.subject ++ ": " ++ message)))) ∧
      ((∀ asked, library asked = .ok asked.markup) → outcome.result = plain markup) := by
  intro outcome request plain
  by_cases off : settings.optimization = .bool false
  · have same : settings.unoptimized = settings := by rw [Settings.unoptimized, ← off]
    have unchanged : outcome = ⟨[], compile settings markup⟩ := by
      rw [← run_unoptimized_eq settings (.ofLibrary library) markup, same]
    rw [unchanged]
    refine ⟨Nat.zero_le 1, iff_of_false Nat.zero_ne_one fun on => on off, nofun, ?_, fun _ => rfl⟩
    exact fun on => absurd off on
  · have staged : outcome = _ := run_ofLibrary off library markup
    rw [staged]
    refine ⟨Nat.le_refl 1, iff_of_true rfl off, by simp [request], fun _ => ⟨?_, ?_⟩, ?_⟩
    · intro optimized returned
      simp only [request] at returned
      simp only [returned]
      rfl
    · intro message failed
      simp only [request] at failed
      simp only [failed]
    · intro identity
      simp only [identity]
      rfl

/-- The library sees neither path, changes what it is given, or refuses markup that has no tree. -/
theorem run_in_stages_paths :
    let settings : Settings := ⟨.object [("a", .int 1), ("path", .null), ("b", .null)],
      .string "icon.svg", .bool false⟩
    let request : Request := ⟨"<svg>", [("a", .int 1), ("b", .null)]⟩
    let replacing : Library := fun _ => .ok "<svg/>"
    let refusing : Library := fun _ => .error "no"
    (run settings (.ofLibrary replacing) "<svg>").requests = [request] ∧
      (run settings (.ofLibrary replacing) "<svg>").result =
        (run settings.unoptimized (.ofLibrary replacing) "<svg/>").result ∧
      (run settings (.ofLibrary refusing) "<svg>").result =
        .error (.optimizer (.rejected "Failed to optimize icon.svg: no")) ∧
      (run settings (.ofLibrary fun request => .ok request.markup) "<svg>").result =
        (run settings.unoptimized (.ofLibrary fun request => .ok request.markup) "<svg>").result := by
  intro settings request replacing refusing
  have on : settings.optimization ≠ .bool false := nofun
  obtain ⟨-, single, each, returned, -⟩ := run_in_stages settings replacing "<svg>"
  obtain ⟨made, whole⟩ := List.length_eq_one_iff.mp (single.mpr on)
  obtain ⟨-, -, -, refused, -⟩ := run_in_stages settings refusing "<svg>"
  obtain ⟨-, -, -, -, unchanged⟩ :=
    run_in_stages settings (fun request => .ok request.markup) "<svg>"
  refine ⟨?_, (returned on).1 "<svg/>" rfl, (refused on).2 "no" rfl, unchanged fun _ => rfl⟩
  rw [whole, each made (whole ▸ List.mem_singleton_self made)]
  rfl

end Transform
end SvgComponent
