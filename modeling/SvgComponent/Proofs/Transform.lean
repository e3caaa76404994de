/-
This file shows what a transform returns, in particular without optimization.
-/

import SvgComponent.Proofs.Component.Balance
import SvgComponent.Transform

namespace SvgComponent.Transform

open Markup

/-- The source of the module of some markup, which passes the check. -/
def IsModule (source : String) : Prop :=
  ∃ preserve markup root, Markup.compile preserve markup = .ok root ∧
    Component.source? root = some source ∧ Component.Check.check source = .ok ()

/-- Markup fails to compile or has a module. -/
theorem compile_cases (settings : Settings) (markup : String) :
    (∃ error, compile settings markup = .error (.markup error)) ∨
      ∃ source, compile settings markup = .ok source ∧ IsModule source := by
  cases outcome : Markup.compile settings.preserveWhitespace.isTruthy markup with
  | error error => exact .inl ⟨error, by simp only [compile, outcome]⟩
  | ok root =>
      obtain ⟨source, found, checked⟩ := Component.check_source outcome
      refine .inr ⟨source, by simp only [compile, outcome, found], ?_⟩
      exact ⟨_, markup, root, outcome, found, checked⟩

/-- With a library behind it, a transform fails with a message of the optimizer or an error of the
markup, or it returns a module. -/
theorem run_ofLibrary_cases (settings : Settings) (library : Library) (markup : String) :
    (∃ message, (run settings (Optimizer.ofLibrary library) markup).result =
        .error (.optimizer (.rejected message))) ∨
      (∃ error, (run settings (Optimizer.ofLibrary library) markup).result =
        .error (.markup error)) ∨
      ∃ source, (run settings (Optimizer.ofLibrary library) markup).result = .ok source ∧
        IsModule source := by
  rw [run]
  cases settings.optimizerOptions? with
  | none => exact .inr (compile_cases settings markup)
  | some options =>
      simp only [Optimizer.ofLibrary]
      cases library ⟨markup, options.without "path"⟩ with
      | error message => exact .inl ⟨_, rfl⟩
      | ok optimized => exact .inr (compile_cases settings optimized)

/-- A transform without optimization makes no requests. It returns a module that passes the check if
the markup is well formed, and reports an error of the markup otherwise. It fails in another way
exactly if it reaches a numeral with too many digits. -/
theorem run_unoptimized (settings : Settings) (optimizer : Optimizer) (markup : String)
    (disabled : settings.optimization = .bool false) :
    (run settings optimizer markup).requests = [] ∧
    ((run settings optimizer markup).result = .error (.markup .oversizedNumeral) ↔
      ReachesOversizedNumeral markup) ∧
    (¬ ReachesOversizedNumeral markup →
      (¬ IsWellFormed markup ∧ ∃ error, error ≠ .oversizedNumeral ∧
        (run settings optimizer markup).result = .error (.markup error)) ∨
      (IsWellFormed markup ∧ ∃ source, (run settings optimizer markup).result = .ok source ∧
        Component.Check.check source = .ok ())) := by
  have off : settings.optimizerOptions? = none := by
    rw [Settings.optimizerOptions?, disabled]
  have unchanged : run settings optimizer markup = ⟨[], compile settings markup⟩ := by
    rw [run, off]
  have oversized := compile_oversized_iff settings.preserveWhitespace.isTruthy markup
  rw [unchanged]
  refine ⟨rfl, ?_⟩
  simp only [compile]
  cases outcome : Markup.compile settings.preserveWhitespace.isTruthy markup with
  | error error =>
      rw [outcome, Except.error.injEq] at oversized
      simp only [Except.error.injEq, Failure.markup.injEq]
      refine ⟨oversized, fun unreached => .inl ⟨fun wellFormed => ?_, error, ?_, rfl⟩⟩
      · obtain ⟨root, compiled⟩ := compile_of_isWellFormed _ wellFormed unreached
        rw [outcome] at compiled
        contradiction
      · rw [← oversized] at unreached
        exact unreached
  | ok root =>
      obtain ⟨source, found, checked⟩ := Component.check_source outcome
      rw [outcome] at oversized
      simp only [found]
      refine ⟨?_, fun _ => .inr ⟨isWellFormed_of_compile outcome, source, rfl, checked⟩⟩
      rw [← oversized]
      simp

/-- Brackets and quotes of a text cannot make the module fail the check. -/
theorem run_unoptimized_brackets :
    let settings : Settings := ⟨.bool false, .null, .bool true⟩
    let optimizer := Optimizer.ofFunction fun request => .ok request.markup
    settings.optimization = .bool false ∧
      ∃ source, (run settings optimizer "<svg>)]\x7d'\"\\</svg>").result = .ok source ∧
        Component.Check.check source = .ok () := by
  intro settings optimizer
  refine ⟨rfl, ?_⟩
  have compiled : Markup.compile true "<svg>)]\x7d'\"\\</svg>" =
      .ok ⟨Head.ofAttributes "svg" [], [.text ")]\x7d'\"\\"]⟩ := rfl
  have unreached : ¬ ReachesOversizedNumeral "<svg>)]\x7d'\"\\</svg>" := by
    rw [← compile_oversized_iff true, compiled]
    simp
  obtain ⟨-, -, accepted⟩ := run_unoptimized settings optimizer "<svg>)]\x7d'\"\\</svg>" rfl
  rcases accepted unreached with ⟨illFormed, -⟩ | ⟨-, passed⟩
  · exact absurd (isWellFormed_of_compile compiled) illFormed
  · exact passed

end SvgComponent.Transform
