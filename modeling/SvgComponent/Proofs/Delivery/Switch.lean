/-
This file shows that of all options of a query a host uses only the one for the optimizer, and which
queries turn the optimizer off.
-/

import SvgComponent.Proofs.Delivery
import SvgComponent.Proofs.Query.Pieces

namespace SvgComponent

/-- An optimizer is recorded if every call of it leaves a request. -/
def Optimizer.IsRecorded (optimizer : Optimizer) : Prop :=
  ∀ request, (optimizer request).requests ≠ []

theorem Optimizer.isRecorded_ofLibrary (library : Library) :
    (Optimizer.ofLibrary library).IsRecorded :=
  fun _ => List.cons_ne_nil _ []

namespace Settings

theorem withOption_congr {first second : Options}
    (same : first.valueAt? optionName = second.valueAt? optionName) (path : Value) :
    withOption first path = withOption second path := by
  rw [withOption, withOption, same]

/-- The optimizer is turned off by the value false of its option and by nothing else. -/
theorem optimizerOptions?_withOption_eq_none_iff (options : Options) (path : Value) :
    (withOption options path).optimizerOptions? = none ↔
      options.valueAt? optionName = some (.bool false) := by
  rw [withOption]
  cases options.valueAt? optionName with
  | none => simp [optimizerOptions?, default]
  | some value =>
      simp only [optimizerOptions?, Option.some.injEq]
      split <;> simp_all

end Settings

/-- A transform calls a recorded optimizer exactly if the optimizer is not turned off. -/
theorem Transform.requests_eq_nil_iff (settings : Settings) {optimizer : Optimizer}
    (recorded : optimizer.IsRecorded) (markup : String) :
    (run settings optimizer markup).requests = [] ↔ settings.optimizerOptions? = none := by
  rw [run]
  cases settings.optimizerOptions? with
  | none => simp
  | some options =>
      simp only [reduceCtorEq, iff_false]
      split <;> exact recorded _

namespace Delivery

/-- The query of a host does not matter to a completion. -/
theorem Host.complete_query (host : Host) (query : Value) (requests : List Request)
    (report : Report) :
    ({ host with query }.complete requests report).requests =
        (host.complete requests report).requests ∧
      ({ host with query }.complete requests report).reports =
        (host.complete requests report).reports ∧
      ({ host with query }.complete requests report).result =
        (host.complete requests report).result := by
  simp only [complete]
  split
  · exact ⟨rfl, rfl, rfl⟩
  · cases host.callback <;> exact ⟨rfl, rfl, rfl⟩

theorem Host.complete_requests (host : Host) (requests : List Request) (report : Report) :
    (host.complete requests report).requests = requests := by
  simp only [complete]
  split
  · rfl
  · cases host.callback <;> rfl

/-- Two queries of pieces in which the same tokens name the option of the optimizer lead to the same
calls of the optimizer and to the same report. The optimizer is skipped exactly if the last piece
that names its option turns it off. -/
theorem load_uses_one_option (resource content : String) (callback : Callback)
    (optimizer : Optimizer) {first second : String} {firstPieces secondPieces : List (List Char)}
    {firstOptions secondOptions : Options}
    (firstCut : Query.pieces? first = some firstPieces)
    (secondCut : Query.pieces? second = some secondPieces)
    (firstParsed : Query.parse first = .ok firstOptions)
    (secondParsed : Query.parse second = .ok secondOptions)
    (same : Query.tokensNamed Settings.optionName firstPieces =
      Query.tokensNamed Settings.optionName secondPieces) :
    let load query := Host.load ⟨resource, .string query, callback, false⟩ optimizer content
    (load first).requests = (load second).requests ∧
      (load first).reports = (load second).reports ∧
      (load first).result = (load second).result ∧
      (optimizer.IsRecorded →
        ((load first).requests = [] ↔
          Query.LastTurnsOff Settings.optionName firstPieces)) := by
  intro load
  obtain rfl := Query.parse_pieces firstCut firstParsed
  obtain rfl := Query.parse_pieces secondCut secondParsed
  have values : Mapping.valueAt? ((Query.tokens firstPieces).foldl Query.Token.apply [])
      Settings.optionName =
        Mapping.valueAt? ((Query.tokens secondPieces).foldl Query.Token.apply [])
          Settings.optionName := by
    rw [Query.Token.valueAt?_applied, Query.Token.valueAt?_applied]
    exact congrArg _ same
  have settings := Settings.withOption_congr values (.string resource)
  have firstLoaded : load first = _ :=
    Host.load_parsed ⟨resource, .string first, callback, false⟩ rfl firstParsed optimizer content
  have secondLoaded : load second = _ :=
    Host.load_parsed ⟨resource, .string second, callback, false⟩ rfl secondParsed optimizer content
  rw [← settings] at secondLoaded
  rw [firstLoaded, secondLoaded]
  obtain ⟨requests, reports, result⟩ :=
    Host.complete_query ⟨resource, .string second, callback, false⟩ (.string first) _ _
  refine ⟨requests, reports, result, fun recorded => ?_⟩
  rw [Host.complete_requests, Transform.requests_eq_nil_iff _ recorded,
    Settings.optimizerOptions?_withOption_eq_none_iff,
    Query.Token.valueAt?_applied_iff (by simp)]
  exact Query.getLast?_tokensNamed_iff Settings.optionName firstPieces

/-- Tokens of other names stand around the same tokens, and the last one of these turns the
optimizer off with an escape in its name. -/
theorem load_uses_one_option_escaped :
    let identity := Optimizer.ofLibrary fun request => .ok request.markup
    let load query := Host.load ⟨"icon.svg", .string query, .accepting, false⟩ identity "<svg/>"
    (load "?svgo[]=a&-s%76go").requests = [] ∧
      (load "?svgo[]=a&-s%76go").reports = (load "?x,svgo[]=a&-svg=1,svgo=f%61lse&-x").reports := by
  intro identity load
  have firstCut : Query.pieces? "?svgo[]=a&-s%76go" =
      some ["svgo[]=a".toList, "-s%76go".toList] := by decide +kernel
  have secondCut : Query.pieces? "?x,svgo[]=a&-svg=1,svgo=f%61lse&-x" =
      some ["x".toList, "svgo[]=a".toList, "-svg=1".toList, "svgo=f%61lse".toList,
        "-x".toList] := by decide +kernel
  have firstParsed : Query.parse "?svgo[]=a&-s%76go" = .ok [("svgo", .bool false)] := by
    decide +kernel
  have secondParsed : Query.parse "?x,svgo[]=a&-svg=1,svgo=f%61lse&-x" =
      .ok [("x", .bool false), ("svgo", .bool false), ("-svg", .string "1")] := by decide +kernel
  obtain ⟨-, reports, -, skipped⟩ := load_uses_one_option "icon.svg" "<svg/>" .accepting identity
    firstCut secondCut firstParsed secondParsed (by decide +kernel)
  refine ⟨(skipped (Optimizer.isRecorded_ofLibrary _)).mpr ?_, reports⟩
  exact ⟨["svgo[]=a".toList], _, [], rfl, .flag (by decide) (by decide +kernel), by simp⟩

end Delivery
end SvgComponent
