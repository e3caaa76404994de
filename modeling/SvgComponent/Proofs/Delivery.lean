/-
This file shows that a host gets one report, whatever is done with it afterwards.
-/

import Mathlib.Data.List.Basic
import SvgComponent.Delivery

namespace SvgComponent.Delivery

/-- An operation transforms a content under the query that the host has by then, or reports an
outcome directly. -/
inductive Operation where
  | load (query : Value) (optimizer : Optimizer) (content : String)
  | complete (report : Report)

def Operation.apply (host : Host) : Operation → Step
  | load query optimizer content => { host with query }.load optimizer content
  | complete report => host.complete [] report

/-- The steps of operations that are applied one after the other. -/
def run : Host → List Operation → List Step
  | _, [] => []
  | host, operation :: operations =>
      let step := operation.apply host
      step :: run step.host operations

/-- Why a resource has no module. -/
inductive Obstruction where
  | options (error : Query.Error)
  | transform (failure : Transform.Failure)

/-- The module of a content under the options of a query. -/
def generate (resource : String) (query : Value) (optimizer : Optimizer) (content : String) :
    Except Obstruction String :=
  match options? query with
  | .error error => .error (.options error)
  | .ok options =>
      let settings := Settings.withOption (options.getD []) (.string resource)
      (Transform.run settings optimizer content).result.mapError .transform

namespace Report

/-- A failure without a message and without a source. -/
def bare : Report := ⟨some "", none⟩

def ofSource (source : String) : Report := ⟨none, some source⟩

/-- Every obstruction is reported in the same way. -/
def ofOutcome : Except Obstruction String → Report
  | .ok source => ofSource source
  | .error _ => bare

theorem bare_ne_ofSource (source : String) : bare ≠ ofSource source := by
  simp [bare, ofSource]

theorem ofSource_injective : Function.Injective ofSource := by
  intro first second same
  simpa [ofSource] using same

end Report

namespace Operation

/-- The report that an operation has for the host. -/
def report (resource : String) : Operation → Report
  | load query optimizer content => .ofOutcome (generate resource query optimizer content)
  | complete report => report

end Operation

namespace Callback

/-- The calls of a callback that are made for one report. -/
def calls (callback : Callback) (report : Report) : List Report :=
  if callback = .absent then [] else [report]

/-- A completion fails only if its callback does. -/
def answer (callback : Callback) : Except Fault Unit :=
  if callback = .raising then .error .callbackFailed else .ok ()

end Callback

/-- A step completes its host and calls the callback once. -/
structure Step.Completes (step : Step) (host : Host) (report : Report) : Prop where
  completed : step.host.completed = true
  resource : step.host.resource = host.resource
  reports : step.reports = host.callback.calls report
  result : step.result = host.callback.answer

/-- A step fails because its host is completed, and calls nothing. -/
structure Step.IsRefused (step : Step) (host : Host) : Prop where
  completed : step.host.completed = true
  resource : step.host.resource = host.resource
  reports : step.reports = []
  result : step.result = .error (.alreadyCompleted host.resource)

/-- A query that can be parsed gives its options to the host. -/
theorem options?_string {query : String} {options : Options}
    (parsed : Query.parse query = .ok options) :
    ∃ found, options? (.string query) = .ok found ∧ found.getD [] = options := by
  rw [options?]
  split
  · case _ empty =>
      subst empty
      exact ⟨none, rfl, Except.ok.inj parsed⟩
  · rw [parsed]
    exact ⟨some options, rfl, rfl⟩

namespace Host

/-- A host with a query that can be parsed reports the transform under the options of the query. -/
theorem load_parsed (host : Host) {query : String} {options : Options}
    (asked : host.query = .string query) (parsed : Query.parse query = .ok options)
    (optimizer : Optimizer) (content : String) :
    let settings := Settings.withOption options (.string host.resource)
    let outcome := Transform.run settings optimizer content
    host.load optimizer content = host.complete outcome.requests
      (.ofOutcome (outcome.result.mapError .transform)) := by
  intro settings outcome
  obtain ⟨found, read, same⟩ := options?_string parsed
  simp only [load, asked, read, same, outcome, settings]
  cases (Transform.run (Settings.withOption options (.string host.resource)) optimizer
    content).result <;> rfl

theorem complete_completes {host : Host} (fresh : host.completed = false)
    (requests : List Request) (report : Report) :
    (host.complete requests report).Completes host report := by
  obtain ⟨resource, query, callback, completed⟩ := host
  subst fresh
  cases callback <;> exact ⟨rfl, rfl, rfl, rfl⟩

theorem complete_refused {host : Host} (completed : host.completed = true)
    (requests : List Request) (report : Report) :
    (host.complete requests report).IsRefused host := by
  rw [complete, if_pos completed]
  exact ⟨completed, rfl, rfl, rfl⟩

/-- A transform ends in one completion, whether it fails or not. -/
theorem load_eq (host : Host) (optimizer : Optimizer) (content : String) :
    ∃ requests, host.load optimizer content = host.complete requests
      (.ofOutcome (generate host.resource host.query optimizer content)) := by
  rw [load, generate]
  cases options? host.query with
  | error error => exact ⟨[], rfl⟩
  | ok options =>
      let settings := Settings.withOption (options.getD []) (.string host.resource)
      refine ⟨(Transform.run settings optimizer content).requests, ?_⟩
      simp only [settings]
      cases (Transform.run (Settings.withOption (options.getD []) (.string host.resource)) optimizer
        content).result <;> rfl

end Host

namespace Operation

/-- Every operation ends in one completion with its report. -/
theorem apply_eq (operation : Operation) (host : Host) :
    ∃ query requests, operation.apply host =
      { host with query }.complete requests (operation.report host.resource) := by
  cases operation with
  | load query optimizer content =>
      obtain ⟨requests, same⟩ := Host.load_eq { host with query } optimizer content
      exact ⟨query, requests, same⟩
  | complete report => exact ⟨host.query, [], rfl⟩

theorem apply_completes (operation : Operation) {host : Host} (fresh : host.completed = false) :
    (operation.apply host).Completes host (operation.report host.resource) := by
  obtain ⟨query, requests, same⟩ := operation.apply_eq host
  have free : { host with query }.completed = false := fresh
  obtain ⟨completed, resource, reports, result⟩ :=
    Host.complete_completes free requests (operation.report host.resource)
  rw [same]
  exact ⟨completed, resource, reports, result⟩

theorem apply_refused (operation : Operation) {host : Host} (completed : host.completed = true) :
    (operation.apply host).IsRefused host := by
  obtain ⟨query, requests, same⟩ := operation.apply_eq host
  have answered : { host with query }.completed = true := completed
  obtain ⟨completed, resource, reports, result⟩ :=
    Host.complete_refused answered requests (operation.report host.resource)
  rw [same]
  exact ⟨completed, resource, reports, result⟩

end Operation

theorem run_length (host : Host) (operations : List Operation) :
    (run host operations).length = operations.length := by
  induction operations generalizing host with
  | nil => rfl
  | cons operation operations inductionHypothesis =>
      rw [run, List.length_cons, inductionHypothesis, List.length_cons]

/-- Once a host is completed, every operation is refused. -/
theorem run_refused (operations : List Operation) {host : Host}
    (completed : host.completed = true) :
    ∀ step ∈ run host operations, step.IsRefused host := by
  induction operations generalizing host with
  | nil =>
      intro step member
      contradiction
  | cons operation operations inductionHypothesis =>
      have first := operation.apply_refused completed
      intro step member
      rcases List.mem_cons.mp member with rfl | later
      · exact first
      · obtain ⟨kept, resource, reports, result⟩ :=
          inductionHypothesis first.completed step later
        rw [first.resource] at resource result
        exact ⟨kept, resource, reports, result⟩

/-- A host that has not been completed gets one report, during the first operation. A failing
callback changes nothing about that. Every later operation is refused. The report of a transform is
the bare failure exactly if the options or the transform fail, and otherwise has the source. -/
theorem run_reports_once (resource : String) (query : Value) (callback : Callback)
    (first : Operation) (later : List Operation) :
    ∃ step steps report,
      run ⟨resource, query, callback, false⟩ (first :: later) = step :: steps ∧
      steps.length = later.length ∧
      step.Completes ⟨resource, query, callback, false⟩ report ∧
      (∀ next ∈ steps, next.IsRefused ⟨resource, query, callback, true⟩) ∧
      (step :: steps).flatMap Step.reports = callback.calls report ∧
      (∀ given, first = .complete given → report = given) ∧
      ∀ query optimizer content, first = .load query optimizer content →
        (report = .bare ↔
          ∃ obstruction, generate resource query optimizer content = .error obstruction) ∧
        ∀ source, report = .ofSource source ↔
          generate resource query optimizer content = .ok source := by
  let host : Host := ⟨resource, query, callback, false⟩
  have fresh : host.completed = false := rfl
  have completes := first.apply_completes fresh
  have refused : ∀ next ∈ run (first.apply host).host later,
      next.IsRefused ⟨resource, query, callback, true⟩ := by
    intro next member
    obtain ⟨kept, named, reports, result⟩ := run_refused later completes.completed next member
    rw [completes.resource] at named result
    exact ⟨kept, named, reports, result⟩
  have silent : (run (first.apply host).host later).flatMap Step.reports = [] :=
    List.flatMap_eq_nil_iff.mpr fun next member => (refused next member).reports
  refine ⟨first.apply host, run (first.apply host).host later, first.report resource, rfl,
    run_length _ later, completes, refused, ?_, ?_, ?_⟩
  · rw [List.flatMap_cons, silent, List.append_nil]
    exact completes.reports
  · rintro given rfl
    rfl
  · rintro query optimizer content rfl
    simp only [Operation.report]
    cases generate resource query optimizer content with
    | error obstruction => simp [Report.ofOutcome, Report.bare_ne_ofSource]
    | ok source =>
        simp [Report.ofOutcome, (Report.bare_ne_ofSource source).symm,
          Report.ofSource_injective.eq_iff]

/-- A query that is no query is reported once, although the callback fails and the host goes on. -/
theorem run_reports_once_raising :
    let identity := Optimizer.ofFunction fun request => .ok request.markup
    let first := Operation.load (.string "svgo") identity "<svg/>"
    ∃ step steps, run ⟨"icon.svg", .null, .raising, false⟩
        [first, .complete (.ofSource "late"), first] = step :: steps ∧
      step.reports = [.bare] ∧ step.result = .error .callbackFailed ∧
      ∀ next ∈ steps, next.IsRefused ⟨"icon.svg", .null, .raising, true⟩ := by
  intro identity first
  obtain ⟨step, steps, report, ran, -, completes, refused, -, -, loaded⟩ :=
    run_reports_once "icon.svg" .null .raising first [.complete (.ofSource "late"), first]
  have bare : report = .bare :=
    (loaded _ _ _ rfl).1.mpr ⟨.options .missingMark, rfl⟩
  subst bare
  exact ⟨step, steps, ran, completes.reports, completes.result, refused⟩

end SvgComponent.Delivery
