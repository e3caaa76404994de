/-
This file transforms a resource for a host and reports the outcome to it once.
-/

import SvgComponent.Query.Parse
import SvgComponent.Transform

namespace SvgComponent.Delivery

/-- How a host reacts to a report. -/
inductive Callback where
  | absent
  | accepting
  | raising
  deriving DecidableEq

/-- A host asks for one resource and has been answered or not. -/
structure Host where
  resource : String
  query : Value
  callback : Callback
  completed : Bool

/-- The message of a failure, if there was one, and the source, if there is one. -/
structure Report where
  failure : Option String
  source : Option String
  deriving DecidableEq

inductive Fault where
  | alreadyCompleted (resource : String)
  | callbackFailed
  deriving DecidableEq

def Fault.message : Fault → String
  | alreadyCompleted resource => "Loader already completed for " ++ resource
  | callbackFailed => "callback failed"

/-- What one operation on a host has done. -/
structure Step where
  host : Host
  requests : List Request
  reports : List Report
  result : Except Fault Unit

/-- A host is completed before its callback is called. -/
def Host.complete (host : Host) (requests : List Request) (report : Report) : Step :=
  let done := { host with completed := true }
  if host.completed then ⟨host, requests, [], .error (.alreadyCompleted host.resource)⟩
  else
    match host.callback with
    | .absent => ⟨done, requests, [], .ok ()⟩
    | .accepting => ⟨done, requests, [report], .ok ()⟩
    | .raising => ⟨done, requests, [report], .error .callbackFailed⟩

/-- A query is a string or an object with options. Others, and empty ones, carry no options. -/
def options? : Value → Except Query.Error (Option Options)
  | .string query => if query = "" then .ok none else (Query.parse query).map some
  | .object members => .ok (if members.isEmpty then none else some members)
  | _ => .ok none

/-- Every failure is reported without a message. -/
def Host.load (host : Host) (optimizer : Optimizer) (content : String) : Step :=
  match options? host.query with
  | .error _ => host.complete [] ⟨some "", none⟩
  | .ok options =>
      let settings := Settings.withOption (options.getD []) (.string host.resource)
      let outcome := Transform.run settings optimizer content
      match outcome.result with
      | .error _ => host.complete outcome.requests ⟨some "", none⟩
      | .ok source => host.complete outcome.requests ⟨none, some source⟩

end SvgComponent.Delivery
