/-
This file holds the optimizers that may change markup before it is compiled.
-/

import SvgComponent.Value.Display

namespace SvgComponent

/-- What an optimizer, or the library behind it, is asked to do. -/
structure Request where
  markup : String
  options : Options
  deriving DecidableEq

inductive Refusal where
  /-- The optimizer reports that it cannot handle the markup. -/
  | rejected (message : String)
  /-- The optimizer fails in a way that it does not report. -/
  | crashed (message : String)
  deriving DecidableEq

/-- The requests that have been made, and the optimized markup. -/
structure Optimized where
  requests : List Request
  result : Except Refusal String

abbrev Optimizer := Request → Optimized

/-- A library optimizes markup or fails with a message. -/
abbrev Library := Request → Except String String

namespace Optimizer

def ofFunction (optimize : Request → Except Refusal String) : Optimizer := fun request =>
  ⟨[request], optimize request⟩

/-- The markup is named by its path. -/
def subject (options : Options) : String :=
  let path := (options.valueAt? "path").getD .null
  if path.isTruthy then Value.Display.write path else "<markup>"

/-- The library does not see the path. Its failures are reported under the name of the markup. -/
def ofLibrary (library : Library) : Optimizer := fun request =>
  let handed := { request with options := request.options.without "path" }
  { requests := [handed]
    result := match library handed with
      | .ok markup => .ok markup
      | .error message =>
          .error (.rejected ("Failed to optimize " ++ subject request.options ++ ": " ++ message)) }

end Optimizer
end SvgComponent
