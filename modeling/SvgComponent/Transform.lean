/-
This file turns markup into the source of a component module.
-/

import SvgComponent.Component.Source
import SvgComponent.Markup.Compile
import SvgComponent.Optimizer
import SvgComponent.Settings

namespace SvgComponent.Transform

inductive Failure where
  | optimizer (refusal : Refusal)
  | markup (error : Markup.Error)
  | bareNode
  deriving DecidableEq

/-- The requests that were made of the optimizer, and the source of the module. -/
structure Outcome where
  requests : List Request
  result : Except Failure String

def compile (settings : Settings) (markup : String) : Except Failure String :=
  match Markup.compile settings.preserveWhitespace.isTruthy markup with
  | .error error => .error (.markup error)
  | .ok root =>
      match Component.source? root with
      | some source => .ok source
      | none => .error .bareNode

/-- Markup is optimized, unless optimization is off, and then compiled. -/
def run (settings : Settings) (optimizer : Optimizer) (markup : String) : Outcome :=
  match settings.optimizerOptions? with
  | none => ⟨[], compile settings markup⟩
  | some options =>
      let optimized := optimizer ⟨markup, options⟩
      match optimized.result with
      | .error refusal => ⟨optimized.requests, .error (.optimizer refusal)⟩
      | .ok markup => ⟨optimized.requests, compile settings markup⟩

/-- A single transform has the default settings apart from the optimizer options and the path. -/
def once (optimization path : Value) (optimizer : Optimizer) (markup : String) : Outcome :=
  let optimization := match optimization with
    | .null => .object []
    | given => given
  run { Settings.default with optimization, path } optimizer markup

end SvgComponent.Transform
