/-
This file holds the settings of one transform.
-/

import SvgComponent.Text.Scan
import SvgComponent.Value.Basic

namespace SvgComponent

/-- Settings come from files and queries and may hold values of any kind. -/
structure Settings where
  /-- The optimizer options, or `false` for no optimization. -/
  optimization : Value
  /-- The source file, which the optimizer finds among its options. -/
  path : Value
  /-- Whether blank text between elements is kept. -/
  preserveWhitespace : Value
  deriving DecidableEq, Inhabited

namespace Settings

def optimizationKey : String := "svgo_config"

def pathKey : String := "svgo_path"

def preserveKey : String := "preserve_whitespace"

def default : Settings := ⟨.object [], .null, .bool false⟩

def toValue (settings : Settings) : Value :=
  .object [(optimizationKey, settings.optimization), (pathKey, settings.path),
    (preserveKey, settings.preserveWhitespace)]

/-- The option of a query that holds the optimizer options. -/
def optionName : String := "svgo"

def withOption (options : Options) (path : Value) : Settings :=
  match options.valueAt? optionName with
  | some value => { default with optimization := value, path }
  | none => { default with path }

/-- Options that count as false are no options. Others are searched for the name of the option,
and only an object can give its value. -/
def ofOptions? (options path : Value) : Option Settings :=
  if !options.isTruthy then some { default with path }
  else
    match options with
    | .object members => some (withOption members path)
    | .list items => if items.any (Value.isString optionName) then none
        else some { default with path }
    | .string text => if Text.occurs optionName.toList text.toList then none
        else some { default with path }
    | _ => none

/-- The options for the optimizer, or nothing if optimization is off. Only `false` turns it off,
and only an object contributes options. The path of the settings takes precedence. -/
def optimizerOptions? (settings : Settings) : Option Options :=
  match settings.optimization with
  | .bool false => none
  | .object members => some (Mapping.assign members "path" settings.path)
  | _ => some [("path", settings.path)]

end Settings
end SvgComponent
