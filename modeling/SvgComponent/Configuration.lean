/-
This file holds the configuration that is read from a file. A name in it is assigned if the
configuration knows the name, whatever the name means.
-/

import SvgComponent.Settings

namespace SvgComponent

/-- The members are what has been assigned. A known name that is no member has its default. -/
structure Configuration where
  members : Mapping String Value
  deriving DecidableEq, Inhabited

namespace Configuration

inductive Fault where
  /-- Only an object has names to be assigned. -/
  | notObject
  /-- The class of a configuration is no value. -/
  | classAssigned
  /-- The references to a configuration cannot be assigned. -/
  | referencesAssigned
  /-- The members as a whole can only be those of an object. -/
  | membersNotObject
  /-- The members have been replaced by others without optimizer options. -/
  | missingOptimization
  /-- A value has taken the place of an operation. -/
  | notCallable (operation : String)
  deriving DecidableEq

def Fault.message : Fault → String
  | notObject => "The configuration is not an object"
  | classAssigned => "The class of a configuration cannot be assigned"
  | referencesAssigned => "The references to a configuration cannot be assigned"
  | membersNotObject => "The members of a configuration are not an object"
  | missingOptimization => "The configuration has no optimizer options"
  | notCallable operation => "The operation " ++ operation ++ " is hidden by a value"

def classKey : String := "__class__"

def referencesKey : String := "__weakref__"

/-- The name of the members as a whole. -/
def membersKey : String := "__dict__"

/-- The operation that resolves the optimizer options. -/
def resolveKey : String := "optimizer_config"

/-- The operation that lists the settings. -/
def listKey : String := "to_dict"

def initial : Configuration :=
  ⟨[(Settings.optimizationKey, .object []), (Settings.pathKey, .null),
    (Settings.preserveKey, .bool false)]⟩

def assign (configuration : Configuration) (name : String) (value : Value) : Configuration :=
  ⟨configuration.members.assign name value⟩

/-- Every configuration knows its defaults and its operations. The optimizer options are known as
long as they are a member. Names of a class in general are known as well, but nothing reads what is
assigned to them. -/
def isKnown (configuration : Configuration) (name : String) : Bool :=
  name = Settings.pathKey || name = Settings.preserveKey || name = resolveKey || name = listKey ||
    (configuration.members.valueAt? name).isSome

/-- Unknown names are ignored. -/
def set (configuration : Configuration) (name : String) (value : Value) :
    Except Fault Configuration :=
  if name = classKey then .error .classAssigned
  else if name = referencesKey then .error .referencesAssigned
  else if name = membersKey then
    match value with
    | .object members => .ok ⟨members⟩
    | _ => .error .membersNotObject
  else if configuration.isKnown name then .ok (configuration.assign name value)
  else .ok configuration

/-- Only an object can be read as a configuration. -/
def ofValue : Value → Except Fault Configuration
  | .object members =>
      members.foldlM (fun configuration member => configuration.set member.1 member.2) initial
  | _ => .error .notObject

/-- An operation reads the settings, unless a value hides it. -/
def read (configuration : Configuration) (operation : String) : Except Fault Settings :=
  match configuration.members.valueAt? operation,
    configuration.members.valueAt? Settings.optimizationKey with
  | some _, _ => .error (.notCallable operation)
  | none, none => .error .missingOptimization
  | none, some optimization => .ok {
      optimization
      path := (configuration.members.valueAt? Settings.pathKey).getD Settings.default.path
      preserveWhitespace := (configuration.members.valueAt? Settings.preserveKey).getD
        Settings.default.preserveWhitespace }

def settings (configuration : Configuration) : Except Fault Settings :=
  configuration.read resolveKey

def toValue (configuration : Configuration) : Except Fault Value :=
  (configuration.read listKey).map Settings.toValue

end Configuration
end SvgComponent
