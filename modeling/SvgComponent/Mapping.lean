/-
This file holds mappings that keep the order of their keys.
-/

namespace SvgComponent

/-- A mapping lists its entries in the order in which their keys first appeared. -/
abbrev Mapping (κ α : Type) := List (κ × α)

namespace Mapping

variable {κ α : Type} [DecidableEq κ]

/-- A known key keeps its place and takes the new value. A new key goes to the end. -/
def assign : Mapping κ α → κ → α → Mapping κ α
  | [], key, value => [(key, value)]
  | entry :: rest, key, value =>
      if entry.1 = key then (entry.1, value) :: rest else entry :: assign rest key value

/-- The entries of `update` are assigned one after the other. -/
def assignAll (mapping : Mapping κ α) (update : List (κ × α)) : Mapping κ α :=
  update.foldl (fun current entry => current.assign entry.1 entry.2) mapping

/-- Of entries with one key, the first gives the place and the last the value. -/
def ofEntries (entries : List (κ × α)) : Mapping κ α :=
  assignAll [] entries

/-- The entries of a mapping in the order of its keys. -/
def toEntries (mapping : Mapping κ α) : List (κ × α) :=
  mapping

def valueAt? : Mapping κ α → κ → Option α
  | [], _ => none
  | entry :: rest, key => if entry.1 = key then some entry.2 else valueAt? rest key

def without (mapping : Mapping κ α) (key : κ) : Mapping κ α :=
  mapping.filter fun entry => entry.1 ≠ key

end Mapping
end SvgComponent
