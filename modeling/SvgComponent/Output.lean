/-
This file writes modules into a file tree. A write takes full effect or leaves every file as it was.
-/

import SvgComponent.Component.Check
import SvgComponent.FileTree

namespace SvgComponent.Output

/-- What happens if the target exists. -/
inductive Mode where
  | refuse
  | replace
  deriving DecidableEq

def Mode.ofName? (name : String) : Option Mode :=
  if name = "error" then some .refuse
  else if name = "force" then some .replace
  else none

inductive Objection where
  /-- The content is not a valid module. -/
  | invalid (message : String)
  /-- The validator itself fails. -/
  | crashed (message : String)
  deriving DecidableEq

abbrev Validator := String → Except Objection Unit

def structural : Validator := fun content =>
  match Component.Check.check content with
  | .ok () => .ok ()
  | .error fault => .error (.invalid fault.message)

inductive Error where
  | alreadyExists (path : Path)
  | obstacle (obstacle : FileTree.Obstacle)
  | objection (objection : Objection)
  | targetIsDirectory
  /-- The target has no name of its own. -/
  | targetIsBusy
  deriving DecidableEq

def Error.message : Error → String
  | alreadyExists path =>
      "Output file already exists: " ++ path.text ++ ". Use force mode to overwrite."
  | obstacle found => found.message
  | objection (.invalid message) => message
  | objection (.crashed message) => message
  | targetIsDirectory => "The output is a directory"
  | targetIsBusy => "The output cannot be replaced"

def refuseExisting (tree : FileTree) (path : Path) : Except Error Unit :=
  match tree.isTaken path with
  | .ok false => .ok ()
  | .ok true => .error (.alreadyExists path)
  | .error found => .error (.obstacle found)

/-- The name of a draft has this many bytes more than that of its target. -/
def draftExcess : Nat := 14

/-- Whether a draft can be made beside a target of this name. -/
def checkDraft (name : String) : Except Error Unit :=
  if name.toList.contains '\x00' then .error (.obstacle .invalidName)
  else if FileTree.nameLimit < name.utf8ByteSize + draftExcess then
    .error (.obstacle .nameTooLong)
  else .ok ()

/-- A valid draft takes the place of its target. Without a validator every content is valid. -/
def replace (validator : Option Validator) (tree : FileTree) (directory : Path)
    (name content : String) : Except Error FileTree := do
  checkDraft name
  ((validator.getD fun _ => .ok ()) content).mapError .objection
  if name = ".." then .error .targetIsBusy
  else if tree.isDirectory (directory ++ [name]) then .error .targetIsDirectory
  else return tree.assign (directory ++ [name]) (.file content.toUTF8)

/-- Directories are made before the content is checked, and stay. The root is its own parent. -/
def write (mode : Mode) (validator : Option Validator) (tree : FileTree) (path : Path)
    (content : String) : FileTree × Except Error Unit :=
  match if mode = .refuse then refuseExisting tree path else .ok () with
  | .error error => (tree, .error error)
  | .ok () =>
      match tree.makeDirectories path.dropLast with
      | (prepared, .error found) => (prepared, .error (.obstacle found))
      | (prepared, .ok directory) =>
          match replace validator prepared directory (path.getLast?.getD "..") content with
          | .error error => (prepared, .error error)
          | .ok written => (written, .ok ())

end SvgComponent.Output
