/-
This file holds trees of files and directories.
-/

import SvgComponent.Mapping
import SvgComponent.Text.Scan

namespace SvgComponent

/-- An absolute path lists the names on the way from the root. -/
abbrev Path := List String

namespace Path

/-- Empty names and single dots lead nowhere. -/
def names (text : String) : List String :=
  ((Text.split (· = '/') text.toList).map String.ofList).filter fun name =>
    name ≠ "" && name ≠ "."

/-- A relative path starts from the base. -/
def join (base : Path) (text : String) : Path :=
  (if text.toList.head? = some '/' then [] else base) ++ names text

def enter (path : Path) (name : String) : Path :=
  if name = ".." then path.dropLast else path ++ [name]

/-- A double dot takes back the name before it, whether that name exists or not. -/
def resolve (base : Path) (text : String) : Path :=
  (join base text).foldl enter []

/-- No name has a null character. -/
def isValid (path : Path) : Bool :=
  path.all fun name => !name.toList.contains '\x00'

def text (path : Path) : String :=
  "/" ++ String.intercalate "/" path

/-- A name ends in a suffix if it has a dot that is neither its first nor its last character. -/
def stem (name : String) : String :=
  let back := name.toList.reverse
  let suffix := back.takeWhile (· ≠ '.')
  let rest := back.drop (suffix.length + 1)
  if suffix.isEmpty || rest.isEmpty then name else String.ofList rest.reverse

/-- The suffix of the last name is replaced. -/
def withSuffix (path : Path) (suffix : String) : Path :=
  match path.getLast? with
  | none => path
  | some name => path.dropLast ++ [stem name ++ suffix]

/-- The paths that a path passes through, from the root on. The root and the path itself are left
out. -/
def ancestors (path : Path) : List Path :=
  (List.range (path.length - 1)).map fun count => path.take (count + 1)

end Path

-- Contents are compared byte by byte.
attribute [local instance (high)] ByteArray.instDecidableEq

inductive Entry where
  | directory
  | file (content : ByteArray)
  deriving DecidableEq

/-- Every path stands with its entry. The root is a directory and is not listed. -/
abbrev FileTree := Mapping Path Entry

namespace FileTree

/-- Why a path cannot be followed or made. -/
inductive Obstacle where
  | missing
  | notDirectory
  | occupied
  | nameTooLong
  | invalidName
  deriving DecidableEq

def Obstacle.message : Obstacle → String
  | missing => "A directory on the way is missing"
  | notDirectory => "The way leads through a file"
  | occupied => "A file stands in the place of a directory"
  | nameTooLong => "A name is too long"
  | invalidName => "A name has a null character"

/-- The most bytes that a name can have. -/
def nameLimit : Nat := 255

def entryAt? (tree : FileTree) (path : Path) : Option Entry :=
  if path = [] then some .directory else tree.valueAt? path

def isDirectory (tree : FileTree) (path : Path) : Bool :=
  tree.entryAt? path = some .directory

def isPresent (tree : FileTree) (path : Path) : Bool :=
  (tree.entryAt? path).isSome

/-- A name leads from one place to another. A double dot leads to the parent of a directory. -/
def step (tree : FileTree) (place : Path) (name : String) : Except Obstacle Path :=
  match tree.entryAt? place with
  | none => .error .missing
  | some (.file _) => .error .notDirectory
  | some .directory =>
      if name = ".." then .ok place.dropLast
      else if nameLimit < name.utf8ByteSize then .error .nameTooLong
      else .ok (place ++ [name])

/-- The place to which a path leads. There need not be an entry in that place. -/
def locate (tree : FileTree) (path : Path) : Except Obstacle Path :=
  if path.isValid then path.foldlM tree.step [] else .error .invalidName

/-- A name that is too long cannot be looked up. -/
def isTaken (tree : FileTree) (path : Path) : Except Obstacle Bool :=
  match tree.locate path with
  | .ok place => .ok (tree.isPresent place)
  | .error .nameTooLong => .error .nameTooLong
  | .error _ => .ok false

/-- The way is followed from a place on, and missing directories are made. They stay if the way
ends early. -/
def makeFrom (tree : FileTree) (place : Path) : List String → FileTree × Except Obstacle Path
  | [] => (tree, .ok place)
  | name :: others =>
      match tree.step place name with
      | .error obstacle => (tree, .error obstacle)
      | .ok next =>
          match tree.entryAt? next with
          | some .directory => makeFrom tree next others
          | some (.file _) => (tree, .error .occupied)
          | none => makeFrom (tree.assign next .directory) next others

/-- The place of a directory that is made if it is missing. Nothing is made if the way is known to
be blocked. -/
def makeDirectories (tree : FileTree) (path : Path) : FileTree × Except Obstacle Path :=
  match tree.locate path with
  | .ok _ | .error .missing => tree.makeFrom [] path
  | .error obstacle => (tree, .error obstacle)

/-- A file is put in its place, together with the directories on the way to it. -/
def addFile (tree : FileTree) (path : Path) (content : ByteArray) : FileTree :=
  match tree.makeDirectories path.dropLast, path.getLast? with
  | (tree, .ok place), some name => tree.assign (place ++ [name]) (.file content)
  | (tree, _), _ => tree

def addDirectory (tree : FileTree) (path : Path) : FileTree :=
  (tree.makeDirectories path).1

end FileTree
end SvgComponent
