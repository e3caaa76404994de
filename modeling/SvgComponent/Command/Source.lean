/-
This file finds and reads the files of a run.
-/

import SvgComponent.Command.Fault
import SvgComponent.Value.Strict

namespace SvgComponent.Command

/-- Line ends of every kind are read as one. -/
def joinLines : List Char → List Char
  | [] => []
  | '\r' :: '\n' :: rest => '\n' :: joinLines rest
  | c :: rest => (if c = '\r' then '\n' else c) :: joinLines rest

def decodeText? (content : ByteArray) : Option String :=
  (String.fromUTF8? content).map fun text => String.ofList (joinLines text.toList)

def readConfig (tree : FileTree) (path : Path) : Except Fault Value :=
  match tree.entryAt? path with
  | some (.file content) =>
      match decodeText? content with
      | none => .error .configNotText
      | some text =>
          match Value.Strict.read text with
          | .ok value => .ok value
          | .error error => .error (.configMalformed error)
  | _ => .error .configIsDirectory

def readSource (tree : FileTree) (path : Path) : Except Fault String :=
  match tree.entryAt? path with
  | some (.file content) =>
      match decodeText? content with
      | none => .error .sourceNotText
      | some text => .ok text
  | _ => .error .sourceIsDirectory

def isSource (name : String) : Bool :=
  ".svg".toList.isSuffixOf name.toList

/-- The entries below a directory whose names mark them as sources, in the order of their paths. -/
def sources (tree : FileTree) (path : Path) : List Path :=
  if tree.isDirectory path then
    let below := (tree.map Prod.fst).filter fun entry =>
      path.isPrefixOf entry && entry.length > path.length && (entry.getLast?.any isSource)
    below.mergeSort fun first second => !decide (second < first)
  else [path]

/-- A directory is copied to its output file by file. -/
def target (tree : FileTree) (path output source : Path) : Path :=
  if tree.isDirectory path then
    Path.withSuffix (output ++ source.drop path.length) ".js"
  else output

end SvgComponent.Command
