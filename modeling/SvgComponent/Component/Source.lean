/-
This file writes the source of a component module.
-/

import SvgComponent.Component.Children

namespace SvgComponent.Component

open Markup

/-- The places of the module that depend on the root element. -/
structure Fragments where
  classes : String
  styles : String
  attributes : String
  children : String
  deriving DecidableEq

/-- The class goes to the classes and not to the attributes. -/
def attributesFragment (head : Head) : String :=
  let attributes := head.attributes.without "class"
  if attributes.isEmpty then "attrs"
  else "attrs: Object.assign(" ++ Value.Compact.writeStrings attributes ++ ", attrs)"

def childrenFragment? (children : List Node) : Option String :=
  if children.isEmpty then some "children"
  else (children? children).map fun text => "children.concat(" ++ text ++ ")"

def Fragments.ofElement? (root : Element) : Option Fragments := do
  let children ← childrenFragment? root.children
  return {
    classes := joinPresent [root.head.staticClass, some "classNames", some "staticClass"]
    styles := joinPresent [root.head.staticStyle, some "style", some "staticStyle"]
    attributes := attributesFragment root.head
    children }

/-- The lines of a module before its root is created. -/
def preamble : List String := [
  "module.exports = \x7b",
  "  functional: true,",
  "  render(_h, _vm) \x7b",
  "    const \x7b _c, _v, data, children = [] \x7d = _vm;",
  "",
  "    const \x7b",
  "      class: classNames,",
  "      staticClass,",
  "      style,",
  "      staticStyle,",
  "      attrs = \x7b\x7d,",
  "      ...rest",
  "    \x7d = data;",
  "",
  "    return _c("]

/-- The lines that create the root, with a literal for its tag. -/
def creation (tag : String) (fragments : Fragments) : List String := [
  "      " ++ tag ++ ",",
  "      \x7b",
  "        class: [" ++ fragments.classes ++ "],",
  "        style: [" ++ fragments.styles ++ "],",
  "        " ++ fragments.attributes ++ ",",
  "        ...rest,",
  "      \x7d,",
  "      " ++ fragments.children]

def ending : List String := ["    )", "  \x7d", "\x7d"]

def moduleText (tag : String) (fragments : Fragments) : String :=
  String.join ((preamble ++ creation tag fragments ++ ending).map fun line => line ++ "\n")

/-- Whatever its tag was, the root is rendered as an image. -/
def Fragments.source (fragments : Fragments) : String :=
  moduleText "'svg'" fragments

/-- The module that renders an element. There is none if the element has a bare node below it. -/
def source? (root : Element) : Option String :=
  (Fragments.ofElement? root).map Fragments.source

end SvgComponent.Component
