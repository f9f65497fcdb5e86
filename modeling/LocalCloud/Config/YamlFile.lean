import LocalCloud.Config.Overlay
import LocalCloud.Yaml.Node
import LocalCloud.Yaml.Schema

/-!
# Settings in YAML

A YAML document as settings.  What a plain scalar can be read as follows from its
text; any other scalar is a text and nothing else, but for literal blocks whose
tag says what they are.
-/

namespace LocalCloud

open Yaml (Node Style Document standardTag natural? isNullWord)

namespace Setting

/-- What a scalar can be read as.  The tag of a missing value allows for no other
reading. -/
def ofYamlScalar (text : String) (style : Style) (tag : Option String) : Scalar :=
  let mayBe (name : String) : Bool :=
    style = .plain || (style = .literal && tag == some (standardTag name))
  let isPlain : Bool := style = .plain
  let isNullTagged := isPlain && tag == some (standardTag "null")
  if isNullTagged && !isNullWord text then {}
  else
    { text := some text
      integer := if mayBe "int" then natural? text else none
      bool := if mayBe "bool" then Yaml.bool? text else none
      isNull := isPlain && (isNullTagged || (tag.isNone && (text.isEmpty || isNullWord text)))
      isBlank := isPlain && text.isEmpty }

/-- The setting a YAML node stands for, down to some depth; what lies deeper is
never looked at. -/
def ofYaml (document : Document) : Nat → Node → Setting
  | 0, _ => .scalar {}
  | depth + 1, node =>
    match node with
    | .scalar text style tag => .scalar (ofYamlScalar text style tag)
    | .sequence items => .list (items.map (ofYaml document depth))
    | .mapping pairs =>
      .table (pairs.map fun pair =>
        ((ofYaml document depth pair.1).text, ofYaml document depth pair.2))
    | .anchored _ node => ofYaml document depth node
    | .alias number =>
      match document.target? number with
      | some node => ofYaml document depth node
      | none => .scalar {}

end Setting

/-- The setting for a document without a node. -/
def Setting.blank : Setting :=
  .scalar { isNull := true, isBlank := true }

/-- Reads an overlay from a YAML document.  Settings are nested at most four deep,
and each level may take an alias and an anchor. -/
def Overlay.ofYaml? (text : String) : Option Overlay := do
  let document ← Document.ofString? text
  let setting := match document.root with
    | none => Setting.blank
    | some node => Setting.ofYaml document 12 node
  Overlay.read false setting

end LocalCloud
