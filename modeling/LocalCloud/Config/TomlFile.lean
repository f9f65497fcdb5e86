import LocalCloud.Config.Overlay
import LocalCloud.Toml.Document

/-!
# Settings in TOML

A TOML document as settings.  A date or time is a table with one field, whose
name no setting has.
-/

namespace LocalCloud

open Toml (Value)

mutual

def Setting.ofToml : Value → Setting
  | .string text => .scalar { text := some text }
  | .integer value => .scalar { integer := some value }
  | .float => .scalar {}
  | .bool value => .scalar { bool := some value }
  | .dateTime text => .table [(some "$__toml_private_datetime", .scalar { text := some text })]
  | .array items => .list (Setting.ofTomlItems items)
  | .table _ fields => .table (Setting.ofTomlFields fields)
  | .tables elements => .list (Setting.ofTomlElements elements)

/-- The settings of the items of an array. -/
def Setting.ofTomlItems : List Value → List Setting
  | [] => []
  | item :: rest => Setting.ofToml item :: Setting.ofTomlItems rest

/-- The settings of the fields of a table. -/
def Setting.ofTomlFields : List (String × Value) → List (Option String × Setting)
  | [] => []
  | (key, value) :: rest => (some key, Setting.ofToml value) :: Setting.ofTomlFields rest

/-- The settings of the elements of an array of tables. -/
def Setting.ofTomlElements : List (List (String × Value)) → List Setting
  | [] => []
  | fields :: rest => .table (Setting.ofTomlFields fields) :: Setting.ofTomlElements rest

end

def Overlay.ofToml? (text : String) : Option Overlay := do
  let document ← Toml.Document.ofString? text
  Overlay.read true (.table (Setting.ofTomlFields document.fields))

end LocalCloud
