import LocalCloud.Config.Overlay
import LocalCloud.Json.Basic

/-!
# Settings in JSON

A JSON value as settings.  Null stands for the absence of an optional value.
-/

namespace LocalCloud

open Json (Value)

mutual

def Setting.ofJson : Value → Setting
  | .null => .scalar { isNull := true }
  | .bool value => .scalar { bool := some value }
  | .number (.integer value) => .scalar { integer := some value }
  | .number _ => .scalar {}
  | .string value => .scalar { text := some value }
  | .array items => .list (Setting.ofJsonItems items)
  | .object fields => .table (Setting.ofJsonFields fields)

/-- The settings of the items of an array. -/
def Setting.ofJsonItems : List Value → List Setting
  | [] => []
  | item :: rest => Setting.ofJson item :: Setting.ofJsonItems rest

/-- The settings of the fields of an object. -/
def Setting.ofJsonFields : List (String × Value) → List (Option String × Setting)
  | [] => []
  | (key, value) :: rest => (some key, Setting.ofJson value) :: Setting.ofJsonFields rest

end

def Overlay.ofJson? (value : Value) : Option Overlay :=
  Overlay.read false (Setting.ofJson value)

end LocalCloud
