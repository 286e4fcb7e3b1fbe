import WindowPlacement.Config.Basic
import WindowPlacement.Json.Access
import WindowPlacement.Json.Reading

/-!
# Reading configurations

A configuration file holds one JSON value.  Each of its records may be an object, with the
fields by name, or an array, with the fields in order.  In an object unknown names are
passed over, but a known one may come only once.  Settings that are left out keep their
defaults; a preset given as an array has to have all of its dimensions.
-/

namespace WindowPlacement

open JsonValue

def Preset.ofJson? : JsonValue → Option Preset
  | .array [x, y, width, height] =>
    match x.contentOrNull?, y.contentOrNull?, width.contentOrNull?, height.contentOrNull? with
    | some x, some y, some width, some height => some ⟨x, y, width, height⟩
    | _, _, _, _ => none
  | .object members =>
    if namesAreValid members then
      match field? members "x" none contentOrNull?, field? members "y" none contentOrNull?,
        field? members "w" none contentOrNull?, field? members "h" none contentOrNull? with
      | some x, some y, some width, some height => some ⟨x, y, width, height⟩
      | _, _, _, _ => none
    else
      none
  | _ => none

namespace Presets

/-- The presets with one more, which takes the place of an earlier one of its name. -/
def put (presets : Presets) (name : String) (preset : Preset) : Presets :=
  List.filter (fun entry => entry.1 != name) presets ++ [(name, preset)]

/-- Add the presets that the members of an object describe. -/
def addMembers (presets : Presets) : List (Option String × JsonValue) → Option Presets
  | [] => some presets
  | (some name, value) :: rest =>
    (Preset.ofJson? value).bind fun preset => (presets.put name preset).addMembers rest
  | (none, _) :: _ => none

/-- The presets that a value describes.  Of several with one name the last one counts. -/
def ofJson? : JsonValue → Option Presets
  | .object members => addMembers [] members
  | _ => none

end Presets

/-- Whether reserved space is to be kept free, from the value with the settings of
placements. -/
def honorStrutsOfJson? : JsonValue → Option Bool
  | .array [] => some Config.default.honorStruts
  | .array [value] => value.boolean?
  | .object members =>
    if namesAreValid members then
      field? members "honor_struts" Config.default.honorStruts boolean?
    else
      none
  | _ => none

namespace Config

/-- The configuration that a value describes. -/
def ofJson? : JsonValue → Option Config
  | .array [] => some .default
  | .array [presets] =>
    (Presets.ofJson? presets).map fun presets => ⟨presets, Config.default.honorStruts⟩
  | .array [presets, placement] =>
    match Presets.ofJson? presets, honorStrutsOfJson? placement with
    | some presets, some honorStruts => some ⟨presets, honorStruts⟩
    | _, _ => none
  | .object members =>
    if namesAreValid members then
      match field? members "presets" [] Presets.ofJson?,
        field? members "placement" Config.default.honorStruts honorStrutsOfJson? with
      | some presets, some honorStruts => some ⟨presets, honorStruts⟩
      | _, _ => none
    else
      none
  | _ => none

def ofText? (text : String) : Option Config :=
  (JsonValue.ofString? text).bind ofJson?

end Config

/-- Why a configuration file is of no use. -/
inductive ConfigError
  | unreadable (path : String)
  | malformed (path : String)
  deriving DecidableEq, Repr

def ConfigError.message : ConfigError → String
  | .unreadable path => "config error: failed to read " ++ path
  | .malformed path => "config error: failed to parse " ++ path

/-- The configuration of a file with the given text, or of one without, which cannot be
read. -/
def Config.load (path : String) (text : Option String) : Except ConfigError Config :=
  match text with
  | none => .error (.unreadable path)
  | some text =>
    match Config.ofText? text with
    | none => .error (.malformed path)
    | some config => .ok config

end WindowPlacement
