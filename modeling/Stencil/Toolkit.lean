import Stencil.Error.Record
import Stencil.Filter
import Stencil.Value.Order

/-! The functions of the library that a host calls by name with values of its own. They take what
    they are given as it is, so that each of them says what it does with values that no template
    could hand to it. Those that colour their answer do so if colours are on. -/

namespace Stencil.Toolkit

open Stencil.Capability (unary binary ternary taking lift)
open Stencil.Parameter (value optional)

/-- A parameter that has to be given. -/
def required (name : String) : Parameter := { name }

/-- A result that only an operation below can fail. -/
def checked (r : Except Failure α) : Except Problem α := r.mapError fun f => .fault (.failure f)

/-! ### Values -/

/-- The segments of a path as names and numbers, null for a malformed path. -/
def splitPath (path : Value) : Except Problem Value := do
  match ← checked (Path.segmentsOf path) with
  | none => return .null
  | some segments => return .list (segments.map fun
      | .name s => .text s
      | .index n => .int n)

/-- The text of a value, where a text stays the value it is. -/
def keepText (f : Value → Except Problem String) (v : Value) : Except Problem Value :=
  match v with
  | .text _ | .markup _ => .ok v
  | v => do return .text (← f v)

/-- The escaped text of a value, which a text that is marked safe is already. -/
def escapeWith (escape : String → String) (v : Value) : Except Problem Value :=
  match v with
  | .markup s => .ok (.text s)
  | v => do return .text (escape (← Filter.plainText v))

/-- The kind of a value by its name, alone and with its article. -/
def kindOf (v : Value) : Except Problem Value :=
  match v.kind with
  | .error e => .error (.ofRuntime e)
  | .ok k => .ok (.list [.text k.name, .text k.withArticle])

/-- The values in order. -/
def sortValues (values path : Value) : Except Problem Value := do
  match ← checked values.sequence with
  | none => return .list []
  | some (first, all) => return .list (← Value.sortLike first all path)

/-- The values without those whose key was there before. -/
def uniqueValues (values path caseSensitive : Value) : Except Problem Value := do
  match ← checked values.sequence with
  | none => return .list []
  | some (first, all) => return .list (← Value.distinctLike first all path caseSensitive.isSet)

/-- What there is to know of the undefined marker: its texts, its truth, that it is not null, and
    that there is only one. -/
def undefinedFacts : Value :=
  let marker := Value.undefined
  .list [.text marker.plain, .text marker.inspect, .bool marker.isSet,
    .bool (marker.hostEquals .null), .bool true, .text marker.inspect]

/-- The identifiers of the classes of errors. -/
def errorCodes : Value :=
  .list (ErrorCode.all.map fun c => .list [.text c.name, .text c.text, .text c.category])

/-! ### Terminal texts -/

/-- A value between the codes of some colours; the value itself where there is nothing to add. -/
def paint (color : Bool) (colors : List String) (v : Value) : Except Problem Value :=
  if !color || (colors.filterMap Text.colorCode?).isEmpty then .ok v
  else do return .text (Text.colorize color (← Filter.plainText v) colors)

/-- A text in colours that are given by position; their names have to be fit for keys. -/
def colorize (color : Bool) : Behaviour := fun inv =>
  match inv.args, inv.named with
  | v :: colors, [] =>
    if color && !colors.all Value.isKey then .error (.failure .wrongType)
    else lift (paint color (colors.filterMap Value.text?) v)
  | [], [("text", v)] => .ok v
  | _, _ => .error (.failure .wrongType)

/-- A text in the colours of a role, which has to be fit for a key. -/
def styled (color : Bool) (role v : Value) : Except Problem Value :=
  if role.isKey then paint color ((role.text?.map Text.roleColors).getD []) v
  else Filter.fail .wrongType

/-- A text without escape sequences. -/
def stripColors (v : Value) : Except Problem Value :=
  match v.text? with
  | some s => .ok (.text (Text.stripColors s))
  | none => Filter.fail .wrongType

/-- A message after its code, if there is one. -/
def header (color : Bool) (code message : Value) : Except Problem Value :=
  if !code.isSet then .ok message
  else do
    let code ← Filter.plainText code
    return .text (Text.styled color "error_code" code ++ ": " ++ (← Filter.plainText message))

/-- The places that led to an error, outermost first. -/
def trail (color : Bool) (stack : Value) : Except Problem Value := do
  return .text (Report.trail color (← checked (Trail.places stack)))

/-- The function of a name. -/
def find? (color : Bool) (name : String) : Option Behaviour :=
  let role (name : String) : Behaviour := unary (required "text") (paint color (Text.roleColors name))
  match name with
  | "split_path" => some (unary (required "path") splitPath)
  | "resolve_path" => some (binary (required "root") (required "path") fun v path =>
      checked (v.resolveBy path))
  | "get_attr" => some (binary value (required "name") fun v name => checked (v.getNamed name))
  | "get_item" => some (binary value (required "key") fun v key => .ok (v.getItem key))
  | "to_value" => some (unary (required "obj") fun v => v.normalize.mapError .fault)
  | "render_scalar" => some (unary value (keepText Value.display))
  | "stringify" => some (unary value (keepText Value.stringify))
  | "is_truthy" => some (unary value fun v => .ok (.bool v.isTruthy))
  | "is_defined" => some (unary value fun v => .ok (.bool !v.isUndefined))
  | "is_undefined" => some (unary value fun v => .ok (.bool v.isUndefined))
  | "default_safe" => some (ternary value (optional "default_value" (.text ""))
      (optional "boolean" (.bool false)) Filter.default)
  | "coerce_number" => some (unary value fun v =>
      .ok ((v.number?.map Value.ofNumber).getD .null))
  | "html_escape" => some (unary value (escapeWith Text.escapeHtml))
  | "xml_escape" => some (unary value (escapeWith Text.escapeXml))
  | "sort_values" => some (binary (required "values") (optional "attribute" (.text "")) sortValues)
  | "unique_values" => some (ternary (required "values") (optional "attribute" (.text ""))
      (optional "case_sensitive" (.bool false)) uniqueValues)
  | "kind_of" => some (unary value kindOf)
  | "values_equal" => some (binary (required "a") (required "b") fun a b => .ok (.bool (a.equals b)))
  | "markup_repr" => some (unary value fun v => do
      return .text (Value.markup (← Filter.plainText v)).inspect)
  | "undefined_text" => some fun _ => .ok undefinedFacts
  | "error_codes" => some fun _ => .ok errorCodes
  | "colorize" => some (colorize color)
  | "styled" => some (binary (required "role") (required "text") (styled color))
  | "strip_colors" => some (unary (required "text") stripColors)
  | "error_code" | "location" | "hint" | "suggestion" => some (role name)
  | "dim_text" => some (role "dim")
  | "supports_color" => some (taking [] fun _ => .ok (.bool color))
  | "format_error_header" => some (binary (required "code") (required "message") (header color))
  | "format_template_stack" => some (unary (required "stack") (trail color))
  | _ => none

end Stencil.Toolkit
