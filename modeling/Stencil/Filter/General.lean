import Stencil.Filter.Operand
import Stencil.Text.Escape
import Stencil.Value.Json

/-! Filters of any value: texts of whole values, defaults, and the filters whose texts are safe to
    print. A text that is marked safe is never escaped again. -/

namespace Stencil.Filter

/-- The JSON text of a value, over several lines if wished. -/
def jsonEncode (v pretty : Value) : Except Problem Value :=
  match v.json pretty.isSet 0 with
  | .ok s => .ok (.text s)
  | .error f => .error (.fault f)

/-- The text of any value, containers included. -/
def asText (v : Value) : Except Problem Value := v.asText

/-- A default for a value that is undefined or null, or for any that is false as a condition. -/
def orDefault (v default : Value) (anyFalse : Bool) : Value :=
  if v.isUndefined then default
  else if anyFalse then (if v.isTruthy then v else default)
  else if v.isNull then default
  else v

def default (v value boolean : Value) : Except Problem Value :=
  .ok (orDefault v value boolean.isSet)

/-- Marks the text of a value as safe. -/
def safe (v : Value) : Except Problem Value := do
  return .markup (← v.display)

/-- Escapes the text of a value with a function, unless it is marked safe already. -/
def escapeWith (f : String → String) (v : Value) : Except Problem Value :=
  match v with
  | .markup s => .ok (.markup s)
  | v => do return .markup (f (← v.display))

def escape : Value → Except Problem Value := escapeWith Text.escapeHtml

def escapeXml : Value → Except Problem Value := escapeWith Text.escapeXml

end Stencil.Filter
