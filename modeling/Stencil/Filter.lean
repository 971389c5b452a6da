import Stencil.Filter.Array
import Stencil.Filter.General
import Stencil.Filter.Number
import Stencil.Filter.Text

/-! The built-in filters by their names, with the parameters they take. -/

namespace Stencil.Filter

open Capability Parameter

/-- The filters of texts. -/
def ofTexts : List (String × Behaviour) :=
  [("upper", unary value upper),
   ("lower", unary value lower),
   ("trim", unary value trim),
   ("capitalize", unary value capitalize),
   ("title", unary value title),
   ("replace", variadic replace),
   ("truncate",
     ternary value (optional "length" (.int 255)) (optional "end" (.text "…")) truncate),
   ("wordcount", unary value wordcount),
   ("striptags", unary value striptags),
   ("split", binary value { name := "pat" } split),
   ("urlencode", unary value urlencode)]

/-- The filters of numbers. -/
def ofNumbers : List (String × Behaviour) :=
  [("int", ternary value (optional "default" (.int 0)) (optional "base" (.int 10)) int),
   ("float", binary value (optional "default" (.float .zero)) float),
   ("abs", unary value abs),
   ("round",
     ternary value (optional "method" (.text "common")) (optional "precision" (.int 0)) round),
   ("pluralize",
     ternary value (optional "singular" (.text "")) (optional "plural" (.text "s")) pluralize)]

/-- The filters of arrays and objects. -/
def ofArrays : List (String × Behaviour) :=
  [("length", unary value length),
   ("reverse", unary value reverse),
   ("first", unary value first),
   ("last", unary value last),
   ("nth", binary value { name := "n" } nth),
   ("join", binary value (optional "sep" (.text "")) join),
   ("sort", binary value (optional "attribute" (.text "")) sort),
   ("unique",
     ternary value (optional "attribute" (.text "")) (optional "case_sensitive" (.bool false))
       unique),
   ("slice", ternary value (optional "start" (.int 0)) (optional "end" .null) slice),
   ("group_by", binary value { name := "attribute" } groupBy),
   ("filter",
     ternary (positional "items") { name := "attribute" } (optional "value" .null) filter),
   ("map", binary value { name := "attribute" } map),
   ("concat", variadic concat),
   ("get", ternary (positional "obj") { name := "key" } (optional "default" .undefined) get)]

/-- The filters of any value. -/
def ofValues : List (String × Behaviour) :=
  [("json_encode", binary value (optional "pretty" (.bool false)) jsonEncode),
   ("as_str", unary value asText),
   ("default",
     ternary (positional "operand") (optional "value" (.text ""))
       (optional "boolean" (.bool false)) default),
   ("safe", unary value safe),
   ("escape", unary value escape),
   ("escape_xml", unary value escapeXml)]

/-- The filters whose texts are safe to print. -/
def isSafe (name : String) : Bool := ["safe", "escape", "escape_xml"].contains name

/-- The filters that take an operand whose lookup found nothing. -/
def isLenient (name : String) : Bool := name == "default"

/-- The built-in filters. -/
def all : Table Capability := capabilities (ofTexts ++ ofNumbers ++ ofArrays ++ ofValues) isSafe

end Stencil.Filter
