/-! Escaping for output formats: each special character is written as an entity, every other
    character as itself. `html` escapes the five characters of markup and the slash, `xml` the five
    alone; they write the single quote in different ways. -/

namespace Stencil.Text

/-- The entity of a character in HTML. -/
def htmlEntity (c : Char) : List Char :=
  match c with
  | '&' => "&amp;".toList
  | '<' => "&lt;".toList
  | '>' => "&gt;".toList
  | '"' => "&quot;".toList
  | '\'' => "&#x27;".toList
  | '/' => "&#x2F;".toList
  | c => [c]

/-- The entity of a character in XML. -/
def xmlEntity (c : Char) : List Char :=
  match c with
  | '&' => "&amp;".toList
  | '<' => "&lt;".toList
  | '>' => "&gt;".toList
  | '"' => "&quot;".toList
  | '\'' => "&apos;".toList
  | c => [c]

/-- The text with its special characters written as entities. -/
def escapeHtml (s : String) : String := String.ofList (s.toList.flatMap htmlEntity)

/-- The text with the five characters of markup written as entities. -/
def escapeXml (s : String) : String := String.ofList (s.toList.flatMap xmlEntity)

end Stencil.Text
