import Stencil.Error.Class
import Stencil.Text.Closest
import Stencil.Text.Styling

/-! The texts of errors. `report` is the full text of an error, `compact` a short form that begins
    with the code of the error's class. Both are styled for a terminal if colours are on. What a
    runtime error has to tell is gathered in `Facts` first, which leave no doubt about the words. -/

namespace Stencil

namespace Report

open Stencil.Text

/-- The longest text of a value that is shown whole. -/
def maxShown : Nat := 80

/-- A template and, where known, a line and a column. -/
def place (template : String) (line column : Option String) : String :=
  let name := if template.isEmpty then "<template>" else template
  match line, column with
  | none, _ => name
  | some n, none => name ++ ":" ++ n
  | some n, some c => name ++ ":" ++ n ++ ":" ++ c

/-- A line as a part of a place; line 0 is none. -/
def lineText (line : Option Int) : Option String :=
  match line.getD 0 with
  | 0 => none
  | n => some (toString n)

/-- A step on the way to an error as a place. -/
def step (s : Step) : String := place (s.1.getD "") (lineText (some s.2)) none

/-- A line that shows a named value and its type. -/
def describeValue (name : String) (v : Value) : String :=
  let s := v.inspect
  let shown :=
    if maxShown < s.length then String.ofList (s.toList.take (maxShown - 3)) ++ "..." else s
  s!"    {name} = {shown} ({v.typeName})"

/-- The places that led to an error, outermost first. -/
def trail (color : Bool) (places : List String) : String :=
  if places.isEmpty then ""
  else
    let lines := places.map fun p => "  • " ++ styled color "location" p
    joinTexts "\n" (styled color "dim" "Template stack:" :: lines)

/-- A message after its code, if it has one. -/
def header (color : Bool) (code message : String) : String :=
  if code.isEmpty then message else styled color "error_code" code ++ ": " ++ message

/-- A line for a text that is not empty. -/
def labelled (label text : String) : List String :=
  if text.isEmpty then [] else [s!"  {label}: {text}"]

end Report

/-- What a runtime error has to tell, as texts; an empty text tells nothing. -/
structure Facts where
  code : String
  message : String
  place : String
  isLocated : Bool
  trail : List String := []
  construct : String := ""
  expression : String := ""
  values : List (String × Value) := []
  suggestion : String := ""
  guess : Option String := none

namespace Facts

open Stencil.Text Report

/-- The place as it is styled. -/
def styledPlace (color : Bool) (f : Facts) : String := styled color "location" f.place

/-- The report of an undefined name: one line, the trail, and a hint. -/
def undefinedReport (color : Bool) (f : Facts) : String :=
  let guess := match f.guess with
    | some name => ". Did you mean '" ++ styled color "suggestion" name ++ "'?"
    | none => ""
  let steps := if f.trail.isEmpty then "" else "\n\n" ++ Report.trail color f.trail
  f.message ++ " in " ++ f.styledPlace color ++ guess ++ steps
    ++ "\n  " ++ styled color "hint" "Hint:" ++ " " ++ f.suggestion

/-- The report of any other runtime error: a line for each fact. -/
def report (color : Bool) (f : Facts) : String :=
  let located := if f.isLocated then ["  Location: " ++ f.styledPlace color] else []
  let steps := if f.trail.isEmpty then [] else ["", Report.trail color f.trail]
  let values :=
    if f.values.isEmpty then [] else "  Values:" :: f.values.map fun v => describeValue v.1 v.2
  let advice :=
    if f.suggestion.isEmpty then []
    else ["\n  " ++ styled color "hint" "Suggestion:" ++ " " ++ f.suggestion]
  joinTexts "\n" (["Runtime Error: " ++ f.message] ++ located ++ steps
    ++ labelled "Construct" f.construct ++ labelled "Expression" f.expression ++ values ++ advice)

/-- The short text: code, place, trail and hint, without values. -/
def compact (color : Bool) (f : Facts) : String :=
  let steps := if f.trail.isEmpty then [] else [Report.trail color f.trail]
  let advice :=
    if f.suggestion.isEmpty then []
    else ["  " ++ styled color "hint" "Hint:" ++ " " ++ f.suggestion]
  joinTexts "\n" ([header color f.code f.message, "  Location: " ++ f.styledPlace color]
    ++ steps ++ labelled "Expression" f.expression ++ advice)

end Facts

namespace RuntimeError

open Stencil.Text

/-- The visible name that is closest to the first part of an undefined one. -/
def closestName (name : String) (visible : List String) : Option String :=
  let root := String.ofList (name.toList.takeWhile (· != '.'))
  (closest root visible).filter fun found => found != root

/-- What a runtime error tells. -/
def facts (e : RuntimeError) : Facts :=
  { code := (e.errorClass.code?.map ErrorCode.text).getD ""
    message := e.message
    place := Report.place (e.template.getD "") (Report.lineText e.line) none
    isLocated := !(e.template.getD "").isEmpty || e.line.getD 0 != 0
    trail := e.trail.map Report.step
    construct := e.construct.getD ""
    expression := e.expression.getD ""
    values := e.values
    suggestion := e.suggestion.getD ""
    guess := match e.kind with
      | .undefinedName name visible => closestName name visible
      | _ => none }

/-- The full text of a runtime error. -/
def report (color : Bool) (e : RuntimeError) : String :=
  match e.kind with
  | .undefinedName .. => e.facts.undefinedReport color
  | _ => e.facts.report color

/-- The short text of a runtime error. -/
def compact (color : Bool) (e : RuntimeError) : String := e.facts.compact color

end RuntimeError

/-- A text after its code, unless the text has the code in it. -/
def Report.withCode (code : Option ErrorCode) (text : String) : String :=
  match code with
  | none => text
  | some c => if Text.contains text c.text then text else c.text ++ ": " ++ text

namespace TemplateError

open Report

/-- The full text of an error. -/
def report (color : Bool) (e : TemplateError) : String :=
  match e with
  | .general m => m
  | .notFound name m => (m.filter fun s => !s.isEmpty).getD s!"Template '{name.plain}' not found"
  | .syntaxError m line template column =>
    "Syntax Error: " ++ m ++ "\n  --> "
      ++ place (template.getD "") (lineText line) (column.map toString)
  | .construction _ => e.message?.getD ""
  | .runtime r => r.report color

/-- The short text of an error: its report after its code. -/
def compact (color : Bool) (e : TemplateError) : String :=
  match e with
  | .runtime r => r.compact color
  | e => withCode e.errorClass.code? (e.report color)

end TemplateError

namespace Problem

/-- The reason that a failed capability gives: its own message, else its text, else its class. -/
def reason : Problem → String
  | .fault f => f.reason
  | .template e =>
    let m := e.message?.getD ""
    if !m.isEmpty then m
    else
      let s := e.report false
      if s.isEmpty then e.className else s

def className : Problem → String
  | .fault f => f.className
  | .template e => e.className

end Problem

/-- The arguments of a call by name: those given by position have a numbered one, which an argument
    given by that very name replaces. -/
def namedArguments (args : List Value) (named : List (String × Value)) : List (String × Value) :=
  let positional := args.zipIdx.map fun p => (s!"arg{p.2}", p.1)
  let replaced := positional.map fun p => (p.1, (named.lookup p.1).getD p.2)
  replaced ++ named.filter fun p => !(positional.any fun q => q.1 == p.1)

/-- A capability that failed, with the arguments of its call. -/
def RuntimeError.capabilityFailed (kind name : String) (cause : Problem) (args : List Value)
    (named : List (String × Value)) : RuntimeError :=
  { kind := .capabilityFailed kind name args named
    message := s!"{Text.titleFirst kind} '{name}' failed: {cause.reason}"
    construct := some kind
    values := namedArguments args named }

end Stencil
