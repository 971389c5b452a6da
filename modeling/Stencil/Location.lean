import Stencil.Error

/-! Where a render is: the template it is in, the line of the statement it is at, and the trail of
    templates and lines that led there. Includes that are open are counted against a limit. -/

namespace Stencil

/-- The place of a render. -/
structure Location where
  template : Option String := none
  line : Int := 0
  includeDepth : Int := 0
  limit : Int := 50
  trail : List Step := []

namespace Location

/-- Moves into a template, whose line is not known yet; the place left is put on the trail. -/
def enter (l : Location) (template : String) : Location :=
  { l with
    template := some template
    line := 0
    trail := if l.template.isSome then l.trail ++ [(l.template, l.line)] else l.trail }

/-- Moves back to a place that was left. -/
def leave (l : Location) (saved : Step) : Location :=
  { l with
    template := saved.1
    line := saved.2
    trail := if saved.1.isSome then l.trail.dropLast else l.trail }

/-- The line, if it is known. -/
def knownLine (l : Location) : Option Int := if l.line = 0 then none else some l.line

/-- Refuses to open another include once the limit is reached. -/
def checkInclude (l : Location) (target : String) : Except RuntimeError Unit :=
  if l.includeDepth < l.limit then .ok ()
  else .error { RuntimeError.recursionLimit l.limit target "include" with
    template := l.template
    line := l.knownLine }

end Location

end Stencil
