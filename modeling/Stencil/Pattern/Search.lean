import Stencil.Pattern.Match
import Stencil.Pattern.Parse

/-! Searching: whether a pattern that is given as a text matches somewhere in another text. -/

namespace Stencil.Pattern

/-- Whether a pattern matches somewhere in a text. A match with a group whose marks stand in the wrong
    order fails. -/
def search (pattern text : String) : Except Refusal Bool := do
  let p ← parse pattern
  match find? p.pattern p.flags text.toList.toArray with
  | none => return false
  | some r =>
    if (List.range p.groups).any fun i => r.isTorn (i + 1) then throw (.failed .badState)
    return true

end Stencil.Pattern
