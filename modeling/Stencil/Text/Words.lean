import Stencil.Text.Case
import Stencil.Text.Word

/-! Title case. A *title word* is a run of word characters and apostrophes that begins and ends at
    a word boundary; its first character goes to upper case and the others to lower case, and what
    lies between the words stays as it is. -/

namespace Stencil.Text

/-- A character that may stand in a title word. -/
def inTitleWord (c : Char) : Bool := isWord c || c == '\''

/-- The length of the title word that a text begins with, 0 if it begins with none; `previous`
    says whether a word character stands before the text. No word character follows the longest
    run, so the word ends with the run's last word character. -/
def titleWordLength (previous : Bool) (cs : List Char) : Nat :=
  match cs with
  | [] => 0
  | c :: _ =>
    if inTitleWord c && isWord c != previous then
      ((cs.takeWhile inTitleWord).reverse.dropWhile (!isWord ·)).length
    else 0

/-- Title case of a text of which `skip` characters belong to a word already begun. -/
def titleChars (previous : Bool) (skip : Nat) : List Char → List Char
  | [] => []
  | c :: rest =>
    match skip with
    | skip + 1 => titleChars (isWord c) skip rest
    | 0 =>
      match titleWordLength previous (c :: rest) with
      | 0 => c :: titleChars (isWord c) 0 rest
      | n + 1 => upperChars c ++ lowerChars false (rest.take n) ++ titleChars (isWord c) n rest

/-- The text with each of its words capitalised. -/
def title (s : String) : String := String.ofList (titleChars false 0 s.toList)

end Stencil.Text
