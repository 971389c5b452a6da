import Stencil.Text.Range

/-! White space: the characters that trimming strips and that separate words. The set is the
    Unicode one together with the four ASCII information separators, so it is larger than the
    set of `Char.isWhitespace`; `isBlank_of_isWhitespace` says that it contains that set. -/

namespace Stencil.Text

/-- The code points of white space, in order. -/
def blankRanges : Ranges :=
  [(9, 13), (28, 32), (133, 133), (160, 160), (5760, 5760), (8192, 8202), (8232, 8233),
   (8239, 8239), (8287, 8287), (12288, 12288)]

/-- A character of white space. -/
def isBlank (c : Char) : Bool := blankRanges.covers c.toNat

/-- Every ASCII space, tab, line feed and carriage return is white space. -/
theorem isBlank_of_isWhitespace (c : Char) (h : c.isWhitespace = true) : isBlank c = true := by
  simp only [Char.isWhitespace, Bool.or_eq_true, decide_eq_true_eq] at h
  rcases h with ((rfl | rfl) | rfl) | rfl <;> decide

/-- Drops the white space in front. -/
def trimLeft (cs : List Char) : List Char := cs.dropWhile isBlank

/-- Drops the white space at both ends. -/
def trim (s : String) : String :=
  String.ofList (trimLeft (trimLeft s.toList).reverse).reverse

/-- Counts the maximal runs of characters that are not white space; `inside` says that the
    character before was part of such a run. -/
def countWords (inside : Bool) : List Char → Nat
  | [] => 0
  | c :: rest =>
    if isBlank c then countWords false rest
    else (if inside then 0 else 1) + countWords true rest

end Stencil.Text
