/-! Occurrences of one text in another: membership, splitting at every occurrence, replacing, and
    joining with a separator. Occurrences are taken from the left and do not overlap. -/

namespace Stencil.Text

/-- The first text occurs in the second. -/
def isInfix (needle : List Char) : List Char → Bool
  | [] => needle.isEmpty
  | c :: rest => needle.isPrefixOf (c :: rest) || isInfix needle rest

/-- The pieces between the occurrences of a separator. `skip` counts the characters that still
    belong to an occurrence, `piece` holds the current piece backwards. -/
def pieces (sep : List Char) (skip : Nat) (piece : List Char) : List Char → List (List Char)
  | [] => [piece.reverse]
  | c :: rest =>
    match skip with
    | skip + 1 => pieces sep skip piece rest
    | 0 =>
      if sep.isPrefixOf (c :: rest) then piece.reverse :: pieces sep (sep.length - 1) [] rest
      else pieces sep 0 (c :: piece) rest

/-- The pieces of a text between the occurrences of a separator that is not empty. -/
def split (sep s : List Char) : List (List Char) := pieces sep 0 [] s

/-- The pieces with the separator between each two. -/
def join (sep : List Char) (parts : List (List Char)) : List Char := sep.intercalate parts

/-- The text with another one in place of every occurrence of the first; an empty text occurs
    before every character and at the end. -/
def replace (old new s : String) : String :=
  if old.isEmpty then
    String.ofList (new.toList ++ s.toList.flatMap fun c => c :: new.toList)
  else String.ofList (join new.toList (split old.toList s.toList))

/-- Membership of one text in another. -/
def contains (s needle : String) : Bool := isInfix needle.toList s.toList

def startsWith (s start : String) : Bool := start.toList.isPrefixOf s.toList

def endsWith (s ending : String) : Bool := ending.toList.isSuffixOf s.toList

/-- The texts with a separator between each two. -/
def joinTexts (sep : String) (parts : List String) : String := sep.intercalate parts

/-- The names of a list in ascending order, each of them once. -/
def sortedNames (names : List String) : List String :=
  names.eraseDups.mergeSort fun a b => !decide (b < a)

end Stencil.Text
