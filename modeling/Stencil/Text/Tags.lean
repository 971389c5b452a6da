/-! Removal of tags and comments from a text. A comment runs from `<!--` to the next `-->`; a tag
    runs from `<` to the next `>`. Where a comment does not end, its opening may still begin a tag,
    and a `<` that no `>` follows is kept. -/

namespace Stencil.Text

/-- The number of characters up to the end of a comment. -/
def commentEnd? : List Char → Option Nat
  | [] => none
  | c :: rest =>
    if "-->".toList.isPrefixOf (c :: rest) then some 3 else (commentEnd? rest).map (· + 1)

/-- The number of characters up to the end of a tag. -/
def tagEnd? : List Char → Option Nat
  | [] => none
  | c :: rest => if c = '>' then some 1 else (tagEnd? rest).map (· + 1)

/-- The length of the comment or tag that a text begins with, 0 if it begins with none. -/
def tagLength : List Char → Nat
  | [] => 0
  | c :: rest =>
    if c = '<' then
      let comment :=
        if "!--".toList.isPrefixOf rest then (commentEnd? (rest.drop 3)).map (· + 4) else none
      match comment with
      | some n => n
      | none => ((tagEnd? rest).map (· + 1)).getD 0
    else 0

/-- Drops the tags of a text of which `skip` characters belong to a tag already begun. -/
def dropTags (skip : Nat) : List Char → List Char
  | [] => []
  | c :: rest =>
    match skip with
    | skip + 1 => dropTags skip rest
    | 0 =>
      match tagLength (c :: rest) with
      | 0 => c :: dropTags 0 rest
      | n + 1 => dropTags n rest

/-- The text without its tags and comments. -/
def stripTags (s : String) : String := String.ofList (dropTags 0 s.toList)

end Stencil.Text
