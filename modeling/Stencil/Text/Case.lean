import Stencil.Text.Case.Table

/-! Case conversion of text in every script. Upper case and folding map each character on its own;
    lower case looks around a capital sigma, which has a form of its own at the end of a word. -/

namespace Stencil.Text

/-- The code points that a table of sequences gives, if it lists the character. -/
def sequenceOf (table : List (Nat × List Nat)) (c : Char) : Option (List Char) :=
  (table.lookup c.toNat).map (List.map Char.ofNat)

/-- Lower case form of a character on its own, always one character. -/
def lowerChar (c : Char) : Char := Char.ofNat (CaseRun.apply lowerRuns c.toNat)

/-- Upper case form of a character. -/
def upperChars (c : Char) : List Char :=
  (sequenceOf upperSequences c).getD [Char.ofNat (CaseRun.apply upperRuns c.toNat)]

/-- Title case form of a character, which starts a word. -/
def titleCase (c : Char) : List Char :=
  match sequenceOf titleSequences c with
  | some cs => cs
  | none => if titleRanges.covers c.toNat then [c] else upperChars c

/-- Folded form of a character, equal for the case variants of a letter. -/
def foldChars (c : Char) : List Char :=
  match sequenceOf foldSequences c with
  | some cs => cs
  | none =>
    match foldExceptions.lookup c.toNat with
    | some n => [Char.ofNat n]
    | none => [lowerChar c]

/-- A cased letter. -/
def isCased (c : Char) : Bool := casedRanges.covers c.toNat

/-- A character that is passed over when the neighbours of a capital sigma are looked up. -/
def isCaseIgnorable (c : Char) : Bool := caseIgnorableRanges.covers c.toNat

/-- The first character that counts is a cased letter. -/
def startsCased (cs : List Char) : Bool :=
  match cs.dropWhile isCaseIgnorable with
  | c :: _ => isCased c
  | [] => false

/-- Lower case forms, where `afterCased` says that the last character before that counts is a
    cased letter. -/
def lowerChars (afterCased : Bool) : List Char → List Char
  | [] => []
  | c :: rest =>
    let here :=
      if c = 'Σ' then [if afterCased && !startsCased rest then 'ς' else 'σ']
      else if c = 'İ' then ['i', Char.ofNat 0x307]
      else [lowerChar c]
    here ++ lowerChars (if isCaseIgnorable c then afterCased else isCased c) rest

/-- The text in upper case. -/
def upper (s : String) : String := String.ofList (s.toList.flatMap upperChars)

/-- The text in lower case. -/
def lower (s : String) : String := String.ofList (lowerChars false s.toList)

/-- The text with the differences of case removed. -/
def fold (s : String) : String := String.ofList (s.toList.flatMap foldChars)

/-- The first character in title case and the others in the lower case that they have in the text. -/
def titleFirst (s : String) : String :=
  match s.toList with
  | [] => ""
  | c :: rest =>
    String.ofList (titleCase c ++ lowerChars (!isCaseIgnorable c && isCased c) rest)

/-- The first character in upper case and the others in lower case. -/
def capitalize (s : String) : String :=
  String.ofList (s.toList.take 1 |>.flatMap upperChars)
    ++ String.ofList (lowerChars false (s.toList.drop 1))

end Stencil.Text
