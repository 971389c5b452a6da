import Stencil.Text.CharName.Alias
import Stencil.Text.CharName.BasicPlane
import Stencil.Text.CharName.OtherPlanes

/-! Characters by name. Most names are listed and may be written in small letters; those of Korean
    syllables and of unified ideographs follow a rule and are written in capitals. -/

namespace Stencil.Text

/-- Kinds of characters that are named for their code points, with the ranges of each. -/
def numberedNames : List (String × List (Nat × Nat)) :=
  [("CJK COMPATIBILITY IDEOGRAPH-", [(0xF900, 0xFA6D), (0xFA70, 0xFAD9), (0x2F800, 0x2FA1D)]),
   ("KHITAN SMALL SCRIPT CHARACTER-", [(0x18B00, 0x18CD5)]),
   ("NUSHU CHARACTER-", [(0x1B170, 0x1B2FB)])]

/-- The code points of unified ideographs. -/
def ideographRanges : List (Nat × Nat) :=
  [(0x3400, 0x4DBF), (0x4E00, 0x9FFF), (0x20000, 0x2A6DF), (0x2A700, 0x2B738), (0x2B740, 0x2B81D),
   (0x2B820, 0x2CEA1), (0x2CEB0, 0x2EBE0), (0x30000, 0x3134A)]

/-- The sounds that begin a Korean syllable, its vowels, and the sounds that end it. -/
def leadingSounds : List String :=
  ["G", "GG", "N", "D", "DD", "R", "M", "B", "BB", "S", "SS", "", "J", "JJ", "C", "K", "T", "P", "H"]

def vowels : List String :=
  ["A", "AE", "YA", "YAE", "EO", "E", "YEO", "YE", "O", "WA", "WAE", "OE", "YO", "U", "WEO", "WE",
   "WI", "YU", "EU", "YI", "I"]

def trailingSounds : List String :=
  ["", "G", "GG", "GS", "N", "NJ", "NH", "D", "L", "LG", "LM", "LB", "LS", "LT", "LP", "LH", "M", "B",
   "BS", "S", "SS", "NG", "J", "C", "K", "T", "P", "H"]

/-- The text after another one that it begins with. -/
def after? : List Char → List Char → Option (List Char)
  | [], cs => some cs
  | p :: ps, c :: cs => if p = c then after? ps cs else none
  | _ :: _, [] => none

/-- The longest of some sounds that a text begins with: its number and what follows. -/
def longestSound? (sounds : List String) (cs : List Char) : Option (Nat × List Char) :=
  sounds.zipIdx.foldl
    (fun best (s, i) =>
      match after? s.toList cs, best with
      | some rest, some (j, other) =>
        if rest.length < other.length then some (i, rest) else some (j, other)
      | some rest, none => some (i, rest)
      | none, best => best)
    none

/-- The code point of the Korean syllable that sounds spell. -/
def syllable? (cs : List Char) : Option Nat := do
  let (l, cs) ← longestSound? leadingSounds cs
  let (v, cs) ← longestSound? vowels cs
  let (t, cs) ← longestSound? trailingSounds cs
  if cs.isEmpty then
    some (0xAC00 + (l * vowels.length + v) * trailingSounds.length + t)
  else none

/-- The value of a digit to base 16 in capitals. -/
def capitalDigit? (c : Char) : Option Nat :=
  if c.isDigit then some (c.toNat - '0'.toNat)
  else if 'A' ≤ c ∧ c ≤ 'F' then some (c.toNat - 'A'.toNat + 10)
  else none

/-- The number that digits to base 16 write. -/
def codePoint? (cs : List Char) : Option Nat := do
  let ds ← cs.mapM capitalDigit?
  return ds.foldl (fun n d => 16 * n + d) 0

/-- The code point of a kind of characters that are named for their code points. -/
def numbered? (name : List Char) (kind : String × List (Nat × Nat)) : Option Nat := do
  let ds ← after? kind.1.toList name
  let n ← codePoint? ds
  if kind.2.any (fun r => decide (r.1 ≤ n) && decide (n ≤ r.2)) then
    if ds.length = (if n < 0x10000 then 4 else 5) then return n
  none

/-- The code point of a character that is named by a rule. -/
def ruled? (name : List Char) : Option (Option Nat) :=
  match after? "HANGUL SYLLABLE ".toList name, after? "CJK UNIFIED IDEOGRAPH-".toList name with
  | some sounds, _ => some (syllable? sounds)
  | none, some ds =>
    if ds.length = 4 ∨ ds.length = 5 then
      some ((codePoint? ds).filter fun n =>
        ideographRanges.any fun r => decide (r.1 ≤ n) && decide (n ≤ r.2))
    else some none
  | none, none => none

/-- The code point of the character with a name. -/
def ofCharName? (name : String) : Option Nat :=
  match ruled? name.toList with
  | some found => found
  | none =>
    let cs := name.toList.map Char.toUpper
    (nameAliases.lookup (String.ofList cs)).or
      ((numberedNames.findSome? (numbered? cs)).or
        ((findName cs basicNames).or (findName cs otherNames)))

end Stencil.Text
