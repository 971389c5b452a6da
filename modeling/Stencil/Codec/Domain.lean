import Stencil.Codec.Nameprep
import Stencil.Codec.Transfer

/-! Names of domains. A name is a row of labels with points between them. A label outside of ASCII is
    brought into one form, in which letters of either case and characters that look alike count as
    one, and is then written in Punycode after a mark. A label has at least one byte and fewer
    than 64. -/

namespace Stencil.Codec.Domain

open Nameprep

/-! ### The normal form of a label -/

/-- The entry of a character in a table of texts, without the character. -/
def expansion? (table : List String) (c : Char) : Option (List Char) :=
  table.findSome? fun row =>
    ((row.toList.splitOn '\t').find? fun e => e.head? == some c).map (·.drop 1)

/-- The characters that a character is taken apart into; syllables of Korean are so by rule. -/
def apart (c : Char) : List Char :=
  if 0xAC00 ≤ c.toNat && c.toNat ≤ 0xD7A3 then
    let n := c.toNat - 0xAC00
    let two := [Char.ofNat (0x1100 + n / 588), Char.ofNat (0x1161 + n / 28 % 21)]
    if n % 28 = 0 then two else two ++ [Char.ofNat (0x11A7 + n % 28)]
  else (expansion? decompositions c).getD [c]

/-- The combining class of a character. -/
def combiningClass (c : Char) : Nat :=
  match classes.find? fun r => r.1 ≤ c.toNat && c.toNat ≤ r.2.1 with
  | some r => r.2.2
  | none => 0

/-- A character put before those of a higher class that lead a text, up to the next of class 0. -/
def order (c : Char) : List Char → List Char
  | [] => [c]
  | d :: rest =>
    if combiningClass d = 0 || combiningClass c ≤ combiningClass d then c :: d :: rest
    else d :: order c rest

/-- Characters with those of a class other than 0 in the order of their classes. -/
def ordered : List Char → List Char
  | [] => []
  | c :: rest => if combiningClass c = 0 then c :: ordered rest else order c (ordered rest)

/-- The syllable of a first and a middle letter, or of a syllable without a last letter and one. -/
def syllable? (c d : Char) : Option Char :=
  let m := c.toNat
  let n := d.toNat
  if 0x1100 ≤ m && m < 0x1113 && 0x1161 ≤ n && n < 0x1176 then
    some (Char.ofNat (0xAC00 + ((m - 0x1100) * 21 + (n - 0x1161)) * 28))
  else if 0xAC00 ≤ m && m ≤ 0xD7A3 && (m - 0xAC00) % 28 = 0 && 0x11A7 < n && n < 0x11C3 then
    some (Char.ofNat (m + (n - 0x11A7)))
  else none

/-- The character that two others compose. -/
def composed? (c d : Char) : Option Char :=
  (syllable? c d).or <| compositions.findSome? fun row =>
    ((row.toList.splitOn '\t').find? fun e => e.take 2 == [c, d]).bind (·[2]?)

/-- Composes a character with those after it as long as nothing of the same or a higher class
    stands between; what cannot be composed is kept in reverse. -/
def absorb (base : Char) (kept : List Char) (last : Nat) : List Char → List Char
  | [] => base :: kept.reverse
  | d :: rest =>
    let k := combiningClass d
    let isFree := kept.isEmpty || (last < k && k != 0)
    match if isFree then composed? base d else none with
    | some e => absorb e kept last rest
    | none =>
      if k = 0 then base :: kept.reverse ++ absorb d [] 0 rest
      else absorb base (d :: kept) k rest

/-- The composed form of characters. -/
def composed (cs : List Char) : List Char :=
  match cs with
  | [] => []
  | c :: rest => absorb c [] 0 rest

/-- The form of a label in which it is compared. -/
def normal (label : List Char) : List Char :=
  let kept := label.filter fun c => !Text.Ranges.covers dropped c.toNat
  let mapped := kept.flatMap fun c => (expansion? folded c).getD [c]
  composed (ordered (mapped.flatMap apart))

/-- A name may hold the characters, and its direction is clear. -/
def isAllowed (label : List Char) : Bool :=
  let isRight (c : Char) := Text.Ranges.covers rightToLeft c.toNat
  let isLeft (c : Char) := Text.Ranges.covers leftToRight c.toNat
  !label.any (fun c => Text.Ranges.covers prohibited c.toNat) &&
    (!label.any isRight ||
      (!label.any isLeft && label.head?.all isRight && label.getLast?.all isRight))

/-! ### Labels and names -/

/-- All characters are of ASCII. -/
def isBasic (label : List Char) : Bool := label.all fun c => c.toNat < 0x80

/-- The bytes of a label, if it has not too many and not none. -/
def sized (data : List Nat) : Option (List Nat) :=
  if 0 < data.length && data.length < 64 then some data else none

/-- The bytes of a label. -/
def label? (label : List Char) : Option (List Nat) :=
  if isBasic label then sized (label.map Char.toNat)
  else
    let n := normal label
    if !isAllowed n then none
    else if isBasic n then sized (n.map Char.toNat)
    else if "xn--".toList.isPrefixOf n then none
    else sized ("xn--".toList.map Char.toNat ++ Punycode.encode n)

/-- A character that parts labels. -/
def isPoint (c : Char) : Bool := c == '.' || c == '。' || c == '．' || c == '｡'

/-- Labels with points between those that have bytes before them. -/
def pointed (labels : List (List Nat)) : List Nat :=
  labels.foldl (fun done l => if done.isEmpty then l else done ++ 0x2E :: l) []

/-- The bytes of a name. In a name of ASCII the last label may be empty; in any other, a point at
    the end is kept. -/
def encode? (name : List Char) : Option (List Nat) :=
  if name.isEmpty then some []
  else if isBasic name then
    let labels := name.splitOn '.'
    if labels.dropLast.all (fun l => 0 < l.length && l.length < 64)
        && labels.getLast?.all (fun l => l.length < 64) then
      some (name.map Char.toNat)
    else none
  else
    let labels := name.splitOnP isPoint
    let ends := labels.getLast?.any List.isEmpty
    let labels := if ends then labels.dropLast else labels
    (labels.mapM label?).map fun ls => pointed ls ++ if ends then [0x2E] else []

end Stencil.Codec.Domain
