import Stencil.Number.Binary64
import Stencil.Text.Blank
import Stencil.Text.Digit

/-! Numerals in text. Digits of any script count as the ASCII digits of their value, and single
    underscores may stand between digits. `readInt?` reads an integer in a base from 2 to 36 or, in
    base 0, in the base that its marker names; `readFloat?` reads a decimal with an optional point
    and exponent, or the name of an infinity or of NaN. -/

namespace Stencil.Numeral

open Stencil.Text

/-- The ASCII form of a character of a numeral: white space outside ASCII counts as a space. -/
def plainChar (c : Char) : Char :=
  match decimalValue? c with
  | some d => Char.ofNat ('0'.toNat + d)
  | none => if 127 < c.toNat && isBlank c then ' ' else c

/-- The blanks that may stand around a numeral, which are fewer than those that trimming drops. -/
def isPadding (c : Char) : Bool := c == ' ' || ('\t' ≤ c && c ≤ '\x0d')

/-- The text of a numeral: blanks at both ends dropped, digits in ASCII. -/
def plain (s : String) : List Char :=
  (((s.toList.map plainChar).dropWhile isPadding).reverse.dropWhile isPadding).reverse

/-- The value of a digit or letter as a digit of a large base. -/
def digitValue? (c : Char) : Option Nat :=
  if '0' ≤ c ∧ c ≤ '9' then some (c.toNat - '0'.toNat)
  else if 'a' ≤ c ∧ c ≤ 'z' then some (c.toNat - 'a'.toNat + 10)
  else if 'A' ≤ c ∧ c ≤ 'Z' then some (c.toNat - 'A'.toNat + 10)
  else none

/-- The digits of a numeral with the underscores taken out, if each of these stands between two
    digits; `after` says whether a digit stands before the text. -/
def digits? (base : Nat) (after : Bool) : List Char → Option (List Nat)
  | [] => if after then some [] else none
  | '_' :: rest => if after then digits? base false rest else none
  | c :: rest =>
    match digitValue? c with
    | some d => if d < base then (digits? base true rest).map (d :: ·) else none
    | none => none

/-- The number that digits write in a base. -/
def ofDigits (base : Nat) (ds : List Nat) : Nat := ds.foldl (fun n d => n * base + d) 0

/-- A sign in front. -/
def takeSign : List Char → Bool × List Char
  | '+' :: rest => (false, rest)
  | '-' :: rest => (true, rest)
  | cs => (false, cs)

/-- The base that a marker after a leading zero names. -/
def markerBase? (c : Char) : Option Nat :=
  if c == 'x' || c == 'X' then some 16
  else if c == 'o' || c == 'O' then some 8
  else if c == 'b' || c == 'B' then some 2
  else none

/-- Drops one underscore, which may follow a marker. -/
def dropUnderscore : List Char → List Char
  | '_' :: rest => rest
  | cs => cs

/-- The base of a numeral and its digits without a marker. The flag asks for the value zero: in
    base 0 a decimal may begin with a zero only if it is zero. -/
def splitMarker (base : Nat) (cs : List Char) : Nat × Bool × List Char :=
  match cs with
  | '0' :: c :: rest =>
    match markerBase? c with
    | some b =>
      if base = b ∨ base = 0 then (b, false, dropUnderscore rest)
      else (base, false, cs)
    | none => if base = 0 then (10, true, cs) else (base, false, cs)
  | '0' :: _ => if base = 0 then (10, true, cs) else (base, false, cs)
  | _ => (if base = 0 then 10 else base, false, cs)

/-- The longest decimal numeral that is converted. -/
def maxDigits : Nat := 4300

/-- Only a base that is no power of two limits the number of digits. -/
def tooLong (base : Nat) (ds : List Nat) : Bool :=
  !([2, 4, 8, 16, 32].contains base) && decide (maxDigits < ds.length)

/-- The integer that a text writes in a base. -/
def readInt? (base : Nat) (s : String) : Option Int :=
  let (negative, cs) := takeSign (plain s)
  let (b, onlyZero, cs) := splitMarker base cs
  match digits? b false cs with
  | none => none
  | some ds =>
    let n := ofDigits b ds
    if tooLong b ds || (onlyZero && n != 0) then none
    else some (if negative then -(n : Int) else n)

/-- A base that integers can be read in; 0 leaves the choice to the text. -/
def isBase (base : Int) : Bool := base == 0 || (decide (2 ≤ base) && decide (base ≤ 36))

/-- The longest run of digits and underscores in front. -/
def takeRun (cs : List Char) : List Char × List Char :=
  cs.span fun c => ('0' ≤ c && c ≤ '9') || c == '_'

/-- The digits of a run that may be empty. -/
def runDigits? (cs : List Char) : Option (List Nat) :=
  if cs.isEmpty then some [] else digits? 10 false cs

/-- The double nearest to `m · 10^e`. Exponents far outside the range decide the result at once. -/
def ofDecimal (negative : Bool) (m : Nat) (e : Int) : Binary64 :=
  let size : Int := (toString m).length
  if m = 0 ∨ e + size < -400 then .finite negative 0
  else if 400 < e + size then .infinity negative
  else if 0 ≤ e then Binary64.ofUnits negative (m * Nat.pow 10 e.toNat * Binary64.one) 1
  else Binary64.ofUnits negative (m * Binary64.one) (Nat.pow 10 (-e).toNat)

/-- The exponent part at the end of a decimal. -/
def readExponent? : List Char → Option Int
  | [] => some 0
  | c :: rest =>
    if c == 'e' || c == 'E' then
      let (negative, cs) := takeSign rest
      (digits? 10 false cs).map fun ds =>
        let n : Int := ofDigits 10 ds
        if negative then -n else n
    else none

/-- The digits after a point in front, and what follows them. -/
def takeFraction : List Char → List Char × List Char
  | '.' :: rest => takeRun rest
  | cs => ([], cs)

/-- A decimal without its sign. -/
def readDecimal? (negative : Bool) (cs : List Char) : Option Binary64 :=
  let (whole, rest) := takeRun cs
  let (fraction, rest) := takeFraction rest
  match runDigits? whole, runDigits? fraction, readExponent? rest with
  | some w, some f, some e =>
    if w.isEmpty && f.isEmpty then none
    else some (ofDecimal negative (ofDigits 10 (w ++ f)) (e - f.length))
  | _, _, _ => none

/-- The double that a text writes. -/
def readFloat? (s : String) : Option Binary64 :=
  let (negative, cs) := takeSign (plain s)
  let name := String.ofList (cs.map Char.toLower)
  if name = "inf" ∨ name = "infinity" then some (.infinity negative)
  else if name = "nan" then some .nan
  else readDecimal? negative cs

end Stencil.Numeral
