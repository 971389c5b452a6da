import Stencil.Text.Printable

/-! Quoted texts as messages show them. The quotes are single ones unless the text has a single
    quote and no double one; the quote in use, the backslash and whatever is not printable are
    written as escapes. -/

namespace Stencil.Text

/-- The quote that encloses a text. -/
def quoteFor (cs : List Char) : Char := if cs.contains '\'' && !cs.contains '"' then '"' else '\''

/-- Digits of a number in base 16, at least `width` of them. -/
def hex (width n : Nat) : List Char :=
  let ds := Nat.toDigits 16 n
  List.replicate (width - ds.length) '0' ++ ds

/-- The escape of a code point by its number. -/
def numericEscape (n : Nat) : List Char :=
  if n ≤ 0xFF then '\\' :: 'x' :: hex 2 n
  else if n ≤ 0xFFFF then '\\' :: 'u' :: hex 4 n
  else '\\' :: 'U' :: hex 8 n

/-- A character between the given quotes. -/
def quotedChar (quote c : Char) : List Char :=
  if c = quote ∨ c = '\\' then ['\\', c]
  else if c = '\n' then ['\\', 'n']
  else if c = '\r' then ['\\', 'r']
  else if c = '\t' then ['\\', 't']
  else if isPrintable c then [c]
  else numericEscape c.toNat

/-- The text in quotes. -/
def quoted (s : String) : String :=
  let q := quoteFor s.toList
  String.ofList (q :: (s.toList.flatMap (quotedChar q) ++ [q]))

/-- A byte between the given quotes; only printable ASCII stands for itself. -/
def quotedByte (quote : Char) (b : UInt8) : List Char :=
  let c := Char.ofNat b.toNat
  if b < 0x7F then quotedChar quote c else numericEscape b.toNat

/-- Bytes in quotes, after a mark that they are bytes. -/
def quotedBytes (data : List UInt8) : String :=
  let q := quoteFor (data.map fun b => Char.ofNat b.toNat)
  String.ofList ('b' :: q :: (data.flatMap (quotedByte q) ++ [q]))

end Stencil.Text
