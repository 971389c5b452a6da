import Stencil.Text.Quoted

/-! Percent encoding: letters, digits and `_.-~/` of ASCII stand for themselves, every other
    character for its UTF-8 bytes, each written as a percent sign and two hexadecimal digits. -/

namespace Stencil.Text

/-- The bytes of a character in UTF-8. -/
def utf8 (c : Char) : List UInt8 :=
  let n := c.toNat
  let tail (shift : Nat) : UInt8 := UInt8.ofNat (0x80 + (n >>> shift) % 64)
  if n < 0x80 then [UInt8.ofNat n]
  else if n < 0x800 then [UInt8.ofNat (0xC0 + n / 64), tail 0]
  else if n < 0x10000 then [UInt8.ofNat (0xE0 + n / 4096), tail 6, tail 0]
  else [UInt8.ofNat (0xF0 + n / 262144), tail 12, tail 6, tail 0]

/-- A character that is written as itself. -/
def isUnreserved (c : Char) : Bool := c.isAlphanum || "_.-~/".toList.contains c

/-- A byte as a percent sign and two digits. -/
def percentByte (b : UInt8) : List Char := '%' :: (hex 2 b.toNat).map Char.toUpper

/-- The percent encoding of a text. -/
def percentEncode (s : String) : String :=
  String.ofList (s.toList.flatMap fun c =>
    if isUnreserved c then [c] else (utf8 c).flatMap percentByte)

end Stencil.Text
