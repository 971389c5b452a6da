import Stencil.Codec.Chart

/-! Encodings that write every text in characters of ASCII: escapes for what lies outside of it, runs in
    base 64 between a plus and a minus, and Punycode, which writes the characters of ASCII first
    and then where the others belong among them. -/

namespace Stencil.Codec

/-- The byte of a digit in base 16. -/
def hexDigit (n : Nat) : Nat := if n < 10 then 0x30 + n else 0x57 + n

/-- A number in a fixed count of digits in base 16. -/
def hexDigits (count n : Nat) : List Nat :=
  ((List.range count).map fun i => hexDigit (n / Nat.pow 16 i % 16)).reverse

/-- The UTF-16 units of a character. -/
def units16 (c : Char) : List Nat :=
  let n := c.toNat
  if n < 0x10000 then [n]
  else [0xD800 + (n - 0x10000) / 0x400, 0xDC00 + (n - 0x10000) % 0x400]

/-! ### Escapes -/

/-- An escape for a character outside of Latin-1. -/
def wideEscape (n : Nat) : List Nat :=
  if n < 0x10000 then 0x5C :: 0x75 :: hexDigits 4 n else 0x5C :: 0x55 :: hexDigits 8 n

/-- A character, escaped unless it is a printable one of ASCII. -/
def fullEscape (c : Char) : List UInt8 :=
  let n := c.toNat
  octets <|
    if c = '\\' then [0x5C, 0x5C]
    else if c = '\t' then [0x5C, 0x74]
    else if c = '\n' then [0x5C, 0x6E]
    else if c = '\r' then [0x5C, 0x72]
    else if 0x20 ≤ n && n < 0x7F then [n]
    else if n < 0x100 then 0x5C :: 0x78 :: hexDigits 2 n
    else wideEscape n

/-- A character, escaped unless it is one of Latin-1. -/
def rawEscape (c : Char) : List UInt8 :=
  octets (if c.toNat < 0x100 then [c.toNat] else wideEscape c.toNat)

/-! ### Runs in base 64 -/

namespace Utf7

/-- The characters that stand for themselves. -/
def isDirect (c : Char) : Bool :=
  ('\x20' ≤ c && c ≤ '\x7d' && c != '+' && c != '\\') || c == '\t' || c == '\n' || c == '\r'

/-- The byte of a digit in base 64. -/
def digit (n : Nat) : Nat :=
  if n < 26 then 0x41 + n
  else if n < 52 then 0x61 + (n - 26)
  else if n < 62 then 0x30 + (n - 52)
  else if n = 62 then 0x2B else 0x2F

/-- The units of a run in base 64, where the last digit is filled up with zeros. -/
def base64 (units : List Nat) : List Nat :=
  let bits := 16 * units.length
  let count := (bits + 5) / 6
  let n := (units.foldl (fun n u => n * 0x10000 + u) 0) <<< (6 * count - bits)
  ((List.range count).map fun i => digit (n / Nat.pow 64 i % 64)).reverse

/-- A character would be taken for a part of a run that stands before it. -/
def needsEnd (c : Char) : Bool := c.isAlphanum || c == '+' || c == '/' || c == '-'

/-- The bytes of a text; the units of a run that is under way are given in reverse. -/
def encode (run : Option (List Nat)) : List Char → List Nat
  | [] =>
    match run with
    | none => []
    | some units => base64 units.reverse ++ [0x2D]
  | c :: rest =>
    match run with
    | none =>
      if c = '+' then 0x2B :: 0x2D :: encode none rest
      else if isDirect c then c.toNat :: encode none rest
      else 0x2B :: encode (some (units16 c).reverse) rest
    | some units =>
      if isDirect c then
        base64 units.reverse ++ (if needsEnd c then [0x2D] else []) ++ c.toNat :: encode none rest
      else encode (some ((units16 c).reverse ++ units)) rest

end Utf7

/-! ### Punycode -/

namespace Punycode

/-- The byte of a digit in base 36. -/
def digit (n : Nat) : Nat := if n < 26 then 0x61 + n else 0x30 + (n - 26)

/-- The threshold of the digit at a position. -/
def threshold (position bias : Nat) : Nat := max 1 (min 26 (36 * (position + 1) - bias))

theorem threshold_bounds (position bias : Nat) :
    1 ≤ threshold position bias ∧ threshold position bias ≤ 26 := by
  unfold threshold
  omega

/-- A number in digits, of which the last one lies below its threshold. -/
def digits (bias position n : Nat) : List Nat :=
  let t := threshold position bias
  if n < t then [digit n]
  else digit (t + (n - t) % (36 - t)) :: digits bias (position + 1) ((n - t) / (36 - t))
termination_by n
decreasing_by
  obtain ⟨h₁, h₂⟩ := threshold_bounds position bias
  calc (n - threshold position bias) / (36 - threshold position bias)
      ≤ n - threshold position bias := Nat.div_le_self ..
    _ < n := by omega

/-- Divides a difference until it is small, and counts the divisions. -/
def scaled (delta count : Nat) : Nat × Nat :=
  if 455 < delta then scaled (delta / 35) (count + 36) else (delta, count)
termination_by delta
decreasing_by exact Nat.div_lt_self (by omega) (by omega)

/-- The bias after a difference, once a number of characters are placed. -/
def adapt (delta placed : Nat) (isFirst : Bool) : Nat :=
  let delta := if isFirst then delta / 700 else delta / 2
  let (delta, count) := scaled (delta + delta / placed) 0
  count + 36 * delta / (delta + 38)

/-- The differences between the places of the characters outside of ASCII, in ascending order. -/
structure State where
  out : List Nat := []
  delta : Nat := 0
  bias : Nat := 72
  placed : Nat

/-- Passes a character of the text while those equal to `n` are placed. -/
def pass (start n : Nat) (s : State) (c : Char) : State :=
  if c.toNat < n then { s with delta := s.delta + 1 }
  else if c.toNat = n then
    { out := s.out ++ digits s.bias 0 s.delta
      delta := 0
      bias := adapt s.delta (s.placed + 1) (s.placed == start)
      placed := s.placed + 1 }
  else s

/-- Places the characters of the given numbers, the smallest first; `low` is the least one left. -/
def place (text : List Char) (start low : Nat) (s : State) : List Nat → State
  | [] => s
  | n :: rest =>
    let s := { s with delta := s.delta + (n - low) * (s.placed + 1) }
    let s := text.foldl (pass start n) s
    place text start (n + 1) { s with delta := s.delta + 1 } rest

/-- A number among others in ascending order, once. -/
def insert (n : Nat) : List Nat → List Nat
  | [] => [n]
  | m :: rest => if n < m then n :: m :: rest else if n = m then m :: rest else m :: insert n rest

/-- The bytes of a text. -/
def encode (text : List Char) : List Nat :=
  let basic := (text.filter fun c => c.toNat < 0x80).map Char.toNat
  let others := (text.filter fun c => 0x80 ≤ c.toNat).foldl (fun ns c => insert c.toNat ns) []
  let s := place text basic.length 0x80 { placed := basic.length } others
  basic ++ (if basic.isEmpty then [] else [0x2D]) ++ s.out

end Punycode

end Stencil.Codec
