import Stencil.Codec.Chinese
import Stencil.Codec.Japanese
import Stencil.Codec.Korean
import Stencil.Codec.Page
import Stencil.Codec.Traditional

/-! Character sets of several bytes for a character. A code says for a character, and for the one after
    it where the two may be one, which bytes stand for it. All sets take ASCII for itself unless
    they say otherwise; what they chart is placed into bytes by a rule of its own for each set. -/

namespace Stencil.Codec

/-- The bytes of a character, given the one after it, and whether they stand for both. -/
abbrev Code := Char → Option Char → Option (List UInt8 × Bool)

namespace Code

/-- A code that looks at one character. -/
def single (f : Char → Option (List UInt8)) : Code := fun c _ => (f c).map (·, false)

/-- A code that takes two characters as one where it can. -/
def paired (pair? : Char → Char → Option (List UInt8)) (f : Char → Option (List UInt8)) : Code :=
  fun c next =>
    match next.bind (pair? c) with
    | some data => some (data, true)
    | none => (f c).map (·, false)

end Code

/-- The bytes of a character of ASCII. -/
def ascii? (c : Char) : Option (List UInt8) :=
  if c.toNat < 0x80 then some (octets [c.toNat]) else none

/-- A row and a cell from the bytes A1 on. -/
def upper (place : Nat × Nat) : List UInt8 := octets [place.1 + 0xA1, place.2 + 0xA1]

/-- A row and a cell from the bytes 21 on. -/
def lower (place : Nat × Nat) : List UInt8 := octets [place.1 + 0x21, place.2 + 0x21]

namespace Japanese

/-- The byte of a katakana of half the width. -/
def katakana? (c : Char) : Option Nat :=
  if 0xFF61 ≤ c.toNat && c.toNat ≤ 0xFF9F then some (c.toNat - 0xFEC0) else none

/-- The two characters that take the places of a backslash and a tilde. -/
def roman? (c : Char) : Option (List UInt8) :=
  if c = '¥' then some (octets [0x5C]) else if c = '‾' then some (octets [0x7E]) else none

/-- Two rows under one lead byte, around the bytes of katakana. -/
def shifted (place : Nat × Nat) : List UInt8 :=
  let lead := place.1 / 2
  let trail := place.2 + 94 * (place.1 % 2)
  octets [lead + (if lead < 0x1F then 0x81 else 0xC1), trail + (if trail < 0x3F then 0x40 else 0x41)]

def shiftJis? (c : Char) : Option (List UInt8) :=
  (ascii? c).or <| (roman? c).or <| ((katakana? c).map fun b => octets [b]).or <|
    (basic.find? c).map shifted

/-- A character of private use in rows after the last one. -/
def private? (c : Char) : Option (List UInt8) :=
  if 0xE000 ≤ c.toNat && c.toNat < 0xE758 then
    let n := c.toNat - 0xE000
    let trail := n % 188
    some (octets [n / 188 + 0xF0, trail + (if trail < 0x3F then 0x40 else 0x41)])
  else none

/-- The bytes of a character that stand alone on personal computers. -/
def loneByte? (c : Char) : Option (List UInt8) :=
  let n := c.toNat
  if n = 0x80 then some (octets [0x80])
  else if n = 0xF8F0 then some (octets [0xA0])
  else if 0xF8F1 ≤ n && n ≤ 0xF8F3 then some (octets [n - 0xF8F1 + 0xFD])
  else none

def vendor? (c : Char) : Option (List UInt8) :=
  (ascii? c).or <| (loneByte? c).or <| ((katakana? c).map fun b => octets [b]).or <|
    (((vendor.find? c).or (basic.find? c)).map shifted).or (private? c)

/-- A katakana after the byte that announces it. -/
def announced? (c : Char) : Option (List UInt8) := (katakana? c).map fun b => octets [0x8E, b]

/-- A character of the supplement after the byte that announces it. -/
def supplement? (c : Char) : Option (List UInt8) :=
  (supplement.find? c).map fun place => octets [0x8F] ++ upper place

def euc? (c : Char) : Option (List UInt8) :=
  (ascii? c).or <| (roman? c).or <| (announced? c).or <| ((basic.find? c).map upper).or
    (supplement? c)

/-- An edition of the extended set. -/
inductive Edition where
  | first | second
  deriving DecidableEq, Repr

/-- The characters that only the second edition has. -/
def secondOnly : List Char := "俱剝吞噓姸屛幷瘦繫\u9b1c𠮟".toList

/-- The place of a character in a part of the extended set; the first edition has another form of one
    character. -/
def findIn (e : Edition) (chart : Chart) (c : Char) : Option (Nat × Nat) :=
  match e with
  | .second => chart.find? c
  | .first =>
    if secondOnly.contains c then none
    else chart.find? (if c = '\u9b1d' then '\u9b1c' else c)

/-- A character of the first plane. -/
def firstPlane? (e : Edition) (c : Char) : Option (Nat × Nat) :=
  (findIn e basic c).or (findIn e firstPlane c)

/-- A character of the second plane. -/
def secondPlane? (e : Edition) (c : Char) : Option (Nat × Nat) := findIn e secondPlane c

/-- Two characters that are one. -/
def pair? (c next : Char) : Option (Nat × Nat) :=
  (pairs.find? fun p => p.1 == c && p.2.1 == next).map fun p => p.2.2

def eucExtended (e : Edition) : Code :=
  .paired (fun c next => (pair? c next).map upper) fun c =>
    (ascii? c).or <| (announced? c).or <| ((firstPlane? e c).map upper).or <|
      ((secondPlane? e c).map fun place => octets [0x8F] ++ upper place).or <|
        if e = .first && secondOnly.contains c then none else supplement? c

/-- A row of the second plane, as the rows after those of the first one. -/
def secondRow (row : Nat) : Nat :=
  if 77 ≤ row then row + 26 else if 11 ≤ row || row = 7 then row + 88 else row + 94

def shiftJisExtended (e : Edition) : Code :=
  .paired (fun c next => (pair? c next).map shifted) fun c =>
    if c = '\\' then some (shifted (0, 31))
    else if c = '~' then some (shifted (1, 17))
    else if c = '＼' || c = '～' then none
    else
      (ascii? c).or <| (roman? c).or <| ((katakana? c).map fun b => octets [b]).or <|
        ((firstPlane? e c).map shifted).or <|
          (secondPlane? e c).map fun place => shifted (secondRow place.1, place.2)

end Japanese

namespace Korean

/-- The number of a syllable. -/
def syllable? (c : Char) : Option Nat :=
  if 0xAC00 ≤ c.toNat && c.toNat ≤ 0xD7A3 then some (c.toNat - 0xAC00) else none

/-- The first, middle and last letter of a syllable by number; the last one may be none. -/
def letters (n : Nat) : Nat × Nat × Nat := (n / 588, n / 28 % 21, n % 28)

def entry (table : List Nat) (i : Nat) : Nat := table[i]?.getD 0

/-- A syllable outside of the set, spelled by its letters after a filler. -/
def spelled (n : Nat) : List UInt8 :=
  let (initial, vowel, final) := letters n
  let initials := [0xA1, 0xA2, 0xA4, 0xA7, 0xA8, 0xA9, 0xB1, 0xB2, 0xB3, 0xB5, 0xB6, 0xB7, 0xB8,
    0xB9, 0xBA, 0xBB, 0xBC, 0xBD, 0xBE]
  let finals := [0xD4, 0xA1, 0xA2, 0xA3, 0xA4, 0xA5, 0xA6, 0xA7, 0xA9, 0xAA, 0xAB, 0xAC, 0xAD,
    0xAE, 0xAF, 0xB0, 0xB1, 0xB2, 0xB4, 0xB5, 0xB6, 0xB7, 0xB8, 0xBA, 0xBB, 0xBC, 0xBD, 0xBE]
  octets [0xA4, 0xD4, 0xA4, entry initials initial, 0xA4, 0xBF + vowel, 0xA4, entry finals final]

def euc? (c : Char) : Option (List UInt8) :=
  (ascii? c).or <| ((basic.find? c).map upper).or <| (syllable? c).map spelled

/-- The trail bytes of syllables outside of the set: letters, then all bytes of the upper half. -/
def trail (i : Nat) : Nat :=
  if i < 26 then 0x41 + i else if i < 52 then 0x61 + (i - 26) else 0x81 + (i - 52)

/-- The syllables outside of the set in ascending order, first in rows of 178, then of 84. -/
def unified (c : Char) (n : Nat) : List UInt8 :=
  let rank := n - Chart.countBefore basic (fun d => (syllable? d).isSome) c
  if rank < 32 * 178 then octets [0x81 + rank / 178, trail (rank % 178)]
  else
    let rank := rank - 32 * 178
    octets [0xA1 + rank / 84, trail (rank % 84)]

def unified? (c : Char) : Option (List UInt8) :=
  (ascii? c).or <| ((basic.find? c).map upper).or <| (syllable? c).map (unified c)

/-- A syllable as three numbers of five bits. -/
def combined (initial vowel final : Nat) : List UInt8 :=
  let n := 0x8000 + initial * 0x400 + vowel * 0x20 + final
  octets [n / 0x100, n % 0x100]

/-- The numbers of the vowels, of which some are left out. -/
def vowelNumber (i : Nat) : Nat :=
  entry [3, 4, 5, 6, 7, 10, 11, 12, 13, 14, 15, 18, 19, 20, 21, 22, 23, 26, 27, 28, 29] i

/-- The numbers of the final letters. -/
def finalNumber (i : Nat) : Nat := if i < 17 then i + 1 else i + 2

/-- A letter alone: a consonant as an initial letter where it can be one, else as a final one. -/
def loneLetter (n : Nat) : List UInt8 :=
  let initials := [0, 1, 3, 6, 7, 8, 16, 17, 18, 20, 21, 22, 23, 24, 25, 26, 27, 28, 29]
  if 30 ≤ n then combined 1 (vowelNumber (n - 30)) 1
  else
    match initials.findIdx? (· == n) with
    | some i => combined (i + 2) 2 1
    | none =>
      let finals := [0, 1, 2, 3, 4, 5, 6, 8, 9, 10, 11, 12, 13, 14, 15, 16, 17, 19, 20, 21, 22, 23,
        25, 26, 27, 28, 29]
      combined 1 2 (finalNumber ((finals.findIdx? (· == n)).getD 0 + 1))

/-- Rows of symbols and of Chinese characters, two under one lead byte. -/
def combinedPlace (place : Nat × Nat) : Option (List UInt8) :=
  let (row, cell) := place
  if row < 12 || (41 ≤ row && row < 93) then
    let half := if row < 41 then row + 0x1B2 else row + 0x197
    let trail := cell + 94 * (half % 2)
    some (octets [half / 2, trail + (if trail < 0x4E then 0x31 else 0x43)])
  else none

def combined? (c : Char) : Option (List UInt8) :=
  (ascii? c).or <|
    match syllable? c with
    | some n =>
      let (initial, vowel, final) := letters n
      some (combined (initial + 2) (vowelNumber vowel) (finalNumber final))
    | none =>
      if 0x3131 ≤ c.toNat && c.toNat ≤ 0x3163 then some (loneLetter (c.toNat - 0x3131))
      else (basic.find? c).bind combinedPlace

end Korean

namespace Chinese

/-- The places of characters of private use. -/
def private? (c : Char) : Option (Nat × Nat) :=
  let n := c.toNat
  if n < 0xE000 || 0xE766 ≤ n then none
  else
    let n := n - 0xE000
    if n < 564 then some (0xAA + n / 94, 0xA1 + n % 94)
    else if n < 1222 then some (0xF8 + (n - 564) / 94, 0xA1 + (n - 564) % 94)
    else
      let trail := 0x40 + (n - 1222) % 96
      some (0xA1 + (n - 1222) / 96, if trail < 0x7F then trail else trail + 1)

/-- The lead and the trail byte of a character. -/
def two? (c : Char) : Option (Nat × Nat) :=
  (private? c).or <| (chart.find? c).map fun (row, cell) =>
    (0x81 + row, if cell < 63 then 0x40 + cell else 0x41 + cell)

/-- A character is for private use. -/
def isPrivate (c : Char) : Bool := 0xE000 ≤ c.toNat && c.toNat < 0xF900

def pairBytes (b : Nat × Nat) : List UInt8 := octets [b.1, b.2]

/-- The two bytes of a character in the extended set. -/
def extendedTwo? (c : Char) : Option (Nat × Nat) :=
  if isPrivate c || lateAdditions.toList.contains c then none else two? c

def extended? (c : Char) : Option (List UInt8) :=
  (ascii? c).or <| (extendedTwo? c).map pairBytes

/-- The two bytes of a character in the first edition, which has two symbols in other forms. -/
def firstTwo? (c : Char) : Option (Nat × Nat) :=
  if c = '・' then some (0xA1, 0xA4)
  else if c = '―' then some (0xA1, 0xAA)
  else if laterAdditions.toList.contains c then none
  else (extendedTwo? c).filter fun b => decide (0xA1 ≤ b.1) && decide (0xA1 ≤ b.2)

def first? (c : Char) : Option (List UInt8) := (ascii? c).or <| (firstTwo? c).map pairBytes

/-- A number as four bytes, of which the second and the fourth are digits. -/
def four (n : Nat) : List UInt8 :=
  octets [0x81 + n / 12600, 0x30 + n / 1260 % 10, 0x81 + n / 10 % 126, 0x30 + n % 10]

/-- The number of a character outside of the chart: those of the first plane count in ascending
    order, those of others by their distance. -/
def rank (c : Char) : Nat :=
  let n := c.toNat
  if 0x10000 ≤ n then 189000 + (n - 0x10000)
  else
    let surrogates := if 0xE000 ≤ n then 0x800 else 0
    let privates := if 0xE766 ≤ n then 0x766 else 0
    n - 0x80 - surrogates - privates - Chart.countBefore chart (fun d => d.toNat < 0x10000) c

def complete? (c : Char) : Option (List UInt8) :=
  (ascii? c).or <| some (match two? c with
    | some b => pairBytes b
    | none => four (rank c))

end Chinese

namespace Traditional

/-- The bytes of a place in a chart whose first row has a lead byte. -/
def place (lead : Nat) (p : Nat × Nat) : List UInt8 :=
  octets [lead + p.1, if p.2 < 63 then 0x40 + p.2 else 0x62 + p.2]

def basicPlace? (c : Char) : Option (List UInt8) := (basic.find? c).map (place 0xA1)

def basic? (c : Char) : Option (List UInt8) := (ascii? c).or (basicPlace? c)

def vendor? (c : Char) : Option (List UInt8) :=
  (ascii? c).or <| ((vendor.find? c).map (place 0xA1)).or (basicPlace? c)

def hongKongCode : Code :=
  .paired
    (fun c next => (pairs.find? fun p => p.1 == c && p.2.1 == next).map fun p =>
      octets [p.2.2 / 0x100, p.2.2 % 0x100])
    fun c => (ascii? c).or <| ((hongKong.find? c).map (place 0x87)).or (basicPlace? c)

end Traditional

/-- The code of a character set by its main name. -/
def multibyte? (name : String) : Option Code :=
  match name with
  | "shift_jis" => some (.single Japanese.shiftJis?)
  | "cp932" => some (.single Japanese.vendor?)
  | "euc_jp" => some (.single Japanese.euc?)
  | "euc_jisx0213" => some (Japanese.eucExtended .first)
  | "euc_jis_2004" => some (Japanese.eucExtended .second)
  | "shift_jisx0213" => some (Japanese.shiftJisExtended .first)
  | "shift_jis_2004" => some (Japanese.shiftJisExtended .second)
  | "euc_kr" => some (.single Korean.euc?)
  | "cp949" => some (.single Korean.unified?)
  | "johab" => some (.single Korean.combined?)
  | "gb2312" => some (.single Chinese.first?)
  | "gbk" => some (.single Chinese.extended?)
  | "gb18030" => some (.single Chinese.complete?)
  | "big5" => some (.single Traditional.basic?)
  | "cp950" => some (.single Traditional.vendor?)
  | "big5hkscs" => some Traditional.hongKongCode
  | _ => none

end Stencil.Codec
