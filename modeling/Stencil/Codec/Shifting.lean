import Stencil.Codec.Multibyte

/-! Codecs that shift between character sets. A text begins and ends in ASCII; before a character of
    another set comes a sequence that selects the set. A second set is selected once and then
    reached by a shift out, and left by a shift in. -/

namespace Stencil.Codec

/-- A character set with the sequence that selects it. -/
structure Selected where
  sequence : List UInt8
  isSecond : Bool := false
  code : Code

/-- A codec that shifts: how ASCII is selected and written, and the other sets, earlier ones first. -/
structure Shifting where
  toAscii : List UInt8
  ascii : Char → List UInt8 := fun c => octets [c.toNat]
  sets : List Selected

namespace Shifting

/-- The sequences that are in force, and whether the second set is shifted in. -/
structure State where
  first : List UInt8
  second : List UInt8 := []
  out : Bool := false

/-- The state at the start of a text. -/
def start (m : Shifting) : State := { first := m.toAscii }

/-- What leaves the second set. -/
def shiftIn (s : State) : List UInt8 := if s.out then octets [0x0F] else []

/-- What selects a sequence for the first set, and the state after it. -/
def select (s : State) (sequence : List UInt8) : List UInt8 × State :=
  ((if s.first = sequence then [] else sequence) ++ shiftIn s,
    { s with first := sequence, out := false })

/-- What selects a set, and the state after it. -/
def enter (s : State) (set : Selected) : List UInt8 × State :=
  if set.isSecond then
    ((if s.second = set.sequence then [] else set.sequence)
        ++ (if s.out then [] else octets [0x0E]),
      { s with second := set.sequence, out := true })
  else
    (shiftIn s ++ (if s.first = set.sequence then [] else set.sequence),
      { s with first := set.sequence, out := false })

/-- The bytes of a character in the first set that has it, and whether they stand for two. -/
def find? (c : Char) (next : Option Char) : List Selected → Option (Selected × List UInt8 × Bool)
  | [] => none
  | set :: rest =>
    match set.code c next with
    | some (data, both) => some (set, data, both)
    | none => find? c next rest

/-- The bytes of a character, whether they stand for two, and the state after it. -/
def step (m : Shifting) (s : State) (c : Char) (next : Option Char) :
    Option (List UInt8 × Bool × State) :=
  if c.toNat < 0x80 then
    let (sequence, t) := select s m.toAscii
    some (sequence ++ m.ascii c, false, t)
  else
    (find? c next m.sets).map fun (set, data, both) =>
      let (sequence, t) := enter s set
      (sequence ++ data, both, t)

/-- What leads back to ASCII at the end of a text. -/
def finish (m : Shifting) (s : State) : List UInt8 :=
  shiftIn s ++ if s.first = m.toAscii then [] else m.toAscii

end Shifting

/-- An escape sequence. -/
def escape (s : String) : List UInt8 := octets (0x1B :: s.toList.map Char.toNat)

namespace Shifting

/-- Two bytes without their upper bits. -/
def stripped (f : Char → Option (List UInt8)) : Code :=
  .single fun c => if c.toNat < 0x80 then none else (f c).map fun data => data.map (· &&& 0x7F)

def chart (sequence : String) (find? : Char → Option (Nat × Nat)) : Selected :=
  { sequence := escape sequence, code := .single fun c => (find? c).map lower }

def basic : Selected := chart "$B" Japanese.basic.find?

def roman : Selected := { sequence := escape "(J", code := .single Japanese.roman? }

def supplement : Selected := chart "$(D" Japanese.supplement.find?

/-- A katakana of half the width without its upper bit. -/
def katakana : Selected :=
  { sequence := escape "(I"
    code := .single fun c => (Japanese.katakana? c).map fun b => octets [b - 0x80] }

def korean : Selected := chart "$(C" Korean.basic.find?

/-- The first edition of the set of mainland China. -/
def chinese (sequence : List UInt8) : Selected :=
  { sequence
    code := .single fun c => (Chinese.firstTwo? c).map fun b => octets [b.1 - 0x80, b.2 - 0x80] }

/-- Only what the first plane of the extended set has as one for two characters. -/
def extendedPairs (sequence : String) : Selected :=
  { sequence := escape sequence
    code := .paired (fun c next => (Japanese.pair? c next).map lower) fun _ => none }

def extended (e : Japanese.Edition) : List Selected :=
  let sequence := if e = .first then "$(O" else "$(Q"
  [extendedPairs sequence, basic, chart sequence (Japanese.firstPlane? e),
   chart "$(P" (Japanese.secondPlane? e)]

/-- A codec with escape sequences. -/
def escaping (sets : List Selected) : Shifting := { toAscii := escape "(B", sets }

/-- The codec of a main name. -/
def ofName? (name : String) : Option Shifting :=
  match name with
  | "iso2022_jp" => some (escaping [basic, roman])
  | "iso2022_jp_1" => some (escaping [basic, supplement, roman])
  | "iso2022_jp_2" =>
    some (escaping [basic, supplement, korean, chinese (escape "$(A"), roman])
  | "iso2022_jp_3" => some (escaping (extended .first))
  | "iso2022_jp_2004" => some (escaping (extended .second))
  | "iso2022_jp_ext" => some (escaping [basic, supplement, roman, katakana])
  | "iso2022_kr" => some (escaping
      [{ sequence := escape "$)C"
         isSecond := true
         code := .single fun c => (Korean.basic.find? c).map lower }])
  | "hz" => some
    { toAscii := octets [0x7E, 0x7D]
      ascii := fun c => octets (if c = '~' then [0x7E, 0x7E] else [c.toNat])
      sets := [chinese (octets [0x7E, 0x7B])] }
  | _ => none

end Shifting

end Stencil.Codec
