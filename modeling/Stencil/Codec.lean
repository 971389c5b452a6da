import Stencil.Codec.Domain
import Stencil.Codec.Names
import Stencil.Codec.Shifting
import Stencil.Fault
import Stencil.Sink
import Stencil.Text.Percent

/-! Encodings of text as bytes. A codec is found by any of its names. A text is encoded whole or not at
    all: a codec refuses it with the first characters that it cannot represent. A mark of the byte
    order, where a codec has one, stands in front of every text. -/

namespace Stencil

/-- The order of the bytes of a unit. -/
inductive ByteOrder where
  | little | big
  deriving DecidableEq, Repr

/-- An encoding. `latin` takes the characters below a limit for the bytes themselves; a codec that is
    not for text can be found but encodes nothing, and one that is undefined refuses every text. -/
inductive Codec where
  | utf7
  | utf8 (mark : Bool)
  | utf16 (order : ByteOrder) (mark : Bool)
  | utf32 (order : ByteOrder) (mark : Bool)
  | latin (limit : Nat)
  | page (p : Codec.Page)
  | multibyte (code : Codec.Code)
  | shifting (m : Codec.Shifting)
  | escapes (isRaw : Bool)
  | punycode
  | domain
  | undefined
  | notText

namespace Codec

/-- Why a codec refuses a text. -/
inductive Refusal where
  | lost (characters : List Char) (reason : String)
  | failure (f : Failure)

/-- The codec of a main name. -/
def ofMainName? (name : String) : Option Codec :=
  match name with
  | "utf_7" => some .utf7
  | "utf_8" => some (.utf8 false)
  | "utf_8_sig" => some (.utf8 true)
  | "utf_16" => some (.utf16 .little true)
  | "utf_16_le" => some (.utf16 .little false)
  | "utf_16_be" => some (.utf16 .big false)
  | "utf_32" => some (.utf32 .little true)
  | "utf_32_le" => some (.utf32 .little false)
  | "utf_32_be" => some (.utf32 .big false)
  | "ascii" => some (.latin 128)
  | "latin_1" | "iso8859_1" | "charmap" => some (.latin 256)
  | "unicode_escape" => some (.escapes false)
  | "raw_unicode_escape" => some (.escapes true)
  | "punycode" => some .punycode
  | "idna" => some .domain
  | "undefined" => some .undefined
  | "base64_codec" | "bz2_codec" | "hex_codec" | "quopri_codec" | "rot_13" | "uu_codec"
  | "zlib_codec" => some .notText
  | name =>
    ((Page.all.find? fun p => p.name == name).map .page).or <|
      ((multibyte? name).map .multibyte).or <| (Shifting.ofName? name).map .shifting

/-- The codec of a name. A name that has a null character in it is no name. -/
def ofName? (name : String) : Except Failure (Option Codec) :=
  if name.toList.contains '\x00' then .error .badValue
  else .ok ((mainName? name).bind ofMainName?)

/-- The bytes of a number. -/
def bytesOf (order : ByteOrder) (size n : Nat) : List UInt8 :=
  let little := (List.range size).map fun i => UInt8.ofNat (n / Nat.pow 256 i % 256)
  match order with
  | .little => little
  | .big => little.reverse

/-- The bytes of a text whose characters all have bytes of their own. The first run of those that
    have none is lost. -/
def encodeEach (f : Char → Option (List UInt8)) (reason : String) (cs : List Char) :
    Except Refusal (List UInt8) :=
  match cs.dropWhile fun c => (f c).isSome with
  | [] => .ok (cs.flatMap fun c => (f c).getD [])
  | rest => .error (.lost (rest.takeWhile fun c => (f c).isNone) reason)

/-- Why a character set of several bytes lacks a character. -/
def illegal (c : Char) : Refusal := .lost [c] "illegal multibyte sequence"

/-- The bytes of a text in a character set of several bytes, after those that are done, the latest
    first. A character after one that stands for both is skipped. -/
def encodeCode (code : Code) (skip : Bool) (done : List (List UInt8)) :
    List Char → Except Refusal (List UInt8)
  | [] => .ok done.reverse.flatten
  | c :: rest =>
    if skip then encodeCode code false done rest
    else
      match code c rest.head? with
      | some (data, both) => encodeCode code both (data :: done) rest
      | none => .error (illegal c)

/-- The bytes of a text in a codec that shifts, after those that are done, the latest first. -/
def encodeShifting (m : Shifting) (s : Shifting.State) (skip : Bool) (done : List (List UInt8)) :
    List Char → Except Refusal (List UInt8)
  | [] => .ok (m.finish s :: done).reverse.flatten
  | c :: rest =>
    if skip then encodeShifting m s false done rest
    else
      match m.step s c rest.head? with
      | some (data, both, t) => encodeShifting m t both (data :: done) rest
      | none => .error (illegal c)

/-- The bytes of a text after a mark, if there is one. -/
def marked (mark : Bool) (f : Char → List UInt8) (cs : List Char) : List UInt8 :=
  (if mark then f '\ufeff' else []) ++ cs.flatMap f

/-- The bytes of a text. -/
def bytes (codec : Codec) (cs : List Char) : Except Refusal (List UInt8) :=
  match codec with
  | .utf7 => .ok (octets (Utf7.encode none cs))
  | .utf8 mark => .ok (marked mark Text.utf8 cs)
  | .utf16 order mark => .ok (marked mark (fun c => (units16 c).flatMap (bytesOf order 2)) cs)
  | .utf32 order mark => .ok (marked mark (fun c => bytesOf order 4 c.toNat) cs)
  | .latin limit =>
    encodeEach (fun c => if c.toNat < limit then some (octets [c.toNat]) else none)
      s!"ordinal not in range({limit})" cs
  | .page p => encodeEach p.code? "character maps to <undefined>" cs
  | .multibyte code => encodeCode code false [] cs
  | .shifting m => encodeShifting m m.start false [] cs
  | .escapes isRaw => .ok (cs.flatMap (if isRaw then rawEscape else fullEscape))
  | .punycode => .ok (octets (Punycode.encode cs))
  | .domain =>
    match Domain.encode? cs with
    | some data => .ok (octets data)
    | none => .error (.failure .badText)
  | .undefined => .error (.failure .badText)
  | .notText => .error (.failure .badLookup)

/-- The error of a text that a codec cannot represent. -/
def lost (encoding : String) (characters : List Char) (reason : String) : RuntimeError :=
  { kind := .outputEncoding
    message := s!"Output could not be encoded as {encoding}: {reason}"
    values := [("text", .text (String.ofList characters))] }

/-- The bytes of a text under the name of an encoding. -/
def encode (encoding : String) (codec : Codec) (s : String) : Except Problem (List UInt8) :=
  match codec.bytes s.toList with
  | .ok data => .ok data
  | .error (.lost characters reason) => .error (.ofRuntime (lost encoding characters reason))
  | .error (.failure f) => .error (.fault (.failure f))

/-- The error that no codec has a name. -/
def unknown (encoding template : String) : RuntimeError :=
  { kind := .outputEncoding
    message := s!"Unknown output encoding '{encoding}'"
    template := some template }

end Codec

namespace Sink

/-- A sink that takes the bytes of each text, which another sink may refuse. -/
def encoded (encoding : String) (codec : Codec) (refuses : List Chunk → Option Fault) : Sink :=
  fun held s => do
    let data ← codec.encode encoding s
    match refuses held with
    | some f => .error (.fault f)
    | none => return .bytes data

/-- A sink that takes each text as it is unless it refuses. -/
def guarded (refuses : List Chunk → Option Fault) : Sink :=
  fun held s =>
    match refuses held with
    | some f => .error (.fault f)
    | none => .ok (.text s)

end Sink

end Stencil
