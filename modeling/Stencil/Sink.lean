import Stencil.Error

/-! Where the output of a render goes. Output comes in chunks; a sink says how a chunk is taken, which
    may depend on what it holds already, or refuses it. What a sink has taken stays taken. -/

namespace Stencil

/-- A piece of output as a sink holds it. -/
inductive Chunk where
  | text (s : String)
  | bytes (data : List UInt8)
  deriving DecidableEq, Repr

namespace Chunk

/-- The text of a chunk that was not encoded. -/
def plain : Chunk → String
  | .text s => s
  | .bytes _ => ""

end Chunk

/-- How a sink that holds some chunks, the latest first, takes a text. -/
abbrev Sink := List Chunk → String → Except Problem Chunk

namespace Sink

/-- A sink that takes every text as it is. -/
def buffer : Sink := fun _ s => .ok (.text s)

/-- The text that a buffer holds. -/
def contents (chunks : List Chunk) : String := String.join (chunks.reverse.map Chunk.plain)

end Sink

end Stencil
