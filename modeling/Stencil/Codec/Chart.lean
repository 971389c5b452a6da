/-! Charts of characters. A chart is a list of rows; a replacement character in a row marks a place that
    stands for nothing. The place of a character is its row and its cell, both counted from 0. -/

namespace Stencil.Codec

/-- The rows of a chart. -/
abbrev Chart := List String

namespace Chart

/-- The mark of a place that stands for nothing. -/
def blank : Char := '�'

/-- The first place of a character in rows of which the first one has a number. -/
def findFrom (c : Char) (row : Nat) : List String → Option (Nat × Nat)
  | [] => none
  | s :: rest =>
    match s.toList.findIdx? (· == c) with
    | some cell => some (row, cell)
    | none => findFrom c (row + 1) rest

/-- The place of a character. -/
def find? (chart : Chart) (c : Char) : Option (Nat × Nat) :=
  if c = blank then none else findFrom c 0 chart

/-- The number of characters in a chart that come before another one and have a property. -/
def countBefore (chart : Chart) (p : Char → Bool) (c : Char) : Nat :=
  (chart.flatMap String.toList).countP fun d => p d && d != blank && decide (d.toNat < c.toNat)

/-- Where a character is found, it stands. -/
theorem findFrom_some {c : Char} {rows : List String} {start row cell : Nat}
    (h : findFrom c start rows = some (row, cell)) :
    ∃ s ∈ rows, s.toList[cell]? = some c := by
  induction rows generalizing start with
  | nil => simp [findFrom] at h
  | cons s rest ih =>
    unfold findFrom at h
    split at h
    · rename_i i hi
      cases h
      refine ⟨s, by simp, ?_⟩
      obtain ⟨hlt, hc, -⟩ := List.findIdx?_eq_some_iff_getElem.1 hi
      simp only [List.getElem?_eq_getElem hlt]
      simpa using hc
    · obtain ⟨t, ht, hc⟩ := ih h
      exact ⟨t, List.mem_cons_of_mem s ht, hc⟩

end Chart

/-- The bytes of numbers. -/
def octets (ns : List Nat) : List UInt8 := ns.map UInt8.ofNat

end Stencil.Codec
