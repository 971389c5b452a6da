import Stencil.Text.Case

/-! Case in patterns. Where case is ignored, a character counts as its small letter, in every script or
    among the ASCII letters alone. A few small letters count as variants of each other although no
    capital has both as its small letter by itself; they are listed in classes. -/

namespace Stencil

namespace Text

/-- A code point of a run lies between two bounds. -/
def CaseRun.meets (r : CaseRun) (lo hi : Nat) : Bool :=
  let start := r.first + (lo - r.first + r.stride - 1) / r.stride * r.stride
  decide (start ≤ min r.last hi)

/-- The code points other than `n` that runs take to `n`. -/
def CaseRun.sources (runs : List CaseRun) (n : Nat) : List Nat :=
  runs.filterMap fun r =>
    let m := ((n : Int) - r.shift).toNat
    if r.meets m m then some m else none

end Text

namespace Pattern

open Text

/-- How characters are compared: as they are, or by their small letters. -/
inductive Fold where
  | exact | ascii | unicode
  deriving DecidableEq, Repr

/-- Small letters that count as variants of each other. -/
def variantClasses : List (List Nat) :=
  [[0x69, 0x131], [0x73, 0x17F], [0xB5, 0x3BC], [0x345, 0x3B9, 0x1FBE], [0x390, 0x1FD3],
   [0x3B0, 0x1FE3], [0x3B2, 0x3D0], [0x3B5, 0x3F5], [0x3B8, 0x3D1], [0x3BA, 0x3F0], [0x3C0, 0x3D6],
   [0x3C1, 0x3F1], [0x3C2, 0x3C3], [0x3C6, 0x3D5], [0x432, 0x1C80], [0x434, 0x1C81],
   [0x43E, 0x1C82], [0x441, 0x1C83], [0x442, 0x1C84, 0x1C85], [0x44A, 0x1C86], [0x463, 0x1C87],
   [0x1C88, 0xA64B], [0x1E61, 0x1E9B], [0xFB05, 0xFB06]]

namespace Fold

/-- The small letter that a code point counts as. -/
def lower : Fold → Nat → Nat
  | .exact, n => n
  | .ascii, n => if 65 ≤ n ∧ n ≤ 90 then n + 32 else n
  | .unicode, n => CaseRun.apply lowerRuns n

/-- The small letters that a small letter counts as. -/
def variants : Fold → Nat → List Nat
  | .unicode, n => (variantClasses.find? (·.contains n)).getD [n]
  | _, n => [n]

/-- The code points that count as a small letter. -/
def sources : Fold → Nat → List Nat
  | .exact, n => [n]
  | .ascii, n => if 97 ≤ n ∧ n ≤ 122 then [n, n - 32] else [n]
  | .unicode, n => n :: CaseRun.sources lowerRuns n

/-- The first character of the upper case form of a code point. -/
def upper (n : Nat) : Nat :=
  match upperSequences.lookup n with
  | some (m :: _) => m
  | _ => CaseRun.apply upperRuns n

/-- A letter with a variant that differs in case lies between two bounds. -/
def anyCased : Fold → Nat → Nat → Bool
  | .exact, _, _ => false
  | .ascii, lo, hi => (decide (lo ≤ 90) && decide (65 ≤ hi)) || (decide (lo ≤ 122) && decide (97 ≤ hi))
  | .unicode, lo, hi =>
    lowerRuns.any (·.meets lo hi) || upperRuns.any (·.meets lo hi) ||
      upperSequences.any fun e => decide (lo ≤ e.1) && decide (e.1 ≤ hi)

/-- A letter with a variant that differs in case. -/
def isCased (f : Fold) (n : Nat) : Bool := f.anyCased n n

/-- A small letter is one of its own variants. -/
theorem mem_variants (f : Fold) (n : Nat) : n ∈ f.variants n := by
  cases f with
  | unicode =>
    simp only [variants]
    cases h : variantClasses.find? (·.contains n) with
    | none => simp
    | some c => simpa using List.find?_some h
  | _ => simp [variants]

end Fold

end Pattern

end Stencil
