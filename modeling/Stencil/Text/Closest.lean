/-! The closest match of a word among candidates. Two words are as similar as twice the length of
    their matching blocks is to the sum of their lengths; the blocks are the longest common run, the
    leftmost one of several, and recursively those on either side of it. -/

namespace Stencil.Text

/-- A common run of two words: where it begins in each and its length. -/
structure Run where
  first : Nat
  second : Nat
  length : Nat
  deriving DecidableEq, Repr

/-- Characters that are ignored in a long word because they are frequent in it. -/
def isPopular (b : List Char) (c : Char) : Bool :=
  decide (200 ≤ b.length) && decide (b.length / 100 + 1 < b.count c)

/-- The lengths of the common runs that end at a character of the first word and at each character
    of the second; `diagonal` is the length that ends just before in both. -/
def extendRuns (keep : Char → Bool) (c : Char) (diagonal : Nat) : List Nat → List Char → List Nat
  | above :: rest, d :: ds =>
    (if c = d && keep d then diagonal + 1 else 0) :: extendRuns keep c above rest ds
  | _, _ => []

/-- The better of a run so far and the runs that end in one row. -/
def bestInRow (i : Nat) (best : Run) (j : Nat) : List Nat → Run
  | [] => best
  | k :: rest =>
    -- only a longer run is better, so the leftmost of the longest stays
    bestInRow i (if best.length < k then ⟨i + 1 - k, j + 1 - k, k⟩ else best) (j + 1) rest

/-- The longest common run, row by row. -/
def longestRun (keep : Char → Bool) (b : List Char) (i : Nat) (row : List Nat) (best : Run) :
    List Char → Run
  | [] => best
  | c :: rest =>
    let next := extendRuns keep c 0 row b
    longestRun keep b (i + 1) next (bestInRow i best 0 next) rest

/-- Lengthens a run by equal characters in front, which may be frequent ones. -/
def growLeft (a b : List Char) : Nat → Run → Run
  | 0, r => r
  | fuel + 1, r =>
    match r.first, r.second with
    | i + 1, j + 1 =>
      if a[i]? = b[j]? then growLeft a b fuel ⟨i, j, r.length + 1⟩ else r
    | _, _ => r

/-- Lengthens a run by equal characters behind it. -/
def growRight (a b : List Char) : Nat → Run → Run
  | 0, r => r
  | fuel + 1, r =>
    match a[r.first + r.length]?, b[r.second + r.length]? with
    | some c, some d => if c = d then growRight a b fuel { r with length := r.length + 1 } else r
    | _, _ => r

/-- The total length of the matching blocks of two words. -/
def matchingLength (keep : Char → Bool) : Nat → List Char → List Char → Nat
  | 0, _, _ => 0
  | fuel + 1, a, b =>
    let start := longestRun keep b 0 (b.map fun _ => 0) ⟨0, 0, 0⟩ a
    -- frequent characters begin no run, but may belong to one
    let r := growRight a b a.length (growLeft a b a.length start)
    if r.length = 0 then 0
    else
      r.length + matchingLength keep fuel (a.take r.first) (b.take r.second)
        + matchingLength keep fuel (a.drop (r.first + r.length)) (b.drop (r.second + r.length))

/-- The similarity of a candidate to a word as a quotient; two empty words are alike. -/
def similarity (word candidate : String) : Nat × Nat :=
  let a := candidate.toList
  let b := word.toList
  if a.isEmpty && b.isEmpty then (1, 1)
  else (2 * matchingLength (fun c => !isPopular b c) (a.length + 1) a b, a.length + b.length)

/-- The first quotient with its candidate is larger, by the texts if the quotients are equal. -/
def beats (p q : (Nat × Nat) × String) : Bool :=
  let left := p.1.1 * q.1.2
  let right := q.1.1 * p.1.2
  decide (right < left) || (left == right && decide (q.2 < p.2))

/-- The candidate most similar to a word, if any has a similarity of at least 0.6. -/
def closest (word : String) (candidates : List String) : Option String :=
  let scored := candidates.map fun c => (similarity word c, c)
  let near := scored.filter fun p => decide (3 * p.1.2 ≤ 5 * p.1.1)
  let step (best : Option ((Nat × Nat) × String)) (p : (Nat × Nat) × String) :=
    match best with
    | none => some p
    | some q => if beats p q then some p else some q
  (near.foldl step none).map Prod.snd

end Stencil.Text
