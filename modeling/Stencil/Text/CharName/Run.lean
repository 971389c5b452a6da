/-! Names of characters in runs. A run gives the names of consecutive code points; each name is
    written as a small letter that says how many characters it shares with the name before it, `a` for
    none, and the characters that follow. A name is found by walking the runs with the length of the
    beginning that the latest name shares with it, so no name is ever put together. -/

namespace Stencil.Text

/-- The names of the code points from the first one on, in rows. -/
structure NameRun where
  first : Nat
  rows : List String

/-- What a name shares with the name before it, and how it goes on. -/
structure SharedName where
  shared : Nat
  rest : List Char

/-- The written names in a row, the last one first. -/
def sharedNames (row : List Char) (known : List SharedName) : List SharedName :=
  row.foldl
    (fun known c =>
      match known with
      | [] => [⟨c.toNat - 'a'.toNat, []⟩]
      | n :: before =>
        if c.isLower then ⟨c.toNat - 'a'.toNat, []⟩ :: n :: before
        else { n with rest := c :: n.rest } :: before)
    known

/-- The names of a run in order. -/
def NameRun.names (r : NameRun) : List SharedName :=
  (r.rows.foldl (fun known row => sharedNames row.toList known) []).reverse.map fun n =>
    { n with rest := n.rest.reverse }

/-- The length of the longest common beginning. -/
def commonLength : List Char → List Char → Nat
  | c :: cs, d :: ds => if c = d then commonLength cs ds + 1 else 0
  | _, _ => 0

/-- The place of a name among written names, of which the name before them shares a beginning of the
    given length with it. -/
def findShared (name : List Char) : Nat → List SharedName → Option Nat
  | _, [] => none
  | agreed, n :: ns =>
    if agreed < n.shared then (findShared name agreed ns).map (· + 1)
    else
      let agreed := n.shared + commonLength n.rest (name.drop n.shared)
      if agreed = name.length ∧ agreed = n.shared + n.rest.length then some 0
      else (findShared name agreed ns).map (· + 1)

/-- The code point of a name in runs. -/
def findName (name : List Char) : List NameRun → Option Nat
  | [] => none
  | r :: rest =>
    match findShared name 0 r.names with
    | some i => some (r.first + i)
    | none => findName name rest

/-- A common beginning is no longer than either text. -/
theorem commonLength_le (cs ds : List Char) :
    commonLength cs ds ≤ cs.length ∧ commonLength cs ds ≤ ds.length := by
  fun_induction commonLength cs ds with
  | case1 => simp; omega
  | case2 => simp
  | case3 => simp

end Stencil.Text
