/-! Sets of characters given as sorted ranges of code points. The properties that Unicode assigns
    to characters are tables of this shape; membership walks the table and stops at the first
    range that lies beyond the code point, so a small code point is found or refused early. -/

namespace Stencil.Text

/-- Disjoint closed ranges of code points in increasing order. -/
abbrev Ranges := List (Nat × Nat)

/-- Membership of a code point. -/
def Ranges.covers : Ranges → Nat → Bool
  | [], _ => false
  | (lo, hi) :: rest, n => if n < lo then false else if n ≤ hi then true else Ranges.covers rest n

/-- A covered code point lies in one of the ranges. -/
theorem Ranges.exists_of_covers {rs : Ranges} {n : Nat} (h : rs.covers n = true) :
    ∃ r ∈ rs, r.1 ≤ n ∧ n ≤ r.2 := by
  fun_induction Ranges.covers rs n with
  | case1 => simp at h
  | case2 => simp at h
  | case3 lo hi rest n h1 h2 => exact ⟨(lo, hi), by simp, by simpa using h1, h2⟩
  | case4 lo hi rest n h1 h2 ih =>
    obtain ⟨r, hr, hb⟩ := ih h
    exact ⟨r, by simp [hr], hb⟩

end Stencil.Text
