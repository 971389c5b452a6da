import Stencil.Filter.Array
import Mathlib.Data.List.Basic

/-! Slices. An index of a slice counts from the front, or from the end if it is negative, and never
    points before the list; whatever integers are given, a slice is made of the items at the
    positions from the one index up to and without the other. So a list that is cut at an index and
    put together again is the same list. -/

namespace Stencil.Filter

/-! ### Positions -/

/-- Where an index points in a list of a given size. -/
def pointed (size : Nat) (index : Int) : Int := if 0 ≤ index then index else max (size + index) 0

theorem position_eq (index : Int) (size : Nat) : (position index size : Int) = pointed size index := by
  unfold position pointed
  split <;> omega

/-! ### What stands between two positions -/

/-- The items at the positions from `start` up to and without `stop`. -/
def between (start stop : Int) (xs : List Value) : List Value :=
  (xs.zipIdx.filter fun item => start ≤ item.2 ∧ item.2 < stop).map Prod.fst

/-- Items of a list whose positions are counted from `n`. -/
theorem map_filter_zipIdx (start stop : Nat) : ∀ (xs : List Value) (n : Nat),
    ((xs.zipIdx n).filter fun item => (start : Int) ≤ item.2 ∧ (item.2 : Int) < stop).map Prod.fst =
      (xs.drop (start - n)).take (stop - max start n)
  | [], n => by simp
  | x :: xs, n => by
    have ih := map_filter_zipIdx start stop xs (n + 1)
    rw [List.zipIdx_cons, List.filter_cons]
    rcases Nat.lt_or_ge n start with hbefore | hbegun
    · -- the item stands before the first that is wanted
      have hn : start - n = start - (n + 1) + 1 := by omega
      have hmax : max start (n + 1) = max start n := by omega
      rw [if_neg (by simp; omega), ih, hn, List.drop_succ_cons, hmax]
    · have hn : start - n = 0 := by omega
      have hn' : start - (n + 1) = 0 := by omega
      rw [hn, List.drop_zero]
      rw [hn', List.drop_zero] at ih
      rcases Nat.lt_or_ge n stop with hinside | hbeyond
      · have hstop : stop - max start n = stop - max start (n + 1) + 1 := by omega
        rw [if_pos (by simp; omega), List.map_cons, ih, hstop, List.take_succ_cons]
      · have hstop : stop - max start n = 0 := by omega
        have hstop' : stop - max start (n + 1) = 0 := by omega
        rw [if_neg (by simp; omega), ih, hstop, hstop', List.take_zero, List.take_zero]

/-- A run from one position up to another is what stands between them. -/
theorem run_eq_between (xs : List Value) (start stop : Nat) :
    run xs start stop = between start stop xs := by
  rw [run, between, map_filter_zipIdx start stop xs 0, Nat.sub_zero, Nat.max_zero]

/-- No item stands beyond the end. -/
theorem between_min (start stop : Int) (xs : List Value) :
    between start (min stop xs.length) xs = between start stop xs := by
  unfold between
  congr 1
  refine List.filter_congr ?_
  rintro ⟨x, i⟩ hmem
  have hi : i < xs.length := by simpa using (List.mem_zipIdx hmem).2.1
  rw [decide_eq_decide]
  omega

theorem run_isInfix (xs : List Value) (start stop : Nat) : run xs start stop <:+: xs :=
  (List.take_prefix _ _).isInfix.trans (List.drop_suffix _ _).isInfix

/-- What stands before a position and what stands from there on are together the list. -/
theorem run_append_run (xs : List Value) (n : Nat) : run xs 0 n ++ run xs n xs.length = xs := by
  have hback : run xs n xs.length = xs.drop n := by
    rw [run, ← List.length_drop, List.take_length]
  rw [hback, run, List.drop_zero, Nat.sub_zero, List.take_append_drop]

/-! ### The filter -/

theorem slice_eq (xs : List Value) (start stop : Int) :
    slice (.list xs) (.int start) (.int stop) =
      .ok (.list (run xs (position start xs.length) (position stop xs.length))) := rfl

theorem slice_null (xs : List Value) (start : Int) :
    slice (.list xs) (.int start) .null =
      .ok (.list (run xs (position start xs.length) xs.length)) := rfl

/-- A slice is the contiguous run of the items between the two positions that its indices point
    to, of which the second is the end unless it is given and smaller. Cutting a list at any index
    and appending the two slices gives the list. -/
theorem slice_contiguous (xs : List Value) (start stop : Int) :
    slice (.list xs) (.int start) (.int stop) =
        .ok (.list (between (pointed xs.length start) (min (pointed xs.length stop) xs.length) xs)) ∧
    slice (.list xs) (.int start) .null =
        .ok (.list (between (pointed xs.length start) xs.length xs)) ∧
    between (pointed xs.length start) (min (pointed xs.length stop) xs.length) xs <:+: xs ∧
    ∃ front back, slice (.list xs) (.int 0) (.int stop) = .ok (.list front) ∧
      slice (.list xs) (.int stop) .null = .ok (.list back) ∧
      concat (.list front) [.list back] [] = .ok (.list xs) := by
  have hrun : between (pointed xs.length start) (min (pointed xs.length stop) xs.length) xs =
      run xs (position start xs.length) (position stop xs.length) := by
    rw [between_min, ← position_eq, ← position_eq, run_eq_between]
  refine ⟨?_, ?_, ?_, ?_⟩
  · rw [slice_eq, hrun]
  · rw [slice_null, run_eq_between, position_eq]
  · rw [hrun]
    exact run_isInfix xs _ _
  · refine ⟨_, _, slice_eq xs 0 stop, slice_null xs stop, ?_⟩
    have hconcat (front back : List Value) :
        concat (.list front) [.list back] [] = .ok (.list (front ++ back)) := rfl
    have hfront : position 0 xs.length = 0 := rfl
    rw [hconcat, hfront, run_append_run]

end Stencil.Filter
