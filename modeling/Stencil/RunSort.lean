/-! Sorting by runs. A list is cut into runs that ascend or strictly descend; a descending run is
    turned round, a short one is lengthened by insertion, and neighbouring runs are merged in an
    order that their places in the list decide. Where a comparison is a weak order this is a stable
    sort. Where it is not, as among numbers of which some are no numbers, the result tells which
    comparisons were made, and so which ones are made, and when, is a part of the rule: a merge looks
    at one element after the other until one side has won often enough, and then gallops, that is
    searches in doubling strides, as long as that pays. -/

namespace Stencil.RunSort

variable {α : Type}

/-! ### Searching -/

/-- The last of the strides 1, 3, 7, … at which a test holds, 0 if there is none, and the next one.
    None is longer than the bound. -/
def stride (holds : Nat → Bool) (bound : Nat) (last next : Nat) : Nat × Nat :=
  if _h : next < bound then
    if holds next then stride holds bound next (2 * next + 1) else (last, next)
  else (last, bound)
termination_by bound - next

/-- The place between `lo` and `hi` where a test ceases to hold, found by halving. -/
def bisect (holds : Nat → Bool) (lo hi : Nat) : Nat :=
  if _h : lo < hi then
    if holds (lo + (hi - lo) / 2) then bisect holds (lo + (hi - lo) / 2 + 1) hi
    else bisect holds lo (lo + (hi - lo) / 2)
  else lo
termination_by hi - lo

/-- The place below a size where a test ceases to hold, searched in strides from a hint on. -/
def gallop (holds : Nat → Bool) (size hint : Nat) : Nat :=
  if holds hint then
    let (last, next) := stride (fun k => holds (hint + k)) (size - hint) 0 1
    bisect holds (hint + last + 1) (hint + next)
  else
    let (last, next) := stride (fun k => !holds (hint - k)) (hint + 1) 0 1
    bisect holds (hint + 1 - next) (hint - last)

/-- An element of an array comes before another one; there is none outside of an array. -/
def before (lt : α → α → Bool) (x y : Option α) : Bool :=
  match x, y with
  | some x, some y => lt x y
  | _, _ => false

/-! ### Runs -/

/-- The length of the strictly descending run after an element. -/
def descent (lt : α → α → Bool) (x : α) : List α → Nat
  | [] => 0
  | y :: rest => if lt y x then descent lt y rest + 1 else 0

/-- The length of the ascending run after an element. -/
def ascent (lt : α → α → Bool) (x : α) : List α → Nat
  | [] => 0
  | y :: rest => if lt y x then 0 else ascent lt y rest + 1

/-- The run in front, in ascending order. -/
def firstRun (lt : α → α → Bool) : List α → List α
  | [] => []
  | x :: rest =>
    match descent lt x rest with
    | 0 => x :: rest.take (ascent lt x rest)
    | n => (x :: rest.take n).reverse

/-- A run with an element inserted after all that do not come after it. -/
def insert (lt : α → α → Bool) (run : Array α) (x : α) : Array α :=
  let i := bisect (fun i => !before lt (some x) run[i]?) 0 run.size
  run.take i ++ #[x] ++ run.drop i

/-- A run with its place in the list and the power of the border after it. -/
structure Run (α : Type) where
  start : Nat
  items : Array α
  power : Nat := 0

/-- The least length of a run in a list of `n` elements, where `odd` tells that a bit was lost. -/
def leastRun (odd : Nat) (n : Nat) : Nat :=
  if n < 64 then n + odd else leastRun (if n % 2 = 1 then 1 else odd) (n / 2)

/-! ### Merging -/

/-- How a merge goes on: it compares elements, knowing how often each side has just won, or gallops. -/
inductive Pace where
  | compare (left right : Nat)
  | gallop

/-- The wins in a row that let a merge gallop at first, and the length of a gallop that pays. -/
def patience : Nat := 7

/-- Merges what is left of two runs from the front. Elements `i` of the first and `j` of the second run
    are next; the last element of the first run is known to come last. Also tells the wins that
    let the next merge gallop. -/
def front (lt : α → α → Bool) (a b : Array α) :
    Nat → Pace → Nat → Nat → Nat → Array α → Nat × Array α
  | 0, _, limit, _, _, out => (limit, out)
  | fuel + 1, .compare m n, limit, i, j, out =>
    if before lt b[j]? a[i]? then
      let out := out ++ b[j]?.toList
      if b.size ≤ j + 1 then (limit, out ++ a.drop i)
      -- the second run has won often enough to gallop
      else if limit ≤ n + 1 then front lt a b fuel .gallop (limit + 1) i (j + 1) out
      else front lt a b fuel (.compare 0 (n + 1)) limit i (j + 1) out
    else
      let out := out ++ a[i]?.toList
      -- one element of the first run is left, and it comes last
      if a.size ≤ i + 2 then (limit, out ++ b.drop j ++ a.drop (i + 1))
      else if limit ≤ m + 1 then front lt a b fuel .gallop (limit + 1) (i + 1) j out
      else front lt a b fuel (.compare (m + 1) 0) limit (i + 1) j out
  | fuel + 1, .gallop, limit, i, j, out =>
    -- each gallop that follows another makes galloping easier
    let limit := max (limit - 1) 1
    let won := gallop (fun k => !before lt b[j]? a[i + k]?) (a.size - i) 0
    let out := out ++ a.extract i (i + won)
    let i := i + won
    if won ≠ 0 ∧ i + 1 = a.size then (limit, out ++ b.drop j ++ a.drop i)
    else if a.size ≤ i then (limit, out ++ b.drop j)
    else
      let out := out ++ b[j]?.toList
      let j := j + 1
      if b.size ≤ j then (limit, out ++ a.drop i)
      else
        let lost := gallop (fun k => before lt b[j + k]? a[i]?) (b.size - j) 0
        let out := out ++ b.extract j (j + lost)
        let j := j + lost
        if b.size ≤ j then (limit, out ++ a.drop i)
        else
          let out := out ++ a[i]?.toList
          let i := i + 1
          if a.size ≤ i + 1 then (limit, out ++ b.drop j ++ a.drop i)
          else if patience ≤ won ∨ patience ≤ lost then front lt a b fuel .gallop limit i j out
          -- the gallop did not pay, which makes the next one harder
          else front lt a b fuel (.compare 0 0) (limit + 1) i j out

/-- Merges what is left of two runs from the back. The first `m` elements of the first and the first
    `n` of the second run are left; the first element of the second run is known to come first. -/
def back (lt : α → α → Bool) (a b : Array α) :
    Nat → Pace → Nat → Nat → Nat → List α → Nat × List α
  | 0, _, limit, _, _, out => (limit, out)
  | fuel + 1, .compare k l, limit, m, n, out =>
    if before lt b[n - 1]? a[m - 1]? then
      let out := a[m - 1]?.toList ++ out
      if m ≤ 1 then (limit, (b.take n).toList ++ out)
      else if limit ≤ k + 1 then back lt a b fuel .gallop (limit + 1) (m - 1) n out
      else back lt a b fuel (.compare (k + 1) 0) limit (m - 1) n out
    else
      let out := b[n - 1]?.toList ++ out
      -- one element of the second run is left, and it comes first
      if n ≤ 2 then (limit, (b.take (n - 1)).toList ++ (a.take m).toList ++ out)
      else if limit ≤ l + 1 then back lt a b fuel .gallop (limit + 1) m (n - 1) out
      else back lt a b fuel (.compare 0 (l + 1)) limit m (n - 1) out
  | fuel + 1, .gallop, limit, m, n, out =>
    let limit := max (limit - 1) 1
    let kept := gallop (fun k => !before lt b[n - 1]? a[k]?) m (m - 1)
    let won := m - kept
    let out := (a.extract kept m).toList ++ out
    let m := kept
    if m = 0 then (limit, (b.take n).toList ++ out)
    else
      let out := b[n - 1]?.toList ++ out
      let n := n - 1
      if n ≤ 1 then (limit, (b.take n).toList ++ (a.take m).toList ++ out)
      else
        let kept := gallop (fun k => before lt b[k]? a[m - 1]?) n (n - 1)
        let lost := n - kept
        let out := (b.extract kept n).toList ++ out
        let n := kept
        if lost ≠ 0 ∧ n = 1 then (limit, (b.take n).toList ++ (a.take m).toList ++ out)
        else if n = 0 then (limit, (a.take m).toList ++ out)
        else
          let out := a[m - 1]?.toList ++ out
          let m := m - 1
          if m = 0 then (limit, (b.take n).toList ++ out)
          else if patience ≤ won ∨ patience ≤ lost then back lt a b fuel .gallop limit m n out
          else back lt a b fuel (.compare 0 0) (limit + 1) m n out

/-- Merges two runs whose outer parts are in place, the shorter one against the other. -/
def mergeCore (lt : α → α → Bool) (limit : Nat) (a b : Array α) : Nat × Array α :=
  -- the first element of `b` comes before all of `a`, and the last of `a` after all of `b`
  if a.size ≤ b.size then
    if b.size = 1 then (limit, b ++ a)
    else if a.size = 1 then (limit, b ++ a)
    else front lt a b (a.size + b.size) (.compare 0 0) limit 0 1 (b.take 1)
  else if a.size = 1 then (limit, b ++ a)
  else if b.size = 1 then (limit, b ++ a)
  else
    let last := (a.drop (a.size - 1)).toList
    let (limit, out) := back lt a b (a.size + b.size) (.compare 0 0) limit (a.size - 1) b.size last
    (limit, out.toArray)

/-- Merges two runs; elements of the first that come before the second, and elements of the second
    that come after the first, stay where they are. -/
def merge (lt : α → α → Bool) (limit : Nat) (a b : Array α) : Nat × Array α :=
  let low := gallop (fun i => !before lt b[0]? a[i]?) a.size 0
  let rest := a.drop low
  if rest.isEmpty then (limit, a ++ b)
  else
    let high := gallop (fun i => before lt b[i]? rest.back?) b.size (b.size - 1)
    let (limit, middle) :=
      if high = 0 then (limit, rest) else mergeCore lt limit rest (b.take high)
    (limit, a.take low ++ middle ++ b.drop high)

/-! ### The order of the merges -/

/-- The first binary digit in which the middles of two neighbouring runs differ, as fractions of the
    list: `a / 2n` and `b / 2n` for a list of `n` elements. -/
def power (n : Nat) : Nat → Nat → Nat → Nat
  | 0, _, _ => 1
  | fuel + 1, a, b =>
    if n ≤ a then power n fuel (2 * (a - n)) (2 * (b - n)) + 1
    else if n ≤ b then 1
    else power n fuel (2 * a) (2 * b) + 1

/-- Runs that wait to be merged, the latest first, and the wins that let a merge gallop. -/
structure Pending (α : Type) where
  runs : List (Run α) := []
  limit : Nat := patience

/-- Merges the two latest runs. -/
def Pending.mergeTop (lt : α → α → Bool) (p : Pending α) : Pending α :=
  match p.runs with
  | b :: a :: rest =>
    let (limit, items) := merge lt p.limit a.items b.items
    { runs := { a with items } :: rest, limit }
  | _ => p

/-- Merges the second and the third latest run. -/
def Pending.mergeBelow (lt : α → α → Bool) (p : Pending α) : Pending α :=
  match p.runs with
  | c :: rest =>
    let q := Pending.mergeTop lt { p with runs := rest }
    { q with runs := c :: q.runs }
  | [] => p

/-- Merges the latest runs until the border before them has no greater power than a new one. -/
def Pending.settle (lt : α → α → Bool) (bound : Nat) : Nat → Pending α → Pending α
  | 0, p => p
  | fuel + 1, p =>
    match p.runs with
    | _ :: a :: _ => if bound < a.power then settle lt bound fuel (p.mergeTop lt) else p
    | _ => p

/-- Adds a run of a list of `n` elements. -/
def Pending.push (lt : α → α → Bool) (n start : Nat) (items : Array α) (p : Pending α) :
    Pending α :=
  match p.runs with
  | [] => { p with runs := [{ start, items }] }
  | last :: _ =>
    -- twice the middle of the last run, counted from the start of the list
    let a := 2 * last.start + last.items.size
    let bound := power n n a (a + last.items.size + items.size)
    let p := p.settle lt bound p.runs.length
    match p.runs with
    | [] => { p with runs := [{ start, items }] }
    | last :: rest => { p with runs := { start, items } :: { last with power := bound } :: rest }

/-- Merges all runs, of the last three the outer ones first if the last is the longer of them. -/
def Pending.collapse (lt : α → α → Bool) : Nat → Pending α → Array α
  | 0, p => (p.runs.head?.map Run.items).getD #[]
  | fuel + 1, p =>
    match p.runs with
    | c :: _ :: a :: _ =>
      if a.items.size < c.items.size then collapse lt fuel (p.mergeBelow lt)
      else collapse lt fuel (p.mergeTop lt)
    | _ => collapse lt fuel (p.mergeTop lt)

/-- Cuts what is left of a list of `n` elements into runs of at least a given length. -/
def cut (lt : α → α → Bool) (n least : Nat) : Nat → Nat → List α → Pending α → Pending α
  | 0, _, _, p => p
  | _ + 1, _, [], p => p
  | fuel + 1, start, xs, p =>
    let run := firstRun lt xs
    let size := max run.length (min least xs.length)
    let items := ((xs.take size).drop run.length).foldl (insert lt) run.toArray
    cut lt n least fuel (start + size) (xs.drop size) (p.push lt n start items)

/-- The list sorted by a strict comparison. -/
def sort (lt : α → α → Bool) (xs : List α) : List α :=
  let p := cut lt xs.length (leastRun 0 xs.length) xs.length 0 xs {}
  (p.collapse lt p.runs.length).toList

end Stencil.RunSort
