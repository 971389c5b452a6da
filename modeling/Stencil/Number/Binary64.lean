/-! Double precision numbers by their exact values. A finite double is a whole number of *units* of
    2⁻¹⁰⁷⁴ with a sign, so arithmetic is done exactly on natural numbers and then rounded once to
    the nearest double, a tie going to the even neighbour; zero keeps its sign. -/

namespace Stencil

/-- A double: not a number, an infinity, or a signed whole number of units of 2⁻¹⁰⁷⁴. -/
inductive Binary64 where
  | nan
  | infinity (negative : Bool)
  | finite (negative : Bool) (units : Nat)
  deriving DecidableEq, Repr, Inhabited

namespace Binary64

/-- The number of units in one. -/
def one : Nat := 1 <<< 1074

/-- The least number of units that is too large for a double. -/
def bound : Nat := 1 <<< 2098

/-- The integer nearest to `num / den`, the even one of two. -/
def roundHalfEven (num den : Nat) : Nat :=
  let q := num / den
  let r := num % den
  if 2 * r < den then q
  else if den < 2 * r then q + 1
  else if q % 2 = 0 then q else q + 1

/-- The magnitude with 53 significant bits nearest to `num / den` units. -/
def nearest (num den : Nat) : Nat :=
  let step : Nat := 1 <<< ((num / den).log2 - 52)
  roundHalfEven num (den * step) * step

/-- The double nearest to `num / den` units, an infinity beyond the largest one. -/
def ofUnits (negative : Bool) (num den : Nat) : Binary64 :=
  let u := nearest num den
  if u < bound then .finite negative u else .infinity negative

/-- The double nearest to an exact sum of units. A zero sum is positive. -/
def ofSum (n : Int) : Binary64 := ofUnits (decide (n < 0)) n.natAbs 1

def zero : Binary64 := .finite false 0

/-- The double nearest to an integer, unless it lies beyond the largest double. -/
def ofInt? (n : Int) : Option Binary64 :=
  match ofUnits (decide (n < 0)) (n.natAbs * one) 1 with
  | .finite s u => some (.finite s u)
  | _ => none

/-- The double nearest to the quotient of two integers, unless it lies beyond the largest one. -/
def ofQuotient? (a b : Int) : Option Binary64 :=
  match ofUnits (decide (a < 0) != decide (b < 0)) (a.natAbs * one) b.natAbs with
  | .finite s u => some (.finite s u)
  | _ => none

/-- The neighbour of a finite double that is farther from zero. -/
def next : Binary64 → Binary64
  | .finite s u => .finite s (u + (1 <<< (u.log2 - 52)))
  | x => x

/-- The sign, which a zero has too. -/
def isNegative : Binary64 → Bool
  | .nan => false
  | .infinity s => s
  | .finite s _ => s

def isZero : Binary64 → Bool
  | .finite _ 0 => true
  | _ => false

/-- The exact value of a finite double in units. -/
def units? : Binary64 → Option Int
  | .finite s u => some (if s then -(u : Int) else u)
  | _ => none

def neg : Binary64 → Binary64
  | .nan => .nan
  | .infinity s => .infinity (!s)
  | .finite s u => .finite (!s) u

def abs : Binary64 → Binary64
  | .nan => .nan
  | .infinity _ => .infinity false
  | .finite _ u => .finite false u

/-- The first number with the sign of the second. -/
def copySign (x y : Binary64) : Binary64 := if y.isNegative then x.abs.neg else x.abs

/-- The sum, rounded. Two negative zeros keep their sign. -/
def add : Binary64 → Binary64 → Binary64
  | .nan, _ => .nan
  | _, .nan => .nan
  | .infinity s, .infinity t => if s = t then .infinity s else .nan
  | .infinity s, _ => .infinity s
  | _, .infinity t => .infinity t
  | .finite true 0, .finite true 0 => .finite true 0
  | .finite s u, .finite t v =>
    ofSum ((if s then -(u : Int) else u) + (if t then -(v : Int) else v))

def sub (x y : Binary64) : Binary64 := add x y.neg

/-- The product, rounded. -/
def mul (x y : Binary64) : Binary64 :=
  let s := x.isNegative != y.isNegative
  match x, y with
  | .nan, _ => .nan
  | _, .nan => .nan
  | .infinity _, y => if y.isZero then .nan else .infinity s
  | x, .infinity _ => if x.isZero then .nan else .infinity s
  | .finite _ u, .finite _ v => ofUnits s (u * v) one

/-- The quotient, rounded. A nonzero number over zero is an infinity. -/
def div (x y : Binary64) : Binary64 :=
  let s := x.isNegative != y.isNegative
  match x, y with
  | .nan, _ => .nan
  | _, .nan => .nan
  | .infinity _, .infinity _ => .nan
  | .infinity _, _ => .infinity s
  | .finite _ _, .infinity _ => .finite s 0
  | .finite _ 0, .finite _ 0 => .nan
  | .finite _ _, .finite _ 0 => .infinity s
  | .finite _ u, .finite _ v => ofUnits s (u * one) v

/-- The exact remainder of the division that truncates, with the sign of the dividend. -/
def rem : Binary64 → Binary64 → Binary64
  | .nan, _ => .nan
  | _, .nan => .nan
  | .infinity _, _ => .nan
  | x, .infinity _ => x
  | .finite _ _, .finite _ 0 => .nan
  | .finite s u, .finite _ v => .finite s (u % v)

/-- The greatest integer that is not larger. -/
def floorInt? (x : Binary64) : Option Int := x.units?.map (Int.fdiv · one)

/-- The least integer that is not smaller. -/
def ceilInt? (x : Binary64) : Option Int := x.units?.map fun n => -(Int.fdiv (-n) one)

/-- The integer part. -/
def truncInt? (x : Binary64) : Option Int := x.units?.map (Int.tdiv · one)

/-- The floor as a double; the floor of a zero keeps its sign. -/
def floor (x : Binary64) : Binary64 :=
  match x with
  | .finite s 0 => .finite s 0
  | .finite s u => ofSum (Int.fdiv (if s then -(u : Int) else u) one * one)
  | x => x

/-- Numeric order of two doubles, which a NaN has with none. -/
def lt : Binary64 → Binary64 → Bool
  | .nan, _ => false
  | _, .nan => false
  | .infinity s, .infinity t => s && !t
  | .infinity s, _ => s
  | _, .infinity t => !t
  | .finite s u, .finite t v =>
    decide ((if s then -(u : Int) else u) < (if t then -(v : Int) else v))

/-- The remainder of the division that rounds down: it is zero or has the sign of the divisor. -/
def floorMod (x y : Binary64) : Binary64 :=
  let r := rem x y
  if r.isZero then copySign zero y
  else if lt y zero != lt r zero then add r y else r

/-- The quotient rounded down, found from the remainder with the rounding of every step. -/
def floorDiv (x y : Binary64) : Binary64 :=
  let r := rem x y
  let q := div (sub x r) y
  let q := if !r.isZero && lt y zero != lt r zero then sub q (.finite false one) else q
  if q.isZero then copySign zero (div x y)
  else
    let f := floor q
    if lt (.finite false (one / 2)) (sub q f) then add f (.finite false one) else f

end Binary64

end Stencil
