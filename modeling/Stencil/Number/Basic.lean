import Stencil.Number.Binary64

/-! Numbers of the template language: integers without bound and doubles. Mixed arithmetic is done
    in doubles; mixed comparison is exact, through a rank that both kinds of number have. -/

namespace Stencil

/-- A number of a template. -/
inductive Number where
  | int (n : Int)
  | float (x : Binary64)
  deriving DecidableEq, Repr

/-- Why a numeric operation has no result. -/
inductive NumberFault where
  | overflow
  | divisionByZero
  | notANumber
  deriving DecidableEq, Repr

namespace Number

/-- The place of a number on the extended line in units of the smallest double: minus infinity,
    the finite numbers, plus infinity. NaN has none. -/
def rank? : Number → Option (Int × Int)
  | .int n => some (0, n * Binary64.one)
  | .float .nan => none
  | .float (.infinity s) => some (if s then -1 else 1, 0)
  | .float (.finite s u) => some (0, if s then -(u : Int) else u)

/-- Strict order of ranks. -/
def rankLt (a b : Int × Int) : Bool := decide (a.1 < b.1) || (a.1 == b.1 && decide (a.2 < b.2))

/-- Exact comparison; NaN is not less than anything and nothing is less than it. -/
def lt (a b : Number) : Bool :=
  match a.rank?, b.rank? with
  | some x, some y => rankLt x y
  | _, _ => false

/-- Exact equality; NaN equals nothing. -/
def eq (a b : Number) : Bool :=
  match a.rank?, b.rank? with
  | some x, some y => x == y
  | _, _ => false

def le (a b : Number) : Bool := lt a b || eq a b

/-- Zero of either kind. -/
def isZero : Number → Bool
  | .int n => n == 0
  | .float x => x.isZero

/-- The nearest double; an integer may lie beyond the largest one. -/
def toFloat : Number → Except NumberFault Binary64
  | .float x => .ok x
  | .int n => match Binary64.ofInt? n with
    | some x => .ok x
    | none => .error .overflow

/-- The integer that a function of doubles finds, which only a finite number has. -/
def integral (f : Binary64 → Option Int) : Number → Except NumberFault Int
  | .int n => .ok n
  | .float x => match f x, x with
    | some n, _ => .ok n
    | none, .nan => .error .notANumber
    | none, _ => .error .overflow

/-- The integer part. -/
def trunc : Number → Except NumberFault Int := integral Binary64.truncInt?

def floor : Number → Except NumberFault Int := integral Binary64.floorInt?

def ceil : Number → Except NumberFault Int := integral Binary64.ceilInt?

/-- An operation on integers and its counterpart on doubles. -/
def arith (onInts : Int → Int → Int) (onFloats : Binary64 → Binary64 → Binary64) :
    Number → Number → Except NumberFault Number
  | .int a, .int b => .ok (.int (onInts a b))
  | a, b => do
    let x ← a.toFloat
    let y ← b.toFloat
    return .float (onFloats x y)

def add : Number → Number → Except NumberFault Number := arith (· + ·) Binary64.add

def sub : Number → Number → Except NumberFault Number := arith (· - ·) Binary64.sub

def mul : Number → Number → Except NumberFault Number := arith (· * ·) Binary64.mul

/-- The fault of a division by zero. Unless both are integers the operands are made doubles first,
    which an integer may be too large for. -/
def dividedByZero (a b : Number) : NumberFault :=
  match a, b with
  | .int _, .int _ => .divisionByZero
  | a, _ => match a.toFloat with
    | .ok _ => .divisionByZero
    | .error e => e

/-- The quotient, always a double; of two integers it is rounded once. -/
def div (a b : Number) : Except NumberFault Number :=
  if b.isZero then .error (dividedByZero a b)
  else match a, b with
    | .int m, .int n => match Binary64.ofQuotient? m n with
      | some x => .ok (.float x)
      | none => .error .overflow
    | a, b => do
      let x ← a.toFloat
      let y ← b.toFloat
      return .float (x.div y)

/-- The quotient rounded down. -/
def floorDiv (a b : Number) : Except NumberFault Number :=
  if b.isZero then .error (dividedByZero a b) else arith Int.fdiv Binary64.floorDiv a b

/-- The remainder of the division that rounds down. -/
def mod (a b : Number) : Except NumberFault Number :=
  if b.isZero then .error (dividedByZero a b) else arith Int.fmod Binary64.floorMod a b

def neg : Number → Number
  | .int n => .int (-n)
  | .float x => .float x.neg

def abs : Number → Number
  | .int n => .int n.natAbs
  | .float x => .float x.abs

/-- The exponents whose powers of ten lie in the middle of two doubles, or so close below it that
    the larger neighbour is taken. -/
def raisedPowers : List Int := [23, 210]

/-- The double that stands for a power of ten: the nearest one but for the raised powers. -/
def powerOfTen (n : Int) : Except NumberFault Binary64 := do
  let _ ← (Number.int n).toFloat
  if 308 < n then .error .overflow
  else if n < -400 then .ok .zero
  else if n < 0 then .ok (Binary64.ofUnits false Binary64.one (Nat.pow 10 (-n).toNat))
  else
    let nearest := Binary64.ofUnits false (Nat.pow 10 n.toNat * Binary64.one) 1
    .ok (if raisedPowers.contains n then nearest.next else nearest)

end Number

end Stencil
