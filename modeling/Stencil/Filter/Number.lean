import Stencil.Filter.Operand
import Stencil.Value.Equality

/-! Filters of numbers. Booleans are no numbers here. -/

namespace Stencil.Filter

/-- The marker of a base in front of its numerals. -/
def baseMarker? (base : Int) : Option String :=
  if base = 2 then some "0b"
  else if base = 8 then some "0o"
  else if base = 16 then some "0x"
  else none

/-- A numeral without the marker of its base. -/
def dropMarker (base : Int) (s : String) : String :=
  match baseMarker? base with
  | some m => if Text.startsWith s m then String.ofList (s.toList.drop m.length) else s
  | none => s

/-- The integer that a text writes in a base, else the integer part of the decimal that it writes,
    else nothing. An infinite decimal has no integer part. -/
def integerOf (s : String) (base : Int) : Except Problem (Option Int) :=
  let numeral := dropMarker base (Text.trim s)
  match if Numeral.isBase base then Numeral.readInt? base.toNat numeral else none with
  | some n => .ok (some n)
  | none =>
    -- only a numeral with a point is read as a decimal
    if !Text.contains numeral "." then .ok none
    else
      match Numeral.readFloat? numeral with
      | none => .ok none
      | some x =>
        match (Number.float x).trunc with
        | .ok n => .ok (some n)
        | .error .notANumber => .ok none
        | .error e => fail (.ofNumber e)

/-- The integer that a value is or writes; a text that writes none gives the default. -/
def int (v default base : Value) : Except Problem Value :=
  match v.text? with
  | some s =>
    match base.hostNumber? with
    | some (.int b) => do return (← integerOf s b).elim default .int
    | _ => fail .wrongType
  | none =>
    match v.number? with
    | some n => do return .int (← numeric n.trunc)
    | none => refuse (.unexpectedType "int" v)

/-- The double that a value is or writes; a text that writes none gives the default. -/
def float (v default : Value) : Except Problem Value :=
  match v.text? with
  | some s => return (Numeral.readFloat? (Text.trim s)).elim default .float
  | none =>
    match v.number? with
    | some n => do return .float (← numeric n.toFloat)
    | none => refuse (.unexpectedType "float" v)

def abs (v : Value) : Except Problem Value := do
  return .ofNumber (← expectNumber "abs" v "value").abs

/-- The ways to round a number to an integer. -/
inductive Rounding where
  | common | ceil | floor
  deriving DecidableEq, Repr

def Rounding.ofValue? (v : Value) : Option Rounding :=
  match v.text? with
  | some "common" => some .common
  | some "ceil" => some .ceil
  | some "floor" => some .floor
  | _ => none

/-- Half of one. -/
def half : Binary64 := .finite false (Binary64.one / 2)

/-- Rounds a double to an integer; a half goes away from zero in the common way. -/
def Rounding.apply (r : Rounding) (x : Binary64) : Except NumberFault Number :=
  match r with
  | .ceil => return .int (← (Number.float x).ceil)
  | .floor => return .int (← (Number.float x).floor)
  | .common => do
    let n ← (Number.float (x.abs.add half)).floor
    let y ← (Number.int n).toFloat
    -- a zero keeps the sign of what was rounded
    return .float (y.copySign x)

/-- The number of decimal places, which may be given as a text or a boolean. -/
def places (v : Value) : Except Problem Int :=
  match v with
  | .text s | .markup s =>
    match Numeral.readInt? 10 s with
    | some n => .ok n
    | none => fail .badValue
  | .bytes data =>
    match Numeral.readInt? 10 (String.ofList (data.map fun b => Char.ofNat b.toNat)) with
    | some n => if data.all (· < 128) then .ok n else fail .badValue
    | none => fail .badValue
  | v =>
    match v.hostNumber? with
    | some n => numeric n.trunc
    | none => fail .wrongType

/-- Rounds a number to a number of decimal places: it is scaled by a power of ten, rounded and
    scaled back. -/
def round (v method precision : Value) : Except Problem Value := do
  let n ← expectNumber "round" v "value"
  let scale ← numeric (Number.powerOfTen (← places precision))
  let scaled := (← numeric (← numeric (n.mul (.float scale))).toFloat)
  match Rounding.ofValue? method with
  | none => refuse (.roundingMethod method)
  | some r => do
    let rounded ← numeric (r.apply scaled)
    return .ofNumber (← numeric (rounded.div (.float scale)))

/-- One of two texts, the first if the number is one or minus one. -/
def pluralize (v singular plural : Value) : Except Problem Value := do
  let n ← expectNumber "pluralize" v "value"
  return if n.abs.eq (.int 1) then singular else plural

end Stencil.Filter
