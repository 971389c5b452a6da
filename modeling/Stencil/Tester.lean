import Stencil.Capability
import Stencil.Pattern.Search
import Stencil.Value.Equality

/-! The built-in testers. A tester sees its operand even when the lookup of it found nothing, which
    only `defined` and `undefined` accept; the others also reject an operand of the wrong kind. -/

namespace Stencil.Tester

open Capability Parameter

/-- A refusal. -/
def refuse (m : Misuse) : Except Problem α := .error (.fault (.ofMisuse m))

/-- An operand that is there. -/
def requireDefined (tester : String) (v : Value) : Except Problem Unit :=
  if v.isUndefined then refuse (.undefinedOperand tester) else .ok ()

def requireNumber (tester part : String) (v : Value) : Except Problem Number :=
  match v.number? with
  | some n => .ok n
  | none => refuse (.notANumber tester part)

def requireText (tester part : String) (v : Value) : Except Problem String :=
  match v.text? with
  | some s => .ok s
  | none => refuse (.notAText tester part)

/-- A property of an operand that has to be there. -/
def ofProperty (tester : String) (p : Value → Bool) (v : Value) : Except Problem Value := do
  requireDefined tester v
  return .bool (p v)

def defined (v : Value) : Except Problem Value := .ok (.bool !v.isUndefined)

def undefined (v : Value) : Except Problem Value := .ok (.bool v.isUndefined)

def string : Value → Except Problem Value := ofProperty "string" fun v => v.text?.isSome

def number : Value → Except Problem Value := ofProperty "number" fun v => v.number?.isSome

/-- Whether a loop can run over the operand. -/
def iterable : Value → Except Problem Value :=
  ofProperty "iterable" fun v => v.items?.isSome || v.entries?.isSome

def object : Value → Except Problem Value := ofProperty "object" fun v => v.entries?.isSome

/-- The remainder of a division by a number. -/
def remainder (n divisor : Number) : Except Problem Number :=
  match n.mod divisor with
  | .ok r => .ok r
  | .error e => .error (.fault (.failure (.ofNumber e)))

/-- The remainder of a number is zero. -/
def divides (divisor n : Number) : Except Problem Bool := do
  return (← remainder n divisor).eq (.int 0)

def odd (v : Value) : Except Problem Value := do
  requireDefined "odd" v
  return .bool !(← divides (.int 2) (← requireNumber "odd" "on a variable" v))

def even (v : Value) : Except Problem Value := do
  requireDefined "even" v
  return .bool (← divides (.int 2) (← requireNumber "even" "on a variable" v))

def divisibleBy (v divisor : Value) : Except Problem Value := do
  requireDefined "divisibleby" v
  let n ← requireNumber "divisibleby" "on a variable" v
  let d ← requireNumber "divisibleby" "with a parameter" divisor
  return .bool (← divides d n)

/-- A relation of two texts. -/
def ofTexts (tester : String) (p : String → String → Bool) (v other : Value) :
    Except Problem Value := do
  requireDefined tester v
  let s ← requireText tester "on a variable" v
  let t ← requireText tester "with a parameter" other
  return .bool (p s t)

def startingWith : Value → Value → Except Problem Value := ofTexts "starting_with" Text.startsWith

def endingWith : Value → Value → Except Problem Value := ofTexts "ending_with" Text.endsWith

/-- Whether a text contains another one, an array an item, or an object a key. -/
def containing (v needle : Value) : Except Problem Value := do
  requireDefined "containing" v
  match v with
  | .text s | .markup s =>
    return .bool (Text.contains s (← requireText "containing" "with a parameter" needle))
  | .list xs | .tuple xs => return .bool (xs.any (·.hostEquals needle))
  | .object es =>
    return .bool (Value.hasField es (← requireText "containing" "with a parameter" needle))
  | _ => refuse .notAContainer

/-- Whether a pattern matches somewhere in a text. -/
def matching (v pattern : Value) : Except Problem Value := do
  requireDefined "matching" v
  let s ← requireText "matching" "on a variable" v
  let p ← requireText "matching" "with a parameter" pattern
  match Pattern.search p s with
  | .ok found => return .bool found
  | .error .malformed => refuse (.invalidPattern p)
  | .error (.failed f) => .error (.fault (.failure f))

/-- The built-in testers with the parameters they take. -/
def behaviours : List (String × Behaviour) :=
  [("defined", unary value defined),
   ("undefined", unary value undefined),
   ("string", unary value string),
   ("number", unary value number),
   ("odd", unary value odd),
   ("even", unary value even),
   ("divisibleby", binary value { name := "num" } divisibleBy),
   ("iterable", unary value iterable),
   ("object", unary value object),
   ("starting_with", binary value { name := "prefix" } startingWith),
   ("ending_with", binary value { name := "suffix" } endingWith),
   ("containing", binary value { name := "needle" } containing),
   ("matching", binary value { name := "pattern" } matching)]

/-- The built-in testers. -/
def all : Table Capability := capabilities behaviours fun _ => false

end Stencil.Tester
