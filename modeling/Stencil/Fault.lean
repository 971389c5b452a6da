import Stencil.Number.Basic
import Stencil.Value.Inspect

/-! Faults of code outside the template language: of the capabilities that a template calls, of the
    sink it writes to, of the host that hands in data. A *misuse* is a refusal with a wording of its
    own, a *failure* comes from an operation below and has no wording here, and a *host fault* is
    raised by the host with its own class and text. -/

namespace Stencil

/-- Why a built-in capability or a constructor refuses what it is given. -/
inductive Misuse where
  | expectedText (capability : String) (given : Value)
  | expectedNumber (capability argument : String) (given : Value)
  | expectedArray (capability : String) (given : Value)
  | unexpectedType (capability : String) (given : Value)
  | tooManyArguments (limit given : Nat)
  | unexpectedArgument (name : String)
  | repeatedArgument (name : String)
  | missingReplacement
  | missingConcatenation
  | noLength
  | notReversible (given : Value)
  | roundingMethod (given : Value)
  | negativeIndex
  | notAnObject
  | missingKey (key : Value)
  | undefinedOperand (tester : String)
  | notANumber (tester part : String)
  | notAText (tester part : String)
  | notAContainer
  | invalidPattern (pattern : String)
  | notACount (function argument : String) (given : Value)
  | emptyRange (first last : Int)
  | zeroStep
  | variableName (given : Value)
  | variableUnset (name : String)
  | messageType (given : Value)
  | thrown (message : String)
  | contextKey (given : Value)
  | objectKey (given : Value)
  | notAValue (given : Value)
  | notCallable (kind name : String)
  | unknownKind (kind : String)

namespace Misuse

/-- The class that a misuse is reported under. -/
def className : Misuse → String
  | .roundingMethod _ | .negativeIndex | .undefinedOperand _ | .notANumber .. | .notAText ..
  | .notAContainer | .invalidPattern _ | .emptyRange .. | .zeroStep | .unknownKind _ => "ValueError"
  | .missingKey _ | .variableUnset _ => "LookupError"
  | .thrown _ => "RuntimeError"
  | _ => "TypeError"

/-- The text of a misuse. -/
def text : Misuse → String
  | .expectedText f v => s!"Filter `{f}` expected a string, got {v.typeName}: {v.inspect}"
  | .expectedNumber f a v => s!"Filter `{f}` expected a number for `{a}`, got {v.inspect}"
  | .expectedArray f v => s!"Filter `{f}` expected an array, got {v.typeName}"
  | .unexpectedType f v => s!"Filter `{f}` received an unexpected type: {v.typeName}"
  | .tooManyArguments limit given => s!"expected at most {limit} arguments, got {given}"
  | .unexpectedArgument name => s!"unexpected argument `{name}`"
  | .repeatedArgument name => s!"argument `{name}` given twice"
  | .missingReplacement => "Filter `replace` expected arguments `from` and `to`"
  | .missingConcatenation => "Filter `concat` expected an argument `with`"
  | .noLength =>
    "Filter `length` was used on a value that isn't an array, an object, or a string"
  | .notReversible v => s!"Filter `reverse` expected an array or a string, got {v.typeName}"
  | .roundingMethod v =>
    s!"Filter `round` received an incorrect value for arg `method`: got {v.inspect}, "
      ++ "only common, ceil and floor are allowed"
  | .negativeIndex => "Filter `nth` expects a non-negative `n`"
  | .notAnObject => "Filter `get` was used on a value that isn't an object"
  | .missingKey k => s!"Filter `get` tried to get key `{k.plain}` but it wasn't found"
  | .undefinedOperand t => s!"Tester `{t}` was called on an undefined variable"
  | .notANumber t part => s!"Tester `{t}` was called {part} that isn't a number"
  | .notAText t part => s!"Tester `{t}` was called {part} that isn't a string"
  | .notAContainer => "Tester `containing` can only be used on string, array or map"
  | .invalidPattern p => s!"Tester `matching`: invalid regex '{p}': <error>"
  | .notACount f a v =>
    s!"Function `{f}` received {a}={v.inspect} but `{a}` can only be a non-negative integer"
  | .emptyRange first last =>
    "Function `range` was called with a `start` argument greater than the `end` one "
      ++ s!"({first} > {last})"
  | .zeroStep => "Function `range` was called with a `step_by` argument of 0"
  | .variableName v =>
    s!"Function `get_env` received name={v.inspect} but `name` can only be a string"
  | .variableUnset name => s!"Environment variable `{name}` not found"
  | .messageType v =>
    s!"Function `throw` received message={v.inspect} but `message` can only be a string"
  | .thrown message => message
  | .contextKey v => s!"Context keys must be strings, got {v.typeName}"
  | .objectKey v => s!"Object keys must be strings, got {v.typeName}: {v.inspect}"
  | .notAValue v => s!"Cannot use {v.typeName} as a template value"
  | .notCallable kind name => s!"{kind} '{name}' must be callable"
  | .unknownKind kind => s!"Unknown capability kind: {Text.quoted kind}"

/-- The values whose text is a part of the text of a misuse. -/
def shown : Misuse → List Value
  | .expectedText _ v | .expectedNumber _ _ v | .roundingMethod v | .missingKey v
  | .notACount _ _ v | .variableName v | .messageType v | .objectKey v => [v]
  | .emptyRange first last => [.int first, .int last]
  | _ => []

end Misuse

/-- An operation below the template language that failed. -/
inductive Failure where
  | wrongType
  | badValue
  | overflow
  | zeroDivision
  | badIndex
  | missingKey
  | missingAttribute
  | badLookup
  | tooDeep
  | outOfMemory
  | badProgram
  | badText
  | badState
  deriving DecidableEq, Repr

/-- The class that a failure is reported under. -/
def Failure.className : Failure → String
  | .wrongType => "TypeError"
  | .badValue => "ValueError"
  | .overflow => "OverflowError"
  | .zeroDivision => "ZeroDivisionError"
  | .badIndex => "IndexError"
  | .missingKey => "KeyError"
  | .missingAttribute => "AttributeError"
  | .badLookup => "LookupError"
  | .tooDeep => "RecursionError"
  | .outOfMemory => "MemoryError"
  | .badProgram => "RuntimeError"
  | .badText => "UnicodeError"
  | .badState => "SystemError"

/-- The failure of a numeric operation. -/
def Failure.ofNumber : NumberFault → Failure
  | .overflow => .overflow
  | .divisionByZero => .zeroDivision
  | .notANumber => .badValue

/-- A fault of code outside the template language. -/
inductive Fault where
  | misuse (m : Misuse)
  | failure (f : Failure)
  | host (className text : String)

namespace Fault

/-- The fault of a misuse; to word it fails if it shows a value that is not writable. -/
def ofMisuse (m : Misuse) : Fault :=
  if Value.allWritable m.shown then .misuse m else .failure .badValue

def className : Fault → String
  | .misuse m => m.className
  | .failure f => f.className
  | .host name _ => name

/-- The text of a fault; a failure only has the name of its class. -/
def text : Fault → String
  | .misuse m => m.text
  | .failure f => "<" ++ f.className ++ ">"
  | .host _ text => text

/-- The text given as a reason, or the class where the text is empty. -/
def reason (f : Fault) : String := if f.text.isEmpty then f.className else f.text

end Fault

end Stencil
