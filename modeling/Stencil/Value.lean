import Stencil.Number.Basic

/-! Values of the template language. A *template value* is null, a boolean, a number, a text, a list
    or an object with text keys. The type also holds what a host program may hand in or a
    capability may return: tuples, objects with other keys, raw bytes, and the marker of a lookup
    that found nothing. -/

namespace Stencil

/-- A value that a template or its host can hold. `markup` is text that is safe to print as it is;
    the entries of an object keep the order of their insertion. -/
inductive Value where
  | null
  | bool (b : Bool)
  | int (n : Int)
  | float (x : Binary64)
  | text (s : String)
  | markup (s : String)
  | list (items : List Value)
  | tuple (items : List Value)
  | object (entries : List (Value × Value))
  | undefined
  | bytes (data : List UInt8)
  deriving Inhabited

/-- The kinds of template values. -/
inductive Kind where
  | null | bool | number | string | array | object
  deriving DecidableEq, Repr

namespace Kind

def name : Kind → String
  | .null => "null"
  | .bool => "bool"
  | .number => "number"
  | .string => "string"
  | .array => "array"
  | .object => "object"

/-- The name with its indefinite article. -/
def withArticle (k : Kind) : String :=
  match k with
  | .array | .object => "an " ++ k.name
  | _ => "a " ++ k.name

end Kind

namespace Value

/-- The kind of a value, which raw bytes and the undefined marker lack. -/
def kind? : Value → Option Kind
  | .null => some .null
  | .bool _ => some .bool
  | .int _ | .float _ => some .number
  | .text _ | .markup _ => some .string
  | .list _ | .tuple _ => some .array
  | .object _ => some .object
  | .undefined | .bytes _ => none

/-- The type name that messages give. -/
def typeName : Value → String
  | .null => "NoneType"
  | .bool _ => "bool"
  | .int _ => "int"
  | .float _ => "float"
  | .text _ => "str"
  | .markup _ => "Markup"
  | .list _ => "list"
  | .tuple _ => "tuple"
  | .object _ => "dict"
  | .undefined => "_Undefined"
  | .bytes _ => "bytes"

/-- The characters of a text, marked safe or not. -/
def text? : Value → Option String
  | .text s | .markup s => some s
  | _ => none

/-- The items of a list or a tuple. -/
def items? : Value → Option (List Value)
  | .list xs | .tuple xs => some xs
  | _ => none

def entries? : Value → Option (List (Value × Value))
  | .object es => some es
  | _ => none

/-- The number that a value is; a boolean is none. -/
def number? : Value → Option Number
  | .int n => some (.int n)
  | .float x => some (.float x)
  | _ => none

def ofNumber : Number → Value
  | .int n => .int n
  | .float x => .float x

def isUndefined : Value → Bool
  | .undefined => true
  | _ => false

def isNull : Value → Bool
  | .null => true
  | _ => false

def isMarkup : Value → Bool
  | .markup _ => true
  | _ => false

/-- Truth of a condition: null, undefined, false, zero and whatever is empty are false. -/
def isTruthy : Value → Bool
  | .null | .undefined => false
  | .bool b => b
  | .int n => n != 0
  | .float x => !x.isZero
  | .text s | .markup s => !s.isEmpty
  | .list xs | .tuple xs => !xs.isEmpty
  | .object es => !es.isEmpty
  | .bytes _ => true

/-- Truth of an option given to a capability, or of a tester's answer; it differs from that of a
    condition in that empty bytes are false. -/
def isSet : Value → Bool
  | .bytes data => !data.isEmpty
  | v => v.isTruthy

/-- The values that one meets by going through a value: the items of an array, the keys of an
    object, the characters of a text or the numbers of the bytes. -/
def members? : Value → Option (List Value)
  | .list xs | .tuple xs => some xs
  | .object es => some (es.map Prod.fst)
  | .text s | .markup s => some (s.toList.map fun c => .text c.toString)
  | .bytes data => some (data.map fun b => .int b.toNat)
  | _ => none

/-- The object with the given names. -/
def ofFields (fields : List (String × Value)) : Value :=
  .object (fields.map fun f => (.text f.1, f.2))

/-- The value under a name, the undefined marker if there is none. -/
def field (entries : List (Value × Value)) (name : String) : Value :=
  match entries with
  | [] => .undefined
  | (k, v) :: rest => if k.text? == some name then v else field rest name

/-- An entry has the name as its key. -/
def hasField (entries : List (Value × Value)) (name : String) : Bool :=
  entries.any fun e => e.1.text? == some name

end Value

end Stencil
