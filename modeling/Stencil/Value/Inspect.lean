import Stencil.Number.Numeral
import Stencil.Number.Shortest
import Stencil.Text.Quoted
import Stencil.Text.Search
import Stencil.Value

/-! The text of a value. `inspect` shows a value in a message so that its type can be seen: texts are
    quoted, containers are written out. `plain` is the same except that a text stands for itself
    and the undefined marker for nothing; it is what joins a value to other text. Both are only
    asked of values that are writable: integers of too many digits are not converted. -/

namespace Stencil.Value

open Stencil.Text

/-- Items between brackets. -/
def enclose (opening closing : String) (items : List String) : String :=
  opening ++ joinTexts ", " items ++ closing

mutual

/-- The value as messages show it. -/
def inspect : Value → String
  | .null => "None"
  | .bool b => if b then "True" else "False"
  | .int n => toString n
  | .float x => x.toText
  | .text s => quoted s
  | .markup s => "Markup(" ++ quoted s ++ ")"
  | .list xs => enclose "[" "]" (inspectAll xs)
  | .tuple xs => enclose "(" (if xs.length = 1 then ",)" else ")") (inspectAll xs)
  | .object es => enclose "\x7b" "\x7d" (inspectEntries es)
  | .undefined => "UNDEFINED"
  | .bytes data => quotedBytes data

/-- The values of a list, one by one. -/
def inspectAll : List Value → List String
  | [] => []
  | x :: xs => inspect x :: inspectAll xs

/-- The entries of an object, one by one. -/
def inspectEntries : List (Value × Value) → List String
  | [] => []
  | (k, v) :: rest => (inspect k ++ ": " ++ inspect v) :: inspectEntries rest

end

/-- The value as a part of other text. -/
def plain : Value → String
  | .text s | .markup s => s
  | .undefined => ""
  | v => v.inspect

/-- The least natural number that has too many digits to be converted. -/
def unwritable : Nat := Nat.pow 10 Numeral.maxDigits

mutual

/-- Every integer in the value has few enough digits to be converted. -/
def isWritable : Value → Bool
  | .int n => decide (n.natAbs < unwritable)
  | .list xs | .tuple xs => allWritable xs
  | .object es => entriesWritable es
  | _ => true

/-- Every value of a list is writable. -/
def allWritable : List Value → Bool
  | [] => true
  | x :: xs => isWritable x && allWritable xs

/-- Every key and every value of the entries is writable. -/
def entriesWritable : List (Value × Value) → Bool
  | [] => true
  | (k, v) :: rest => isWritable k && isWritable v && entriesWritable rest

end

end Stencil.Value
