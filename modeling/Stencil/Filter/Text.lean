import Stencil.Filter.Operand
import Stencil.Text.Percent
import Stencil.Text.Tags
import Stencil.Text.Words

/-! Filters of texts. They take a text, marked safe or not, and return plain text; only where
    there is nothing to cut, to split or to encode is it the very operand that they return. -/

namespace Stencil.Filter

open Stencil.Text

/-- A filter that maps texts to texts. -/
def onText (filter : String) (f : String → String) (v : Value) : Except Problem Value := do
  return .text (f (← expectText filter v))

def upper : Value → Except Problem Value := onText "upper" Text.upper

def lower : Value → Except Problem Value := onText "lower" Text.lower

/-- Drops white space at both ends. -/
def trim : Value → Except Problem Value := onText "trim" Text.trim

def capitalize : Value → Except Problem Value := onText "capitalize" Text.capitalize

def title : Value → Except Problem Value := onText "title" Text.title

/-- Drops tags and comments. -/
def striptags : Value → Except Problem Value := onText "striptags" Text.stripTags

/-- Percent encoding that keeps slashes; an empty text is returned as it is. -/
def urlencode (v : Value) : Except Problem Value := do
  let s ← expectText "urlencode" v
  return if s.isEmpty then v else .text (percentEncode s)

/-- The number of words. -/
def wordcount (v : Value) : Except Problem Value := do
  return .int (countWords false (← expectText "wordcount" v).toList)

/-- Puts the argument `to` in place of every occurrence of `from`. -/
def replace (v : Value) (args : List Value) (named : List (String × Value)) :
    Except Problem Value := do
  let s ← expectText "replace" v
  let given ← namedArguments ["from", "to"] args named
  match given.lookup "from", given.lookup "to" with
  | some old, some new => do
    let old ← plainText old
    let new ← plainText new
    return .text (Text.replace old new s)
  | _, _ => refuse .missingReplacement

/-- The first characters of a text; a negative number counts those to leave out at the end. -/
def front (n : Int) (cs : List Char) : List Char :=
  if 0 ≤ n then cs.take n.toNat else cs.take (cs.length - n.natAbs)

/-- Cuts a text to a number of characters and appends an ending if anything was cut. -/
def truncate (v length ending : Value) : Except Problem Value := do
  let s ← expectText "truncate" v
  let n ← expectInteger "truncate" length "length"
  if s.length ≤ n then return v
  match ending.text? with
  | some e => return .text (String.ofList (front n s.toList) ++ e)
  | none => fail .wrongType

/-- The bytes that a character of a text takes when all of them take the same. -/
def unitBytes (cs : List Char) : Nat :=
  if cs.all (·.toNat < 0x100) then 1 else if cs.all (·.toNat < 0x10000) then 2 else 4

/-- A separator that is longer than a text or has wider characters cannot occur in it. -/
def outgrows (sep cs : List Char) : Bool :=
  decide (cs.length < sep.length) || decide (unitBytes cs < unitBytes sep)

/-- The pieces between the occurrences of a separator, which must not be empty. A text that the
    separator outgrows is its only piece. -/
def split (v pattern : Value) : Except Problem Value := do
  let cs := (← expectText "split" v).toList
  let sep := (separator (← expectText "split" pattern)).toList
  if sep.isEmpty then fail .badValue
  else if outgrows sep cs then return .list [v]
  else return .list ((Text.split sep cs).map fun piece => .text (String.ofList piece))

end Stencil.Filter
