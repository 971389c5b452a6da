import Stencil.Filter.Operand
import Stencil.Value.Order

/-! Filters of arrays and objects. They keep the order of the items; those that look at an attribute
    of the items say whether an item without it, or with null there, is dropped. -/

namespace Stencil.Filter

/-- The number of characters, items or entries. -/
def length (v : Value) : Except Problem Value :=
  match v with
  | .text s | .markup s => .ok (.int s.length)
  | .list xs | .tuple xs => .ok (.int xs.length)
  | .object es => .ok (.int es.length)
  | _ => refuse .noLength

def reverse (v : Value) : Except Problem Value :=
  match v with
  | .text s | .markup s => .ok (.text (String.ofList s.toList.reverse))
  | .list xs | .tuple xs => .ok (.list xs.reverse)
  | v => refuse (.notReversible v)

/-- The first item, an empty text if there is none. -/
def first (v : Value) : Except Problem Value := do
  return (← expectItems "first" v).head?.getD (.text "")

/-- The last item, an empty text if there is none. -/
def last (v : Value) : Except Problem Value := do
  return (← expectItems "last" v).getLast?.getD (.text "")

/-- The item at an index, an empty text if there is none. -/
def nth (v index : Value) : Except Problem Value := do
  let xs ← expectItems "nth" v
  let i ← expectInteger "nth" index "n"
  if i < 0 then refuse .negativeIndex else return xs[i.toNat]?.getD (.text "")

/-- The texts of the items with a separator between each two. -/
def join (v sep : Value) : Except Problem Value := do
  let xs ← expectItems "join" v
  let sep := separator (← expectText "join" sep)
  return .text (Text.joinTexts sep (← Value.stringifyAll xs))

/-- The items in ascending order, of themselves or of an attribute. -/
def sort (v path : Value) : Except Problem Value := do
  return .list (← Value.sort (← expectItems "sort" v) path)

/-- The items without those that repeat an earlier one, or an attribute of it. -/
def unique (v path caseSensitive : Value) : Except Problem Value := do
  return .list (← Value.distinct (← expectItems "unique" v) path caseSensitive.isSet)

/-- A position counted from the front, or from the end if negative. -/
def position (index : Int) (size : Nat) : Nat :=
  if 0 ≤ index then index.toNat else size - index.natAbs

/-- The items from one position up to another. -/
def run (xs : List Value) (start stop : Nat) : List Value := (xs.drop start).take (stop - start)

/-- The items from `start` up to and without `stop`, which is the end unless given. -/
def slice (v start stop : Value) : Except Problem Value := do
  let xs ← expectItems "slice" v
  let first ← expectInteger "slice" start "start"
  if stop.isNull then return .list (run xs (position first xs.length) xs.length)
  let last ← expectInteger "slice" stop "end"
  return .list (run xs (position first xs.length) (position last xs.length))

/-- The attribute of an item, unless it is missing or null. -/
def attribute? (path item : Value) : Except Problem (Option Value) := do
  let found ← lookAt item path
  return if found.isUndefined || found.isNull then none else some found

/-- Groups with an item put under a key; a text marked safe and a plain one of the same characters
    are one key, which is spelled as it came first. -/
def addTo (groups : List (Value × List Value)) (key item : Value) : List (Value × List Value) :=
  match groups with
  | [] => [(key, [item])]
  | (k, items) :: rest =>
    if k.text? == key.text? then (k, items ++ [item]) :: rest else (k, items) :: addTo rest key item

/-- Groups with items put one by one under the texts of an attribute; items that lack it are
    dropped. -/
def group (path : Value) (groups : List (Value × List Value)) :
    List Value → Except Problem (List (Value × List Value))
  | [] => .ok groups
  | item :: rest => do
    match ← attribute? path item with
    | none => group path groups rest
    | some found => do
      let key ← found.asText
      group path (addTo groups key item) rest

/-- An object of the items under the texts of an attribute. -/
def groupBy (v path : Value) : Except Problem Value := do
  let groups ← group path [] (← expectItems "group_by" v)
  return .object (groups.map fun g => (g.1, .list g.2))

/-- The items that have an attribute, or have it equal to a value that is not null. -/
def select (path wanted : Value) : List Value → Except Problem (List Value)
  | [] => .ok []
  | item :: rest => do
    let found ← attribute? path item
    let keep := found.any fun f => wanted.isNull || f.hostEquals wanted
    let kept ← select path wanted rest
    return if keep then item :: kept else kept

def filter (v path wanted : Value) : Except Problem Value := do
  return .list (← select path wanted (← expectItems "filter" v))

/-- The attributes of the items that have one. -/
def pluck (path : Value) : List Value → Except Problem (List Value)
  | [] => .ok []
  | item :: rest => do
    let found ← attribute? path item
    let plucked ← pluck path rest
    return found.toList ++ plucked

def map (v path : Value) : Except Problem Value := do
  return .list (← pluck path (← expectItems "map" v))

/-- Appends a value, or the items of an array. -/
def concat (v : Value) (args : List Value) (named : List (String × Value)) :
    Except Problem Value := do
  let xs ← expectItems "concat" v
  let given ← namedArguments ["with"] args named
  match given.lookup "with" with
  | none => refuse .missingConcatenation
  | some other => return .list (xs ++ other.items?.getD [other])

/-- The value under a key of an object, or a default. -/
def get (v key default : Value) : Except Problem Value :=
  match v with
  | .object es =>
    if !key.isKey then fail .wrongType
    else
      match es.find? fun e => e.1.hostEquals key with
      | some e => .ok e.2
      | none => if default.isUndefined then refuse (.missingKey key) else .ok default
  | _ => refuse .notAnObject

end Stencil.Filter
