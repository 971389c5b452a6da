import Stencil.RunSort
import Stencil.Text.Case
import Stencil.Value.Display
import Stencil.Value.Equality
import Stencil.Value.Path

/-! Sorting and removal of duplicates. The kind of the first key decides how keys are compared, and
    every later key has to be of that kind. Booleans sort false before true, numbers by exact value,
    texts by code points and arrays by length; booleans, numbers and texts can be told apart, texts
    without regard to case unless asked. Sorting keeps the order of values with equal keys, and of
    values with equal keys the first is kept. -/

namespace Stencil

/-- A key of another kind than the first one. -/
def mixedKinds (operation : String) (expected : Kind) (key : Value) : Except Problem α :=
  match key.kind with
  | .error e => .error (.ofRuntime e)
  | .ok actual => .error (.ofRuntime (RuntimeError.ordering
      (s!"{operation} can't compare multiple types: expected {expected.withArticle}, "
        ++ s!"got {actual.withArticle}") [("key", key)] none))

/-- The kind of a key, as a result that may fail. -/
def keyKind (key : Value) : Except Problem Kind :=
  match key.kind with
  | .error e => .error (.ofRuntime e)
  | .ok k => .ok k

/-- Values that wait to be sorted by keys of one kind, the newest first. -/
structure Sorter where
  kind : Kind
  pairs : List (Value × Value) := []

namespace Sorter

/-- The kinds of keys that have an order. -/
def sortable : Kind → Bool
  | .bool | .number | .string | .array => true
  | .null | .object => false

/-- An empty sorter for keys like the first one. -/
def ofFirst (key : Value) : Except Problem Sorter := do
  let kind ← keyKind key
  if sortable kind then return { kind }
  else .error (.ofRuntime (RuntimeError.ordering s!"{key.inspect} is not a sortable value"
    [("key", key)] (some "Sort by an attribute holding a bool, number, string or array")))

/-- Adds a value under its key. -/
def add (s : Sorter) (value key : Value) : Except Problem Sorter := do
  let kind ← keyKind key
  if kind = s.kind then return { s with pairs := (value, key) :: s.pairs }
  else mixedKinds "sort" s.kind key

/-- The first key comes strictly before the second; only keys of one kind are comparable. -/
def keyLt (a b : Value) : Bool :=
  match a, b with
  | .bool x, .bool y => !x && y
  | a, b =>
    match a.number?, b.number? with
    | some x, some y => x.lt y
    | _, _ =>
      match a.text?, b.text? with
      | some s, some t => decide (s < t)
      | _, _ =>
        match a.items?, b.items? with
        | some xs, some ys => decide (xs.length < ys.length)
        | _, _ => false

/-- A key that has no place among numbers. -/
def isUnordered (key : Value) : Bool := key.number?.any fun n => n.rank?.isNone

/-- The values in ascending order of their keys. Keys that are not all ordered are sorted by runs,
    which shows in what order they were compared. -/
def sorted (s : Sorter) : List Value :=
  let pairs := s.pairs.reverse
  if pairs.any fun p => isUnordered p.2 then
    (RunSort.sort (fun p q => keyLt p.2 q.2) pairs).map Prod.fst
  else (pairs.mergeSort fun p q => !keyLt q.2 p.2).map Prod.fst

end Sorter

/-- Keys of one kind that have been seen. -/
structure Distinct where
  kind : Kind
  caseSensitive : Bool
  seen : List Value := []

namespace Distinct

/-- The kinds of keys that can be told apart. -/
def comparable : Kind → Bool
  | .bool | .number | .string => true
  | .null | .array | .object => false

/-- No keys yet, for keys like the first one. -/
def ofFirst (key : Value) (caseSensitive : Bool) : Except Problem Distinct := do
  let kind ← keyKind key
  if comparable kind then return { kind, caseSensitive }
  else .error (.ofRuntime (RuntimeError.ordering s!"{key.inspect} is not a unique-able value"
    [("key", key)] none))

/-- Two keys count as the same. -/
def sameKey (caseSensitive : Bool) (a b : Value) : Bool :=
  match a.text?, b.text? with
  | some s, some t => if caseSensitive then s == t else Text.fold s == Text.fold t
  | _, _ => Value.hostEquals a b

/-- Adds a key and says whether it is new. -/
def insert (d : Distinct) (key : Value) : Except Problem (Bool × Distinct) := do
  let kind ← keyKind key
  if kind = d.kind then
    if d.seen.any (sameKey d.caseSensitive key) then return (false, d)
    else return (true, { d with seen := key :: d.seen })
  else mixedKinds "unique" d.kind key

end Distinct

namespace Value

/-- The attribute of a value to order it by; that of the undefined marker may be missing. -/
def orderKey (path v : Value) : Except Problem Value :=
  match v.resolveBy path with
  | .error f => .error (.fault (.failure f))
  | .ok k => .ok k

/-- The error that an item lacks the attribute to order by. -/
def missingKey (path : Value) : Problem :=
  let e := RuntimeError.missingAttribute path.plain
  .ofRuntime (if path.isSet then e else { e with expression := none })

/-- The attribute of a value to order it by, which must be there. -/
def requiredKey (path v : Value) : Except Problem Value := do
  match ← orderKey path v with
  | .undefined => .error (missingKey path)
  | k => return k

/-- The first of the values to order, and all of them. Of an object these are its keys, but the first
    one is what it has under the number 0. -/
def sequence (values : Value) : Except Failure (Option (Value × List Value)) :=
  if !values.isSet then .ok none
  else
    match values, values.members? with
    | .object es, some keys =>
      match es.find? fun e => e.1.hostEquals (.int 0) with
      | some e => .ok (some (e.2, keys))
      | none => .error .missingKey
    | _, some (v :: vs) => .ok (some (v, v :: vs))
    | _, _ => .error .wrongType

/-- Adds values to a sorter one by one. -/
def addAll (path : Value) (s : Sorter) : List Value → Except Problem Sorter
  | [] => .ok s
  | v :: rest => do
    let k ← requiredKey path v
    let s ← s.add v k
    addAll path s rest

/-- The values in order, where the key of the first one decides how. -/
def sortLike (first : Value) (values : List Value) (path : Value) : Except Problem (List Value) := do
  let s ← Sorter.ofFirst (← requiredKey path first)
  let s ← addAll path s values
  return s.sorted

/-- The values sorted by themselves or by an attribute. -/
def sort (values : List Value) (path : Value) : Except Problem (List Value) :=
  match values with
  | [] => .ok []
  | v :: _ => sortLike v values path

/-- The values whose keys are new, where those without the attribute are skipped. -/
def keepNew (path : Value) (d : Distinct) : List Value → Except Problem (List Value)
  | [] => .ok []
  | v :: rest => do
    match ← orderKey path v with
    | .undefined => keepNew path d rest
    | k => do
      let (isNew, d) ← d.insert k
      let kept ← keepNew path d rest
      return if isNew then v :: kept else kept

/-- The values whose keys are new, where the key of the first one decides how they are compared. -/
def distinctLike (first : Value) (values : List Value) (path : Value) (caseSensitive : Bool) :
    Except Problem (List Value) := do
  let d ← Distinct.ofFirst (← requiredKey path first) caseSensitive
  keepNew path d values

/-- The values without those whose key was there before. -/
def distinct (values : List Value) (path : Value) (caseSensitive : Bool) :
    Except Problem (List Value) :=
  match values with
  | [] => .ok []
  | v :: _ => distinctLike v values path caseSensitive

end Value

end Stencil
