import Stencil.Value

/-! Two notions of equality. *Host equality* takes a boolean for the number 0 or 1 and tells lists
    from tuples. *Template equality* never lets a boolean equal a number, at any depth, and does not
    tell lists from tuples. Both compare numbers by exact value, texts by their characters whether
    marked safe or not, and objects without regard to the order of their entries. -/

namespace Stencil.Value

/-- The number that the host sees in a value: a boolean counts as 0 or 1. -/
def hostNumber? : Value → Option Number
  | .bool b => some (.int (if b then 1 else 0))
  | v => v.number?

/-- Equality of values that are neither lists, tuples nor objects. -/
def atomEquals (a b : Value) : Bool :=
  match a, b with
  | .null, .null => true
  | .undefined, .undefined => true
  | .bytes x, .bytes y => x == y
  | a, b =>
    match a.hostNumber?, b.hostNumber? with
    | some m, some n => m.eq n
    | none, none =>
      match a.text?, b.text? with
      | some s, some t => s == t
      | _, _ => false
    | _, _ => false

mutual

/-- Equality as the host sees it. -/
def hostEquals : Value → Value → Bool
  | .list xs, b => match b with
    | .list ys => hostEqualsAll xs ys
    | _ => false
  | .tuple xs, b => match b with
    | .tuple ys => hostEqualsAll xs ys
    | _ => false
  | .object es, b => match b with
    | .object fs => es.length == fs.length && hostWithin es fs
    | _ => false
  | a, b => atomEquals a b

/-- Equality of lists, item by item. -/
def hostEqualsAll : List Value → List Value → Bool
  | [], [] => true
  | x :: xs, y :: ys => hostEquals x y && hostEqualsAll xs ys
  | _, _ => false

/-- Every entry of the first object has an equal one in the second. -/
def hostWithin : List (Value × Value) → List (Value × Value) → Bool
  | [], _ => true
  | (k, v) :: rest, fs =>
    (fs.any fun f => hostEquals k f.1 && hostEquals v f.2) && hostWithin rest fs

end

mutual

/-- Equality as templates see it. -/
def equals : Value → Value → Bool
  | .bool a, b => match b with
    | .bool b => a == b
    | _ => false
  | .list xs, b => match b.items? with
    | some ys => equalsAll xs ys
    | none => false
  | .tuple xs, b => match b.items? with
    | some ys => equalsAll xs ys
    | none => false
  | .object es, b => match b with
    | .object fs => es.length == fs.length && equalsWithin es fs
    | _ => false
  | a, b => match b with
    | .bool _ => false
    | b => atomEquals a b

/-- Equality of lists, item by item. -/
def equalsAll : List Value → List Value → Bool
  | [], [] => true
  | x :: xs, y :: ys => equals x y && equalsAll xs ys
  | _, _ => false

/-- Every entry of the first object has one in the second whose key the host takes for the same
    and whose value is equal. -/
def equalsWithin : List (Value × Value) → List (Value × Value) → Bool
  | [], _ => true
  | (k, v) :: rest, fs =>
    (fs.any fun f => hostEquals k f.1 && equals v f.2) && equalsWithin rest fs

end

/-- Whether a value can be the key of an object: lists and objects cannot, nor tuples with one
    inside. -/
def isKey : Value → Bool
  | .list _ | .object _ => false
  | .tuple xs => areKeys xs
  | _ => true
where
  /-- All values of a list can be keys. -/
  areKeys : List Value → Bool
    | [] => true
    | x :: xs => isKey x && areKeys xs

/-- The entries with a key bound to a value: a key that is there keeps its place and its spelling,
    a new one goes to the end. -/
def bind (entries : List (Value × Value)) (key value : Value) : List (Value × Value) :=
  match entries with
  | [] => [(key, value)]
  | (k, v) :: rest => if hostEquals k key then (k, value) :: rest else (k, v) :: bind rest key value

end Stencil.Value
