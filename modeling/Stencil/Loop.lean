import Stencil.Fault

/-! The state of a loop: the pairs of keys and values it runs over, of which the current one is
    bound to the loop's names, and a request to leave the loop or to go on with the next pair. The
    pairs are known from the start, so that the loop can tell its length and its last pair. -/

namespace Stencil

/-- A request that waits until the current body is left. -/
inductive Signal where
  | none | leave | next
  deriving DecidableEq, Repr

namespace Signal

def name : Signal → String
  | .none => "none"
  | .leave => "break"
  | .next => "continue"

end Signal

/-- A loop over pairs; the key of an item of an array is null. -/
structure Loop where
  valueName : String
  keyName : Option String := none
  items : Array (Value × Value)
  index : Nat := 0
  signal : Signal := .none

namespace Loop

def length (l : Loop) : Nat := l.items.size

def isFirst (l : Loop) : Bool := l.index == 0

def isLast (l : Loop) : Bool := l.index + 1 == l.length

/-- The current pair. -/
def current (l : Loop) : Value × Value := l.items[l.index]?.getD (.undefined, .undefined)

/-- What a template sees of the loop, by name. -/
def counters (l : Loop) : List (String × Value) :=
  [("index", .int (l.index + 1)),
   ("index0", .int l.index),
   ("first", .bool l.isFirst),
   ("last", .bool l.isLast),
   ("length", .int l.length),
   ("revindex", .int (l.length - l.index : Int)),
   ("revindex0", .int (l.length - l.index - 1 : Int))]

/-- What a template sees of the loop. -/
def metadata (l : Loop) : Value := .ofFields l.counters

/-- The binding of a name by the loop: the value, the key, or the loop itself. -/
def binding? (l : Loop) (name : String) : Option Value :=
  if name = l.valueName then some l.current.2
  else if some name = l.keyName then some l.current.1
  else if name = "loop" then some l.metadata
  else none

/-- The names that the loop binds. -/
def names (l : Loop) : List String :=
  [l.valueName, "loop"] ++ (l.keyName.filter fun k => !k.isEmpty).toList

/-- The loop at its next pair, if there is one. -/
def advance? (l : Loop) : Option Loop :=
  if l.index + 1 < l.length then some { l with index := l.index + 1 } else none

def request (l : Loop) (signal : Signal) : Loop := { l with signal }

/-- A request waits. -/
def isInterrupted (l : Loop) : Bool := l.signal != .none

/-- The text that shows a loop. -/
def inspect (l : Loop) : String := s!"<ForLoop {l.index + 1}/{l.length}>"

/-- What a host can ask of a loop that is at a pair. -/
def fields (l : Loop) : Except Failure (List (String × Value)) :=
  if l.items.isEmpty then .error .badIndex
  else .ok (l.counters ++
    [("key", l.current.1),
     ("value", l.current.2),
     ("signal", .text l.signal.name),
     ("interrupted", .bool l.isInterrupted),
     ("repr", .text l.inspect)])

end Loop

end Stencil
