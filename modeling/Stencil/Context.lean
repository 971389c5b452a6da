import Stencil.Value.Display
import Stencil.Value.Equality
import Stencil.Value.Path

/-! The data of a render: one object of template values. Host data is normalised when it is bound, so
    that whatever a template finds here is a template value; data that has no template value is
    refused and leaves the context as it was. -/

namespace Stencil

/-- The root object of a render. -/
structure Context where
  entries : List (Value × Value) := []
  deriving Inhabited

namespace Context

/-- The root object. -/
def root (c : Context) : Value := .object c.entries

/-- Binds a top-level name. -/
def insert (c : Context) (key value : Value) : Except Fault Context :=
  match key.text? with
  | none => .error (.misuse (.contextKey key))
  | some _ => do
    let v ← value.normalize
    return ⟨Value.bind c.entries key v⟩

/-- Binds names one by one. -/
def insertAll (c : Context) : List (Value × Value) → Except Fault Context
  | [] => .ok c
  | (k, v) :: rest => do
    let c ← c.insert k v
    c.insertAll rest

/-- The context of host data: an object, or anything that does not count as set for no data. -/
def ofData (data : Value) : Except Fault Context :=
  if !data.isSet then .ok {}
  else match data with
    | .object es => insertAll {} es
    | _ => .error (.failure .missingAttribute)

/-- Takes over the bindings of another context, which win. -/
def extend (c other : Context) : Context :=
  ⟨other.entries.foldl (fun es e => Value.bind es e.1 e.2) c.entries⟩

/-- The value at a path. -/
def get (c : Context) (path : String) : Except Failure Value := c.root.resolve path

/-- The value of a top-level name. -/
def lookup (c : Context) (name : String) : Value := Value.field c.entries name

/-- A path leads to a value. -/
def contains (c : Context) (path : String) : Except Failure Bool := do
  return !(← c.get path).isUndefined

/-- Membership of any value: only texts are paths. -/
def has (c : Context) (path : Value) : Except Failure Bool :=
  match path.text? with
  | some p => c.contains p
  | none => .ok false

/-- Removes a top-level name and gives the value it had. A value that cannot be a key is refused only
    where there is something to look through. -/
def remove (c : Context) (key : Value) : Except Failure (Value × Context) :=
  if c.entries.isEmpty then .ok (.undefined, c)
  else if !key.isKey then .error .wrongType
  else match c.entries.find? fun e => e.1.hostEquals key with
    | none => .ok (.undefined, c)
    | some e => .ok (e.2, ⟨c.entries.filter fun e => !e.1.hostEquals key⟩)

/-- The top-level names in their order. -/
def names (c : Context) : List String := c.entries.filterMap fun e => e.1.text?

/-- The text that shows a context. -/
def inspect (c : Context) : String := "Context(" ++ c.root.inspect ++ ")"

end Context

end Stencil
