import Stencil.Fault

/-! JSON texts of values, either compact or with one item a line and two spaces a level. Characters
    outside ASCII stand for themselves. Keys that are null, booleans or numbers are written as
    texts; other keys, the undefined marker and raw bytes have no JSON text. -/

namespace Stencil.Value

open Stencil.Text

/-- A character inside a JSON text. -/
def jsonChar (c : Char) : List Char :=
  if c = '"' ∨ c = '\\' then ['\\', c]
  else if c = '\n' then ['\\', 'n']
  else if c = '\r' then ['\\', 'r']
  else if c = '\t' then ['\\', 't']
  else if c = '\x08' then ['\\', 'b']
  else if c = '\x0c' then ['\\', 'f']
  else if c < ' ' then '\\' :: 'u' :: hex 4 c.toNat
  else [c]

def jsonText (s : String) : String :=
  String.ofList ('"' :: (s.toList.flatMap jsonChar ++ ['"']))

/-- Doubles as JSON texts, the special ones by name. -/
def jsonFloat : Binary64 → String
  | .nan => "NaN"
  | .infinity s => if s then "-Infinity" else "Infinity"
  | x => x.toText

/-- An integer as a JSON text, unless it has too many digits. -/
def jsonInt (n : Int) : Except Fault String :=
  if (Value.int n).isWritable then .ok (toString n) else .error (.failure .badValue)

/-- The text of a key. -/
def jsonKey : Value → Except Fault String
  | .text s | .markup s => .ok (jsonText s)
  | .null => .ok (jsonText "null")
  | .bool b => .ok (jsonText (if b then "true" else "false"))
  | .int n => do return jsonText (← jsonInt n)
  | .float x => .ok (jsonText (jsonFloat x))
  | _ => .error (.failure .wrongType)

/-- The line break before an item at a level, nothing in compact form. -/
def jsonBreak (pretty : Bool) (level : Nat) : String :=
  if pretty then "\n" ++ String.ofList (List.replicate (2 * level) ' ') else ""

/-- Items of a container between its brackets. -/
def jsonEnclose (pretty : Bool) (level : Nat) (opening closing : String) (items : List String) :
    String :=
  if items.isEmpty then opening ++ closing
  else
    let open' := jsonBreak pretty (level + 1)
    opening ++ open' ++ joinTexts ("," ++ open') items ++ jsonBreak pretty level ++ closing

mutual

/-- The JSON text of a value at a level of nesting. -/
def json (pretty : Bool) (level : Nat) : Value → Except Fault String
  | .null => .ok "null"
  | .bool b => .ok (if b then "true" else "false")
  | .int n => jsonInt n
  | .float x => .ok (jsonFloat x)
  | .text s => .ok (jsonText s)
  | .markup s => .ok (jsonText s)
  | .list xs => do return jsonEnclose pretty level "[" "]" (← jsonAll pretty (level + 1) xs)
  | .tuple xs => do return jsonEnclose pretty level "[" "]" (← jsonAll pretty (level + 1) xs)
  | .object es => do
    return jsonEnclose pretty level "\x7b" "\x7d" (← jsonEntries pretty (level + 1) es)
  | .undefined => .error (.failure .wrongType)
  | .bytes _ => .error (.failure .wrongType)

/-- The JSON texts of the values of a list. -/
def jsonAll (pretty : Bool) (level : Nat) : List Value → Except Fault (List String)
  | [] => .ok []
  | x :: xs => do
    let s ← json pretty level x
    let rest ← jsonAll pretty level xs
    return s :: rest

/-- The JSON texts of the entries of an object. -/
def jsonEntries (pretty : Bool) (level : Nat) : List (Value × Value) → Except Fault (List String)
  | [] => .ok []
  | (k, v) :: rest => do
    let key ← jsonKey k
    let s ← json pretty level v
    let more ← jsonEntries pretty level rest
    return (key ++ (if pretty then ": " else ":") ++ s) :: more

end

end Stencil.Value
