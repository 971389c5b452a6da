/-! Terminal colours. Parts of a message are styled by their role; a styled text is wrapped in escape
    sequences, and `strip` takes escape sequences out again. Whether anything is coloured at all is
    decided once, from the environment and the stream. -/

namespace Stencil.Text

/-- The escape sequence of a colour or attribute. -/
def colorCode? : String → Option String
  | "reset" => some "\x1b[0m"
  | "bold" => some "\x1b[1m"
  | "dim" => some "\x1b[2m"
  | "cyan" => some "\x1b[36m"
  | "green" => some "\x1b[32m"
  | "yellow" => some "\x1b[33m"
  | "bright_red" => some "\x1b[91m"
  | "bright_green" => some "\x1b[92m"
  | _ => none

/-- The colours of a role. -/
def roleColors : String → List String
  | "error_code" => ["bright_red", "bold"]
  | "location" => ["cyan"]
  | "hint" => ["green"]
  | "suggestion" => ["bright_green", "bold"]
  | "dim" => ["dim"]
  | _ => []

/-- The text between the codes of the colours and a reset, as it is if no colour is known. -/
def colorize (on : Bool) (s : String) (colors : List String) : String :=
  let codes := String.join (colors.filterMap colorCode?)
  if on && !codes.isEmpty then codes ++ s ++ "\x1b[0m" else s

/-- The text in the colours of a role. -/
def styled (on : Bool) (role s : String) : String := colorize on s (roleColors role)

/-- A character between two others. -/
def within (lo hi c : Char) : Bool := lo ≤ c && c ≤ hi

/-- The length of the escape sequence that follows an escape character and a bracket, 0 if there
    is none: parameters, then intermediate characters, then one final character. -/
def sequenceTail (cs : List Char) : Nat :=
  let parameters := cs.takeWhile (within '0' '?')
  let rest := cs.drop parameters.length
  let between := rest.takeWhile (within ' ' '/')
  match rest.drop between.length with
  | [] => 0
  | c :: _ => if within '@' '~' c then parameters.length + between.length + 1 else 0

/-- The length of the escape sequence that a text begins with, 0 if it begins with none. -/
def escapeLength : List Char → Nat
  | '\x1b' :: c :: rest =>
    if within '@' 'Z' c || within '\\' '_' c then 2
    else if c = '[' then
      match sequenceTail rest with
      | 0 => 0
      | n + 1 => n + 3
    else 0
  | _ => 0

/-- Drops the escape sequences of a text of which `skip` characters belong to one already begun. -/
def dropEscapes (skip : Nat) : List Char → List Char
  | [] => []
  | c :: rest =>
    match skip with
    | skip + 1 => dropEscapes skip rest
    | 0 =>
      match escapeLength (c :: rest) with
      | 0 => c :: dropEscapes 0 rest
      | n + 1 => dropEscapes n rest

/-- The text without escape sequences. -/
def stripColors (s : String) : String := String.ofList (dropEscapes 0 s.toList)

/-- Colours are on if they are forced, off if they are refused, and otherwise follow the stream,
    which may not say whether it is a terminal. A setting counts when it is not empty. -/
def useColors (force refuse : Option String) (terminal : Option Bool) : Bool :=
  if !(force.getD "").isEmpty then true
  else if !(refuse.getD "").isEmpty then false
  else terminal.getD false

end Stencil.Text
