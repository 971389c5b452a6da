import Stencil.Fault
import Stencil.Number.Numeral
import Stencil.Pattern
import Stencil.Text.CharName
import Stencil.Text.Identifier

/-! Reading of patterns. The text is cut into characters and escapes; alternatives, sequences and
    groups are read by descent, whose depth the number of tokens bounds. A group may be referred to
    once it is closed, and inside an assertion about what lies behind only if it was closed before.
    A text that is no pattern is malformed; counts of repetitions that are too large and flags that
    contradict each other fail in their own way. -/

namespace Stencil.Pattern

/-- Why a text is refused. -/
inductive Refusal where
  | malformed
  | failed (f : Failure)

/-- A character, an escaped one, or a lone backslash at the end. -/
inductive Token where
  | char (c : Char)
  | escape (c : Char)
  | dangling
  deriving DecidableEq, Repr

def tokens : List Char → List Token
  | [] => []
  | ['\\'] => [.dangling]
  | '\\' :: c :: rest => .escape c :: tokens rest
  | c :: rest => .char c :: tokens rest

/-- What is known of the groups and the global flags while a pattern is read. `widths` has an entry
    for each group that is open (`none`) or closed, the latest first; `limit` is the number of groups
    before the outermost assertion about what lies behind; `wanted` is the largest group number that
    a condition asks for. -/
structure Scan where
  rest : List Token
  flags : Flags := []
  widths : List (Option Width) := []
  names : List (String × Nat) := []
  limit : Option Nat := none
  wanted : Nat := 0

/-- A step of reading. -/
abbrev Reader := StateT Scan (Except Refusal)

namespace Reader

def malformed : Reader α := throw .malformed

/-- The next token, which stays. -/
def peek : Reader (Option Token) := do return (← get).rest.head?

/-- Goes on with the tokens that are left. A lone backslash is refused as soon as it comes next. -/
def proceed (rest : List Token) : Reader Unit := do
  if rest.head? == some .dangling then malformed
  modify fun s => { s with rest }

/-- Takes the next token. -/
def next : Reader (Option Token) := do
  match (← get).rest with
  | [] => return none
  | t :: rest => proceed rest; return some t

/-- Takes the next token if it is the given character. -/
def accept (c : Char) : Reader Bool := do
  if (← peek) == some (.char c) then
    let _ ← next
    return true
  return false

/-- Takes the next token, which has to be the given character. -/
def expect (c : Char) : Reader Unit := do
  if !(← accept c) then malformed

/-- Takes up to a number of characters that satisfy a test. -/
def takeWhile (p : Char → Bool) : Nat → Reader (List Char)
  | 0 => return []
  | n + 1 => do
    match ← peek with
    | some (.char c) =>
      if p c then
        let _ ← next
        return c :: (← takeWhile p n)
      else return []
    | _ => return []

/-- Takes any number of ASCII digits. -/
def digits : Reader (List Char) := do
  takeWhile Char.isDigit (← get).rest.length

/-- The characters of a token. -/
def spelling : Token → List Char
  | .char c => [c]
  | .escape c => ['\\', c]
  | .dangling => ['\\']

/-- Takes a name that ends with the given character, which is taken too. -/
def name (ending : Char) : Reader String := do
  let rest := (← get).rest
  let taken := rest.takeWhile (· != .char ending)
  match rest.drop taken.length with
  | [] => malformed
  | _ :: rest =>
    if taken.isEmpty then malformed
    proceed rest
    return String.ofList (taken.flatMap spelling)

/-- The number of groups opened so far and the whole pattern. -/
def groupCount : Reader Nat := do return (← get).widths.length + 1

/-- The width of a group, if it is closed. -/
def closed? (n : Nat) : Reader (Option Width) := do
  let s ← get
  if n = 0 || s.widths.length < n then return none
  return (s.widths[s.widths.length - n]?).join

/-- Inside an assertion about what lies behind, only a group closed before it can be referred to. -/
def checkBehind (n : Nat) : Reader Unit := do
  match (← get).limit with
  | none => return
  | some limit => if (← closed? n).isNone || limit ≤ n then malformed

/-- A reference to what a group has matched. -/
def reference (n : Nat) : Reader Part := do
  match ← closed? n with
  | none => malformed
  | some width => do
    checkBehind n
    return .recall n width

/-- Opens a group. -/
def openGroup (name : Option String) : Reader Nat := do
  let s ← get
  let n := s.widths.length + 1
  match name with
  | none => set { s with widths := none :: s.widths }
  | some m =>
    if (s.names.lookup m).isSome then malformed
    set { s with widths := none :: s.widths, names := (m, n) :: s.names }
  return n

/-- Closes a group. -/
def closeGroup (n : Nat) (p : Pattern) : Reader Unit :=
  modify fun s => { s with widths := s.widths.set (s.widths.length - n) (some p.width) }

end Reader

open Reader

/-- The code point that control escapes stand for. -/
def control? : Char → Option Nat
  | 'a' => some 7
  | 'b' => some 8
  | 'f' => some 12
  | 'n' => some 10
  | 'r' => some 13
  | 't' => some 9
  | 'v' => some 11
  | '\\' => some 92
  | _ => none

/-- The class of characters that an escape stands for, and whether it is negated. -/
def class? : Char → Option (CharClass × Bool)
  | 'd' => some (.digit, false)
  | 'D' => some (.digit, true)
  | 's' => some (.blank, false)
  | 'S' => some (.blank, true)
  | 'w' => some (.word, false)
  | 'W' => some (.word, true)
  | _ => none

def isHex (c : Char) : Bool := c.isDigit || ('a' ≤ c && c ≤ 'f') || ('A' ≤ c && c ≤ 'F')

def isOctal (c : Char) : Bool := '0' ≤ c && c ≤ '7'

/-- The number that digits write. -/
def number (base : Nat) (cs : List Char) : Nat :=
  Numeral.ofDigits base (cs.filterMap Numeral.digitValue?)

/-- A code point given by exactly so many digits. -/
def hexCode (count : Nat) : Reader Nat := do
  let cs ← takeWhile isHex count
  let n := number 16 cs
  if cs.length != count || 0x10FFFF < n then malformed
  return n

/-- The largest code point that is written in octal. -/
def maxOctal : Nat := 0o377

/-- The code point of a character given by its name between braces. -/
def namedCode : Reader Nat := do
  expect '\x7b'
  match Text.ofCharName? (← name '\x7d') with
  | some n => return n
  | none => malformed

/-- The code point of an escape that means the same everywhere. -/
def plainEscape (c : Char) : Reader Nat := do
  match c with
  | 'N' => namedCode
  | 'x' => hexCode 2
  | 'u' => hexCode 4
  | 'U' => hexCode 8
  | _ => if c.isAlpha || c.isDigit then malformed else return c.toNat

/-- An escape inside a set. -/
def setEscape (c : Char) : Reader SetItem := do
  match control? c, class? c with
  | some n, _ => return .char n
  | none, some (k, negated) => return .class k negated
  | none, none =>
    if isOctal c then
      let n := number 8 (c :: (← takeWhile isOctal 2))
      if maxOctal < n then malformed
      return .char n
    return .char (← plainEscape c)

/-- An escape that begins with a digit other than zero: three octal digits, or the number of a
    group. -/
def digitEscape (c : Char) : Reader Part := do
  let second ← takeWhile Char.isDigit 1
  let third ← if isOctal c && second.any isOctal then takeWhile isOctal 1 else pure []
  let ds := c :: second
  if third.isEmpty then
    let n := number 10 ds
    if (← groupCount) ≤ n then malformed
    reference n
  else
    let n := number 8 (ds ++ third)
    if maxOctal < n then malformed
    return .char false n

/-- An escape outside of sets. -/
def escape (c : Char) : Reader Part := do
  match c, class? c with
  | 'A', _ => return .anchor .start
  | 'Z', _ => return .anchor .finish
  | 'b', _ => return .anchor .boundary
  | 'B', _ => return .anchor .inside
  | _, some (k, negated) => return .set false [.class k negated]
  | _, none =>
    match control? c with
    | some n => return .char false n
    | none =>
      if c = '0' then return .char false (number 8 (← takeWhile isOctal 2))
      if c.isDigit then digitEscape c else return .char false (← plainEscape c)

/-- A member of a set that begins with a token. -/
def setMember : Token → Reader SetItem
  | .char c => return .char c.toNat
  | .escape c => setEscape c
  | .dangling => malformed

/-- The range between two members, which have to be single characters in order. -/
def rangeOf : SetItem → SetItem → Reader SetItem
  | .char lo, .char hi => if hi < lo then malformed else return .range lo hi
  | _, _ => malformed

/-- The members of a set up to its closing bracket, which is a member if it comes first. -/
def setMembers : Nat → List SetItem → Reader (List SetItem)
  | 0, _ => malformed
  | fuel + 1, known => do
    match ← next with
    | none => malformed
    | some t =>
      if t = .char ']' && !known.isEmpty then return known
      let item ← setMember t
      if !(← accept '-') then setMembers fuel (known ++ [item])
      else
        match ← next with
        | none => malformed
        -- a dash before the closing bracket is a member
        | some (.char ']') => return known ++ [item, .char '-'.toNat]
        | some u => do
          let range ← rangeOf item (← setMember u)
          setMembers fuel (known ++ [range])

/-- A set after its opening bracket. A set of one character is that character. -/
def readSet : Reader Part := do
  let negated ← accept '^'
  let items := (← setMembers ((← get).rest.length + 1) []).eraseDups
  match items with
  | [.char n] => return .char negated n
  | _ => return .set negated items

/-- A count of turns, which fails if it has too many digits or is too large. -/
def turnCount (cs : List Char) : Reader Nat := do
  if Numeral.maxDigits < cs.length then throw (.failed .badValue)
  let n := number 10 cs
  if Width.unbounded ≤ n then throw (.failed .overflow)
  return n

/-- The bounds of a repetition after its opening brace. If no bounds stand there, nothing is
    taken and the brace stands for itself. -/
def bounds : Reader (Option (Nat × Option Nat)) := do
  let start ← get
  if (← peek) == some (.char '\x7d') then return none
  let lo ← digits
  let comma ← accept ','
  let hi ← if comma then digits else pure lo
  if !(← accept '\x7d') then
    -- what looked like bounds is text, to be read again
    set start
    return none
  let least ← if lo.isEmpty then pure 0 else turnCount lo
  if hi.isEmpty then return some (least, none)
  let most ← turnCount hi
  if most < least then malformed
  return some (least, some most)

/-- The bounds of the repetition that a character asks for, `none` if it stands for itself. -/
def repetition? (c : Char) : Reader (Option (Nat × Option Nat)) := do
  match c with
  | '?' => return some (0, some 1)
  | '*' => return some (0, none)
  | '+' => return some (1, none)
  | '\x7b' => bounds
  | _ => return none

/-- How a repetition takes its turns, from what follows it. -/
def greed : Reader Greed := do
  if ← accept '?' then return .lazy
  if ← accept '+' then return .possessive
  return .greedy

/-- Repeats the latest part, which is neither an anchor nor a repetition. -/
def repeatLast (bounds : Nat × Option Nat) : Pattern → Reader Pattern
  | [] | .anchor _ :: _ | .many .. :: _ => malformed
  | p :: before => do
    return .many (← greed) bounds.1 bounds.2 (p.plainGroup?.getD [p]) :: before

/-- The letters of the flags that there are. -/
def isFlag (c : Char) : Bool := "iLmsxatu".toList.contains c

/-- A letter of a flag, which has to be one that patterns of text can have. -/
def flagLetter (added : List Char) (c : Char) : Reader (List Char) := do
  if !isFlag c || c = 'L' then malformed
  if (c = 'a' && added.contains 'u') || (c = 'u' && added.contains 'a') then malformed
  return c :: added

/-- Letters of flags up to one of the given endings, which is returned too. -/
def flagLetters (endings : List Char) (check : List Char → Char → Reader (List Char)) :
    Nat → List Char → Reader (List Char × Char)
  | 0, _ => malformed
  | fuel + 1, known => do
    match ← next with
    | some (.char c) =>
      if endings.contains c then return (known, c)
      flagLetters endings check fuel (← check known c)
    | _ => malformed

/-- A letter of a flag that is taken away; the classes stay as they are. -/
def removedLetter (removed : List Char) (c : Char) : Reader (List Char) := do
  if !isFlag c || "Lau".toList.contains c then malformed
  return c :: removed

/-- The flags that the letters after a question mark change, and whether they do so for the whole
    pattern. -/
def flagChange (c : Char) : Reader (Bool × List Char × List Char) := do
  let fuel := (← get).rest.length + 1
  let (added, ending) ←
    if c = '-' then pure ([], '-')
    else flagLetters [')', '-', ':'] flagLetter fuel (← flagLetter [] c)
  -- flags in brackets of their own are those of the whole pattern
  if ending = ')' then return (true, added, [])
  let removed ← if ending = '-' then
      match ← next with
      | some (.char d) => do
        let (removed, _) ← flagLetters [':'] removedLetter fuel (← removedLetter [] d)
        pure removed
      | _ => malformed
    else pure []
  if added.contains 't' || removed.contains 't' || added.any removed.contains then malformed
  return (false, added, removed)

/-- Takes tokens up to a character, which is taken too, and says whether it is there. -/
def skipTo (c : Char) : Nat → Reader Bool
  | 0 => return false
  | fuel + 1 => do
    match ← next with
    | none => return false
    | some t => if t = .char c then return true else skipTo c fuel

/-- The largest number of a group that a condition may ask for. -/
def maxGroups : Nat := 1073741823

/-- The group that a condition asks for, by its name or its number. -/
def conditionGroup : Reader Nat := do
  let given ← name ')'
  if Text.isIdentifier given then
    match (← get).names.lookup given with
    | some n => return n
    | none => malformed
  match Numeral.readInt? 10 given with
  | some n =>
    if n ≤ 0 || (maxGroups : Int) ≤ n then malformed
    modify fun s => { s with wanted := max s.wanted n.toNat }
    return n.toNat
  | none => malformed

/-- The name of a group up to its ending. -/
def groupName (ending : Char) : Reader String := do
  let given ← name ending
  if Text.isIdentifier given then return given else malformed

/-- A reference to a group by its name. -/
def namedReference : Reader Part := do
  match (← get).names.lookup (← groupName ')') with
  | some n => reference n
  | none => malformed

/-- Blanks between the parts of a pattern that allows them. -/
def isPadding (c : Char) : Bool := c == ' ' || ('\t' ≤ c && c ≤ '\x0d')

/-- The part that a character stands for by itself. -/
def single : Char → Part
  | '.' => .any
  | '^' => .anchor .first
  | '$' => .anchor .last
  | c => .char false c.toNat

/-- The pattern of parts that are given latest first. -/
def inOrder (parts : Pattern) : Pattern := flat parts.reverse

mutual

/-- Alternatives up to a closing bracket or the end. -/
def alternatives : Nat → Bool → Bool → Reader Pattern
  | 0, _, _ => malformed
  | fuel + 1, verbose, top => do
    let p ← sequence fuel verbose top []
    if ← accept '|' then
      let whole := (← get).flags
      return ofBranches (p :: (← moreAlternatives fuel (if top then whole.isVerbose else verbose)))
    return p

/-- Alternatives after the first one. -/
def moreAlternatives : Nat → Bool → Reader (List Pattern)
  | 0, _ => malformed
  | fuel + 1, verbose => do
    let p ← sequence fuel verbose false []
    if ← accept '|' then return p :: (← moreAlternatives fuel verbose)
    return [p]

/-- A sequence, the parts so far given latest first; `first` says that flags of the whole pattern may
    still be set at its start. -/
def sequence : Nat → Bool → Bool → Pattern → Reader Pattern
  | 0, _, _, _ => malformed
  | fuel + 1, verbose, first, parts => do
    match ← peek with
    | none => return inOrder parts
    | some (.char '|') => return inOrder parts
    | some (.char ')') => return inOrder parts
    | some _ =>
      match ← next with
      | some (.escape c) => sequence fuel verbose first ((← escape c) :: parts)
      | some (.char c) =>
        -- a verbose pattern may have blanks and comments in it
        if verbose && isPadding c then sequence fuel verbose first parts
        else if verbose && c == '#' then
          let _ ← skipTo '\n' ((← get).rest.length + 1)
          sequence fuel verbose first parts
        else if c = '[' then sequence fuel verbose first ((← readSet) :: parts)
        else if c = '(' then
          let (verbose, parts) ← bracket fuel verbose (first && parts.isEmpty) parts
          sequence fuel verbose first parts
        else
          match ← repetition? c with
          | some b => sequence fuel verbose first (← repeatLast b parts)
          | none => sequence fuel verbose first (single c :: parts)
      | _ => malformed

/-- What an opening bracket begins: a group, an assertion, a comment or flags. -/
def bracket : Nat → Bool → Bool → Pattern → Reader (Bool × Pattern)
  | 0, _, _, _ => malformed
  | fuel + 1, verbose, atStart, parts => do
    if !(← accept '?') then
      return (verbose, (← capture fuel verbose none) :: parts)
    match ← next with
    | some (.char 'P') =>
      if ← accept '<' then
        let given ← groupName '>'
        return (verbose, (← capture fuel verbose (some given)) :: parts)
      else if ← accept '=' then return (verbose, (← namedReference) :: parts)
      else malformed
    | some (.char ':') => return (verbose, .group none [] [] (← enclosed fuel verbose) :: parts)
    | some (.char '>') => return (verbose, .atomic (← enclosed fuel verbose) :: parts)
    | some (.char '=') => return (verbose, .look false false (← enclosed fuel verbose) :: parts)
    | some (.char '!') => return (verbose, .look false true (← enclosed fuel verbose) :: parts)
    | some (.char '<') =>
      let negated ← if ← accept '!' then pure true else do expect '='; pure false
      let outer := (← get).limit
      let here ← groupCount
      -- assertions inside of this one keep to the outermost limit
      modify fun s => { s with limit := s.limit.or (some here) }
      let p ← enclosed fuel verbose
      modify fun s => { s with limit := outer }
      return (verbose, .look true negated p :: parts)
    | some (.char '#') =>
      if ← skipTo ')' ((← get).rest.length + 1) then return (verbose, parts) else malformed
    | some (.char '(') =>
      let n ← conditionGroup
      checkBehind n
      let yes ← sequence fuel verbose false []
      let no ← if ← accept '|' then sequence fuel verbose false [] else pure []
      expect ')'
      return (verbose, .ifSet n yes no :: parts)
    | some (.char c) =>
      let (whole, added, removed) ← flagChange c
      if whole then
        if !atStart then malformed
        modify fun s => { s with flags := s.flags ++ added }
        return ((← get).flags.isVerbose, parts)
      let within := (verbose || Flags.isVerbose added) && !Flags.isVerbose removed
      return (verbose, .group none added removed (← enclosed fuel within) :: parts)
    | _ => malformed

/-- Alternatives and the bracket that closes them. -/
def enclosed : Nat → Bool → Reader Pattern
  | 0, _ => malformed
  | fuel + 1, verbose => do
    let p ← alternatives fuel verbose false
    expect ')'
    return p

/-- A group that remembers what it matches. -/
def capture : Nat → Bool → Option String → Reader Part
  | 0, _, _ => malformed
  | fuel + 1, verbose, name => do
    let n ← openGroup name
    let p ← enclosed fuel verbose
    closeGroup n p
    return .group (some n) [] [] p

end

/-- A pattern with the flags of the whole and the number of its groups. -/
structure Parsed where
  pattern : Pattern
  flags : Flags
  groups : Nat

/-- The pattern that a text writes. -/
def parse (s : String) : Except Refusal Parsed := do
  let ts := tokens s.toList
  if ts = [.dangling] then throw .malformed
  let (p, scan) ← (alternatives (4 * ts.length + 4) false true).run { rest := ts }
  if scan.flags.contains 'a' && scan.flags.contains 'u' then throw (.failed .badValue)
  if !scan.rest.isEmpty || scan.widths.length < scan.wanted then throw .malformed
  if (scan.flags.contains 't' && !repeatsNothing p) || !isDefinite p then throw .malformed
  if !staysNear p then throw (.failed .badProgram)
  return ⟨p, scan.flags, scan.widths.length⟩

end Stencil.Pattern
