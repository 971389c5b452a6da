import Stencil.Pattern.Program

/-! Matching. A program is run at a position of a text by trying, in order, its ways to go on from
    there; each way hands the position that it reaches to a continuation, and the first one that the
    continuation accepts is taken. Beside the position, a run carries registers: the marks that groups
    have set, and the pointer, which is where the latest attempt stood. An attempt that fails leaves
    the pointer behind, and a repetition that never gives a turn back goes on from there. Marks are
    put back after a failed attempt wherever a further turn of a repetition could see them. -/

namespace Stencil.Pattern

/-- What is kept beside the position: the pointer and the marks set so far. -/
structure Registers where
  pointer : Nat
  marks : List (Option Nat)

namespace Registers

/-- Moves the pointer. -/
def moveTo (r : Registers) (p : Nat) : Registers := { r with pointer := p }

/-- Sets a mark; marks before it that were never set stay unset. -/
def mark (r : Registers) (i p : Nat) : Registers :=
  { r with
    marks :=
      if i < r.marks.length then r.marks.set i (some p)
      else r.marks ++ List.replicate (i - r.marks.length) none ++ [some p] }

/-- Puts marks back. Those that were set before are put back only within a repetition; elsewhere the
    ones set since are dropped. -/
def back (r : Registers) (within : Bool) (marks : List (Option Nat)) : Registers :=
  { r with marks := if within then marks else r.marks.take marks.length }

/-- The start and the end of what a group has matched. -/
def span? (r : Registers) (group : Nat) : Option (Nat × Nat) :=
  match r.marks[2 * group - 2]?, r.marks[2 * group - 1]? with
  | some (some p), some (some e) => if e < p then none else some (p, e)
  | _, _ => none

/-- The marks of a group stand in the wrong order. -/
def isTorn (r : Registers) (group : Nat) : Bool :=
  match r.marks[2 * group - 2]?, r.marks[2 * group - 1]? with
  | some (some p), some (some e) => decide (e < p)
  | _, _ => false

end Registers

/-- The outcome of a run, with the registers after it. -/
abbrev Outcome := Bool × Registers

/-- What is left to match after a position. -/
abbrev Next := Nat → Registers → Outcome

/-- Nothing is left to match. -/
def arrive : Next := fun p r => (true, r.moveTo p)

namespace CharClass

def ascii : CharClass → Nat → Bool
  | .digit, n => decide (48 ≤ n) && decide (n ≤ 57)
  | .blank, n => n == 32 || (decide (9 ≤ n) && decide (n ≤ 13))
  | .word, n =>
    n == 95 || (decide (48 ≤ n) && decide (n ≤ 57)) || (decide (65 ≤ n) && decide (n ≤ 90)) ||
      (decide (97 ≤ n) && decide (n ≤ 122))

def unicode : CharClass → Nat → Bool
  | .digit, n => Text.decimalRanges.covers n
  | .blank, n => Text.blankRanges.covers n
  | .word, n => Text.wordRanges.covers n

def has (c : CharClass) (isAscii : Bool) (n : Nat) : Bool :=
  if isAscii then ascii c n else unicode c n

end CharClass

/-- A code point lies between two bounds. -/
def between (lo hi n : Nat) : Bool := decide (lo ≤ n) && decide (n ≤ hi)

/-- A code point, taken as characters are compared, is a member. -/
def Member.has (fold : Fold) (n : Nat) : Member → Bool
  | .range lo hi => between lo hi n
  | .folded lo hi => (fold.variants n).any fun v => (fold.sources v).any (between lo hi)
  | .loose lo hi => between lo hi n || between lo hi (Fold.upper n)
  | .class c negated isAscii => CharClass.has c isAscii n != negated

namespace CharTest

/-- A code point passes the test. -/
def holds (n : Nat) : CharTest → Bool
  | .any => true
  | .notLineFeed => n != 10
  | .char fold negated m => (fold.lower n == m) != negated
  | .set fold negated members => members.any (Member.has fold (fold.lower n)) != negated

/-- The test is seen at once to fail where a branch begins with it. -/
def isPlain : CharTest → Bool
  | .char .exact false _ | .set .exact _ _ => true
  | _ => false

/-- Counting the characters that pass the test moves the pointer. -/
def movesPointer : CharTest → Bool
  | .set .exact _ _ => false
  | .set .. => true
  | _ => false

end CharTest

/-- A text by positions. -/
abbrev Chars := Array Char

namespace Chars

/-- The code point at a position. -/
def code? (text : Chars) (p : Nat) : Option Nat := (text[p]?).map Char.toNat

/-- The character at a position passes a test. -/
def passes (text : Chars) (p : Nat) (test : CharTest) : Bool := (text.code? p).any test.holds

/-- A word begins or ends at a position. -/
def atBoundary (text : Chars) (isAscii : Bool) (p : Nat) : Bool :=
  let isWord (n : Option Nat) := n.any (CharClass.has .word isAscii)
  isWord (if p = 0 then none else text.code? (p - 1)) != isWord (text.code? p)

/-- A position is a place. An empty text has neither boundaries nor places inside. -/
def isAt (text : Chars) (p : Nat) : Place → Bool
  | .start => p == 0
  | .lineStart => p == 0 || text.code? (p - 1) == some 10
  | .finish => p == text.size
  | .lineEnd => p == text.size || text.code? p == some 10
  | .lastLine => p == text.size || (p + 1 == text.size && text.code? p == some 10)
  | .boundary isAscii => text.atBoundary isAscii p
  | .inside isAscii => !text.isEmpty && !text.atBoundary isAscii p

/-- The number of characters from a position on that pass a test, up to a limit; `fuel` bounds the
    number of characters. -/
def count (text : Chars) (test : CharTest) : Nat → Nat → Option Nat → Nat
  | 0, _, _ => 0
  | _, _, some 0 => 0
  | fuel + 1, p, most =>
    if text.passes p test then count text test fuel (p + 1) (most.map (· - 1)) + 1 else 0

/-- The text from one position to another stands at a third one, by how characters are compared: the
    position after it. -/
def repeated? (text : Chars) (fold : Fold) : Nat → Nat → Nat → Option Nat
  | 0, _, p => some p
  | n + 1, start, p =>
    match text.code? start, text.code? p with
    | some a, some b =>
      if fold.lower a = fold.lower b then repeated? text fold n (start + 1) (p + 1) else none
    | _, _ => none

end Chars

/-- Goes on after a span of characters that has `extra` more of them than it needs, giving them back
    one by one. Where a character has to follow, ends without it are passed over. -/
def giveBack (text : Chars) (within : Bool) (marks : List (Option Nat)) (ahead : Option Nat)
    (k : Next) : Nat → Next
  | extra, p, r =>
    let (found, r) :=
      if ahead.all fun n => text.code? p == some n then
        let (found, r) := k p (r.moveTo p)
        if found then (true, r) else (false, r.back within marks)
      else (false, r)
    if found then (true, r)
    else
      match extra with
      | 0 => (false, r)
      | extra + 1 => giveBack text within marks ahead k extra (p - 1) r

/-- Goes on after a span of characters, taking one more each time; at most `more` are taken. -/
def takeOn (text : Chars) (within : Bool) (marks : List (Option Nat)) (test : CharTest) (k : Next) :
    Nat → Next
  | more, p, r =>
    let (found, r) := k p (r.moveTo p)
    if found then (true, r)
    else
      let r := (r.back within marks).moveTo p
      if text.passes p test then
        let r := if test.movesPointer then r.moveTo (p + 1) else r
        match more with
        | 0 => (false, r)
        | more + 1 => takeOn text within marks test k more (p + 1) r
      else (false, r)

/-- A span of single characters and what follows it. -/
def span (text : Chars) (within : Bool) (greed : Greed) (least : Nat) (most : Option Nat)
    (test : CharTest) (ahead : Option Nat) (k : Next) : Next := fun p r =>
  let left := text.size - p
  if left < least then (false, r)
  else
    let r := r.moveTo p
    -- a lazy span begins with the least number, the others with as many as there are
    let limit := if greed = .lazy then some least else most
    let n := text.count test left p limit
    let r := if test.movesPointer then r.moveTo (p + n) else r
    if n < least then (false, r)
    else
      match greed with
      | .greedy => giveBack text within r.marks ahead k (n - least) (p + n) r
      | .lazy =>
        takeOn text within r.marks test k ((most.map (· - least)).getD left) (p + n) r
      | .possessive => k (p + n) r

/-- Takes turns as many as possible. `fuel` bounds the turns, `n` were taken before, and `last` is
    where the latest turn beyond the least number began. -/
def manyTurns (body : Next → Next) (least : Nat) (most : Option Nat) (k : Next) :
    Nat → Nat → Option Nat → Next
  | 0, _, _ => fun _ r => (false, r)
  | fuel + 1, n, last => fun p r =>
    let r := r.moveTo p
    if n < least then
      let (found, r) := body (manyTurns body least most k fuel (n + 1) last) p r
      if found then (true, r) else (false, r.moveTo p)
    else
      let (found, r) :=
        -- a turn that would begin where the latest one did is not taken: it could go on for ever
        if most.all (n < ·) && last != some p then
          let marks := r.marks
          let (found, r) := body (manyTurns body least most k fuel (n + 1) (some p)) p r
          if found then (true, r) else (false, { r with marks, pointer := p })
        else (false, r)
      if found then (true, r)
      else
        let (found, r) := k p r
        if found then (true, r) else (false, r.moveTo p)

/-- Takes turns as few as possible. -/
def fewTurns (within : Bool) (body : Next → Next) (least : Nat) (most : Option Nat) (k : Next) :
    Nat → Nat → Option Nat → Next
  | 0, _, _ => fun _ r => (false, r)
  | fuel + 1, n, last => fun p r =>
    let r := r.moveTo p
    if n < least then
      let (found, r) := body (fewTurns within body least most k fuel (n + 1) last) p r
      if found then (true, r) else (false, r.moveTo p)
    else
      let marks := r.marks
      -- what follows is tried before another turn
      let (found, r) := k p r
      if found then (true, r)
      else
        let r := (r.back within marks).moveTo p
        if most.all (n < ·) && last != some p then
          let (found, r) := body (fewTurns within body least most k fuel (n + 1) (some p)) p r
          if found then (true, r) else (false, r.moveTo p)
        else (false, r)

/-- Takes turns as many as possible and gives none back. The pointer says where the next turn begins,
    and where to go on. -/
def keptTurns (body : Next → Next) (least : Nat) (most : Option Nat) (k : Next) :
    Nat → Nat → Option Nat → Next
  | 0, _, _ => fun _ r => (false, r)
  | fuel + 1, n, last => fun p r =>
    if n < least then
      let (found, r) := body arrive r.pointer r
      if found then keptTurns body least most k fuel (n + 1) last p r else (false, r.moveTo p)
    else if most.all (n < ·) && last != some r.pointer then
      let marks := r.marks
      -- a turn runs to its own end before the next one, so none of its choices stays open
      let start := r.pointer
      let (found, r) := body arrive start r
      if found then keptTurns body least most k fuel (n + 1) (some start) p r
      else k r.pointer { r with marks }
    else k r.pointer r

mutual

/-- Runs a step and what follows it; `within` says that the step belongs to a repetition. -/
def runStep (text : Chars) (within : Bool) : Step → Next → Next
  | .one test, k => fun p r => if text.passes p test then k (p + 1) r else (false, r)
  | .place a, k => fun p r => if text.isAt p a then k p r else (false, r)
  | .mark i, k => fun p r => k p (r.mark i p)
  | .recall fold group, k => fun p r =>
    match (r.span? group).bind fun s => text.repeated? fold (s.2 - s.1) s.1 p with
    | some q => k q r
    | none => (false, r)
  | .branch branches, k => fun p r => runBranches text within r.marks branches k p r
  | .span greed least most test ahead, k => span text within greed least most test ahead k
  | .turns greed least most body, k => fun p r =>
    let fuel := least + text.size + 2
    match greed with
    | .greedy => manyTurns (run text true body) least most k fuel 0 none p (r.moveTo p)
    | .lazy => fewTurns within (run text true body) least most k fuel 0 none p (r.moveTo p)
    | .possessive => keptTurns (run text within body) least most k fuel 0 none p (r.moveTo p)
  | .look back negated body, k => fun p r =>
    -- the text before is too short to hold what is looked for
    if p < back then if negated then k p r else (false, r)
    else
      let marks := r.marks
      let (found, r) := run text within body arrive (p - back) (r.moveTo (p - back))
      match found, negated with
      | true, true | false, false => (false, r)
      | true, false => k p r
      | false, true => k p (r.back within marks)
  | .atomic body, k => fun p r =>
    let (found, r) := run text within body arrive p (r.moveTo p)
    if found then k r.pointer r else (false, r.moveTo p)
  | .ifSet group yes no, k => fun p r =>
    if (r.span? group).isSome then run text within yes k p r else run text within no k p r

/-- Runs a program and what follows it. -/
def run (text : Chars) (within : Bool) : List Step → Next → Next
  | [], k => k
  | s :: rest, k => runStep text within s (run text within rest k)

/-- Runs branches in turn, putting the marks back after each. A branch that begins with a character
    that does not stand there is passed over. -/
def runBranches (text : Chars) (within : Bool) (marks : List (Option Nat)) :
    List (List Step) → Next → Next
  | [], _ => fun _ r => (false, r)
  | b :: bs, k => fun p r =>
    let isOut :=
      match b with
      | .one test :: _ => test.isPlain && !text.passes p test
      | _ => false
    if isOut then runBranches text within marks bs k p r
    else
      let (found, r) := run text within b k p (r.moveTo p)
      if found then (true, r) else runBranches text within marks bs k p (r.back within marks)

end

/-- Tries a program at positions one after the other: the registers after the first match. -/
def findFrom (text : Chars) (program : Program) (start? : Option CharTest) :
    Nat → Nat → Option Registers
  | more, p =>
    let found? :=
      if start?.all (text.passes p) then
        let (found, r) := run text false program arrive p ⟨p, []⟩
        if found then some r else none
      else none
    match found?, more with
    | some r, _ => some r
    | none, 0 => none
    | none, more + 1 => findFrom text program start? more (p + 1)

/-- The registers after the first match of a pattern in a text, if there is one. -/
def find? (pattern : Pattern) (flags : Flags) (text : Chars) : Option Registers :=
  let least := (width pattern).least
  if text.size < least then none
  else
    let program := compile flags none pattern
    match if least = 0 then none else startSet? flags pattern with
    | some test => findFrom text program (some test) (text.size - 1) 0
    | none => findFrom text program none (text.size - (least - 1)) 0

end Stencil.Pattern
