import Stencil.Text.Case
import Stencil.Text.Blank
import Stencil.Text.Digit
import Stencil.Text.Word

/-! Patterns that texts are searched for. A pattern is a list of parts that are matched one after
    the other: characters, sets of characters, anchors, choices, repetitions, groups that remember
    what they matched, and assertions about what lies around. Flags change what parts mean; they
    are set for the whole pattern or for a group. -/

namespace Stencil

/-- The letters of the flags in effect: `i` ignores case, `m` lets anchors see lines, `s` lets the
    dot match line feeds, `x` allows blanks and comments, `a` and `u` choose the classes, `t` rules
    out repetitions. -/
abbrev Flags := List Char

namespace Flags

def ignoresCase (f : Flags) : Bool := f.contains 'i'

/-- Classes of characters hold ASCII characters alone. -/
def isAscii (f : Flags) : Bool := f.contains 'a'

def seesLines (f : Flags) : Bool := f.contains 'm'

def dotMatchesAll (f : Flags) : Bool := f.contains 's'

def isVerbose (f : Flags) : Bool := f.contains 'x'

/-- Adds and takes away letters; a choice of classes replaces the one before. -/
def change (f added removed : Flags) : Flags :=
  let kept :=
    if added.contains 'a' || added.contains 'u' then f.filter fun c => c != 'a' && c != 'u' else f
  (kept ++ added).filter fun c => !removed.contains c

end Flags

/-- Classes of characters. -/
inductive CharClass where
  | digit | blank | word
  deriving DecidableEq, Repr

/-- A member of a set of characters, given by code points. -/
inductive SetItem where
  | char (n : Nat)
  | range (lo hi : Nat)
  | class (c : CharClass) (negated : Bool)
  deriving DecidableEq, Repr

/-- A place between characters: the start of the text or of a line, its end, the very start and the
    very end of the text, a boundary of words and a place that is none. -/
inductive Anchor where
  | first | last | start | finish | boundary | inside
  deriving DecidableEq, Repr

/-- How a repetition takes its turns: as many as possible, as few as possible, or as many as
    possible without ever giving one back. -/
inductive Greed where
  | greedy | lazy | possessive
  deriving DecidableEq, Repr

/-- The least and the greatest number of characters that a pattern matches. -/
structure Width where
  least : Nat
  most : Nat
  deriving DecidableEq, Repr, Inhabited

namespace Width

/-- The number that stands for no bound; counts stay below it. -/
def unbounded : Nat := 4294967295

def none : Width := ⟨0, 0⟩

def single : Width := ⟨1, 1⟩

/-- The width of one part after the other. -/
def add (v w : Width) : Width := ⟨v.least + w.least, v.most + w.most⟩

/-- The width of one of two parts. -/
def or (v w : Width) : Width := ⟨min v.least w.least, max v.most w.most⟩

/-- The width of a number of turns. -/
def turns (w : Width) (least : Nat) (most : Option Nat) : Width :=
  ⟨w.least * least, w.most * most.getD unbounded⟩

/-- Widths of whole patterns are known up to the bound. -/
def capped (w : Width) : Width := ⟨min w.least (unbounded - 1), min w.most unbounded⟩

end Width

/-- A part of a pattern. -/
inductive Part where
  | char (negated : Bool) (n : Nat)
  | set (negated : Bool) (items : List SetItem)
  | any
  | anchor (a : Anchor)
  | recall (group : Nat) (width : Width)
  | either (branches : List (List Part))
  | many (greed : Greed) (least : Nat) (most : Option Nat) (body : List Part)
  | group (n : Option Nat) (added removed : Flags) (body : List Part)
  | look (behind negated : Bool) (body : List Part)
  | atomic (body : List Part)
  | ifSet (n : Nat) (yes no : List Part)
  deriving Inhabited

/-- A pattern. -/
abbrev Pattern := List Part

namespace Part

/-- Two parts without parts of their own are the same. -/
def isSame : Part → Part → Bool
  | .char a m, .char b n => a == b && m == n
  | .set a is, .set b js => a == b && is == js
  | .any, .any => true
  | .anchor a, .anchor b => a == b
  | .recall m _, .recall n _ => m == n
  | _, _ => false

/-- A group that neither remembers anything nor changes flags. -/
def plainGroup? : Part → Option Pattern
  | .group none [] [] body => some body
  | _ => none

/-- The members of a set that holds exactly the characters that the part matches. -/
def members? : Part → Option (List SetItem)
  | .char false n => some [.char n]
  | .set false items => some items
  | _ => none

mutual

/-- The width of a part. -/
def width : Part → Width
  | .char .. | .set .. | .any => .single
  | .anchor _ | .look .. => .none
  | .recall _ w => w
  | .either branches => branchWidth branches
  | .many _ least most body => ((totalWidth body).capped).turns least most
  | .group _ _ _ body | .atomic body => (totalWidth body).capped
  | .ifSet _ yes no => (totalWidth yes).capped.or (totalWidth no).capped

/-- The sum of the widths of parts. -/
def totalWidth : List Part → Width
  | [] => .none
  | p :: ps => p.width.add (totalWidth ps)

/-- The width of one of several branches. -/
def branchWidth : List (List Part) → Width
  | [] => .none
  | [b] => (totalWidth b).capped
  | b :: bs => (totalWidth b).capped.or (branchWidth bs)

end

mutual

/-- A test holds of a part and of all that it is made of. -/
def all (test : Part → Bool) : Part → Bool
  | .either branches => test (.either branches) && allBranches test branches
  | .many g l m body => test (.many g l m body) && allParts test body
  | .group n a r body => test (.group n a r body) && allParts test body
  | .look b n body => test (.look b n body) && allParts test body
  | .atomic body => test (.atomic body) && allParts test body
  | .ifSet n yes no => test (.ifSet n yes no) && allParts test yes && allParts test no
  | p => test p

def allParts (test : Part → Bool) : List Part → Bool
  | [] => true
  | p :: ps => p.all test && allParts test ps

def allBranches (test : Part → Bool) : List (List Part) → Bool
  | [] => true
  | b :: bs => allParts test b && allBranches test bs

end

end Part

namespace Pattern

/-- The width of a pattern. -/
def width (p : Pattern) : Width := (Part.totalWidth p).capped

/-- What all branches begin with. -/
def commonStart : Pattern → List Pattern → Pattern
  | [], _ => []
  | p :: ps, others =>
    if others.all fun b => b.head?.any p.isSame then p :: commonStart ps (others.map List.tail) else []

/-- The set of the characters that branches of one character match. -/
def mergedSet? (branches : List Pattern) : Option Part := do
  let items ← branches.mapM fun b =>
    match b with
    | [p] => p.members?
    | _ => none
  return .set false items.flatten.eraseDups

/-- One of several branches. What they begin with comes first, and branches of single characters
    make a set. -/
def ofBranches : List Pattern → Pattern
  | [] => []
  | [b] => b
  | b :: bs =>
    let start := commonStart b bs
    let rests := (b :: bs).map (List.drop start.length)
    start ++ [(mergedSet? rests).getD (.either rests)]

/-- The parts with those of plain groups in place of the groups. -/
def flat (p : Pattern) : Pattern := p.flatMap fun q => q.plainGroup?.getD [q]

/-- A pattern has no repetition. -/
def repeatsNothing (p : Pattern) : Bool :=
  Part.allParts (fun q => match q with | .many .. => false | _ => true) p

/-- Every assertion about what lies behind passes a test of its width. -/
def allBehind (test : Width → Bool) (p : Pattern) : Bool :=
  Part.allParts (fun q => match q with | .look true _ body => test (width body) | _ => true) p

/-- Every assertion about what lies behind has one width. -/
def isDefinite (p : Pattern) : Bool := allBehind (fun w => w.least == w.most) p

/-- The first number of characters that is too far to look behind. -/
def tooFar : Nat := 2147483648

/-- No assertion looks too far behind. -/
def staysNear (p : Pattern) : Bool := allBehind (fun w => decide (w.least < tooFar)) p

end Pattern

end Stencil
