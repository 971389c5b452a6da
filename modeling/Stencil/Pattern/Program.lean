import Stencil.Pattern
import Stencil.Pattern.Fold

/-! Programs: patterns with the flags worked into their steps. A step knows whether case counts, which
    classes its sets have and where lines end; groups become marks at their ends. -/

namespace Stencil

namespace Pattern

/-- A member of a set of characters: a range, the case variants of a range, a range that also holds
    characters for their upper case forms, a class. -/
inductive Member where
  | range (lo hi : Nat)
  | folded (lo hi : Nat)
  | loose (lo hi : Nat)
  | class (c : CharClass) (negated isAscii : Bool)
  deriving DecidableEq, Repr

/-- A test of one character. -/
inductive CharTest where
  | any
  | notLineFeed
  | char (fold : Fold) (negated : Bool) (n : Nat)
  | set (fold : Fold) (negated : Bool) (members : List Member)
  deriving DecidableEq, Repr

/-- A place between characters: the ends of the text and of a line, the end or a line feed before it, and
    the boundaries of words. -/
inductive Place where
  | start | lineStart | finish | lineEnd | lastLine
  | boundary (isAscii : Bool)
  | inside (isAscii : Bool)
  deriving DecidableEq, Repr

/-- A step of a program. A repetition of one character knows the character that has to follow it, if
    there is one. -/
inductive Step where
  | one (test : CharTest)
  | place (p : Place)
  | mark (i : Nat)
  | recall (fold : Fold) (group : Nat)
  | branch (branches : List (List Step))
  | span (greed : Greed) (least : Nat) (most : Option Nat) (test : CharTest) (ahead : Option Nat)
  | turns (greed : Greed) (least : Nat) (most : Option Nat) (body : List Step)
  | look (back : Nat) (negated : Bool) (body : List Step)
  | atomic (body : List Step)
  | ifSet (group : Nat) (yes no : List Step)
  deriving Inhabited

abbrev Program := List Step

/-- How characters are compared under flags. -/
def foldOf (flags : Flags) : Fold :=
  if !flags.ignoresCase then .exact else if flags.isAscii then .ascii else .unicode

/-- The last code point of the basic plane. Case variants of ranges are kept up to it. -/
def basicPlane : Nat := 0xFFFF

end Pattern

namespace SetItem

open Pattern

/-- The item as it stands. -/
def plain (isAscii : Bool) : SetItem → Member
  | .char n => .range n n
  | .range lo hi => .range lo hi
  | .class c negated => .class c negated isAscii

/-- The item where case is ignored. -/
def folded (fold : Fold) (isAscii : Bool) : SetItem → List Member
  | .char n => if fold.lower n ≤ basicPlane then [.folded n n] else [.range n n]
  | .range lo hi =>
    .folded lo (min hi basicPlane) :: if basicPlane < hi then [.loose lo hi] else []
  | .class c negated => [.class c negated isAscii]

/-- Case matters to the item, or may do so beyond the basic plane. -/
def isCased (fold : Fold) : SetItem → Bool
  | .char n => fold.isCased n
  | .range lo hi => fold != .exact && (decide (basicPlane < hi) || fold.anyCased lo hi)
  | .class .. => false

/-- The item cannot be tested as it stands. -/
def isFolded (fold : Fold) : SetItem → Bool
  | .char n => fold != .exact && (fold.isCased n || decide (basicPlane < fold.lower n))
  | item => item.isCased fold

end SetItem

namespace Pattern

/-- The test for a character under flags. -/
def charTest (flags : Flags) (negated : Bool) (n : Nat) : CharTest :=
  let fold := foldOf flags
  if !fold.isCased n then .char .exact negated n
  else
    match fold.variants (fold.lower n) with
    | [m] => .char fold negated m
    | ms => .set fold negated (ms.map fun m => .range m m)

/-- The test for a set under flags. Where all its items can be tested as they stand, the set is. -/
def setTest (flags : Flags) (negated : Bool) (items : List SetItem) : CharTest :=
  let fold := foldOf flags
  if items.any (SetItem.isFolded fold) then
    .set fold negated (items.flatMap (SetItem.folded fold flags.isAscii))
  else .set .exact negated (items.map (SetItem.plain flags.isAscii))

/-- The test for a part that matches any single character. -/
def anyTest (flags : Flags) : CharTest := if flags.dotMatchesAll then .any else .notLineFeed

/-- The place of an anchor under flags. -/
def placeOf (flags : Flags) : Anchor → Place
  | .first => if flags.seesLines then .lineStart else .start
  | .last => if flags.seesLines then .lineEnd else .lastLine
  | .start => .start
  | .finish => .finish
  | .boundary => .boundary flags.isAscii
  | .inside => .inside flags.isAscii

/-- The test for a part that is a single character, also within groups that change flags only. -/
def unitTest? (flags : Flags) : Part → Option CharTest
  | .char negated n => some (charTest flags negated n)
  | .set negated items => some (setTest flags negated items)
  | .any => some (anyTest flags)
  | .group none added removed [p] => unitTest? (flags.change added removed) p
  | _ => none

/-- The test for a pattern of a single character. -/
def simpleTest? (flags : Flags) : Pattern → Option CharTest
  | [p] => unitTest? flags p
  | _ => none

/-- The character that a program has to match first, where another one comes after it. -/
def charAhead (after : Option Nat) : Program → Option Nat
  | [] => after
  | .one (.char .exact false n) :: _ => some n
  | _ => none

mutual

/-- The steps of a part under flags, before a program that has to begin with a character. -/
def compilePart (flags : Flags) (after : Option Nat) : Part → Program
  | .char negated n => [.one (charTest flags negated n)]
  | .set negated items => [.one (setTest flags negated items)]
  | .any => [.one (anyTest flags)]
  | .anchor a => [.place (placeOf flags a)]
  | .recall n _ => [.recall (foldOf flags) n]
  | .either branches => [.branch (compileBranches flags branches)]
  | .many greed least most body =>
    match simpleTest? flags body with
    | some test => [.span greed least most test after]
    | none => [.turns greed least most (compile flags none body)]
  | .group (some n) _ _ body => .mark (2 * n - 2) :: (compile flags none body ++ [.mark (2 * n - 1)])
  | .group none added removed body => compile (flags.change added removed) after body
  | .look behind negated body =>
    [.look (if behind then (width body).least else 0) negated (compile flags none body)]
  | .atomic body => [.atomic (compile flags none body)]
  | .ifSet n yes no =>
    [.ifSet n (compile flags (if no.isEmpty then after else none) yes) (compile flags after no)]

/-- The program of a pattern under flags, before a program that has to begin with a character. -/
def compile (flags : Flags) (after : Option Nat) : List Part → Program
  | [] => []
  | p :: ps =>
    let rest := compile flags after ps
    compilePart flags (charAhead after rest) p ++ rest

def compileBranches (flags : Flags) : List (List Part) → List Program
  | [] => []
  | b :: bs => compile flags none b :: compileBranches flags bs

end

/-- The first part of a pattern, looked up through groups, with the flags there. -/
def firstPart? (flags : Flags) : Part → Option (Flags × Part)
  | .group _ added removed (p :: _) => firstPart? (flags.change added removed) p
  | .group _ _ _ [] => none
  | p => some (flags, p)

/-- The set that every match begins with a member of, if the pattern begins with a set to which case
    does not matter. Its classes are those of the whole pattern. -/
def startSet? (flags : Flags) : Pattern → Option CharTest
  | [] => none
  | p :: _ =>
    match firstPart? flags p with
    | some (inner, .set negated items) =>
      if items.any (SetItem.isCased (foldOf inner)) then none
      else some (.set .exact negated (items.map (SetItem.plain flags.isAscii)))
    | _ => none

end Pattern

end Stencil
