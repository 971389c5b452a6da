import Stencil.Fault
import Stencil.Number.Numeral
import Stencil.Value.Equality

/-! Paths into values. A path is a leading name followed by names after a point and by brackets that
    hold a decimal index or a quoted key; a name may also stand directly after a bracket. Looking
    up a step in a value of the wrong kind, or with a key or index it does not have, finds nothing. -/

namespace Stencil

/-- A step of a path. -/
inductive Segment where
  | name (s : String)
  | index (n : Nat)
  deriving DecidableEq, Repr

namespace Path

/-- A character of a bare name. -/
def inName (c : Char) : Bool := c != '.' && c != '[' && c != ']'

/-- The bare name in front, if there is one, and the text after it. -/
def nameSegment? (cs : List Char) : Option (List Char × List Char) :=
  match cs.takeWhile inName with
  | [] => none
  | name => some (name, cs.dropWhile inName)

/-- The text up to a quote that a closing bracket follows, and the text after the bracket. -/
def quotedSegment? (quote : Char) (cs : List Char) : Option (List Char × List Char) :=
  match cs.dropWhile (· != quote) with
  | _ :: ']' :: rest => some (cs.takeWhile (· != quote), rest)
  | _ => none

/-- The digits up to a closing bracket, and the text after the bracket. -/
def indexSegment? (cs : List Char) : Option (List Char × List Char) :=
  match cs.takeWhile Text.isDecimal, cs.dropWhile Text.isDecimal with
  | [], _ => none
  | ds, ']' :: rest => some (ds, rest)
  | _, _ => none

/-- The digits of an index or the characters of a name or key. -/
inductive Part where
  | name (cs : List Char)
  | index (digits : List Char)
  deriving DecidableEq, Repr

/-- The part in front of a text and the text after it. -/
def part? : List Char → Option (Part × List Char)
  | '.' :: rest => (nameSegment? rest).map fun p => (.name p.1, p.2)
  | '[' :: '"' :: rest => (quotedSegment? '"' rest).map fun p => (.name p.1, p.2)
  | '[' :: '\'' :: rest => (quotedSegment? '\'' rest).map fun p => (.name p.1, p.2)
  | '[' :: rest => (indexSegment? rest).map fun p => (.index p.1, p.2)
  | cs => (nameSegment? cs).map fun p => (.name p.1, p.2)

/-- The number that decimal digits write, if there are not too many to convert. -/
def index? (digits : List Char) : Option Nat :=
  if Numeral.maxDigits < digits.length then none
  else some (Numeral.ofDigits 10 (digits.filterMap Text.decimalValue?))

theorem length_nameSegment {cs name rest : List Char} (h : nameSegment? cs = some (name, rest)) :
    rest.length < cs.length := by
  unfold nameSegment? at h
  split at h
  · simp at h
  · rename_i taken hne
    cases h
    have hsum := congrArg List.length (List.takeWhile_append_dropWhile (p := inName) (l := cs))
    simp only [List.length_append] at hsum
    have : 0 < (cs.takeWhile inName).length := List.length_pos_iff.mpr hne
    omega

theorem length_quotedSegment {q : Char} {cs key rest : List Char}
    (h : quotedSegment? q cs = some (key, rest)) : rest.length < cs.length := by
  unfold quotedSegment? at h
  split at h
  · rename_i c tail hd
    cases h
    have hsum := congrArg List.length (List.takeWhile_append_dropWhile (p := (· != q)) (l := cs))
    rw [hd] at hsum
    simp only [List.length_append, List.length_cons] at hsum
    omega
  · simp at h

theorem length_indexSegment {cs ds rest : List Char} (h : indexSegment? cs = some (ds, rest)) :
    rest.length < cs.length := by
  unfold indexSegment? at h
  split at h
  · simp at h
  · rename_i taken tail hne hd _
    cases h
    have hsum :=
      congrArg List.length (List.takeWhile_append_dropWhile (p := Text.isDecimal) (l := cs))
    rw [hd] at hsum
    simp only [List.length_append, List.length_cons] at hsum
    omega
  · simp at h

/-- A part takes at least one character. -/
theorem length_part {cs rest : List Char} {p : Part} (h : part? cs = some (p, rest)) :
    rest.length < cs.length := by
  unfold part? at h
  split at h <;> simp only [Option.map_eq_some_iff, Prod.mk.injEq] at h <;>
    obtain ⟨⟨a, b⟩, hs, -, rfl⟩ := h
  · exact Nat.lt_succ_of_lt (length_nameSegment hs)
  · exact Nat.lt_succ_of_lt (Nat.lt_succ_of_lt (length_quotedSegment hs))
  · exact Nat.lt_succ_of_lt (Nat.lt_succ_of_lt (length_quotedSegment hs))
  · exact Nat.lt_succ_of_lt (length_indexSegment hs)
  · exact length_nameSegment hs

/-- The segments of a text, `none` if it is malformed. An index with too many digits fails when the
    text before it is well formed. -/
def segmentsFrom (cs : List Char) : Except Failure (Option (List Segment)) :=
  match cs with
  | [] => .ok (some [])
  | c :: tail =>
    match _h : part? (c :: tail) with
    | none => .ok none
    | some (p, rest) => do
      let segment ← match p with
        | .name s => .ok (Segment.name (String.ofList s))
        | .index ds => match index? ds with
          | some n => .ok (Segment.index n)
          | none => .error Failure.badValue
      let more ← segmentsFrom rest
      return more.map (segment :: ·)
termination_by cs.length
decreasing_by exact length_part _h

/-- The segments of a path; a path does not begin with a point. -/
def segments (path : String) : Except Failure (Option (List Segment)) :=
  match path.toList with
  | '.' :: _ => .ok none
  | cs => segmentsFrom cs

/-- The segments of a path that a host gives as a value. Of other values than texts only empty ones
    are paths, without any segment. -/
def segmentsOf (path : Value) : Except Failure (Option (List Segment)) :=
  match path with
  | .text s | .markup s => segments s
  | .list [] | .tuple [] | .object [] | .bytes [] => .ok (some [])
  | _ => .error .wrongType

end Path

namespace Value

/-- The item at an index. -/
def itemAt (v : Value) (i : Nat) : Value :=
  match v.items? with
  | some xs => xs[i]?.getD .undefined
  | none => .undefined

/-- The step `value[key]`: an integer indexes an array, a text keys an object. -/
def getItem (v key : Value) : Value :=
  match key with
  | .int n => if 0 ≤ n then v.itemAt n.toNat else .undefined
  | .text s | .markup s =>
    match v.entries? with
    | some es => field es s
    | none => .undefined
  | _ => .undefined

/-- The step `value.name`: a name keys an object, a name of digits indexes an array. A digit without
    a place value has no index. -/
def getAttr (v : Value) (name : String) : Except Failure Value :=
  match v with
  | .object es => .ok (field es name)
  | .list _ | .tuple _ =>
    let cs := name.toList
    if !cs.isEmpty && cs.all Text.isDigit then
      if cs.all Text.isDecimal then
        match Path.index? cs with
        | some n => .ok (v.itemAt n)
        | none => .error .badValue
      else .error .badValue
    else .ok .undefined
  | _ => .ok .undefined

/-- The number that bytes write in decimal digits. -/
def indexOf (data : List UInt8) : Except Failure (Option Nat) :=
  let digits := data.map fun b => Char.ofNat b.toNat
  if digits.isEmpty || !digits.all (fun c => '0' ≤ c && c ≤ '9') then .ok none
  else
    match Path.index? digits with
    | some n => .ok (some n)
    | none => .error .badValue

/-- The step to a name that a host gives as a value: an object may have it as a key, and the index of
    an array may be written in bytes. -/
def getNamed (v name : Value) : Except Failure Value :=
  match name with
  | .text s | .markup s => v.getAttr s
  | name =>
    match v, name with
    | .object es, name =>
      if name.isKey then .ok (((es.find? fun e => e.1.hostEquals name).map Prod.snd).getD .undefined)
      else .error .wrongType
    | .list _, .bytes data | .tuple _, .bytes data => do
      return ((← indexOf data).map v.itemAt).getD .undefined
    | .list _, _ | .tuple _, _ => .error .missingAttribute
    | _, _ => .ok .undefined

/-- One segment of a path. -/
def step (v : Value) : Segment → Except Failure Value
  | .name s => v.getAttr s
  | .index n => .ok (v.itemAt n)

/-- The value at the end of the segments; what is not found stays not found. -/
def walk (v : Value) : List Segment → Except Failure Value
  | [] => .ok v
  | s :: rest => do
    match ← v.step s with
    | .undefined => return .undefined
    | next => next.walk rest

/-- The value at a path; the empty path leads to the value itself and a malformed one nowhere. -/
def resolve (v : Value) (path : String) : Except Failure Value := do
  if path.isEmpty then return v
  match ← Path.segments path with
  | none => return .undefined
  | some segments => v.walk segments

/-- The value at a path that a caller gave as a value: one that is not set counts as empty, and any
    other that is no text is of the wrong type. -/
def resolveBy (v path : Value) : Except Failure Value :=
  match path.text? with
  | some p => v.resolve p
  | none => if path.isSet then .error .wrongType else .ok v

end Value

end Stencil
