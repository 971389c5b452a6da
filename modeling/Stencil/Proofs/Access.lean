import Stencil.Proofs.Lookup
import Stencil.Proofs.Simulation.Basic

/-! Two ways to write a lookup. A path and an expression name the same steps: a name in front, then
    names after points and indexes or quoted keys in brackets. A path that is written in the form of
    such steps is read back as their segments. Following the segments and evaluating the expression
    lead to the same value, step by step, but for one difference: a quoted key in a path is a name,
    so that digits in quotes index an array there. -/

namespace Stencil

/-- A name that a path can hold outside of quotes. -/
structure BareName where
  text : String
  ne_empty : text.toList ≠ []
  bare : text.toList.all Path.inName = true

/-- Decimal digits that stand for an index. -/
structure IndexDigits where
  chars : List Char
  ne_nil : chars ≠ []
  decimal : chars.all Text.isDecimal = true

theorem BareName.head_bare (n : BareName) (rest : List Char) :
    ∀ c ∈ (n.text.toList ++ rest).head?, Path.inName c = true := by
  obtain ⟨c, cs, hcs⟩ := List.exists_cons_of_ne_nil n.ne_empty
  have hc : Path.inName c = true := List.all_eq_true.1 n.bare c (by simp [hcs])
  rw [hcs]
  rintro _ ⟨⟩
  exact hc

inductive Quote where
  | single
  | double
  deriving DecidableEq

def Quote.char : Quote → Char
  | .single => '\''
  | .double => '"'

/-- A step as it is written: a name after a point, or an index or a quoted key in brackets. -/
inductive Access where
  | name (n : BareName)
  | index (d : IndexDigits)
  | key (q : Quote) (s : String) (h : q.char ∉ s.toList)

namespace Access

/-- The characters of a step in a path. -/
def text : Access → List Char
  | .name n => '.' :: n.text.toList
  | .index d => '[' :: (d.chars ++ [']'])
  | .key q s _ => '[' :: q.char :: (s.toList ++ [q.char, ']'])

/-- A step is written in brackets. -/
def isBracketed : Access → Bool
  | .name _ => false
  | .index _ | .key .. => true

/-- The part of a path that a step is. -/
def part : Access → Path.Part
  | .name n => .name n.text.toList
  | .index d => .index d.chars
  | .key _ s _ => .name s.toList

/-- A path of a name and steps from it. -/
def path (first : BareName) (as : List Access) : String :=
  String.ofList (first.text.toList ++ as.flatMap text)

end Access

/-- The index that digits write. -/
def IndexDigits.number (d : IndexDigits) : Nat :=
  Numeral.ofDigits 10 (d.chars.filterMap Text.decimalValue?)

namespace Access

/-- The expression that makes a step from the value of another one. -/
def node (p q : Pos) (operand : Node) : Access → Node
  | .name n => .attr p operand n.text
  | .index d => .item p operand (.const q (.int d.number))
  | .key _ s _ => .item p operand (.const q (.text s))

/-- An expression makes steps from a name. -/
inductive Expresses (first : BareName) : List Access → Node → Prop
  | name (p : Pos) : Expresses first [] (.name p first.text)
  | step {as n} (a : Access) (p q : Pos) (h : Expresses first as n) :
    Expresses first (as ++ [a]) (a.node p q n)

/-- Where a step of an expression leads. -/
def follow (v : Value) : Access → Except Failure Value
  | .name n => v.getAttr n.text
  | .index d => .ok (v.getItem (.int d.number))
  | .key _ s _ => .ok (v.getItem (.text s))

/-- The segment of a path that a step is. -/
def segment : Access → Segment
  | .name n => .name n.text
  | .index d => .index d.number
  | .key _ s _ => .name s

/-- The digits of an index are few enough to be converted. -/
def Short : Access → Prop
  | .index d => d.chars.length ≤ Numeral.maxDigits
  | _ => True

/-- A quoted key of digits comes to an array. -/
def Strays (v : Value) : Access → Prop
  | .key _ s _ => v.items?.isSome = true ∧ s.toList ≠ [] ∧ s.toList.all Text.isDigit = true
  | _ => False

/-! ### Reading a path -/

theorem takeWhile_append_of_stop {p : Char → Bool} {cs rest : List Char}
    (hcs : cs.all p = true) (hrest : ∀ c ∈ rest.head?, p c = false) :
    (cs ++ rest).takeWhile p = cs ∧ (cs ++ rest).dropWhile p = rest := by
  have hall : ∀ c ∈ cs, p c = true := List.all_eq_true.1 hcs
  have hstop : rest.takeWhile p = [] ∧ rest.dropWhile p = rest := by
    cases rest with
    | nil => exact ⟨rfl, rfl⟩
    | cons c rest => simp [hrest c rfl]
  rw [List.takeWhile_append_of_pos hall, List.dropWhile_append_of_pos hall, hstop.1, hstop.2,
    List.append_nil]
  exact ⟨rfl, rfl⟩

theorem nameSegment?_append {cs rest : List Char} (hne : cs ≠ []) (hcs : cs.all Path.inName = true)
    (hrest : ∀ c ∈ rest.head?, Path.inName c = false) :
    Path.nameSegment? (cs ++ rest) = some (cs, rest) := by
  obtain ⟨htake, hdrop⟩ := takeWhile_append_of_stop hcs hrest
  unfold Path.nameSegment?
  rw [htake, hdrop]
  cases cs with
  | nil => exact absurd rfl hne
  | cons c cs => rfl

theorem quotedSegment?_append {q : Char} {cs : List Char} (hq : q ∉ cs) (rest : List Char) :
    Path.quotedSegment? q (cs ++ q :: ']' :: rest) = some (cs, rest) := by
  have hcs : cs.all (· != q) = true := by
    rw [List.all_eq_true]
    intro c hc
    simpa using fun h : c = q => hq (h ▸ hc)
  have hstop : ∀ c ∈ (q :: ']' :: rest).head?, (c != q) = false := by simp
  obtain ⟨htake, hdrop⟩ := takeWhile_append_of_stop hcs hstop
  unfold Path.quotedSegment?
  rw [htake, hdrop]
  rfl

theorem indexSegment?_append {ds : List Char} (hne : ds ≠ []) (hds : ds.all Text.isDecimal = true)
    (rest : List Char) : Path.indexSegment? (ds ++ ']' :: rest) = some (ds, rest) := by
  have hstop : ∀ c ∈ (']' :: rest).head?, Text.isDecimal c = false := by
    rintro _ ⟨⟩
    decide +kernel
  obtain ⟨htake, hdrop⟩ := takeWhile_append_of_stop hds hstop
  unfold Path.indexSegment?
  rw [htake, hdrop]
  cases ds with
  | nil => exact absurd rfl hne
  | cons d ds => rfl

/-- What a bracket opens is an index unless a quote follows. -/
theorem part?_of_bracket {cs : List Char} (h : ∀ c ∈ cs.head?, c ≠ '"' ∧ c ≠ '\'') :
    Path.part? ('[' :: cs) = (Path.indexSegment? cs).map fun p => (.index p.1, p.2) := by
  cases cs with
  | nil => rfl
  | cons c cs =>
    obtain ⟨hdouble, hsingle⟩ := h c rfl
    simp [Path.part?, hdouble, hsingle]

/-- What begins with a character of a name is a name. -/
theorem part?_of_bare {cs : List Char} (h : ∀ c ∈ cs.head?, Path.inName c = true) :
    Path.part? cs = (Path.nameSegment? cs).map fun p => (.name p.1, p.2) := by
  cases cs with
  | nil => rfl
  | cons c cs =>
    have hc := h c rfl
    simp only [Path.inName, Bool.and_eq_true, bne_iff_ne] at hc
    simp [Path.part?, hc]

/-- A step in brackets is read back as its part, whatever follows. -/
theorem part?_bracketed {a : Access} (ha : a.isBracketed = true) (rest : List Char) :
    Path.part? (a.text ++ rest) = some (a.part, rest) := by
  cases a with
  | name n => cases ha
  | index d =>
    have htext : text (.index d) ++ rest = '[' :: (d.chars ++ ']' :: rest) := by simp [text]
    have hquote : ∀ c ∈ (d.chars ++ ']' :: rest).head?, c ≠ '"' ∧ c ≠ '\'' := by
      obtain ⟨c, cs, hcs⟩ := List.exists_cons_of_ne_nil d.ne_nil
      have hc : Text.isDecimal c = true := List.all_eq_true.1 d.decimal c (by simp [hcs])
      rw [hcs]
      rintro _ ⟨⟩
      constructor <;> rintro rfl <;> exact absurd hc (by decide +kernel)
    rw [htext, part?_of_bracket hquote, indexSegment?_append d.ne_nil d.decimal]
    rfl
  | key q s h =>
    have htext : text (.key q s h) ++ rest =
        '[' :: q.char :: (s.toList ++ q.char :: ']' :: rest) := by
      simp [text]
    have hkey := quotedSegment?_append h rest
    rw [htext]
    cases q <;> simp only [Quote.char] at hkey ⊢ <;> simp [Path.part?, hkey, part]

/-- A step is read back as its part, up to where the next one begins. -/
theorem part?_text (a : Access) {rest : List Char}
    (hrest : ∀ c ∈ rest.head?, Path.inName c = false) :
    Path.part? (a.text ++ rest) = some (a.part, rest) := by
  cases a with
  | name n => simp [text, part, Path.part?, nameSegment?_append n.ne_empty n.bare hrest]
  | index d => exact part?_bracketed rfl rest
  | key q s h => exact part?_bracketed rfl rest

/-- The steps of a path begin with characters that end a name. -/
theorem head?_texts (as : List Access) :
    ∀ c ∈ (as.flatMap text).head?, Path.inName c = false := by
  cases as with
  | nil => simp
  | cons a as => cases a <;> rintro _ ⟨⟩ <;> decide

theorem reads_texts : ∀ as : List Access, Path.Reads (as.flatMap text) (as.map part) []
  | [] => .done
  | a :: as => by
    rw [List.flatMap_cons, List.map_cons]
    exact .part (part?_text a (head?_texts as)) (reads_texts as)

theorem segment_part {a : Access} (h : a.Short) : a.part.segment = .ok a.segment := by
  cases a with
  | name n => simp [part, Path.Part.segment, segment]
  | index d => simp [part, Path.Part.segment, segment, Path.index?_of_le h, IndexDigits.number]
  | key q s _ => simp [part, Path.Part.segment, segment]

theorem mapM_segment : ∀ {as : List Access}, (∀ a ∈ as, a.Short) →
    (as.map part).mapM Path.Part.segment = .ok (as.map segment)
  | [], _ => rfl
  | a :: as, h => by
    obtain ⟨ha, has⟩ := List.forall_mem_cons.1 h
    simp only [List.map_cons, List.mapM_cons, segment_part ha, mapM_segment has]
    rfl

/-- A path is read back as the segments of its steps. -/
theorem segments_path (first : BareName) {as : List Access} (h : ∀ a ∈ as, a.Short) :
    Path.segments (path first as) = .ok (some (.name first.text :: as.map segment)) := by
  have hfirst : Path.part? (first.text.toList ++ as.flatMap text) =
      some (.name first.text.toList, as.flatMap text) := by
    rw [part?_of_bare, nameSegment?_append first.ne_empty first.bare (head?_texts as)]
    · rfl
    · exact first.head_bare _
  have hreads : Path.Reads (first.text.toList ++ as.flatMap text)
      (.name first.text.toList :: as.map part) [] := .part hfirst (reads_texts as)
  have hsegments : Path.segmentsFrom (first.text.toList ++ as.flatMap text) =
      .ok (some (.name first.text :: as.map segment)) := by
    rw [Path.segmentsFrom_of_reads hreads, List.mapM_cons, mapM_segment h]
    simp [Path.Part.segment]
    rfl
  unfold Path.segments path
  rw [String.toList_ofList]
  split
  · -- a path that begins with a point has no segments, but a bare name does not begin so
    rename_i rest hpoint
    have hbare := first.head_bare (as.flatMap text)
    rw [hpoint] at hbare
    exact absurd (hbare '.' rfl) (by decide)
  · exact hsegments

/-! ### Evaluating an expression -/

theorem follow_undefined (a : Access) : follow .undefined a = .ok .undefined := by
  cases a with
  | name n => rfl
  | index d => simp [follow, Value.getItem, Value.itemAt, Value.items?]
  | key q s _ => rfl

section

open Render

variable {links : Links} {setting : Setting} {n : Node} {s : RenderState}

/-- Where an operand has been evaluated, the step from it leads on. -/
theorem eval_node {r : Except Failure Value} (h : eval links setting true n s = ofFailure r s)
    (a : Access) (p q : Pos) :
    eval links setting true (a.node p q n) s = ofFailure (r >>= (follow · a)) s := by
  cases r with
  | error f =>
    have herror : eval links setting true n s = (.error (.failure f), s) := h
    cases a <;> (rw [node, eval]; exact bind_of_error herror)
  | ok v =>
    have hdone : eval links setting true n s = (.ok v, s) := h
    have hnext : (Except.ok v >>= (follow · a) : Except Failure Value) = follow v a := rfl
    rw [hnext]
    by_cases hv : v.isUndefined = true
    · -- a lenient lookup stops here, and a step from nothing leads nowhere
      rw [Value.isUndefined_iff] at hv
      rw [hv, follow_undefined]
      cases a <;> (rw [node, eval, bind_of_done hdone, hv]; rfl)
    · -- the other steps are tried, and what they do not find is no error here
      have hgoes : (true && v.isUndefined) = false := by simpa using hv
      cases a with
      | name m =>
        simp only [node, eval, bind_of_done hdone, hgoes, found_lenient, follow]
        cases v.getAttr m.text <;> rfl
      | index d =>
        simp only [node, eval, bind_of_done hdone, hgoes, found_lenient, follow]
        rfl
      | key q k _ =>
        simp only [node, eval, bind_of_done hdone, hgoes, found_lenient, follow]
        rfl

/-- An expression leads where its steps lead from the value of its name. -/
theorem eval_expresses {first : BareName} {as : List Access} (h : Expresses first as n) :
    eval links setting true n s =
      ofFailure (as.foldlM follow (s.stack.find first.text)) s := by
  induction h with
  | name p =>
    simp only [eval, found_lenient]
    rfl
  | step a p q _ ih => simpa [List.foldlM_append] using eval_node ih a p q

end

/-! ### Following a path -/

/-- A segment leads where the step does, unless it is a quoted key that comes to an array. -/
theorem step_segment {v : Value} {a : Access} (h : ¬a.Strays v) :
    v.step a.segment = follow v a := by
  cases a with
  | name n => rfl
  | index d => simp [segment, follow, Value.step, Value.getItem]
  | key q s _ =>
    change v.getAttr s = .ok (v.getItem (.text s))
    cases hitems : v.items? with
    | none => cases v <;> simp_all [Value.getAttr, Value.getItem, Value.entries?, Value.items?]
    | some xs =>
      have hdigits : ¬(s.toList ≠ [] ∧ s.toList.all Text.isDigit = true) :=
        fun hs => h ⟨by rw [hitems]; rfl, hs⟩
      rw [Value.getAttr_of_items hitems, if_neg hdigits]
      cases v <;> simp_all [Value.getItem, Value.entries?, Value.items?]

theorem walk_segments : ∀ {as : List Access} {v : Value},
    (∀ front a back w, as = front ++ a :: back → front.foldlM follow v = .ok w → ¬a.Strays w) →
    v.walk (as.map segment) = as.foldlM follow v
  | [], _, _ => rfl
  | a :: as, v, h => by
    rw [List.map_cons, Value.walk_cons, step_segment (h [] a as v rfl rfl), List.foldlM_cons]
    cases hv : follow v a with
    | error f => rfl
    | ok w =>
      refine walk_segments fun front b back x hsplit hx => h (a :: front) b back x ?_ ?_
      · rw [hsplit, List.cons_append]
      · rw [List.foldlM_cons, hv]
        exact hx

end Access

namespace Context

open Access Render

/-- No frame of a call stack binds a name, and none is that of a macro call, so that every name is
    looked up in the context. -/
structure Bare (c : Context) (s : CallStack) : Prop where
  context : s.context = c
  frames : ∀ f ∈ s.frames, f.kind.isCall = false ∧ ∀ name, f.find name = .undefined

theorem Bare.find {c : Context} {s : CallStack} (h : c.Bare s) (name : String) :
    s.find name = c.lookup name := by
  obtain ⟨rfl, hframes⟩ := h
  unfold CallStack.find
  generalize s.frames = frames at hframes
  induction frames with
  | nil => rfl
  | cons f rest ih =>
    obtain ⟨hf, hrest⟩ := List.forall_mem_cons.1 hframes
    rw [CallStack.findIn, hf.2 name]
    simp [hf.1, ih hrest]

/-- The two ways to write a lookup agree. Let an expression make the same steps as a path: a name in
    front, then names after points and indexes or quoted keys in brackets. Evaluated leniently in a
    render of a context in which no name is bound, the expression ends as the path does in the
    context, with the same value, with nothing, or with the same failure. No index of the path may
    have too many digits to be converted, and no quoted key of digits may come to an array, where
    the path takes it for an index. -/
theorem get_agrees (c : Context) {first : BareName} {as : List Access} {n : Node}
    (hn : Expresses first as n) (hshort : ∀ a ∈ as, a.Short)
    (hkeys : ∀ front a back w, as = front ++ a :: back →
      front.foldlM follow (c.lookup first.text) = .ok w → ¬a.Strays w)
    (links : Links) (setting : Setting) {s : RenderState} (hs : c.Bare s.stack) :
    eval links setting true n s = ofFailure (c.get (path first as)) s := by
  have hget : c.get (path first as) = as.foldlM follow (c.lookup first.text) := by
    rw [get, Value.resolve_eq, segments_path first hshort]
    change c.root.walk (.name first.text :: as.map segment) = _
    rw [Value.walk_cons, ← walk_segments hkeys]
    rfl
  rw [eval_expresses hn, hs.find, hget]

/-- A state over a context in which nothing is bound. -/
def unbound (c : Context) : RenderState := { stack := { context := c }, targets := [] }

theorem bare_unbound (c : Context) : c.Bare (unbound c).stack := ⟨rfl, by simp [unbound]⟩

/-- A context of an array of objects. -/
def shelfData : Context :=
  { entries := [(.text "books", .list [.object [(.text "by line", .text "A. Reader")]])] }

theorem get_agrees_shelf : ∃ first as n, Expresses first as n ∧
    path first as = "books[0][\"by line\"]" ∧ ∀ links setting,
      eval links setting true n (unbound shelfData) =
        (.ok (.text "A. Reader"), unbound shelfData) := by
  let first : BareName := ⟨"books", by decide, by decide⟩
  let as : List Access :=
    [.index ⟨['0'], by decide, by decide +kernel⟩, .key .double "by line" (by decide)]
  have hn : Expresses first as _ :=
    ((Expresses.name ⟨1, 0⟩).step as[0] ⟨1, 0⟩ ⟨1, 0⟩).step as[1] ⟨1, 0⟩ ⟨1, 0⟩
  have hpath : path first as = "books[0][\"by line\"]" := by decide +kernel
  have hsegments : Path.segments "books[0][\"by line\"]" =
      .ok (some [.name "books", .index 0, .name "by line"]) := by decide +kernel
  have hget : shelfData.get (path first as) = .ok (.text "A. Reader") := by
    rw [hpath, get, Value.resolve_eq, hsegments]
    rfl
  have hshort : ∀ a ∈ as, a.Short := by simp [as, Short, Numeral.maxDigits]
  refine ⟨first, as, _, hn, hpath, fun links setting => ?_⟩
  refine (get_agrees shelfData hn hshort ?_ links setting (bare_unbound shelfData)).trans ?_
  · intro front a back w hsplit _ hstrays
    have ha : a ∈ as := by rw [hsplit]; simp
    rcases List.mem_pair.1 ha with rfl | rfl
    · exact hstrays
    · exact absurd hstrays.2.2 (by decide +kernel)
  · rw [hget]
    rfl

/-- A context of an array of texts. -/
def letters : Context := { entries := [(.text "xs", .list [.text "a"])] }

/-- Digits in quotes index an array in a path, and find nothing there in an expression. -/
theorem quoted_digits_differ : letters.get "xs[\"0\"]" = .ok (.text "a") ∧
    ∀ links setting, eval links setting true
      (.item ⟨1, 0⟩ (.name ⟨1, 0⟩ "xs") (.const ⟨1, 0⟩ (.text "0"))) (unbound letters) =
        (.ok .undefined, unbound letters) := by
  have hsegments : Path.segments "xs[\"0\"]" = .ok (some [.name "xs", .name "0"]) := by
    decide +kernel
  refine ⟨?_, fun links setting => ?_⟩
  · rw [get, Value.resolve_eq, hsegments]
    rfl
  · simp only [eval, found_lenient]
    rfl

end Context

end Stencil
