import Mathlib.Tactic.Common
import Stencil.Context
import Stencil.Proofs.Result

/-! Lookups that fail. A step to a key of any kind, and to a name of anything but digits, finds a
    value or nothing. Only reading an index can fail: digits that merely stand alone have no place
    value, and a numeral may have too many digits to convert. So the segments of a path fail iff
    such a numeral stands in brackets after well-formed parts, and a walk fails iff it comes to an
    array with such digits as a name. -/

namespace Stencil

namespace Path

/-- Digits that are no index: some of them only stand alone, or there are too many to convert. -/
def Unreadable (cs : List Char) : Prop :=
  cs ≠ [] ∧ cs.all Text.isDigit = true ∧
    (cs.all Text.isDecimal = false ∨ Numeral.maxDigits < cs.length)

instance (cs : List Char) : Decidable (Unreadable cs) :=
  inferInstanceAs (Decidable (cs ≠ [] ∧ cs.all Text.isDigit = true ∧
    (cs.all Text.isDecimal = false ∨ Numeral.maxDigits < cs.length)))

/-- The parts that a text begins with, and the text after them. -/
inductive Reads : List Char → List Part → List Char → Prop
  | done {cs} : Reads cs [] cs
  | part {cs mid rest p ps} (h : part? cs = some (p, mid)) (hmid : Reads mid ps rest) :
    Reads cs (p :: ps) rest

/-- After parts that are well formed, a text has an index with too many digits. -/
def Overlong (cs : List Char) : Prop :=
  ∃ ps ds rest, Reads cs (ps ++ [.index ds]) rest ∧ Numeral.maxDigits < ds.length

/-- The segment that a part stands for. -/
def Part.segment : Part → Except Failure Segment
  | .name cs => .ok (.name (String.ofList cs))
  | .index ds =>
    match index? ds with
    | some n => .ok (.index n)
    | none => .error .badValue

/-! ### Segments of a text -/

theorem index?_eq_none {ds : List Char} : index? ds = none ↔ Numeral.maxDigits < ds.length := by
  unfold index?
  split <;> simp_all

theorem index?_of_le {ds : List Char} (h : ds.length ≤ Numeral.maxDigits) :
    index? ds = some (Numeral.ofDigits 10 (ds.filterMap Text.decimalValue?)) :=
  if_neg (Nat.not_lt.2 h)

theorem Part.segment_eq_error {p : Part} {f : Failure} :
    p.segment = .error f ↔
      f = .badValue ∧ ∃ ds, p = .index ds ∧ Numeral.maxDigits < ds.length := by
  cases p with
  | name cs => simp [segment]
  | index ds =>
    have hlong : index? ds = none ↔ Numeral.maxDigits < ds.length := index?_eq_none
    simp only [segment, index.injEq, exists_eq_left', ← hlong]
    cases index? ds <;> simp [eq_comm]

/-- The characters of a name, a key or an index. -/
def Part.chars : Part → List Char
  | .name cs | .index cs => cs

theorem part?_nil : part? [] = none := rfl

/-- The first part gives the first segment, and the text after it the others. -/
theorem segmentsFrom_of_part {cs rest : List Char} {p : Part} (h : part? cs = some (p, rest)) :
    segmentsFrom cs = (do
      let segment ← p.segment
      let more ← segmentsFrom rest
      return more.map (segment :: ·)) := by
  cases cs with
  | nil => cases part?_nil.symm.trans h
  | cons c tail =>
    rw [segmentsFrom]
    split
    · rename_i hnone
      cases hnone.symm.trans h
    · rename_i q mid hsome
      cases hsome.symm.trans h
      cases p with
      | name cs => rfl
      | index ds =>
        unfold Part.segment
        dsimp only
        cases index? ds <;> rfl

theorem segmentsFrom_of_none {cs : List Char} (hcs : cs ≠ []) (h : part? cs = none) :
    segmentsFrom cs = .ok none := by
  obtain ⟨c, tail, rfl⟩ := List.exists_cons_of_ne_nil hcs
  rw [segmentsFrom]
  split
  · rfl
  · rename_i hsome
    cases h.symm.trans hsome

/-- A text that consists of parts has their segments. -/
theorem segmentsFrom_of_reads {cs : List Char} {ps : List Part} (h : Reads cs ps []) :
    segmentsFrom cs = (ps.mapM Part.segment).map some := by
  generalize hrest : ([] : List Char) = rest at h
  induction h with
  | done =>
    subst hrest
    simp [segmentsFrom, pure, Except.pure, Except.map]
  | @part cs mid rest p ps hp _ ih =>
    rw [segmentsFrom_of_part hp, ih hrest, List.mapM_cons]
    cases p.segment with
    | error f => rfl
    | ok segment => cases ps.mapM Part.segment <;> rfl

/-- A text with segments consists of parts that have them. -/
theorem reads_of_segmentsFrom (cs : List Char) {segments : List Segment}
    (h : segmentsFrom cs = .ok (some segments)) :
    ∃ ps, Reads cs ps [] ∧ ps.mapM Part.segment = .ok segments := by
  cases hp : part? cs with
  | none =>
    cases cs with
    | nil =>
      simp only [segmentsFrom, Except.ok.injEq, Option.some.injEq] at h
      exact ⟨[], .done, by rw [← h]; rfl⟩
    | cons c tail =>
      rw [segmentsFrom_of_none (List.cons_ne_nil c tail) hp] at h
      cases h
  | some q =>
    obtain ⟨p, mid⟩ := q
    rw [segmentsFrom_of_part hp] at h
    simp only [bind_eq_ok, pure_eq_ok, Option.map_eq_some_iff] at h
    obtain ⟨s, hs, _, hmore, more, rfl, rfl⟩ := h
    obtain ⟨ps, hreads, hps⟩ := reads_of_segmentsFrom mid hmore
    exact ⟨p :: ps, .part hp hreads, by simp [List.mapM_cons, hs, hps]⟩
termination_by cs.length
decreasing_by exact length_part hp

/-- A text begins with a part that has too many digits, or has such a part later on. -/
theorem overlong_of_part {cs mid : List Char} {p : Part} (h : part? cs = some (p, mid)) :
    Overlong cs ↔ (∃ ds, p = .index ds ∧ Numeral.maxDigits < ds.length) ∨ Overlong mid := by
  constructor
  · rintro ⟨ps, ds, rest, hreads, hlong⟩
    cases ps with
    | nil =>
      cases hreads with
      | part hp _ =>
        cases h.symm.trans hp
        exact .inl ⟨ds, rfl, hlong⟩
    | cons q ps =>
      cases hreads with
      | part hp hmid =>
        cases h.symm.trans hp
        exact .inr ⟨ps, ds, rest, hmid, hlong⟩
  · rintro (⟨ds, rfl, hlong⟩ | ⟨ps, ds, rest, hmid, hlong⟩)
    · exact ⟨[], ds, mid, .part h .done, hlong⟩
    · exact ⟨p :: ps, ds, rest, .part h hmid, hlong⟩

theorem not_overlong_of_none {cs : List Char} (h : part? cs = none) : ¬Overlong cs := by
  rintro ⟨ps, ds, rest, hreads, -⟩
  cases ps <;> cases hreads <;> simp_all

/-- Only an index with too many digits makes a text fail. -/
theorem segmentsFrom_eq_error {f : Failure} (cs : List Char) :
    segmentsFrom cs = .error f ↔ f = .badValue ∧ Overlong cs := by
  cases hp : part? cs with
  | none =>
    have hnot := not_overlong_of_none hp
    cases cs with
    | nil => simp [segmentsFrom, hnot]
    | cons c tail => simp [segmentsFrom_of_none (List.cons_ne_nil c tail) hp, hnot]
  | some q =>
    obtain ⟨p, mid⟩ := q
    have hmid := segmentsFrom_eq_error (f := f) mid
    have hrest (s : Segment) : (do
        let more ← segmentsFrom mid
        return more.map (s :: ·)) = Except.error f ↔ f = .badValue ∧ Overlong mid := by
      simp [bind_eq_error, pure, Except.pure, hmid]
    rw [segmentsFrom_of_part hp, bind_eq_error, Part.segment_eq_error, overlong_of_part hp]
    simp only [hrest]
    constructor
    · rintro (⟨hf, hlong⟩ | ⟨_, -, hf, hlong⟩)
      · exact ⟨hf, .inl hlong⟩
      · exact ⟨hf, .inr hlong⟩
    · rintro ⟨hf, hlong | hlong⟩
      · exact .inl ⟨hf, hlong⟩
      · -- the first part may have too many digits as well
        cases hs : p.segment with
        | error g => exact .inl ⟨hf, (Part.segment_eq_error.1 hs).2⟩
        | ok s => exact .inr ⟨s, rfl, hf, hlong⟩
termination_by cs.length
decreasing_by exact length_part hp

theorem segments_eq_error {path : String} {f : Failure} :
    segments path = .error f ↔
      f = .badValue ∧ path.toList.head? ≠ some '.' ∧ Overlong path.toList := by
  unfold segments
  split
  · rename_i hpoint
    simp [hpoint]
  · rename_i hnot
    have hhead : path.toList.head? ≠ some '.' := fun h => by
      obtain ⟨rest, hrest⟩ := List.head?_eq_some_iff.1 h
      exact hnot rest hrest
    simp [segmentsFrom_eq_error, hhead]

/-- A segment that is a name is that of a part with its characters. -/
theorem exists_part_of_name {ps : List Part} {name : String} : ∀ {segments : List Segment},
    ps.mapM Part.segment = .ok segments → .name name ∈ segments →
    ∃ p ∈ ps, p.chars = name.toList := by
  induction ps with
  | nil =>
    intro segments h hname
    rw [List.mapM_nil, pure_eq_ok] at h
    simp [← h] at hname
  | cons p ps ih =>
    intro segments h hname
    simp only [List.mapM_cons, bind_eq_ok, pure_eq_ok] at h
    obtain ⟨s, hs, more, hmore, rfl⟩ := h
    rcases List.mem_cons.1 hname with rfl | hname
    · refine ⟨p, List.mem_cons_self .., ?_⟩
      cases p with
      | name cs =>
        cases hs
        simp [Part.chars]
      | index ds =>
        -- a numeral becomes an index or an error, but no name
        unfold Part.segment at hs
        dsimp only at hs
        cases hds : index? ds <;> rw [hds] at hs <;> cases hs
    · obtain ⟨q, hq, hchars⟩ := ih hmore hname
      exact ⟨q, List.mem_cons_of_mem _ hq, hchars⟩

/-! ### Characters of parts -/

theorem sublist_of_nameSegment {cs name rest : List Char}
    (h : nameSegment? cs = some (name, rest)) : (name ++ rest).Sublist cs := by
  unfold nameSegment? at h
  split at h
  · cases h
  · cases h
    simp [List.takeWhile_append_dropWhile]

theorem sublist_of_quotedSegment {q : Char} {cs key rest : List Char}
    (h : quotedSegment? q cs = some (key, rest)) : (key ++ rest).Sublist cs := by
  unfold quotedSegment? at h
  split at h
  · rename_i c tail hd
    cases h
    have hsplit := List.takeWhile_append_dropWhile (p := (· != q)) (l := cs)
    rw [hd] at hsplit
    conv_rhs => rw [← hsplit]
    exact (List.Sublist.refl _).append (((List.Sublist.refl _).cons _).cons _)
  · cases h

theorem sublist_of_indexSegment {cs ds rest : List Char} (h : indexSegment? cs = some (ds, rest)) :
    (ds ++ rest).Sublist cs := by
  unfold indexSegment? at h
  split at h
  · cases h
  · rename_i tail _ hd _
    cases h
    have hsplit := List.takeWhile_append_dropWhile (p := Text.isDecimal) (l := cs)
    rw [hd] at hsplit
    conv_rhs => rw [← hsplit]
    exact (List.Sublist.refl _).append ((List.Sublist.refl _).cons _)
  · cases h

/-- A part takes its characters from the text. -/
theorem sublist_of_part {cs rest : List Char} {p : Part} (h : part? cs = some (p, rest)) :
    (p.chars ++ rest).Sublist cs := by
  unfold part? at h
  split at h <;> simp only [Option.map_eq_some_iff, Prod.mk.injEq] at h <;>
    obtain ⟨⟨a, b⟩, hs, rfl, rfl⟩ := h
  · exact (sublist_of_nameSegment hs).cons _
  · exact ((sublist_of_quotedSegment hs).cons _).cons _
  · exact ((sublist_of_quotedSegment hs).cons _).cons _
  · exact (sublist_of_indexSegment hs).cons _
  · exact sublist_of_nameSegment hs

theorem Reads.sublist {cs rest : List Char} {ps : List Part} (h : Reads cs ps rest) :
    ∀ p ∈ ps, p.chars.Sublist cs := by
  induction h with
  | done => simp
  | part hp _ ih =>
    have hpart := sublist_of_part hp
    intro p hmem
    rcases List.mem_cons.1 hmem with rfl | hmem
    · exact (List.sublist_append_left _ _).trans hpart
    · exact (ih p hmem).trans ((List.sublist_append_right _ _).trans hpart)

end Path

namespace Value

/-- An item of an array or the value of an entry of an object. -/
def Component (w v : Value) : Prop :=
  (∃ xs, v.items? = some xs ∧ w ∈ xs) ∨ ∃ es, v.entries? = some es ∧ ∃ e ∈ es, w = e.2

/-- A path fails at a value: it has an index with too many digits, or it leads to an array and on
    from there by digits that are no index. -/
def Trips (v : Value) (path : String) : Prop :=
  (path.toList.head? ≠ some '.' ∧ Path.Overlong path.toList) ∨
  ∃ front name back w, Path.segments path = .ok (some (front ++ .name name :: back)) ∧
    v.walk front = .ok w ∧ w.items?.isSome = true ∧ Path.Unreadable name.toList

/-! ### Steps -/

theorem field_eq_undefined_or_mem (es : List (Value × Value)) (name : String) :
    field es name = .undefined ∨ ∃ e ∈ es, field es name = e.2 := by
  induction es with
  | nil => exact .inl rfl
  | cons e rest ih =>
    obtain ⟨k, v⟩ := e
    rw [field]
    split
    · exact .inr ⟨(k, v), by simp, rfl⟩
    · exact ih.imp id fun ⟨e, he, hv⟩ => ⟨e, List.mem_cons_of_mem _ he, hv⟩

theorem itemAt_cases (v : Value) (i : Nat) :
    v.itemAt i = .undefined ∨ Component (v.itemAt i) v := by
  unfold itemAt
  split
  · rename_i xs hxs
    cases hi : xs[i]? with
    | none => exact .inl rfl
    | some x => exact .inr (.inl ⟨xs, hxs, List.mem_of_getElem? hi⟩)
  · exact .inl rfl

/-- A key of any kind finds a component or nothing. -/
theorem getItem_cases (v key : Value) :
    v.getItem key = .undefined ∨ Component (v.getItem key) v := by
  have hfield (s : String) :
      v.getItem (.text s) = .undefined ∨ Component (v.getItem (.text s)) v := by
    cases hv : v.entries? with
    | none => simp [getItem, hv]
    | some es =>
      simp only [getItem, hv]
      exact (field_eq_undefined_or_mem es s).imp id fun h => .inr ⟨es, hv, h⟩
  cases key with
  | int n =>
    by_cases hn : 0 ≤ n
    · simp only [getItem, if_pos hn]
      exact itemAt_cases v n.toNat
    · simp [getItem, hn]
  | text s | markup s => exact hfield s
  | _ => exact .inl rfl

/-- A name that is not all digits leads nowhere from an array, and one of digits to the item of the
    index that they write. -/
theorem getAttr_of_items {v : Value} {xs : List Value} (hv : v.items? = some xs) (name : String) :
    v.getAttr name =
      if name.toList ≠ [] ∧ name.toList.all Text.isDigit = true then
        if name.toList.all Text.isDecimal = true then
          match Path.index? name.toList with
          | some n => .ok (v.itemAt n)
          | none => .error .badValue
        else .error .badValue
      else .ok .undefined := by
  have hdigits : (!name.toList.isEmpty && name.toList.all Text.isDigit) = true ↔
      name.toList ≠ [] ∧ name.toList.all Text.isDigit = true := by simp
  cases v with
  | list _ | tuple _ => exact if_congr hdigits rfl rfl
  | _ => cases hv

theorem getAttr_of_no_items {v : Value} (hv : v.items? = none) (name : String) :
    ∃ w, v.getAttr name = .ok w := by
  cases v with
  | list _ | tuple _ => cases hv
  | _ => exact ⟨_, rfl⟩

/-- Only digits that are no index make a name fail, and only at an array. -/
theorem getAttr_eq_error {v : Value} {name : String} {f : Failure} :
    v.getAttr name = .error f ↔
      f = .badValue ∧ v.items?.isSome = true ∧ Path.Unreadable name.toList := by
  cases hv : v.items? with
  | none =>
    obtain ⟨w, hw⟩ := getAttr_of_no_items hv name
    simp [hw]
  | some xs =>
    rw [getAttr_of_items hv, Path.Unreadable, ← Path.index?_eq_none]
    split_ifs with hdigits hdecimal
    · cases Path.index? name.toList <;> simp [hdigits, hdecimal, eq_comm]
    · simp [hdigits, hdecimal, eq_comm]
    · simp only [Option.isSome_some, true_and, false_iff]
      exact fun h => hdigits ⟨h.2.1, h.2.2.1⟩

/-! ### Walks -/

theorem walk_undefined (segments : List Segment) : undefined.walk segments = .ok .undefined := by
  cases segments with
  | nil => rfl
  | cons s rest => cases s <;> rfl

/-- A walk goes on from where its first step leads. -/
theorem walk_cons (v : Value) (s : Segment) (rest : List Segment) :
    v.walk (s :: rest) = v.step s >>= fun w => w.walk rest := by
  rw [walk]
  cases v.step s with
  | error f => rfl
  | ok w =>
    cases w with
    | undefined => exact (walk_undefined rest).symm
    | _ => rfl

/-- A walk fails at a name, which does not lead on from where the segments before it do. -/
theorem walk_eq_error {segments : List Segment} {f : Failure} : ∀ {v : Value},
    v.walk segments = .error f ↔ ∃ front name back w,
      segments = front ++ .name name :: back ∧ v.walk front = .ok w ∧
        w.getAttr name = .error f := by
  induction segments with
  | nil => simp [walk]
  | cons s rest ih =>
    intro v
    rw [walk_cons, bind_eq_error]
    constructor
    · rintro (hs | ⟨w, hw, hrest⟩)
      · cases s with
        | name name => exact ⟨[], name, rest, v, rfl, rfl, hs⟩
        | index n => cases hs
      · obtain ⟨front, name, back, x, rfl, hx, herr⟩ := ih.1 hrest
        exact ⟨s :: front, name, back, x, rfl, by rw [walk_cons, hw]; exact hx, herr⟩
    · rintro ⟨front, name, back, x, hsplit, hx, herr⟩
      -- the failing name is the first segment, or it comes after the first has led on
      cases front with
      | nil =>
        cases hsplit
        cases hx
        exact .inl herr
      | cons s' front =>
        cases hsplit
        rw [walk_cons, bind_eq_ok] at hx
        obtain ⟨w, hw, hx⟩ := hx
        exact .inr ⟨w, hw, ih.2 ⟨front, name, back, x, rfl, hx, herr⟩⟩

/-- A path is followed by its segments; the empty one has none. -/
theorem resolve_eq (v : Value) (path : String) :
    v.resolve path = Path.segments path >>= fun
      | none => .ok .undefined
      | some segments => v.walk segments := by
  unfold resolve
  by_cases hempty : path = ""
  · subst hempty
    have hsegments : Path.segments "" = .ok (some []) := by
      simp [Path.segments, Path.segmentsFrom]
    rw [hsegments]
    rfl
  · have hset : path.isEmpty = false := by simpa using hempty
    rw [hset]
    rfl

/-- A path fails iff it cannot be read or leads from an array by digits that are no index. -/
theorem resolve_eq_error {v : Value} {path : String} {f : Failure} :
    v.resolve path = .error f ↔ f = .badValue ∧ v.Trips path := by
  rw [resolve_eq, bind_eq_error, Path.segments_eq_error]
  constructor
  · rintro (⟨hf, hlong⟩ | ⟨o, hsegments, herr⟩)
    · exact ⟨hf, .inl hlong⟩
    · cases o with
      | none => cases herr
      | some segments =>
        obtain ⟨front, name, back, w, rfl, hw, hattr⟩ := walk_eq_error.1 herr
        obtain ⟨hf, hitems, hdigits⟩ := getAttr_eq_error.1 hattr
        exact ⟨hf, .inr ⟨front, name, back, w, hsegments, hw, hitems, hdigits⟩⟩
  · rintro ⟨hf, hlong | ⟨front, name, back, w, hsegments, hw, hitems, hdigits⟩⟩
    · exact .inl ⟨hf, hlong⟩
    · have hattr : w.getAttr name = .error f := getAttr_eq_error.2 ⟨hf, hitems, hdigits⟩
      exact .inr ⟨_, hsegments, walk_eq_error.2 ⟨front, name, back, w, rfl, hw, hattr⟩⟩

/-- Segments that are names take their characters from the path. -/
theorem sublist_of_segments {path : String} {segments : List Segment}
    (h : Path.segments path = .ok (some segments)) {name : String}
    (hname : .name name ∈ segments) : name.toList.Sublist path.toList := by
  unfold Path.segments at h
  split at h
  · cases h
  · obtain ⟨ps, hreads, hps⟩ := Path.reads_of_segmentsFrom _ h
    obtain ⟨p, hp, hchars⟩ := Path.exists_part_of_name hps hname
    rw [← hchars]
    exact hreads.sublist p hp

/-- A path of decimal digits that is not too long to be an index itself never fails. -/
theorem not_trips {v : Value} {path : String} (hlen : path.length ≤ Numeral.maxDigits)
    (hdigits : ∀ c ∈ path.toList, Text.isDigit c = true → Text.isDecimal c = true) :
    ¬v.Trips path := by
  rintro (⟨-, ps, ds, rest, hreads, hlong⟩ | ⟨front, name, back, w, hsegments, -, -, hname⟩)
  · have hle : ds.length ≤ path.toList.length := (hreads.sublist (.index ds) (by simp)).length_le
    rw [String.length_toList] at hle
    omega
  · have hmem : .name name ∈ front ++ .name name :: back := by simp
    have hsub : name.toList.Sublist path.toList := sublist_of_segments hsegments hmem
    obtain ⟨-, hall, hdecimal | hlong⟩ := hname
    · have : name.toList.all Text.isDecimal = true := by
        rw [List.all_eq_true] at hall ⊢
        exact fun c hc => hdigits c (hsub.subset hc) (hall c hc)
      simp [this] at hdecimal
    · have hle : name.toList.length ≤ path.toList.length := hsub.length_le
      rw [String.length_toList (s := path)] at hle
      omega

end Value

namespace Context

theorem contains_eq_error {c : Context} {path : String} {f : Failure} :
    c.contains path = .error f ↔ c.get path = .error f := by
  unfold contains
  simp [bind_eq_error, pure, Except.pure]

/-- Lookups end in a result, with the exception of numerals that cannot be read. A key of any kind
    finds a component of the value or nothing. The segments of a path fail iff it has an index with
    too many digits after well-formed parts, and a name iff it is a numeral with too many digits, or
    with digits that only stand alone, at an array. A path that is followed from a value, or from the
    root of a context, fails iff it has such an index or comes to an array with such a name. -/
theorem lookup_failures (c : Context) (v key : Value) (name path : String) (f : Failure) :
    (v.getItem key = .undefined ∨ (v.getItem key).Component v) ∧
    (Path.segments path = .error f ↔
      f = .badValue ∧ path.toList.head? ≠ some '.' ∧ Path.Overlong path.toList) ∧
    (v.getAttr name = .error f ↔
      f = .badValue ∧ v.items?.isSome = true ∧ Path.Unreadable name.toList) ∧
    (v.resolve path = .error f ↔ f = .badValue ∧ v.Trips path) ∧
    (c.get path = .error f ↔ f = .badValue ∧ c.root.Trips path) ∧
    (c.contains path = .error f ↔ f = .badValue ∧ c.root.Trips path) :=
  ⟨v.getItem_cases key, Path.segments_eq_error, Value.getAttr_eq_error, Value.resolve_eq_error,
    Value.resolve_eq_error, contains_eq_error.trans Value.resolve_eq_error⟩

/-- In a path that is not too long to be an index itself, and whose digits are all decimal ones, no
    numeral is met that cannot be read. -/
theorem get_eq_ok {c : Context} {path : String} (hlen : path.length ≤ Numeral.maxDigits)
    (hdigits : ∀ d ∈ path.toList, Text.isDigit d = true → Text.isDecimal d = true) :
    ∃ w, c.get path = .ok w := by
  cases h : c.get path with
  | ok w => exact ⟨w, rfl⟩
  | error f => exact absurd (Value.resolve_eq_error.1 h).2 (Value.not_trips hlen hdigits)

/-- A superscript is a digit, but no index. -/
theorem superscript_fails : (Value.list [.text "x"]).getAttr "²" = .error .badValue ∧
    ({ entries := [(.text "xs", .list [.text "x"])] } : Context).get "xs.²" = .error .badValue := by
  have hname : Path.Unreadable "²".toList := by decide +kernel
  have hsegments : Path.segments "xs.²" = .ok (some ([.name "xs"] ++ .name "²" :: [])) := by
    decide +kernel
  refine ⟨Value.getAttr_eq_error.2 ⟨rfl, rfl, hname⟩, Value.resolve_eq_error.2 ⟨rfl, .inr ?_⟩⟩
  exact ⟨[.name "xs"], "²", [], .list [.text "x"], hsegments, rfl, rfl, hname⟩

end Context

end Stencil
