import Stencil.Proofs.Access
import Stencil.Proofs.Keyed

/-! What a path says. The paths that can be read are those of a grammar: a name may stand in front,
    and after it come names after points, indexes or quoted keys in brackets, and names directly
    after brackets. Reading goes from the left and takes one part at a time, which is as long as it
    can be, and the part that it takes is the only one that the grammar allows there. So the
    segments of a path are those that the grammar spells, and an address that is printed part by
    part leads to its node. -/

namespace Stencil

namespace Path

/-- A text spells segments. A bare name may stand in front and directly after brackets, of which the
    flag tells; so it ends where a point or a bracket follows. -/
inductive Spells : Bool → List Char → List Segment → Prop where
  | nil {bare} : Spells bare [] []
  | name {rest segments} (n : BareName) (h : Spells false rest segments) :
      Spells true (n.text.toList ++ rest) (.name n.text :: segments)
  | access {bare rest segments} (a : Access) (h : Spells a.isBracketed rest segments) :
      Spells bare (a.text ++ rest) (a.segment :: segments)

/-- No run of digits in brackets has too many of them to be converted. -/
def ShortRuns (cs : List Char) : Prop :=
  ∀ front d back, cs = front ++ (Access.index d).text ++ back → (Access.index d).Short

/-! ### Reading what is spelled -/

/-- Where no bare name may stand, a name in front has ended. -/
theorem Spells.head_of_false {cs : List Char} {segments : List Segment}
    (h : Spells false cs segments) : ∀ c ∈ cs.head?, inName c = false := by
  cases h with
  | nil => simp
  | access a h => cases a <;> rintro _ ⟨⟩ <;> decide

theorem part?_name (n : BareName) {rest : List Char} (hrest : ∀ c ∈ rest.head?, inName c = false) :
    part? (n.text.toList ++ rest) = some (.name n.text.toList, rest) := by
  rw [Access.part?_of_bare (n.head_bare rest),
    Access.nameSegment?_append n.ne_empty n.bare hrest]
  rfl

/-- The first part of what is spelled after the first step is that step. -/
theorem part?_access {a : Access} {rest : List Char} {segments : List Segment}
    (h : Spells a.isBracketed rest segments) : part? (a.text ++ rest) = some (a.part, rest) := by
  cases hbracketed : a.isBracketed with
  | true => exact Access.part?_bracketed hbracketed rest
  | false =>
    rw [hbracketed] at h
    exact Access.part?_text a h.head_of_false

theorem short_of_not_overlong {a : Access} {cs rest : List Char}
    (hpart : part? cs = some (a.part, rest)) (h : ¬Overlong cs) : a.Short := by
  cases a with
  | index d =>
    by_contra hlong
    exact h ((overlong_of_part hpart).2 (.inl ⟨d.chars, rfl, Nat.lt_of_not_le hlong⟩))
  | name n => trivial
  | key q s hq => trivial

/-- What is spelled is read, unless an index has too many digits. -/
theorem segmentsFrom_of_spells {bare : Bool} {cs : List Char} {segments : List Segment}
    (h : Spells bare cs segments) (hlong : ¬Overlong cs) :
    segmentsFrom cs = .ok (some segments) := by
  induction h with
  | nil => simp [segmentsFrom]
  | name n h ih =>
    have hpart := part?_name n h.head_of_false
    have hrest := ih fun hrest => hlong ((overlong_of_part hpart).2 (.inr hrest))
    rw [segmentsFrom_of_part hpart, hrest, Part.segment, String.ofList_toList]
    rfl
  | access a h ih =>
    have hpart := part?_access h
    have hrest := ih fun hrest => hlong ((overlong_of_part hpart).2 (.inr hrest))
    rw [segmentsFrom_of_part hpart, hrest, Access.segment_part (short_of_not_overlong hpart hlong)]
    rfl

/-! ### Spelling what is read -/

theorem head?_dropWhile {p : Char → Bool} {cs : List Char} :
    ∀ c ∈ (cs.dropWhile p).head?, p c = false := by
  intro c hc
  have h := List.head?_dropWhile_not p cs
  rw [Option.mem_def.1 hc] at h
  simpa using h

theorem exists_of_nameSegment {cs name rest : List Char} (h : nameSegment? cs = some (name, rest)) :
    ∃ n : BareName, name = n.text.toList ∧ cs = name ++ rest ∧
      ∀ c ∈ rest.head?, inName c = false := by
  unfold nameSegment? at h
  split at h
  · cases h
  · rename_i _ hne
    cases h
    refine ⟨⟨String.ofList (cs.takeWhile inName), by simpa using hne, by simp⟩, by simp,
      List.takeWhile_append_dropWhile.symm, head?_dropWhile⟩

theorem eq_of_quotedSegment {q : Char} {cs key rest : List Char}
    (h : quotedSegment? q cs = some (key, rest)) : cs = key ++ q :: ']' :: rest ∧ q ∉ key := by
  unfold quotedSegment? at h
  split at h
  · rename_i c tail hd
    cases h
    have hc : c = q := by
      have hhead : (cs.dropWhile (· != q)).head? = some c := by rw [hd]; rfl
      have hstop := head?_dropWhile c hhead
      simpa using hstop
    refine ⟨?_, fun hq => ?_⟩
    · subst hc
      rw [← hd]
      exact List.takeWhile_append_dropWhile.symm
    · simpa using List.all_eq_true.1 List.all_takeWhile q hq
  · cases h

theorem exists_of_indexSegment {cs ds rest : List Char} (h : indexSegment? cs = some (ds, rest)) :
    ∃ d : IndexDigits, d.chars = ds ∧ cs = ds ++ ']' :: rest := by
  unfold indexSegment? at h
  split at h
  · cases h
  · rename_i hd hne
    cases h
    refine ⟨⟨cs.takeWhile Text.isDecimal, hne, List.all_takeWhile⟩, rfl, ?_⟩
    rw [← hd]
    exact List.takeWhile_append_dropWhile.symm
  · cases h

/-- A part is a bare name or a step; a name reaches as far as it can. -/
theorem exists_of_part {cs rest : List Char} {p : Part} (h : part? cs = some (p, rest)) :
    (∃ n : BareName, cs = n.text.toList ++ rest ∧ p = .name n.text.toList ∧
      (∀ c ∈ rest.head?, inName c = false) ∧ ∀ c ∈ cs.head?, inName c = true) ∨
    ∃ a : Access, cs = a.text ++ rest ∧ p = a.part ∧
      (a.isBracketed = false → ∀ c ∈ rest.head?, inName c = false) := by
  unfold part? at h
  split at h <;> simp only [Option.map_eq_some_iff, Prod.mk.injEq] at h <;>
    obtain ⟨⟨taken, left⟩, hs, rfl, rfl⟩ := h
  · obtain ⟨n, rfl, rfl, hstop⟩ := exists_of_nameSegment hs
    exact .inr ⟨.name n, rfl, rfl, fun _ => hstop⟩
  · obtain ⟨rfl, hq⟩ := eq_of_quotedSegment hs
    exact .inr ⟨.key .double (String.ofList taken) (by simpa [Quote.char] using hq),
      by simp [Access.text, Quote.char], by simp [Access.part], by simp [Access.isBracketed]⟩
  · obtain ⟨rfl, hq⟩ := eq_of_quotedSegment hs
    exact .inr ⟨.key .single (String.ofList taken) (by simpa [Quote.char] using hq),
      by simp [Access.text, Quote.char], by simp [Access.part], by simp [Access.isBracketed]⟩
  · obtain ⟨d, rfl, rfl⟩ := exists_of_indexSegment hs
    exact .inr ⟨.index d, by simp [Access.text], rfl, by simp [Access.isBracketed]⟩
  · obtain ⟨n, rfl, rfl, hstop⟩ := exists_of_nameSegment hs
    exact .inl ⟨n, rfl, rfl, hstop, n.head_bare left⟩

theorem segment_of_part {a : Access} {s : Segment} (h : a.part.segment = .ok s) : s = a.segment := by
  cases a with
  | name n | key q t hq =>
    simp only [Access.part, Part.segment, String.ofList_toList, Except.ok.injEq] at h
    exact h.symm
  | index d =>
    have hshort : (Access.index d).Short := by
      by_contra hlong
      have herror := Part.segment_eq_error.2 ⟨rfl, d.chars, rfl, Nat.lt_of_not_le hlong⟩
      cases h.symm.trans herror
    rw [Access.segment_part hshort] at h
    exact (Except.ok.inj h).symm

/-- What is read is spelled. -/
theorem spells_of_segmentsFrom (cs : List Char) {bare : Bool} {segments : List Segment}
    (hbare : bare = true ∨ ∀ c ∈ cs.head?, inName c = false)
    (h : segmentsFrom cs = .ok (some segments)) : Spells bare cs segments := by
  cases hp : part? cs with
  | none =>
    cases cs with
    | nil =>
      simp only [segmentsFrom, Except.ok.injEq, Option.some.injEq] at h
      exact h ▸ .nil
    | cons c tail =>
      rw [segmentsFrom_of_none (List.cons_ne_nil c tail) hp] at h
      cases h
  | some q =>
    obtain ⟨p, rest⟩ := q
    have hless := length_part hp
    rw [segmentsFrom_of_part hp] at h
    simp only [bind_eq_ok, pure_eq_ok, Option.map_eq_some_iff] at h
    obtain ⟨s, hs, _, hmore, more, rfl, rfl⟩ := h
    -- a bare name stands at the beginning or behind a point; any other part begins with its own
    -- mark
    rcases exists_of_part hp with ⟨n, rfl, rfl, hstop, hhead⟩ | ⟨a, rfl, rfl, hstop⟩
    · obtain rfl : bare = true := by
        refine hbare.resolve_right fun hnone => ?_
        obtain ⟨c, tail, hc⟩ := List.exists_cons_of_ne_nil n.ne_empty
        have hmem : c ∈ (n.text.toList ++ rest).head? := by simp [hc]
        simpa [hhead c hmem] using hnone c hmem
      obtain rfl : Segment.name n.text = s := by simpa [Part.segment] using hs
      exact .name n (spells_of_segmentsFrom rest (.inr hstop) hmore)
    · obtain rfl := segment_of_part hs
      refine .access a (spells_of_segmentsFrom rest ?_ hmore)
      cases hbracketed : a.isBracketed with
      | true => exact .inl rfl
      | false => exact .inr (hstop hbracketed)
termination_by cs.length

/-! ### Runs of digits -/

/-- An index that a path has is a run of digits in brackets. -/
theorem exists_run {cs rest : List Char} {ps : List Part} {ds : List Char} (h : Reads cs ps rest)
    (hds : .index ds ∈ ps) :
    ∃ front d back, cs = front ++ (Access.index d).text ++ back ∧ d.chars = ds := by
  induction h with
  | done => cases hds
  | @part cs mid rest p ps hp _ ih =>
    rcases List.mem_cons.1 hds with rfl | hds
    · rcases exists_of_part hp with ⟨n, -, hname, -⟩ | ⟨a, rfl, hpart, -⟩
      · cases hname
      · cases a with
        | index d =>
          cases hpart
          exact ⟨[], d, mid, rfl, rfl⟩
        | name n | key q s hq => cases hpart
    · obtain ⟨front, d, back, rfl, hchars⟩ := ih hds
      rcases exists_of_part hp with ⟨n, rfl, -⟩ | ⟨a, rfl, -⟩
      · exact ⟨n.text.toList ++ front, d, back, by simp, hchars⟩
      · exact ⟨a.text ++ front, d, back, by simp, hchars⟩

theorem not_overlong_of_shortRuns {cs : List Char} (h : ShortRuns cs) : ¬Overlong cs := by
  rintro ⟨ps, ds, rest, hreads, hlong⟩
  obtain ⟨front, d, back, hcs, rfl⟩ :=
    exists_run hreads (List.mem_append_right ps (List.mem_singleton_self (Part.index ds)))
  exact Nat.not_lt.2 (h front d back hcs) hlong

/-- A path that is not too long to be an index itself has no run that is. -/
theorem shortRuns_of_length {cs : List Char} (h : cs.length ≤ Numeral.maxDigits) :
    ShortRuns cs := by
  rintro front d back rfl
  simp only [List.length_append, Access.text, List.length_cons] at h
  change d.chars.length ≤ Numeral.maxDigits
  omega

/-- The segments of a path that does not begin with a point are those that it spells. -/
theorem segments_eq_some {path : String} {segments : List Segment} (h : ¬Overlong path.toList) :
    Path.segments path = .ok (some segments) ↔
      path.toList.head? ≠ some '.' ∧ Spells true path.toList segments := by
  unfold Path.segments
  split
  · rename_i hpoint
    simp [hpoint]
  · rename_i hnot
    have hhead : path.toList.head? ≠ some '.' := fun h => by
      obtain ⟨rest, hrest⟩ := List.head?_eq_some_iff.1 h
      exact hnot rest hrest
    exact ⟨fun hs => ⟨hhead, spells_of_segmentsFrom _ (.inl rfl) hs⟩,
      fun hs => segmentsFrom_of_spells hs.2 h⟩

/-! ### Indexes as they are printed -/

/-- A decimal digit has the value that it writes. -/
theorem decimalValue?_of_isDigit {c : Char} (h : c.isDigit = true) :
    Text.decimalValue? c = some (c.toNat - '0'.toNat) := by
  have hlo : 48 ≤ c.toNat := by simpa using (Char.isDigit_iff_toNat.1 h).1
  have hhi : c.toNat ≤ 57 := by simpa using (Char.isDigit_iff_toNat.1 h).2
  rw [Text.decimalValue?, Text.decimalRanges, Text.placeValue?, if_neg (by omega), if_pos hhi]
  congr 1
  change (c.toNat - 48) % 10 = c.toNat - 48
  omega

theorem isDecimal_of_isDigit {c : Char} (h : c.isDigit = true) : Text.isDecimal c = true := by
  rw [← Text.decimalValue?_isSome, decimalValue?_of_isDigit h]
  rfl

theorem ofDigits_eq {cs : List Char} (h : ∀ c ∈ cs, c.isDigit = true) (n : Nat) :
    (cs.filterMap Text.decimalValue?).foldl (fun n d => n * 10 + d) n =
      Nat.ofDigitChars 10 cs n := by
  induction cs generalizing n with
  | nil => rfl
  | cons c cs ih =>
    obtain ⟨hc, hcs⟩ := List.forall_mem_cons.1 h
    rw [List.filterMap_cons_some (decimalValue?_of_isDigit hc), List.foldl_cons, ih hcs,
      Nat.ofDigitChars_cons, Nat.mul_comm]

/-- An index in decimal digits. -/
def decimal (i : Nat) : IndexDigits where
  chars := Nat.toDigits 10 i
  ne_nil := Nat.toDigits_ne_nil
  decimal := List.all_eq_true.2 fun _ hc =>
    isDecimal_of_isDigit (Nat.isDigit_of_mem_toDigits (by decide) (by decide) hc)

theorem number_decimal (i : Nat) : (decimal i).number = i := by
  have hdigits : ∀ c ∈ Nat.toDigits 10 i, c.isDigit = true := fun c hc =>
    Nat.isDigit_of_mem_toDigits (by decide) (by decide) hc
  exact (ofDigits_eq hdigits 0).trans Nat.ofDigitChars_ten_toDigits

/-! ### Addresses -/

/-- A step as an address prints it: an index in decimal digits or a key in quotes, in brackets. -/
def IsPrinted : Access → Prop
  | .name _ => False
  | .index d => d.chars = Nat.toDigits 10 d.number
  | .key .. => True

theorem isPrinted_decimal (i : Nat) : IsPrinted (.index (decimal i)) := by
  rw [IsPrinted, number_decimal]
  rfl

/-- An address has a printed form, if no key of it has quotes of both kinds. -/
theorem exists_printed {address : List Segment}
    (hquotes : ∀ s, .name s ∈ address → '"' ∉ s.toList ∨ '\'' ∉ s.toList) :
    ∃ as : List Access, as.map Access.segment = address ∧ ∀ a ∈ as, IsPrinted a := by
  induction address with
  | nil => exact ⟨[], rfl, by simp⟩
  | cons s address ih =>
    obtain ⟨as, rfl, has⟩ := ih fun t ht => hquotes t (List.mem_cons_of_mem s ht)
    have hs : ∃ a : Access, a.segment = s ∧ IsPrinted a := by
      cases s with
      | index i =>
        exact ⟨.index (decimal i), congrArg Segment.index (number_decimal i), isPrinted_decimal i⟩
      | name t =>
        rcases hquotes t (List.mem_cons_self ..) with hdouble | hsingle
        · exact ⟨.key .double t hdouble, rfl, trivial⟩
        · exact ⟨.key .single t hsingle, rfl, trivial⟩
    obtain ⟨a, rfl, ha⟩ := hs
    exact ⟨a :: as, rfl, List.forall_mem_cons.2 ⟨ha, has⟩⟩

/-- A printed address is read back. -/
theorem segments_printed {as : List Access} (has : ∀ a ∈ as, IsPrinted a)
    (hshort : ∀ i, .index i ∈ as.map Access.segment →
      (Nat.toDigits 10 i).length ≤ Numeral.maxDigits) :
    Path.segments (String.ofList (as.flatMap Access.text)) = .ok (some (as.map Access.segment)) := by
  have hread : segmentsFrom (as.flatMap Access.text) = .ok (some (as.map Access.segment)) := by
    rw [segmentsFrom_of_reads (Access.reads_texts as), Access.mapM_segment]
    · rfl
    · intro a ha
      cases a with
      | index d =>
        have hlength := hshort d.number (List.mem_map_of_mem ha)
        rwa [← show d.chars = _ from has _ ha] at hlength
      | name n => trivial
      | key q s hq => trivial
  unfold Path.segments
  rw [String.toList_ofList]
  split
  · rename_i hpoint
    cases as with
    | nil => cases hpoint
    | cons a as =>
      cases a with
      | name n => exact (has _ (List.mem_cons_self ..)).elim
      | index d | key q s hq => cases hpoint
  · exact hread

end Path

namespace Value

/-- The node of a value at an address, a list of indexes of arrays and keys of objects. -/
inductive NodeAt : Value → List Segment → Value → Prop where
  | root {v} : NodeAt v [] v
  | item {v xs i x rest w} (hv : v.items? = some xs) (hx : xs[i]? = some x)
      (h : NodeAt x rest w) : NodeAt v (.index i :: rest) w
  | entry {es e s rest w} (he : e ∈ es) (hs : e.1.text? = some s) (h : NodeAt e.2 rest w) :
      NodeAt (.object es) (.name s :: rest) w

/-- The segments of an address lead to its node. -/
theorem walk_of_nodeAt {v w : Value} {address : List Segment} (h : NodeAt v address w)
    (hv : v.Keyed) : v.walk address = .ok w := by
  induction h with
  | root => rfl
  | @item v xs i x rest w hitems hx _ ih =>
    have hstep : v.step (.index i) = .ok x := by simp [step, itemAt, hitems, hx]
    rw [walk_cons, hstep]
    exact ih (hv.of_items hitems x (List.mem_of_getElem? hx))
  | @entry es e s rest w he hs _ ih =>
    obtain ⟨-, hnodup, hkeyed⟩ := hv.of_entries
    have hstep : (Value.object es).step (.name s) = .ok e.2 := by
      simp [step, getAttr, field_of_mem hnodup he hs]
    rw [walk_cons, hstep]
    exact ih (hkeyed e he)

end Value

namespace Path

/-- Paths are read as the grammar spells them, and every node of a value has a path. If a path has no
    run of digits in brackets that is too long to be converted, it can be read or is malformed: its
    segments are some segments iff it does not begin with a point and spells them. The empty path
    leads to the value itself. The address of a node has a printed form, if no key of it has quotes
    of both kinds; and each printed form leads to the node, if no index is too long. -/
theorem reads_as_spelled :
    (∀ path : String, ShortRuns path.toList → (∃ r, segments path = .ok r) ∧
      ∀ s, segments path = .ok (some s) ↔
        path.toList.head? ≠ some '.' ∧ Spells true path.toList s) ∧
    (∀ v : Value, v.resolve "" = .ok v) ∧
    ∀ (v w : Value) (address : List Segment), v.Keyed → v.NodeAt address w →
      (∀ i, .index i ∈ address → (Nat.toDigits 10 i).length ≤ Numeral.maxDigits) →
      (∀ s, .name s ∈ address → '"' ∉ s.toList ∨ '\'' ∉ s.toList) →
      (∃ as : List Access, as.map Access.segment = address ∧ ∀ a ∈ as, IsPrinted a) ∧
      ∀ as : List Access, as.map Access.segment = address → (∀ a ∈ as, IsPrinted a) →
        v.resolve (String.ofList (as.flatMap Access.text)) = .ok w := by
  refine ⟨fun path hruns => ⟨?_, fun s => ?_⟩, fun v => rfl, ?_⟩
  · cases h : segments path with
    | ok r => exact ⟨r, rfl⟩
    | error f =>
      exact absurd (segments_eq_error.1 h).2.2 (not_overlong_of_shortRuns hruns)
  · exact segments_eq_some (not_overlong_of_shortRuns hruns)
  · intro v w address hv hnode hshort hquotes
    refine ⟨exists_printed hquotes, ?_⟩
    rintro as rfl has
    rw [Value.resolve_eq, segments_printed has hshort]
    exact Value.walk_of_nodeAt hnode hv

/-- An array of objects, one of whose keys has quotes in it. -/
def shelf : Value :=
  .object [(.text "books", .list [.null, .object [(.text "by \"line\"", .text "A. Reader")]])]

theorem keyed_shelf : shelf.Keyed := by
  have hbook : Value.Keyed (.object [(.text "by \"line\"", .text "A. Reader")]) :=
    .object (by simp [Value.text?]) (by simp) (by simpa using .atom rfl rfl)
  have hbooks : Value.Keyed
      (.list [.null, .object [(.text "by \"line\"", .text "A. Reader")]]) :=
    .items rfl (by simpa using ⟨.atom rfl rfl, hbook⟩)
  exact .object (by simp [Value.text?]) (by simp) (by simpa using hbooks)

theorem reads_as_spelled_shelf :
    segments "books[12]x['a.b'].c" =
      .ok (some [.name "books", .index 12, .name "x", .name "a.b", .name "c"]) ∧
    shelf.resolve "[\"books\"][1]['by \"line\"']" = .ok (.text "A. Reader") := by
  obtain ⟨hread, -, haddress⟩ := reads_as_spelled
  constructor
  · have hspells := Spells.name ⟨"books", by decide, by decide⟩ <|
      .access (.index ⟨['1', '2'], by decide, by decide +kernel⟩) <|
      .name ⟨"x", by decide, by decide⟩ <| .access (.key .single "a.b" (by decide)) <|
      .access (.name ⟨"c", by decide, by decide⟩) .nil
    have hnumber : Numeral.ofDigits 10 (['1', '2'].filterMap Text.decimalValue?) = 12 := by
      decide +kernel
    simp only [Access.segment, IndexDigits.number, hnumber] at hspells
    have hruns : ShortRuns "books[12]x['a.b'].c".toList := shortRuns_of_length (by decide)
    exact ((hread _ hruns).2 _).2 ⟨by decide, hspells⟩
  · have hnode : shelf.NodeAt [.name "books", .index 1, .name "by \"line\""]
        (.text "A. Reader") :=
      .entry (List.mem_singleton_self _) rfl <| .item rfl rfl <|
        .entry (List.mem_singleton_self _) rfl .root
    have hprinted := (haddress shelf (.text "A. Reader") _ keyed_shelf hnode ?_ ?_).2
      [.key .double "books" (by decide), .index (decimal 1), .key .single "by \"line\"" (by decide)]
    · refine hprinted (by simp [Access.segment, number_decimal]) fun a ha => ?_
      simp only [List.mem_cons, List.not_mem_nil, or_false] at ha
      rcases ha with rfl | rfl | rfl
      · trivial
      · exact isPrinted_decimal 1
      · trivial
    · intro i hi
      obtain rfl : i = 1 := by simpa using hi
      decide
    · intro t ht
      have ht : t = "books" ∨ t = "by \"line\"" := by simpa using ht
      rcases ht with rfl | rfl
      · exact .inl (by decide)
      · exact .inr (by decide)

end Path

end Stencil
