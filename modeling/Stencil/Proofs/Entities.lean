import Mathlib.Logic.Function.Basic
import Stencil.Proofs.Colouring
import Stencil.Proofs.Passing

/-! Entities. A format writes each of its special characters as an entity and all others as
    themselves. All entities begin with an ampersand and have no other one in them, and none begins
    another, so that a text is read back from its escaped form, whatever in it looks like an entity
    itself. The escaped texts are those that have no special character but ampersands, each of
    which begins an entity. -/

namespace Stencil

namespace Text

/-- A format that texts are escaped for. -/
inductive Format where
  | html
  | xml

namespace Format

/-- The special characters of a format with their entities. -/
def entities : Format → List (Char × List Char)
  | html =>
    [('&', "&amp;".toList), ('<', "&lt;".toList), ('>', "&gt;".toList), ('"', "&quot;".toList),
     ('\'', "&#x27;".toList), ('/', "&#x2F;".toList)]
  | xml =>
    [('&', "&amp;".toList), ('<', "&lt;".toList), ('>', "&gt;".toList), ('"', "&quot;".toList),
     ('\'', "&apos;".toList)]

/-- The characters that have entities. -/
def special (f : Format) : List Char := f.entities.map Prod.fst

/-- How a character is written. -/
def written : Format → Char → List Char
  | html => htmlEntity
  | xml => xmlEntity

/-- The escaped text. -/
def escape : Format → String → String
  | html => escapeHtml
  | xml => escapeXml

/-- A text that is read from the left, after some characters that are not read: where an entity
    begins, its character stands for it. -/
def read (f : Format) : Nat → List Char → List Char
  | _, [] => []
  | n + 1, _ :: cs => read f n cs
  | 0, c :: cs =>
    match f.entities.find? fun p => p.2.isPrefixOf (c :: cs) with
    | some p => p.1 :: read f (p.2.length - 1) cs
    | none => c :: read f 0 cs

/-- The text with each entity replaced by its character. -/
def unescape (f : Format) (s : String) : String := String.ofList (f.read 0 s.toList)

/-- A text without special characters but for ampersands, each of which begins an entity. -/
structure Escaped (f : Format) (cs : List Char) : Prop where
  ordinary : ∀ c ∈ cs, c ∈ f.special → c = '&'
  begins : ∀ before after, cs = before ++ '&' :: after → ∃ p ∈ f.entities, p.2 <+: '&' :: after

variable {f : Format}

/-! ### The entities -/

theorem ampersand_special (f : Format) : '&' ∈ f.special := by
  cases f <;> decide

/-- An entity begins with the only ampersand in it, and has no other special character. -/
theorem exists_tail {p : Char × List Char} (hp : p ∈ f.entities) :
    ∃ tail, p.2 = '&' :: tail ∧ ∀ c ∈ tail, c ∉ f.special := by
  have hall : ∀ p ∈ f.entities,
      p.2 = '&' :: p.2.tail ∧ p.2.tail.all (fun c => c ∉ f.special) = true := by
    cases f <;> decide
  obtain ⟨hhead, hplain⟩ := hall p hp
  exact ⟨p.2.tail, hhead, by simpa using hplain⟩

/-- No entity begins another one. -/
theorem eq_of_begins {p q : Char × List Char} (hp : p ∈ f.entities) (hq : q ∈ f.entities)
    (h : p.2 <+: q.2) : p = q := by
  have hall : ∀ p ∈ f.entities, ∀ q ∈ f.entities, p.2 <+: q.2 → p = q := by
    cases f <;> decide
  exact hall p hp q hq h

/-- A special character is written as its entity. -/
theorem written_special {p : Char × List Char} (hp : p ∈ f.entities) : f.written p.1 = p.2 := by
  have hall : ∀ p ∈ f.entities, f.written p.1 = p.2 := by
    cases f <;> decide
  exact hall p hp

/-- Any other character is written as itself. -/
theorem written_ordinary {c : Char} (hc : c ∉ f.special) : f.written c = [c] := by
  cases f with
  | html =>
    rw [written, htmlEntity.eq_def]
    split
    case h_7 => rfl
    all_goals exact absurd (by decide) hc
  | xml =>
    rw [written, xmlEntity.eq_def]
    split
    case h_6 => rfl
    all_goals exact absurd (by decide) hc

/-- Every character is written as its entity if it has one, and as itself if not. -/
theorem written_cases (f : Format) (c : Char) :
    (∃ p ∈ f.entities, p.1 = c ∧ f.written c = p.2) ∨ (c ∉ f.special ∧ f.written c = [c]) := by
  by_cases hc : c ∈ f.special
  · obtain ⟨p, hp, rfl⟩ := List.mem_map.1 hc
    exact .inl ⟨p, hp, rfl, written_special hp⟩
  · exact .inr ⟨hc, written_ordinary hc⟩

/-! ### Reading -/

theorem read_skip (f : Format) : ∀ (n : Nat) (cs : List Char), f.read n cs = f.read 0 (cs.drop n)
  | 0, cs => by rw [List.drop_zero]
  | n + 1, [] => by rw [List.drop_nil, read, read]
  | n + 1, c :: cs => by
    rw [read, read_skip f n cs, List.drop_succ_cons]

/-- An entity in front is read as its character. -/
theorem read_entity {p : Char × List Char} (hp : p ∈ f.entities) (rest : List Char) :
    f.read 0 (p.2 ++ rest) = p.1 :: f.read 0 rest := by
  obtain ⟨tail, htail, -⟩ := exists_tail hp
  have hfound : f.entities.find? (fun q => q.2.isPrefixOf (p.2 ++ rest)) = some p := by
    cases hfind : f.entities.find? fun q => q.2.isPrefixOf (p.2 ++ rest) with
    | none =>
      rw [List.find?_eq_none] at hfind
      exact absurd (List.isPrefixOf_iff_prefix.2 (List.prefix_append p.2 rest)) (hfind p hp)
    | some q =>
      -- of two entities that begin one text one begins the other
      have hq : q ∈ f.entities := List.mem_of_find?_eq_some hfind
      have hbegins := List.find?_some hfind
      rw [List.isPrefixOf_iff_prefix] at hbegins
      rcases List.prefix_or_prefix_of_prefix hbegins (List.prefix_append p.2 rest) with h | h
      · rw [eq_of_begins hq hp h]
      · rw [eq_of_begins hp hq h]
  have hlength : p.2.length - 1 = tail.length := by rw [htail, List.length_cons, Nat.add_sub_cancel]
  rw [htail, List.cons_append] at hfound ⊢
  rw [read, hfound]
  dsimp only
  rw [hlength, read_skip, List.drop_left]

/-- A character that is not special is read as itself. -/
theorem read_ordinary {c : Char} (hc : c ∉ f.special) (rest : List Char) :
    f.read 0 (c :: rest) = c :: f.read 0 rest := by
  have hnone : f.entities.find? (fun q => q.2.isPrefixOf (c :: rest)) = none := by
    refine List.find?_eq_none.2 fun q hq hbegin => ?_
    obtain ⟨tail, htail, -⟩ := exists_tail hq
    rw [htail, List.isPrefixOf_iff_prefix, List.cons_prefix_cons] at hbegin
    exact hc (hbegin.1 ▸ ampersand_special f)
  rw [read, hnone]

/-- What is written for a character is read as the character. -/
theorem read_written (f : Format) (c : Char) (rest : List Char) :
    f.read 0 (f.written c ++ rest) = c :: f.read 0 rest := by
  rcases written_cases f c with ⟨p, hp, rfl, hwritten⟩ | ⟨hc, hwritten⟩
  · rw [hwritten, read_entity hp]
  · rw [hwritten, List.singleton_append, read_ordinary hc]

/-- What is written for a text is read as the text. -/
theorem read_flatMap_written (f : Format) (cs : List Char) :
    f.read 0 (cs.flatMap f.written) = cs := by
  induction cs with
  | nil => rfl
  | cons c cs ih => rw [List.flatMap_cons, read_written, ih]

/-! ### Escaped texts -/

namespace Escaped

/-- A text without special characters is escaped as it is. -/
theorem of_plain {cs : List Char} (h : ∀ c ∈ cs, c ∉ f.special) : f.Escaped cs where
  ordinary c hc hspecial := absurd hspecial (h c hc)
  begins before after hcs := by
    have hmem : '&' ∈ cs := by
      rw [hcs]
      simp
    exact absurd (ampersand_special f) (h '&' hmem)

/-- An entity is escaped. -/
theorem entity {p : Char × List Char} (hp : p ∈ f.entities) : f.Escaped p.2 := by
  obtain ⟨tail, htail, hplain⟩ := exists_tail hp
  constructor
  case ordinary =>
    intro c hc hspecial
    rw [htail] at hc
    rcases List.mem_cons.1 hc with rfl | hc
    · rfl
    · exact absurd hspecial (hplain c hc)
  case begins =>
    intro before after h
    cases before with
    | nil => exact ⟨p, hp, h ▸ List.prefix_rfl⟩
    | cons c before =>
      have hsplit : tail = before ++ '&' :: after := (List.cons.inj (htail.symm.trans h)).2
      exact (of_plain hplain).begins before after hsplit

theorem append {cs ds : List Char} (hcs : f.Escaped cs) (hds : f.Escaped ds) :
    f.Escaped (cs ++ ds) where
  ordinary c hc := by
    rcases List.mem_append.1 hc with hc | hc
    · exact hcs.ordinary c hc
    · exact hds.ordinary c hc
  begins before after h := by
    rcases List.append_eq_append_iff.1 h with ⟨middle, -, hmiddle⟩ | ⟨middle, hbefore, hmiddle⟩
    · exact hds.begins middle after hmiddle
    · cases middle with
      | nil => exact hds.begins [] after hmiddle.symm
      | cons c middle =>
        obtain ⟨rfl, rfl⟩ := List.cons.inj hmiddle
        obtain ⟨p, hp, hbegin⟩ := hcs.begins before middle hbefore
        exact ⟨p, hp, hbegin.trans (List.prefix_append ('&' :: middle) ds)⟩

theorem of_append {cs ds : List Char} (h : f.Escaped (cs ++ ds)) : f.Escaped ds where
  ordinary c hc := h.ordinary c (List.mem_append_right cs hc)
  begins before after hds :=
    h.begins (cs ++ before) after (by rw [hds, List.append_assoc])

/-- What is written for a character is escaped. -/
theorem written (f : Format) (c : Char) : f.Escaped (f.written c) := by
  rcases written_cases f c with ⟨p, hp, -, hwritten⟩ | ⟨hc, hwritten⟩
  · rw [hwritten]
    exact entity hp
  · rw [hwritten]
    exact of_plain (List.forall_mem_singleton.2 hc)

/-- What is written for a text is escaped. -/
theorem flatMap_written (f : Format) (cs : List Char) : f.Escaped (cs.flatMap f.written) := by
  induction cs with
  | nil => exact of_plain (List.forall_mem_nil _)
  | cons c cs ih =>
    rw [List.flatMap_cons]
    exact (written f c).append ih

/-- An escaped text begins with an entity or with a character that is not special. -/
theorem cases_cons {c : Char} {rest : List Char} (h : f.Escaped (c :: rest)) :
    (∃ p ∈ f.entities, ∃ after, c :: rest = p.2 ++ after) ∨ c ∉ f.special := by
  by_cases hc : c ∈ f.special
  · obtain rfl := h.ordinary c List.mem_cons_self hc
    obtain ⟨p, hp, after, hafter⟩ := h.begins [] rest rfl
    exact .inl ⟨p, hp, after, hafter.symm⟩
  · exact .inr hc

/-- An escaped text is what is written for the text that it is read as. -/
theorem flatMap_read {cs : List Char} (h : f.Escaped cs) :
    (f.read 0 cs).flatMap f.written = cs := by
  match cs with
  | [] => rfl
  | c :: rest =>
    rcases h.cases_cons with ⟨p, hp, after, hsplit⟩ | hc
    · obtain ⟨tail, htail, -⟩ := exists_tail hp
      have hshorter : after.length < rest.length + 1 := by
        rw [← List.length_cons, hsplit, htail, List.length_append, List.length_cons]
        omega
      rw [hsplit] at h ⊢
      rw [read_entity hp, List.flatMap_cons, written_special hp, flatMap_read h.of_append]
    · have hcons : f.Escaped ([c] ++ rest) := h
      rw [read_ordinary hc, List.flatMap_cons, written_ordinary hc, flatMap_read hcons.of_append,
        List.singleton_append]
-- an entity is read at once, so that what is left is a shorter text but not the tail
termination_by cs.length

end Escaped

/-! ### Strings and values -/

theorem toList_escape (f : Format) (s : String) :
    (f.escape s).toList = s.toList.flatMap f.written := by
  cases f <;> exact String.toList_ofList

/-- Escaping a text and reading it gives the text. -/
theorem unescape_escape (f : Format) (s : String) : f.unescape (f.escape s) = s := by
  rw [unescape, toList_escape, read_flatMap_written, String.ofList_toList]

theorem escape_unescape {t : String} (h : f.Escaped t.toList) : f.escape (f.unescape t) = t := by
  rw [← String.toList_inj, toList_escape, unescape, String.toList_ofList, h.flatMap_read]

theorem escape_append (f : Format) (s t : String) :
    f.escape (s ++ t) = f.escape s ++ f.escape t := by
  rw [← String.toList_inj]
  simp [toList_escape]

theorem escape_join (f : Format) : ∀ chunks : List String,
    f.escape (String.join chunks) = String.join (chunks.map f.escape)
  | [] => by cases f <;> rfl
  | s :: chunks => by
    rw [List.map_cons, String.join_cons, String.join_cons, escape_append, escape_join f chunks]

/-- The function by which a host escapes a value. -/
def function : Format → String
  | html => "html_escape"
  | xml => "xml_escape"

/-- The filter by which a template escapes a value. -/
def filter : Format → String
  | html => "escape"
  | xml => "escape_xml"

end Format

end Text

namespace Filter

/-- What the filter of a name makes of its operand, if there is one. -/
def answer (name : String) (v : Value) : Option (Except Halt Value) :=
  (all.get? name).map fun c => c.call { args := [v] }

end Filter

namespace Text.Format

variable {f : Format}

theorem function_text (f : Format) (color : Bool) (s : String) :
    Toolkit.answer color f.function [.text s] = some (.ok (.text (f.escape s))) := by
  cases f <;> rfl

theorem function_markup (f : Format) (color : Bool) (s : String) :
    Toolkit.answer color f.function [.markup s] = some (.ok (.text s)) := by
  cases f <;> rfl

theorem filter_text (f : Format) (s : String) :
    Filter.answer f.filter (.text s) = some (.ok (.markup (f.escape s))) := by
  cases f <;> rfl

theorem filter_markup (f : Format) (s : String) :
    Filter.answer f.filter (.markup s) = some (.ok (.markup s)) := by
  cases f <;> rfl

/-- A safe filter makes a text that is marked safe. -/
theorem markup_of_isSafe {name : String} {v w : Value} (hname : Filter.isSafe name = true)
    (h : Filter.answer name v = some (.ok w)) : ∃ s, w = .markup s := by
  have hcases : name = "safe" ∨ name = "escape" ∨ name = "escape_xml" := by
    simpa [Filter.isSafe] using hname
  rcases hcases with rfl | rfl | rfl
  · have hsafe : Capability.lift (Filter.safe v) = .ok w := Option.some.inj h
    exact Filter.markup_safe (Capability.lift_eq_ok.1 hsafe)
  · have hescape : Capability.lift (Filter.escape v) = .ok w := Option.some.inj h
    exact Filter.markup_escapeWith (Capability.lift_eq_ok.1 hescape)
  · have hescape : Capability.lift (Filter.escapeXml v) = .ok w := Option.some.inj h
    exact Filter.markup_escapeWith (Capability.lift_eq_ok.1 hescape)

/-- **Escaping loses nothing and leaves nothing special.** A text escaped in any chunks is the
    escaped text, and replacing the entities in it by their characters gives the text again. The
    escaped texts are exactly those without special characters but for ampersands that each begin
    an entity of the format. The function of the host and the filter write plain texts so, and what
    is marked safe they leave as it is, whichever filter marked it. -/
theorem escaping_lossless (f : Format) :
    (∀ s t, f.escape (s ++ t) = f.escape s ++ f.escape t) ∧
    (∀ chunks : List String,
      f.escape (String.join chunks) = String.join (chunks.map f.escape)) ∧
    (∀ s, f.unescape (f.escape s) = s) ∧ Function.Injective f.escape ∧
    (∀ t : String, f.Escaped t.toList ↔ ∃ s, f.escape s = t) ∧
    (∀ s color, Filter.answer f.filter (.text s) = some (.ok (.markup (f.escape s))) ∧
      Toolkit.answer color f.function [.text s] = some (.ok (.text (f.escape s)))) ∧
    (∀ s color, Filter.answer f.filter (.markup s) = some (.ok (.markup s)) ∧
      Toolkit.answer color f.function [.markup s] = some (.ok (.text s))) ∧
    ∀ name v w, Filter.isSafe name = true → Filter.answer name v = some (.ok w) →
      Filter.answer f.filter w = some (.ok w) := by
  have hread : Function.LeftInverse f.unescape f.escape := unescape_escape f
  refine ⟨escape_append f, escape_join f, hread, hread.injective, fun t => ?_,
    fun s color => ⟨filter_text f s, function_text f color s⟩,
    fun s color => ⟨filter_markup f s, function_markup f color s⟩, fun name v w hname h => ?_⟩
  · constructor
    · intro h
      exact ⟨f.unescape t, escape_unescape h⟩
    · rintro ⟨s, rfl⟩
      rw [toList_escape]
      exact Escaped.flatMap_written f s.toList
  · obtain ⟨s, rfl⟩ := markup_of_isSafe hname h
    exact filter_markup f s

/-- A text that looks escaped, and one that was escaped for the other format before. -/
theorem escaping_lossless_twice :
    html.escape "&lt;'/" = "&amp;lt;&#x27;&#x2F;" ∧
    html.unescape "&amp;lt;&#x27;&#x2F;" = "&lt;'/" ∧
    Filter.answer "escape_xml" (.text "it's") = some (.ok (.markup "it&apos;s")) ∧
    Filter.answer "escape" (.markup "it&apos;s") = some (.ok (.markup "it&apos;s")) := by
  have hescape : html.escape "&lt;'/" = "&amp;lt;&#x27;&#x2F;" := by decide +kernel
  have hxml : Filter.answer "escape_xml" (.text "it's") = some (.ok (.markup "it&apos;s")) :=
    filter_text xml "it's"
  obtain ⟨-, -, hread, -, -, -, -, hsafe⟩ := escaping_lossless html
  refine ⟨hescape, ?_, hxml, hsafe "escape_xml" _ _ (by decide) hxml⟩
  rw [← hescape]
  exact hread "&lt;'/"

end Text.Format

end Stencil
