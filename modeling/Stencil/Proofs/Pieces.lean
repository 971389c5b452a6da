import Mathlib.Data.List.Basic
import Stencil.Filter.Array
import Stencil.Filter.Text

/-! Splitting and joining. A text is split at the occurrences of a separator, which are taken from
    the left and do not overlap; what lies between them, joined with the separator, is the text
    again, also where the separator overlaps with itself. The other way round, texts that do not
    have a separator of one character in them are what their joined text is split into. -/

namespace Stencil.Text

variable {sep : List Char}

/-! ### Pieces of a text -/

theorem pieces_skip (sep piece : List Char) : ∀ (n : Nat) (cs : List Char),
    pieces sep n piece cs = pieces sep 0 piece (cs.drop n)
  | 0, cs => by rw [List.drop_zero]
  | n + 1, [] => by rw [List.drop_nil, pieces, pieces]
  | n + 1, c :: cs => by
    rw [pieces, pieces_skip sep piece n cs, List.drop_succ_cons]

/-- What is held of the current piece only stands in front of the first piece. -/
theorem pieces_eq (sep : List Char) : ∀ (piece cs : List Char),
    pieces sep 0 piece cs = (split sep cs).modifyHead (piece.reverse ++ ·)
  | piece, [] => by simp [split, pieces]
  | piece, c :: cs => by
    rw [split, pieces, pieces]
    split
    · simp
    · have hpiece := pieces_eq sep (c :: piece) cs
      have hempty := pieces_eq sep [c] cs
      rw [hpiece, hempty, List.modifyHead_modifyHead]
      congr 1
      funext front
      simp

@[simp]
theorem split_nil (sep : List Char) : split sep [] = [[]] := rfl

/-- A separator in front ends an empty piece. -/
theorem split_append (hsep : sep ≠ []) (rest : List Char) :
    split sep (sep ++ rest) = [] :: split sep rest := by
  obtain ⟨c, tail, rfl⟩ := List.exists_cons_of_ne_nil hsep
  have hhead : (c :: tail).isPrefixOf (c :: (tail ++ rest)) = true := by simp
  rw [split, List.cons_append, pieces]
  simp only [hhead, if_true]
  rw [List.length_cons, Nat.add_sub_cancel, pieces_skip, List.drop_left]
  rfl

/-- A character where no separator begins belongs to the first piece. -/
theorem split_cons {c : Char} {rest : List Char} (h : ¬sep <+: c :: rest) :
    split sep (c :: rest) = (split sep rest).modifyHead (c :: ·) := by
  have hhead : ¬sep.isPrefixOf (c :: rest) = true := by rwa [List.isPrefixOf_iff_prefix]
  rw [split, pieces]
  simp only [hhead]
  exact pieces_eq sep [c] rest

/-- There is a first piece, and the text begins with it. -/
theorem exists_first (sep : List Char) : ∀ cs : List Char,
    ∃ first others, split sep cs = first :: others ∧ first <+: cs
  | [] => ⟨[], [], rfl, List.prefix_rfl⟩
  | c :: rest => by
    by_cases hhead : sep <+: c :: rest
    · refine ⟨[], pieces sep (sep.length - 1) [] rest, ?_, List.nil_prefix⟩
      rw [split, pieces]
      simp [hhead]
    · obtain ⟨first, others, hsplit, hfirst⟩ := exists_first sep rest
      refine ⟨c :: first, others, ?_, List.cons_prefix_cons.2 ⟨rfl, hfirst⟩⟩
      rw [split_cons hhead, hsplit, List.modifyHead_cons]

theorem split_ne_nil (sep cs : List Char) : split sep cs ≠ [] := by
  obtain ⟨first, others, hsplit, -⟩ := exists_first sep cs
  rw [hsplit]
  exact List.cons_ne_nil first others

/-- A text without the separator is one piece. -/
theorem split_of_not_infix : ∀ {cs : List Char}, ¬sep <:+: cs → split sep cs = [cs]
  | [], _ => split_nil sep
  | c :: rest, h => by
    rw [List.infix_cons_iff, not_or] at h
    rw [split_cons h.1, split_of_not_infix h.2, List.modifyHead_cons]

/-- A text is read from the left, past a whole separator or else past one character. -/
theorem split_induction {motive : List Char → Prop} (hsep : sep ≠ []) (nil : motive [])
    (separator : ∀ rest, motive rest → motive (sep ++ rest))
    (char : ∀ c rest, ¬sep <+: c :: rest → motive rest → motive (c :: rest))
    (cs : List Char) : motive cs := by
  match cs with
  | [] => exact nil
  | c :: rest =>
    by_cases hhead : sep <+: c :: rest
    · obtain ⟨after, hafter⟩ := hhead
      have hshorter : after.length < rest.length + 1 := by
        have hpos := List.length_pos_iff.2 hsep
        rw [← List.length_cons, ← hafter, List.length_append]
        omega
      rw [← hafter]
      exact separator after (split_induction hsep nil separator char after)
    · exact char c rest hhead (split_induction hsep nil separator char rest)
termination_by cs.length

/-- No piece has the separator in it. -/
theorem not_infix_of_mem_split (hsep : sep ≠ []) (cs : List Char) :
    ∀ piece ∈ split sep cs, ¬sep <:+: piece := by
  induction cs using split_induction hsep with
  | nil => simpa using hsep
  | separator rest ih =>
    rw [split_append hsep, List.forall_mem_cons]
    exact ⟨by simpa using hsep, ih⟩
  | char c rest hhead ih =>
    obtain ⟨first, others, hsplit, hfirst⟩ := exists_first sep rest
    rw [hsplit, List.forall_mem_cons] at ih
    rw [split_cons hhead, hsplit, List.modifyHead_cons, List.forall_mem_cons]
    refine ⟨fun hinner => ?_, ih.2⟩
    -- the separator would stand in the first piece or begin with its first character
    rcases List.infix_cons_iff.1 hinner with hfront | hinside
    · exact hhead (hfront.trans (List.cons_prefix_cons.2 ⟨rfl, hfirst⟩))
    · exact ih.1 hinside

/-! ### Joining -/

theorem join_cons (sep piece : List Char) {parts : List (List Char)} (h : parts ≠ []) :
    join sep (piece :: parts) = piece ++ sep ++ join sep parts := by
  obtain ⟨next, parts, rfl⟩ := List.exists_cons_of_ne_nil h
  simp [join, List.intercalate]

theorem join_modifyHead (sep : List Char) (c : Char) {parts : List (List Char)} (h : parts ≠ []) :
    join sep (parts.modifyHead (c :: ·)) = c :: join sep parts := by
  obtain ⟨piece, parts, rfl⟩ := List.exists_cons_of_ne_nil h
  cases parts <;> simp [join, List.intercalate]

/-- The pieces of a text joined with the separator are the text. -/
theorem join_split (hsep : sep ≠ []) (cs : List Char) : join sep (split sep cs) = cs := by
  induction cs using split_induction hsep with
  | nil => rfl
  | separator rest ih =>
    rw [split_append hsep, join_cons sep [] (split_ne_nil sep rest), List.nil_append, ih]
  | char c rest hhead ih =>
    rw [split_cons hhead, join_modifyHead sep c (split_ne_nil sep rest), ih]

/-- A text without the character of a separator ends at the first separator after it. -/
theorem split_singleton_append {c : Char} (rest : List Char) : ∀ {front : List Char}, c ∉ front →
    split [c] (front ++ c :: rest) = front :: split [c] rest
  | [], _ => split_append (List.cons_ne_nil c []) rest
  | d :: front, h => by
    rw [List.mem_cons, not_or] at h
    have hhead : ¬[c] <+: d :: (front ++ c :: rest) := by simp [h.1]
    rw [List.cons_append, split_cons hhead, split_singleton_append rest h.2, List.modifyHead_cons]

/-- Texts without a character are the pieces of what they are joined to with it. -/
theorem split_join {c : Char} : ∀ {parts : List (List Char)}, parts ≠ [] →
    (∀ piece ∈ parts, c ∉ piece) → split [c] (join [c] parts) = parts
  | [], hne, _ => absurd rfl hne
  | [piece], _, h => by
    have hinner : ¬[c] <:+: piece := fun hinner =>
      h piece (List.mem_singleton_self piece) (hinner.subset (List.mem_singleton_self c))
    have hjoin : join [c] [piece] = piece := by simp [join, List.intercalate]
    rw [hjoin, split_of_not_infix hinner]
  | piece :: next :: parts, _, h => by
    obtain ⟨hpiece, hparts⟩ := List.forall_mem_cons.1 h
    have hne : next :: parts ≠ [] := List.cons_ne_nil next parts
    rw [join_cons [c] piece hne, List.append_assoc, List.singleton_append,
      split_singleton_append _ hpiece, split_join hne hparts]

end Stencil.Text

namespace Stencil.Filter

open Value (text? stringify stringifyAll)

/-! ### The filters -/

theorem unitBytes_le {sep cs : List Char} (h : sep ⊆ cs) : unitBytes sep ≤ unitBytes cs := by
  have hall (q : Char → Bool) (hq : cs.all q = true) : sep.all q = true :=
    List.all_eq_true.2 fun c hc => List.all_eq_true.1 hq c (h hc)
  unfold unitBytes
  by_cases hbyte : cs.all (·.toNat < 0x100) = true
  · exact Nat.le_of_eq ((if_pos (hall _ hbyte)).trans (if_pos hbyte).symm)
  · by_cases hpair : cs.all (·.toNat < 0x10000) = true
    · rw [if_neg hbyte, if_pos hpair, if_pos (hall _ hpair)]
      split <;> omega
    · rw [if_neg hbyte, if_neg hpair]
      split
      · omega
      · split <;> omega

/-- A separator that outgrows a text does not occur in it. -/
theorem not_infix_of_outgrows {sep cs : List Char} (h : outgrows sep cs = true) : ¬sep <:+: cs := by
  intro hinner
  rw [outgrows, Bool.or_eq_true, decide_eq_true_eq, decide_eq_true_eq] at h
  rcases h with hlong | hwide
  · exact absurd hinner.length_le (by omega)
  · exact absurd (unitBytes_le hinner.subset) (by omega)

/-- A text is split into the pieces of its characters; if it is its only piece it may be returned
    as it came. -/
theorem split_cases {v pattern : Value} {s p : String} (hv : v.text? = some s)
    (hp : pattern.text? = some p) (hsep : (separator p).toList ≠ []) :
    split v pattern = .ok (.list ((Text.split (separator p).toList s.toList).map
        fun piece => .text (String.ofList piece))) ∨
      (Text.split (separator p).toList s.toList = [s.toList] ∧ split v pattern = .ok (.list [v])) := by
  have hsplit : split v pattern =
      if (separator p).toList.isEmpty then fail .badValue
      else if outgrows (separator p).toList s.toList then .ok (.list [v])
      else .ok (.list ((Text.split (separator p).toList s.toList).map
        fun piece => .text (String.ofList piece))) := by
    simp only [split, expectText, hv, hp, bind, Except.bind, pure, Except.pure]
  rw [hsplit, if_neg (by simpa using hsep)]
  by_cases houtgrows : outgrows (separator p).toList s.toList = true
  · exact .inr ⟨Text.split_of_not_infix (not_infix_of_outgrows houtgrows), if_pos houtgrows⟩
  · exact .inl (if_neg houtgrows)

/-- Plain text is split into the pieces of its characters. -/
theorem split_text {pattern : Value} {p : String} (hp : pattern.text? = some p)
    (hsep : (separator p).toList ≠ []) (s : String) :
    split (.text s) pattern = .ok (.list ((Text.split (separator p).toList s.toList).map
      fun piece => .text (String.ofList piece))) := by
  have hv : (Value.text s).text? = some s := rfl
  rcases split_cases hv hp hsep with hsplit | ⟨hone, hsplit⟩
  · exact hsplit
  · rw [hsplit, hone, List.map_singleton, String.ofList_toList]

theorem stringify_of_text {v : Value} {s : String} (h : v.text? = some s) : v.stringify = .ok s := by
  cases v <;> cases h <;> rfl

theorem stringifyAll_of_texts {vs : List Value} {ss : List String} (h : vs.map text? = ss.map some) :
    stringifyAll vs = .ok ss := by
  induction vs generalizing ss with
  | nil =>
    obtain rfl : ss = [] := by simpa using h.symm
    rfl
  | cons v vs ih =>
    cases ss with
    | nil => simp at h
    | cons s ss =>
      obtain ⟨hv, hvs⟩ := List.cons.inj h
      rw [stringifyAll, stringify_of_text hv, ih hvs]
      rfl

/-- Texts are joined character by character. -/
theorem join_eq {vs : List Value} {ss : List String} {pattern : Value} {p : String}
    (hvs : vs.map text? = ss.map some) (hp : pattern.text? = some p) :
    join (.list vs) pattern = .ok (.text (String.ofList
      (Text.join (separator p).toList (ss.map String.toList)))) := by
  have hjoin : join (.list vs) pattern = (do
      let sep := separator (← expectText "join" pattern)
      return .text (Text.joinTexts sep (← stringifyAll vs))) := rfl
  have htext : Text.joinTexts (separator p) ss =
      String.ofList (Text.join (separator p).toList (ss.map String.toList)) := by
    rw [Text.joinTexts, Text.join, ← String.toList_intercalate, String.ofList_toList]
  rw [hjoin, expectText, hp, stringifyAll_of_texts hvs, ← htext]
  rfl

/-- Splitting and joining undo each other. With any separator that is not empty once its line feeds
    and tabs are put in, a text is split into texts without the separator which joined give the text
    back. With a separator of one character, texts in which it does not occur are joined to a
    text which split gives them back. -/
theorem join_split_inverse {pattern : Value} {p : String} (hp : pattern.text? = some p) :
    (separator p ≠ "" → ∀ (v : Value) (s : String), v.text? = some s →
      ∃ parts, split v pattern = .ok (.list parts) ∧
        (∀ piece ∈ parts, ∃ t, piece.text? = some t ∧ ¬(separator p).toList <:+: t.toList) ∧
        join (.list parts) pattern = .ok (.text s)) ∧
    (∀ c : Char, (separator p).toList = [c] → ∀ (vs : List Value) (ss : List String), vs ≠ [] →
      vs.map text? = ss.map some → (∀ t ∈ ss, c ∉ t.toList) →
      ∃ joined, join (.list vs) pattern = .ok joined ∧
        split joined pattern = .ok (.list (ss.map .text))) := by
  constructor
  · intro hne v s hv
    have hsep : (separator p).toList ≠ [] := by simpa using hne
    have hfree := Text.not_infix_of_mem_split hsep s.toList
    -- texts of these characters are joined to the text they are the pieces of
    have hwhole : ∀ vs : List Value,
        vs.map text? = ((Text.split (separator p).toList s.toList).map String.ofList).map some →
        join (.list vs) pattern = .ok (.text s) := by
      intro vs hvs
      have hchars : ((Text.split (separator p).toList s.toList).map String.ofList).map
          String.toList = Text.split (separator p).toList s.toList := by simp [Function.comp_def]
      rw [join_eq hvs hp, hchars, Text.join_split hsep, String.ofList_toList]
    rcases split_cases hv hp hsep with hsplit | ⟨hone, hsplit⟩
    · refine ⟨_, hsplit, ?_, hwhole _ (by simp [text?, Function.comp_def])⟩
      intro piece hpiece
      obtain ⟨cs, hcs, rfl⟩ := List.mem_map.1 hpiece
      refine ⟨String.ofList cs, rfl, ?_⟩
      rw [String.toList_ofList]
      exact hfree cs hcs
    · rw [hone] at hfree hwhole
      refine ⟨[v], hsplit, ?_, hwhole [v] (by simp [hv])⟩
      intro piece hpiece
      obtain rfl := List.mem_singleton.1 hpiece
      exact ⟨s, hv, hfree _ (List.mem_singleton_self _)⟩
  · intro c hc vs ss hne hvs hfree
    have hsep : (separator p).toList ≠ [] := by
      rw [hc]
      exact List.cons_ne_nil c []
    have hsome : ss.map String.toList ≠ [] := by
      rintro hnil
      rw [List.map_eq_nil_iff.1 hnil] at hvs
      exact hne (List.map_eq_nil_iff.1 hvs)
    refine ⟨_, join_eq hvs hp, ?_⟩
    rw [split_text hp hsep, String.toList_ofList, hc,
      Text.split_join hsome (by simpa using hfree), List.map_map]
    simp [Function.comp_def]

/-- Pages with a page break between them: a separator that overlaps with itself, and one that is
    written with a backslash. -/
theorem join_split_inverse_pages :
    (∃ parts, split (.text "a--- b") (.text "--") = .ok (.list parts) ∧
      join (.list parts) (.text "--") = .ok (.text "a--- b")) ∧
    ∃ joined, join (.list [.text "a", .text "", .text "n"]) (.text "\\n") = .ok joined ∧
      split joined (.text "\\n") = .ok (.list [.text "a", .text "", .text "n"]) := by
  constructor
  · obtain ⟨parts, hsplit, -, hjoin⟩ := (@join_split_inverse (.text "--") "--" rfl).1
      (by decide +kernel) (.text "a--- b") _ rfl
    exact ⟨parts, hsplit, hjoin⟩
  · exact (@join_split_inverse (.text "\\n") "\\n" rfl).2 '\n' (by decide +kernel) _
      ["a", "", "n"] (by simp) (by simp [text?]) (by decide)

end Stencil.Filter
