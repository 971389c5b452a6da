import Stencil.Filter.Text
import Mathlib.Data.List.Basic

/-! Stripping of tags. What is taken out of a text are its comments and tags from the left, a
    comment before a tag where both begin; every other character stays. A `<` only stays where no
    `>` follows it, so the two sides of a tag that is taken out never make up a new one: no tag is
    left in the result, however tags and comments were nested or left open. -/

namespace Stencil.Text

/-- A tag: everything from a `<` up to the next `>`. -/
def IsTag (t : List Char) : Prop := ∃ body, '>' ∉ body ∧ t = '<' :: (body ++ ['>'])

/-- A comment: everything from `<!--` up to the next `-->`. -/
def IsComment (t : List Char) : Prop :=
  ∃ body, (∀ n < body.length, ¬"-->".toList <+: (body ++ "-->".toList).drop n) ∧
    t = "<!--".toList ++ (body ++ "-->".toList)

/-- A text and what is left of it without its comments and tags. -/
inductive Stripped : List Char → List Char → Prop
  | nil : Stripped [] []
  | comment {t rest out} (ht : IsComment t) (h : Stripped rest out) : Stripped (t ++ rest) out
  | tag {t rest out} (hno : ∀ u, IsComment u → ¬u <+: t ++ rest) (ht : IsTag t)
    (h : Stripped rest out) : Stripped (t ++ rest) out
  | keep {c rest out} (hc : c = '<' → '>' ∉ rest) (h : Stripped rest out) :
    Stripped (c :: rest) (c :: out)

/-- No `<` is followed by a `>` anywhere later. -/
def Tagless (cs : List Char) : Prop := cs.Pairwise fun a b => a = '<' → b ≠ '>'

/-! ### What a text without tags has in common with the text -/

/-- Stripping only leaves characters out. -/
theorem Stripped.sublist {cs out : List Char} (h : Stripped cs out) : out.Sublist cs := by
  induction h with
  | nil => exact .slnil
  | @comment t rest out _ _ ih => exact ih.trans (List.sublist_append_right t rest)
  | @tag t rest out _ _ _ ih => exact ih.trans (List.sublist_append_right t rest)
  | keep _ _ ih => exact ih.cons_cons _

/-- Stripping leaves no tag: a `<` is kept only where no `>` is left to follow it. -/
theorem Stripped.tagless {cs out : List Char} (h : Stripped cs out) : Tagless out := by
  induction h with
  | nil => exact .nil
  | comment _ _ ih => exact ih
  | tag _ _ _ ih => exact ih
  | @keep c rest out hc h ih =>
    refine List.pairwise_cons.2 ⟨?_, ih⟩
    rintro b hb hopen rfl
    exact hc hopen (h.sublist.subset hb)

/-! ### Ends of comments and tags -/

theorem commentEnd?_some {n : Nat} : ∀ {cs : List Char}, commentEnd? cs = some n →
    ∃ body rest, (∀ k < body.length, ¬"-->".toList <+: (body ++ "-->".toList).drop k) ∧
      cs = body ++ "-->".toList ++ rest ∧ n = (body ++ "-->".toList).length
  | [], h => by simp [commentEnd?] at h
  | c :: cs, h => by
    rw [commentEnd?] at h
    split at h
    · rename_i hend
      obtain ⟨rest, hrest⟩ := List.isPrefixOf_iff_prefix.1 hend
      cases h
      exact ⟨[], rest, by simp, hrest.symm, rfl⟩
    · rename_i hgoes
      obtain ⟨m, hm, rfl⟩ := Option.map_eq_some_iff.1 h
      obtain ⟨body, rest, hfirst, rfl, rfl⟩ := commentEnd?_some hm
      refine ⟨c :: body, rest, ?_, rfl, rfl⟩
      rintro (_ | k) hk hhead
      · exact hgoes (List.isPrefixOf_iff_prefix.2 (hhead.trans (by simp)))
      · exact hfirst k (by simpa using hk) (by simpa using hhead)

theorem commentEnd?_none : ∀ {cs : List Char}, commentEnd? cs = none → ¬"-->".toList <:+: cs
  | [], _, h => by simp at h
  | c :: cs, hnone, h => by
    rw [commentEnd?] at hnone
    split at hnone
    · cases hnone
    · rename_i hgoes
      rcases List.infix_cons_iff.1 h with hhead | hinner
      · exact hgoes (List.isPrefixOf_iff_prefix.2 hhead)
      · exact commentEnd?_none (Option.map_eq_none_iff.1 hnone) hinner

theorem tagEnd?_some {n : Nat} : ∀ {cs : List Char}, tagEnd? cs = some n →
    ∃ body rest, '>' ∉ body ∧ cs = body ++ ['>'] ++ rest ∧ n = (body ++ ['>']).length
  | [], h => by simp [tagEnd?] at h
  | c :: cs, h => by
    rw [tagEnd?] at h
    split at h
    · rename_i hc
      cases h
      exact ⟨[], cs, by simp, by simp [hc], rfl⟩
    · rename_i hc
      obtain ⟨m, hm, rfl⟩ := Option.map_eq_some_iff.1 h
      obtain ⟨body, rest, hbody, rfl, rfl⟩ := tagEnd?_some hm
      refine ⟨c :: body, rest, ?_, rfl, rfl⟩
      rw [List.mem_cons, not_or]
      exact ⟨fun h => hc h.symm, hbody⟩

theorem tagEnd?_none : ∀ {cs : List Char}, tagEnd? cs = none ↔ '>' ∉ cs
  | [] => by simp [tagEnd?]
  | c :: cs => by
    rw [tagEnd?]
    split
    · rename_i hc
      simp [hc]
    · rename_i hc
      have hne : '>' ≠ c := fun h => hc h.symm
      rw [Option.map_eq_none_iff, tagEnd?_none, List.mem_cons, not_or]
      simp [hne]

/-! ### What is taken out at the front of a text -/

theorem isComment_of_end {body : List Char}
    (hfirst : ∀ n < body.length, ¬"-->".toList <+: (body ++ "-->".toList).drop n) :
    IsComment ('<' :: ('!' :: '-' :: '-' :: (body ++ "-->".toList))) := ⟨body, hfirst, rfl⟩

/-- The front of a text is a comment, or else a tag, or else a character that stays; it is as long
    as what is skipped there. -/
theorem tagLength_cases (c : Char) (rest : List Char) :
    (∃ t after, IsComment t ∧ c :: rest = t ++ after ∧ tagLength (c :: rest) = t.length) ∨
    ((∀ u, IsComment u → ¬u <+: c :: rest) ∧
      ∃ t after, IsTag t ∧ c :: rest = t ++ after ∧ tagLength (c :: rest) = t.length) ∨
    ((c = '<' → '>' ∉ rest) ∧ tagLength (c :: rest) = 0) := by
  rcases eq_or_ne c '<' with rfl | hc
  swap
  · exact .inr (.inr ⟨fun h => absurd h hc, by simp [tagLength, hc]⟩)
  have hlength : tagLength ('<' :: rest) =
      (if "!--".toList.isPrefixOf rest then (commentEnd? (rest.drop 3)).map (· + 4) else none).getD
        (((tagEnd? rest).map (· + 1)).getD 0) := by
    rw [tagLength, if_pos rfl]
    dsimp only
    cases if "!--".toList.isPrefixOf rest then (commentEnd? (rest.drop 3)).map (· + 4) else none <;>
      rfl
  rw [hlength]
  -- a comment is tried before a tag, so a tag is met only where no comment begins
  cases hcomment : if "!--".toList.isPrefixOf rest then (commentEnd? (rest.drop 3)).map (· + 4)
      else none with
  | some n =>
    left
    split at hcomment
    · rename_i hopen
      obtain ⟨inner, rfl⟩ := List.isPrefixOf_iff_prefix.1 hopen
      obtain ⟨m, hm, rfl⟩ := Option.map_eq_some_iff.1 hcomment
      obtain ⟨body, after, hfirst, hinner, rfl⟩ := commentEnd?_some hm
      have hinner : inner = body ++ "-->".toList ++ after := hinner
      exact ⟨_, after, isComment_of_end hfirst, by simp [hinner], rfl⟩
    · cases hcomment
  | none =>
    right
    have hno : ∀ u, IsComment u → ¬u <+: '<' :: rest := by
      rintro u ⟨body, -, rfl⟩ ⟨after, hafter⟩
      have hfront : '<' :: ("!--".toList ++ (body ++ "-->".toList) ++ after) = '<' :: rest := hafter
      have hrest : rest = "!--".toList ++ (body ++ "-->".toList ++ after) := by
        rw [← (List.cons.inj hfront).2, List.append_assoc]
      have hopen : "!--".toList.isPrefixOf rest = true := by
        rw [List.isPrefixOf_iff_prefix, hrest]
        exact List.prefix_append _ _
      rw [if_pos hopen, Option.map_eq_none_iff, hrest] at hcomment
      exact commentEnd?_none hcomment ⟨body, after, rfl⟩
    cases htag : tagEnd? rest with
    | some n =>
      obtain ⟨body, after, hbody, hrest, rfl⟩ := tagEnd?_some htag
      exact .inl ⟨hno, '<' :: (body ++ ['>']), after, ⟨body, hbody, rfl⟩, by simp [hrest], rfl⟩
    | none => exact .inr ⟨fun _ => tagEnd?_none.1 htag, rfl⟩

theorem dropTags_skip : ∀ (n : Nat) (cs : List Char), dropTags n cs = dropTags 0 (cs.drop n)
  | 0, cs => by rw [List.drop_zero]
  | n + 1, [] => by rw [List.drop_nil, dropTags, dropTags]
  | n + 1, c :: cs => by
    rw [dropTags, dropTags_skip n cs, List.drop_succ_cons]

/-- A front that is taken out is not empty. -/
theorem IsTag.ne_nil {t : List Char} (h : IsTag t) : t ≠ [] := by
  obtain ⟨body, -, rfl⟩ := h
  exact List.cons_ne_nil _ _

theorem IsComment.ne_nil {t : List Char} (h : IsComment t) : t ≠ [] := by
  obtain ⟨body, -, rfl⟩ := h
  exact List.cons_ne_nil _ _

theorem dropTags_of_tagLength {c : Char} {rest t after : List Char} (ht : t ≠ [])
    (hsplit : c :: rest = t ++ after) (hlength : tagLength (c :: rest) = t.length) :
    dropTags 0 (c :: rest) = dropTags 0 after := by
  obtain ⟨d, t, rfl⟩ := List.exists_cons_of_ne_nil ht
  have hrest : rest = t ++ after := (List.cons.inj hsplit).2
  rw [dropTags, hlength, List.length_cons]
  dsimp only
  rw [dropTags_skip, hrest, List.drop_left]

theorem dropTags_of_keep {c : Char} {rest : List Char} (hlength : tagLength (c :: rest) = 0) :
    dropTags 0 (c :: rest) = c :: dropTags 0 rest := by
  rw [dropTags, hlength]

theorem length_lt_of_split {c : Char} {rest t after : List Char} (ht : t ≠ [])
    (hsplit : c :: rest = t ++ after) : after.length < rest.length + 1 := by
  have hpos := List.length_pos_iff.2 ht
  rw [← List.length_cons, hsplit, List.length_append]
  omega

/-- What is left is the text without its comments and tags. -/
theorem stripped_dropTags (cs : List Char) : Stripped cs (dropTags 0 cs) := by
  match cs with
  | [] => exact .nil
  | c :: rest =>
    rcases tagLength_cases c rest with
      ⟨t, after, ht, hsplit, hlength⟩ | ⟨hno, t, after, ht, hsplit, hlength⟩ | ⟨hc, hlength⟩
    · have hshorter := length_lt_of_split ht.ne_nil hsplit
      rw [dropTags_of_tagLength ht.ne_nil hsplit hlength, hsplit]
      exact .comment ht (stripped_dropTags after)
    · have hshorter := length_lt_of_split ht.ne_nil hsplit
      rw [dropTags_of_tagLength ht.ne_nil hsplit hlength]
      rw [hsplit] at hno ⊢
      exact .tag hno ht (stripped_dropTags after)
    · rw [dropTags_of_keep hlength]
      exact .keep hc (stripped_dropTags rest)
termination_by cs.length

/-! ### What is left is determined -/

/-- No two comments of different lengths begin a text. -/
theorem IsComment.length_le {t u cs : List Char} (ht : IsComment t) (hu : IsComment u)
    (htc : t <+: cs) (huc : u <+: cs) : u.length ≤ t.length := by
  by_contra hlonger
  have htu : t <+: u := List.prefix_of_prefix_length_le htc huc (by omega)
  obtain ⟨short, -, rfl⟩ := ht
  obtain ⟨long, hfirst, rfl⟩ := hu
  obtain ⟨after, hafter⟩ := (List.prefix_append_right_inj _).1 htu
  refine hfirst short.length ?_ ⟨after, ?_⟩
  · simp only [List.length_append] at hlonger
    omega
  · rw [← hafter, List.append_assoc, List.drop_left]

/-- No two tags of different lengths begin a text. -/
theorem IsTag.length_le {t u cs : List Char} (ht : IsTag t) (hu : IsTag u)
    (htc : t <+: cs) (huc : u <+: cs) : u.length ≤ t.length := by
  by_contra hlonger
  have htu : t <+: u := List.prefix_of_prefix_length_le htc huc (by omega)
  obtain ⟨short, -, rfl⟩ := ht
  obtain ⟨long, hlong, rfl⟩ := hu
  have htails : short ++ ['>'] <+: long ++ ['>'] := List.cons_prefix_cons.1 htu |>.2
  have hinside : short ++ ['>'] <+: long := by
    refine List.prefix_of_prefix_length_le htails (List.prefix_append long ['>']) ?_
    simp at hlonger ⊢
    omega
  exact hlong (hinside.subset (by simp))

/-- Where fronts of one kind cannot differ in length, neither can what follows them differ. -/
theorem rest_unique {front : List Char → Prop}
    (hfront : ∀ {t u cs}, front t → front u → t <+: cs → u <+: cs → u.length ≤ t.length)
    {t u rest after : List Char} (ht : front t) (hu : front u) (h : t ++ rest = u ++ after) :
    rest = after := by
  have htc : t <+: u ++ after := h ▸ List.prefix_append t rest
  have huc : u <+: u ++ after := List.prefix_append u after
  have hlength : t.length = u.length :=
    Nat.le_antisymm (hfront hu ht huc htc) (hfront ht hu htc huc)
  exact (List.append_inj h hlength).2

/-- What is taken out at the front has its `>` behind its first character. -/
theorem exists_close {t : List Char} (h : IsComment t ∨ IsTag t) :
    ∃ tail, t = '<' :: tail ∧ '>' ∈ tail := by
  rcases h with ⟨body, -, rfl⟩ | ⟨body, -, rfl⟩
  · exact ⟨"!--".toList ++ (body ++ "-->".toList), rfl, by simp⟩
  · exact ⟨body ++ ['>'], rfl, by simp⟩

/-- A character that stays begins no comment and no tag. -/
theorem not_taken_of_keep {c : Char} {rest t after : List Char} (hc : c = '<' → '>' ∉ rest)
    (ht : IsComment t ∨ IsTag t) : c :: rest ≠ t ++ after := by
  intro h
  obtain ⟨tail, rfl, hclose⟩ := exists_close ht
  obtain ⟨rfl, rfl⟩ := List.cons.inj h
  exact hc rfl (List.mem_append_left after hclose)

/-- There is only one text without the comments and tags of a text. -/
theorem Stripped.eq_dropTags {cs out : List Char} (h : Stripped cs out) : dropTags 0 cs = out := by
  induction h with
  | nil => rfl
  | @comment t rest out ht _ ih =>
    obtain ⟨tail, htail, -⟩ := exists_close (.inl ht)
    have hcons : t ++ rest = '<' :: (tail ++ rest) := by rw [htail, List.cons_append]
    rw [hcons]
    rcases tagLength_cases '<' (tail ++ rest) with
      ⟨u, after, hu, hsplit, hlength⟩ | ⟨hno, -⟩ | ⟨hkeep, -⟩
    · rw [dropTags_of_tagLength hu.ne_nil hsplit hlength]
      -- of two comments at the front neither is longer, so the same text is left behind them
      rw [← rest_unique IsComment.length_le ht hu (hcons.trans hsplit), ih]
    · exact absurd (hcons ▸ List.prefix_append t rest) (hno t ht)
    · exact absurd hcons.symm (not_taken_of_keep hkeep (.inl ht))
  | @tag t rest out hno ht _ ih =>
    obtain ⟨tail, htail, -⟩ := exists_close (.inr ht)
    have hcons : t ++ rest = '<' :: (tail ++ rest) := by rw [htail, List.cons_append]
    rw [hcons] at hno ⊢
    rcases tagLength_cases '<' (tail ++ rest) with
      ⟨u, after, hu, hsplit, -⟩ | ⟨-, u, after, hu, hsplit, hlength⟩ | ⟨hkeep, -⟩
    · exact absurd (hsplit ▸ List.prefix_append u after) (hno u hu)
    · rw [dropTags_of_tagLength hu.ne_nil hsplit hlength]
      rw [← rest_unique IsTag.length_le ht hu (hcons.trans hsplit), ih]
    · exact absurd hcons.symm (not_taken_of_keep hkeep (.inr ht))
  | @keep c rest out hc _ ih =>
    rcases tagLength_cases c rest with
      ⟨u, after, hu, hsplit, -⟩ | ⟨-, u, after, hu, hsplit, -⟩ | ⟨-, hlength⟩
    · exact absurd hsplit (not_taken_of_keep hc (.inl hu))
    · exact absurd hsplit (not_taken_of_keep hc (.inr hu))
    · rw [dropTags_of_keep hlength, ih]

/-- A text without tags is left as it is. -/
theorem Tagless.stripped : ∀ {cs : List Char}, Tagless cs → Stripped cs cs
  | [], _ => .nil
  | c :: rest, h => by
    obtain ⟨hc, hrest⟩ := List.pairwise_cons.1 h
    exact .keep (fun hopen hclose => hc _ hclose hopen rfl) (Tagless.stripped hrest)

end Stencil.Text

namespace Stencil.Filter

open Text

/-- Stripping gives the one text that is left without the comments and tags of a text. It only
    leaves characters out, no `<` in it is followed anywhere later by a `>`, and stripping it again
    changes nothing. -/
theorem striptags_leaves_no_tag (s : String) :
    ∃ out : String, striptags (.text s) = .ok (.text out) ∧
      striptags (.markup s) = .ok (.text out) ∧
      (∀ cs, Stripped s.toList cs ↔ cs = out.toList) ∧
      out.toList.Sublist s.toList ∧ Tagless out.toList ∧
      striptags (.text out) = .ok (.text out) := by
  have hout : (stripTags s).toList = dropTags 0 s.toList := String.toList_ofList
  have hstripped : Stripped s.toList (stripTags s).toList := by
    rw [hout]
    exact stripped_dropTags s.toList
  refine ⟨stripTags s, rfl, rfl, fun cs => ?_, hstripped.sublist, hstripped.tagless, ?_⟩
  · constructor
    · intro hcs
      rw [hout, hcs.eq_dropTags]
    · rintro rfl
      exact hstripped
  · have hagain : stripTags (stripTags s) = stripTags s := by
      rw [stripTags, hstripped.tagless.stripped.eq_dropTags, String.ofList_toList]
    exact congrArg (fun t => Except.ok (Value.text t)) hagain

/-- What is nested, left open or begun as a comment that never ends leaves no tag either. -/
example : stripTags "<scr<b>ipt>a<!-- > -->b<!--> c < d" = "ipt>ab c < d" := by decide +kernel

end Stencil.Filter
