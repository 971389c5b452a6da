import Mathlib.Data.List.Forall2
import Mathlib.Tactic.Common
import Stencil.Text.Search
import Stencil.Text.Styling

/-! Stripping of colours. An escape character can only begin a sequence, so that no sequence goes over
    the next one: what stands before a code is stripped as it would be without the code, unfinished
    sequences at its end included. A text of which stripping takes away nothing but codes, whatever
    follows, decorates the rest; texts joined of decorated ones are decorated. -/

namespace Stencil.Text

/-! ### Sequences end before an escape character -/

theorem takeWhile_append_escape {p : Char → Bool} (h : p '\x1b' = false) (rest : List Char) :
    ∀ t : List Char, (t ++ '\x1b' :: rest).takeWhile p = t.takeWhile p
  | [] => by simp [h]
  | c :: t => by
    rw [List.cons_append, List.takeWhile_cons, List.takeWhile_cons,
      takeWhile_append_escape h rest t]

theorem drop_length_takeWhile_append {p : Char → Bool} (t rest : List Char) :
    (t ++ rest).drop (t.takeWhile p).length = t.drop (t.takeWhile p).length ++ rest := by
  rw [List.drop_append_of_le_length (List.takeWhile_prefix p).length_le]

theorem sequenceTail_append_escape (t rest : List Char) :
    sequenceTail (t ++ '\x1b' :: rest) = sequenceTail t := by
  have hparameter : within '0' '?' '\x1b' = false := by decide
  have hbetween : within ' ' '/' '\x1b' = false := by decide
  have hfinal : within '@' '~' '\x1b' = false := by decide
  simp only [sequenceTail, takeWhile_append_escape hparameter, drop_length_takeWhile_append,
    takeWhile_append_escape hbetween]
  cases (t.drop (t.takeWhile (within '0' '?')).length).drop
      ((t.drop (t.takeWhile (within '0' '?')).length).takeWhile (within ' ' '/')).length with
  | nil => simp [hfinal]
  | cons c more => rfl

theorem sequenceTail_le (t : List Char) : sequenceTail t ≤ t.length := by
  unfold sequenceTail
  dsimp only
  split
  · exact Nat.zero_le _
  · rename_i c more hrest
    split
    · have hlength := congrArg List.length hrest
      simp only [List.length_drop, List.length_cons] at hlength
      omega
    · exact Nat.zero_le _

/-- Whether a sequence begins with a character, and how long it is, does not depend on what comes
    with the next escape character. -/
theorem escapeLength_append_escape (c : Char) (t rest : List Char) :
    escapeLength (c :: (t ++ '\x1b' :: rest)) = escapeLength (c :: t) := by
  by_cases hc : c = '\x1b'
  · subst hc
    cases t with
    | nil => rfl
    | cons d t =>
      simp only [List.cons_append, escapeLength, sequenceTail_append_escape]
  · have hnone (cs : List Char) : escapeLength (c :: cs) = 0 := by
      unfold escapeLength
      split
      · rename_i heq
        exact absurd (List.cons.inj heq).1 hc
      · rfl
    rw [hnone, hnone]

theorem escapeLength_le (cs : List Char) : escapeLength cs ≤ cs.length := by
  unfold escapeLength
  split
  · rename_i c rest
    have hle := sequenceTail_le rest
    simp only [List.length_cons]
    split
    · omega
    split
    · split <;> omega
    · omega
  · omega

/-- What stands before an escape character is stripped on its own. -/
theorem dropEscapes_append_escape (rest : List Char) : ∀ (t : List Char) (skip : Nat),
    skip ≤ t.length →
    dropEscapes skip (t ++ '\x1b' :: rest) = dropEscapes skip t ++ dropEscapes 0 ('\x1b' :: rest)
  | [], skip, h => by
    obtain rfl : skip = 0 := by simpa using h
    rfl
  | c :: t, skip + 1, h => by
    rw [List.cons_append, dropEscapes, dropEscapes]
    exact dropEscapes_append_escape rest t skip (Nat.le_of_succ_le_succ h)
  | c :: t, 0, _ => by
    have hle := escapeLength_le (c :: t)
    rw [List.cons_append, dropEscapes, dropEscapes, escapeLength_append_escape]
    -- a sequence that begins before the escape character also ends before it
    cases hlength : escapeLength (c :: t) with
    | zero =>
      exact congrArg (c :: ·) (dropEscapes_append_escape rest t 0 (Nat.zero_le _))
    | succ n =>
      rw [hlength] at hle
      exact dropEscapes_append_escape rest t n (Nat.le_of_succ_le_succ hle)

/-! ### Codes -/

/-- A text that is stripped altogether, whatever follows. -/
def Vanishes (s : String) : Prop := ∀ rest, dropEscapes 0 (s.toList ++ rest) = dropEscapes 0 rest

theorem vanishes_reset : Vanishes "\x1b[0m" := fun _ => rfl

/-- Every code is one whole sequence. -/
theorem vanishes_of_colorCode {name code : String} (h : colorCode? name = some code) :
    Vanishes code := by
  unfold colorCode? at h
  split at h <;> cases h <;> exact fun _ => rfl

theorem vanishes_join : ∀ {codes : List String}, (∀ c ∈ codes, Vanishes c) →
    Vanishes (String.join codes)
  | [], _, _ => rfl
  | c :: codes, h, rest => by
    rw [List.forall_mem_cons] at h
    rw [String.join_cons, String.toList_append, List.append_assoc, h.1, vanishes_join h.2]

theorem vanishes_codes (colors : List String) :
    Vanishes (String.join (colors.filterMap colorCode?)) := by
  refine vanishes_join fun code hcode => ?_
  obtain ⟨name, -, hname⟩ := List.mem_filterMap.1 hcode
  exact vanishes_of_colorCode hname

/-- Any text in colours is stripped to what it is stripped to without them. -/
theorem stripColors_colorize (on : Bool) (t : String) (colors : List String) :
    stripColors (colorize on t colors) = stripColors t := by
  unfold colorize
  dsimp only
  split
  · have hreset : "\x1b[0m".toList = '\x1b' :: ['[', '0', 'm'] := rfl
    simp only [stripColors, String.toList_append, List.append_assoc]
    rw [vanishes_codes, hreset, dropEscapes_append_escape _ _ 0 (Nat.zero_le _), ← hreset]
    have hnil : dropEscapes 0 "\x1b[0m".toList = [] := vanishes_reset []
    rw [hnil, List.append_nil]
  · rfl

/-! ### Decorated texts -/

/-- A text without the escape character. -/
def Bare (s : String) : Prop := '\x1b' ∉ s.toList

instance (s : String) : Decidable (Bare s) := inferInstanceAs (Decidable ('\x1b' ∉ s.toList))

@[simp]
theorem bare_append {s t : String} : Bare (s ++ t) ↔ Bare s ∧ Bare t := by
  simp [Bare]

@[simp]
theorem bare_toString {s : String} : Bare (toString s) ↔ Bare s := Iff.rfl

@[simp]
theorem bare_ofList {cs : List Char} : Bare (String.ofList cs) ↔ '\x1b' ∉ cs := by
  simp [Bare]

theorem bare_joinTexts {sep : String} (hsep : Bare sep) : ∀ {parts : List String},
    (∀ s ∈ parts, Bare s) → Bare (joinTexts sep parts)
  | [], _ => by simp [joinTexts, Bare]
  | [s], h => by simpa [joinTexts] using h
  | s :: t :: parts, h => by
    rw [List.forall_mem_cons] at h
    have hcons : joinTexts sep (s :: t :: parts) = s ++ sep ++ joinTexts sep (t :: parts) :=
      String.intercalate_cons_cons
    rw [hcons]
    simpa using ⟨⟨h.1, hsep⟩, bare_joinTexts hsep h.2⟩

/-- The first text is the second one with nothing but codes in addition, so that it is stripped to
    it, whatever follows. -/
structure Decorates (s t : String) : Prop where
  bare : Bare t
  strip : ∀ rest, dropEscapes 0 (s.toList ++ rest) = t.toList ++ dropEscapes 0 rest

namespace Decorates

variable {s t u v : String}

theorem stripColors_eq (h : Decorates s t) : stripColors s = t := by
  have hstrip := h.strip []
  rw [List.append_nil] at hstrip
  rw [stripColors, hstrip]
  simp [dropEscapes]

theorem of_bare (h : Bare s) : Decorates s s := by
  refine ⟨h, fun rest => ?_⟩
  have hchars : ∀ cs : List Char, '\x1b' ∉ cs →
      dropEscapes 0 (cs ++ rest) = cs ++ dropEscapes 0 rest := by
    intro cs
    induction cs with
    | nil => exact fun _ => rfl
    | cons c cs ih =>
      intro hcs
      rw [List.mem_cons, not_or] at hcs
      have hlength : escapeLength (c :: (cs ++ rest)) = 0 := by
        unfold escapeLength
        split
        · rename_i heq
          exact absurd (List.cons.inj heq).1.symm hcs.1
        · rfl
      rw [List.cons_append, dropEscapes, hlength]
      exact congrArg (c :: ·) (ih hcs.2)
  exact hchars s.toList h

theorem append (h : Decorates s t) (h' : Decorates u v) : Decorates (s ++ u) (t ++ v) where
  bare := bare_append.2 ⟨h.bare, h'.bare⟩
  strip rest := by
    simp only [String.toList_append, List.append_assoc]
    rw [h.strip, h'.strip]

theorem colorize (h : Decorates s t) (on : Bool) (colors : List String) :
    Decorates (Text.colorize on s colors) t := by
  unfold Text.colorize
  dsimp only
  split
  · refine ⟨h.bare, fun rest => ?_⟩
    simp only [String.toList_append, List.append_assoc]
    rw [vanishes_codes, h.strip, vanishes_reset]
  · exact h

theorem styled (h : Decorates s t) (on : Bool) (role : String) :
    Decorates (Text.styled on role s) (Text.styled false role t) := by
  have hoff : Text.styled false role t = t := rfl
  rw [hoff]
  exact h.colorize on _

theorem styled_of_bare (h : Bare s) (on : Bool) (role : String) :
    Decorates (Text.styled on role s) (Text.styled false role s) := (of_bare h).styled on role

/-- Lines without the escape character decorate themselves. -/
theorem lines_of_bare {lines : List String} (h : ∀ s ∈ lines, Bare s) :
    List.Forall₂ Decorates lines lines :=
  List.forall₂_same.2 fun s hs => of_bare (h s hs)

theorem joinTexts {sep : String} (hsep : Bare sep) : ∀ {ss ts : List String},
    List.Forall₂ Decorates ss ts → Decorates (Text.joinTexts sep ss) (Text.joinTexts sep ts)
  | _, _, .nil => of_bare (bare_joinTexts hsep (by simp))
  | _, _, .cons (a := s) (b := t) h .nil => by simpa [Text.joinTexts] using h
  | _, _, .cons h (.cons h' hs) => by
    have hjoin := joinTexts hsep (.cons h' hs)
    simp only [Text.joinTexts, String.intercalate_cons_cons] at hjoin ⊢
    exact (h.append (of_bare hsep)).append hjoin

end Decorates

end Stencil.Text
