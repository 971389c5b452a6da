import Mathlib.Data.List.TakeDrop
import Stencil.Proofs.Styling
import Stencil.Text.Case
import Stencil.Text.Closest
import Stencil.Value.Inspect

/-! Texts without the escape character. Numerals and quoted texts never have it, since what is not
    printable is written by number, so that no value brings it into a message that shows the value.
    Where a text stands for itself, in whatever case, the message has it only if the text has. -/

namespace Stencil

namespace Text

/-! ### Numerals -/

theorem escape_ne_digitChar (d : Nat) : '\x1b' ≠ d.digitChar := by
  have hsmall : ∀ d : Fin 16, '\x1b' ≠ d.val.digitChar := by decide
  by_cases h : d < 16
  · exact hsmall ⟨d, h⟩
  · have hstar : d.digitChar = '*' := by simp (disch := omega) only [Nat.digitChar, if_neg]
    rw [hstar]
    decide

theorem escape_not_mem_toDigits {base : Nat} (hbase : 1 < base) (n : Nat) :
    '\x1b' ∉ Nat.toDigits base n := by
  induction n using Nat.strongRecOn with
  | ind n ih =>
    by_cases hn : n < base
    · simp [Nat.toDigits_of_lt_base hn, escape_ne_digitChar n]
    · have hle : base ≤ n := Nat.le_of_not_lt hn
      have hless : n / base < n := Nat.div_lt_self (by omega) hbase
      rw [Nat.toDigits_of_base_le hbase hle, List.mem_append, not_or, List.mem_singleton]
      exact ⟨ih _ hless, escape_ne_digitChar _⟩

theorem bare_nat (n : Nat) : Bare (toString n) := by
  rw [Nat.toString_eq_ofList_toDigits, bare_ofList]
  exact escape_not_mem_toDigits (by decide) n

theorem bare_int (n : Int) : Bare (toString n) := by
  cases n with
  | ofNat m => exact bare_nat m
  | negSucc m =>
    have hneg : toString (Int.negSucc m) = "-" ++ toString (m + 1) := rfl
    rw [hneg, bare_append]
    exact ⟨by decide, bare_nat _⟩

theorem bare_exponentText (e : Int) : Bare (Binary64.exponentText e) := by
  have hdigits := bare_nat e.natAbs
  refine bare_append.2 ⟨?_, ?_⟩
  · split <;> decide
  · split
    · exact bare_append.2 ⟨by decide, hdigits⟩
    · exact hdigits

theorem escape_not_mem_shortest (u : Nat) : '\x1b' ∉ (Binary64.shortest u).digits := by
  intro h
  have hmem := (List.dropWhile_suffix _).subset (List.mem_reverse.1 h)
  exact bare_nat _ (List.mem_reverse.1 hmem)

theorem escape_not_mem_append {cs ds : List Char} (hcs : '\x1b' ∉ cs) (hds : '\x1b' ∉ ds) :
    '\x1b' ∉ cs ++ ds := by
  rw [List.mem_append, not_or]
  exact ⟨hcs, hds⟩

theorem escape_not_mem_cons {c : Char} {cs : List Char} (hc : '\x1b' ≠ c) (hcs : '\x1b' ∉ cs) :
    '\x1b' ∉ c :: cs := by
  rw [List.mem_cons, not_or]
  exact ⟨hc, hcs⟩

theorem escape_not_mem_replicate {c : Char} (hc : '\x1b' ≠ c) (n : Nat) :
    '\x1b' ∉ List.replicate n c := fun h => hc (List.eq_of_mem_replicate h)

theorem bare_layout {d : Binary64.Digits} (h : '\x1b' ∉ d.digits) : Bare (Binary64.layout d) := by
  have htake (n : Nat) : '\x1b' ∉ d.digits.take n := fun hc => h (List.mem_of_mem_take hc)
  have hdrop (n : Nat) : '\x1b' ∉ d.digits.drop n := fun hc => h (List.mem_of_mem_drop hc)
  have hzeros (n : Nat) : '\x1b' ∉ List.replicate n '0' := escape_not_mem_replicate (by decide) n
  have hpoint (n : Nat) : '\x1b' ∉ '.' :: d.digits.drop n :=
    escape_not_mem_cons (by decide) (hdrop n)
  unfold Binary64.layout
  dsimp only
  split
  · split
    · exact bare_append.2 ⟨by decide, bare_ofList.2 (escape_not_mem_append (hzeros _) h)⟩
    split
    · exact bare_ofList.2 (escape_not_mem_append (htake _) (hpoint _))
    · exact bare_append.2 ⟨bare_ofList.2 (escape_not_mem_append h (hzeros _)), by decide⟩
  · refine bare_append.2 ⟨bare_ofList.2 ?_, bare_exponentText _⟩
    split
    · exact htake 1
    · exact escape_not_mem_append (htake 1) (hpoint 1)

theorem bare_float (x : Binary64) : Bare x.toText := by
  unfold Binary64.toText
  split
  · decide
  · split <;> decide
  · split <;> decide
  · refine bare_append.2 ⟨?_, bare_layout (escape_not_mem_shortest _)⟩
    split <;> decide

/-! ### Quoted texts -/

theorem escape_not_mem_numericEscape (n : Nat) : '\x1b' ∉ numericEscape n := by
  have hhex (width : Nat) : '\x1b' ∉ hex width n :=
    escape_not_mem_append (escape_not_mem_replicate (by decide) _)
      (escape_not_mem_toDigits (by decide) n)
  unfold numericEscape
  split_ifs <;>
    exact escape_not_mem_cons (by decide) (escape_not_mem_cons (by decide) (hhex _))

/-- The escape character is not printable, so that it is written by its number. -/
theorem escape_not_mem_quotedChar {quote : Char} (hquote : '\x1b' ≠ quote) (c : Char) :
    '\x1b' ∉ quotedChar quote c := by
  have hprintable : isPrintable '\x1b' = false := by decide +kernel
  have hbackslash : '\x1b' ≠ '\\' := by decide
  unfold quotedChar
  split_ifs with h hn hr ht hc
  · rcases h with rfl | rfl <;> simp [hquote, hbackslash]
  · decide
  · decide
  · decide
  · rw [List.mem_singleton]
    rintro rfl
    exact absurd hc (by simp [hprintable])
  · exact escape_not_mem_numericEscape _

theorem escape_ne_quoteFor (cs : List Char) : '\x1b' ≠ quoteFor cs := by
  unfold quoteFor
  split <;> decide

theorem escape_not_mem_between {quote : Char} (hquote : '\x1b' ≠ quote) {cs : List Char}
    (hcs : '\x1b' ∉ cs) : '\x1b' ∉ quote :: (cs ++ [quote]) :=
  escape_not_mem_cons hquote (escape_not_mem_append hcs (by simpa using hquote))

/-- No text brings the escape character into a message that quotes it. -/
theorem bare_quoted (s : String) : Bare (quoted s) := by
  have hquote := escape_ne_quoteFor s.toList
  refine bare_ofList.2 (escape_not_mem_between hquote ?_)
  simpa using fun c _ => escape_not_mem_quotedChar hquote c

theorem bare_quotedBytes (data : List UInt8) : Bare (quotedBytes data) := by
  have hquote := escape_ne_quoteFor (data.map fun b => Char.ofNat b.toNat)
  refine bare_ofList.2 (escape_not_mem_cons (by decide) (escape_not_mem_between hquote ?_))
  rw [List.mem_flatMap, not_exists]
  rintro b ⟨-, hb⟩
  unfold quotedByte at hb
  dsimp only at hb
  split at hb
  · exact escape_not_mem_quotedChar hquote _ hb
  · exact escape_not_mem_numericEscape _ hb

/-! ### Letters in another case -/

theorem eq_of_ofNat_eq_escape {n : Nat} (h : Char.ofNat n = '\x1b') : n = 27 := by
  by_cases hn : n.isValidChar
  · rw [Char.ofNat, dif_pos hn] at h
    exact congrArg Char.toNat h
  · rw [Char.ofNat, dif_neg hn] at h
    exact absurd h (by decide)

/-- No run leads to the code point of the escape character. -/
theorem CaseRun.eq_of_apply_eq {runs : List CaseRun}
    (h : ∀ r ∈ runs, 27 < (r.first : Int) + r.shift)
    {n : Nat} (hn : CaseRun.apply runs n = 27) : n = 27 := by
  induction runs with
  | nil => exact hn
  | cons r rest ih =>
    rw [List.forall_mem_cons] at h
    rw [CaseRun.apply] at hn
    split at hn
    · exact hn
    split at hn
    · rename_i hlow _
      -- a run that takes the number leads past 27, as it does from its first number on
      have hfirst := h.1
      omega
    · exact ih h.2 hn

theorem escape_not_mem_sequenceOf {table : List (Nat × List Nat)} (h : ∀ e ∈ table, 27 ∉ e.2)
    {c : Char} {cs : List Char} (hcs : sequenceOf table c = some cs) : '\x1b' ∉ cs := by
  obtain ⟨ns, hns, rfl⟩ := Option.map_eq_some_iff.1 hcs
  intro hmem
  obtain ⟨n, hn, heq⟩ := List.mem_map.1 hmem
  obtain ⟨l, r, rfl, -⟩ := List.lookup_eq_some_iff.1 hns
  rw [eq_of_ofNat_eq_escape heq] at hn
  exact h (c.toNat, ns) (by simp) hn

theorem eq_escape_of_toNat {c : Char} (h : c.toNat = 27) : c = '\x1b' :=
  Char.toNat_inj.1 h

theorem escape_not_mem_upperChars {c : Char} (hc : '\x1b' ≠ c) : '\x1b' ∉ upperChars c := by
  have hruns : ∀ r ∈ upperRuns, 27 < (r.first : Int) + r.shift := by decide +kernel
  have htable : ∀ e ∈ upperSequences, 27 ∉ e.2 := by decide +kernel
  unfold upperChars
  cases h : sequenceOf upperSequences c with
  | some cs => exact escape_not_mem_sequenceOf htable h
  | none =>
    rw [Option.getD_none, List.mem_singleton]
    intro heq
    have hn := CaseRun.eq_of_apply_eq hruns (eq_of_ofNat_eq_escape heq.symm)
    exact hc (eq_escape_of_toNat hn).symm

theorem escape_not_mem_titleCase {c : Char} (hc : '\x1b' ≠ c) : '\x1b' ∉ titleCase c := by
  have htable : ∀ e ∈ titleSequences, 27 ∉ e.2 := by decide +kernel
  unfold titleCase
  split
  · rename_i cs h
    exact escape_not_mem_sequenceOf htable h
  · split
    · simpa using hc
    · exact escape_not_mem_upperChars hc

theorem escape_ne_lowerChar {c : Char} (hc : '\x1b' ≠ c) : '\x1b' ≠ lowerChar c := by
  have hruns : ∀ r ∈ lowerRuns, 27 < (r.first : Int) + r.shift := by decide +kernel
  intro heq
  have hn := CaseRun.eq_of_apply_eq hruns (eq_of_ofNat_eq_escape heq.symm)
  exact hc (eq_escape_of_toNat hn).symm

theorem escape_not_mem_lowerChars : ∀ {cs : List Char} (afterCased : Bool), '\x1b' ∉ cs →
    '\x1b' ∉ lowerChars afterCased cs
  | [], _, h => h
  | c :: rest, afterCased, h => by
    rw [List.mem_cons, not_or] at h
    rw [lowerChars, List.mem_append, not_or]
    refine ⟨?_, escape_not_mem_lowerChars _ h.2⟩
    split_ifs
    · decide
    · decide
    · decide
    · simpa using escape_ne_lowerChar h.1

/-- No letter turns into the escape character in another case. -/
theorem bare_titleFirst {s : String} (h : Bare s) : Bare (titleFirst s) := by
  unfold titleFirst
  split
  · decide
  · rename_i c rest hs
    rw [Bare, hs, List.mem_cons, not_or] at h
    rw [bare_ofList, List.mem_append, not_or]
    exact ⟨escape_not_mem_titleCase h.1, escape_not_mem_lowerChars _ h.2⟩

/-! ### Closest words -/

/-- What is chosen one by one is one of those that there are, or what was chosen before. -/
theorem mem_of_foldl_choice {α : Type} {step : Option α → α → Option α}
    (hstep : ∀ best a, step best a = some a ∨ step best a = best) {found : α} :
    ∀ {as : List α} {best : Option α}, as.foldl step best = some found →
      found ∈ as ∨ best = some found
  | [], _, h => .inr h
  | a :: as, best, h => by
    rw [List.foldl_cons] at h
    rcases mem_of_foldl_choice hstep h with hmem | hbest
    · exact .inl (List.mem_cons_of_mem _ hmem)
    · rcases hstep best a with ha | ha
      · cases ha.symm.trans hbest
        exact .inl (List.mem_cons_self ..)
      · exact .inr (ha.symm.trans hbest)

/-- The closest word is one of the candidates. -/
theorem mem_of_closest {word found : String} {candidates : List String}
    (h : closest word candidates = some found) : found ∈ candidates := by
  obtain ⟨p, hp, rfl⟩ := Option.map_eq_some_iff.1 h
  refine (mem_of_foldl_choice (fun best p => ?_) hp).elim (fun hmem => ?_) nofun
  · cases best with
    | none => exact .inl rfl
    | some q =>
      dsimp only
      split
      · exact .inl rfl
      · exact .inr rfl
  · obtain ⟨c, hc, rfl⟩ := List.mem_map.1 (List.mem_filter.1 hmem).1
    exact hc

end Text

namespace Value

open Text

/-! ### Values -/

theorem bare_enclose {opening closing : String} {items : List String} (hopening : Bare opening)
    (hclosing : Bare closing) (h : ∀ s ∈ items, Bare s) : Bare (enclose opening closing items) :=
  bare_append.2 ⟨bare_append.2 ⟨hopening, bare_joinTexts (by decide) h⟩, hclosing⟩

mutual

/-- No value brings the escape character into a message that shows it. -/
theorem bare_inspect : ∀ v : Value, Bare v.inspect
  | .null | .undefined => by decide
  | .bool b => by cases b <;> decide
  | .int n => bare_int n
  | .float x => bare_float x
  | .text s => bare_quoted s
  | .markup s => by
    rw [inspect]
    exact bare_append.2 ⟨bare_append.2 ⟨by decide, bare_quoted s⟩, by decide⟩
  | .list xs => by
    rw [inspect]
    exact bare_enclose (by decide) (by decide) (bare_inspectAll xs)
  | .tuple xs => by
    rw [inspect]
    exact bare_enclose (by decide) (by split <;> decide) (bare_inspectAll xs)
  | .object es => by
    rw [inspect]
    exact bare_enclose (by decide) (by decide) (bare_inspectEntries es)
  | .bytes data => bare_quotedBytes data

theorem bare_inspectAll : ∀ xs : List Value, ∀ s ∈ inspectAll xs, Bare s
  | [] => by simp [inspectAll]
  | x :: xs => by
    rw [inspectAll]
    exact List.forall_mem_cons.2 ⟨bare_inspect x, bare_inspectAll xs⟩

theorem bare_inspectEntries : ∀ es : List (Value × Value), ∀ s ∈ inspectEntries es, Bare s
  | [] => by simp [inspectEntries]
  | (k, v) :: rest => by
    rw [inspectEntries]
    refine List.forall_mem_cons.2 ⟨?_, bare_inspectEntries rest⟩
    exact bare_append.2 ⟨bare_append.2 ⟨bare_inspect k, by decide⟩, bare_inspect v⟩

end

theorem bare_typeName (v : Value) : Text.Bare v.typeName := by
  cases v <;> simp only [typeName] <;> decide

/-- A value with no escape character in any of its texts, at any depth. -/
inductive Bare : Value → Prop where
  | null : Bare .null
  | bool (b : Bool) : Bare (.bool b)
  | int (n : Int) : Bare (.int n)
  | float (x : Binary64) : Bare (.float x)
  | text {s : String} (h : Text.Bare s) : Bare (.text s)
  | markup {s : String} (h : Text.Bare s) : Bare (.markup s)
  | list {xs : List Value} (h : ∀ x ∈ xs, Bare x) : Bare (.list xs)
  | tuple {xs : List Value} (h : ∀ x ∈ xs, Bare x) : Bare (.tuple xs)
  | object {es : List (Value × Value)} (hk : ∀ e ∈ es, Bare e.1) (hv : ∀ e ∈ es, Bare e.2) :
      Bare (.object es)
  | undefined : Bare .undefined
  | bytes (data : List UInt8) : Bare (.bytes data)

namespace Bare

variable {v : Value}

theorem of_text {s : String} (h : Bare v) (hs : v.text? = some s) : Text.Bare s := by
  cases h <;> cases hs <;> assumption

/-- A value without the escape character brings none into a text that it is a part of. -/
theorem plain (h : Bare v) : Text.Bare v.plain := by
  cases h with
  | text h | markup h => exact h
  | undefined => decide
  | _ => exact bare_inspect _

/-- What one meets by going through a value has no escape character either. -/
theorem members {xs : List Value} (h : Bare v) (hxs : v.members? = some xs) : ∀ x ∈ xs, Bare x := by
  cases h with
  | list h | tuple h =>
    cases hxs
    exact h
  | object hk _ =>
    cases hxs
    simpa using fun e he => hk e he
  | text h | markup h =>
    cases hxs
    intro x hx
    obtain ⟨c, hc, rfl⟩ := List.mem_map.1 hx
    refine .text fun hmem => h ?_
    obtain rfl : '\x1b' = c := by simpa using hmem
    exact hc
  | bytes data =>
    cases hxs
    intro x hx
    obtain ⟨b, -, rfl⟩ := List.mem_map.1 hx
    exact .int _
  | null | bool b | int n | float x | undefined => cases hxs

end Bare

end Value

end Stencil
