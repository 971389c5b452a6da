import Stencil.Filter.Number
import Stencil.Proofs.Decimals

/-! The integer that the `int` filter makes of a text. A text without a point is an integer or not.
    One with a point is never an integer in any base: if it writes a decimal, the result is the
    integer part of the double of this decimal, and where that is an infinity the filter fails. The
    double has the integer part of the decimal unless it has no room for it or rounds it up to the
    next whole number. -/

namespace Stencil

namespace Numeral

/-- A text with a point that writes a decimal beyond the doubles. -/
def Overflows (s : String) : Prop := '.' ∈ s.toList ∧ ∃ d, decimal? s = some d ∧ d.IsHuge

namespace Decimal

variable {d : Decimal}

instance (d : Decimal) : Decidable d.IsHuge := inferInstanceAs (Decidable (_ ≤ _))

/-- The next whole number is more than 2⁻⁵³ of the decimal away from it. -/
def IsClear (d : Decimal) : Prop := d.num < 2 ^ 53 * ((d.num / d.den + 1) * d.den - d.num)

/-- The decimal is the value of a double. -/
def IsDouble (d : Decimal) : Prop :=
  ¬d.IsHuge ∧ ∃ u, Binary64.Significant u ∧ u * d.den = d.num * Binary64.one

/-- The integer part of the double of a decimal. -/
def truncated (d : Decimal) : Int :=
  d.signed (Binary64.nearest (d.num * Binary64.one) d.den / Binary64.one)

theorem IsClear.not_isHuge (h : d.IsClear) : ¬d.IsHuge := by
  have hlow : d.num / d.den * d.den ≤ d.num := Nat.div_mul_le_self _ _
  have hquotient : d.num / d.den < 2 ^ 53 := Binary64.lt_of_far hlow h
  have hnum : d.num < 2 ^ 53 * d.den := (Nat.div_lt_iff_lt_mul d.den_pos).1 hquotient
  exact Nat.not_le.2 (hnum.trans_le (Nat.mul_le_mul_right _ Binary64.two_pow_le_ceiling))

/-- A decimal whose numerator has less than 54 bits is clear of the next whole number. -/
theorem isClear_of_lt (h : d.num < 2 ^ 53) : d.IsClear := by
  have hhigh : d.num < (d.num / d.den + 1) * d.den := by
    rw [Nat.mul_comm]
    exact Nat.lt_mul_div_succ _ d.den_pos
  unfold IsClear
  omega

/-- The double of such a decimal has its integer part. -/
theorem truncated_eq (h : d.IsClear ∨ d.IsDouble) : d.truncated = d.signed (d.num / d.den) := by
  have hquotient : Binary64.nearest (d.num * Binary64.one) d.den / Binary64.one = d.num / d.den := by
    rcases h with hclear | ⟨-, u, hu, heq⟩
    · exact Binary64.nearest_div_one d.den_pos hclear
    · rw [hu.nearest_eq d.den_pos heq, ← Nat.mul_div_mul_right u _ d.den_pos, heq,
        Nat.mul_comm Binary64.one, Nat.mul_div_mul_right _ _ Binary64.one_pos]
  unfold truncated
  rw [hquotient]

/-- The integer part of a double that a decimal is read as. -/
theorem trunc_toBinary64 (d : Decimal) :
    (Number.float d.toBinary64).trunc = if d.IsHuge then .error .overflow else .ok d.truncated := by
  split_ifs with hhuge
  · rw [toBinary64_of_isHuge hhuge]
    rfl
  · have hneg (u : Nat) : Int.tdiv (-(u : Int)) Binary64.one = -((u / Binary64.one : Nat) : Int) := by
      rw [Int.neg_tdiv, Int.ofNat_tdiv]
    rw [toBinary64_of_not_isHuge hhuge]
    unfold Number.trunc Number.integral Binary64.truncInt? Binary64.units? truncated signed
    dsimp only [Option.map_some]
    split_ifs
    · rw [hneg]
    · rw [Int.ofNat_tdiv]

end Decimal

theorem Literal.point_mem_text (l : Literal) : '.' ∈ l.text.toList := by
  unfold Literal.text
  rw [String.toList_ofList]
  simp

/-- A literal of at most fifteen digits is clear of the next whole number. -/
theorem Literal.isClear_of_length {l : Literal} (h : l.whole.length + l.fraction.length ≤ 15) :
    l.decimal.IsClear := by
  refine Decimal.isClear_of_lt (l.num_lt.trans_le ?_)
  calc 10 ^ (l.whole.length + l.fraction.length) ≤ 10 ^ 15 := Nat.pow_le_pow_right (by norm_num) h
    _ ≤ 2 ^ 53 := by norm_num

theorem Literal.overflows_text (l : Literal) : Overflows l.text ↔ l.decimal.IsHuge := by
  constructor
  · rintro ⟨-, d, hd, hhuge⟩
    rw [l.decimal?_text] at hd
    cases hd
    exact hhuge
  · intro hhuge
    exact ⟨l.point_mem_text, l.decimal, l.decimal?_text, hhuge⟩

end Numeral

namespace Text

theorem isInfix_singleton (c : Char) (cs : List Char) : isInfix [c] cs = decide (c ∈ cs) := by
  induction cs with
  | nil => rfl
  | cons d cs ih =>
    rw [isInfix, ih, Bool.eq_iff_iff]
    simp [List.isPrefixOf]

theorem contains_point (s : String) : contains s "." = decide ('.' ∈ s.toList) :=
  isInfix_singleton '.' s.toList

end Text

namespace Filter

theorem integerOf_of_not_point {s : String} {base : Int}
    (h : '.' ∉ (dropMarker base (Text.trim s)).toList) : ∃ n, integerOf s base = .ok n := by
  unfold integerOf
  dsimp only
  rw [Text.contains_point, decide_eq_false h]
  split
  · exact ⟨_, rfl⟩
  · exact ⟨none, rfl⟩

theorem integerOf_of_point {s : String} {base : Int}
    (h : '.' ∈ (dropMarker base (Text.trim s)).toList) :
    integerOf s base = match Numeral.decimal? (dropMarker base (Text.trim s)) with
      | none => .ok none
      | some d => if d.IsHuge then fail .overflow else .ok (some d.truncated) := by
  unfold integerOf
  dsimp only
  rw [Text.contains_point, decide_eq_true h, Numeral.readInt?_of_point h, ite_self,
    Numeral.readFloat?_of_point h]
  dsimp only
  rw [if_neg (by decide)]
  cases Numeral.decimal? (dropMarker base (Text.trim s)) with
  | none => rfl
  | some d =>
    rw [Option.map_some]
    dsimp only
    rw [d.trunc_toBinary64]
    split_ifs <;> rfl

/-- There is an integer or none unless the decimal is beyond the doubles. -/
theorem integerOf_of_not_overflows {s : String} {base : Int}
    (h : ¬Numeral.Overflows (dropMarker base (Text.trim s))) : ∃ n, integerOf s base = .ok n := by
  by_cases hpoint : '.' ∈ (dropMarker base (Text.trim s)).toList
  · rw [integerOf_of_point hpoint]
    cases hd : Numeral.decimal? (dropMarker base (Text.trim s)) with
    | none => exact ⟨none, rfl⟩
    | some d =>
      have hhuge : ¬d.IsHuge := fun hhuge => h ⟨hpoint, d, hd, hhuge⟩
      exact ⟨some d.truncated, if_neg hhuge⟩
  · exact integerOf_of_not_point hpoint

theorem integerOf_of_overflows {s : String} {base : Int}
    (h : Numeral.Overflows (dropMarker base (Text.trim s))) :
    integerOf s base = fail .overflow := by
  obtain ⟨hpoint, d, hd, hhuge⟩ := h
  rw [integerOf_of_point hpoint, hd]
  exact if_pos hhuge

/-- What the filter makes of a text is settled by the integer that is found in it. -/
theorem int_text {v : Value} {s : String} (hv : v.text? = some s) (default : Value) (base : Int) :
    int v default (.int base) = (integerOf s base).map fun n => n.elim default .int := by
  have hbase : (Value.int base).hostNumber? = some (.int base) := rfl
  unfold int
  rw [hv, hbase]
  dsimp only
  cases integerOf s base <;> rfl

theorem dropMarker_ten (s : String) : dropMarker 10 s = s := by
  have hmarker : baseMarker? 10 = none := by decide
  unfold dropMarker
  rw [hmarker]

/-- The integer found in a literal is the integer part of its double. -/
theorem integerOf_literal {s : String} {l : Numeral.Literal} (h : Text.trim s = l.text) :
    integerOf s 10 =
      if l.decimal.IsHuge then fail .overflow else .ok (some l.decimal.truncated) := by
  have hpoint : '.' ∈ (dropMarker 10 (Text.trim s)).toList := by
    rw [dropMarker_ten, h]
    exact l.point_mem_text
  rw [integerOf_of_point hpoint, dropMarker_ten, h, l.decimal?_text]

/-- The filter on texts. It gives the default or an integer unless the text writes a decimal beyond
    the doubles, in a numeral with a point; then the conversion to an integer overflows. In base ten
    a literal gives the integer part of the double nearest to it. This is the integer part of the
    decimal if the next whole number is more than 2⁻⁵³ of the decimal away from it, however many
    digits there are, and if the decimal is a double. -/
theorem int_of_text {v : Value} {s : String} (hv : v.text? = some s) (default : Value)
    (base : Int) :
    (¬Numeral.Overflows (dropMarker base (Text.trim s)) →
      int v default (.int base) = .ok default ∨ ∃ n, int v default (.int base) = .ok (.int n)) ∧
    (Numeral.Overflows (dropMarker base (Text.trim s)) →
      int v default (.int base) = .error (.fault (.failure .overflow))) ∧
    (base = 10 → ∀ l : Numeral.Literal, Text.trim s = l.text →
      (Numeral.Overflows (dropMarker base (Text.trim s)) ↔ l.decimal.IsHuge) ∧
      (¬l.decimal.IsHuge → ∃ u, Binary64.IsNearest (l.decimal.num * Binary64.one) l.decimal.den u ∧
        int v default (.int base) = .ok (.int (l.decimal.signed (u / Binary64.one)))) ∧
      (l.decimal.IsClear ∨ l.decimal.IsDouble →
        int v default (.int base) = .ok (.int l.integerPart))) := by
  refine ⟨fun hfits => ?_, fun hover => ?_, ?_⟩
  · obtain ⟨n, hn⟩ := integerOf_of_not_overflows hfits
    rw [int_text hv, hn]
    cases n with
    | none => exact .inl rfl
    | some n => exact .inr ⟨n, rfl⟩
  · rw [int_text hv, integerOf_of_overflows hover]
    rfl
  · rintro rfl l hl
    -- a literal that is not too large has its integer part, whatever the shape of its decimal
    have hsettled (hhuge : ¬l.decimal.IsHuge) :
        int v default (.int 10) = .ok (.int l.decimal.truncated) := by
      rw [int_text hv, integerOf_literal hl, if_neg hhuge]
      rfl
    refine ⟨?_, fun hhuge => ⟨_, Binary64.isNearest_nearest _ l.decimal.den_pos, hsettled hhuge⟩,
      fun hexact => ?_⟩
    · rw [dropMarker_ten, hl]
      exact l.overflows_text
    · have hhuge : ¬l.decimal.IsHuge := by
        rcases hexact with hclear | hdouble
        · exact hclear.not_isHuge
        · exact hdouble.1
      rw [hsettled hhuge, Numeral.Decimal.truncated_eq hexact, l.num_div_den]
      rfl

/-- A signed literal between blanks: it is short, so its integer part is exact. -/
theorem int_of_text_signed :
    (Value.text " -3.9 ").text? = some " -3.9 " ∧
      int (.text " -3.9 ") .null (.int 10) = .ok (.int (-3)) := by
  have hv : (Value.text " -3.9 ").text? = some " -3.9 " := rfl
  let l : Numeral.Literal :=
    ⟨.minus, ['3'], ['9'], by decide, by decide, by decide, by decide⟩
  have hl : Text.trim " -3.9 " = l.text := by decide +kernel
  have hpart : l.integerPart = -3 := by decide +kernel
  have hexact := ((int_of_text hv .null 10).2.2 rfl l hl).2.2 (.inl (l.isClear_of_length (by decide)))
  rw [hpart] at hexact
  exact ⟨hv, hexact⟩

/-- The least odd integer that is no double, written with a point. -/
def oddLiteral : Numeral.Literal :=
  ⟨.none, "9007199254740993".toList, ['0'], by decide, by decide, by decide, by decide⟩

/-- A power of ten beyond the doubles, written with a point. -/
def vastLiteral : Numeral.Literal where
  sign := .none
  whole := '1' :: List.replicate 400 '0'
  fraction := ['0']
  whole_ne := List.cons_ne_nil _ _
  fraction_ne := List.cons_ne_nil _ _
  whole_all := by
    rw [List.all_cons, List.all_replicate]
    decide
  fraction_all := by decide

/-- Where the double is not the decimal the integer part may be another, and where it is an infinity
    there is neither an integer nor the default. -/
theorem int_of_text_astray :
    (oddLiteral.text = "9007199254740993.0" ∧ oddLiteral.integerPart = 9007199254740993 ∧
      int (.text "9007199254740993.0") .null (.int 10) = .ok (.int 9007199254740992)) ∧
    int (.text vastLiteral.text) .null (.int 10) = .error (.fault (.failure .overflow)) := by
  have htext : oddLiteral.text = "9007199254740993.0" := by decide +kernel
  refine ⟨⟨htext, by decide +kernel, ?_⟩, ?_⟩
  · have hhuge : ¬oddLiteral.decimal.IsHuge := by decide +kernel
    have htruncated : oddLiteral.decimal.truncated = 9007199254740992 := by decide +kernel
    rw [← htext, int_text rfl, integerOf_literal oddLiteral.trim_text, if_neg hhuge, htruncated]
    rfl
  · have hhuge : vastLiteral.decimal.IsHuge := by decide +kernel
    rw [int_text rfl, integerOf_literal vastLiteral.trim_text, if_pos hhuge]
    rfl

end Filter

end Stencil
