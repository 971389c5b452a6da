import Mathlib.Data.List.TakeDrop
import Mathlib.Data.Nat.Digits.Lemmas
import Stencil.Number.Numeral
import Stencil.Proofs.Rounding

/-! Decimals in text. To read one is first to find the whole number and the power of ten that its
    characters write, and then to round their product to a double; the cutoffs for long exponents
    decide nothing that rounding would not. The digits may be of any script. A literal of digits, a
    point and digits writes its digits as the whole number and counts those after the point as the
    power of ten. -/

namespace Stencil.Numeral

open Stencil.Text

/-- A decimal number: a whole number times a power of ten, with a sign. -/
structure Decimal where
  negative : Bool
  mantissa : Nat
  exponent : Int

namespace Decimal

variable (d : Decimal)

/-- The magnitude is the quotient of these two numbers. -/
def num : Nat := d.mantissa * 10 ^ d.exponent.toNat

def den : Nat := 10 ^ (-d.exponent).toNat

theorem den_pos : 0 < d.den := Nat.pow_pos (by decide)

/-- A whole number with the sign of the decimal. -/
def signed (n : Nat) : Int := if d.negative then -(n : Int) else n

/-- The magnitude is beyond the doubles. -/
def IsHuge : Prop := Binary64.ceiling * d.den ≤ d.num

/-- The double that stands for the decimal. -/
def toBinary64 : Binary64 := ofDecimal d.negative d.mantissa d.exponent

end Decimal

/-- The decimal that a text without a sign writes. -/
def decimalAfter? (negative : Bool) (cs : List Char) : Option Decimal :=
  let (whole, rest) := takeRun cs
  let (fraction, rest) := takeFraction rest
  match runDigits? whole, runDigits? fraction, readExponent? rest with
  | some w, some f, some e =>
    if w.isEmpty && f.isEmpty then none
    else some { negative, mantissa := ofDigits 10 (w ++ f), exponent := e - f.length }
  | _, _, _ => none

/-- The decimal that a text writes. -/
def decimal? (s : String) : Option Decimal :=
  decimalAfter? (takeSign (plain s)).1 (takeSign (plain s)).2

/-! ### The double of a decimal -/

theorem two_pow_le_ten_pow (k : Nat) : 2 ^ (3 * k) ≤ 10 ^ k := by
  rw [Nat.pow_mul]
  exact Nat.pow_le_pow_left (by norm_num) k

theorem length_toString (m : Nat) : (toString m).length = (Nat.toDigits 10 m).length := by
  rw [← String.length_toList]
  exact congrArg List.length Nat.toList_repr

theorem length_toString_pos (m : Nat) : 0 < (toString m).length := by
  rw [length_toString]
  exact Nat.length_toDigits_pos

/-- A number is between the powers of ten that the length of its numeral gives. -/
theorem lt_ten_pow_length (m : Nat) : m < 10 ^ (toString m).length := by
  rw [length_toString]
  exact (Nat.length_toDigits_le_iff (by norm_num) Nat.length_toDigits_pos).1 le_rfl

theorem ten_pow_le_of_length {m k : Nat} (hm : 0 < m) (hk : k < (toString m).length) :
    10 ^ k ≤ m := by
  rcases Nat.eq_zero_or_pos k with rfl | hpos
  · rwa [Nat.pow_zero]
  · rw [length_toString, ← Nat.not_le, Nat.length_toDigits_le_iff (by norm_num) hpos] at hk
    exact Nat.not_lt.1 hk

/-- The power of ten at which the cutoffs are. -/
def cutoff : Nat := 400

/-- There are that many powers of ten above the doubles and below half of a unit. -/
theorem two_mul_one_le : 2 * Binary64.one ≤ 10 ^ cutoff := by
  calc 2 * Binary64.one = 2 ^ (Binary64.fineness + 1) := by
        rw [Binary64.one_eq, Nat.pow_succ, Nat.mul_comm]
    _ ≤ 2 ^ (3 * cutoff) := Nat.pow_le_pow_right (by norm_num) (by decide)
    _ ≤ 10 ^ cutoff := two_pow_le_ten_pow cutoff

theorem ceiling_le : Binary64.ceiling ≤ 10 ^ cutoff := by
  calc Binary64.ceiling ≤ Binary64.one := Binary64.ceiling_le_one
    _ ≤ 2 * Binary64.one := Nat.le_mul_of_pos_left _ (by norm_num)
    _ ≤ 10 ^ cutoff := two_mul_one_le

/-- The cutoffs decide what rounding would. -/
theorem ofDecimal_eq (negative : Bool) (m : Nat) (e : Int) :
    ofDecimal negative m e =
      Binary64.ofUnits negative (m * 10 ^ e.toNat * Binary64.one) (10 ^ (-e).toNat) := by
  have hden : 0 < 10 ^ (-e).toNat := Nat.pow_pos (by norm_num)
  have hlength := lt_ten_pow_length m
  have hpos := length_toString_pos m
  have hcutoff : cutoff = 400 := rfl
  unfold ofDecimal
  dsimp only
  split_ifs with hsmall hlarge hexponent
  · -- less than half of a unit
    refine (Binary64.ofUnits_eq_zero negative ?_).symm
    rcases Nat.eq_zero_or_pos m with rfl | hm
    · rw [Nat.zero_mul, Nat.zero_mul]
      exact hden
    · have hlow : e + ((toString m).length : Int) < -400 := hsmall.resolve_left (by omega)
      have hzero : e.toNat = 0 := by omega
      rw [hzero, Nat.pow_zero, Nat.mul_one]
      calc 2 * (m * Binary64.one) = m * (2 * Binary64.one) := Nat.mul_left_comm _ _ _
        _ ≤ m * 10 ^ cutoff := Nat.mul_le_mul_left m two_mul_one_le
        _ < 10 ^ (toString m).length * 10 ^ cutoff :=
          Nat.mul_lt_mul_of_pos_right hlength (Nat.pow_pos (by norm_num))
        _ = 10 ^ ((toString m).length + cutoff) := (Nat.pow_add 10 _ cutoff).symm
        _ ≤ 10 ^ (-e).toNat := Nat.pow_le_pow_right (by norm_num) (by omega)
  · have hm : 0 < m := by
      rw [not_or] at hsmall
      exact Nat.pos_of_ne_zero hsmall.1
    -- too many digits: the number is beyond every double
    have hpow : 10 ^ ((toString m).length - 1) ≤ m := ten_pow_le_of_length hm (by omega)
    have hge : Binary64.ceiling * 10 ^ (-e).toNat ≤ m * 10 ^ e.toNat := by
      calc Binary64.ceiling * 10 ^ (-e).toNat ≤ 10 ^ cutoff * 10 ^ (-e).toNat :=
            Nat.mul_le_mul_right _ ceiling_le
        _ = 10 ^ (cutoff + (-e).toNat) := (Nat.pow_add 10 cutoff _).symm
        _ ≤ 10 ^ ((toString m).length - 1 + e.toNat) :=
          Nat.pow_le_pow_right (by norm_num) (by omega)
        _ = 10 ^ ((toString m).length - 1) * 10 ^ e.toNat := Nat.pow_add 10 _ _
        _ ≤ m * 10 ^ e.toNat := Nat.mul_le_mul_right _ hpow
    rw [Binary64.ofUnits_eq negative _ hden, if_neg (Nat.not_lt.2 hge)]
  · have hzero : (-e).toNat = 0 := by omega
    rw [hzero]
    rfl
  · have hzero : e.toNat = 0 := by omega
    rw [hzero, Nat.pow_zero, Nat.mul_one]
    rfl

namespace Decimal

/-- A decimal is rounded once from its exact value, to an infinity if it is huge. -/
theorem toBinary64_eq (d : Decimal) :
    d.toBinary64 = if d.num < Binary64.ceiling * d.den
      then .finite d.negative (Binary64.nearest (d.num * Binary64.one) d.den)
      else .infinity d.negative := by
  rw [← Binary64.ofUnits_eq d.negative _ d.den_pos]
  exact ofDecimal_eq d.negative d.mantissa d.exponent

theorem toBinary64_of_isHuge {d : Decimal} (h : d.IsHuge) :
    d.toBinary64 = .infinity d.negative := by
  rw [toBinary64_eq, if_neg (Nat.not_lt.2 h)]

theorem toBinary64_of_not_isHuge {d : Decimal} (h : ¬d.IsHuge) :
    d.toBinary64 = .finite d.negative (Binary64.nearest (d.num * Binary64.one) d.den) := by
  rw [toBinary64_eq, if_pos (Nat.not_le.1 h)]

end Decimal

/-! ### Reading and rounding -/

theorem readDecimal?_eq (negative : Bool) (cs : List Char) :
    readDecimal? negative cs = (decimalAfter? negative cs).map Decimal.toBinary64 := by
  unfold readDecimal? decimalAfter?
  dsimp only
  cases runDigits? (takeRun cs).1 with
  | none => rfl
  | some w =>
    cases runDigits? (takeFraction (takeRun cs).2).1 with
    | none => rfl
    | some f =>
      cases readExponent? (takeFraction (takeRun cs).2).2 with
      | none => rfl
      | some e =>
        dsimp only
        split_ifs <;> rfl

/-! ### Texts with a point -/

theorem mem_dropWhile {p : Char → Bool} {c : Char} {cs : List Char} (hc : p c = false)
    (h : c ∈ cs) : c ∈ cs.dropWhile p := by
  rw [← List.takeWhile_append_dropWhile (p := p) (l := cs), List.mem_append] at h
  rcases h with h | h
  · have hkept := (List.all_eq_true.1 List.all_takeWhile) c h
    rw [hc] at hkept
    cases hkept
  · exact h

theorem dropWhile_eq_self {p : Char → Bool} {cs : List Char} (h : ∀ c ∈ cs, p c = false) :
    cs.dropWhile p = cs := by
  cases cs with
  | nil => rfl
  | cons c cs => rw [List.dropWhile_cons_of_neg (by simp [h])]

/-- A point is not dropped from a numeral. -/
theorem point_mem_plain {s : String} (h : '.' ∈ s.toList) : '.' ∈ plain s := by
  have hmap : '.' ∈ s.toList.map plainChar := List.mem_map.2 ⟨'.', h, by decide⟩
  have hpadding : isPadding '.' = false := by decide
  unfold plain
  rw [List.mem_reverse]
  refine mem_dropWhile hpadding ?_
  rw [List.mem_reverse]
  exact mem_dropWhile hpadding hmap

theorem point_mem_takeSign {cs : List Char} (h : '.' ∈ cs) : '.' ∈ (takeSign cs).2 := by
  unfold takeSign
  split <;> simp_all

theorem markerBase?_point : markerBase? '.' = none := by decide

theorem point_mem_splitMarker {base : Nat} {cs : List Char} (h : '.' ∈ cs) :
    '.' ∈ (splitMarker base cs).2.2 := by
  have hunderscore {rest : List Char} (h : '.' ∈ rest) : '.' ∈ dropUnderscore rest := by
    unfold dropUnderscore
    split <;> simp_all
  unfold splitMarker
  split
  · rename_i c rest
    split
    · rename_i b hb
      split_ifs
      · refine hunderscore ?_
        have hc : '.' ≠ c := by
          rintro rfl
          rw [markerBase?_point] at hb
          cases hb
        simpa [hc] using h
      · exact h
    · split_ifs <;> exact h
  · split_ifs <;> exact h
  · exact h

/-- No digit or letter is one of the other characters of a numeral. -/
theorem ne_of_digitValue? {v : Nat} {c : Char} (h : digitValue? c = some v) :
    c ≠ '.' ∧ c ≠ '_' ∧ c ≠ '+' ∧ c ≠ '-' := by
  refine ⟨?_, ?_, ?_, ?_⟩ <;>
  · rintro rfl
    simp [digitValue?] at h

/-- A point is no digit. -/
theorem digits?_of_point {base : Nat} {after : Bool} {cs : List Char} (h : '.' ∈ cs) :
    digits? base after cs = none := by
  fun_induction digits? base after cs with
  | case1 => simp at h
  | case2 => simp at h
  | case3 rest ih => exact ih (by simpa using h)
  | case4 => rfl
  | case5 _ c rest _ d hd _ ih =>
    have hc : '.' ≠ c := (ne_of_digitValue? hd).1.symm
    rw [ih (by simpa [hc] using h)]
    rfl
  | case6 => rfl
  | case7 => rfl

/-- A text with a point in it writes no integer. -/
theorem readInt?_of_point {base : Nat} {s : String} (h : '.' ∈ s.toList) :
    readInt? base s = none := by
  have hpoint : '.' ∈ (splitMarker base (takeSign (plain s)).2).2.2 :=
    point_mem_splitMarker (point_mem_takeSign (point_mem_plain h))
  unfold readInt?
  dsimp only
  rw [digits?_of_point hpoint]

/-- A text with a point in it is no name of an infinity or of NaN, so the double that it writes is
    that of a decimal. -/
theorem readFloat?_of_point {s : String} (h : '.' ∈ s.toList) :
    readFloat? s = (decimal? s).map Decimal.toBinary64 := by
  have hpoint : '.' ∈ (String.ofList ((takeSign (plain s)).2.map Char.toLower)).toList := by
    rw [String.toList_ofList]
    exact List.mem_map.2 ⟨'.', point_mem_takeSign (point_mem_plain h), by decide⟩
  have hne (name : String) (hname : '.' ∉ name.toList) :
      String.ofList ((takeSign (plain s)).2.map Char.toLower) ≠ name := by
    rintro rfl
    exact hname hpoint
  unfold readFloat?
  dsimp only
  rw [if_neg (not_or.2 ⟨hne "inf" (by decide), hne "infinity" (by decide)⟩),
    if_neg (hne "nan" (by decide)), readDecimal?_eq]
  rfl

/-! ### Literals -/

/-- The sign in front of a literal, which may have none. -/
inductive Sign where
  | none | plus | minus
  deriving DecidableEq, Repr

def Sign.chars : Sign → List Char
  | .none => []
  | .plus => ['+']
  | .minus => ['-']

theorem Sign.of_mem_chars {sign : Sign} {c : Char} (h : c ∈ sign.chars) : c = '+' ∨ c = '-' := by
  cases sign with
  | none => exact absurd h List.not_mem_nil
  | plus => exact .inl (List.mem_singleton.1 h)
  | minus => exact .inr (List.mem_singleton.1 h)

/-- A literal: a sign or none, digits, a point and digits. -/
structure Literal where
  sign : Sign
  whole : List Char
  fraction : List Char
  whole_ne : whole ≠ []
  fraction_ne : fraction ≠ []
  whole_all : whole.all isDecimal = true
  fraction_all : fraction.all isDecimal = true

/-- The values of the digits of a text. -/
def values (cs : List Char) : List Nat := cs.filterMap decimalValue?

namespace Literal

variable (l : Literal)

theorem whole_decimal : ∀ c ∈ l.whole, isDecimal c = true := List.all_eq_true.1 l.whole_all

theorem fraction_decimal : ∀ c ∈ l.fraction, isDecimal c = true := List.all_eq_true.1 l.fraction_all

def text : String := String.ofList (l.sign.chars ++ (l.whole ++ '.' :: l.fraction))

/-- The decimal that a literal stands for. -/
def decimal : Decimal where
  negative := l.sign = .minus
  mantissa := ofDigits 10 (values (l.whole ++ l.fraction))
  exponent := -l.fraction.length

/-- The integer that its digits before the point write, with its sign. -/
def integerPart : Int := l.decimal.signed (ofDigits 10 (values l.whole))

end Literal

theorem decimalValue?_of_isDecimal {c : Char} (h : isDecimal c = true) :
    ∃ v, v < 10 ∧ decimalValue? c = some v := by
  rw [← decimalValue?_isSome, Option.isSome_iff_exists] at h
  obtain ⟨v, hv⟩ := h
  exact ⟨v, placeValue?_lt hv, hv⟩

/-- No digit is white space. -/
theorem isBlank_of_isDecimal {c : Char} (h : isDecimal c = true) : isBlank c = false := by
  have hdisjoint : ∀ r ∈ decimalRanges, ∀ q ∈ blankRanges, r.2 < q.1 ∨ q.2 < r.1 := by decide
  rw [Bool.eq_false_iff]
  intro hblank
  obtain ⟨r, hr, hlow, hhigh⟩ := Ranges.exists_of_covers h
  obtain ⟨q, hq, hlow', hhigh'⟩ := Ranges.exists_of_covers hblank
  rcases hdisjoint r hr q hq with hlt | hlt <;> omega

/-- What the ASCII digits are to the functions that read numerals. -/
theorem ascii_digit : ∀ v < 10, digitValue? (Char.ofNat ('0'.toNat + v)) = some v ∧
    isPadding (Char.ofNat ('0'.toNat + v)) = false ∧
    '0' ≤ Char.ofNat ('0'.toNat + v) ∧ Char.ofNat ('0'.toNat + v) ≤ '9' := by
  decide

/-- A digit of any script is read by its value. -/
theorem plainChar_of_isDecimal {c : Char} (h : isDecimal c = true) :
    ∃ v, v < 10 ∧ decimalValue? c = some v ∧ digitValue? (plainChar c) = some v ∧
      isPadding (plainChar c) = false ∧ '0' ≤ plainChar c ∧ plainChar c ≤ '9' := by
  obtain ⟨v, hlt, hv⟩ := decimalValue?_of_isDecimal h
  have hplain : plainChar c = Char.ofNat ('0'.toNat + v) := by
    unfold plainChar
    rw [hv]
  rw [hplain]
  exact ⟨v, hlt, hv, ascii_digit v hlt⟩

theorem digits?_cons {base v : Nat} {c : Char} (after : Bool) (rest : List Char)
    (hv : digitValue? c = some v) (hlt : v < base) :
    digits? base after (c :: rest) = (digits? base true rest).map (v :: ·) := by
  rw [digits?, hv]
  · dsimp only
    rw [if_pos hlt]
  · exact (ne_of_digitValue? hv).2.1

theorem digits?_map_plainChar {cs : List Char} (h : ∀ c ∈ cs, isDecimal c = true) :
    digits? 10 true (cs.map plainChar) = some (values cs) := by
  induction cs with
  | nil => rfl
  | cons c cs ih =>
    rw [List.forall_mem_cons] at h
    obtain ⟨v, hlt, hvalue, hv, -⟩ := plainChar_of_isDecimal h.1
    rw [List.map_cons, digits?_cons true _ hv hlt, ih h.2]
    simp only [values, List.filterMap_cons_some hvalue, Option.map_some]

/-- Digits are read as their values. -/
theorem runDigits?_map_plainChar {cs : List Char} (h : ∀ c ∈ cs, isDecimal c = true) :
    runDigits? (cs.map plainChar) = some (values cs) := by
  cases cs with
  | nil => rfl
  | cons c cs =>
    have hall := digits?_map_plainChar h
    rw [List.forall_mem_cons] at h
    obtain ⟨v, hlt, -, hv, -⟩ := plainChar_of_isDecimal h.1
    rw [List.map_cons, digits?_cons true _ hv hlt] at hall
    unfold runDigits?
    rw [List.map_cons, List.isEmpty_cons, if_neg Bool.false_ne_true, digits?_cons false _ hv hlt]
    exact hall

theorem takeSign_cons {v : Nat} {c : Char} (rest : List Char) (hv : digitValue? c = some v) :
    takeSign (c :: rest) = (false, c :: rest) := by
  obtain ⟨-, -, hplus, hminus⟩ := ne_of_digitValue? hv
  simp [takeSign, hplus, hminus]

/-- The digits in front of a text are taken off up to the first character that is none. -/
theorem takeRun_append {cs rest : List Char} (h : ∀ c ∈ cs, isDecimal c = true)
    (hrest : rest = [] ∨ ∃ fraction, rest = '.' :: fraction) :
    takeRun (cs.map plainChar ++ rest) = (cs.map plainChar, rest) := by
  have hrun : ∀ c ∈ cs.map plainChar, (('0' ≤ c && c ≤ '9') || c == '_') = true := by
    intro c hc
    obtain ⟨b, hb, rfl⟩ := List.mem_map.1 hc
    obtain ⟨v, -, -, -, -, hlow, hhigh⟩ := plainChar_of_isDecimal (h b hb)
    simp [hlow, hhigh]
  unfold takeRun
  rw [List.span_eq_takeWhile_dropWhile, List.takeWhile_append_of_pos hrun,
    List.dropWhile_append_of_pos hrun]
  rcases hrest with rfl | ⟨fraction, rfl⟩
  · simp
  · simp

theorem length_values {cs : List Char} (h : ∀ c ∈ cs, isDecimal c = true) :
    (values cs).length = cs.length := by
  induction cs with
  | nil => rfl
  | cons c cs ih =>
    rw [List.forall_mem_cons] at h
    obtain ⟨v, -, hv⟩ := decimalValue?_of_isDecimal h.1
    rw [List.length_cons, ← ih h.2]
    simp only [values, List.filterMap_cons_some hv, List.length_cons]

theorem values_append (cs ds : List Char) : values (cs ++ ds) = values cs ++ values ds :=
  List.filterMap_append

theorem ofDigits_eq (base : Nat) (ds : List Nat) :
    ofDigits base ds = Nat.ofDigits base ds.reverse := by
  rw [Nat.ofDigits_eq_foldr, List.foldr_reverse]
  unfold ofDigits
  congr 1
  funext n d
  rw [Nat.mul_comm, Nat.add_comm]
  rfl

theorem ofDigits_append (ds es : List Nat) :
    ofDigits 10 (ds ++ es) = ofDigits 10 es + ofDigits 10 ds * 10 ^ es.length := by
  rw [ofDigits_eq, ofDigits_eq, ofDigits_eq, List.reverse_append, Nat.ofDigits_append,
    List.length_reverse, Nat.mul_comm]

theorem ofDigits_values_lt (cs : List Char) :
    ofDigits 10 (values cs) < 10 ^ (values cs).length := by
  rw [ofDigits_eq, ← List.length_reverse]
  refine Nat.ofDigits_lt_base_pow_length (by norm_num) ?_
  intro v hv
  obtain ⟨c, -, hc⟩ := List.mem_filterMap.1 (List.mem_reverse.1 hv)
  exact placeValue?_lt hc

namespace Literal

variable (l : Literal)

/-- The text of a literal without its sign and in ASCII. -/
def bare : List Char := l.whole.map plainChar ++ '.' :: l.fraction.map plainChar

theorem plain_text : plain l.text = l.sign.chars ++ l.bare := by
  have hsign : l.sign.chars.map plainChar = l.sign.chars := by
    cases l.sign <;> decide
  have hmap : l.text.toList.map plainChar = l.sign.chars ++ l.bare := by
    unfold text bare
    rw [String.toList_ofList, List.map_append, hsign, List.map_append, List.map_cons]
    congr 3
  have hpadding : ∀ c ∈ l.sign.chars ++ l.bare, isPadding c = false := by
    have hdigits {cs : List Char} (h : ∀ c ∈ cs, isDecimal c = true) :
        ∀ c ∈ cs.map plainChar, isPadding c = false := by
      intro c hc
      obtain ⟨b, hb, rfl⟩ := List.mem_map.1 hc
      obtain ⟨v, -, -, -, hpadding, -⟩ := plainChar_of_isDecimal (h b hb)
      exact hpadding
    intro c hc
    simp only [bare, List.mem_append, List.mem_cons] at hc
    rcases hc with hc | hc | rfl | hc
    · rcases Sign.of_mem_chars hc with rfl | rfl <;> decide
    · exact hdigits l.whole_decimal c hc
    · decide
    · exact hdigits l.fraction_decimal c hc
  unfold plain
  rw [hmap, dropWhile_eq_self hpadding,
    dropWhile_eq_self (fun c hc => hpadding c (List.mem_reverse.1 hc)), List.reverse_reverse]

theorem takeSign_text :
    takeSign (l.sign.chars ++ l.bare) = (decide (l.sign = .minus), l.bare) := by
  obtain ⟨c, cs, hcs⟩ := List.exists_cons_of_ne_nil l.whole_ne
  have hc : isDecimal c = true := l.whole_decimal c (by rw [hcs]; exact List.mem_cons_self)
  obtain ⟨v, -, -, hv, -⟩ := plainChar_of_isDecimal hc
  cases l.sign with
  | none =>
    unfold bare
    rw [hcs, List.map_cons, List.cons_append]
    exact takeSign_cons _ hv
  | plus => rfl
  | minus => rfl

/-- A literal is read as the decimal that it stands for. -/
theorem decimal?_text : decimal? l.text = some l.decimal := by
  have hwhole := takeRun_append l.whole_decimal (.inr ⟨l.fraction.map plainChar, rfl⟩)
  have hfraction := takeRun_append l.fraction_decimal (.inl rfl)
  have hsome : (values l.whole).isEmpty = false := by
    rw [List.isEmpty_eq_false_iff, ← List.length_pos_iff, length_values l.whole_decimal,
      List.length_pos_iff]
    exact l.whole_ne
  have hpoint (cs : List Char) : takeFraction ('.' :: cs) = takeRun cs := rfl
  rw [List.append_nil] at hfraction
  unfold decimal?
  rw [plain_text, takeSign_text]
  unfold decimalAfter? bare
  rw [hwhole]
  dsimp only
  rw [hpoint, hfraction]
  dsimp only
  rw [runDigits?_map_plainChar l.whole_decimal, runDigits?_map_plainChar l.fraction_decimal]
  unfold readExponent? decimal
  dsimp only
  rw [hsome, Bool.false_and, if_neg Bool.false_ne_true, values_append,
    length_values l.fraction_decimal, Int.zero_sub]

/-- Trimming leaves a literal as it is. -/
theorem trim_text : trim l.text = l.text := by
  have hblank : ∀ c ∈ l.sign.chars ++ (l.whole ++ '.' :: l.fraction), isBlank c = false := by
    intro c hc
    simp only [List.mem_append, List.mem_cons] at hc
    rcases hc with hc | hc | rfl | hc
    · rcases Sign.of_mem_chars hc with rfl | rfl <;> decide
    · exact isBlank_of_isDecimal (l.whole_decimal c hc)
    · decide
    · exact isBlank_of_isDecimal (l.fraction_decimal c hc)
  unfold trim trimLeft text
  rw [String.toList_ofList, dropWhile_eq_self hblank,
    dropWhile_eq_self (fun c hc => hblank c (List.mem_reverse.1 hc)), List.reverse_reverse]

theorem num_eq : l.decimal.num = ofDigits 10 (values (l.whole ++ l.fraction)) := by
  have hzero : (-(l.fraction.length : Int)).toNat = 0 := by omega
  unfold Decimal.num decimal
  dsimp only
  rw [hzero, Nat.pow_zero, Nat.mul_one]

theorem den_eq : l.decimal.den = 10 ^ l.fraction.length := by
  unfold Decimal.den decimal
  dsimp only
  rw [Int.neg_neg, Int.toNat_natCast]

/-- The number of its digits bounds the number that a literal writes without its point. -/
theorem num_lt : l.decimal.num < 10 ^ (l.whole.length + l.fraction.length) := by
  have hlt := ofDigits_values_lt (l.whole ++ l.fraction)
  rw [num_eq, ← length_values l.whole_decimal, ← length_values l.fraction_decimal,
    ← List.length_append, ← values_append]
  exact hlt

/-- The digits before the point write the integer part of the decimal. -/
theorem num_div_den : l.decimal.num / l.decimal.den = ofDigits 10 (values l.whole) := by
  have hlength := length_values l.fraction_decimal
  have hfraction := ofDigits_values_lt l.fraction
  rw [hlength] at hfraction
  rw [num_eq, den_eq, values_append, ofDigits_append, hlength,
    Nat.add_mul_div_right _ _ (Nat.pow_pos (by norm_num)), Nat.div_eq_of_lt hfraction,
    Nat.zero_add]

end Literal

end Stencil.Numeral
