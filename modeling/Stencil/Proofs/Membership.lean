import Mathlib.Data.List.Perm.Subperm
import Stencil.Proofs.Keyed
import Stencil.Proofs.Result
import Stencil.Render.Operator
import Stencil.Tester

/-! Membership in the operator and in the tester. Both look for a part of a text and for a key of an
    object alike. Items of an array the operator compares as templates do, and the tester as the
    host does. The two notions of equality part where a boolean stands against a number, which only
    the host takes for the same, and where a list stands against a tuple, which only templates take
    for the same, at whatever depth. Where neither is met, the two ways to ask agree. -/

namespace Stencil

namespace Value

/-- At the same place in two values, a pair of values stands against each other that a relation
    holds of. -/
inductive Facing (P : Value → Value → Prop) : Value → Value → Prop where
  | here {x y} (h : P x y) : Facing P x y
  | item {x y a b} {xs ys : List Value} {i : Nat} (hx : x.items? = some xs) (hy : y.items? = some ys)
      (ha : xs[i]? = some a) (hb : ys[i]? = some b) (h : Facing P a b) : Facing P x y
  | entry {es fs e f} (he : e ∈ es) (hf : f ∈ fs) (hkey : e.1.text? = f.1.text?)
      (h : Facing P e.2 f.2) : Facing P (.object es) (.object fs)

/-- One is a boolean and the other a number. -/
def BoolAndNumber (x y : Value) : Prop :=
  ((∃ b, x = .bool b) ∧ y.number?.isSome = true) ∨ (x.number?.isSome = true ∧ ∃ b, y = .bool b)

/-- One is a list and the other a tuple. -/
def ListAndTuple (x y : Value) : Prop :=
  (∃ xs ys, x = .list xs ∧ y = .tuple ys) ∨ ∃ xs ys, x = .tuple xs ∧ y = .list ys

variable {x y : Value} {xs ys : List Value} {es fs : List (Value × Value)}

/-! ### Equality level by level -/

theorem number_eq_comm (m n : Number) : m.eq n = n.eq m := by
  unfold Number.eq
  cases m.rank? <;> cases n.rank? <;> simp [Bool.beq_comm]

theorem number_eq_bool (a b : Bool) :
    Number.eq (.int (if a then 1 else 0)) (.int (if b then 1 else 0)) = (a == b) := by
  have hone : (Binary64.one : Int) ≠ 0 := by decide
  have hrank (m n : Int) : Number.eq (.int m) (.int n) = (m == n) := by
    simp [Number.eq, Number.rank?, Int.mul_eq_mul_right_iff hone]
  rw [hrank]
  cases a <;> cases b <;> rfl

/-- Values without items and entries are equal to templates iff they are to the host, unless one is
    a boolean and the other a number. -/
theorem equals_atom (hitems : x.items? = none) (hentries : x.entries? = none) (y : Value) :
    x.equals y = true ↔ y.hostEquals x = true ∧ ¬BoolAndNumber x y := by
  cases x <;> simp only [items?, entries?, reduceCtorEq] at hitems hentries <;> cases y <;>
    simp [equals, hostEquals, atomEquals, hostNumber?, number?, text?, BoolAndNumber,
      number_eq_bool, number_eq_comm] <;> exact eq_comm

/-- Items of two lists that are at the same place are related, and there are as many. -/
def Paired (R : Value → Value → Prop) (xs ys : List Value) : Prop :=
  xs.length = ys.length ∧ ∀ (i : Nat) (a b : Value), xs[i]? = some a → ys[i]? = some b → R a b

theorem paired_cons {R : Value → Value → Prop} :
    Paired R (x :: xs) (y :: ys) ↔ R x y ∧ Paired R xs ys := by
  constructor
  · rintro ⟨hlength, h⟩
    exact ⟨h 0 x y rfl rfl, by simpa using hlength, fun i a b ha hb => h (i + 1) a b ha hb⟩
  · rintro ⟨hxy, hlength, h⟩
    refine ⟨by simpa using hlength, fun i a b ha hb => ?_⟩
    cases i with
    | zero =>
      cases ha
      cases hb
      exact hxy
    | succ i => exact h i a b ha hb

theorem equalsAll_iff : ∀ {xs ys : List Value},
    equalsAll xs ys = true ↔ Paired (fun a b => a.equals b = true) xs ys
  | [], [] => by simp [equalsAll, Paired]
  | [], y :: ys | x :: xs, [] => by simp [equalsAll, Paired]
  | x :: xs, y :: ys => by
    rw [equalsAll, Bool.and_eq_true, paired_cons, equalsAll_iff]

theorem hostEqualsAll_iff : ∀ {xs ys : List Value},
    hostEqualsAll ys xs = true ↔ Paired (fun a b => b.hostEquals a = true) xs ys
  | [], [] => by simp [hostEqualsAll, Paired]
  | [], y :: ys | x :: xs, [] => by simp [hostEqualsAll, Paired]
  | x :: xs, y :: ys => by
    rw [hostEqualsAll, Bool.and_eq_true, paired_cons, hostEqualsAll_iff]

theorem equals_items (hx : x.items? = some xs) : x.equals y = true ↔
    ∃ ys, y.items? = some ys ∧ Paired (fun a b => a.equals b = true) xs ys := by
  cases x <;> simp only [items?, reduceCtorEq, Option.some.injEq] at hx <;> subst hx <;>
    rw [equals] <;> cases y.items? <;> simp [equalsAll_iff]

theorem hostEquals_items (hx : x.items? = some xs) : y.hostEquals x = true ↔
    ∃ ys, y.items? = some ys ∧ ¬ListAndTuple x y ∧
      Paired (fun a b => b.hostEquals a = true) xs ys := by
  cases x <;> simp only [items?, reduceCtorEq, Option.some.injEq] at hx <;> subst hx <;>
    cases y <;>
    simp [hostEquals, hostEqualsAll_iff, items?, ListAndTuple, atomEquals, hostNumber?, number?,
      text?]

/-! ### Objects -/

/-- Every entry of the first object has one in the second under the same key whose value is related,
    and there are as many. -/
def Matched (R : Value → Value → Prop) (es fs : List (Value × Value)) : Prop :=
  es.length = fs.length ∧ ∀ e ∈ es, ∃ f ∈ fs, e.1.text? = f.1.text? ∧ R e.2 f.2

theorem hostEquals_text {k l : Value} (hk : k.text?.isSome = true) (hl : l.text?.isSome = true) :
    k.hostEquals l = true ↔ k.text? = l.text? := by
  cases k <;> simp only [text?, Option.isSome_some, Option.isSome_none, reduceCtorEq] at hk <;>
    cases l <;> simp only [text?, Option.isSome_some, Option.isSome_none, reduceCtorEq] at hl <;>
    simp [hostEquals, atomEquals, hostNumber?, number?, text?]

theorem equalsWithin_iff (hes : ∀ e ∈ es, e.1.text?.isSome = true)
    (hfs : ∀ f ∈ fs, f.1.text?.isSome = true) : equalsWithin es fs = true ↔
      ∀ e ∈ es, ∃ f ∈ fs, e.1.text? = f.1.text? ∧ e.2.equals f.2 = true := by
  induction es with
  | nil => simp [equalsWithin]
  | cons e rest ih =>
    obtain ⟨k, v⟩ := e
    obtain ⟨hk, hrest⟩ := List.forall_mem_cons.1 hes
    rw [equalsWithin, Bool.and_eq_true, ih hrest, List.forall_mem_cons, List.any_eq_true]
    refine and_congr_left fun _ => exists_congr fun f => and_congr_right fun hf => ?_
    rw [Bool.and_eq_true, hostEquals_text hk (hfs f hf)]

theorem hostWithin_iff (hes : ∀ e ∈ es, e.1.text?.isSome = true)
    (hfs : ∀ f ∈ fs, f.1.text?.isSome = true) : hostWithin fs es = true ↔
      ∀ f ∈ fs, ∃ e ∈ es, f.1.text? = e.1.text? ∧ f.2.hostEquals e.2 = true := by
  induction fs with
  | nil => simp [hostWithin]
  | cons f rest ih =>
    obtain ⟨k, v⟩ := f
    obtain ⟨hk, hrest⟩ := List.forall_mem_cons.1 hfs
    rw [hostWithin, Bool.and_eq_true, ih hrest, List.forall_mem_cons, List.any_eq_true]
    refine and_congr_left fun _ => exists_congr fun e => and_congr_right fun he => ?_
    rw [Bool.and_eq_true, hostEquals_text hk (hes e he)]

/-- Where no key is there twice, entries are matched from one side iff they are from the other. -/
theorem Matched.flip {R : Value → Value → Prop} (hes : (es.map (·.1.text?)).Nodup)
    (hfs : (fs.map (·.1.text?)).Nodup) (h : Matched R es fs) :
    Matched (fun a b => R b a) fs es := by
  obtain ⟨hlength, h⟩ := h
  refine ⟨hlength.symm, fun f hf => ?_⟩
  have hsub : es.map (·.1.text?) ⊆ fs.map (·.1.text?) := by
    intro k hk
    obtain ⟨e, he, rfl⟩ := List.mem_map.1 hk
    obtain ⟨g, hg, hkey, -⟩ := h e he
    exact hkey ▸ List.mem_map_of_mem hg
  -- as many keys of the first object are among those of the second as there are, so all are
  have hperm : (es.map (·.1.text?)).Perm (fs.map (·.1.text?)) :=
    (List.subperm_of_subset hes hsub).perm_of_length_le (by simp [hlength])
  obtain ⟨e, he, hkey⟩ := List.mem_map.1 (hperm.mem_iff.2 (List.mem_map_of_mem hf))
  obtain ⟨g, hg, hkey', hR⟩ := h e he
  obtain rfl : g = f := List.inj_on_of_nodup_map hfs hg hf (hkey'.symm.trans hkey)
  exact ⟨e, he, hkey.symm, hR⟩

theorem equals_object (hx : Keyed (.object es)) (hy : y.Keyed) : (object es).equals y = true ↔
    ∃ fs, y = .object fs ∧ Matched (fun a b => a.equals b = true) es fs := by
  cases y with
  | object fs =>
    rw [equals, Bool.and_eq_true, beq_iff_eq, equalsWithin_iff hx.of_entries.1 hy.of_entries.1]
    simp [Matched]
  | _ => simp [equals]

theorem hostEquals_object (hx : Keyed (.object es)) (hy : y.Keyed) :
    y.hostEquals (.object es) = true ↔
      ∃ fs, y = .object fs ∧ Matched (fun a b => b.hostEquals a = true) es fs := by
  cases y with
  | object fs =>
    obtain ⟨hes, hes', -⟩ := hx.of_entries
    obtain ⟨hfs, hfs', -⟩ := hy.of_entries
    rw [hostEquals, Bool.and_eq_true, beq_iff_eq, hostWithin_iff hes hfs]
    constructor
    · intro h
      exact ⟨fs, rfl, Matched.flip hfs' hes' h⟩
    · rintro ⟨_, ⟨⟩, h⟩
      exact h.flip hes' hfs'
  | _ => simp [hostEquals, atomEquals, hostNumber?, number?, text?]

/-! ### Values that stand against each other -/

variable {P : Value → Value → Prop}

theorem facing_atom (hitems : x.items? = none) (hentries : x.entries? = none) :
    Facing P x y ↔ P x y := by
  constructor
  · intro h
    cases h with
    | here h => exact h
    | item hx _ _ _ _ => cases hitems.symm.trans hx
    | entry _ _ _ _ => cases hentries
  · exact .here

theorem facing_items (hx : x.items? = some xs) (hy : y.items? = some ys) :
    Facing P x y ↔ P x y ∨
      ∃ (i : Nat) (a b : Value), xs[i]? = some a ∧ ys[i]? = some b ∧ Facing P a b := by
  constructor
  · intro h
    cases h with
    | here h => exact .inl h
    | item hx' hy' ha hb h =>
      cases hx.symm.trans hx'
      cases hy.symm.trans hy'
      exact .inr ⟨_, _, _, ha, hb, h⟩
    | entry _ _ _ _ => cases hx
  · rintro (h | ⟨i, a, b, ha, hb, h⟩)
    · exact .here h
    · exact .item hx hy ha hb h

theorem facing_object : Facing P (.object es) (.object fs) ↔ P (.object es) (.object fs) ∨
    ∃ e ∈ es, ∃ f ∈ fs, e.1.text? = f.1.text? ∧ Facing P e.2 f.2 := by
  constructor
  · intro h
    cases h with
    | here h => exact .inl h
    | item hx _ _ _ _ => cases hx
    | entry he hf hkey h => exact .inr ⟨_, he, _, hf, hkey, h⟩
  · rintro (h | ⟨e, he, f, hf, hkey, h⟩)
    · exact .here h
    · exact .entry he hf hkey h

/-- A number is no array. -/
theorem not_boolAndNumber_items (hx : x.items? = some xs) : ¬BoolAndNumber x y := by
  rintro (⟨⟨b, rfl⟩, -⟩ | ⟨hnumber, -⟩)
  · cases hx
  · cases x <;> simp [number?, items?] at hnumber hx

/-- How two notions of equality are tied to each other: what is equal to templates has no boolean
    against a number, what is equal to the host no list against a tuple, and either implies the
    other where the one has nothing against it that rules out the other. -/
structure Parting (x y : Value) : Prop where
  boolAndNumber : x.equals y = true → ¬Facing BoolAndNumber x y
  listAndTuple : y.hostEquals x = true → ¬Facing ListAndTuple x y
  host : x.equals y = true → ¬Facing ListAndTuple x y → y.hostEquals x = true
  template : y.hostEquals x = true → ¬Facing BoolAndNumber x y → x.equals y = true

theorem parting_atom (hitems : x.items? = none) (hentries : x.entries? = none) :
    Parting x y := by
  have heq := equals_atom hitems hentries y
  refine ⟨fun h => ?_, fun _ => ?_, fun h _ => (heq.1 h).1, fun h hnot => heq.2 ⟨h, ?_⟩⟩
  · rw [facing_atom hitems hentries]
    exact (heq.1 h).2
  · rw [facing_atom hitems hentries]
    rintro (⟨xs, ys, rfl, -⟩ | ⟨xs, ys, rfl, -⟩) <;> cases hitems
  · rwa [facing_atom hitems hentries] at hnot

theorem parting_of_unequal (he : ¬x.equals y = true) (hh : ¬y.hostEquals x = true) :
    Parting x y :=
  ⟨fun h => absurd h he, fun h => absurd h hh, fun h => absurd h he, fun h => absurd h hh⟩

theorem parting_items (hx : x.items? = some xs) (hy : y.items? = some ys)
    (ih : ∀ (i : Nat) (a b : Value), xs[i]? = some a → ys[i]? = some b → Parting a b) :
    Parting x y := by
  have hequals : x.equals y = true ↔ Paired (fun a b => a.equals b = true) xs ys := by
    simp [equals_items hx, hy]
  have hhost : y.hostEquals x = true ↔
      ¬ListAndTuple x y ∧ Paired (fun a b => b.hostEquals a = true) xs ys := by
    simp [hostEquals_items hx, hy]
  refine ⟨fun h => ?_, fun h => ?_, fun h hnot => ?_, fun h hnot => ?_⟩ <;>
    rw [facing_items hx hy] at *
  · rintro (htop | ⟨i, a, b, ha, hb, hfacing⟩)
    · exact not_boolAndNumber_items hx htop
    · exact (ih i a b ha hb).boolAndNumber ((hequals.1 h).2 i a b ha hb) hfacing
  · rintro (htop | ⟨i, a, b, ha, hb, hfacing⟩)
    · exact (hhost.1 h).1 htop
    · exact (ih i a b ha hb).listAndTuple ((hhost.1 h).2.2 i a b ha hb) hfacing
  · obtain ⟨hlength, hall⟩ := hequals.1 h
    refine hhost.2 ⟨fun htop => hnot (.inl htop), hlength, fun i a b ha hb => ?_⟩
    exact (ih i a b ha hb).host (hall i a b ha hb) fun hfacing =>
      hnot (.inr ⟨i, a, b, ha, hb, hfacing⟩)
  · obtain ⟨-, hlength, hall⟩ := hhost.1 h
    refine hequals.2 ⟨hlength, fun i a b ha hb => ?_⟩
    exact (ih i a b ha hb).template (hall i a b ha hb) fun hfacing =>
      hnot (.inr ⟨i, a, b, ha, hb, hfacing⟩)

theorem not_boolAndNumber_object : ¬BoolAndNumber (.object es) (.object fs) := by
  simp [BoolAndNumber, number?]

theorem not_listAndTuple_object : ¬ListAndTuple (.object es) (.object fs) := by
  simp [ListAndTuple]

/-- Where no key is there twice, an entry is matched by the one of the same key. -/
theorem Matched.of_key {R : Value → Value → Prop} (hfs : Keyed (.object fs)) (h : Matched R es fs)
    {e f : Value × Value} (he : e ∈ es) (hf : f ∈ fs) (hkey : e.1.text? = f.1.text?) :
    R e.2 f.2 := by
  obtain ⟨g, hg, hkey', hR⟩ := h.2 e he
  obtain rfl : g = f := hfs.entry_unique hg hf (hkey'.symm.trans hkey)
  exact hR

theorem Matched.imp {R S : Value → Value → Prop} (h : Matched R es fs)
    (himp : ∀ e ∈ es, ∀ f ∈ fs, e.1.text? = f.1.text? → R e.2 f.2 → S e.2 f.2) :
    Matched S es fs := by
  refine ⟨h.1, fun e he => ?_⟩
  obtain ⟨f, hf, hkey, hR⟩ := h.2 e he
  exact ⟨f, hf, hkey, himp e he f hf hkey hR⟩

theorem parting_object (hx : Keyed (.object es)) (hy : Keyed (.object fs))
    (ih : ∀ e ∈ es, ∀ f ∈ fs, Parting e.2 f.2) : Parting (.object es) (.object fs) := by
  have hequals : (object es).equals (.object fs) = true ↔
      Matched (fun a b => a.equals b = true) es fs := by
    simp [equals_object hx hy]
  have hhost : (object fs).hostEquals (.object es) = true ↔
      Matched (fun a b => b.hostEquals a = true) es fs := by
    simp [hostEquals_object hx hy]
  refine ⟨fun h => ?_, fun h => ?_, fun h hnot => ?_, fun h hnot => ?_⟩ <;>
    rw [facing_object] at *
  · rintro (htop | ⟨e, he, f, hf, hkey, hfacing⟩)
    · exact not_boolAndNumber_object htop
    · exact (ih e he f hf).boolAndNumber ((hequals.1 h).of_key hy he hf hkey) hfacing
  · rintro (htop | ⟨e, he, f, hf, hkey, hfacing⟩)
    · exact not_listAndTuple_object htop
    · exact (ih e he f hf).listAndTuple ((hhost.1 h).of_key hy he hf hkey) hfacing
  · refine hhost.2 ((hequals.1 h).imp fun e he f hf hkey heq => ?_)
    exact (ih e he f hf).host heq fun hfacing => hnot (.inr ⟨e, he, f, hf, hkey, hfacing⟩)
  · refine hequals.2 ((hhost.1 h).imp fun e he f hf hkey heq => ?_)
    exact (ih e he f hf).template heq fun hfacing => hnot (.inr ⟨e, he, f, hf, hkey, hfacing⟩)

/-- The two notions of equality part at booleans against numbers and at lists against tuples alone. -/
theorem parting (hx : x.Keyed) : ∀ {y : Value}, y.Keyed → Parting x y := by
  induction hx with
  | atom hitems hentries => exact fun _ => parting_atom hitems hentries
  | @items x xs hx _ ih =>
    intro y hy
    cases hys : y.items? with
    | none =>
      refine parting_of_unequal ?_ ?_
      · simp [equals_items hx, hys]
      · simp [hostEquals_items hx, hys]
    | some ys =>
      exact parting_items hx hys fun i a b ha hb =>
        ih a (List.mem_of_getElem? ha) (hy.of_items hys b (List.mem_of_getElem? hb))
  | @object es hk hd hv ih =>
    intro y hy
    have hx : Keyed (.object es) := .object hk hd hv
    -- an object is equal to objects alone, in both notions
    by_cases hobject : ∃ fs, y = .object fs
    · obtain ⟨fs, rfl⟩ := hobject
      exact parting_object hx hy fun e he f hf => ih e he (hy.of_entries.2.2 f hf)
    · refine parting_of_unequal ?_ ?_
      · rw [equals_object hx hy]
        exact fun ⟨fs, hfs, _⟩ => hobject ⟨fs, hfs⟩
      · rw [hostEquals_object hx hy]
        exact fun ⟨fs, hfs, _⟩ => hobject ⟨fs, hfs⟩

end Value

namespace Tester

open Value

variable {container needle : Value} {xs : List Value} {a b : Bool}

theorem requireText_eq_ok {tester part : String} {v : Value} {s : String} :
    requireText tester part v = .ok s ↔ v.text? = some s := by
  unfold requireText
  cases v.text? <;> simp [refuse]

/-- In texts and objects both look for the same. -/
theorem eq_of_no_items (hitems : container.items? = none)
    (ha : Operator.within needle container = .ok a)
    (hb : containing container needle = .ok (.bool b)) : a = b := by
  cases container <;> simp only [items?, reduceCtorEq] at hitems <;>
    simp only [Operator.within, Operator.mismatch, Operator.refuse, reduceCtorEq] at ha <;>
    simp only [containing, bind_eq_ok, pure_eq_ok, requireText_eq_ok, Value.bool.injEq] at hb <;>
    obtain ⟨-, -, t, ht, rfl⟩ := hb <;> simp [ht] at ha <;> exact ha.symm

/-- In an array the operator looks for an item that is equal to templates, and the tester for one
    that is equal to the host. -/
theorem eq_any_of_items (hitems : container.items? = some xs)
    (ha : Operator.within needle container = .ok a)
    (hb : containing container needle = .ok (.bool b)) :
    a = xs.any needle.equals ∧ b = xs.any (·.hostEquals needle) := by
  cases container <;> simp only [items?, reduceCtorEq, Option.some.injEq] at hitems <;> subst hitems <;>
    simp only [containing, bind_eq_ok, pure_eq_ok, Value.bool.injEq] at hb <;>
    obtain ⟨-, -, rfl⟩ := hb <;>
    exact ⟨(Except.ok.inj ha).symm, rfl⟩

end Tester

end Stencil
