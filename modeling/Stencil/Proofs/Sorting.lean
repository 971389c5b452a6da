import Mathlib.Algebra.Field.Rat
import Mathlib.Algebra.Order.Field.Basic
import Mathlib.Algebra.Order.Ring.Rat
import Mathlib.Data.Prod.Lex
import Mathlib.Data.String.Basic
import Stencil.Proofs.Lookup
import Stencil.Proofs.Proper
import Stencil.Render.Operator

/-! Sorting by what stands at a path. Keys of one kind have an order: false comes before true,
    numbers go by their exact values, texts by code points and arrays by length. Values are sorted
    iff all their keys are of one such kind, and what comes out is a stable sort of what went in.
    Otherwise the first value with an objection to it, in the order of the input, decides about the
    error. -/

namespace Stencil

namespace Number

/-- The exact value of a number on the extended line of the rationals. NaN, which has none, is put
    at zero. -/
def exact : Number → WithBot (WithTop ℚ)
  | .int n => ((n : ℚ) : WithTop ℚ)
  | .float .nan => 0
  | .float (.infinity s) => if s then ⊥ else (⊤ : WithTop ℚ)
  | .float (.finite s u) => (((if s then -(u : ℚ) else u) / Binary64.one : ℚ) : WithTop ℚ)

theorem one_pos : (0 : ℚ) < Binary64.one := by
  have : 0 < Binary64.one := by decide +kernel
  exact_mod_cast this

/-- The rank of a number says where its exact value lies, which is a rational unless infinite. -/
theorem rank?_cases {n : Number} (h : n ≠ .float .nan) :
    (n.rank? = some (-1, 0) ∧ n.exact = ⊥) ∨
    (∃ u : ℤ, n.rank? = some (0, u) ∧ n.exact = ((u / Binary64.one : ℚ) : WithTop ℚ)) ∨
    (n.rank? = some (1, 0) ∧ n.exact = (⊤ : WithTop ℚ)) := by
  rcases n with n | _ | s | ⟨s, u⟩
  · refine .inr (.inl ⟨n * Binary64.one, rfl, ?_⟩)
    simp [exact, mul_div_cancel_right₀ _ one_pos.ne']
  · exact absurd rfl h
  · cases s
    · exact .inr (.inr ⟨rfl, rfl⟩)
    · exact .inl ⟨rfl, rfl⟩
  · refine .inr (.inl ⟨if s then -(u : ℤ) else u, rfl, ?_⟩)
    cases s <;> simp [exact]

theorem lt_iff {m n : Number} (hm : m ≠ .float .nan) (hn : n ≠ .float .nan) :
    m.lt n = true ↔ m.exact < n.exact := by
  have htop (q : ℚ) : ((q : WithTop ℚ) : WithBot (WithTop ℚ)) < ⊤ :=
    WithBot.coe_lt_coe.2 (WithTop.coe_lt_top q)
  rcases rank?_cases hm with ⟨h, e⟩ | ⟨u, h, e⟩ | ⟨h, e⟩ <;>
    rcases rank?_cases hn with ⟨h', e'⟩ | ⟨u', h', e'⟩ | ⟨h', e'⟩ <;>
    simp [lt, rankLt, h, h', e, e', htop, div_lt_div_iff_of_pos_right one_pos]

theorem eq_iff {m n : Number} (hm : m ≠ .float .nan) (hn : n ≠ .float .nan) :
    m.eq n = true ↔ m.exact = n.exact := by
  rcases rank?_cases hm with ⟨h, e⟩ | ⟨u, h, e⟩ | ⟨h, e⟩ <;>
    rcases rank?_cases hn with ⟨h', e'⟩ | ⟨u', h', e'⟩ | ⟨h', e'⟩ <;>
    simp [eq, h, h', e, e', div_left_inj' one_pos.ne']

theorem le_iff {m n : Number} (hm : m ≠ .float .nan) (hn : n ≠ .float .nan) :
    m.le n = true ↔ m.exact ≤ n.exact := by
  rw [le, Bool.or_eq_true, lt_iff hm hn, eq_iff hm hn, le_iff_lt_or_eq]

end Number

namespace Value

/-- What a key is ordered by among keys of its kind: a number, which is 0 or 1 for a boolean, the
    exact value of a number and the length of an array, or the code points of a text. -/
def standing : Value → WithBot (WithTop ℚ) ×ₗ String
  | .bool b => toLex (if b then 1 else 0, "")
  | .int n => toLex ((Number.int n).exact, "")
  | .float x => toLex ((Number.float x).exact, "")
  | .list xs | .tuple xs => toLex (((xs.length : ℚ) : WithTop ℚ), "")
  | .text s | .markup s => toLex (0, s)
  | _ => toLex (0, "")

/-- What a value has at a path, nothing where the lookup fails. -/
def keyAt (path : String) (v : Value) : Value := (v.resolve path).toOption.getD .undefined

theorem keyAt_of_resolve {path : String} {v k : Value} (h : v.resolve path = .ok k) :
    v.keyAt path = k := by
  rw [keyAt, h]
  rfl

/-! ### Keys of one kind -/

/-- The kinds of keys that have an order. -/
def orderedKinds : List Kind := [.bool, .number, .string, .array]

theorem mem_orderedKinds {k : Kind} : k ∈ orderedKinds ↔ Sorter.sortable k = true := by
  cases k <;> decide

theorem number_of_kind {a : Value} (h : a.kind? = some .number) (hn : a ≠ .float .nan) :
    ∃ m, a.number? = some m ∧ m ≠ .float .nan ∧ a.standing = toLex (m.exact, "") := by
  cases a <;> simp only [kind?, Option.some.injEq, reduceCtorEq] at h
  case int m => exact ⟨.int m, rfl, by simp, rfl⟩
  case float x => exact ⟨.float x, rfl, by simpa using hn, rfl⟩

theorem text_of_kind {a : Value} (h : a.kind? = some .string) :
    ∃ s, a.text? = some s ∧ a.number? = none ∧ a.standing = toLex (0, s) := by
  cases a <;> simp only [kind?, Option.some.injEq, reduceCtorEq] at h
  case text s | markup s => exact ⟨s, rfl, rfl, rfl⟩

/-- The keys are compared as their standings are. -/
theorem keyLt_iff {a b : Value} {k : Kind} (hk : k ∈ orderedKinds) (ha : a.kind? = some k)
    (hb : b.kind? = some k) (hna : a ≠ .float .nan) (hnb : b ≠ .float .nan) :
    Sorter.keyLt a b = true ↔ a.standing < b.standing := by
  cases k with
  | null | object => exact absurd hk (by decide)
  | bool =>
    cases a <;> cases ha
    cases b <;> cases hb
    rename_i x y
    cases x <;> cases y <;> decide
  | number =>
    obtain ⟨m, hm, hmn, hsa⟩ := number_of_kind ha hna
    obtain ⟨n, hn, hnn, hsb⟩ := number_of_kind hb hnb
    have hlt : Sorter.keyLt a b = m.lt n := by
      unfold Sorter.keyLt
      split
      · cases hm
      · simp only [hm, hn]
    rw [hlt, hsa, hsb, Prod.Lex.toLex_lt_toLex, Number.lt_iff hmn hnn]
    simp
  | string =>
    obtain ⟨s, hs, hna, hsa⟩ := text_of_kind ha
    obtain ⟨t, ht, hnb, hsb⟩ := text_of_kind hb
    have hlt : Sorter.keyLt a b = decide (s < t) := by
      unfold Sorter.keyLt
      split
      · cases hs
      · simp only [hna, hs, ht]
    rw [hlt, hsa, hsb, Prod.Lex.toLex_lt_toLex]
    simp
  | array =>
    cases a <;> cases ha <;> cases b <;> cases hb <;>
      simp [Sorter.keyLt, standing, number?, text?, items?, Prod.Lex.toLex_lt_toLex]

/-- Numbers and texts that stand in order satisfy the operator that templates compare with. -/
theorem compare_le_of_standing {a b : Value} {k : Kind} (hk : k = .number ∨ k = .string)
    (ha : a.kind? = some k) (hb : b.kind? = some k) (hna : a ≠ .float .nan) (hnb : b ≠ .float .nan)
    (hle : a.standing ≤ b.standing) : Operator.compare "<=" a b = .ok true := by
  rcases hk with rfl | rfl
  · obtain ⟨m, hm, hmn, hsa⟩ := number_of_kind ha hna
    obtain ⟨n, hn, hnn, hsb⟩ := number_of_kind hb hnb
    rw [hsa, hsb, Prod.Lex.toLex_le_toLex] at hle
    have hle : m.le n = true := (Number.le_iff hmn hnn).2 (hle.elim le_of_lt fun h => h.1.le)
    simp only [Operator.compare, Operator.ordered, hm, hn, Operator.orderBy]
    exact congrArg Except.ok hle
  · obtain ⟨s, hs, hna, hsa⟩ := text_of_kind ha
    obtain ⟨t, ht, -, hsb⟩ := text_of_kind hb
    rw [hsa, hsb, Prod.Lex.toLex_le_toLex] at hle
    have hle : s < t ∨ s = t := by simpa [le_iff_lt_or_eq] using hle
    simpa [Operator.compare, Operator.ordered, hna, hs, ht, Operator.orderBy] using hle

/-! ### Objections -/

/-- An objection to a key among keys that are sorted like the first one. -/
inductive Objection (path : String) (first : Value) : Value → RuntimeError → Prop
  | missing : Objection path first .undefined (.missingAttribute path)
  | unsortable {k : Kind} (h : first.kind? = some k) (hk : k ∉ orderedKinds) :
    Objection path first first (.ordering s!"{first.inspect} is not a sortable value"
      [("key", first)] (some "Sort by an attribute holding a bool, number, string or array"))
  | mixed {key : Value} {expected actual : Kind} (h : first.kind? = some expected)
      (hk : key.kind? = some actual) (hne : actual ≠ expected) :
    Objection path first key (.ordering
      (s!"sort can't compare multiple types: expected {expected.withArticle}, "
        ++ s!"got {actual.withArticle}") [("key", key)] none)

/-- What is found at a path in a template value has a kind. -/
theorem kind_of_found {p : String} {v k : Value} (hv : v.Proper) (hk : v.resolve p = .ok k)
    (hne : k ≠ .undefined) : ∃ kind, k.kind? = some kind := by
  have hby : v.resolveBy (.text p) = .ok k := hk
  rcases Proper.hereditary.resolveBy hv hby with h | h
  · cases h <;> exact ⟨_, rfl⟩
  · exact absurd h hne

/-- Where nothing is objected to the first key and another, both are of one kind with an order. -/
theorem kind_of_no_objection {path : String} {first key : Value}
    (hfirst : first ≠ .undefined → ∃ k, first.kind? = some k)
    (hkey : key ≠ .undefined → ∃ k, key.kind? = some k)
    (hself : ∀ e, ¬Objection path first first e) (hno : ∀ e, ¬Objection path first key e) :
    ∃ k ∈ orderedKinds, first.kind? = some k ∧ key.kind? = some k := by
  obtain ⟨k, hk⟩ := hfirst (by rintro rfl; exact hself _ .missing)
  obtain ⟨l, hl⟩ := hkey (by rintro rfl; exact hno _ .missing)
  have hmem : k ∈ orderedKinds := by_contra fun h => hself _ (.unsortable hk h)
  have hlk : l = k := by_contra fun h => hno _ (.mixed hk hl h)
  exact ⟨k, hmem, hk, hlk ▸ hl⟩

/-- Nothing is objected to keys of one kind with an order. -/
theorem no_objection_of_kind {path : String} {first key : Value} {k : Kind} (hk : k ∈ orderedKinds)
    (hfirst : first.kind? = some k) (hkey : key.kind? = some k) (e : RuntimeError) :
    ¬Objection path first key e := by
  intro h
  cases h with
  | missing => cases hkey
  | unsortable h hnot => exact hnot (Option.some.inj (hfirst.symm.trans h) ▸ hk)
  | mixed h h' hne =>
    exact hne (Option.some.inj (h'.symm.trans (hkey.trans (hfirst.symm.trans h))))

/-! ### The run of a sort -/

section

variable {path : Value} {p : String} (hp : path.text? = some p)

include hp in
theorem missingKey_eq : missingKey path = .ofRuntime (.missingAttribute p) := by
  have hset : path.isSet = !p.isEmpty ∧ path.plain = p := by
    cases path <;> cases hp <;> exact ⟨rfl, rfl⟩
  unfold missingKey
  rw [hset.1, hset.2]
  by_cases h : p.isEmpty = true <;> simp [RuntimeError.missingAttribute, h]

include hp in
theorem requiredKey_of_nothing {v : Value} (hv : v.resolve p = .ok .undefined) :
    requiredKey path v = .error (.ofRuntime (.missingAttribute p)) := by
  simp only [requiredKey, orderKey, resolveBy, hp, hv, missingKey_eq hp]
  rfl

include hp in
theorem requiredKey_of_resolve {v k : Value} (hv : v.resolve p = .ok k) (hk : k ≠ .undefined) :
    requiredKey path v = .ok k := by
  simp only [requiredKey, orderKey, resolveBy, hp, hv]
  cases k <;> first | rfl | exact absurd rfl hk

theorem keyKind_eq {key : Value} {k : Kind} (h : key.kind? = some k) : keyKind key = .ok k := by
  simp [keyKind, kind, h]

theorem ofFirst_of_ordered {key : Value} {k : Kind} (h : key.kind? = some k)
    (hk : k ∈ orderedKinds) : Sorter.ofFirst key = .ok { kind := k } := by
  rw [Sorter.ofFirst, keyKind_eq h]
  exact if_pos (mem_orderedKinds.1 hk)

theorem ofFirst_of_unordered {key : Value} {k : Kind} (h : key.kind? = some k)
    (hk : k ∉ orderedKinds) : Sorter.ofFirst key = .error (.ofRuntime
      (.ordering s!"{key.inspect} is not a sortable value" [("key", key)]
        (some "Sort by an attribute holding a bool, number, string or array"))) := by
  rw [Sorter.ofFirst, keyKind_eq h]
  exact if_neg fun h => hk (mem_orderedKinds.2 h)

theorem add_of_kind {v key : Value} {k : Kind} {pairs : List (Value × Value)}
    (h : key.kind? = some k) : Sorter.add ⟨k, pairs⟩ v key = .ok ⟨k, (v, key) :: pairs⟩ := by
  rw [Sorter.add, keyKind_eq h]
  exact if_pos rfl

theorem add_of_other_kind {v key : Value} {k l : Kind} {pairs : List (Value × Value)}
    (h : key.kind? = some l) (hl : l ≠ k) : Sorter.add ⟨k, pairs⟩ v key = .error (.ofRuntime
      (.ordering (s!"sort can't compare multiple types: expected {k.withArticle}, "
        ++ s!"got {l.withArticle}") [("key", key)] none)) := by
  rw [Sorter.add, keyKind_eq h]
  refine (if_neg hl).trans ?_
  have hwording : toString "sort" ++ toString " can't compare multiple types: expected " =
      toString "sort can't compare multiple types: expected " := by decide
  simp only [mixedKinds, kind, h, hwording]

include hp in
/-- Values with keys of the right kind are added one after the other. -/
theorem addAll_append {k : Kind} {ws : List Value} : ∀ {vs : List Value}
    {pairs : List (Value × Value)},
    (∀ x ∈ vs, x.resolve p = .ok (x.keyAt p) ∧ (x.keyAt p).kind? = some k) →
    addAll path ⟨k, pairs⟩ (vs ++ ws) =
      addAll path ⟨k, (vs.map fun x => (x, x.keyAt p)).reverse ++ pairs⟩ ws
  | [], _, _ => rfl
  | v :: vs, pairs, h => by
    obtain ⟨hv, hkind⟩ := h v (List.mem_cons_self ..)
    have hne : v.keyAt p ≠ .undefined := fun h => by simp [h, kind?] at hkind
    have hadd : addAll path ⟨k, pairs⟩ (v :: (vs ++ ws)) =
        addAll path ⟨k, (v, v.keyAt p) :: pairs⟩ (vs ++ ws) := by
      rw [addAll, requiredKey_of_resolve hp hv hne]
      exact congrArg (· >>= fun s => addAll path s (vs ++ ws)) (add_of_kind hkind)
    rw [List.cons_append, hadd, addAll_append fun x hx => h x (List.mem_cons_of_mem _ hx)]
    simp

include hp in
/-- The first value with an objection to it ends the addition. -/
theorem addAll_objection {k : Kind} {first x : Value} {before after : List Value} {e : RuntimeError}
    (hk : k ∈ orderedKinds) (hfirst : first.kind? = some k)
    (hbefore : ∀ y ∈ before, y.resolve p = .ok (y.keyAt p) ∧ (y.keyAt p).kind? = some k)
    (hx : x.resolve p = .ok (x.keyAt p)) (he : Objection p first (x.keyAt p) e) :
    addAll path ⟨k, []⟩ (before ++ x :: after) = .error (.ofRuntime e) := by
  rw [addAll_append hp hbefore, addAll]
  generalize x.keyAt p = key at hx he
  cases he with
  | missing => rw [requiredKey_of_nothing hp hx]; rfl
  | unsortable h hnot => exact absurd (Option.some.inj (hfirst.symm.trans h) ▸ hk) hnot
  | mixed h h' hne =>
    cases Option.some.inj (hfirst.symm.trans h)
    rw [requiredKey_of_resolve hp hx (by rintro rfl; cases h')]
    exact congrArg (· >>= fun s => addAll path s after) (add_of_other_kind h' hne)

end

/-! ### Stable sorts -/

/-- All values have something at a path, and it is of one kind that has an order. -/
def Orderly (path : String) (values : List Value) : Prop :=
  ∃ k ∈ orderedKinds, ∀ x ∈ values, (x.keyAt path).kind? = some k

/-- The first of two values does not come after the second by what stands at a path. -/
def inOrder (path : String) (x y : Value) : Bool :=
  decide ((x.keyAt path).standing ≤ (y.keyAt path).standing)

/-- A stable sort of values by what stands at a path. -/
structure IsSortOf (path : String) (values result : List Value) : Prop where
  perm : result.Perm values
  ascending : result.Pairwise fun x y => (x.keyAt path).standing ≤ (y.keyAt path).standing
  stable : ∀ place, (result.filter fun x => (x.keyAt path).standing = place) =
    values.filter fun x => (x.keyAt path).standing = place

theorem inOrder_trans (path : String) (x y z : Value) (hxy : inOrder path x y = true)
    (hyz : inOrder path y z = true) : inOrder path x z = true := by
  simp only [inOrder, decide_eq_true_eq] at *
  exact hxy.trans hyz

theorem inOrder_total (path : String) (x y : Value) :
    (inOrder path x y || inOrder path y x) = true := by
  simpa [inOrder] using le_total (x.keyAt path).standing (y.keyAt path).standing

theorem isSortOf_mergeSort (path : String) (values : List Value) :
    IsSortOf path values (values.mergeSort (inOrder path)) where
  perm := List.mergeSort_perm values _
  ascending := by
    have h := List.pairwise_mergeSort (inOrder_trans path) (inOrder_total path) values
    exact h.imp fun h => of_decide_eq_true h
  stable place := by
    -- the values of one place are in order, so that they are a part of the result as they are
    have hpart : (values.filter fun x => (x.keyAt path).standing = place).Sublist
        (values.mergeSort (inOrder path)) := by
      refine List.sublist_mergeSort (inOrder_trans path) (inOrder_total path) ?_ List.filter_sublist
      refine List.pairwise_of_forall_mem_list fun x hx y hy => ?_
      have hx := (List.mem_filter.1 hx).2
      have hy := (List.mem_filter.1 hy).2
      simp only [decide_eq_true_eq] at hx hy
      simp [inOrder, hx, hy]
    have hle := hpart.filter fun x => (x.keyAt path).standing = place
    rw [List.filter_filter] at hle
    simp only [Bool.and_self] at hle
    exact (hle.eq_of_length
      ((List.mergeSort_perm values _).filter _).length_eq.symm).symm

/-! ### The outcome of a sort -/

theorem isUnordered_eq_false {key : Value} (h : key ≠ .float .nan) :
    Sorter.isUnordered key = false := by
  have hrank (n : Number) (hn : n ≠ .float .nan) : n.rank?.isNone = false := by
    rcases Number.rank?_cases hn with ⟨h, -⟩ | ⟨u, h, -⟩ | ⟨h, -⟩ <;> rw [h] <;> rfl
  cases key with
  | int n => exact hrank (.int n) (by simp)
  | float x => exact hrank (.float x) (by simpa using h)
  | _ => rfl

/-- What a sorter makes of values with keys of its kind is the merge sort by their standings. -/
theorem sorted_eq {path : String} {k : Kind} {values : List Value} (hk : k ∈ orderedKinds)
    (hkind : ∀ x ∈ values, (x.keyAt path).kind? = some k)
    (hnan : ∀ x ∈ values, x.keyAt path ≠ .float .nan) :
    Sorter.sorted ⟨k, (values.map fun x => (x, x.keyAt path)).reverse⟩ =
      values.mergeSort (inOrder path) := by
  have hordered : ((values.map fun x => (x, x.keyAt path)).any fun e =>
      Sorter.isUnordered e.2) = false := by
    simpa using fun x hx => isUnordered_eq_false (hnan x hx)
  have hcompare : ∀ a ∈ values.map (fun x => (x, x.keyAt path)),
      ∀ b ∈ values.map (fun x => (x, x.keyAt path)),
      (!Sorter.keyLt b.2 a.2) = inOrder path a.1 b.1 := by
    intro a ha b hb
    obtain ⟨x, hx, rfl⟩ := List.mem_map.1 ha
    obtain ⟨y, hy, rfl⟩ := List.mem_map.1 hb
    have hlt := keyLt_iff hk (hkind y hy) (hkind x hx) (hnan y hy) (hnan x hx)
    rw [inOrder, Bool.eq_iff_iff, Bool.not_eq_true', ← Bool.not_eq_true, hlt, decide_eq_true_eq,
      not_lt]
  simp only [Sorter.sorted, List.reverse_reverse, hordered]
  rw [if_neg Bool.false_ne_true, List.map_mergeSort hcompare, List.map_map]
  exact congrArg (List.mergeSort · (inOrder path)) (List.map_id values)

section

variable {path : Value} {p : String} (hp : path.text? = some p) {values : List Value}

/-- The key of the first value decides how the others are added. -/
theorem sort_of_head {first : Value} (hhead : values.head? = some first) :
    sort values path = (requiredKey path first >>= fun key => Sorter.ofFirst key >>= fun s =>
      addAll path s values >>= fun s => return s.sorted) := by
  cases values with
  | nil => cases hhead
  | cons v rest => cases hhead; rfl

include hp in
theorem sort_of_ordered_head {first : Value} {k : Kind} (hhead : values.head? = some first)
    (hfirst : first.resolve p = .ok (first.keyAt p)) (hkind : (first.keyAt p).kind? = some k)
    (hk : k ∈ orderedKinds) :
    sort values path = addAll path ⟨k, []⟩ values >>= fun s => return s.sorted := by
  have hne : first.keyAt p ≠ .undefined := fun h => by simp [h, kind?] at hkind
  rw [sort_of_head hhead, requiredKey_of_resolve hp hfirst hne]
  exact congrArg (· >>= fun s => addAll path s values >>= fun s => return s.sorted)
    (ofFirst_of_ordered hkind hk)

include hp in
/-- Values with keys of one ordered kind are sorted. -/
theorem sort_of_orderly (hfound : ∀ x ∈ values, x.resolve p = .ok (x.keyAt p))
    (hnan : ∀ x ∈ values, x.keyAt p ≠ .float .nan) (h : Orderly p values) :
    sort values path = .ok (values.mergeSort (inOrder p)) := by
  obtain ⟨k, hk, hkind⟩ := h
  cases hhead : values.head? with
  | none =>
    rw [List.head?_eq_none_iff] at hhead
    simp [hhead, sort]
  | some first =>
    have hmem : first ∈ values := List.mem_of_head? hhead
    have hadd : addAll path ⟨k, []⟩ (values ++ []) =
        addAll path ⟨k, (values.map fun x => (x, x.keyAt p)).reverse ++ []⟩ [] :=
      addAll_append hp fun x hx => ⟨hfound x hx, hkind x hx⟩
    rw [sort_of_ordered_head hp hhead (hfound first hmem) (hkind first hmem) hk,
      ← sorted_eq hk hkind hnan]
    rw [List.append_nil, List.append_nil] at hadd
    rw [hadd]
    rfl

include hp in
/-- The first objection in the order of the values is the error. -/
theorem sort_of_objection {before after : List Value} {first x : Value} {e : RuntimeError}
    (hproper : ∀ x ∈ values, x.Proper) (hfound : ∀ x ∈ values, x.resolve p = .ok (x.keyAt p))
    (hhead : values.head? = some first) (hvalues : values = before ++ x :: after)
    (hbefore : ∀ y ∈ before, ∀ e, ¬Objection p (first.keyAt p) (y.keyAt p) e)
    (he : Objection p (first.keyAt p) (x.keyAt p) e) :
    sort values path = .error (.ofRuntime e) := by
  have hmem : first ∈ values := List.mem_of_head? hhead
  have hfirst := hfound first hmem
  have hkindOf {v : Value} (hv : v ∈ values) (hne : v.keyAt p ≠ .undefined) :
      ∃ k, (v.keyAt p).kind? = some k := kind_of_found (hproper v hv) (hfound v hv) hne
  by_cases hself : ∃ e, Objection p (first.keyAt p) (first.keyAt p) e
  · -- then no value stands before the one with the objection, which is the first
    obtain rfl : x = first := by
      cases before with
      | nil => simpa [hvalues] using hhead
      | cons y ys =>
        obtain rfl : y = first := by simpa [hvalues] using hhead
        obtain ⟨e, h⟩ := hself
        exact absurd h (hbefore y (by simp) e)
    rw [sort_of_head hhead]
    generalize x.keyAt p = key at he hfirst
    cases he with
    | missing => rw [requiredKey_of_nothing hp hfirst]; rfl
    | unsortable h hk =>
      rw [requiredKey_of_resolve hp hfirst (by rintro rfl; cases h)]
      exact congrArg (· >>= fun s => addAll path s values >>= fun s => return s.sorted)
        (ofFirst_of_unordered h hk)
    | mixed h h' hne => exact absurd (Option.some.inj (h'.symm.trans h)) hne
  · have hself : ∀ e, ¬Objection p (first.keyAt p) (first.keyAt p) e := not_exists.1 hself
    obtain ⟨k, hk, hkind, -⟩ := kind_of_no_objection (hkindOf hmem) (hkindOf hmem) hself hself
    have hkinds : ∀ y ∈ before, y.resolve p = .ok (y.keyAt p) ∧ (y.keyAt p).kind? = some k := by
      intro y hy
      have hy' : y ∈ values := by simp [hvalues, hy]
      obtain ⟨l, -, hl, hyl⟩ :=
        kind_of_no_objection (hkindOf hmem) (hkindOf hy') hself (hbefore y hy)
      exact ⟨hfound y hy', by rw [hyl, ← hl, hkind]⟩
    have hx : x.resolve p = .ok (x.keyAt p) := hfound x (by simp [hvalues])
    rw [sort_of_ordered_head hp hhead hfirst hkind hk, hvalues,
      addAll_objection hp hk hkind hkinds hx he]
    rfl

/-- Values can be sorted iff there is no objection to any of them. -/
theorem orderly_iff {first : Value} (hproper : ∀ x ∈ values, x.Proper)
    (hfound : ∀ x ∈ values, x.resolve p = .ok (x.keyAt p)) (hhead : values.head? = some first) :
    Orderly p values ↔ ∀ x ∈ values, ∀ e, ¬Objection p (first.keyAt p) (x.keyAt p) e := by
  have hmem : first ∈ values := List.mem_of_head? hhead
  have hkindOf {v : Value} (hv : v ∈ values) (hne : v.keyAt p ≠ .undefined) :
      ∃ k, (v.keyAt p).kind? = some k :=
    kind_of_found (hproper v hv) (hfound v hv) hne
  constructor
  · rintro ⟨k, hk, hkind⟩ x hx e
    exact no_objection_of_kind hk (hkind first hmem) (hkind x hx) e
  · intro hno
    obtain ⟨k, hk, hkind, -⟩ :=
      kind_of_no_objection (hkindOf hmem) (hkindOf hmem) (hno first hmem) (hno first hmem)
    refine ⟨k, hk, fun x hx => ?_⟩
    obtain ⟨l, -, hl, hxl⟩ :=
      kind_of_no_objection (hkindOf hmem) (hkindOf hx) (hno first hmem) (hno x hx)
    rw [hxl, ← hl, hkind]

/-- If one of some values has a property, there is a first one that has it. -/
theorem exists_first {P : Value → Prop} (h : ∃ x ∈ values, P x) :
    ∃ before x after, values = before ++ x :: after ∧ (∀ y ∈ before, ¬P y) ∧ P x := by
  classical
  obtain ⟨y, hy, hPy⟩ := h
  have hsome : (values.find? fun x => decide (P x)).isSome = true :=
    List.find?_isSome.2 ⟨y, hy, decide_eq_true hPy⟩
  obtain ⟨x, hx⟩ := Option.isSome_iff_exists.1 hsome
  obtain ⟨hx, before, after, hvalues, hbefore⟩ := List.find?_eq_some_iff_append.1 hx
  exact ⟨before, x, after, hvalues, by simpa using hbefore, of_decide_eq_true hx⟩

/-- Values that cannot be sorted have a first one with an objection to it. -/
theorem exists_first_objection (hproper : ∀ x ∈ values, x.Proper)
    (hfound : ∀ x ∈ values, x.resolve p = .ok (x.keyAt p)) (h : ¬Orderly p values) :
    ∃ first before x after e, values.head? = some first ∧ values = before ++ x :: after ∧
      (∀ y ∈ before, ∀ e, ¬Objection p (first.keyAt p) (y.keyAt p) e) ∧
      Objection p (first.keyAt p) (x.keyAt p) e := by
  cases hhead : values.head? with
  | none =>
    rw [List.head?_eq_none_iff] at hhead
    exact absurd ⟨.bool, by decide, by simp [hhead]⟩ h
  | some first =>
    have hsome : ∃ x ∈ values, ∃ e, Objection p (first.keyAt p) (x.keyAt p) e := by
      rw [orderly_iff hproper hfound hhead] at h
      push Not at h
      exact h
    obtain ⟨before, x, after, hvalues, hbefore, e, he⟩ := exists_first hsome
    exact ⟨first, before, x, after, e, rfl, hvalues, fun y hy => not_exists.1 (hbefore y hy), he⟩

include hp in
theorem sort_eq_ok_iff (hproper : ∀ x ∈ values, x.Proper)
    (hfound : ∀ x ∈ values, x.resolve p = .ok (x.keyAt p))
    (hnan : ∀ x ∈ values, x.keyAt p ≠ .float .nan) {result : List Value} :
    sort values path = .ok result ↔ Orderly p values ∧ result = values.mergeSort (inOrder p) := by
  by_cases h : Orderly p values
  · simp [sort_of_orderly hp hfound hnan h, h, eq_comm]
  · obtain ⟨first, before, x, after, e, hhead, hvalues, hbefore, he⟩ :=
      exists_first_objection hproper hfound h
    simp [sort_of_objection hp hproper hfound hhead hvalues hbefore he, h]

/-- Where the first objection in the order of the values is the error, and there is one whenever there
    is an error, the errors are the first objections. -/
theorem eq_error_iff_first_objection {α : Type} {r : Except Problem α}
    {Q : Value → Value → RuntimeError → Prop}
    (hfails : ∀ {first before x after e}, values.head? = some first →
      values = before ++ x :: after → (∀ y ∈ before, ∀ e, ¬Q first y e) → Q first x e →
      r = .error (.ofRuntime e))
    (hobjects : ∀ {problem}, r = .error problem → ∃ first before x after e,
      values.head? = some first ∧ values = before ++ x :: after ∧
        (∀ y ∈ before, ∀ e, ¬Q first y e) ∧ Q first x e) {problem : Problem} :
    r = .error problem ↔
      ∃ first before x after e, values.head? = some first ∧ values = before ++ x :: after ∧
        (∀ y ∈ before, ∀ e, ¬Q first y e) ∧ Q first x e ∧ problem = .ofRuntime e := by
  constructor
  · intro herror
    obtain ⟨first, before, x, after, e, hhead, hvalues, hbefore, he⟩ := hobjects herror
    have hfirst := hfails hhead hvalues hbefore he
    exact ⟨first, before, x, after, e, hhead, hvalues, hbefore, he,
      (Except.error.inj (hfirst.symm.trans herror)).symm⟩
  · rintro ⟨first, before, x, after, e, hhead, hvalues, hbefore, he, rfl⟩
    exact hfails hhead hvalues hbefore he

include hp in
theorem sort_eq_error_iff (hproper : ∀ x ∈ values, x.Proper)
    (hfound : ∀ x ∈ values, x.resolve p = .ok (x.keyAt p))
    (hnan : ∀ x ∈ values, x.keyAt p ≠ .float .nan) {problem : Problem} :
    sort values path = .error problem ↔
      ∃ first before x after e, values.head? = some first ∧ values = before ++ x :: after ∧
        (∀ y ∈ before, ∀ e, ¬Objection p (first.keyAt p) (y.keyAt p) e) ∧
        Objection p (first.keyAt p) (x.keyAt p) e ∧ problem = .ofRuntime e := by
  refine eq_error_iff_first_objection (sort_of_objection hp hproper hfound) fun herror => ?_
  refine exists_first_objection hproper hfound fun h => ?_
  simp [sort_of_orderly hp hfound hnan h] at herror

include hp in
/-- Template values, at which a path does not fail and leads to no NaN, are sorted iff what they
    have there is of one kind that has an order. The result is a stable sort; numbers and texts
    satisfy the operator of templates in it, and it stays as it is when it is sorted again.
    Otherwise the error is the first objection in the order of the values, or where this shows an
    integer of too many digits the failure to word it. -/
theorem sort_outcome (hproper : ∀ x ∈ values, x.Proper)
    (hfound : ∀ x ∈ values, ∃ key, x.resolve p = .ok key)
    (hnan : ∀ x ∈ values, x.keyAt p ≠ .float .nan) :
    sort [] path = .ok [] ∧
    ((∃ result, sort values path = .ok result) ↔ Orderly p values) ∧
    (∀ result, sort values path = .ok result → IsSortOf p values result ∧
      (result.Pairwise fun x y =>
        (x.keyAt p).kind? = some .number ∨ (x.keyAt p).kind? = some .string →
        Operator.compare "<=" (x.keyAt p) (y.keyAt p) = .ok true) ∧
      sort result path = .ok result) ∧
    ∀ problem, sort values path = .error problem ↔
      ∃ first before x after e, values.head? = some first ∧ values = before ++ x :: after ∧
        (∀ y ∈ before, ∀ e, ¬Objection p (first.keyAt p) (y.keyAt p) e) ∧
        Objection p (first.keyAt p) (x.keyAt p) e ∧
        problem = if e.isWritable then .template (.runtime e) else .fault (.failure .badValue) := by
  have hfound : ∀ x ∈ values, x.resolve p = .ok (x.keyAt p) := fun x hx => by
    obtain ⟨key, hkey⟩ := hfound x hx
    rw [hkey, keyAt_of_resolve hkey]
  have hok {result : List Value} : sort values path = .ok result ↔
      Orderly p values ∧ result = values.mergeSort (inOrder p) :=
    sort_eq_ok_iff hp hproper hfound hnan
  refine ⟨rfl, ?_, fun result hresult => ?_, fun _ => sort_eq_error_iff hp hproper hfound hnan⟩
  · simp [hok]
  · obtain ⟨⟨k, hk, hkind⟩, rfl⟩ := hok.1 hresult
    have hsort := isSortOf_mergeSort p values
    have hin {x : Value} (hx : x ∈ values.mergeSort (inOrder p)) : x ∈ values :=
      hsort.perm.subset hx
    refine ⟨hsort, ?_, ?_⟩
    · refine hsort.ascending.imp_of_mem fun {x y} hx hy hle hxk => ?_
      have hk' : k = .number ∨ k = .string := by simpa [hkind x (hin hx)] using hxk
      exact compare_le_of_standing hk' (hkind x (hin hx)) (hkind y (hin hy)) (hnan x (hin hx))
        (hnan y (hin hy)) hle
    · have hascending : (values.mergeSort (inOrder p)).Pairwise fun x y => inOrder p x y = true :=
        hsort.ascending.imp fun h => decide_eq_true h
      rw [sort_of_orderly hp (fun x hx => hfound x (hin hx)) (fun x hx => hnan x (hin hx))
        ⟨k, hk, fun x hx => hkind x (hin hx)⟩, List.mergeSort_of_pairwise hascending]

end

/-- A number under a name. -/
def priced (price : Value) : Value := .object [(.text "price", price)]

theorem resolve_priced (price : Value) : (priced price).resolve "price" = .ok price := by
  have hsegments : Path.segments "price" = .ok (some [.name "price"]) := by decide +kernel
  rw [resolve_eq, hsegments]
  cases price <;> rfl

/-- Two goods of one price keep their order behind a cheaper one. -/
theorem sort_outcome_prices : ∃ result,
    sort [priced (.int 2), priced (.float (.finite false Binary64.one)),
      priced (.float (.finite false (2 * Binary64.one)))] (.text "price") = .ok result ∧
    IsSortOf "price" [priced (.int 2), priced (.float (.finite false Binary64.one)),
      priced (.float (.finite false (2 * Binary64.one)))] result := by
  have hkey (price : Value) : (priced price).keyAt "price" = price :=
    keyAt_of_resolve (resolve_priced price)
  have hproper {price : Value} (h : price.Proper) : (priced price).Proper :=
    .object (by simp [text?]) (by simpa using h)
  obtain ⟨-, hiff, hsort, -⟩ := @sort_outcome (.text "price") "price" rfl
    [priced (.int 2), priced (.float (.finite false Binary64.one)),
      priced (.float (.finite false (2 * Binary64.one)))]
    (by simpa using ⟨hproper (.int 2), hproper (.float _), hproper (.float _)⟩)
    (by simpa using ⟨⟨_, resolve_priced _⟩, ⟨_, resolve_priced _⟩, ⟨_, resolve_priced _⟩⟩)
    (by simp [hkey])
  obtain ⟨result, hresult⟩ := hiff.2 ⟨.number, by decide, by simp [hkey, kind?]⟩
  exact ⟨result, hresult, (hsort result hresult).1⟩

/-- A text and an integer of too many digits, which cannot be sorted. -/
def mixture : List Value := [.text "a", .int unwritable]

theorem forall_mem_mixture {P : Value → Prop} (htext : P (.text "a")) (hint : P (.int unwritable)) :
    ∀ x ∈ mixture, P x :=
  List.forall_mem_cons.2 ⟨htext, List.forall_mem_cons.2 ⟨hint, nofun⟩⟩

/-- At the empty path stands the value itself. -/
theorem keyAt_empty (v : Value) : v.keyAt "" = v := keyAt_of_resolve rfl

/-- An objection that shows an integer of too many digits cannot be worded. -/
theorem isWritable_ordering_unwritable (message : String) (suggestion : Option String) :
    (RuntimeError.ordering message [("key", .int unwritable)] suggestion).isWritable = false := by
  have hint : (Value.int unwritable).isWritable = false := by
    rw [isWritable, Int.natAbs_natCast]
    exact decide_eq_false (Nat.lt_irrefl _)
  generalize Value.int unwritable = n at hint
  simp [RuntimeError.isWritable, RuntimeError.ordering, allWritable, hint]

/-- The error that values cannot be sorted is not worded where it shows an integer of too many
    digits. -/
theorem sort_unworded : ¬∀ values : List Value, (∀ x ∈ values, x.Proper) →
    (∀ x ∈ values, ∃ key, x.resolve "" = .ok key) → (∀ x ∈ values, x.keyAt "" ≠ .float .nan) →
    ¬Orderly "" values → ∃ e, sort values (.text "") = .error (.template (.runtime e)) := by
  intro h
  have hfound : ∀ x ∈ mixture, x.resolve "" = .ok (x.keyAt "") := fun x _ => by
    rw [keyAt_empty]
    rfl
  have hproper : ∀ x ∈ mixture, x.Proper := forall_mem_mixture (.text _) (.int _)
  obtain ⟨e, hobjection, hunwritable⟩ : ∃ e, Objection "" ((Value.text "a").keyAt "")
      ((Value.int unwritable).keyAt "") e ∧ e.isWritable = false := by
    rw [keyAt_empty, keyAt_empty]
    exact ⟨_, .mixed rfl rfl (by decide), isWritable_ordering_unwritable ..⟩
  have hmixed : ¬Orderly "" mixture := fun hordered =>
    (orderly_iff hproper hfound rfl).1 hordered _ (.tail _ (.head _)) _ hobjection
  have hfirst : ∀ y ∈ [Value.text "a"], ∀ e,
      ¬Objection "" ((Value.text "a").keyAt "") (y.keyAt "") e := by
    intro y hy e
    rw [List.mem_singleton.1 hy, keyAt_empty]
    exact no_objection_of_kind (k := .string) (by decide) rfl rfl e
  have hfails : sort mixture (.text "") = .error (.ofRuntime e) :=
    sort_of_objection rfl hproper hfound rfl rfl hfirst hobjection
  obtain ⟨e', he⟩ := h mixture hproper (fun x _ => ⟨x, rfl⟩)
    (forall_mem_mixture (by simp [keyAt_empty]) (by rw [keyAt_empty]; nofun)) hmixed
  rw [hfails, Problem.ofRuntime, hunwritable] at he
  cases he

end Value

end Stencil
