import Stencil.Proofs.Sorting

/-! Removal of duplicates by what stands at a path. The key of the first value decides what keys are
    told apart by: booleans and numbers by their exact values, texts by their code points or, where
    case does not matter, by their folded form. Values without a key are skipped, of the others
    those are kept whose key was not there before. What comes out is a part of what went in with
    keys that all differ, it misses none of the keys, and nothing changes when duplicates are
    removed from it again. A first value without a key, a first key that cannot be told apart and a
    later key of another kind are objected to; the first objection in the order of the input is the
    error. -/

namespace Stencil.Distinct

open Value

/-- The kinds of keys that can be told apart. -/
def comparableKinds : List Kind := [.bool, .number, .string]

theorem mem_comparableKinds {k : Kind} : k ∈ comparableKinds ↔ comparable k = true := by
  cases k <;> decide

theorem ne_undefined_of_kind {key : Value} {k : Kind} (h : key.kind? = some k) :
    key ≠ .undefined := by
  rintro rfl
  cases h

/-- What a key is told apart by among keys of its kind: the code points of a text, folded where case
    does not matter, and the standing of a boolean or a number. -/
def identity (caseSensitive : Bool) (key : Value) : WithBot (WithTop ℚ) ×ₗ String :=
  match key.text? with
  | some s => toLex (0, if caseSensitive then s else Text.fold s)
  | none => key.standing

/-- Keys count as the same iff they are told apart by the same. -/
theorem sameKey_iff {caseSensitive : Bool} {a b : Value} {k : Kind} (hk : k ∈ comparableKinds)
    (ha : a.kind? = some k) (hb : b.kind? = some k) (hna : a ≠ .float .nan)
    (hnb : b ≠ .float .nan) :
    sameKey caseSensitive a b = true ↔ identity caseSensitive a = identity caseSensitive b := by
  -- kinds that cannot be told apart are excluded, and each other kind has its own equality
  cases k with
  | null | array | object => exact absurd hk (by decide)
  | bool =>
    cases a <;> cases ha
    cases b <;> cases hb
    rename_i x y
    cases caseSensitive <;> cases x <;> cases y <;> decide
  | number =>
    obtain ⟨m, hm, hmn, hsa⟩ := number_of_kind ha hna
    obtain ⟨n, hn, hnn, hsb⟩ := number_of_kind hb hnb
    have hta : a.text? = none := by cases a <;> cases ha <;> rfl
    have htb : b.text? = none := by cases b <;> cases hb <;> rfl
    have hsame : sameKey caseSensitive a b = m.eq n := by
      rw [sameKey, hta]
      cases a <;> cases ha <;> cases hm <;> cases b <;> cases hb <;> cases hn <;> rfl
    rw [hsame, Number.eq_iff hmn hnn, identity, identity, hta, htb, hsa, hsb]
    simp
  | string =>
    obtain ⟨s, hs, -, -⟩ := text_of_kind ha
    obtain ⟨t, ht, -, -⟩ := text_of_kind hb
    rw [sameKey, identity, identity, hs, ht]
    cases caseSensitive <;> simp

/-! ### Objections -/

/-- An objection to a key among keys that are told apart like the first one. -/
inductive Objection (path : String) (first : Value) : Value → RuntimeError → Prop
  | missing (h : first = .undefined) : Objection path first first (.missingAttribute path)
  | incomparable {k : Kind} (h : first.kind? = some k) (hk : k ∉ comparableKinds) :
    Objection path first first
      (.ordering s!"{first.inspect} is not a unique-able value" [("key", first)] none)
  | mixed {key : Value} {expected actual : Kind} (h : first.kind? = some expected)
      (hk : key.kind? = some actual) (hne : actual ≠ expected) :
    Objection path first key (.ordering
      (s!"unique can't compare multiple types: expected {expected.withArticle}, "
        ++ s!"got {actual.withArticle}") [("key", key)] none)

/-! ### The run -/

/-- Of values with keys of one kind, those whose keys are not the same as keys seen before or as
    that of an earlier value. -/
inductive Keeps (path : String) (k : Kind) (caseSensitive : Bool) :
    List Value → List Value → List Value → Prop
  | done {seen : List Value} : Keeps path k caseSensitive seen [] []
  | absent {seen rest kept : List Value} {v : Value} (hv : v.resolve path = .ok .undefined)
      (h : Keeps path k caseSensitive seen rest kept) :
    Keeps path k caseSensitive seen (v :: rest) kept
  | again {seen rest kept : List Value} {v key : Value} (hv : v.resolve path = .ok key)
      (hk : key.kind? = some k) (hseen : seen.any (sameKey caseSensitive key) = true)
      (h : Keeps path k caseSensitive seen rest kept) :
    Keeps path k caseSensitive seen (v :: rest) kept
  | fresh {seen rest kept : List Value} {v key : Value} (hv : v.resolve path = .ok key)
      (hk : key.kind? = some k) (hseen : seen.any (sameKey caseSensitive key) = false)
      (h : Keeps path k caseSensitive (key :: seen) rest kept) :
    Keeps path k caseSensitive seen (v :: rest) (v :: kept)

section

variable {k : Kind} {caseSensitive : Bool} {seen : List Value} {key : Value}

theorem keyKind_eq_ok : keyKind key = .ok k ↔ key.kind? = some k := by
  unfold keyKind Value.kind
  cases key.kind? <;> simp

theorem ofFirst_of_incomparable (h : key.kind? = some k) (hk : k ∉ comparableKinds) :
    ofFirst key caseSensitive = .error (.ofRuntime
      (.ordering s!"{key.inspect} is not a unique-able value" [("key", key)] none)) := by
  rw [ofFirst, keyKind_eq h]
  exact if_neg fun h => hk (mem_comparableKinds.2 h)

theorem ofFirst_eq_ok {d : Distinct} : ofFirst key caseSensitive = .ok d ↔
    ∃ k ∈ comparableKinds, key.kind? = some k ∧ d = ⟨k, caseSensitive, []⟩ := by
  simp only [ofFirst, bind_eq_ok, keyKind_eq_ok]
  constructor
  · rintro ⟨k, hk, h⟩
    split at h
    · exact ⟨k, mem_comparableKinds.2 ‹_›, hk, (pure_eq_ok.1 h).symm⟩
    · cases h
  · rintro ⟨k, hmem, hk, rfl⟩
    exact ⟨k, hk, if_pos (mem_comparableKinds.1 hmem)⟩

theorem insert_of_other_kind {l : Kind} (h : key.kind? = some l) (hl : l ≠ k) :
    insert ⟨k, caseSensitive, seen⟩ key = .error (.ofRuntime
      (.ordering (s!"unique can't compare multiple types: expected {k.withArticle}, "
        ++ s!"got {l.withArticle}") [("key", key)] none)) := by
  rw [insert, keyKind_eq h]
  refine (if_neg hl).trans ?_
  have hwording : toString "unique" ++ toString " can't compare multiple types: expected " =
      toString "unique can't compare multiple types: expected " := by decide
  simp only [mixedKinds, Value.kind, h, hwording]

/-- A key of the right kind is put to those seen before if it is new. -/
theorem insert_eq_ok {r : Bool × Distinct} : insert ⟨k, caseSensitive, seen⟩ key = .ok r ↔
    key.kind? = some k ∧ r = if seen.any (sameKey caseSensitive key)
      then (false, ⟨k, caseSensitive, seen⟩) else (true, ⟨k, caseSensitive, key :: seen⟩) := by
  simp only [insert, bind_eq_ok, keyKind_eq_ok]
  constructor
  · rintro ⟨l, hl, h⟩
    split at h
    · subst l
      refine ⟨hl, ?_⟩
      split at h <;> simp_all [pure_eq_ok]
    · unfold mixedKinds at h
      split at h <;> cases h
  · rintro ⟨hk, rfl⟩
    refine ⟨k, hk, ?_⟩
    rw [if_pos rfl]
    split <;> rfl

end

section

variable {path : Value} {p : String} (hp : path.text? = some p) {k : Kind} {caseSensitive : Bool}
  {d : Distinct} {seen values rest result : List Value} {v key : Value}

include hp in
theorem keepNew_of_failure {f : Failure} (hv : v.resolve p = .error f) :
    keepNew path d (v :: rest) = .error (.fault (.failure f)) := by
  simp only [keepNew, orderKey, resolveBy, hp, hv]
  rfl

include hp in
theorem keepNew_of_nothing (hv : v.resolve p = .ok .undefined) :
    keepNew path d (v :: rest) = keepNew path d rest := by
  simp only [keepNew, orderKey, resolveBy, hp, hv]
  rfl

include hp in
theorem keepNew_of_key (hv : v.resolve p = .ok key) (hkey : key ≠ .undefined) :
    keepNew path d (v :: rest) = (d.insert key >>= fun r =>
      keepNew path r.2 rest >>= fun kept => .ok (if r.1 then v :: kept else kept)) := by
  simp only [keepNew, orderKey, resolveBy, hp, hv]
  cases key <;> first | rfl | exact absurd rfl hkey

include hp in
theorem keepNew_of_kind (hv : v.resolve p = .ok key) (hk : key.kind? = some k) :
    keepNew path ⟨k, caseSensitive, seen⟩ (v :: rest) =
      if seen.any (sameKey caseSensitive key) then keepNew path ⟨k, caseSensitive, seen⟩ rest
      else (keepNew path ⟨k, caseSensitive, key :: seen⟩ rest).map (v :: ·) := by
  rw [keepNew_of_key hp hv (ne_undefined_of_kind hk), insert_eq_ok.2 ⟨hk, rfl⟩]
  cases seen.any (sameKey caseSensitive key)
  · rfl
  · exact bind_pure (keepNew path ⟨k, caseSensitive, seen⟩ rest)

include hp in
/-- What is kept are the first values of their keys. -/
theorem keepNew_eq_ok_iff : ∀ {values seen result : List Value},
    keepNew path ⟨k, caseSensitive, seen⟩ values = .ok result ↔
      Keeps p k caseSensitive seen values result
  | [], seen, result => by
    constructor
    · intro h
      cases h
      exact .done
    · intro h
      cases h
      rfl
  | v :: rest, seen, result => by
    constructor
    · intro h
      -- the key decides which constructor of `Keeps` it is: none, a known one or a new one
      cases hv : v.resolve p with
      | error f =>
        rw [keepNew_of_failure hp hv] at h
        cases h
      | ok key =>
        by_cases hkey : key = .undefined
        · subst hkey
          rw [keepNew_of_nothing hp hv] at h
          exact .absent hv (keepNew_eq_ok_iff.1 h)
        · have hk : key.kind? = some k := by
            rw [keepNew_of_key hp hv hkey] at h
            obtain ⟨r, hr, -⟩ := bind_eq_ok.1 h
            exact (insert_eq_ok.1 hr).1
          rw [keepNew_of_kind hp hv hk] at h
          split at h
          · exact .again hv hk ‹_› (keepNew_eq_ok_iff.1 h)
          · obtain ⟨kept, hkept, rfl⟩ := map_eq_ok.1 h
            exact .fresh hv hk (Bool.eq_false_iff.2 ‹_›) (keepNew_eq_ok_iff.1 hkept)
    · intro h
      cases h with
      | absent hv h => rw [keepNew_of_nothing hp hv, keepNew_eq_ok_iff.2 h]
      | again hv hk hseen h =>
        rw [keepNew_of_kind hp hv hk, if_pos hseen, keepNew_eq_ok_iff.2 h]
      | fresh hv hk hseen h =>
        rw [keepNew_of_kind hp hv hk, if_neg (Bool.eq_false_iff.1 hseen), keepNew_eq_ok_iff.2 h]
        rfl

include hp in
theorem keepNew_of_other_kind {l : Kind} (hv : v.resolve p = .ok key) (hkey : key.kind? = some l)
    (hl : l ≠ k) : keepNew path ⟨k, caseSensitive, seen⟩ (v :: rest) = .error (.ofRuntime
      (.ordering (s!"unique can't compare multiple types: expected {k.withArticle}, "
        ++ s!"got {l.withArticle}") [("key", key)] none)) := by
  rw [keepNew_of_key hp hv (ne_undefined_of_kind hkey), insert_of_other_kind hkey hl]
  rfl

include hp in
/-- A failure after values with keys of the right kind is one of the whole. -/
theorem Keeps.keepNew_append {problem : Problem} (h : Keeps p k caseSensitive seen values result)
    (hrest : ∀ seen, keepNew path ⟨k, caseSensitive, seen⟩ rest = .error problem) :
    keepNew path ⟨k, caseSensitive, seen⟩ (values ++ rest) = .error problem := by
  induction h with
  | done => exact hrest _
  | absent hv _ ih => rw [List.cons_append, keepNew_of_nothing hp hv, ih]
  | again hv hk hseen _ ih => rw [List.cons_append, keepNew_of_kind hp hv hk, if_pos hseen, ih]
  | fresh hv hk hseen _ ih =>
    rw [List.cons_append, keepNew_of_kind hp hv hk, if_neg (Bool.eq_false_iff.1 hseen), ih]
    rfl

end

/-! ### What is kept -/

/-- The values that are marked. -/
def chosen (marked : List (Bool × Value)) : List Value := (marked.filter Prod.fst).map Prod.snd

theorem chosen_append (ms ns : List (Bool × Value)) :
    chosen (ms ++ ns) = chosen ms ++ chosen ns := by
  simp [chosen]

/-- The first values of what stands at a path: some of the values, all with something there and no
    two with the same, among them the first of all. A value that is dropped has nothing there or the
    same as an earlier one that is kept. -/
structure KeepsFirst (path : String) (caseSensitive : Bool) (values result : List Value) :
    Prop where
  part : result.Sublist values
  found : ∀ x ∈ result, x.keyAt path ≠ .undefined
  apart : result.Pairwise fun x y =>
    identity caseSensitive (x.keyAt path) ≠ identity caseSensitive (y.keyAt path)
  first : result.head? = values.head?
  dropped : ∃ marked, marked.map Prod.snd = values ∧ chosen marked = result ∧
    ∀ before x after, marked = before ++ (false, x) :: after → x.keyAt path = .undefined ∨
      ∃ y ∈ chosen before, identity caseSensitive (x.keyAt path) =
        identity caseSensitive (y.keyAt path)

/-- Every value that is not marked has no key, a key seen before or that of an earlier one that is
    marked. -/
def Covered (path : String) (caseSensitive : Bool) (seen : List Value)
    (marked : List (Bool × Value)) : Prop :=
  ∀ before x after, marked = before ++ (false, x) :: after → x.keyAt path = .undefined ∨
    (∃ old ∈ seen, sameKey caseSensitive (x.keyAt path) old = true) ∨
    ∃ y ∈ chosen before, sameKey caseSensitive (x.keyAt path) (y.keyAt path) = true

section

variable {p : String} {caseSensitive : Bool} {seen : List Value} {marked : List (Bool × Value)}
  {v : Value}

theorem covered_nil : Covered p caseSensitive seen [] := by
  intro before x after h
  simp at h

theorem Covered.drop (h : Covered p caseSensitive seen marked) (hv : v.keyAt p = .undefined ∨
    ∃ old ∈ seen, sameKey caseSensitive (v.keyAt p) old = true) :
    Covered p caseSensitive seen ((false, v) :: marked) := by
  intro before x after hsplit
  rcases List.cons_eq_append_iff.1 hsplit with ⟨rfl, heq⟩ | ⟨before, rfl, htail⟩
  · cases heq
    exact hv.imp_right .inl
  · exact h before x after htail

theorem Covered.keep (h : Covered p caseSensitive (v.keyAt p :: seen) marked) :
    Covered p caseSensitive seen ((true, v) :: marked) := by
  intro before x after hsplit
  rcases List.cons_eq_append_iff.1 hsplit with ⟨rfl, heq⟩ | ⟨before, rfl, htail⟩
  · cases heq
  · have hchosen : chosen ((true, v) :: before) = v :: chosen before := rfl
    rw [hchosen]
    rcases h before x after htail with hnone | ⟨old, hold, hsame⟩ | ⟨y, hy, hsame⟩
    · exact .inl hnone
    · rcases List.mem_cons.1 hold with rfl | hold
      · exact .inr (.inr ⟨v, List.mem_cons_self .., hsame⟩)
      · exact .inr (.inl ⟨old, hold, hsame⟩)
    · exact .inr (.inr ⟨y, List.mem_cons_of_mem _ hy, hsame⟩)

end

/-- A value has nothing at a path, or something of a kind. -/
def Fits (path : String) (k : Kind) (v : Value) : Prop :=
  v.resolve path = .ok (v.keyAt path) ∧
    (v.keyAt path = .undefined ∨ (v.keyAt path).kind? = some k)

namespace Keeps

variable {p : String} {k : Kind} {caseSensitive : Bool} {seen values result : List Value}
  {v : Value}

theorem sublist (h : Keeps p k caseSensitive seen values result) : result.Sublist values := by
  induction h with
  | done => exact .slnil
  | absent _ _ ih => exact ih.cons _
  | again _ _ _ _ ih => exact ih.cons _
  | fresh _ _ _ _ ih => exact ih.cons_cons _

theorem fits (h : Keeps p k caseSensitive seen values result) : ∀ x ∈ values, Fits p k x := by
  induction h with
  | done => exact nofun
  | absent hv _ ih =>
    have hkey := keyAt_of_resolve hv
    exact List.forall_mem_cons.2 ⟨⟨hkey ▸ hv, .inl hkey⟩, ih⟩
  | again hv hk _ _ ih | fresh hv hk _ _ ih =>
    have hkey := keyAt_of_resolve hv
    exact List.forall_mem_cons.2 ⟨⟨hkey ▸ hv, .inr (hkey ▸ hk)⟩, ih⟩

theorem kind (h : Keeps p k caseSensitive seen values result) :
    ∀ x ∈ result, (x.keyAt p).kind? = some k := by
  induction h with
  | done => exact nofun
  | absent _ _ ih => exact ih
  | again _ _ _ _ ih => exact ih
  | fresh hv hk _ _ ih => exact List.forall_mem_cons.2 ⟨keyAt_of_resolve hv ▸ hk, ih⟩

/-- What is kept is kept when it is all there is. -/
theorem self (h : Keeps p k caseSensitive seen values result) :
    Keeps p k caseSensitive seen result result := by
  induction h with
  | done => exact .done
  | absent _ _ ih => exact ih
  | again _ _ _ _ ih => exact ih
  | fresh hv hk hseen _ ih => exact .fresh hv hk hseen ih

/-- The keys of what is kept differ from those seen before and from each other. -/
theorem apart (h : Keeps p k caseSensitive seen values result) :
    (∀ x ∈ result, ∀ old ∈ seen, sameKey caseSensitive (x.keyAt p) old = false) ∧
      result.Pairwise fun x y => sameKey caseSensitive (y.keyAt p) (x.keyAt p) = false := by
  induction h with
  | done => exact ⟨nofun, .nil⟩
  | absent _ _ ih => exact ih
  | again _ _ _ _ ih => exact ih
  | fresh hv _ hseen _ ih =>
    rw [List.any_eq_false] at hseen
    rw [← keyAt_of_resolve hv] at ih hseen
    exact ⟨List.forall_mem_cons.2 ⟨by simpa using hseen, fun x hx old hold =>
        ih.1 x hx old (List.mem_cons_of_mem _ hold)⟩,
      List.pairwise_cons.2 ⟨fun x hx => ih.1 x hx _ (List.mem_cons_self ..), ih.2⟩⟩

/-- What is dropped has no key, a key seen before or that of an earlier value that is kept. -/
theorem dropped (h : Keeps p k caseSensitive seen values result) :
    ∃ marked, marked.map Prod.snd = values ∧ chosen marked = result ∧
      Covered p caseSensitive seen marked := by
  induction h with
  | done => exact ⟨[], rfl, rfl, covered_nil⟩
  | @absent _ _ _ v hv _ ih =>
    obtain ⟨marked, rfl, rfl, h⟩ := ih
    exact ⟨(false, v) :: marked, rfl, rfl, h.drop (.inl (keyAt_of_resolve hv))⟩
  | @again _ _ _ v _ hv _ hseen _ ih =>
    obtain ⟨marked, rfl, rfl, h⟩ := ih
    rw [← keyAt_of_resolve hv] at hseen
    exact ⟨(false, v) :: marked, rfl, rfl, h.drop (.inr (List.any_eq_true.1 hseen))⟩
  | @fresh _ _ _ v _ hv _ _ _ ih =>
    obtain ⟨marked, rfl, rfl, h⟩ := ih
    rw [← keyAt_of_resolve hv] at h
    exact ⟨(true, v) :: marked, rfl, rfl, h.keep⟩

/-- The first value is kept if it has a key. -/
theorem head (h : Keeps p k caseSensitive [] (v :: values) result) (hv : v.keyAt p ≠ .undefined) :
    result.head? = some v := by
  cases h with
  | absent hnone _ => exact absurd (keyAt_of_resolve hnone) hv
  | again _ _ hseen _ => cases hseen
  | fresh _ _ _ _ => rfl

/-- Values that fit are kept or dropped. -/
theorem exists_of_fits : ∀ {values seen : List Value}, (∀ x ∈ values, Fits p k x) →
    ∃ kept, Keeps p k caseSensitive seen values kept
  | [], _, _ => ⟨[], .done⟩
  | v :: rest, seen, h => by
    obtain ⟨⟨hv, hkey⟩, hrest⟩ := List.forall_mem_cons.1 h
    rcases hkey with hnone | hk
    · obtain ⟨kept, hkept⟩ := exists_of_fits hrest
      exact ⟨kept, .absent (hnone ▸ hv) hkept⟩
    · cases hseen : seen.any (sameKey caseSensitive (v.keyAt p))
      · obtain ⟨kept, hkept⟩ := exists_of_fits hrest
        exact ⟨v :: kept, .fresh hv hk hseen hkept⟩
      · obtain ⟨kept, hkept⟩ := exists_of_fits hrest
        exact ⟨kept, .again hv hk hseen hkept⟩

/-- What is kept of values whose keys are told apart exactly are the first values of their keys. -/
theorem keepsFirst (h : Keeps p k caseSensitive [] values result) (hk : k ∈ comparableKinds)
    (hhead : ∀ v ∈ values.head?, (v.keyAt p).kind? = some k)
    (hnan : ∀ x ∈ values, x.keyAt p ≠ .float .nan) : KeepsFirst p caseSensitive values result where
  part := h.sublist
  found x hx := ne_undefined_of_kind (h.kind x hx)
  apart := by
    have hin {x : Value} (hx : x ∈ result) := hnan x (h.sublist.subset hx)
    refine h.apart.2.imp_of_mem fun {x y} hx hy hdiffer heq => ?_
    -- values that are told apart by the same count as the same, so the later one was dropped
    have hsame := (sameKey_iff hk (h.kind y hy) (h.kind x hx) (hin hy) (hin hx)).2 heq.symm
    exact Bool.false_ne_true (hdiffer.symm.trans hsame)
  first := by
    cases values with
    | nil =>
      cases h
      rfl
    | cons v rest => exact h.head (ne_undefined_of_kind (hhead v rfl))
  dropped := by
    obtain ⟨marked, hvalues, hresult, hdropped⟩ := h.dropped
    refine ⟨marked, hvalues, hresult, fun before x after hsplit => ?_⟩
    rcases hdropped before x after hsplit with hnone | ⟨_, hold, -⟩ | ⟨y, hy, hsame⟩
    · exact .inl hnone
    · cases hold
    · by_cases hnone : x.keyAt p = .undefined
      · exact .inl hnone
      · have hx : x ∈ values := by simp [← hvalues, hsplit]
        have hy' : y ∈ result := by
          rw [← hresult, hsplit, chosen_append]
          exact List.mem_append_left _ hy
        have hkx := (h.fits x hx).2.resolve_left hnone
        exact .inr ⟨y, hy, (sameKey_iff hk hkx (h.kind y hy') (hnan x hx)
          (hnan y (h.sublist.subset hy'))).1 hsame⟩

end Keeps

/-! ### The outcome -/

section

variable {path : Value} {p : String} (hp : path.text? = some p) {caseSensitive : Bool}
  {values result : List Value} {first : Value}

/-- The key of the first value decides what the others are told apart by. -/
theorem distinct_of_head (hhead : values.head? = some first) :
    distinct values path caseSensitive = (requiredKey path first >>= fun key =>
      ofFirst key caseSensitive >>= fun d => keepNew path d values) := by
  cases values with
  | nil => cases hhead
  | cons v rest => cases hhead; rfl

include hp in
theorem distinct_of_first {k : Kind} (hhead : values.head? = some first)
    (hfirst : first.resolve p = .ok (first.keyAt p)) (hkind : (first.keyAt p).kind? = some k)
    (hk : k ∈ comparableKinds) :
    distinct values path caseSensitive = keepNew path ⟨k, caseSensitive, []⟩ values := by
  rw [distinct_of_head hhead, requiredKey_of_resolve hp hfirst (ne_undefined_of_kind hkind)]
  exact congrArg (· >>= fun d => keepNew path d values) (ofFirst_eq_ok.2 ⟨k, hk, hkind, rfl⟩)

include hp in
theorem requiredKey_eq_ok {v key : Value} :
    requiredKey path v = .ok key ↔ v.resolve p = .ok key ∧ key ≠ .undefined := by
  constructor
  · intro h
    cases hv : v.resolve p with
    | error f =>
      simp only [requiredKey, orderKey, resolveBy, hp, hv] at h
      cases h
    | ok k =>
      by_cases hk : k = .undefined
      · rw [requiredKey_of_nothing hp (hk ▸ hv)] at h
        cases h
      · rw [requiredKey_of_resolve hp hv hk] at h
        cases h
        exact ⟨rfl, hk⟩
  · rintro ⟨hv, hkey⟩
    exact requiredKey_of_resolve hp hv hkey

include hp in
/-- Duplicates are removed iff the first key is of a kind that can be told apart and the other keys
    are of that kind. -/
theorem distinct_eq_ok_iff (hhead : values.head? = some first) :
    distinct values path caseSensitive = .ok result ↔ ∃ k ∈ comparableKinds,
      (first.keyAt p).kind? = some k ∧ Keeps p k caseSensitive [] values result := by
  constructor
  · intro h
    simp only [distinct_of_head hhead, bind_eq_ok, requiredKey_eq_ok hp, ofFirst_eq_ok] at h
    obtain ⟨key, ⟨hv, -⟩, _, ⟨k, hk, hkind, rfl⟩, h⟩ := h
    exact ⟨k, hk, keyAt_of_resolve hv ▸ hkind, (keepNew_eq_ok_iff hp).1 h⟩
  · rintro ⟨k, hk, hkind, h⟩
    rw [distinct_of_first hp hhead (h.fits first (List.mem_of_head? hhead)).1 hkind hk]
    exact (keepNew_eq_ok_iff hp).2 h

include hp in
/-- The first objection in the order of the values is the error. -/
theorem distinct_of_objection {before after : List Value} {x : Value} {e : RuntimeError}
    (hproper : ∀ x ∈ values, x.Proper) (hfound : ∀ x ∈ values, x.resolve p = .ok (x.keyAt p))
    (hhead : values.head? = some first) (hvalues : values = before ++ x :: after)
    (hbefore : ∀ y ∈ before, ∀ e, ¬Objection p (first.keyAt p) (y.keyAt p) e)
    (he : Objection p (first.keyAt p) (x.keyAt p) e) :
    distinct values path caseSensitive = .error (.ofRuntime e) := by
  have hfirst := hfound first (List.mem_of_head? hhead)
  have hx : x.resolve p = .ok (x.keyAt p) := hfound x (by simp [hvalues])
  generalize hkey : x.keyAt p = key at he hx
  cases he with
  | missing h =>
    rw [distinct_of_head hhead, requiredKey_of_nothing hp (hfirst.trans (congrArg _ h))]
    rfl
  | incomparable h hk =>
    rw [distinct_of_head hhead, requiredKey_of_resolve hp hfirst (ne_undefined_of_kind h)]
    exact congrArg (· >>= fun d => keepNew path d values) (ofFirst_of_incomparable h hk)
  | @mixed _ expected actual h hk hne =>
    -- the first value comes before, as its key is not of another kind than itself
    have hmem : first ∈ before := by
      cases before with
      | nil =>
        obtain rfl : x = first := by simpa [hvalues] using hhead
        exact absurd (Option.some.inj (hk.symm.trans (hkey ▸ h))) hne
      | cons y ys =>
        obtain rfl : y = first := by simpa [hvalues] using hhead
        exact List.mem_cons_self ..
    have hcomparable : expected ∈ comparableKinds :=
      by_contra fun hnot => hbefore first hmem _ (.incomparable h hnot)
    have hfits : ∀ y ∈ before, Fits p expected y := by
      intro y hy
      have hy' : y ∈ values := by simp [hvalues, hy]
      refine ⟨hfound y hy', or_iff_not_imp_left.2 fun hnone => ?_⟩
      obtain ⟨l, hl⟩ := kind_of_found (hproper y hy') (hfound y hy') hnone
      exact by_contra fun hother => hbefore y hy _ (.mixed h hl fun heq => hother (heq ▸ hl))
    -- up to the objection the keys are of the expected kind, and the values are kept or dropped
    obtain ⟨kept, hkept⟩ : ∃ kept, Keeps p expected caseSensitive [] before kept :=
      Keeps.exists_of_fits hfits
    rw [distinct_of_first hp hhead hfirst h hcomparable, hvalues]
    exact hkept.keepNew_append hp fun seen => keepNew_of_other_kind hp hx hk hne

/-- The first value has nothing at a path or something that cannot be told apart, or what another
    one has there is of another kind. -/
def Refused (path : String) (values : List Value) : Prop :=
  ∃ first, values.head? = some first ∧ (first.keyAt path = .undefined ∨
    (∃ k ∈ [Kind.null, .array, .object], (first.keyAt path).kind? = some k) ∨
    ∃ x ∈ values, x.keyAt path ≠ .undefined ∧ (x.keyAt path).kind? ≠ (first.keyAt path).kind?)

/-- Values are refused iff there is an objection to one of them. -/
theorem refused_iff (hproper : ∀ x ∈ values, x.Proper)
    (hfound : ∀ x ∈ values, x.resolve p = .ok (x.keyAt p)) (hhead : values.head? = some first) :
    Refused p values ↔ ∃ x ∈ values, ∃ e, Objection p (first.keyAt p) (x.keyAt p) e := by
  have hmem : first ∈ values := List.mem_of_head? hhead
  constructor
  · rintro ⟨v, hv, h⟩
    cases hhead.symm.trans hv
    rcases h with hnone | ⟨k, hk, hkind⟩ | ⟨x, hx, hne, hother⟩
    · exact ⟨first, hmem, _, .missing hnone⟩
    · exact ⟨first, hmem, _, .incomparable hkind (by cases k <;> revert hk <;> decide)⟩
    · -- a first key that is missing is the earlier objection
      by_cases hnone : first.keyAt p = .undefined
      · exact ⟨first, hmem, _, .missing hnone⟩
      · obtain ⟨k, hk⟩ := kind_of_found (hproper first hmem) (hfound first hmem) hnone
        obtain ⟨l, hl⟩ := kind_of_found (hproper x hx) (hfound x hx) hne
        exact ⟨x, hx, _, .mixed hk hl fun heq => hother (by rw [hk, hl, heq])⟩
  · rintro ⟨x, hx, e, he⟩
    refine ⟨first, hhead, ?_⟩
    generalize hkey : x.keyAt p = key at he
    cases he with
    | missing h => exact .inl h
    | @incomparable k h hk => exact .inr (.inl ⟨k, by cases k <;> revert hk <;> decide, h⟩)
    | mixed h hk hne =>
      subst hkey
      refine .inr (.inr ⟨x, hx, ne_undefined_of_kind hk, ?_⟩)
      rw [hk, h]
      exact fun heq => hne (Option.some.inj heq)

include hp in
/-- Duplicates can be removed unless the values are refused. -/
theorem exists_distinct (hproper : ∀ x ∈ values, x.Proper)
    (hfound : ∀ x ∈ values, x.resolve p = .ok (x.keyAt p)) (h : ¬Refused p values) :
    ∃ result, distinct values path caseSensitive = .ok result := by
  cases hhead : values.head? with
  | none => exact ⟨[], by rw [List.head?_eq_none_iff.1 hhead]; rfl⟩
  | some first =>
    have hmem : first ∈ values := List.mem_of_head? hhead
    have hno : ∀ x ∈ values, ∀ e, ¬Objection p (first.keyAt p) (x.keyAt p) e :=
      fun x hx e he => h ((refused_iff hproper hfound hhead).2 ⟨x, hx, e, he⟩)
    obtain ⟨k, hkind⟩ := kind_of_found (hproper first hmem) (hfound first hmem)
      fun hnone => hno first hmem _ (.missing hnone)
    have hk : k ∈ comparableKinds := by_contra fun hk => hno first hmem _ (.incomparable hkind hk)
    have hfits : ∀ x ∈ values, Fits p k x := by
      intro x hx
      refine ⟨hfound x hx, or_iff_not_imp_left.2 fun hnone => ?_⟩
      obtain ⟨l, hl⟩ := kind_of_found (hproper x hx) (hfound x hx) hnone
      exact by_contra fun hother => hno x hx _ (.mixed hkind hl fun heq => hother (heq ▸ hl))
    obtain ⟨kept, hkept⟩ := Keeps.exists_of_fits hfits
    exact ⟨kept, (distinct_eq_ok_iff hp hhead).2 ⟨k, hk, hkind, hkept⟩⟩

/-- Values that are refused have a first one with an objection to it. -/
theorem exists_first_objection (hproper : ∀ x ∈ values, x.Proper)
    (hfound : ∀ x ∈ values, x.resolve p = .ok (x.keyAt p)) (h : Refused p values) :
    ∃ first before x after e, values.head? = some first ∧ values = before ++ x :: after ∧
      (∀ y ∈ before, ∀ e, ¬Objection p (first.keyAt p) (y.keyAt p) e) ∧
      Objection p (first.keyAt p) (x.keyAt p) e := by
  obtain ⟨first, hhead, -⟩ := id h
  obtain ⟨before, x, after, hvalues, hbefore, e, he⟩ :=
    exists_first ((refused_iff hproper hfound hhead).1 h)
  exact ⟨first, before, x, after, e, hhead, hvalues, fun y hy => not_exists.1 (hbefore y hy), he⟩

include hp in
theorem distinct_eq_error_iff (hproper : ∀ x ∈ values, x.Proper)
    (hfound : ∀ x ∈ values, x.resolve p = .ok (x.keyAt p)) {problem : Problem} :
    distinct values path caseSensitive = .error problem ↔
      ∃ first before x after e, values.head? = some first ∧ values = before ++ x :: after ∧
        (∀ y ∈ before, ∀ e, ¬Objection p (first.keyAt p) (y.keyAt p) e) ∧
        Objection p (first.keyAt p) (x.keyAt p) e ∧ problem = .ofRuntime e := by
  refine eq_error_iff_first_objection (distinct_of_objection hp hproper hfound) fun herror => ?_
  refine exists_first_objection hproper hfound (by_contra fun hnot => ?_)
  obtain ⟨result, hresult⟩ := exists_distinct hp hproper hfound hnot
  cases herror.symm.trans hresult

include hp in
/-- Where no key is NaN, the first values of their keys are kept, and when duplicates are removed
    from these again nothing changes. Of template values at which the path does not fail exactly
    those are refused whose first key is missing or cannot be told apart, or one of whose keys is of
    another kind than the first. The error is the first objection in the order of the values, or
    where this shows an integer of too many digits the failure to word it. -/
theorem distinct_outcome : distinct [] path caseSensitive = .ok [] ∧
    (∀ result, distinct values path caseSensitive = .ok result →
      (∀ x ∈ values, x.keyAt p ≠ .float .nan) →
      KeepsFirst p caseSensitive values result ∧
        distinct result path caseSensitive = .ok result) ∧
    ((∀ x ∈ values, x.Proper) → (∀ x ∈ values, ∃ key, x.resolve p = .ok key) →
      ((∃ problem, distinct values path caseSensitive = .error problem) ↔ Refused p values) ∧
      ∀ problem, distinct values path caseSensitive = .error problem ↔
        ∃ first before x after e, values.head? = some first ∧ values = before ++ x :: after ∧
          (∀ y ∈ before, ∀ e, ¬Objection p (first.keyAt p) (y.keyAt p) e) ∧
          Objection p (first.keyAt p) (x.keyAt p) e ∧
          problem = if e.isWritable then .template (.runtime e)
            else .fault (.failure .badValue)) := by
  refine ⟨rfl, fun result hresult hnan => ?_, fun hproper hfound => ?_⟩
  · cases hhead : values.head? with
    | none =>
      rw [List.head?_eq_none_iff.1 hhead] at hresult ⊢
      cases hresult
      exact ⟨⟨.slnil, nofun, .nil, rfl, [], rfl, rfl, by simp⟩, rfl⟩
    | some first =>
      obtain ⟨k, hk, hkind, h⟩ := (distinct_eq_ok_iff hp hhead).1 hresult
      have hfirst : ∀ v ∈ values.head?, (v.keyAt p).kind? = some k := by
        rintro v hv
        cases hhead.symm.trans hv
        exact hkind
      have hkeeps := h.keepsFirst hk hfirst hnan
      exact ⟨hkeeps, (distinct_eq_ok_iff hp (hkeeps.first.trans hhead)).2 ⟨k, hk, hkind, h.self⟩⟩
  · have hfound : ∀ x ∈ values, x.resolve p = .ok (x.keyAt p) := fun x hx => by
      obtain ⟨key, hkey⟩ := hfound x hx
      rw [hkey, keyAt_of_resolve hkey]
    refine ⟨⟨?_, fun hrefused => ?_⟩, fun _ => distinct_eq_error_iff hp hproper hfound⟩
    · rintro ⟨problem, hproblem⟩
      obtain ⟨first, before, x, after, e, hhead, hvalues, -, he, -⟩ :=
        (distinct_eq_error_iff hp hproper hfound).1 hproblem
      exact (refused_iff hproper hfound hhead).2 ⟨x, by simp [hvalues], e, he⟩
    · obtain ⟨first, before, x, after, e, hhead, hvalues, hbefore, he⟩ :=
        exists_first_objection hproper hfound hrefused
      exact ⟨_, distinct_of_objection hp hproper hfound hhead hvalues hbefore he⟩

end

/-- Goods of which one has no price and two have the same, in different numbers. -/
def goods : List Value :=
  [priced (.int 2), priced (.float (.finite false Binary64.one)), .object [], priced (.int 1)]

/-- Of goods with one price the first is kept. -/
theorem distinct_outcome_goods :
    distinct goods (.text "price") true =
      .ok [priced (.int 2), priced (.float (.finite false Binary64.one))] ∧
    KeepsFirst "price" true goods
      [priced (.int 2), priced (.float (.finite false Binary64.one))] ∧
    ¬Refused "price" goods := by
  have hunpriced : (Value.object []).resolve "price" = .ok .undefined := by
    have hsegments : Path.segments "price" = .ok (some [.name "price"]) := by decide +kernel
    rw [resolve_eq, hsegments]
    rfl
  have hkey (price : Value) : (priced price).keyAt "price" = price :=
    keyAt_of_resolve (resolve_priced price)
  have hproper {price : Value} (h : price.Proper) : (priced price).Proper :=
    .object (by simp [text?]) (by simpa using h)
  have hok : distinct goods (.text "price") true =
      .ok [priced (.int 2), priced (.float (.finite false Binary64.one))] :=
    (distinct_eq_ok_iff rfl rfl).2 ⟨.number, by decide, congrArg kind? (hkey _),
      .fresh (resolve_priced _) rfl rfl (.fresh (resolve_priced _) rfl (by decide)
        (.absent hunpriced (.again (resolve_priced _) rfl (by decide) .done)))⟩
  obtain ⟨-, hkept, hrefused⟩ := @distinct_outcome (.text "price") "price" rfl true goods
  obtain ⟨hrefused, -⟩ := hrefused
    (by simpa [goods] using ⟨hproper (.int 2), hproper (.float _), .object (by simp) (by simp),
      hproper (.int 1)⟩)
    (by simpa [goods] using ⟨⟨_, resolve_priced _⟩, ⟨_, resolve_priced _⟩, ⟨_, hunpriced⟩,
      ⟨_, resolve_priced _⟩⟩)
  refine ⟨hok, (hkept _ hok (by simp [goods, hkey, keyAt_of_resolve hunpriced])).1, fun h => ?_⟩
  obtain ⟨problem, hproblem⟩ := hrefused.2 h
  cases hok.symm.trans hproblem

/-- The error that duplicates cannot be removed is not worded where it shows an integer of too many
    digits. -/
theorem distinct_unworded : ¬∀ values : List Value, (∀ x ∈ values, x.Proper) →
    (∀ x ∈ values, ∃ key, x.resolve "" = .ok key) → Refused "" values →
    ∃ e, distinct values (.text "") false = .error (.template (.runtime e)) := by
  intro h
  have hfound : ∀ x ∈ mixture, x.resolve "" = .ok (x.keyAt "") := fun x _ => by
    rw [keyAt_empty]
    rfl
  have hproper : ∀ x ∈ mixture, x.Proper := forall_mem_mixture (.text _) (.int _)
  obtain ⟨e, hobjection, hunwritable⟩ : ∃ e, Objection "" ((Value.text "a").keyAt "")
      ((Value.int unwritable).keyAt "") e ∧ e.isWritable = false := by
    rw [keyAt_empty, keyAt_empty]
    exact ⟨_, .mixed rfl rfl (by decide), isWritable_ordering_unwritable ..⟩
  have hfirst : ∀ y ∈ [Value.text "a"], ∀ e,
      ¬Objection "" ((Value.text "a").keyAt "") (y.keyAt "") e := by
    intro y hy e he
    rw [List.mem_singleton.1 hy, keyAt_empty] at he
    cases he with
    | missing h => cases h
    | incomparable h hk =>
      cases h
      exact hk (by decide)
    | mixed h h' hne => exact hne (Option.some.inj (h'.symm.trans h))
  have hfails : distinct mixture (.text "") false = .error (.ofRuntime e) :=
    distinct_of_objection rfl hproper hfound rfl rfl hfirst hobjection
  obtain ⟨e', he⟩ := h mixture hproper (fun x _ => ⟨x, rfl⟩)
    ((refused_iff hproper hfound rfl).2 ⟨_, .tail _ (.head _), e, hobjection⟩)
  rw [hfails, Problem.ofRuntime, hunwritable] at he
  cases he

end Stencil.Distinct
