import Mathlib.Data.List.Nodup
import Stencil.Table

/-! Lookups in tables. A table is determined, as far as lookups can tell, by the pairs it holds: a
    pair is in the list of entries iff its name is bound to its value, so that the order of the
    pairs does not matter. From this come the lookups in a table whose values are changed and in one
    that entries are put into one by one. -/

namespace Stencil.Table

variable {α β : Type}

theorem lookupIn_of_mem {name : String} {v : α} : ∀ {es : List (String × α)},
    (es.map Prod.fst).Nodup → (name, v) ∈ es → lookupIn name es = some v
  | [], _, hm => by simp at hm
  | (n, w) :: rest, hd, hm => by
    rw [List.map_cons, List.nodup_cons] at hd
    rcases List.mem_cons.1 hm with he | hm
    · cases he
      simp [lookupIn]
    · have hne : n ≠ name := fun hn => hd.1 (hn ▸ List.mem_map.2 ⟨_, hm, rfl⟩)
      rw [lookupIn, if_neg hne]
      exact lookupIn_of_mem hd.2 hm

theorem lookupIn_eq_none {name : String} {es : List (String × α)}
    (h : name ∉ es.map Prod.fst) : lookupIn name es = none := by
  cases hl : lookupIn name es with
  | none => rfl
  | some v => exact absurd (List.mem_map.2 ⟨_, mem_of_lookupIn hl, rfl⟩) h

theorem lookupIn_eq_lookup (name : String) : ∀ es : List (String × α),
    lookupIn name es = es.lookup name
  | [] => rfl
  | (n, v) :: rest => by
    rw [lookupIn, List.lookup_cons, lookupIn_eq_lookup name rest]
    by_cases h : n = name
    · simp [h]
    · rw [if_neg h, show (name == n) = false from by simpa using Ne.symm h]

/-- Where no name is there twice, the order of the pairs does not matter to lookups. -/
theorem lookup_perm {es fs : List (String × α)} (h : es.Perm fs)
    (hnames : (es.map Prod.fst).Nodup) (name : String) : es.lookup name = fs.lookup name := by
  have hmem {gs : List (String × α)} (hgs : (gs.map Prod.fst).Nodup) (v : α) :
      gs.lookup name = some v ↔ (name, v) ∈ gs := by
    rw [← lookupIn_eq_lookup]
    exact ⟨mem_of_lookupIn, lookupIn_of_mem hgs⟩
  have hnames' : (fs.map Prod.fst).Nodup := (h.map Prod.fst).nodup_iff.1 hnames
  exact Option.ext fun v => by rw [hmem hnames, hmem hnames', h.mem_iff]

/-- A new name is bound behind the others. -/
theorem bindIn_of_not_mem {name : String} {v : α} : ∀ {es : List (String × α)},
    name ∉ es.map Prod.fst → bindIn name v es = es ++ [(name, v)]
  | [], _ => rfl
  | (n, x) :: rest, h => by
    rw [List.map_cons, List.mem_cons, not_or] at h
    rw [bindIn, if_neg (Ne.symm h.1), bindIn_of_not_mem h.2]
    rfl

/-- The entries are the pairs of names and what they are bound to. -/
theorem mem_entries_iff {t : Table α} {name : String} {v : α} :
    (name, v) ∈ t.entries ↔ t.get? name = some v :=
  ⟨lookupIn_of_mem t.distinct, mem_of_lookupIn⟩

theorem contains_iff {t : Table α} {name : String} :
    t.contains name = true ↔ ∃ v, t.get? name = some v := by
  rw [contains, Option.isSome_iff_exists]

theorem eq_of_entries {t u : Table α} (h : t.entries = u.entries) : t = u := by
  cases t
  cases u
  cases h
  rfl

theorem contains_eq_false_iff {t : Table α} {name : String} :
    t.contains name = false ↔ name ∉ t.entries.map Prod.fst := by
  rw [← Bool.not_eq_true, not_iff_not, contains_iff, List.mem_map]
  constructor
  · rintro ⟨v, hv⟩
    exact ⟨(name, v), mem_entries_iff.2 hv, rfl⟩
  · rintro ⟨e, he, rfl⟩
    exact ⟨e.2, mem_entries_iff.1 he⟩

theorem entries_insert {t : Table α} {name : String} (v : α) (h : t.contains name = false) :
    (t.insert name v).entries = t.entries ++ [(name, v)] :=
  bindIn_of_not_mem (contains_eq_false_iff.1 h)

/-- A name that is bound already does not occur once among the names with it. -/
theorem not_nodup_of_contains {t : Table α} {name : String} {v : α} {es : List (String × α)}
    (h : t.contains name = true) :
    ¬((t.entries ++ (name, v) :: es).map Prod.fst).Nodup := by
  intro hd
  rw [List.map_append, List.nodup_append] at hd
  have hmem : name ∈ t.entries.map Prod.fst := by
    by_contra hnot
    rw [contains_eq_false_iff.2 hnot] at h
    cases h
  exact hd.2.2 name hmem name (List.mem_cons_self ..) rfl

theorem lookupIn_map (f : String → α → β) (name : String) : ∀ es : List (String × α),
    lookupIn name (es.map fun e => (e.1, f e.1 e.2)) = (lookupIn name es).map (f name)
  | [] => rfl
  | (n, v) :: rest => by
    rw [List.map_cons, lookupIn, lookupIn]
    split
    · rename_i hn
      rw [hn]; rfl
    · exact lookupIn_map f name rest

@[simp]
theorem get?_map (f : String → α → β) (t : Table α) (name : String) :
    (t.map f).get? name = (t.get? name).map (f name) :=
  lookupIn_map f name t.entries

/-- Putting entries into a table one by one keeps what holds of all its values. -/
theorem get?_foldl_insert_cases {name : String} {v : α} : ∀ (bindings : List (String × α))
    (t : Table α), (bindings.foldl (fun t b => t.insert b.1 b.2) t).get? name = some v →
      (name, v) ∈ bindings ∨ t.get? name = some v
  | [], _, h => Or.inr h
  | (n, w) :: rest, t, h => by
    rcases get?_foldl_insert_cases rest _ h with h | h
    · exact Or.inl (List.mem_cons_of_mem _ h)
    · rw [get?_insert] at h
      split at h
      · rename_i hn
        cases h
        exact Or.inl (by simp [hn])
      · exact Or.inr h

/-- In a union the bindings that are put in win. -/
theorem get?_union (t other : Table α) (name : String) :
    (t.union other).get? name = (other.get? name).or (t.get? name) := by
  have hfold : ∀ (es : List (String × α)) (t : Table α), (es.map Prod.fst).Nodup →
      (es.foldl (fun t b => t.insert b.1 b.2) t).get? name =
        (lookupIn name es).or (t.get? name) := by
    intro es
    induction es with
    | nil => exact fun t _ => rfl
    | cons e rest ih =>
      obtain ⟨m, v⟩ := e
      intro t hd
      rw [List.map_cons, List.nodup_cons] at hd
      rw [List.foldl_cons, ih _ hd.2, get?_insert, lookupIn]
      by_cases hm : m = name
      · subst hm
        simp [lookupIn_eq_none hd.1]
      · rw [if_neg hm, if_neg fun h => hm h.symm]
  exact hfold other.entries t other.distinct

end Stencil.Table
