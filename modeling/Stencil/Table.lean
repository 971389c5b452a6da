/-! Finite maps from names that keep the order of insertion. Binding a name anew keeps its place, a
    name that is new goes to the end; no name is bound twice. -/

namespace Stencil

/-- A finite map from names. -/
structure Table (α : Type) where
  entries : List (String × α)
  distinct : (entries.map Prod.fst).Nodup

namespace Table

variable {α β : Type}

def empty : Table α := ⟨[], by simp⟩

instance : Inhabited (Table α) := ⟨empty⟩

/-- The value that entries bind to a name. -/
def lookupIn (name : String) : List (String × α) → Option α
  | [] => none
  | (n, v) :: rest => if n = name then some v else lookupIn name rest

/-- The value bound to a name. -/
def get? (t : Table α) (name : String) : Option α := lookupIn name t.entries

def contains (t : Table α) (name : String) : Bool := (t.get? name).isSome

/-- The names in their order. -/
def names (t : Table α) : List String := t.entries.map Prod.fst

def size (t : Table α) : Nat := t.entries.length

/-- Entries with a name bound to a value. -/
def bindIn (name : String) (value : α) : List (String × α) → List (String × α)
  | [] => [(name, value)]
  | (n, v) :: rest => if n = name then (n, value) :: rest else (n, v) :: bindIn name value rest

theorem mem_names_bindIn {name n : String} {value : α} {es : List (String × α)} :
    n ∈ (bindIn name value es).map Prod.fst ↔ n = name ∨ n ∈ es.map Prod.fst := by
  induction es with
  | nil => simp [bindIn]
  | cons e rest ih =>
    obtain ⟨m, v⟩ := e
    unfold bindIn
    split
    · rename_i h; subst h; simp
    · simp only [List.map_cons, List.mem_cons, ih]; grind

theorem nodup_bindIn {name : String} {value : α} {es : List (String × α)}
    (h : (es.map Prod.fst).Nodup) : ((bindIn name value es).map Prod.fst).Nodup := by
  induction es with
  | nil => simp [bindIn]
  | cons e rest ih =>
    obtain ⟨m, v⟩ := e
    simp only [List.map_cons, List.nodup_cons] at h
    unfold bindIn
    split
    · simpa using h
    · rename_i hne
      simp only [List.map_cons, List.nodup_cons]
      refine ⟨fun hm => ?_, ih h.2⟩
      rcases mem_names_bindIn.1 hm with rfl | hm
      · exact hne rfl
      · exact h.1 hm

/-- The map with a name bound to a value. -/
def insert (t : Table α) (name : String) (value : α) : Table α :=
  ⟨bindIn name value t.entries, nodup_bindIn t.distinct⟩

/-- The map of a list of bindings, of which later ones win. -/
def ofList (bindings : List (String × α)) : Table α :=
  bindings.foldl (fun t b => t.insert b.1 b.2) empty

/-- The map with other bindings put in one by one. -/
def union (t other : Table α) : Table α :=
  other.entries.foldl (fun t b => t.insert b.1 b.2) t

/-- The map with every value changed. -/
def map (f : String → α → β) (t : Table α) : Table β :=
  ⟨t.entries.map fun e => (e.1, f e.1 e.2), by
    have : (t.entries.map fun e => (e.1, f e.1 e.2)).map Prod.fst = t.entries.map Prod.fst := by
      simp [Function.comp_def]
    rw [this]; exact t.distinct⟩

theorem lookupIn_bindIn (name n : String) (value : α) (es : List (String × α)) :
    lookupIn n (bindIn name value es) = if n = name then some value else lookupIn n es := by
  induction es with
  | nil => grind [bindIn, lookupIn]
  | cons e rest ih => grind [bindIn, lookupIn]

@[simp]
theorem get?_insert (t : Table α) (name n : String) (value : α) :
    (t.insert name value).get? n = if n = name then some value else t.get? n :=
  lookupIn_bindIn name n value t.entries

@[simp]
theorem get?_empty (n : String) : (empty : Table α).get? n = none := rfl

theorem mem_of_lookupIn {name : String} {v : α} {es : List (String × α)}
    (h : lookupIn name es = some v) : (name, v) ∈ es := by
  induction es with
  | nil => simp [lookupIn] at h
  | cons e rest ih =>
    unfold lookupIn at h
    split at h
    · rename_i hn; cases h; simp [← hn]
    · exact List.mem_cons_of_mem _ (ih h)

/-- A name that is bound is one of the names. -/
theorem mem_names_of_get? {t : Table α} {name : String} {v : α} (h : t.get? name = some v) :
    name ∈ t.names :=
  List.mem_map.2 ⟨(name, v), mem_of_lookupIn h, rfl⟩

end Table

end Stencil
