import Stencil.Proofs.Membership
import Stencil.Proofs.Sorting

/-! Equality of template values is sameness of trees. The *tree* of a value is what is left of it
    when only the exact values of numbers count and neither the spelling of an array as a list or a
    tuple, nor whether a text is marked safe, nor the order of the entries of an object. Values
    without NaN are equal to templates iff they have the same tree. Equality is an equivalence
    therefore, and the operators that are made of it give the same answer for equal operands. -/

namespace Stencil

/-- A template value up to what equality does not see. An object is the map from its names. -/
inductive Tree where
  | null
  | bool (b : Bool)
  | number (x : WithBot (WithTop ℚ))
  | text (s : String)
  | array (items : List Tree)
  | object (fields : String → Option Tree)

namespace Value

/-- A template value without NaN anywhere in it. An array may be a tuple, and no object has a key
    twice. -/
inductive Comparable : Value → Prop where
  | null : Comparable .null
  | bool (b : Bool) : Comparable (.bool b)
  | int (n : Int) : Comparable (.int n)
  | float {x : Binary64} (h : x ≠ .nan) : Comparable (.float x)
  | text (s : String) : Comparable (.text s)
  | markup (s : String) : Comparable (.markup s)
  | list {xs : List Value} (h : ∀ x ∈ xs, Comparable x) : Comparable (.list xs)
  | tuple {xs : List Value} (h : ∀ x ∈ xs, Comparable x) : Comparable (.tuple xs)
  | object {es : List (Value × Value)} (hk : ∀ e ∈ es, e.1.text?.isSome = true)
      (hd : (es.map (·.1.text?)).Nodup) (hv : ∀ e ∈ es, Comparable e.2) : Comparable (.object es)

mutual

/-- The tree of a template value. The undefined marker and bytes, which are none, get the one of
    null. -/
def tree : Value → Tree
  | .null | .undefined | .bytes _ => .null
  | .bool b => .bool b
  | .int n => .number (Number.int n).exact
  | .float x => .number (Number.float x).exact
  | .text s | .markup s => .text s
  | .list xs | .tuple xs => .array (trees xs)
  | .object es => .object (branches es)

/-- The trees of some values. -/
def trees : List Value → List Tree
  | [] => []
  | x :: xs => tree x :: trees xs

/-- The tree under a name. -/
def branches : List (Value × Value) → String → Option Tree
  | [], _ => none
  | (k, v) :: rest, name => if k.text? = some name then some (tree v) else branches rest name

end

variable {a b : Value} {xs ys : List Value} {es fs : List (Value × Value)}

namespace Comparable

theorem items (h : a.Comparable) (hxs : a.items? = some xs) : ∀ x ∈ xs, x.Comparable := by
  cases h <;> simp only [items?, Option.some.injEq, reduceCtorEq] at hxs
  case list h | tuple h => exact hxs ▸ h

theorem entries (h : Comparable (.object es)) : (es.map (·.1.text?)).Nodup ∧
    ∀ e ∈ es, e.2.Comparable := by
  cases h with
  | object _ hd hv => exact ⟨hd, hv⟩

/-- Objects of comparable values have texts as keys, and none twice. -/
theorem keyed (h : a.Comparable) : a.Keyed := by
  induction h with
  | list _ ih | tuple _ ih => exact .items rfl ih
  | object hk hd _ ih => exact .object hk hd ih
  | _ => exact .atom rfl rfl

/-- The number that a comparable value is has an exact value. -/
theorem number_ne_nan (h : a.Comparable) {n : Number} (hn : a.number? = some n) :
    n ≠ .float .nan := by
  cases h <;> simp only [number?, Option.some.injEq, reduceCtorEq] at hn
  case int => simp [← hn]
  case float hx => simpa [← hn] using hx

end Comparable

/-! ### Trees level by level -/

theorem trees_eq_map (xs : List Value) : trees xs = xs.map tree := by
  induction xs with
  | nil => rfl
  | cons x rest ih => rw [trees, ih, List.map_cons]

theorem tree_of_items (h : a.items? = some xs) : a.tree = .array (xs.map tree) := by
  rw [← trees_eq_map]
  cases a <;> simp only [items?, Option.some.injEq, reduceCtorEq] at h <;> rw [← h, tree]

/-- Lists have the same trees iff the items at each place have. -/
theorem map_tree_eq_iff :
    xs.map tree = ys.map tree ↔ Paired (fun a b => a.tree = b.tree) xs ys := by
  constructor
  · intro h
    refine ⟨by simpa using congrArg List.length h, fun i a b ha hb => ?_⟩
    have hi := congrArg (·[i]?) h
    simpa [ha, hb] using hi
  · rintro ⟨hlength, h⟩
    refine List.ext_getElem (by simpa using hlength) fun i hi hi' => ?_
    rw [List.length_map] at hi hi'
    rw [List.getElem_map, List.getElem_map]
    exact h i _ _ (List.getElem?_eq_getElem hi) (List.getElem?_eq_getElem hi')

/-- The tree under a name is that of the entry that has it. -/
theorem branches_eq_some_iff (hd : (es.map (·.1.text?)).Nodup) {name : String} {t : Tree} :
    branches es name = some t ↔ ∃ e ∈ es, e.1.text? = some name ∧ e.2.tree = t := by
  induction es with
  | nil => simp [branches]
  | cons e rest ih =>
    obtain ⟨k, v⟩ := e
    rw [List.map_cons, List.nodup_cons] at hd
    rw [branches]
    split
    · rename_i hk
      -- names are distinct, so no later entry has this one
      have hrest : ∀ e ∈ rest, e.1.text? ≠ some name := fun e he hname =>
        hd.1 (hk.trans hname.symm ▸ List.mem_map_of_mem (f := (·.1.text?)) he)
      rw [Option.some.injEq]
      constructor
      · exact fun h => ⟨_, List.mem_cons_self .., hk, h⟩
      · rintro ⟨e, he, hname, h⟩
        rcases List.mem_cons.1 he with rfl | he
        · exact h
        · exact absurd hname (hrest e he)
    · rename_i hk
      rw [ih hd.2]
      simp [hk]

/-- Where the trees under all names are the same, each entry has one of the same key and tree. -/
theorem exists_entry_of_branches (hd : (es.map (·.1.text?)).Nodup)
    (hd' : (fs.map (·.1.text?)).Nodup) (hk : ∀ e ∈ es, e.1.text?.isSome = true)
    (h : branches es = branches fs) :
    ∀ e ∈ es, ∃ f ∈ fs, e.1.text? = f.1.text? ∧ e.2.tree = f.2.tree := by
  intro e he
  obtain ⟨name, hname⟩ := Option.isSome_iff_exists.1 (hk e he)
  have hbranch := (branches_eq_some_iff hd).2 ⟨e, he, hname, rfl⟩
  obtain ⟨f, hf, hname', htree⟩ := (branches_eq_some_iff hd').1 (h ▸ hbranch)
  exact ⟨f, hf, hname.trans hname'.symm, htree.symm⟩

/-- Then there are no more entries than in the other object, because no key occurs twice. -/
theorem length_le_of_branches (hd : (es.map (·.1.text?)).Nodup)
    (hd' : (fs.map (·.1.text?)).Nodup) (hk : ∀ e ∈ es, e.1.text?.isSome = true)
    (h : branches es = branches fs) : es.length ≤ fs.length := by
  have hsub : es.map (·.1.text?) ⊆ fs.map (·.1.text?) := by
    intro k hk'
    obtain ⟨e, he, rfl⟩ := List.mem_map.1 hk'
    obtain ⟨f, hf, hkey, -⟩ := exists_entry_of_branches hd hd' hk h e he
    exact hkey ▸ List.mem_map_of_mem (f := (·.1.text?)) hf
  simpa using (List.subperm_of_subset hd hsub).length_le

/-- A tree under a name is one of the other object too where the entries match. -/
theorem branches_of_matched (hd : (es.map (·.1.text?)).Nodup)
    (hd' : (fs.map (·.1.text?)).Nodup) (h : Matched (fun a b => a.tree = b.tree) es fs)
    {name : String} {t : Tree} (ht : branches es name = some t) : branches fs name = some t := by
  obtain ⟨e, he, hname, rfl⟩ := (branches_eq_some_iff hd).1 ht
  obtain ⟨f, hf, hkey, htree⟩ := h.2 e he
  exact (branches_eq_some_iff hd').2 ⟨f, hf, hkey ▸ hname, htree.symm⟩

/-- Objects have the same trees under all names iff their entries match. -/
theorem branches_eq_iff (hes : Keyed (.object es)) (hfs : Keyed (.object fs)) :
    branches es = branches fs ↔ Matched (fun a b => a.tree = b.tree) es fs := by
  obtain ⟨hk, hd, -⟩ := hes.of_entries
  obtain ⟨hk', hd', -⟩ := hfs.of_entries
  constructor
  · intro h
    have hlength := (length_le_of_branches hd hd' hk h).antisymm
      (length_le_of_branches hd' hd hk' h.symm)
    exact ⟨hlength, exists_entry_of_branches hd hd' hk h⟩
  · intro h
    have hflip : Matched (fun a b => a.tree = b.tree) fs es :=
      (h.flip hd hd').imp fun _ _ _ _ _ h => h.symm
    funext name
    exact Option.ext fun t => ⟨branches_of_matched hd hd' h, branches_of_matched hd' hd hflip⟩

/-! ### Equality of trees -/

/-- Comparable values without items and entries are equal iff they have the same tree. -/
theorem equals_iff_tree_of_atom (ha : a.Comparable) (hitems : a.items? = none)
    (hentries : a.entries? = none) (hb : b.Comparable) : a.equals b = true ↔ a.tree = b.tree := by
  have hnumbers {m n : Number} (hm : a.number? = some m) (hn : b.number? = some n) :
      m.eq n = true ↔ m.exact = n.exact :=
    Number.eq_iff (ha.number_ne_nan hm) (hb.number_ne_nan hn)
  cases ha <;> simp only [items?, entries?, reduceCtorEq] at hitems hentries <;> cases hb <;>
    simp [equals, atomEquals, hostNumber?, number?, text?, tree] at hnumbers ⊢ <;> exact hnumbers

/-- An array is equal to comparable values iff it has their tree, if its items are. -/
theorem equals_iff_tree_of_items (hxs : a.items? = some xs)
    (ih : ∀ x ∈ xs, ∀ {b : Value}, b.Comparable → (x.equals b = true ↔ x.tree = b.tree))
    (hb : b.Comparable) : a.equals b = true ↔ a.tree = b.tree := by
  rw [equals_items hxs, tree_of_items hxs]
  cases hys : b.items? with
  | some ys =>
    rw [tree_of_items hys, Tree.array.injEq, map_tree_eq_iff]
    have hpairs : ∀ (i : Nat) (x y : Value), xs[i]? = some x → ys[i]? = some y →
        (x.equals y = true ↔ x.tree = y.tree) := fun i x y hx hy =>
      ih x (List.mem_of_getElem? hx) (hb.items hys y (List.mem_of_getElem? hy))
    constructor
    · rintro ⟨_, ⟨⟩, hlength, h⟩
      exact ⟨hlength, fun i x y hx hy => (hpairs i x y hx hy).1 (h i x y hx hy)⟩
    · rintro ⟨hlength, h⟩
      exact ⟨ys, rfl, hlength, fun i x y hx hy => (hpairs i x y hx hy).2 (h i x y hx hy)⟩
  | none => cases hb <;> simp [items?, tree] at hys ⊢

/-- Comparable values are equal to templates iff they have the same tree. -/
theorem equals_iff_tree (ha : a.Comparable) :
    ∀ {b : Value}, b.Comparable → (a.equals b = true ↔ a.tree = b.tree) := by
  induction ha with
  | @list xs _ ih => exact fun hb => equals_iff_tree_of_items rfl (fun x hx _ => ih x hx) hb
  | @tuple xs _ ih => exact fun hb => equals_iff_tree_of_items rfl (fun x hx _ => ih x hx) hb
  | @object es hk hd hv ih =>
    intro b hb
    have hx : Keyed (.object es) := (Comparable.object hk hd hv).keyed
    rw [equals_object hx hb.keyed]
    cases b with
    | object fs =>
      rw [tree, tree, Tree.object.injEq, branches_eq_iff hx hb.keyed]
      have hpairs : ∀ e ∈ es, ∀ f ∈ fs, (e.2.equals f.2 = true ↔ e.2.tree = f.2.tree) :=
        fun e he f hf => ih e he (hb.entries.2 f hf)
      constructor
      · rintro ⟨_, ⟨⟩, h⟩
        exact h.imp fun e he f hf _ => (hpairs e he f hf).1
      · exact fun h => ⟨fs, rfl, h.imp fun e he f hf _ => (hpairs e he f hf).2⟩
    | _ => simp [tree]
  | null => exact fun hb => equals_iff_tree_of_atom .null rfl rfl hb
  | bool v => exact fun hb => equals_iff_tree_of_atom (.bool v) rfl rfl hb
  | int n => exact fun hb => equals_iff_tree_of_atom (.int n) rfl rfl hb
  | float h => exact fun hb => equals_iff_tree_of_atom (.float h) rfl rfl hb
  | text s => exact fun hb => equals_iff_tree_of_atom (.text s) rfl rfl hb
  | markup s => exact fun hb => equals_iff_tree_of_atom (.markup s) rfl rfl hb

/-- A comparable value is in an array iff an item of the array has its tree. -/
theorem within_of_items (ha : a.Comparable) (hb : b.Comparable) (hxs : b.items? = some xs) :
    ∃ r, Operator.within a b = .ok r ∧ (r = true ↔ ∃ x ∈ xs, a.tree = x.tree) := by
  refine ⟨xs.any a.equals, ?_, ?_⟩
  · cases b <;> simp only [items?, Option.some.injEq, reduceCtorEq] at hxs <;>
      rw [← hxs, Operator.within]
  · rw [List.any_eq_true]
    exact exists_congr fun x => and_congr_right fun hx => equals_iff_tree ha (hb.items hxs x hx)

/-- Arrays of the same tree have items of the same trees. -/
theorem exists_mem_tree_iff (hb : b.items? = some xs) {b' : Value} (hsame : b.tree = b'.tree)
    (hb' : b'.items? = some ys) (t : Tree) : (∃ x ∈ xs, t = x.tree) ↔ ∃ y ∈ ys, t = y.tree := by
  rw [tree_of_items hb, tree_of_items hb', Tree.array.injEq] at hsame
  have hmem : t ∈ xs.map tree ↔ t ∈ ys.map tree := by rw [hsame]
  simpa [eq_comm] using hmem

/-- What has the tree of an array is one. -/
theorem exists_items_of_tree (hb : b.items? = some xs) {b' : Value} (hsame : b.tree = b'.tree) :
    ∃ ys, b'.items? = some ys := by
  rw [tree_of_items hb] at hsame
  cases b' <;> simp [tree, items?] at hsame ⊢

/-- Equality of comparable values is an equivalence. They are equal iff they have the same tree, and
    then no boolean stands against a number anywhere in them. The operators that are made of
    equality answer for all comparable operands, and they give the same answer when either operand
    is replaced by an equal one. -/
theorem equality_of_trees :
    Equivalence (fun a b : {v : Value // v.Comparable} => a.1.equals b.1 = true) ∧
    (∀ a b : Value, a.Comparable → b.Comparable →
      (a.equals b = true ↔ a.tree = b.tree) ∧ (a.equals b = true → ¬Facing BoolAndNumber a b)) ∧
    ∀ a a' b b' : Value, a.Comparable → a'.Comparable → b.Comparable → b'.Comparable →
      a.equals a' = true → b.equals b' = true →
      (∃ r, Operator.compare "==" a b = .ok r ∧ Operator.compare "==" a' b' = .ok r ∧
        Operator.compare "!=" a b = .ok !r ∧ Operator.compare "!=" a' b' = .ok !r ∧
        (r = true ↔ a.tree = b.tree)) ∧
      ∀ xs, b.items? = some xs →
        ∃ r, Operator.compare "in" a b = .ok r ∧ Operator.compare "in" a' b' = .ok r ∧
          Operator.compare "not in" a b = .ok !r ∧ Operator.compare "not in" a' b' = .ok !r ∧
          (r = true ↔ ∃ x ∈ xs, a.tree = x.tree) := by
  refine ⟨⟨fun a => ?_, fun {a b} h => ?_, fun {a b c} h h' => ?_⟩, fun a b ha hb => ⟨?_, ?_⟩, ?_⟩
  · exact (equals_iff_tree a.2 a.2).2 rfl
  · exact (equals_iff_tree b.2 a.2).2 ((equals_iff_tree a.2 b.2).1 h).symm
  · exact (equals_iff_tree a.2 c.2).2
      (((equals_iff_tree a.2 b.2).1 h).trans ((equals_iff_tree b.2 c.2).1 h'))
  · exact equals_iff_tree ha hb
  · exact (parting ha.keyed hb.keyed).boolAndNumber
  · intro a a' b b' ha ha' hb hb' hequal hequal'
    have hleft := (equals_iff_tree ha ha').1 hequal
    have hright := (equals_iff_tree hb hb').1 hequal'
    -- equal values have one tree, and equality sees nothing but trees
    have hsame : a'.equals b' = a.equals b := by
      rw [Bool.eq_iff_iff, equals_iff_tree ha' hb', equals_iff_tree ha hb, hleft, hright]
    refine ⟨⟨a.equals b, rfl, congrArg Except.ok hsame, rfl, congrArg (fun r => Except.ok !r) hsame,
      equals_iff_tree ha hb⟩, fun xs hxs => ?_⟩
    obtain ⟨ys, hys⟩ := exists_items_of_tree hxs hright
    obtain ⟨r, hr, hiff⟩ := within_of_items ha hb hxs
    obtain ⟨r', hr', hiff'⟩ := within_of_items ha' hb' hys
    obtain rfl : r' = r := by
      rw [Bool.eq_iff_iff, hiff', hiff, ← hleft]
      exact (exists_mem_tree_iff hxs hright hys _).symm
    have negated {c d : Value} (h : Operator.within c d = .ok r') :
        Operator.compare "not in" c d = .ok !r' :=
      congrArg (fun x : Except Problem Bool => do return !(← x)) h
    exact ⟨r', hr, hr', negated hr, negated hr', hiff⟩

/-- The number one and an object, in a list. -/
def listed : Value := .list [.int 1, .object [(.text "k", .text "v"), (.text "n", .null)]]

/-- The same with the number as a double, the text marked safe and the entries turned round, in a
    tuple. -/
def tupled : Value :=
  .tuple [.float (.finite false Binary64.one),
    .object [(.text "n", .null), (.markup "k", .markup "v")]]

theorem equality_of_trees_spelled : listed.Comparable ∧ tupled.Comparable ∧
    listed.equals tupled = true ∧ tupled.equals listed = true ∧
    ∃ r, Operator.compare "in" listed (.list [listed]) = .ok r ∧
      Operator.compare "in" tupled (.list [listed]) = .ok r ∧ r = true := by
  have hlisted : listed.Comparable := by
    refine .list ?_
    simp only [List.forall_mem_cons, List.not_mem_nil, false_implies, implies_true, and_true]
    refine ⟨.int 1, .object (by simp [text?]) (by decide) ?_⟩
    simp only [List.forall_mem_cons, List.not_mem_nil, false_implies, implies_true, and_true]
    exact ⟨.text "v", .null⟩
  have htupled : tupled.Comparable := by
    refine .tuple ?_
    simp only [List.forall_mem_cons, List.not_mem_nil, false_implies, implies_true, and_true]
    refine ⟨.float (by simp), .object (by simp [text?]) (by decide) ?_⟩
    simp only [List.forall_mem_cons, List.not_mem_nil, false_implies, implies_true, and_true]
    exact ⟨.null, .markup "v"⟩
  have hequal : listed.equals tupled = true := by decide +kernel
  have harray : Comparable (.list [listed]) := .list (by simpa using hlisted)
  obtain ⟨hequivalence, -, hoperators⟩ := equality_of_trees
  obtain ⟨-, hin⟩ := hoperators listed tupled (.list [listed]) (.list [listed]) hlisted htupled
    harray harray hequal (hequivalence.refl ⟨_, harray⟩)
  obtain ⟨r, hr, hr', -, -, hiff⟩ := hin [listed] rfl
  refine ⟨hlisted, htupled, hequal, ?_, r, hr, hr', hiff.2 ⟨listed, by simp, rfl⟩⟩
  exact hequivalence.symm (x := ⟨listed, hlisted⟩) (y := ⟨tupled, htupled⟩) hequal

end Value

end Stencil
