import Mathlib.Data.List.Nodup
import Mathlib.Data.List.Pairwise
import Stencil.Proofs.Result
import Stencil.Proofs.Table
import Stencil.Template

/-! Which trees become templates, and what a template knows of its tree. A place in a tree is the
    way to it from the root, by the numbers of the children; the walk of a tree meets each of its
    places once, in the lexicographic order of the places. A tree is well formed if what it extends
    is named by a text, no two places hold blocks of one name, macros stand directly in its body
    under names of their own, and no block lies inside of one. Exactly these trees are accepted, all
    others are refused as syntax errors, and what is collected of a tree is complete and in its
    order. -/

namespace Stencil

namespace Node

/-- The node at a place. -/
def at? (n : Node) : List Nat → Option Node
  | [] => some n
  | i :: rest => n.children[i]?.bind fun c => c.at? rest

/-- The block that a node is, under its name. -/
def namedBlock? : Node → Option (String × Block)
  | .block _ label body => some (label, ⟨label, body⟩)
  | _ => none

/-- The macro that a node is, under its name. -/
def namedMacro? : Node → Option (String × Macro)
  | .macroDef _ label params body => some (label, ⟨label, Template.paramsOf params, body⟩)
  | _ => none

/-- What a node imports, with the namespace. -/
def import? : Node → Option (Value × String)
  | .importing _ target space => some (target, space)
  | _ => none

/-- The name of a block. -/
def blockName? (n : Node) : Option String := n.namedBlock?.map Prod.fst

/-- The name of a macro. -/
def macroName? (n : Node) : Option String := n.namedMacro?.map Prod.fst

/-! ### Places -/

/-- The trees below a node hold the tree of each of its children. -/
theorem preorder_sublist_below {c n : Node} (h : c ∈ n.children) :
    c.preorder.Sublist (n.children.flatMap preorder) := by
  rw [List.flatMap_def]
  exact List.sublist_flatten_of_mem (List.mem_map.2 ⟨c, h, rfl⟩)

theorem length_preorder_lt {c n : Node} (h : c ∈ n.children) :
    c.preorder.length < n.preorder.length := by
  rw [preorder_eq n, List.length_cons]
  exact Nat.lt_succ_of_le (preorder_sublist_below h).length_le

/-- Places of a tree with the nodes there: every place, in lexicographic order. -/
structure Visits (n : Node) (visits : List (List Nat × Node)) : Prop where
  ascending : visits.Pairwise fun a b => a.1 < b.1
  complete : ∀ place m, (place, m) ∈ visits ↔ n.at? place = some m

/-- The places below a node, from those of its children. -/
theorem exists_visits_below : ∀ (cs : List Node) (k : Nat),
    (∀ c ∈ cs, ∃ visits, c.Visits visits ∧ visits.map Prod.snd = c.preorder) →
    ∃ visits : List (List Nat × Node), visits.Pairwise (fun a b => a.1 < b.1) ∧
      (∀ place m, (place, m) ∈ visits ↔
        ∃ i rest, place = (k + i) :: rest ∧ (cs[i]?.bind fun c => c.at? rest) = some m) ∧
      visits.map Prod.snd = cs.flatMap preorder
  | [], _, _ => ⟨[], .nil, by simp, rfl⟩
  | c :: cs, k, h => by
    obtain ⟨first, hfirst, hpreorder⟩ := h c (List.mem_cons_self ..)
    obtain ⟨others, hascending, hcomplete, hothers⟩ :=
      exists_visits_below cs (k + 1) fun c hc => h c (List.mem_cons_of_mem _ hc)
    -- the places of the first child come first, since they begin with a smaller number
    refine ⟨first.map (fun v => (k :: v.1, v.2)) ++ others, ?_, fun place m => ?_, ?_⟩
    · refine List.pairwise_append.2 ⟨?_, hascending, ?_⟩
      · rw [List.pairwise_map]
        exact hfirst.ascending.imp fun h => List.Lex.cons h
      · intro a ha b hb
        obtain ⟨v, -, rfl⟩ := List.mem_map.1 ha
        obtain ⟨i, rest, hplace, -⟩ := (hcomplete b.1 b.2).1 hb
        rw [hplace]
        exact List.Lex.rel (by omega)
    · rw [List.mem_append, hcomplete]
      constructor
      · rintro (hmem | ⟨i, rest, rfl, hm⟩)
        · obtain ⟨⟨rest, q⟩, hv, heq⟩ := List.mem_map.1 hmem
          cases heq
          exact ⟨0, rest, rfl, (hfirst.complete rest q).1 hv⟩
        · exact ⟨i + 1, rest, by rw [Nat.add_right_comm]; rfl, hm⟩
      · rintro ⟨i, rest, rfl, hm⟩
        cases i with
        | zero => exact .inl (List.mem_map.2 ⟨(rest, m), (hfirst.complete rest m).2 hm, rfl⟩)
        | succ i => exact .inr ⟨i, rest, by rw [Nat.add_right_comm]; rfl, hm⟩
    · rw [List.map_append, List.map_map, hothers, List.flatMap_cons, ← hpreorder]
      rfl

/-- The tree of a node has the nodes of its places, in the order of the places. -/
theorem exists_visits (n : Node) :
    ∃ visits, n.Visits visits ∧ visits.map Prod.snd = n.preorder := by
  obtain ⟨below, hascending, hcomplete, hbelow⟩ :=
    exists_visits_below n.children 0 fun c _ => exists_visits c
  refine ⟨([], n) :: below, ⟨List.pairwise_cons.2 ⟨fun v hv => ?_, hascending⟩, ?_⟩, ?_⟩
  · obtain ⟨i, rest, hplace, -⟩ := (hcomplete v.1 v.2).1 hv
    rw [hplace]
    exact List.Lex.nil
  · intro place m
    rw [List.mem_cons, hcomplete]
    cases place with
    | nil => simp [at?, eq_comm]
    | cons i rest => simp [at?]
  · rw [preorder_eq n, List.map_cons, hbelow]
termination_by n.preorder.length
decreasing_by exact length_preorder_lt ‹_›

theorem mem_preorder_iff {m n : Node} : m ∈ n.preorder ↔ ∃ place, n.at? place = some m := by
  obtain ⟨visits, hvisits, hpreorder⟩ := exists_visits n
  rw [← hpreorder, List.mem_map]
  constructor
  · rintro ⟨⟨place, _⟩, hv, rfl⟩
    exact ⟨place, (hvisits.complete place _).1 hv⟩
  · rintro ⟨place, h⟩
    exact ⟨(place, m), (hvisits.complete place m).2 h, rfl⟩

/-- What the nodes of a tree are named differs iff no two places have one name. -/
theorem nodup_names_iff (named : Node → Option String) (n : Node) :
    (n.preorder.filterMap named).Nodup ↔ ∀ place place' m m' label, n.at? place = some m →
      n.at? place' = some m' → named m = some label → named m' = some label → place = place' := by
  obtain ⟨visits, hvisits, hpreorder⟩ := exists_visits n
  rw [← hpreorder, List.filterMap_map, List.Nodup, List.pairwise_filterMap]
  constructor
  · intro h place place' m m' label hm hm' hl hl'
    by_contra hne
    have hv := (hvisits.complete place m).2 hm
    have hv' := (hvisits.complete place' m').2 hm'
    have : Std.Symm fun a b : List Nat × Node =>
        ∀ l, (named ∘ Prod.snd) a = some l → ∀ l', (named ∘ Prod.snd) b = some l' → l ≠ l' :=
      ⟨fun _ _ h l hl l' hl' heq => h l' hl' l hl heq.symm⟩
    exact h.forall hv hv' (fun heq => hne (congrArg Prod.fst heq)) label hl label hl' rfl
  · intro h
    refine hvisits.ascending.imp_of_mem fun {a b} ha hb hlt l hl l' hl' heq => ?_
    have hsame : a.1 = b.1 := h _ _ _ _ l ((hvisits.complete _ _).1 ha)
      ((hvisits.complete _ _).1 hb) hl (heq ▸ hl')
    exact List.lt_irrefl _ (hsame ▸ hlt)

end Node

/-! ### Collections -/

namespace Template

variable {template : String}

theorem checkInside_eq_ok_iff {label : String} : ∀ {nodes : List Node},
    checkInside template label nodes = .ok () ↔
      ∀ n ∈ nodes, n.blockName? = none ∧ n.macroName? = none
  | [] => by simp [checkInside]
  | n :: nodes => by
    have ih : checkInside template label nodes = .ok () ↔ _ := checkInside_eq_ok_iff
    rw [List.forall_mem_cons]
    cases n <;> simp [checkInside, Node.blockName?, Node.macroName?, Node.namedBlock?,
      Node.namedMacro?, ih]

/-- The macros and imports of a body are collected in their order, if the macros have names of their
    own and neither blocks nor macros inside. -/
theorem collectTop_eq_ok_iff {nodes : List Node} {macros out : Table Macro}
    {imports outImports : List (Value × String)} :
    collectTop template macros imports nodes = .ok (out, outImports) ↔
      ((macros.entries ++ nodes.filterMap Node.namedMacro?).map Prod.fst).Nodup ∧
      (∀ n ∈ nodes, n.macroName? ≠ none →
        ∀ m ∈ n.children.flatMap Node.preorder, m.blockName? = none ∧ m.macroName? = none) ∧
      out.entries = macros.entries ++ nodes.filterMap Node.namedMacro? ∧
      outImports = imports ++ nodes.filterMap Node.import? := by
  fun_induction collectTop template macros imports nodes with
  | case1 macros imports =>
    simp only [List.filterMap_nil, List.append_nil, Except.ok.injEq, Prod.mk.injEq]
    constructor
    · rintro ⟨rfl, rfl⟩
      exact ⟨macros.distinct, nofun, rfl, rfl⟩
    · rintro ⟨-, -, hentries, rfl⟩
      exact ⟨(Table.eq_of_entries hentries).symm, rfl⟩
  | case2 macros imports p label params body rest hc =>
    exact iff_of_false nofun fun h => Table.not_nodup_of_contains hc h.1
  | case3 macros imports p label params body rest hc ih =>
    have hentries := macros.entries_insert ⟨label, paramsOf params, body⟩ (by simpa using hc)
    have hinside : (Node.macroDef p label params body).walk.drop 1 =
        (Node.macroDef p label params body).children.flatMap Node.preorder := by
      rw [Node.walk, Node.walkStack_eq, List.flatMap_singleton, Node.preorder_eq]
      rfl
    have hentry : (Node.macroDef p label params body).namedMacro? =
        some (label, ⟨label, paramsOf params, body⟩) := rfl
    have himport : (Node.macroDef p label params body).import? = none := rfl
    have hname : (Node.macroDef p label params body).macroName? ≠ none := nofun
    -- the macros collected so far are part of the statement, so the induction covers the rest
    rw [hentries] at ih
    rw [bind_eq_ok, hinside, Unique.exists_iff]
    change (checkInside template label _ = .ok () ∧ _) ↔ _
    simp only [checkInside_eq_ok_iff, ih, List.forall_mem_cons, List.filterMap_cons_some hentry,
      List.filterMap_cons_none himport, List.append_assoc, List.singleton_append, ne_eq, hname,
      not_false_eq_true, true_imp_iff]
    tauto
  | case4 macros imports p target space rest ih =>
    have hentry : (Node.importing p target space).namedMacro? = none := rfl
    have himport : (Node.importing p target space).import? = some (target, space) := rfl
    have hname : (Node.importing p target space).macroName? = none := rfl
    simp only [ih, List.forall_mem_cons, List.filterMap_cons_none hentry,
      List.filterMap_cons_some himport, List.append_assoc, List.singleton_append, ne_eq, hname,
      not_true_eq_false, false_imp_iff, true_and]
  | case5 macros imports n rest hdef himport ih =>
    have hentry : n.namedMacro? = none := by
      cases n <;> first | rfl | exact absurd rfl (hdef _ _ _ _)
    have hnone : n.import? = none := by
      cases n <;> first | rfl | exact absurd rfl (himport _ _ _)
    have hname : n.macroName? = none := by rw [Node.macroName?, hentry, Option.map_none]
    simp only [ih, List.forall_mem_cons, List.filterMap_cons_none hentry,
      List.filterMap_cons_none hnone, ne_eq, hname, not_true_eq_false, false_imp_iff, true_and]

/-- The blocks of a tree are collected in their order, if they have names of their own and no macro
    stands below the top. -/
theorem collectBlocks_eq_ok_iff {nodes : List (Bool × Node)} {blocks out : Table Block} :
    collectBlocks template blocks nodes = .ok out ↔
      ((blocks.entries ++ nodes.filterMap fun n => n.2.namedBlock?).map Prod.fst).Nodup ∧
      (∀ n, (false, n) ∈ nodes → n.macroName? = none) ∧
      out.entries = blocks.entries ++ nodes.filterMap fun n => n.2.namedBlock? := by
  fun_induction collectBlocks template blocks nodes with
  | case1 blocks =>
    simp only [List.filterMap_nil, List.append_nil, Except.ok.injEq]
    constructor
    · rintro rfl
      exact ⟨blocks.distinct, nofun, rfl⟩
    · rintro ⟨-, -, hentries⟩
      exact (Table.eq_of_entries hentries).symm
  | case2 blocks top p label body rest hc =>
    exact iff_of_false nofun fun h => Table.not_nodup_of_contains hc h.1
  | case3 blocks top p label body rest hc ih =>
    have hentries := blocks.entries_insert ⟨label, body⟩ (by simpa using hc)
    have hentry : (Node.block p label body).namedBlock? = some (label, ⟨label, body⟩) := rfl
    have hname : (Node.block p label body).macroName? = none := rfl
    rw [hentries] at ih
    have hhead : (∀ n, (false, n) ∈ (top, Node.block p label body) :: rest → n.macroName? = none) ↔
        ∀ n, (false, n) ∈ rest → n.macroName? = none := by
      simp [hname, or_imp, forall_and]
    rw [ih, hhead, List.filterMap_cons_some (a := (top, Node.block p label body)) hentry,
      List.append_assoc, List.singleton_append]
  | case4 blocks p label params body rest =>
    exact iff_of_false nofun fun h => by
      cases h.2.1 _ (List.mem_cons_self ..)
  | case5 blocks e rest hblock hdef ih =>
    obtain ⟨top, n⟩ := e
    have hentry : n.namedBlock? = none := by
      cases n <;> first | rfl | exact absurd rfl (hblock _ _ _ _)
    have hhead : (∀ m, (false, m) ∈ (top, n) :: rest → m.macroName? = none) ↔
        ∀ m, (false, m) ∈ rest → m.macroName? = none := by
      refine ⟨fun h m hm => h m (List.mem_cons_of_mem _ hm), fun h m hm => ?_⟩
      rcases List.mem_cons.1 hm with heq | hm
      · -- a macro below the top has a case of its own, in which the collection stops
        cases heq
        cases n <;> first | rfl | exact absurd rfl (hdef _ _ _ _)
      · exact h m hm
    rw [ih, hhead, List.filterMap_cons_none (a := (top, n)) hentry]

theorem markTop_eq (body : List Node) : markTop body = body.flatMap fun n =>
    (true, n) :: (n.children.flatMap Node.preorder).map fun m => (false, m) := by
  unfold markTop
  refine List.flatMap_congr fun n _ => ?_
  rw [Node.walk, Node.walkStack_eq, List.flatMap_singleton, Node.preorder_eq]

/-- The nodes that are looked through for blocks are those of the trees, in document order. -/
theorem map_snd_markTop (body : List Node) :
    (markTop body).map Prod.snd = body.flatMap Node.preorder := by
  rw [markTop_eq, List.map_flatMap]
  refine List.flatMap_congr fun n _ => ?_
  rw [Node.preorder_eq n]
  simp [Function.comp_def]

/-- The nodes below the top are those below the nodes of the body. -/
theorem mem_markTop_below {body : List Node} {m : Node} :
    (false, m) ∈ markTop body ↔ ∃ n ∈ body, m ∈ n.children.flatMap Node.preorder := by
  simp [markTop_eq]

/-! ### Refusals -/

theorem parentOf_eq_error {d : Document} {e : TemplateError} (h : parentOf template d = .error e) :
    ∃ message p, e = refusal template message p := by
  unfold parentOf at h
  split at h
  · cases h
  · split at h <;> cases h
    exact ⟨_, _, rfl⟩

theorem checkInside_eq_error {label : String} {nodes : List Node} {e : TemplateError}
    (h : checkInside template label nodes = .error e) :
    ∃ message p, e = refusal template message p := by
  fun_induction checkInside template label nodes with
  | case1 => cases h
  | case2 | case3 =>
    cases h
    exact ⟨_, _, rfl⟩
  | case4 _ _ _ _ ih => exact ih h

theorem collectTop_eq_error {macros : Table Macro} {imports : List (Value × String)}
    {nodes : List Node} {e : TemplateError}
    (h : collectTop template macros imports nodes = .error e) :
    ∃ message p, e = refusal template message p := by
  fun_induction collectTop template macros imports nodes with
  | case1 => cases h
  | case2 =>
    cases h
    exact ⟨_, _, rfl⟩
  | case3 _ _ _ _ _ _ _ _ ih =>
    rcases bind_eq_error.1 h with h | ⟨_, -, h⟩
    · exact checkInside_eq_error h
    · exact ih h
  | case4 _ _ _ _ _ _ ih | case5 _ _ _ _ _ _ ih => exact ih h

theorem collectBlocks_eq_error {blocks : Table Block} {nodes : List (Bool × Node)}
    {e : TemplateError} (h : collectBlocks template blocks nodes = .error e) :
    ∃ message p, e = refusal template message p := by
  fun_induction collectBlocks template blocks nodes with
  | case1 => cases h
  | case2 | case4 =>
    cases h
    exact ⟨_, _, rfl⟩
  | case3 _ _ _ _ _ _ _ ih | case5 _ _ _ _ _ ih => exact ih h

/-- Whatever is refused is refused as a syntax error of the template. -/
theorem ofDocument_eq_error {d : Document} {path : Option String} {e : TemplateError}
    (h : ofDocument template d path = .error e) : ∃ message p, e = refusal template message p := by
  unfold ofDocument at h
  rcases bind_eq_error.1 h with h | ⟨parent, -, h⟩
  · exact parentOf_eq_error h
  rcases bind_eq_error.1 h with h | ⟨⟨macros, imports⟩, -, h⟩
  · exact collectTop_eq_error h
  rcases bind_eq_error.1 h with h | ⟨blocks, -, h⟩
  · exact collectBlocks_eq_error h
  · cases h

end Template

/-! ### Well-formed trees -/

/-- A tree that can become a template: what it extends is named by a text, no two places hold blocks
    of one name, every macro stands directly in the body, under a name of its own, and no block lies
    inside of one. -/
structure Document.WellFormed (d : Document) : Prop where
  parent : ∀ e ∈ d.parent, ∃ s, e.2.text? = some s
  blocks : ∀ place place' m m' label, d.node.at? place = some m → d.node.at? place' = some m' →
    m.blockName? = some label → m'.blockName? = some label → place = place'
  top : ∀ place m, d.node.at? place = some m → m.macroName? ≠ none →
    ∃ i, place = [i] ∧ d.body[i]? = some m
  macros : (d.body.filterMap Node.macroName?).Nodup
  apart : ∀ place m, d.node.at? place = some m → m.macroName? ≠ none →
    ∀ inner b, m.at? inner = some b → b.blockName? = none

namespace Node

theorem mem_below_iff {m n : Node} :
    m ∈ n.children.flatMap preorder ↔ ∃ i rest, n.at? (i :: rest) = some m := by
  simp only [List.mem_flatMap, mem_preorder_iff, at?, Option.bind_eq_some_iff]
  constructor
  · rintro ⟨c, hc, rest, hm⟩
    obtain ⟨i, hi⟩ := List.mem_iff_getElem?.1 hc
    exact ⟨i, rest, c, hi, hm⟩
  · rintro ⟨i, rest, c, hi, hm⟩
    exact ⟨c, List.mem_of_getElem? hi, rest, hm⟩

/-- A macro is no block. -/
theorem blockName?_of_macro {n : Node} (h : n.macroName? ≠ none) : n.blockName? = none := by
  cases n <;> first | rfl | exact absurd rfl h

end Node

namespace Document

variable {d : Document} {m n : Node}

/-- The blocks of a tree are those of its body. -/
theorem filterMap_preorder {α : Type} (f : Node → Option α) (htop : f d.node = none)
    (hextends : ∀ p v, f (.extends p v) = none) :
    d.node.preorder.filterMap f = (d.body.flatMap Node.preorder).filterMap f := by
  rw [Node.preorder_eq, List.filterMap_cons_none htop]
  cases hparent : d.parent with
  | none => simp [node, Node.children, hparent]
  | some e => simp [node, Node.children, hparent, Node.preorder, hextends]

/-- The children of a tree are its body and then what it extends, which has no children. -/
theorem getElem?_children (d : Document) (i : Nat) : (∃ n, d.node.children[i]? = some n ∧
    d.body[i]? = some n) ∨ d.body[i]? = none ∧ ∀ n, d.node.children[i]? = some n →
      n.children = [] ∧ n.macroName? = none := by
  rcases Nat.lt_or_ge i d.body.length with hi | hi
  · refine .inl ⟨d.body[i], ?_, List.getElem?_eq_getElem hi⟩
    simp [node, Node.children, List.getElem?_append_left hi]
  · refine .inr ⟨List.getElem?_eq_none hi, fun n hn => ?_⟩
    simp only [node, Node.children, List.getElem?_append_right hi] at hn
    cases hparent : d.parent with
    | none => simp [hparent] at hn
    | some e =>
      have hmem : n ∈ [Node.extends e.1 e.2] := by
        simpa [hparent] using List.mem_of_getElem? hn
      rw [List.mem_singleton.1 hmem]
      exact ⟨rfl, rfl⟩

/-- A macro of a tree stands in the body or below a node of it. -/
theorem macro_cases {place : List Nat} (h : d.node.at? place = some m) (hm : m.macroName? ≠ none) :
    (∃ i, place = [i] ∧ d.body[i]? = some m) ∨
      ∃ n ∈ d.body, m ∈ n.children.flatMap Node.preorder := by
  cases place with
  | nil =>
    cases h
    exact absurd rfl hm
  | cons i rest =>
    obtain ⟨c, hc, hrest⟩ := Option.bind_eq_some_iff.1 h
    rcases d.getElem?_children i with ⟨n, hn, hbody⟩ | ⟨-, hleaf⟩
    · cases hc.symm.trans hn
      cases rest with
      | nil =>
        cases hrest
        exact .inl ⟨i, rfl, hbody⟩
      | cons j rest =>
        exact .inr ⟨c, List.mem_of_getElem? hbody, Node.mem_below_iff.2 ⟨j, rest, hrest⟩⟩
    · obtain ⟨hchildren, hname⟩ := hleaf c hc
      cases rest with
      | nil =>
        cases hrest
        exact absurd hname hm
      | cons j rest => simp [Node.at?, hchildren] at hrest

/-- What lies below a node of the body does not stand in the body. -/
theorem exists_place_below (hn : n ∈ d.body) (hm : m ∈ n.children.flatMap Node.preorder) :
    ∃ i j rest, d.node.at? (i :: j :: rest) = some m := by
  obtain ⟨i, hi⟩ := List.mem_iff_getElem?.1 hn
  obtain ⟨j, rest, hm⟩ := Node.mem_below_iff.1 hm
  rcases d.getElem?_children i with ⟨c, hc, hbody⟩ | ⟨hnone, -⟩
  · cases hi.symm.trans hbody
    exact ⟨i, j, rest, by rw [Node.at?, hc]; exact hm⟩
  · cases hi.symm.trans hnone

/-- A tree is well formed iff its parent can be named and nothing stops the collection of its macros
    and its blocks. -/
theorem wellFormed_iff : d.WellFormed ↔ (∀ e ∈ d.parent, ∃ s, e.2.text? = some s) ∧
    (d.body.filterMap Node.macroName?).Nodup ∧
    (∀ n ∈ d.body, n.macroName? ≠ none →
      ∀ m ∈ n.children.flatMap Node.preorder, m.blockName? = none ∧ m.macroName? = none) ∧
    ((d.body.flatMap Node.preorder).filterMap Node.blockName?).Nodup ∧
    ∀ n ∈ d.body, ∀ m ∈ n.children.flatMap Node.preorder, m.macroName? = none := by
  have hblocks := Node.nodup_names_iff Node.blockName? d.node
  rw [filterMap_preorder Node.blockName? rfl fun _ _ => rfl] at hblocks
  constructor
  · intro h
    have hbelow : ∀ n ∈ d.body, ∀ m ∈ n.children.flatMap Node.preorder, m.macroName? = none := by
      intro n hn m hm
      -- a place below a child has two steps or more, but a macro stands at one
      by_contra hdef
      obtain ⟨i, j, rest, hplace⟩ := exists_place_below hn hm
      obtain ⟨k, hk, -⟩ := h.top _ m hplace hdef
      cases hk
    refine ⟨h.parent, h.macros, fun n hn hdef m hm => ⟨?_, hbelow n hn m hm⟩,
      hblocks.2 h.blocks, hbelow⟩
    obtain ⟨i, hi⟩ := List.mem_iff_getElem?.1 hn
    obtain ⟨j, rest, hm⟩ := Node.mem_below_iff.1 hm
    refine h.apart [i] n ?_ hdef (j :: rest) m hm
    rcases d.getElem?_children i with ⟨c, hc, hbody⟩ | ⟨hnone, -⟩
    · cases hi.symm.trans hbody
      rw [Node.at?, hc]
      rfl
    · cases hi.symm.trans hnone
  · rintro ⟨hparent, hmacros, hinside, hnames, hbelow⟩
    have htop : ∀ place m, d.node.at? place = some m → m.macroName? ≠ none →
        ∃ i, place = [i] ∧ d.body[i]? = some m := by
      intro place m hm hdef
      rcases macro_cases hm hdef with htop | ⟨n, hn, hm⟩
      · exact htop
      · exact absurd (hbelow n hn m hm) hdef
    refine ⟨hparent, hblocks.1 hnames, htop, hmacros, fun place m hm hdef inner b hb => ?_⟩
    obtain ⟨i, -, hi⟩ := htop place m hm hdef
    -- the macro itself is no block; what is inside of it stands below a node of the body
    cases inner with
    | nil =>
      cases hb
      exact Node.blockName?_of_macro hdef
    | cons j rest =>
      exact (hinside m (List.mem_of_getElem? hi) hdef b (Node.mem_below_iff.2 ⟨j, rest, hb⟩)).1

end Document

namespace Template

variable {name : String} {d : Document} {path : Option String} {t : Template}

theorem exists_parentOf_iff :
    (∃ parent, parentOf name d = .ok parent) ↔ ∀ e ∈ d.parent, ∃ s, e.2.text? = some s := by
  unfold parentOf
  cases hparent : d.parent with
  | none => simp
  | some e => cases htext : e.2.text? <;> simp [htext]

theorem ofDocument_eq_ok_iff : ofDocument name d path = .ok t ↔
    ∃ parent macros imports blocks, parentOf name d = .ok parent ∧
      collectTop name .empty [] d.body = .ok (macros, imports) ∧
      collectBlocks name .empty (markTop d.body) = .ok blocks ∧
      t = { name, document := d, path, parent, blocks, macros, imports } := by
  unfold ofDocument
  constructor
  · intro h
    obtain ⟨parent, hparent, h⟩ := bind_eq_ok.1 h
    obtain ⟨⟨macros, imports⟩, htop, h⟩ := bind_eq_ok.1 h
    obtain ⟨blocks, hblocks, h⟩ := bind_eq_ok.1 h
    cases h
    exact ⟨parent, macros, imports, blocks, hparent, htop, hblocks, rfl⟩
  · rintro ⟨parent, macros, imports, blocks, hparent, htop, hblocks, rfl⟩
    exact bind_eq_ok.2 ⟨parent, hparent, bind_eq_ok.2 ⟨(macros, imports), htop,
      bind_eq_ok.2 ⟨blocks, hblocks, rfl⟩⟩⟩

/-- What a template has collected of its tree. -/
theorem collected_of_ofDocument (h : ofDocument name d path = .ok t) :
    t.blocks.entries = (d.body.flatMap Node.preorder).filterMap Node.namedBlock? ∧
    t.macros.entries = d.body.filterMap Node.namedMacro? ∧
    t.imports = d.body.filterMap Node.import? := by
  obtain ⟨parent, macros, imports, blocks, -, htop, hblocks, rfl⟩ := ofDocument_eq_ok_iff.1 h
  obtain ⟨-, -, hmacros, himports⟩ := collectTop_eq_ok_iff.1 htop
  obtain ⟨-, -, hblocks⟩ := collectBlocks_eq_ok_iff.1 hblocks
  refine ⟨?_, hmacros, himports⟩
  rw [← map_snd_markTop, List.filterMap_map]
  exact hblocks

/-- The macros and imports of a body can be collected iff the macros have names of their own and
    neither blocks nor macros inside. -/
theorem exists_collectTop_iff {nodes : List Node} :
    (∃ out, collectTop name .empty [] nodes = .ok out) ↔
      (nodes.filterMap Node.macroName?).Nodup ∧
      ∀ n ∈ nodes, n.macroName? ≠ none →
        ∀ m ∈ n.children.flatMap Node.preorder, m.blockName? = none ∧ m.macroName? = none := by
  have hnames : (nodes.filterMap Node.namedMacro?).map Prod.fst =
      nodes.filterMap Node.macroName? := List.map_filterMap
  constructor
  · rintro ⟨⟨macros, imports⟩, h⟩
    obtain ⟨hnodup, hinside, -, -⟩ := collectTop_eq_ok_iff.1 h
    exact ⟨hnames ▸ hnodup, hinside⟩
  · rintro ⟨hnodup, hinside⟩
    exact ⟨(⟨nodes.filterMap Node.namedMacro?, hnames ▸ hnodup⟩, nodes.filterMap Node.import?),
      collectTop_eq_ok_iff.2 ⟨hnames ▸ hnodup, hinside, rfl, rfl⟩⟩

/-- The blocks of a body can be collected iff they have names of their own and no macro stands below
    the top. -/
theorem exists_collectBlocks_iff {body : List Node} :
    (∃ out, collectBlocks name .empty (markTop body) = .ok out) ↔
      ((body.flatMap Node.preorder).filterMap Node.blockName?).Nodup ∧
      ∀ n ∈ body, ∀ m ∈ n.children.flatMap Node.preorder, m.macroName? = none := by
  have hnames : ((markTop body).filterMap fun n => n.2.namedBlock?).map Prod.fst =
      (body.flatMap Node.preorder).filterMap Node.blockName? := by
    rw [← map_snd_markTop, List.filterMap_map]
    exact List.map_filterMap
  have hbelow : (∀ m, (false, m) ∈ markTop body → m.macroName? = none) ↔
      ∀ n ∈ body, ∀ m ∈ n.children.flatMap Node.preorder, m.macroName? = none := by
    simp only [mem_markTop_below]
    exact ⟨fun h n hn m hm => h m ⟨n, hn, hm⟩, fun h m ⟨n, hn, hm⟩ => h n hn m hm⟩
  rw [← hnames, ← hbelow]
  constructor
  · rintro ⟨blocks, h⟩
    obtain ⟨hnodup, htop, -⟩ := collectBlocks_eq_ok_iff.1 h
    exact ⟨hnodup, htop⟩
  · rintro ⟨hnodup, htop⟩
    exact ⟨⟨_, hnodup⟩, collectBlocks_eq_ok_iff.2 ⟨hnodup, htop, rfl⟩⟩

/-- Exactly the well-formed trees become templates. -/
theorem exists_ofDocument_iff : (∃ t, ofDocument name d path = .ok t) ↔ d.WellFormed := by
  rw [Document.wellFormed_iff, ← @exists_parentOf_iff name d,
    ← @exists_collectBlocks_iff name d.body]
  constructor
  · rintro ⟨t, h⟩
    obtain ⟨parent, macros, imports, blocks, hparent, htop, hblocks, -⟩ := ofDocument_eq_ok_iff.1 h
    obtain ⟨hnodup, hinside⟩ := exists_collectTop_iff.1 ⟨_, htop⟩
    exact ⟨⟨parent, hparent⟩, hnodup, hinside, ⟨blocks, hblocks⟩⟩
  · rintro ⟨⟨parent, hparent⟩, hnodup, hinside, ⟨blocks, hblocks⟩⟩
    obtain ⟨⟨macros, imports⟩, htop⟩ := exists_collectTop_iff.2 ⟨hnodup, hinside⟩
    exact ⟨_, ofDocument_eq_ok_iff.2 ⟨parent, macros, imports, blocks, hparent, htop, hblocks, rfl⟩⟩

/-- Exactly the well-formed trees become templates, every other tree is refused as a syntax error of
    the template. A template has the blocks of the whole tree, by their names in document order, and
    the macros and imports of its body in theirs. The walk of a tree, which keeps a stack of the
    nodes that are left, is its preorder and meets each place once, in lexicographic order. -/
theorem ofDocument_outcome (name : String) (d : Document) (path : Option String) :
    ((∃ t, ofDocument name d path = .ok t) ↔ d.WellFormed) ∧
    (∀ e, ofDocument name d path = .error e →
      ∃ message line, e = .syntaxError message (some line) (some name) none) ∧
    (∀ t, ofDocument name d path = .ok t →
      t.blocks.entries = d.node.preorder.filterMap Node.namedBlock? ∧
      t.macros.entries = d.body.filterMap Node.namedMacro? ∧
      t.imports = d.body.filterMap Node.import?) ∧
    ∀ n : Node, n.walk = n.preorder ∧
      ∃ visits, n.Visits visits ∧ visits.map Prod.snd = n.walk := by
  refine ⟨exists_ofDocument_iff, fun e h => ?_, fun t h => ?_, fun n => ?_⟩
  · obtain ⟨message, p, rfl⟩ := ofDocument_eq_error h
    exact ⟨message, p.line, rfl⟩
  · rw [Document.filterMap_preorder Node.namedBlock? rfl fun _ _ => rfl]
    exact collected_of_ofDocument h
  · have hwalk : n.walk = n.preorder := by
      rw [Node.walk, Node.walkStack_eq, List.flatMap_singleton]
    exact ⟨hwalk, hwalk ▸ Node.exists_visits n⟩

end Template

end Stencil
