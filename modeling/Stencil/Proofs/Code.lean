import Stencil.Proofs.Indexing
import Stencil.Proofs.Lineage
import Stencil.Proofs.Simulation.Nesting

/-! The code of templates lies in their trees. Every macro and every block that a template collects
    is a node of its tree, every block of the tree is collected, and the definitions in the chains
    of a resolved set are blocks of its templates. What holds of all nodes of the trees of a set
    holds therefore of everything that its templates start. -/

namespace Stencil

namespace Node

/-- A node is a call of a macro. -/
def isMacroCall : Node → Bool
  | .macroCall .. => true
  | _ => false

/-- The tree of a node of a tree is a part of that tree. -/
theorem preorder_sublist {m n : Node} (hm : m ∈ n.preorder) : m.preorder.Sublist n.preorder := by
  rw [preorder_eq] at hm
  rcases List.mem_cons.1 hm with rfl | hm
  · exact List.Sublist.refl _
  · obtain ⟨c, hc, hm⟩ := List.mem_flatMap.1 hm
    rw [preorder_eq n]
    exact ((preorder_sublist hm).trans (preorder_sublist_below hc)).cons n
termination_by n.preorder.length
decreasing_by exact length_preorder_lt hc

/-- The body of a block that stands in some trees has less nodes, all of which are in the trees. -/
theorem weight_lt_of_mem {ns : List Node} {p : Pos} {name : String} {body : List Node}
    (h : .block p name body ∈ ns.flatMap preorder) :
    weight body < weight ns ∧ body.flatMap preorder ⊆ ns.flatMap preorder := by
  obtain ⟨n, hn, hmem⟩ := List.mem_flatMap.1 h
  have hsub : (block p name body :: body.flatMap preorder).Sublist (ns.flatMap preorder) := by
    have hpart := (preorder_sublist hmem).trans
      (List.sublist_flatten_of_mem (List.mem_map.2 ⟨n, hn, rfl⟩))
    rwa [preorder_eq, ← List.flatMap_def] at hpart
  exact ⟨hsub.length_le, fun m hm => hsub.subset (List.mem_cons_of_mem _ hm)⟩

/-- What holds throughout a tree holds throughout the tree of each of its nodes. -/
theorem Every.of_mem {p : Node → Prop} {m n : Node} (h : n.Every p) (hm : m ∈ n.preorder) :
    m.Every p :=
  fun k hk => h k ((preorder_sublist hm).subset hk)

end Node

/-- The template is one of a set. -/
def Registered (ts : Table Template) (t : Template) : Prop := ∃ name, ts.get? name = some t

theorem Setting.registered (setting : Setting) {name : String} {t : Template}
    (h : setting.templates.get? name = some t) : Registered setting.templates t := ⟨name, h⟩

namespace Lineage

variable {name : String} {t : Template}

/-- What a template has collected of its tree. -/
theorem IsBuilt.collected (h : IsBuilt name t) :
    t.blocks.entries = (t.document.body.flatMap Node.preorder).filterMap Node.namedBlock? ∧
    t.macros.entries = t.document.body.filterMap Node.namedMacro? ∧
    t.imports = t.document.body.filterMap Node.import? := by
  obtain ⟨b, hb, ht⟩ := h
  have hblocks : t.blocks = b.blocks := by rw [ht]
  have hmacros : t.macros = b.macros := by rw [ht]
  have himports : t.imports = b.imports := by rw [ht]
  rw [hblocks, hmacros, himports]
  exact Template.collected_of_ofDocument hb

theorem IsBuilt.macro_mem (h : IsBuilt name t) {n : String} {m : Macro}
    (hm : t.macros.get? n = some m) : ∃ p params body,
      Node.macroDef p n params body ∈ t.document.body ∧
        m = ⟨n, Template.paramsOf params, body⟩ := by
  rw [← Table.mem_entries_iff, h.collected.2.1] at hm
  obtain ⟨c, hc, hentry⟩ := List.mem_filterMap.1 hm
  cases c <;> cases hentry
  exact ⟨_, _, _, hc, rfl⟩

/-- The blocks of a template are those of its tree, wherever they stand. -/
theorem IsBuilt.get?_blocks (h : IsBuilt name t) {n : String} {b : Block} :
    t.blocks.get? n = some b ↔
      ∃ p, Node.block p n b.body ∈ t.document.body.flatMap Node.preorder ∧ b.name = n := by
  rw [← Table.mem_entries_iff, h.collected.1, List.mem_filterMap]
  constructor
  · rintro ⟨c, hc, hentry⟩
    cases c <;> cases hentry
    exact ⟨_, hc, rfl⟩
  · rintro ⟨p, hmem, hname⟩
    exact ⟨_, hmem, by rw [← hname]; rfl⟩

/-! ### Everything that is started -/

variable {p : Node → Prop}

theorem IsBuilt.macro_every (h : IsBuilt name t) (hbody : ∀ n ∈ t.document.body, n.Every p)
    {n : String} {m : Macro} (hm : t.macros.get? n = some m) : m.Every p := by
  obtain ⟨q, params, body, hmem, rfl⟩ := h.macro_mem hm
  have hdef := hbody _ hmem
  refine ⟨fun param hparam d hd => ?_, fun c hc => hdef.child (List.mem_append_right _ hc)⟩
  obtain ⟨c, hc, hparam⟩ := List.mem_filterMap.1 hparam
  have hchild := hdef.child (List.mem_append_left _ hc)
  split at hparam
  · cases hparam
    dsimp only at hd
    exact hchild.child (by simp [Node.children, hd])
  · cases hparam

theorem IsBuilt.block_every (h : IsBuilt name t) (hbody : ∀ n ∈ t.document.body, n.Every p)
    {n : String} {b : Block} (hb : t.blocks.get? n = some b) : ∀ m ∈ b.body, m.Every p := by
  obtain ⟨q, hmem, -⟩ := h.get?_blocks.1 hb
  obtain ⟨top, htop, hmem⟩ := List.mem_flatMap.1 hmem
  exact fun m hm => ((hbody top htop).of_mem hmem).child hm

/-- The templates of a lineage are registered, as is the first one. -/
theorem registered_of_mem_lineageOf {ts : Table Template} {n : String} {t u : Template}
    (hn : ts.get? n = some t) (hu : u ∈ lineageOf ts t) : ∃ m, ts.get? m = some u := by
  rcases List.mem_cons.1 hu with rfl | hu
  · exact ⟨n, hn⟩
  · obtain ⟨m, -, hm⟩ := List.mem_filterMap.1 hu
    exact ⟨m, hm⟩

/-- The chain of a template in a resolved set has the definitions of its lineage. -/
theorem Resolved.chain_eq {ts : Table Template} (h : Resolved ts) {n : String} {t : Template}
    (hn : ts.get? n = some t) (block : String) :
    t.chain block = definitionsOf (lineageOf ts t) block := by
  rw [Template.chain, h.get?_chains hn]
  split
  · rename_i hnil
    rw [hnil]
    rfl
  · rfl

/-- The definitions in the chains of a resolved set are blocks of its templates. -/
theorem Resolved.exists_block {ts : Table Template} (h : Resolved ts) {n : String} {t : Template}
    (hn : ts.get? n = some t) {block : String} {e : String × Block} (he : e ∈ t.chain block) :
    ∃ m u, ts.get? m = some u ∧ u.blocks.get? block = some e.2 := by
  rw [h.chain_eq hn] at he
  obtain ⟨u, hu, he⟩ := List.mem_filterMap.1 he
  obtain ⟨b, hb, rfl⟩ := Option.map_eq_some_iff.1 he
  obtain ⟨m, hm⟩ := registered_of_mem_lineageOf hn hu
  exact ⟨m, u, hm, hb⟩

/-- What holds of all nodes of the trees of a resolved set holds of all that its templates start. -/
theorem Resolved.every {ts : Table Template} (h : Resolved ts)
    (hts : ∀ n t, ts.get? n = some t → ∀ m ∈ t.document.body, m.Every p) {t : Template}
    (ht : Registered ts t) : t.Every p := by
  obtain ⟨n, hn⟩ := ht
  refine ⟨hts n t hn, (h.built n t hn).macro_every (hts n t hn), fun block e he => ?_⟩
  obtain ⟨m, u, hm, hb⟩ := h.exists_block hn he
  exact (h.built m u hm).block_every (hts m u hm) hb

end Lineage

end Stencil
