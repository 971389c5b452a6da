import Stencil.Proofs.Agreement
import Stencil.Proofs.History

/-! Templates that only extend another one. Such a template defines no block and imports nothing, so
    it has no part in what its lineage means: the definitions of each block are those of its parent,
    a namespace that is looked up from it is found from its parent, and both end at the same root.
    As a target of a render it counts as its parent therefore, and to render it is to render its
    parent. -/

namespace Stencil

namespace Lineage

variable {ts : Table Template} {n p : String} {t q : Template}

/-- A tree without a block gives a template without one. -/
theorem IsBuilt.get?_blocks_eq_none (h : IsBuilt n t)
    (hbare : ∀ pos name body, .block pos name body ∉ t.document.body.flatMap Node.preorder)
    (block : String) : t.blocks.get? block = none := by
  rw [Option.eq_none_iff_forall_ne_some]
  intro b hb
  obtain ⟨pos, hmem, -⟩ := h.get?_blocks.1 hb
  exact hbare pos block b.body hmem

/-- A tree that imports nothing at its top gives a template that imports nothing. -/
theorem IsBuilt.imports_eq_nil (h : IsBuilt n t)
    (hbare : ∀ pos target space, .importing pos target space ∉ t.document.body) :
    t.imports = [] := by
  rw [h.collected.2.2, List.filterMap_eq_nil_iff]
  intro m hm
  cases m <;> first | rfl | exact absurd hm (hbare _ _ _)

/-- The ancestors of a template are its parent and the ancestors of that. -/
theorem Resolved.parents_eq (hset : Resolved ts) (ht : ts.get? n = some t) (hp : t.parent = some p)
    (hq : ts.get? p = some q) : t.parents = p :: q.parents :=
  (hset.walk n t ht).unique (.up hp hq (hset.walk p q hq))

/-- The definitions of a block by a lineage are those of the parent's if the first template has none
    of its own. -/
theorem Resolved.chain_of_parent (hset : Resolved ts) (ht : ts.get? n = some t)
    (hp : t.parent = some p) (hq : ts.get? p = some q) (hblocks : ∀ block, t.blocks.get? block = none)
    (block : String) : t.chain block = q.chain block := by
  have hlineage : lineageOf ts t = t :: lineageOf ts q := by
    rw [lineageOf, hset.parents_eq ht hp hq, List.filterMap_cons, hq]
    rfl
  calc t.chain block = definitionsOf (t :: lineageOf ts q) block := by
        rw [hset.chain_eq ht, hlineage]
    _ = definitionsOf (lineageOf ts q) block := by
        rw [definitionsOf, List.filterMap_cons, hblocks]
        rfl
    _ = q.chain block := (hset.chain_eq hq block).symm

end Lineage

namespace Render

open Lineage

variable {setting : Setting} {n p : String} {t q : Template}

/-- A namespace is found from a template that imports nothing where it is found from its parent. -/
theorem searchFrom_of_parent (himports : t.imports = []) (hparents : t.parents = p :: q.parents)
    (hq : setting.templates.get? p = some q) (space : String) (otherwise : Render Template) :
    searchFrom setting space t otherwise = searchFrom setting space q otherwise := by
  have hspace : searchSpaces.spaceIn space t = none := by
    unfold searchSpaces.spaceIn Template.namespaces
    rw [himports]
    rfl
  have htemplate : setting.template p = .ok q := by
    unfold Setting.template
    rw [hq]
  unfold searchFrom
  rw [hspace, hparents, searchSpaces, htemplate]
  dsimp only [Environment.ofTemplate, ofProblem]
  rw [bind_bind, done_bind]
  cases searchSpaces.spaceIn space q <;> rfl

/-- Both renders begin with the body of the same root. -/
theorem runTemplate_of_parent (hparents : t.parents = p :: q.parents)
    (hq : setting.templates.get? p = some q) (calls : Calls) :
    runTemplate calls setting t = runTemplate calls setting q := by
  have htemplate : setting.template p = .ok q := by
    unfold Setting.template
    rw [hq]
  unfold runTemplate
  rw [hparents, List.getLast?_cons]
  cases q.parents.getLast? with
  | none =>
    dsimp only [Option.getD_none]
    rw [htemplate]
    rfl
  | some root => rfl

/-- In one setting, a template without blocks and imports counts as its parent. -/
def parentAgreement (hset : Resolved setting.templates) (ht : setting.templates.get? n = some t)
    (hp : t.parent = some p) (hq : setting.templates.get? p = some q)
    (hblocks : ∀ block, t.blocks.get? block = none) (himports : t.imports = []) :
    Agreement setting setting where
  node := fun _ => True
  code := fun _ => Template.every_true _
  parent := fun _ _ => rfl
  imported := fun _ _ => rfl
  owner := fun _ _ => rfl
  own := fun _ => rfl
  included := fun _ => rfl
  capabilities := .refl setting
  called := fun _ _ _ => rfl
  escape := rfl
  escaping := rfl
  macroLimit := rfl
  includeLimit := rfl
  target := fun x y => Registered setting.templates y ∧ (x = y ∨ (x = t ∧ y = q))
  known := by
    rintro x y ⟨hy, rfl | ⟨rfl, rfl⟩⟩
    · exact ⟨hy, hy⟩
    · exact ⟨⟨n, ht⟩, hy⟩
  chain := by
    rintro x y ⟨-, rfl | ⟨rfl, rfl⟩⟩
    · rfl
    · exact funext (hset.chain_of_parent ht hp hq hblocks)
  search := by
    rintro x y ⟨-, rfl | ⟨rfl, rfl⟩⟩ space otherwise
    · rfl
    · exact searchFrom_of_parent himports (hset.parents_eq ht hp hq) hq space otherwise
  same := fun hx => ⟨hx, .inl rfl⟩

/-- A template that only extends another one is transparent: in every resolved set, if it defines no
    block and imports nothing at its top, and if its output is escaped iff that of its parent is, it
    renders as its parent does, to the same chunks and with the same result or the same problem,
    whatever the data, the output and the rest of the lineage. -/
theorem extends_only_transparent {env : Environment} {templates : Table Template}
    (hset : Resolved templates) (ht : templates.get? n = some t) (hp : t.parent = some p)
    (hq : templates.get? p = some q)
    (hblocks : ∀ pos name body, .block pos name body ∉ t.document.body.flatMap Node.preorder)
    (himports : ∀ pos target space, .importing pos target space ∉ t.document.body)
    (hescaping : env.shouldAutoescape t = env.shouldAutoescape q) (context : Context)
    (sink : Sink) :
    let own := run { env, templates, escaping := env.shouldAutoescape t } t context sink
    let parents := run { env, templates, escaping := env.shouldAutoescape q } q context sink
    own.result = parents.result ∧ own.chunks = parents.chunks := by
  have hbuilt := hset.built n t ht
  have hparents : t.parents = p :: q.parents := hset.parents_eq ht hp hq
  rw [← hescaping]
  let setting : Setting := { env, templates, escaping := env.shouldAutoescape t }
  have hregistered : setting.templates.get? p = some q := hq
  -- the template and its parent count as the same target, because their chains and spaces agree
  let A : Agreement setting setting := parentAgreement hset ht hp hregistered
    (hbuilt.get?_blocks_eq_none hblocks) (hbuilt.imports_eq_nil himports)
  have hcounts : A.target t q := ⟨⟨p, hq⟩, .inr ⟨rfl, rfl⟩⟩
  exact A.run_eq hcounts (runTemplate_of_parent hparents hregistered) context sink

end Render

namespace Environment

open Render Lineage

/-- A tree that only extends the page, with text that stands outside of blocks. -/
def leafTree : Document :=
  { body := [.data {} "not rendered", .macroDef {} "unused" [] []]
    parent := some ({}, .text "page.html") }

/-- The site with the leaf. -/
def grownSite : Environment := (perform site (.addTemplates [("leaf.html", leafTree)])).2

theorem reachable_grownSite : Reachable grownSite := .after reachable_site (by simp)

/-- The leaf renders as the page does: with the block of the page, whose macro it does not have. -/
theorem extends_only_transparent_leaf : ∃ t q,
    grownSite.templates.get? "leaf.html" = some t ∧
    grownSite.templates.get? "page.html" = some q ∧ t.parent = some "page.html" ∧
    (∀ pos name body, .block pos name body ∉ t.document.body.flatMap Node.preorder) ∧
    (∀ pos target space, .importing pos target space ∉ t.document.body) ∧
    grownSite.shouldAutoescape t = grownSite.shouldAutoescape q ∧
    (grownSite.render t ⟨[(.text "x", .text "<b>")]⟩).toOption = some "[-&lt;b&gt;]" ∧
    ∀ context sink,
      (run (Render.setting grownSite t) t context sink).result =
        (run (Render.setting grownSite q) q context sink).result ∧
      (run (Render.setting grownSite t) t context sink).chunks =
        (run (Render.setting grownSite q) q context sink).chunks := by
  have hleaf : (grownSite.templates.get? "leaf.html").map (fun t =>
      (t.parent, (t.document.body.flatMap Node.preorder).all (·.className != "Block"),
        (t.document.body.filterMap Node.import?).isEmpty, grownSite.shouldAutoescape t,
        (grownSite.render t ⟨[(.text "x", .text "<b>")]⟩).toOption)) =
      some (some "page.html", true, true, true, some "[-&lt;b&gt;]") := by decide +kernel
  have hpage : (grownSite.templates.get? "page.html").map grownSite.shouldAutoescape =
      some true := by decide +kernel
  obtain ⟨t, ht, hleaf⟩ := Option.map_eq_some_iff.1 hleaf
  obtain ⟨q, hq, hpage⟩ := Option.map_eq_some_iff.1 hpage
  simp only [Prod.mk.injEq] at hleaf
  obtain ⟨hp, hnodes, himports, hescaping, hrender⟩ := hleaf
  have hblocks : ∀ pos name body,
      .block pos name body ∉ t.document.body.flatMap Node.preorder := by
    intro pos name body hmem
    exact absurd (List.all_eq_true.1 hnodes _ hmem) (by simp [Node.className])
  have hnone : ∀ pos target space, .importing pos target space ∉ t.document.body := by
    intro pos target space hmem
    have hfound : (target, space) ∈ t.document.body.filterMap Node.import? :=
      List.mem_filterMap.2 ⟨_, hmem, rfl⟩
    rw [List.isEmpty_iff.1 himports] at hfound
    cases hfound
  have hsame : grownSite.shouldAutoescape t = grownSite.shouldAutoescape q :=
    hescaping.trans hpage.symm
  exact ⟨t, q, ht, hq, hp, hblocks, hnone, hsame, hrender,
    extends_only_transparent reachable_grownSite.settled.toResolved ht hp hq hblocks hnone hsame⟩

end Environment

end Stencil
