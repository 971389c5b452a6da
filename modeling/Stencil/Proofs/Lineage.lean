import Mathlib.Data.List.Nodup
import Stencil.Lineage
import Stencil.Proofs.Table

/-! Resolved sets of templates. A *walk* follows parents from a template to one that has none. In a
    *settled* set every template stands under its own name, its recorded ancestors are its walk, a
    block is defined by exactly the templates of its lineage that have it, in their order, and
    every import is registered. Resolution settles each set of templates that were built from
    trees, and what it records depends on the names and the trees alone. -/

namespace Stencil.Lineage

/-- Following parents leads from a template over some registered names to one without a parent. -/
inductive Walk (ts : Table Template) : Template → List String → Prop
  | root {t : Template} (h : t.parent = none) : Walk ts t []
  | up {t q : Template} {p : String} {names : List String} (h : t.parent = some p)
      (hq : ts.get? p = some q) (hw : Walk ts q names) : Walk ts t (p :: names)

/-- The definitions of a block by the templates of a lineage that have it, in their order. -/
def definitionsOf (lineage : List Template) (block : String) : BlockChain :=
  lineage.filterMap fun t => (t.blocks.get? block).map fun b => (t.name, b)

/-- A template and its recorded ancestors. -/
def lineageOf (ts : Table Template) (t : Template) : List Template :=
  t :: t.parents.filterMap ts.get?

/-- The template is the one of its tree, but for what is recorded when it is resolved or merged. -/
def IsBuilt (name : String) (t : Template) : Prop :=
  ∃ b, Template.ofDocument name t.document t.path = .ok b ∧
    t = { b with merged := t.merged, parents := t.parents, chains := t.chains }

/-- Every template is built from its tree under its name; one with nothing to resolve stays so. -/
structure Filed (ts : Table Template) : Prop where
  built : ∀ n t, ts.get? n = some t → IsBuilt n t
  plain : ∀ n t, ts.get? n = some t → isPlain t = true → t.parents = [] ∧ t.chains = .empty

/-- The recorded ancestors and chains are those that parents and blocks of the templates give. -/
structure Resolved (ts : Table Template) : Prop where
  built : ∀ n t, ts.get? n = some t → IsBuilt n t
  walk : ∀ n t, ts.get? n = some t → Walk ts t t.parents
  apart : ∀ n t, ts.get? n = some t → (n :: t.parents).Nodup
  recorded : ∀ n t, ts.get? n = some t → t.chains = definitions (lineageOf ts t)

/-- A resolved set that has whatever its templates import. -/
structure Settled (ts : Table Template) : Prop extends Resolved ts where
  imported : ∀ n t, ts.get? n = some t → ∀ i ∈ t.imports,
    ∃ m, i.1.text? = some m ∧ ts.contains m = true

/-! ### Walks -/

/-- A walk is determined by its start. -/
theorem Walk.unique {ts : Table Template} {t : Template} {a b : List String} (ha : Walk ts t a)
    (hb : Walk ts t b) : a = b := by
  induction ha generalizing b with
  | root h =>
    cases hb with
    | root _ => rfl
    | up h' _ _ => rw [h] at h'; cases h'
  | up h hq _ ih =>
    cases hb with
    | root h' => rw [h] at h'; cases h'
    | up h' hq' hw' =>
      rw [h] at h'
      cases h'
      rw [hq] at hq'
      cases hq'
      rw [ih hw']

/-- Every name on a walk is registered. -/
theorem Walk.registered {ts : Table Template} {t : Template} {names : List String}
    (h : Walk ts t names) : ∀ n ∈ names, ∃ q, ts.get? n = some q := by
  induction h with
  | root _ => simp
  | up _ hq _ ih =>
    intro n hn
    rcases List.mem_cons.1 hn with rfl | hn
    · exact ⟨_, hq⟩
    · exact ih n hn

/-- Where parents agree, so do walks. -/
theorem Walk.transfer {ts us : Table Template} {t u : Template} {names : List String}
    (h : Walk ts t names) (htu : u.parent = t.parent)
    (hs : ∀ n q, ts.get? n = some q → ∃ r, us.get? n = some r ∧ r.parent = q.parent) :
    Walk us u names := by
  induction h generalizing u with
  | root h => exact .root (htu.trans h)
  | up h hq _ ih =>
    obtain ⟨r, hr, hp⟩ := hs _ _ hq
    exact .up (htu.trans h) hr (ih hp)

/-! ### The climb -/

section

variable {ts : Table Template} {origin p : String} {met : List String} {t q : Template}

theorem climb_root (h : t.parent = none) : climb ts origin met t = .ok met := by
  rw [climb, h]

theorem climb_origin (h : t.parent = some origin) :
    climb ts origin met t = .error (.circular origin (met ++ [origin])) := by
  rw [climb, h]
  exact if_pos rfl

theorem climb_missing (h : t.parent = some p) (hne : p ≠ origin) (hget : ts.get? p = none) :
    climb ts origin met t = .error (.missingParent t.name p) := by
  rw [climb, h]
  simp only [if_neg hne]
  split
  · rfl
  · rename_i q hq
    cases hget.symm.trans hq

theorem climb_registered (h : t.parent = some p) (hne : p ≠ origin) (hq : ts.get? p = some q) :
    climb ts origin met t = if p ∈ met then .error (.circular p ((cycle ts q).toOption.getD []))
      else climb ts origin (met ++ [p]) q := by
  rw [climb, h]
  simp only [if_neg hne]
  split
  · rename_i hnone
    cases hq.symm.trans hnone
  · rename_i r hr
    cases hq.symm.trans hr
    simp

end

/-- A climb that succeeds walks on from where it is, past no name twice. -/
theorem walk_of_climb {ts : Table Template} {origin : String} {met out : List String}
    {t : Template} (h : climb ts origin met t = .ok out) :
    ∃ names, out = met ++ names ∧ Walk ts t names ∧ origin ∉ names ∧ names.Nodup ∧
      ∀ n ∈ names, n ∉ met := by
  -- only the last case of the climb goes on; the others are its end or an error
  induction met, t using climb.induct ts origin with
  | case1 met t hp =>
    rw [climb_root hp] at h
    cases h
    exact ⟨[], by simp, .root hp, by simp, by simp, by simp⟩
  | case2 met t hp =>
    rw [climb_origin hp] at h
    cases h
  | case3 met t p hp hne hget =>
    rw [climb_missing hp hne hget] at h
    cases h
  | case4 met t p hp hne q hget hm =>
    rw [climb_registered hp hne hget, if_pos (by simpa using hm)] at h
    cases h
  | case5 met t p hp hne q hget hm ih =>
    have hmem : p ∉ met := by simpa using hm
    rw [climb_registered hp hne hget, if_neg hmem] at h
    obtain ⟨names, rfl, hw, ho, hd, hmet⟩ := ih h
    have hp' : p ∉ names := fun hn => hmet p hn (by simp)
    refine ⟨p :: names, by simp, .up hp hget hw, ?_, ?_, ?_⟩
    · simpa [ho] using fun he => hne he.symm
    · exact List.nodup_cons.2 ⟨hp', hd⟩
    · intro n hn
      rcases List.mem_cons.1 hn with rfl | hn
      · exact hmem
      · exact fun hmem => hmet n hn (by simp [hmem])

theorem walk_of_ancestors {ts : Table Template} {t : Template} {names : List String}
    (h : ancestors ts t = .ok names) : Walk ts t names ∧ (t.name :: names).Nodup := by
  obtain ⟨out, rfl, hw, ho, hd, -⟩ := walk_of_climb h
  exact ⟨by simpa using hw, by simpa using List.nodup_cons.2 ⟨ho, hd⟩⟩

/-! ### Definition chains -/

/-- The chain of a block after some blocks of an owner are added. -/
theorem get?_addBlocks (owner : String) (block : String) :
    ∀ (bs : List (String × Block)) (chains : Table BlockChain), (bs.map Prod.fst).Nodup →
      (bs.foldl (fun cs b => cs.insert b.1 ((cs.get? b.1).getD [] ++ [(owner, b.2)])) chains).get?
        block =
      match Table.lookupIn block bs with
      | none => chains.get? block
      | some b => some ((chains.get? block).getD [] ++ [(owner, b)])
  | [], _, _ => rfl
  | (n, b) :: rest, chains, hd => by
    rw [List.map_cons, List.nodup_cons] at hd
    rw [List.foldl_cons, get?_addBlocks owner block rest _ hd.2, Table.lookupIn, Table.get?_insert]
    by_cases hn : n = block
    · subst hn
      simp [Table.lookupIn_eq_none hd.1]
    · have hb : ¬block = n := fun h => hn h.symm
      simp only [if_neg hn, if_neg hb]

theorem get?_addOwner (chains : Table BlockChain) (owner : Template) (block : String) :
    (addOwner chains owner).get? block =
      match owner.blocks.get? block with
      | none => chains.get? block
      | some b => some ((chains.get? block).getD [] ++ [(owner.name, b)]) :=
  get?_addBlocks owner.name block owner.blocks.entries chains owner.blocks.distinct

/-- A chain has the definitions of the lineage after those that were there before. -/
theorem get?_foldl_addOwner (block : String) : ∀ (lineage : List Template)
    (chains : Table BlockChain), (lineage.foldl addOwner chains).get? block =
      match definitionsOf lineage block with
      | [] => chains.get? block
      | more => some ((chains.get? block).getD [] ++ more)
  | [], _ => rfl
  | t :: rest, chains => by
    rw [List.foldl_cons, get?_foldl_addOwner block rest, get?_addOwner]
    cases hb : t.blocks.get? block with
    | none => simp [definitionsOf, hb]
    | some b =>
      have hcons : definitionsOf (t :: rest) block = (t.name, b) :: definitionsOf rest block := by
        simp [definitionsOf, hb]
      rw [hcons]
      cases definitionsOf rest block <;> simp

/-- The chain of a block are its definitions; a block without one has no chain. -/
theorem get?_definitions (lineage : List Template) (block : String) :
    (definitions lineage).get? block =
      match definitionsOf lineage block with
      | [] => none
      | chain => some chain := by
  rw [definitions, get?_foldl_addOwner]
  cases definitionsOf lineage block <;> simp

/-- Two templates count as the same owner of blocks. -/
def SameOwner (t u : Template) : Prop := t.name = u.name ∧ t.blocks = u.blocks

theorem foldl_addOwner_congr {l l' : List Template} (h : List.Forall₂ SameOwner l l')
    (chains : Table BlockChain) : l.foldl addOwner chains = l'.foldl addOwner chains := by
  induction h generalizing chains with
  | nil => rfl
  | cons ho _ ih =>
    rw [List.foldl_cons, List.foldl_cons, ih, addOwner, addOwner, ho.1, ho.2]

/-- The members of two sets under some names are the same owners if they are so name by name. -/
theorem sameOwner_members {ts us : Table Template} : ∀ names : List String,
    (∀ n ∈ names, ∃ t u, ts.get? n = some t ∧ us.get? n = some u ∧ SameOwner t u) →
      List.Forall₂ SameOwner (names.filterMap ts.get?) (names.filterMap us.get?)
  | [], _ => by simp
  | n :: rest, h => by
    obtain ⟨t, u, ht, hu, ho⟩ := h n (by simp)
    rw [List.filterMap_cons, List.filterMap_cons, ht, hu]
    exact .cons ho (sameOwner_members rest fun m hm => h m (List.mem_cons_of_mem _ hm))

/-! ### Templates and their trees -/

/-- What a template takes from its tree, its name and its path. -/
theorem ofDocument_eq {name : String} {d : Document} {path : Option String} {b : Template}
    (h : Template.ofDocument name d path = .ok b) :
    b = { name, document := d, path, parent := b.parent, blocks := b.blocks, macros := b.macros,
          imports := b.imports } := by
  simp only [Template.ofDocument, bind, Except.bind, pure, Except.pure] at h
  split at h
  · cases h
  split at h
  · cases h
  split at h
  · cases h
  cases h
  rfl

/-- The path has no part in what is taken from the tree. -/
theorem ofDocument_path {name : String} {d : Document} {path other : Option String} {b : Template}
    (h : Template.ofDocument name d path = .ok b) :
    Template.ofDocument name d other = .ok { b with path := other } := by
  simp only [Template.ofDocument, bind, Except.bind, pure, Except.pure] at h ⊢
  split at h
  · cases h
  split at h
  · cases h
  split at h
  · cases h
  cases h
  simp [*]

theorem isBuilt_ofDocument {name : String} {d : Document} {path : Option String} {b : Template}
    (h : Template.ofDocument name d path = .ok b) : IsBuilt name b := by
  have hb := ofDocument_eq h
  refine ⟨b, ?_, rfl⟩
  rw [hb] at h ⊢
  exact h

theorem IsBuilt.name_eq {name : String} {t : Template} (h : IsBuilt name t) : t.name = name := by
  obtain ⟨b, hb, ht⟩ := h
  rw [ht, ofDocument_eq hb]

/-- A built template stays built when it is marked or resolved. -/
theorem IsBuilt.record {name : String} {t : Template} (h : IsBuilt name t) (merged : Bool)
    (parents : List String) (chains : Table BlockChain) :
    IsBuilt name { t with merged, parents, chains } := by
  obtain ⟨b, hb, ht⟩ := h
  refine ⟨b, hb, ?_⟩
  rw [ht]

/-- Templates built under one name from one tree agree in what resolution looks at. -/
theorem IsBuilt.agree {name : String} {t u : Template} (ht : IsBuilt name t) (hu : IsBuilt name u)
    (hd : t.document = u.document) :
    t.parent = u.parent ∧ t.blocks = u.blocks ∧ t.macros = u.macros ∧ t.imports = u.imports := by
  obtain ⟨b, hb, ht⟩ := ht
  obtain ⟨c, hc, hu⟩ := hu
  rw [← hd] at hc
  have hpath : Template.ofDocument name t.document u.path = .ok { b with path := u.path } :=
    ofDocument_path hb
  rw [hpath] at hc
  cases hc
  rw [ht, hu]
  exact ⟨rfl, rfl, rfl, rfl⟩

/-! ### Resolution -/

/-- What resolution records in one template of a filed set. -/
theorem resolveOne_spec {ts : Table Template} {t r : Template}
    (hp : isPlain t = true → t.parents = [] ∧ t.chains = .empty) (h : resolveOne ts t = .ok r) :
    r = { t with parents := r.parents, chains := r.chains } ∧ Walk ts t r.parents ∧
      (t.name :: r.parents).Nodup ∧
      r.chains = definitions (t :: r.parents.filterMap ts.get?) := by
  unfold resolveOne at h
  split at h
  · rename_i hplain
    cases h
    obtain ⟨hps, hcs⟩ := hp hplain
    simp only [isPlain, Bool.and_eq_true, Option.isNone_iff_eq_none, List.isEmpty_iff] at hplain
    refine ⟨rfl, hps ▸ .root hplain.1, by simp [hps], ?_⟩
    rw [hcs, hps]
    simp [definitions, addOwner, hplain.2]
  · simp only [bind, Except.bind, pure, Except.pure] at h
    split at h
    · cases h
    · rename_i parents hparents
      cases h
      obtain ⟨hw, hd⟩ := walk_of_ancestors hparents
      exact ⟨rfl, hw, hd, rfl⟩

/-- Resolution goes through the entries one by one and keeps those put in before. -/
theorem get?_resolveAll {ts : Table Template} (n : String) :
    ∀ (es : List (String × Template)) (resolved rs : Table Template), (es.map Prod.fst).Nodup →
      resolveAll ts resolved es = .ok rs →
      match Table.lookupIn n es with
      | some t => ∃ r, resolveOne ts t = .ok r ∧ rs.get? n = some r
      | none => rs.get? n = resolved.get? n
  | [], _, _, _, h => by
    cases h
    rfl
  | (m, t) :: rest, resolved, rs, hd, h => by
    rw [List.map_cons, List.nodup_cons] at hd
    simp only [resolveAll, bind, Except.bind] at h
    split at h
    · cases h
    rename_i r hr
    have ih := get?_resolveAll n rest _ _ hd.2 h
    rw [Table.lookupIn]
    -- entries have distinct names, so no later one replaces what is put in for `n`
    by_cases hm : m = n
    · subst hm
      rw [Table.lookupIn_eq_none hd.1] at ih
      rw [if_pos rfl]
      exact ⟨r, hr, by simpa using ih⟩
    · have hm' : ¬n = m := fun he => hm he.symm
      rw [if_neg hm]
      cases hl : Table.lookupIn n rest with
      | none => rw [hl] at ih; simpa [hm'] using ih
      | some w => rw [hl] at ih; exact ih

/-- Each template of a set has its resolved form in the resolved set, and there are no others. -/
theorem get?_resolve {ts rs : Table Template} (h : resolve ts = .ok rs) (n : String) :
    match ts.get? n with
    | some t => ∃ r, resolveOne ts t = .ok r ∧ rs.get? n = some r
    | none => rs.get? n = none := by
  have := get?_resolveAll n ts.entries .empty rs ts.distinct h
  rwa [Table.get?_empty] at this

theorem resolved_of_get? {ts rs : Table Template} (h : resolve ts = .ok rs) {n : String}
    {r : Template} (hr : rs.get? n = some r) :
    ∃ t, ts.get? n = some t ∧ resolveOne ts t = .ok r := by
  have hn := get?_resolve h n
  cases ht : ts.get? n with
  | none => rw [ht] at hn; rw [hn] at hr; cases hr
  | some t =>
    rw [ht] at hn
    obtain ⟨q, hq, hrq⟩ := hn
    rw [hr] at hrq
    cases hrq
    exact ⟨t, rfl, hq⟩

/-- What is resolved is filed: a template with nothing to resolve has no ancestors and no chains. -/
theorem Resolved.filed {ts : Table Template} (h : Resolved ts) : Filed ts := by
  refine ⟨h.built, fun n t ht hp => ?_⟩
  simp only [isPlain, Bool.and_eq_true, Option.isNone_iff_eq_none, List.isEmpty_iff] at hp
  have hps : t.parents = [] := (h.walk n t ht).unique (.root hp.1)
  refine ⟨hps, ?_⟩
  rw [h.recorded n t ht, lineageOf, hps]
  simp [definitions, addOwner, hp.2]

/-- Resolution of a filed set gives a resolved one with the same templates. -/
theorem resolved_of_resolve {ts rs : Table Template} (hf : Filed ts) (h : resolve ts = .ok rs) :
    Resolved rs := by
  have hspec : ∀ n r, rs.get? n = some r → ∃ t, ts.get? n = some t ∧
      r = { t with parents := r.parents, chains := r.chains } ∧ Walk ts t r.parents ∧
      (t.name :: r.parents).Nodup ∧
      r.chains = definitions (t :: r.parents.filterMap ts.get?) := by
    intro n r hr
    obtain ⟨t, ht, hone⟩ := resolved_of_get? h hr
    exact ⟨t, ht, resolveOne_spec (hf.plain n t ht) hone⟩
  -- resolution changes neither names, parents nor blocks, so walks carry over to the result
  have hpair : ∀ n t, ts.get? n = some t → ∃ r, rs.get? n = some r ∧ r.parent = t.parent ∧
      r.name = t.name ∧ r.blocks = t.blocks := by
    intro n t ht
    have hn := get?_resolve h n
    rw [ht] at hn
    obtain ⟨r, hone, hr⟩ := hn
    have hrt := (resolveOne_spec (hf.plain n t ht) hone).1
    exact ⟨r, hr, by rw [hrt], by rw [hrt], by rw [hrt]⟩
  refine ⟨fun n r hr => ?_, fun n r hr => ?_, fun n r hr => ?_, fun n r hr => ?_⟩
  · obtain ⟨t, ht, hrt, -⟩ := hspec n r hr
    rw [hrt]
    exact (hf.built n t ht).record _ _ _
  · obtain ⟨t, -, hrt, hw, -⟩ := hspec n r hr
    refine hw.transfer (by rw [hrt]) fun m q hq => ?_
    obtain ⟨p, hp, hparent, -⟩ := hpair m q hq
    exact ⟨p, hp, hparent⟩
  · obtain ⟨t, ht, -, -, hd, -⟩ := hspec n r hr
    rwa [(hf.built n t ht).name_eq] at hd
  · obtain ⟨t, ht, hrt, hw, -, hc⟩ := hspec n r hr
    rw [hc]
    refine foldl_addOwner_congr (.cons ⟨by rw [hrt], by rw [hrt]⟩ (sameOwner_members _ ?_)) _
    intro m hm
    obtain ⟨q, hq⟩ := hw.registered m hm
    obtain ⟨p, hp, -, hname, hblocks⟩ := hpair m q hq
    exact ⟨q, p, hq, hp, hname.symm, hblocks.symm⟩

/-- Two resolved sets with the same trees record the same for each of them. -/
theorem Resolved.determined {ts us : Table Template} (ht : Resolved ts) (hu : Resolved us)
    (h : ∀ n, (ts.get? n).map Template.document = (us.get? n).map Template.document) {n : String}
    {t u : Template} (hn : ts.get? n = some t) (hm : us.get? n = some u) :
    t.parents = u.parents ∧ t.chains = u.chains := by
  -- equal trees give equal parents and blocks, so both sets have the same walks
  have hpair : ∀ n t, ts.get? n = some t → ∃ u, us.get? n = some u ∧ u.parent = t.parent ∧
      SameOwner t u := by
    intro n t hn
    have hd := h n
    rw [hn] at hd
    obtain ⟨u, hu', hdoc⟩ := Option.map_eq_some_iff.1 hd.symm
    obtain ⟨hp, hb, -⟩ := (ht.built n t hn).agree (hu.built n u hu') hdoc.symm
    exact ⟨u, hu', hp.symm, ((ht.built n t hn).name_eq).trans (hu.built n u hu').name_eq.symm, hb⟩
  obtain ⟨v, hv, hp, ho⟩ := hpair n t hn
  rw [hm] at hv
  cases hv
  have hwalk : Walk us u t.parents := (ht.walk n t hn).transfer hp fun m q hq => by
    obtain ⟨r, hr, hrp, -⟩ := hpair m q hq
    exact ⟨r, hr, hrp⟩
  have hparents : t.parents = u.parents := hwalk.unique (hu.walk n u hm)
  refine ⟨hparents, ?_⟩
  rw [ht.recorded n t hn, hu.recorded n u hm, lineageOf, lineageOf, ← hparents]
  refine foldl_addOwner_congr (.cons ho (sameOwner_members _ fun m hmem => ?_)) _
  obtain ⟨q, hq⟩ := (ht.walk n t hn).registered m hmem
  obtain ⟨r, hr, -, hqr⟩ := hpair m q hq
  exact ⟨q, r, hq, hr, hqr⟩

/-- The chain of a block in a resolved set has exactly the definitions of the lineage. -/
theorem Resolved.get?_chains {ts : Table Template} (h : Resolved ts) {n : String} {t : Template}
    (hn : ts.get? n = some t) (block : String) : t.chains.get? block =
      match definitionsOf (lineageOf ts t) block with
      | [] => none
      | chain => some chain := by
  rw [h.recorded n t hn, get?_definitions]

/-! ### Imports -/

theorem imported_of_checkImports {ts : Table Template} {owner : String} :
    ∀ {imports : List (Value × String)}, checkImports ts owner imports = .ok () →
      ∀ i ∈ imports, ∃ m, i.1.text? = some m ∧ ts.contains m = true
  | [], _, i, hi => by simp at hi
  | (target, space) :: rest, h, i, hi => by
    rw [checkImports] at h
    split at h
    · cases h
    split at h
    · rename_i hc
      rcases List.mem_cons.1 hi with rfl | hi
      · cases ht : target.text? with
        | none => simp [ht] at hc
        | some m => exact ⟨m, rfl, by simpa [ht] using hc⟩
      · exact imported_of_checkImports h i hi
    · cases h

theorem imported_of_checkAll {ts : Table Template} :
    ∀ {es : List (String × Template)}, checkAll ts es = .ok () → ∀ e ∈ es, ∀ i ∈ e.2.imports,
      ∃ m, i.1.text? = some m ∧ ts.contains m = true
  | [], _, e, he => by simp at he
  | (n, t) :: rest, h, e, he => by
    simp only [checkAll, bind, Except.bind] at h
    split at h
    · cases h
    rename_i hcheck
    rcases List.mem_cons.1 he with rfl | he
    · exact imported_of_checkImports hcheck
    · exact imported_of_checkAll h e he

/-- The check of a resolved set settles it. -/
theorem settled_of_check {ts : Table Template} (hr : Resolved ts)
    (h : checkMacroImports ts = .ok ()) : Settled ts :=
  ⟨hr, fun n t ht => imported_of_checkAll h (n, t) (Table.mem_entries_iff.2 ht)⟩

end Stencil.Lineage
