import Stencil.Proofs.Lineage
import Stencil.Proofs.Result
import Stencil.Render

/-! Histories of environments. A host changes an environment by *operations*, any of which may fail.
    Whatever the history, the registered set is settled, what is recorded in it depends on the
    registered trees alone, and an operation that fails changes nothing. The step lemma is that one
    operation keeps a settled set settled, which rests on two facts: a candidate set is always
    filed, and resolution settles filed sets. -/

namespace Stencil.Environment

open Lineage

/-- What a host can ask of an environment. Data that is handed to a render may be refused before. -/
inductive Operation where
  | addTemplate (name : String) (tree : Document) (path : Option String)
  | addTemplates (trees : List (String × Document))
  | extend (other : Environment)
  | rebuild
  | checkImports
  | register (kind : CapabilityKind) (c : Capability)
  | update (kind : CapabilityKind) (entries : List (String × Option Behaviour))
  | render (name : String) (data : Except Fault Context)
  | renderTree (tree : Document) (data : Except Fault Context)
  | renderTo (name : String) (data : Except Fault Context) (encoding : Option String)
      (refuses : List Chunk → Option Fault)

/-- A fault as a problem. -/
def ofFault : Except Fault α → Except Problem α
  | .ok a => .ok a
  | .error f => .error (.fault f)

/-- The environment that an operation leads to, if it succeeds, with the text that it answers. -/
def result (env : Environment) : Operation → Except Problem (String × Environment)
  | .addTemplate name tree path => do return ("", ← env.addTemplate name tree path)
  | .addTemplates trees => do return ("", ← env.addTemplates trees)
  | .extend other => do return ("", ← env.extend other)
  | .rebuild => do return ("", ← env.rebuild)
  | .checkImports => do
    Lineage.checkMacroImports env.templates
    return ("", env)
  | .register kind c => do return ("", ← ofFault (env.register kind c))
  | .update kind entries => .ok ("", env.update kind entries)
  | .render name data => do
    let t ← ofTemplate (env.getTemplate name)
    return (← env.render t (← ofFault data), env)
  | .renderTree tree data => do
    let (t, templates) ← env.resolveOneOff tree
    return (← env.renderOneOff t templates (← ofFault data), env)
  | .renderTo name data encoding refuses => do
    let t ← ofTemplate (env.getTemplate name)
    (env.renderTo t (← ofFault data) encoding refuses).1
    return ("", env)

/-- An operation with its answer and the environment it leaves behind. -/
def perform (env : Environment) (op : Operation) : Except Problem String × Environment :=
  match env.result op with
  | .ok (answer, next) => (.ok answer, next)
  | .error p => (.error p, env)

/-- The environments that come about by operations, beginning without templates. An environment that
    another one takes over has a history of its own. -/
inductive Reachable : Environment → Prop
  | fresh {env : Environment} (h : env.templates = .empty) : Reachable env
  | after {env : Environment} {op : Operation} (h : Reachable env)
      (hother : ∀ other, op = .extend other → Reachable other) : Reachable (env.perform op).2

/-! ### Candidate sets -/

theorem filed_insert {ts : Table Template} {name : String} {d : Document} {path : Option String}
    {t : Template} (hf : Filed ts) (ht : Template.ofDocument name d path = .ok t) :
    Filed (ts.insert name t) := by
  have hcases : ∀ n u, (ts.insert name t).get? n = some u →
      (n = name ∧ u = t) ∨ ts.get? n = some u := by
    intro n u hu
    rw [Table.get?_insert] at hu
    split at hu
    · exact Or.inl ⟨‹_›, (Option.some.inj hu).symm⟩
    · exact Or.inr hu
  refine ⟨fun n u hu => ?_, fun n u hu hp => ?_⟩
  · rcases hcases n u hu with ⟨rfl, rfl⟩ | hu
    · exact isBuilt_ofDocument ht
    · exact hf.built n u hu
  · rcases hcases n u hu with ⟨rfl, rfl⟩ | hu
    · rw [ofDocument_eq ht]
      exact ⟨rfl, rfl⟩
    · exact hf.plain n u hu hp

theorem filed_withDocuments {ts : Table Template} {ds : List (String × Document)}
    {us : Table Template} (hf : Filed ts) (h : withDocuments ts ds = .ok us) : Filed us := by
  induction ds generalizing ts with
  | nil => cases h; exact hf
  | cons e rest ih =>
    simp only [withDocuments, bind_eq_ok] at h
    obtain ⟨t, ht, h⟩ := h
    exact ih (filed_insert hf ht) h

/-- A name stands for the registered template, else for the other one's with a mark. -/
theorem get?_merged_eq (ts other : Table Template) (n : String) : (merged ts other).get? n =
    (ts.get? n).or ((other.get? n).map fun u => { u with merged := true }) := by
  -- the fold over the entries, from whatever table it has got to
  have hfold : ∀ (es : List (String × Template)) (ts : Table Template),
      (es.foldl (fun ts e => if ts.contains e.1 then ts else
        ts.insert e.1 { e.2 with merged := true }) ts).get? n =
      (ts.get? n).or ((Table.lookupIn n es).map fun u => { u with merged := true }) := by
    intro es
    induction es with
    | nil => intro ts; simp [Table.lookupIn]
    | cons e rest ih =>
      obtain ⟨m, u⟩ := e
      intro ts
      rw [List.foldl_cons, ih, Table.lookupIn]
      by_cases hm : m = n
      · subst hm
        rw [if_pos rfl]
        cases ht : ts.get? m with
        | some t =>
          have hc : ts.contains m = true := Table.contains_iff.2 ⟨t, ht⟩
          rw [if_pos hc, ht]
          rfl
        | none =>
          have hc : ¬ts.contains m = true := by simp [Table.contains, ht]
          rw [if_neg hc, Table.get?_insert, if_pos rfl]
          rfl
      · rw [if_neg hm]
        split
        · rfl
        · rw [Table.get?_insert, if_neg fun h => hm h.symm]
  exact hfold other.entries ts

/-- A template of a merged set is registered already or comes from the other set with a mark. -/
theorem get?_merged {ts other : Table Template} {n : String} {t : Template}
    (h : (merged ts other).get? n = some t) :
    ts.get? n = some t ∨ ∃ u, other.get? n = some u ∧ t = { u with merged := true } := by
  rw [get?_merged_eq, Option.or_eq_some_iff] at h
  refine h.imp_right fun ⟨_, hother⟩ => ?_
  obtain ⟨u, hu, rfl⟩ := Option.map_eq_some_iff.1 hother
  exact ⟨u, hu, rfl⟩

theorem filed_merged {ts other : Table Template} (hf : Filed ts) (ho : Filed other) :
    Filed (merged ts other) := by
  refine ⟨fun n t ht => ?_, fun n t ht hp => ?_⟩
  · rcases get?_merged ht with ht | ⟨u, hu, rfl⟩
    · exact hf.built n t ht
    · exact (ho.built n u hu).record true u.parents u.chains
  · rcases get?_merged ht with ht | ⟨u, hu, rfl⟩
    · exact hf.plain n t ht hp
    · exact ho.plain n u hu hp

/-! ### One operation -/

theorem settled_empty : Settled .empty :=
  ⟨⟨by simp, by simp, by simp, by simp⟩, by simp⟩

/-- A filed set that resolves is settled by it. -/
theorem settled_of_resolve {ts rs : Table Template} (hf : Filed ts) (h : resolve ts = .ok rs) :
    Settled rs := by
  simp only [resolve, bind_eq_ok, ofConstruction_eq_ok, pure_eq_ok] at h
  obtain ⟨us, hus, ⟨⟩, hcheck, rfl⟩ := h
  exact settled_of_check (resolved_of_resolve hf hus) hcheck

/-- What a commit leaves has a settled set. -/
theorem settled_of_commit {env next : Environment} {ts : Table Template} (hf : Filed ts)
    (h : env.commit ts = .ok next) : Settled next.templates := by
  simp only [commit, bind_eq_ok, pure_eq_ok] at h
  obtain ⟨rs, hrs, rfl⟩ := h
  exact settled_of_resolve hf hrs

/-- Resolving a settled set once more leaves its imports registered. -/
theorem settled_of_rebuild {env next : Environment} (hs : Settled env.templates)
    (h : env.rebuild = .ok next) : Settled next.templates := by
  simp only [rebuild, bind_eq_ok, ofConstruction_eq_ok, pure_eq_ok] at h
  obtain ⟨rs, hrs, rfl⟩ := h
  refine ⟨resolved_of_resolve hs.filed hrs, fun n r hr i hi => ?_⟩
  obtain ⟨t, ht, hone⟩ := resolved_of_get? hrs hr
  have hrt := (resolveOne_spec (hs.filed.plain n t ht) hone).1
  rw [hrt] at hi
  obtain ⟨m, hm, hc⟩ := hs.imported n t ht i hi
  obtain ⟨q, hq⟩ := Table.contains_iff.1 hc
  have hres := get?_resolve hrs m
  rw [hq] at hres
  obtain ⟨p, -, hp⟩ := hres
  exact ⟨m, hm, Table.contains_iff.2 ⟨p, hp⟩⟩

/-- Capabilities are registered apart from templates. -/
theorem templates_register {env next : Environment} {kind : CapabilityKind} {c : Capability}
    (h : ofFault (env.register kind c) = .ok next) : next.templates = env.templates := by
  unfold register at h
  split at h
  · cases h
    cases kind <;> rfl
  · cases h

/-- An operation that succeeds keeps the registered set settled. -/
theorem settled_of_result {env next : Environment} {op : Operation} {answer : String}
    (hs : Settled env.templates) (hother : ∀ other, op = .extend other → Settled other.templates)
    (h : env.result op = .ok (answer, next)) : Settled next.templates := by
  -- only the operations on the set itself commit or rebuild; the others leave it as it was
  cases op with
  | addTemplate name tree path =>
    simp only [result, addTemplate, bind_eq_ok, ofTemplate_eq_ok, pure_eq_ok, Prod.mk.injEq] at h
    obtain ⟨e, ⟨t, ht, hc⟩, -, rfl⟩ := h
    exact settled_of_commit (filed_insert hs.filed ht) hc
  | addTemplates trees =>
    simp only [result, addTemplates, bind_eq_ok, ofTemplate_eq_ok, pure_eq_ok, Prod.mk.injEq] at h
    obtain ⟨e, ⟨us, hus, hc⟩, -, rfl⟩ := h
    exact settled_of_commit (filed_withDocuments hs.filed hus) hc
  | extend other =>
    simp only [result, extend, bind_eq_ok, pure_eq_ok, Prod.mk.injEq] at h
    obtain ⟨e, ⟨d, hd, rfl⟩, -, rfl⟩ := h
    have hset := settled_of_commit (filed_merged hs.filed (hother other rfl).filed) hd
    exact hset
  | rebuild =>
    simp only [result, bind_eq_ok, pure_eq_ok, Prod.mk.injEq] at h
    obtain ⟨e, he, -, rfl⟩ := h
    exact settled_of_rebuild hs he
  | register kind c =>
    simp only [result, bind_eq_ok, pure_eq_ok, Prod.mk.injEq] at h
    obtain ⟨e, he, -, rfl⟩ := h
    rwa [templates_register he]
  | update kind entries =>
    cases h
    cases kind <;> exact hs
  | checkImports =>
    simp only [result, bind_eq_ok, pure_eq_ok, Prod.mk.injEq] at h
    obtain ⟨-, -, -, rfl⟩ := h
    exact hs
  | render name data =>
    simp only [result, bind_eq_ok, pure_eq_ok, Prod.mk.injEq] at h
    obtain ⟨-, -, -, -, -, -, -, rfl⟩ := h
    exact hs
  | renderTree tree data =>
    simp only [result, bind_eq_ok, pure_eq_ok, Prod.mk.injEq] at h
    obtain ⟨-, -, -, -, -, -, -, rfl⟩ := h
    exact hs
  | renderTo name data encoding refuses =>
    simp only [result, bind_eq_ok, pure_eq_ok, Prod.mk.injEq] at h
    obtain ⟨-, -, -, -, -, -, -, rfl⟩ := h
    exact hs

/-- Templates are added apart from capabilities. -/
theorem registry_addTemplates (env : Environment) (trees : List (String × Document))
    (kind : CapabilityKind) :
    (perform env (.addTemplates trees)).2.registry kind = env.registry kind := by
  unfold perform
  split
  · rename_i answer next h
    simp only [result, addTemplates, commit, bind_eq_ok, pure_eq_ok, Prod.mk.injEq] at h
    obtain ⟨_, ⟨_, _, _, _, rfl⟩, -, rfl⟩ := h
    cases kind <;> rfl
  · rfl

/-! ### Histories -/

/-- An operation that fails changes nothing. -/
theorem perform_of_error {env : Environment} {op : Operation} {p : Problem}
    (h : (env.perform op).1 = .error p) : (env.perform op).2 = env := by
  unfold perform at h ⊢
  split at h
  · cases h
  · rfl

/-- The step: an operation keeps the registered set settled, whether it succeeds or fails. -/
theorem settled_perform {env : Environment} {op : Operation} (hs : Settled env.templates)
    (hother : ∀ other, op = .extend other → Settled other.templates) :
    Settled (env.perform op).2.templates := by
  unfold perform
  split
  · rename_i answer next h
    exact settled_of_result hs hother h
  · exact hs

/-- The run: by induction on its history, every environment has a settled set. -/
theorem Reachable.settled {env : Environment} (h : Reachable env) : Settled env.templates := by
  induction h with
  | fresh h => rw [h]; exact settled_empty
  | after _ _ ih ihother => exact settled_perform ih ihother

/-- What an environment renders, and the setting of the render: a registered template among the
    registered ones, or a tree of its own among these and itself. -/
inductive Renders (env : Environment) : Template → Setting → Prop
  | registered {name : String} {t : Template} (h : env.templates.get? name = some t) :
      Renders env t (Render.setting env t)
  | oneOff {d : Document} {t : Template} {templates : Table Template}
      (h : env.resolveOneOff d = .ok (t, templates)) :
      Renders env t { env, templates, escaping := env.shouldAutoescape t }

/-- Renders take place in the environment, in a settled set that has the template. -/
theorem Renders.settled {env : Environment} {t : Template} {setting : Setting}
    (h : env.Renders t setting) (hr : Reachable env) : setting.env = env ∧
      Settled setting.templates ∧ ∃ name, setting.templates.get? name = some t := by
  cases h with
  | @registered name _ h => exact ⟨rfl, hr.settled, name, h⟩
  | oneOff h =>
    simp only [resolveOneOff, bind_eq_ok, ofTemplate_eq_ok, pure_eq_ok, Prod.mk.injEq] at h
    obtain ⟨u, hu, ts, hts, rfl, rfl⟩ := h
    have hfiled := filed_insert hr.settled.filed hu
    refine ⟨rfl, settled_of_resolve hfiled hts, oneOffName, ?_⟩
    simp only [resolve, bind_eq_ok, ofConstruction_eq_ok, pure_eq_ok] at hts
    obtain ⟨us, hus, -, -, rfl⟩ := hts
    have hres := get?_resolve hus oneOffName
    rw [Table.get?_insert, if_pos rfl] at hres
    obtain ⟨r, -, hr⟩ := hres
    rw [hr]
    rfl

/-- The trees of a set for one tree are that tree and those of the registered set. -/
theorem document_of_resolveOneOff {env : Environment} {d : Document} {t u : Template}
    {templates : Table Template} {n : String} (hs : Settled env.templates)
    (h : env.resolveOneOff d = .ok (t, templates)) (hu : templates.get? n = some u) :
    u.document = d ∨ ∃ w, env.templates.get? n = some w ∧ u.document = w.document := by
  simp only [resolveOneOff, resolve, bind_eq_ok, ofTemplate_eq_ok, ofConstruction_eq_ok, pure_eq_ok,
    Prod.mk.injEq] at h
  obtain ⟨own, hown, ts, ⟨us, hus, -, -, rfl⟩, -, rfl⟩ := h
  obtain ⟨w, hw, hone⟩ := resolved_of_get? hus hu
  have hplain := (filed_insert hs.filed hown).plain n w hw
  rw [(resolveOne_spec hplain hone).1]
  rw [Table.get?_insert] at hw
  split at hw
  · rw [← Option.some.inj hw]
    exact Or.inl (congrArg Template.document (ofDocument_eq hown))
  · exact Or.inr ⟨w, hw, rfl⟩

/-- A tree that resolves on its own is rendered in a set that has no other tree. -/
theorem exists_oneOff (host : Host) (autoescape escaping : Bool) (d : Document)
    (h : ((forOneOff host autoescape).resolveOneOff d).toOption.map
      (fun r => (forOneOff host autoescape).shouldAutoescape r.1) = some escaping) :
    ∃ t templates, (forOneOff host autoescape).resolveOneOff d = .ok (t, templates) ∧
      (forOneOff host autoescape).Renders t
        { env := forOneOff host autoescape, templates, escaping } ∧
      ∀ name u, templates.get? name = some u → u.document = d := by
  cases hd : (forOneOff host autoescape).resolveOneOff d with
  | error p =>
    rw [hd] at h
    cases h
  | ok r =>
    obtain ⟨t, templates⟩ := r
    rw [hd] at h
    obtain rfl := Option.some.inj h
    refine ⟨t, templates, rfl, .oneOff hd, fun name u hu => ?_⟩
    have hr : Reachable (forOneOff host autoescape) := .fresh rfl
    rcases document_of_resolveOneOff hr.settled hd hu with htree | ⟨w, hw, -⟩
    · exact htree
    · cases hw

/-- Whatever the history of an environment: each registered template stands under its name; its
    recorded ancestors are the walk over parents, which meets no name twice; a block has a chain iff
    the lineage defines it, and the chain are these definitions in the order of the lineage; what
    a template imports is registered. What is recorded only depends on the registered trees, and an
    operation that fails leaves the environment as it was. -/
theorem registered_set_invariant {env : Environment} (h : Reachable env) :
    (∀ n t, env.templates.get? n = some t →
      t.name = n ∧ Walk env.templates t t.parents ∧ (n :: t.parents).Nodup ∧
      (∀ block, t.chain block = definitionsOf (lineageOf env.templates t) block ∧
        (t.chains.contains block = true ↔
          definitionsOf (lineageOf env.templates t) block ≠ [])) ∧
      ∀ i ∈ t.imports, ∃ m, i.1.text? = some m ∧ env.templates.contains m = true) ∧
    (∀ other, Reachable other →
      (∀ n, (env.templates.get? n).map Template.document =
        (other.templates.get? n).map Template.document) →
      ∀ n t u, env.templates.get? n = some t → other.templates.get? n = some u →
        t.parents = u.parents ∧ t.chains = u.chains) ∧
    (∀ op p, (env.perform op).1 = .error p → (env.perform op).2 = env) := by
  have hs := h.settled
  refine ⟨fun n t ht => ⟨(hs.built n t ht).name_eq, hs.walk n t ht, hs.apart n t ht,
    fun block => ?_, hs.imported n t ht⟩, fun other ho hd n t u ht hu =>
      hs.determined ho.settled.toResolved hd ht hu, fun op p => perform_of_error⟩
  have hc := hs.get?_chains ht block
  rw [Template.chain, Table.contains, hc]
  cases definitionsOf (lineageOf env.templates t) block <;> simp

/-- A tree with a block that others may define anew. -/
def baseTree : Document :=
  { body := [.data {} "[", .block {} "main" [.data {} "-"], .data {} "]"] }

/-- A tree that extends the base and goes on with its block. -/
def pageTree : Document :=
  { body :=
      [.macroDef {} "show" [.param {} "x" none] [.output {} (.name {} "x")],
       .block {} "main" [.super {}, .output {} (.macroCall {} "self" "show" [.name {} "x"] [])]]
    parent := some ({}, .text "base.html") }

/-- The environment after both trees are added at once, the derived one first. -/
def site : Environment :=
  (perform {} (.addTemplates [("page.html", pageTree), ("base.html", baseTree)])).2

theorem reachable_site : Reachable site := .after (.fresh rfl) (by simp)

theorem registered_set_invariant_site : ∃ t, site.templates.get? "page.html" = some t ∧
    t.parents = ["base.html"] ∧ Walk site.templates t t.parents ∧
    (t.chain "main").map Prod.fst = ["page.html", "base.html"] ∧
    t.chain "main" = definitionsOf (lineageOf site.templates t) "main" := by
  have hnames : (site.templates.get? "page.html").map (fun t =>
      (t.parents, (t.chain "main").map Prod.fst)) =
      some (["base.html"], ["page.html", "base.html"]) := by decide +kernel
  obtain ⟨t, ht, hn⟩ := Option.map_eq_some_iff.1 hnames
  obtain ⟨-, hw, -, hc, -⟩ := (registered_set_invariant reachable_site).1 _ t ht
  exact ⟨t, ht, congrArg Prod.fst hn, hw, congrArg Prod.snd hn, (hc "main").1⟩

end Stencil.Environment
