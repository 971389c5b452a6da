import Stencil.Proofs.Agreement
import Stencil.Proofs.Extension
import Stencil.Proofs.Passing
import Stencil.Proofs.References

/-! Adding a template that nothing refers to. The set as it was is within the set with the new
    template, and each template in it keeps its record. Its code looks up registered names only,
    those of parents, of owners of definitions and of imports, and the names of its includes, none
    of which is the new one. So the renders before and after stay beside each other. Capabilities
    have no part in this as long as they do not render templates themselves. -/

namespace Stencil

/-- The capability answers the same whatever it could have rendered. -/
def Capability.Detached (c : Capability) : Prop :=
  ∀ args named render render', c.call { args, named, render } =
    c.call { args, named, render := render' }

/-- No registered capability depends on what it could render. -/
def Environment.Detached (env : Environment) : Prop :=
  ∀ kind name c, (env.registry kind).get? name = some c → c.Detached

/-! ### The built-in capabilities -/

namespace Capability

/-- The behaviour is the same whatever it could have rendered. -/
def Apart (f : Behaviour) : Prop :=
  ∀ args named render render', f { args, named, render } = f { args, named, render := render' }

theorem apart_filters :
    ∀ e ∈ Filter.ofTexts ++ Filter.ofNumbers ++ Filter.ofArrays ++ Filter.ofValues,
      Apart e.2 := by
  simp only [Filter.ofTexts, Filter.ofNumbers, Filter.ofArrays, Filter.ofValues, List.cons_append,
    List.nil_append, List.forall_mem_cons, List.not_mem_nil, false_implies, implies_true, and_true]
  and_intros <;> exact fun _ _ _ _ => rfl

theorem apart_testers : ∀ e ∈ Tester.behaviours, Apart e.2 := by
  simp only [Tester.behaviours, List.forall_mem_cons, List.not_mem_nil, false_implies,
    implies_true, and_true]
  and_intros <;> exact fun _ _ _ _ => rfl

theorem apart_functions (host : Host) : ∀ e ∈ Function.behaviours host, Apart e.2 := by
  simp only [Function.behaviours, List.forall_mem_cons, List.not_mem_nil, false_implies,
    implies_true, and_true]
  and_intros <;> exact fun _ _ _ _ => rfl

theorem detached_of_capabilities {entries : List (String × Behaviour)} {isSafe : String → Bool}
    (hentries : ∀ e ∈ entries, Apart e.2) {name : String} {c : Capability}
    (h : (capabilities entries isSafe).get? name = some c) : c.Detached := by
  obtain ⟨f, hf, rfl⟩ := mem_of_capabilities h
  exact hentries _ hf

end Capability

/-- The built-in capabilities render nothing. -/
theorem Environment.detached_withBuiltins (env : Environment) (host : Host) :
    (env.withBuiltins host).Detached := by
  intro kind name c hc
  cases kind with
  | filter => exact Capability.detached_of_capabilities Capability.apart_filters hc
  | test =>
    have hget : (capabilities Tester.behaviours fun _ => false).get? name = some c := hc
    exact Capability.detached_of_capabilities Capability.apart_testers hget
  | function =>
    have hget : (capabilities (Function.behaviours host) fun _ => false).get? name = some c := hc
    exact Capability.detached_of_capabilities (Capability.apart_functions host) hget

/-! ### The set with one more template -/

/-- The node includes no template under a name. -/
def Node.Spares (name : String) (n : Node) : Prop :=
  ∀ p names ignoreMissing, n = .include p names ignoreMissing → name ∉ names

namespace Environment

open Lineage Render

variable {env next : Environment} {name : String} {d : Document} {path : Option String}

/-- An addition leaves the settings and the capabilities alone, and resolves one more template. -/
theorem addTemplate_eq_ok (h : env.addTemplate name d path = .ok next) :
    next = { env with templates := next.templates } ∧
      ∃ t, Template.ofDocument name d path = .ok t ∧
        resolve (env.templates.insert name t) = .ok next.templates := by
  simp only [addTemplate, commit, bind_eq_ok, ofTemplate_eq_ok, pure_eq_ok] at h
  obtain ⟨t, ht, rs, hrs, rfl⟩ := h
  exact ⟨rfl, t, ht, hrs⟩

/-- A template of a new name leaves the other ones as they are, and there is no further one. -/
theorem templates_addTemplate (hs : Settled env.templates)
    (h : env.addTemplate name d path = .ok next) (hnew : env.templates.get? name = none) :
    Within env.templates next.templates ∧
      ∀ n, n ≠ name → next.templates.get? n = env.templates.get? n := by
  obtain ⟨-, t, ht, hres⟩ := addTemplate_eq_ok h
  have hfiled : Filed (env.templates.insert name t) := filed_insert hs.filed ht
  have hother : ∀ n, n ≠ name → (env.templates.insert name t).get? n = env.templates.get? n := by
    intro n hn
    rw [Table.get?_insert, if_neg hn]
  have hinsert : Within env.templates (env.templates.insert name t) := by
    intro n u hu
    have hn : n ≠ name := by
      rintro rfl
      rw [hnew] at hu
      cases hu
    rw [hother n hn, hu]
  -- what was registered is part of the candidate set, so resolution records the same for it
  have hwithin : Within env.templates next.templates :=
    hinsert.get?_resolve hs.toResolved hfiled (resolve_of_resolve hres)
  refine ⟨hwithin, fun n hn => ?_⟩
  cases hu : env.templates.get? n with
  | some u => exact hwithin n u hu
  | none =>
    have hget := get?_resolve (resolve_of_resolve hres) n
    rw [hother n hn, hu] at hget
    exact hget

end Environment

namespace Lineage.Within

open Render

variable (left right : Setting)

/-- The first template of some names is the same if each name stands for the same. -/
theorem findSome?_congr {ts us : Table Template} : ∀ {names : List String},
    (∀ n ∈ names, ts.get? n = us.get? n) → names.findSome? ts.get? = names.findSome? us.get?
  | [], _ => rfl
  | n :: rest, h => by
    rw [List.findSome?_cons, List.findSome?_cons, h n (List.mem_cons_self ..),
      findSome?_congr fun m hm => h m (List.mem_cons_of_mem _ hm)]

/-- Names that are registered already stand for the same in the larger set. -/
theorem template_eq (h : Within left.templates right.templates) {name : String}
    (hname : ∃ u, left.templates.get? name = some u) :
    left.template name = right.template name := by
  obtain ⟨u, hu⟩ := hname
  unfold Setting.template
  rw [hu, h name u hu]

theorem templateOf_eq (h : Within left.templates right.templates) {v : Value}
    (hv : ∃ name u, v.text? = some name ∧ left.templates.get? name = some u) :
    left.templateOf v = right.templateOf v := by
  obtain ⟨name, u, hname, hu⟩ := hv
  unfold Setting.templateOf
  rw [hname, Option.bind_some, Option.bind_some, hu, h name u hu]

end Lineage.Within

namespace Render

open Lineage Environment

variable {env next : Environment} {name : String} {t : Template}

/-- A setting agrees with the one in which a template is added that is not included. -/
def additionAgreement (hs : Settled env.templates) (hwithin : Within env.templates next.templates)
    (hother : ∀ n, n ≠ name → next.templates.get? n = env.templates.get? n)
    (hnext : next = { env with templates := next.templates })
    (hspares : ∀ n t, env.templates.get? n = some t → ∀ m ∈ t.document.body, m.Every (·.Spares name))
    (hdetached : env.Detached) (t : Template) :
    Agreement (Render.setting env t) (Render.setting next t) where
  node := Node.Spares name
  code := fun ht => hs.toResolved.every hspares ht
  parent := fun {_ parent} ht hmem =>
    hwithin.template_eq (setting env t) (setting next t)
      (hs.parents_registered ht parent hmem)
  imported := fun ht hv =>
    hwithin.templateOf_eq (setting env t) (setting next t)
      (hs.space_registered ht hv)
  owner := fun {_ block e} ht he =>
    hwithin.template_eq (setting env t) (setting next t)
      ((hs.chain_owned ht block).owner e he)
  own := fun {u} hu => by
    obtain ⟨n, hn⟩ := hu
    refine hwithin.template_eq (setting env t) (setting next t) ⟨u, ?_⟩
    rwa [(hs.built n u hn).name_eq]
  included := fun {p names ignoreMissing} hnode => by
    refine Within.findSome?_congr fun n hn => (hother n ?_).symm
    rintro rfl
    exact hnode p names ignoreMissing rfl hn
  capabilities := fun kind n => by
    rw [hnext]
    cases kind <;> rfl
  called := fun hc _ _ => hdetached _ _ _ (lookup_eq_ok hc) _ _ _ _
  escape := by rw [hnext]; rfl
  escaping := by rw [hnext]; rfl
  macroLimit := by rw [hnext]; rfl
  includeLimit := by rw [hnext]; rfl
  target := fun x y => Registered env.templates y ∧ x = y
  known := by
    rintro x _ ⟨hx, rfl⟩
    exact ⟨hx, hx⟩
  chain := by
    rintro x _ ⟨-, rfl⟩
    rfl
  search := by
    rintro x _ ⟨-, rfl⟩ _ _
    rfl
  same := fun hx => ⟨hx, rfl⟩

/-- Adding an unrelated template changes no other render. Whatever the history of the environment, if
    a template of a new name is added that no registered tree includes, then each registered
    template stays what it is and renders as before, to the same chunks and with the same result or
    the same problem, for all data and every output, unless a capability renders templates itself. -/
theorem unrelated_addition {d : Document} {path : Option String} (hr : Reachable env)
    (hadd : env.addTemplate name d path = .ok next) (hnew : env.templates.get? name = none)
    (hunused : ∀ n t, env.templates.get? n = some t → ∀ p names ignoreMissing,
      .include p names ignoreMissing ∈ t.document.body.flatMap Node.preorder → name ∉ names)
    (hdetached : env.Detached) {n : String} (ht : env.templates.get? n = some t) :
    next.templates.get? n = some t ∧ ∀ context sink,
      (run (setting env t) t context sink).result = (run (setting next t) t context sink).result ∧
      (run (setting env t) t context sink).chunks = (run (setting next t) t context sink).chunks := by
  have hs := hr.settled
  obtain ⟨hnext, -⟩ := addTemplate_eq_ok hadd
  obtain ⟨hwithin, hother⟩ := templates_addTemplate hs hadd hnew
  have hspares : ∀ n t, env.templates.get? n = some t →
      ∀ m ∈ t.document.body, m.Every (·.Spares name) := by
    rintro n t ht m hm k hk p names ignoreMissing rfl
    exact hunused n t ht p names ignoreMissing (List.mem_flatMap.2 ⟨m, hm, hk⟩)
  let A := additionAgreement hs hwithin hother hnext hspares hdetached t
  have hsame : A.target t t := A.same ⟨n, ht⟩
  exact ⟨hwithin n t ht, A.run_eq hsame fun _ => rfl⟩

end Render

namespace Environment

open Render

/-- The page and its base, in an environment with the built-in capabilities. -/
def shelf : Environment :=
  (perform (withBuiltins {} {}) (.addTemplates [("page.html", pageTree), ("base.html", baseTree)])).2

theorem reachable_shelf : Reachable shelf := .after (.fresh rfl) (by simp)

/-- A tree that takes part in what is there: it extends the page, imports it and includes it. -/
def noteTree : Document :=
  { body := [.importing {} (.text "page.html") "p",
      .block {} "main" [.include {} ["page.html"] false, .super {}]]
    parent := some ({}, .text "page.html") }

theorem unrelated_addition_shelf : ∃ next t, shelf.addTemplate "note.html" noteTree = .ok next ∧
    shelf.templates.get? "note.html" = none ∧ shelf.Detached ∧
    shelf.templates.get? "page.html" = some t ∧ next.templates.get? "page.html" = some t ∧
    ∀ context sink,
      (run (setting shelf t) t context sink).result =
        (run (setting next t) t context sink).result ∧
      (run (setting shelf t) t context sink).chunks =
        (run (setting next t) t context sink).chunks := by
  have hadded : (shelf.addTemplate "note.html" noteTree).toOption.isSome = true := by
    decide +kernel
  have hpage : (shelf.templates.get? "page.html").isSome = true := by decide +kernel
  have hnone : (shelf.templates.get? "note.html").isNone = true := by decide +kernel
  have hunused : (shelf.templates.entries.all fun e =>
      (e.2.document.body.flatMap Node.preorder).all (·.className != "Include")) = true := by
    decide +kernel
  obtain ⟨t, ht⟩ := Option.isSome_iff_exists.1 hpage
  have hnew : shelf.templates.get? "note.html" = none := Option.isNone_iff_eq_none.1 hnone
  have hdetached : shelf.Detached := by
    intro kind name c hc
    unfold shelf at hc
    rw [registry_addTemplates] at hc
    exact detached_withBuiltins {} {} kind name c hc
  have hspared : ∀ n u, shelf.templates.get? n = some u → ∀ p names ignoreMissing,
      .include p names ignoreMissing ∈ u.document.body.flatMap Node.preorder →
        "note.html" ∉ names := by
    intro n u hu p names ignoreMissing hmem
    have hall := List.all_eq_true.1 hunused (n, u) (Table.mem_entries_iff.2 hu)
    exact absurd (List.all_eq_true.1 hall _ hmem) (by simp [Node.className])
  cases hadd : shelf.addTemplate "note.html" noteTree with
  | error p =>
    rw [hadd] at hadded
    cases hadded
  | ok next =>
    obtain ⟨hkept, hsame⟩ := unrelated_addition reachable_shelf hadd hnew hspared hdetached ht
    exact ⟨next, t, rfl, hnew, hdetached, ht, hkept, hsame⟩

end Environment

end Stencil
