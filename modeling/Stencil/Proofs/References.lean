import Stencil.Proofs.Code
import Stencil.Proofs.History
import Stencil.Proofs.Reach

/-! References hold during a render. A settled set has every ancestor, every owner of a definition
    and every import of its templates. A state is *anchored* if the templates that run or are rendered
    in it belong to the set, and so do the owners of the definitions that its blocks go on with. Steps
    lead from anchored states to anchored states, so that a template is looked up in vain by includes
    alone. -/

namespace Stencil

open Lineage Render

/-- A tree of the set has an include that must not pass over its templates, and the set has none of
    them. -/
def Lineage.Lacks (ts : Table Template) (names : List String) : Prop :=
  (∃ t p, Registered ts t ∧ .include p names false ∈ t.document.body.flatMap Node.preorder) ∧
    ∀ name ∈ names, ts.get? name = none

/-- Where an include finds no template, a tree of the set has one that must not pass over that. -/
def Node.Known (ts : Table Template) (n : Node) : Prop :=
  ∀ p names, n = .include p names false → (∀ name ∈ names, ts.get? name = none) → Lacks ts names

/-- Every definition of a chain belongs to a template of the set. -/
structure BlockChain.Owned (ts : Table Template) (chain : BlockChain) : Prop where
  owner : ∀ e ∈ chain, ∃ t, ts.get? e.1 = some t
  code : chain.Every (Node.Known ts)

/-- If the problem is that a template is missed, an include misses it, in one of some sets. -/
def Problem.Accounted (sets : Table Template → Prop) (q : Problem) : Prop :=
  ∀ name message, q = .template (.notFound name message) →
    ∃ ts names, sets ts ∧ Lacks ts names ∧ q = noInclude names

/-- The sets in which templates are looked up during a render: its own, and the registered one for
    the renders that capabilities start. -/
def Setting.Searches (setting : Setting) (ts : Table Template) : Prop :=
  ts = setting.templates ∨ ts = setting.env.templates

/-- A capability that misses a template passes that on from a render of a registered one. -/
def Environment.PassesOn (env : Environment) : Prop :=
  ∀ kind name c, env.lookup kind name = .ok c → ∀ args named render x message,
    c.call { args, named, render } = .error (.problem (.template (.notFound x message))) →
      ∃ n t, env.templates.get? n = some t ∧
        render n = .error (.problem (.template (.notFound x message)))

/-- All templates that run or are rendered in a state belong to the set, and so do the owners of the
    definitions that its blocks go on with. -/
structure Anchored (ts : Table Template) (s : RenderState) : Prop extends
    s.Admitted (Registered ts) (fun _ => True) (BlockChain.Owned ts) where
  sink : s.sink.Offered

namespace Problem

variable {sets : Table Template → Prop}

theorem accounted_of_plain {q : Problem} (h : q.Plain) : q.Accounted sets := by
  rintro name message rfl
  exact h.elim

theorem Accounted.mono {others : Table Template → Prop} {q : Problem} (h : q.Accounted sets)
    (hsets : ∀ ts, sets ts → others ts) : q.Accounted others := by
  intro name message hq
  obtain ⟨ts, names, hts, hlacks, hnames⟩ := h name message hq
  exact ⟨ts, names, hsets ts hts, hlacks, hnames⟩

theorem accounted_ofRuntime (e : RuntimeError) : (Problem.ofRuntime e).Accounted sets := by
  intro name message h
  unfold Problem.ofRuntime at h
  split at h <;> cases h

theorem accounted_of_met {q : Problem} {s : RenderState} (h : q.Met (Accounted sets) s) :
    q.Accounted sets := by
  cases h with
  | anywhere h => exact h
  | here _ _ => exact accounted_ofRuntime _

/-- What an include misses is accounted for. -/
theorem accounted_noInclude {ts : Table Template} {names : List String} (hts : sets ts)
    (h : Lacks ts names) : (noInclude names).Accounted sets :=
  fun _ _ _ => ⟨ts, names, hts, h, rfl⟩

end Problem

/-! ### Lookups that succeed -/

namespace Lineage

variable {ts : Table Template} {t : Template}

/-- Every ancestor that a template records is there. -/
theorem Resolved.parents_registered (h : Resolved ts) (ht : Registered ts t) :
    ∀ name ∈ t.parents, ∃ u, ts.get? name = some u := by
  obtain ⟨n, hn⟩ := ht
  exact (h.walk n t hn).registered

/-- All that a template of the set starts is known. -/
theorem Resolved.code_known (h : Resolved ts) (ht : Registered ts t) : t.Every (Node.Known ts) := by
  refine h.every (fun m u hu c hc d hd => ?_) ht
  rintro p names rfl hnames
  exact ⟨⟨u, p, ⟨m, hu⟩, List.mem_flatMap.2 ⟨c, hc, hd⟩⟩, hnames⟩

/-- Every owner of a definition that a template records is there. -/
theorem Resolved.chain_owned (h : Resolved ts) (ht : Registered ts t) (block : String) :
    (t.chain block).Owned ts where
  owner e he := by
    obtain ⟨n, hn⟩ := ht
    rw [h.chain_eq hn] at he
    obtain ⟨u, hu, he⟩ := List.mem_filterMap.1 he
    obtain ⟨b, -, rfl⟩ := Option.map_eq_some_iff.1 he
    obtain ⟨m, hm⟩ := registered_of_mem_lineageOf hn hu
    exact ⟨u, by rwa [(h.built m u hm).name_eq]⟩
  code := (h.code_known ht).chain block

/-- The owner of a definition of its own is there as well. -/
theorem Resolved.definition_owned (h : Resolved ts) (ht : Registered ts t) {b : Block}
    (hbody : ∀ n ∈ b.body, n.Every (Node.Known ts)) : BlockChain.Owned ts [(t.name, b)] where
  owner := by
    obtain ⟨n, hn⟩ := ht
    exact List.forall_mem_singleton.2 ⟨t, by rwa [(h.built n t hn).name_eq]⟩
  code := List.forall_mem_singleton.2 hbody

/-- What a namespace of a template stands for is there. -/
theorem Settled.space_registered (h : Settled ts) (ht : Registered ts t) {space : String}
    {v : Value} (hv : searchSpaces.spaceIn space t = some v) :
    ∃ name u, v.text? = some name ∧ ts.get? name = some u := by
  obtain ⟨n, hn⟩ := ht
  obtain ⟨hget, -⟩ := Option.filter_eq_some_iff.1 hv
  have hmem := (Table.get?_foldl_insert_cases _ _ hget).resolve_right (by simp)
  obtain ⟨⟨w, name⟩, hi, heq⟩ := List.mem_map.1 hmem
  obtain ⟨rfl, rfl⟩ := Prod.mk.inj heq
  obtain ⟨m, hm, hc⟩ := h.imported n t hn _ hi
  obtain ⟨u, hu⟩ := Table.contains_iff.1 hc
  exact ⟨m, u, hm, hu⟩

end Lineage

namespace Setting

variable {setting : Setting}

theorem template_of_get? {name : String} (h : ∃ t, setting.templates.get? name = some t) :
    ∃ t, Environment.ofTemplate (setting.template name) = .ok t := by
  obtain ⟨t, ht⟩ := h
  refine ⟨t, ?_⟩
  rw [template, ht]
  rfl

theorem templateOf_of_get? {v : Value}
    (h : ∃ name t, v.text? = some name ∧ setting.templates.get? name = some t) :
    ∃ t, setting.templateOf v = .ok t := by
  obtain ⟨name, t, hname, ht⟩ := h
  refine ⟨t, ?_⟩
  rw [templateOf, hname, Option.bind_some, ht]

end Setting

/-! ### The invariant -/

/-- A halt that is located still accounts for what is missed. -/
theorem Problem.accounted_located {sets : Table Template → Prop} {here : Location} {h : Halt}
    (hh : ∀ q, h = .problem q → q.Accounted sets) :
    ∀ q, located here h = .problem q → q.Accounted sets := by
  intro q hq
  unfold located at hq
  split at hq
  · cases hq
    exact fun _ _ h => nomatch h
  · cases hq
    exact accounted_ofRuntime _
  · exact hh q hq

namespace Render

/-- Renders that keep their states anchored and miss no template that is not accounted for. -/
def anchors (setting : Setting) : Invariant Unit where
  holds _ s := Anchored setting.templates s
  remains _ h s := Anchored setting.templates s ∧
    ∀ q, h = .problem q → q.Accounted setting.Searches
  problem q := q.Accounted setting.Searches
  plain := Problem.accounted_of_plain
  remains_of_holds hq hs := ⟨hs, by rintro _ ⟨⟩; exact Problem.accounted_of_met hq⟩
  waiting _ h := { h with }

namespace Anchoring

variable {setting : Setting} {α : Type} {V : α → α → Prop} {m n : Render α}

theorem placeless : (anchors setting).Placeless where
  moved _ h := { h with }
  left _ h := ⟨{ h.1 with }, h.2⟩
  located _ h := ⟨h.1, Problem.accounted_located h.2⟩

theorem reaching : (anchors setting).Reaching (Registered setting.templates) (fun _ => True)
    (BlockChain.Owned setting.templates) where
  admitted h := h.toAdmitted
  altered _ _ h hs := { hs with sink := h.sink }
  abandoned _ _ h keep := ⟨{ keep h.1.toAdmitted with sink := h.1.sink }, h.2⟩

theorem write (text : String) :
    (anchors setting).runs.congruence.rel Eq (Render.write text) (Render.write text) :=
  (anchors setting).write (fun _ _ _ hs _ => { hs with })
    fun _ _ q hs hq => Problem.accounted_of_plain (hs.sink.plainly _ _ q hq)

theorem captured {m n : Render Unit} (h : (anchors setting).runs.congruence.rel Eq m n) :
    (anchors setting).runs.congruence.rel (Same fun _ => True) (Render.captured m)
      (Render.captured n) :=
  (anchors setting).captured (J := anchors setting)
    (fun _ _ hs => ⟨(), { hs with sink := .buffer },
      fun _ hu => ⟨trivial, { hu with sink := hs.sink }⟩,
      fun _ _ hu => ⟨{ hu.1 with sink := hs.sink }, hu.2⟩⟩) h

/-- Everything that runs in a settled set keeps the states anchored. -/
def simulation (hset : Settled setting.templates) : Simulation setting where
  toCongruence := (anchors setting).runs.congruence
  node := Node.Known setting.templates
  chain := BlockChain.Owned setting.templates
  value := fun _ => True
  text := fun _ => True
  template := Registered setting.templates
  agree := fun s t => ∃ i, (anchors setting).runs.states i s t
  hereditary := Value.Hereditary.trivial
  markup := Iff.rfl
  escaped := fun _ => trivial
  unescaped := fun _ _ => trivial
  const := fun _ => trivial
  data := fun _ => trivial
  raw := fun _ => trivial
  function := fun _ _ _ _ _ => trivial
  filter := fun _ _ _ _ _ _ => trivial
  filterBlock := fun _ _ => trivial
  registered := setting.registered
  ancestor := fun ht hname hq => by
    obtain ⟨u, hu⟩ := Setting.template_of_get? (hset.parents_registered ht _ hname)
    cases hq.symm.trans hu
  imported := fun ht hspace hq => by
    obtain ⟨u, hu⟩ := Setting.templateOf_of_get? (hset.space_registered ht hspace)
    cases hq.symm.trans hu
  code := hset.code_known
  code_of_chain := BlockChain.Owned.code
  recorded := hset.chain_owned
  defined := fun ht hbody => hset.definition_owned ht hbody
  owner := fun hchain he hq => by
    obtain ⟨u, hu⟩ := Setting.template_of_get? (hchain.owner _ he)
    cases hq.symm.trans hu
  missing := fun hnode hnone => Problem.accounted_noInclude (Or.inl rfl)
    (hnode _ _ rfl (List.findSome?_eq_none_iff.1 hnone))
  state := (anchors setting).runs.state
  pending := fun ⟨_, h, _⟩ => congrArg RenderState.pending h
  target := reaching.target
  loop := fun ⟨_, h, _⟩ => by rw [h]
  block := reaching.block
  find := reaching.find Value.Hereditary.trivial
  undefinedAt := (anchors setting).undefinedAt
  exhausted := (anchors setting).exhausted fun hs => ⟨hs, by simp⟩
  active := reaching.active
  requested := (anchors setting).requested
  atLine := placeless.atLine
  proceed := (anchors setting).proceed
  interrupt := reaching.interrupt
  write := fun _ => write _
  assign := reaching.assign
  assignWide := reaching.assignWide
  inScope := reaching.inScope
  inTemplate := placeless.inTemplate
  captured := captured
  allowing := reaching.allowing placeless

/-- A capability leaves no template missed but by an include, where the renders that it may start
    leave none. -/
theorem calling {hset : Settled setting.templates} {render : String → Except Halt String}
    (hhost : setting.env.PassesOn)
    (hrender : ∀ n t, setting.env.templates.get? n = some t → ∀ q,
      render n = .error (.problem q) → q.Accounted setting.Searches) :
    (simulation hset).Calling render := by
  intro kind name c hc args named p q hp hq
  -- what the capability raises itself is told as its failure
  have failed : ∀ e : RuntimeError, Halt.runtime e = .problem q →
      q.Accounted setting.Searches := by
    rintro e ⟨⟩
    exact Problem.accounted_ofRuntime e
  unfold calledBy at hq
  dsimp only at hq
  split at hq
  · exact failed _ hq
  · split at hq
    · cases hq
      exact fun _ _ h => nomatch h
    · split at hq
      · cases hq
        exact fun _ _ h => nomatch h
      · exact failed _ hq
  · cases hq
    rintro x message rfl
    obtain ⟨n, t, ht, hmissed⟩ := hhost kind name c hc args named render x message hp
    exact hrender n t ht _ hmissed x message rfl

end Anchoring

/-- What a computation has left: an anchored state, in which no template is missed but by an
    include. -/
def LeavesAnchored (setting : Setting) (x : Except Halt α × RenderState) : Prop :=
  Anchored setting.templates x.2 ∧
    ∀ q, x.1 = .error (.problem q) → q.Accounted setting.Searches

/-- What runs from an anchored state leaves one. -/
theorem leaves_of_rel {setting : Setting} {V : α → α → Prop} {m : Render α} {s : RenderState}
    (h : (anchors setting).runs.congruence.rel V m m) (hs : Anchored setting.templates s) :
    LeavesAnchored setting (m s) := by
  have ends := h () s s ⟨rfl, hs⟩
  generalize hx : m s = x at ends
  cases ends with
  | done _ hst => exact ⟨hst.2, fun _ hq => nomatch hq⟩
  | halt hh => exact ⟨hh.2.2.1, fun q hq => hh.2.2.2 q (Except.error.inj hq)⟩

end Render

namespace Environment

variable {env : Environment} {t : Template} {setting : Setting}

/-- In the beginning, the template that is rendered is the only one. -/
theorem anchored_begun (ht : Registered setting.templates t) (context : Context) {sink : Sink}
    (hsink : sink.Offered) : Anchored setting.templates (begun setting t context sink) where
  frames := by simp [begun, initial]
  context := trivial
  targets := List.forall_mem_singleton.2 ht
  sink := hsink

/-- What a setting starts at some depth runs from anchored states to anchored states. -/
structure Holds (setting : Setting) (depth : Nat) : Prop where
  body : ∀ ns, (∀ n ∈ ns, n.Every (Node.Known setting.templates)) →
    (anchors setting).runs.congruence.rel Eq ((calls depth setting).body ns)
      ((calls depth setting).body ns)
  value : ∀ n, n.Every (Node.Known setting.templates) →
    (anchors setting).runs.congruence.rel (Same fun _ => True) ((calls depth setting).value n)
      ((calls depth setting).value n)

/-- A whole render misses no template but by an include. -/
theorem Holds.whole {depth : Nat} (h : Holds setting depth) (hset : Settled setting.templates)
    (ht : Registered setting.templates t) (context : Context) {sink : Sink} (hsink : sink.Offered) :
    ∀ q, (Render.whole setting (runTemplate (calls depth setting) setting t)
      (initial setting t context sink)).1 = .error (.problem q) →
        q.Accounted setting.Searches :=
  (leaves_of_rel ((Anchoring.simulation hset).runTemplate h.body ht)
    (anchored_begun ht context hsink)).2

/-- However deep calls nest, they run from anchored states to anchored states, and so do the renders
    of registered templates that capabilities start. -/
theorem holds_calls (hr : Reachable env) (hhost : env.PassesOn) : ∀ depth : Nat,
    (∀ t setting, env.Renders t setting → Holds setting depth) ∧
    ∀ setting : Setting, setting.env = env → ∀ n t, env.templates.get? n = some t → ∀ q,
      (calls depth setting).render n = .error (.problem q) →
        q.Accounted fun ts => ts = env.templates
  | 0 =>
    ⟨fun _ setting _ =>
      ⟨fun _ _ => (anchors setting).exhausted fun hs => ⟨hs, by simp⟩,
        fun _ _ => (anchors setting).exhausted fun hs => ⟨hs, by simp⟩⟩,
      fun _ _ _ _ _ _ h => nomatch h⟩
  | depth + 1 => by
    obtain ⟨ih, hrender⟩ := holds_calls hr hhost depth
    refine ⟨fun t setting h => ?_, ?_⟩
    · obtain ⟨rfl, hset, -⟩ := h.settled hr
      have hholds := ih t setting h
      have hcalling : (Anchoring.simulation hset).Calling (calls depth setting).render :=
        Anchoring.calling hhost fun n u hu q hq => (hrender setting rfl n u hu q hq).mono
          fun _ => Or.inr
      let E := (Anchoring.simulation hset).execution rfl hholds.body hholds.value hcalling
      exact ⟨E.execAll, fun n hn =>
        E.mono (E.eval false n hn) fun _ _ hv => ⟨hv.1, trivial⟩⟩
    · rintro setting rfl n t ht q hq
      have hget : setting.env.getTemplate n = .ok t := by rw [getTemplate, ht]
      have hwhole := (ih t _ (.registered ht)).whole hr.settled ⟨n, ht⟩ {} .buffer
      change named (fun s => runTemplate (calls depth s) s) setting.env n = _ at hq
      unfold named at hq
      rw [hget] at hq
      dsimp only at hq
      generalize Render.whole _ _ _ = x at hwhole hq
      obtain ⟨r, final⟩ := x
      cases r with
      | ok _ => cases hq
      | error k =>
        cases hq
        exact (hwhole q rfl).mono fun _ hts => hts.elim id id

/-- No reference dangles during a render. In the set that something is rendered in, every ancestor
    that a template records is registered, and so are every owner of a definition of a block and
    every template that a namespace stands for. A render begins in an anchored state: the templates that
    run or are rendered in it belong to the set, and so do the owners of the definitions that
    `super` may go on with. Statements and expressions of the set lead from anchored states to
    anchored states, however deep they are nested and however they end. A render is therefore ended
    by a missing template only where an include that must not pass over it finds none of its
    templates, in a tree of the set or of the registered one for a render that a capability has
    started. -/
theorem references_hold (hr : Reachable env) (h : env.Renders t setting) (hhost : env.PassesOn) :
    (∀ u, Registered setting.templates u →
      (∀ name ∈ u.parents, ∃ w, ofTemplate (setting.template name) = .ok w) ∧
      (∀ block, ∀ e ∈ u.chain block, ∃ w, ofTemplate (setting.template e.1) = .ok w) ∧
      ∀ space v, searchSpaces.spaceIn space u = some v → ∃ w, setting.templateOf v = .ok w) ∧
    (∀ context sink, sink.Offered → Anchored setting.templates (begun setting t context sink)) ∧
    (∀ s, Anchored setting.templates s →
      (∀ u, s.stack.activeTemplate = .ok u ∨ s.targets.head? = some u →
        Registered setting.templates u) ∧
      (∀ name position chain,
        s.stack.currentBlock.map Frame.kind = some (.block name position chain) →
        ∀ e ∈ chain, ∃ w, ofTemplate (setting.template e.1) = .ok w) ∧
      ∀ depth u n, Registered setting.templates u →
        n ∈ u.document.body.flatMap Node.preorder →
        LeavesAnchored setting (exec (linked (calls depth setting) setting) setting n s) ∧
        ∀ lenient,
          LeavesAnchored setting (eval (linked (calls depth setting) setting) setting lenient n s)) ∧
    ∀ context sink name message, sink.Offered →
      (run setting t context sink).result = .error (.template (.notFound name message)) →
      ∃ ts names, setting.Searches ts ∧ Lacks ts names ∧
        .template (.notFound name message) = noInclude names := by
  obtain ⟨rfl, hset, hreg⟩ := h.settled hr
  have hcalls := holds_calls hr hhost
  have hholds (depth : Nat) := (hcalls depth).1 t setting h
  have hcalling (depth : Nat) :
      (Anchoring.simulation hset).Calling (calls depth setting).render :=
    Anchoring.calling hhost fun n u hu q hq =>
      ((hcalls depth).2 setting rfl n u hu q hq).mono fun _ => Or.inr
  refine ⟨fun u hu => ⟨fun name hname => ?_, fun block e he => ?_, fun space v hv => ?_⟩,
    fun context sink hsink => anchored_begun hreg context hsink,
    fun s hs => ⟨fun u hu => ?_, ?_, ?_⟩, fun context sink name message hsink hrun => ?_⟩
  · exact Setting.template_of_get? (hset.parents_registered hu name hname)
  · exact Setting.template_of_get? ((hset.chain_owned hu block).owner e he)
  · exact Setting.templateOf_of_get? (hset.space_registered hu hv)
  · rcases hu with hu | hu
    · unfold CallStack.activeTemplate CallStack.current at hu
      cases hframes : s.stack.frames with
      | nil =>
        rw [hframes] at hu
        cases hu
      | cons f rest =>
        rw [hframes] at hu
        cases hu
        exact (hs.frames f (by simp [hframes])).template
    · exact hs.targets u (List.mem_of_head? hu)
  · exact fun name position chain hkind e he =>
      Setting.template_of_get? ((hs.block hkind).owner e he)
  · intro depth u n hu hn
    obtain ⟨c, hc, hn⟩ := List.mem_flatMap.1 hn
    have hknown := ((hset.code_known hu).body c hc).of_mem hn
    let E := (Anchoring.simulation hset).execution rfl (hholds depth).body (hholds depth).value
      (hcalling depth)
    exact ⟨leaves_of_rel (E.exec n hknown) hs, fun lenient =>
      leaves_of_rel (E.eval lenient n hknown) hs⟩
  · have hwhole := (hholds maxDepth).whole hset hreg context hsink
    unfold run outcome at hrun
    dsimp only at hrun
    generalize Render.whole _ _ _ = x at hwhole hrun
    obtain ⟨r, final⟩ := x
    cases r with
    | ok _ => cases hrun
    | error k =>
      cases k with
      | exhausted => cases hrun
      | problem q =>
        cases hrun
        exact hwhole _ rfl name message rfl

/-- A function that renders another template. -/
def fetch : Capability :=
  { name := "fetch", behaviour := some fun inv => (inv.render "part.txt").map Value.text }

/-- An environment with a template that has another one rendered, which includes a missing one. -/
def gap : Environment :=
  (perform { functions := Table.empty.insert "fetch" fetch }
    (.addTemplates [("page.txt", { body := [.output {} (.call {} "fetch" [] [])] }),
      ("part.txt", { body := [.include {} ["gone.txt"] false] })])).2

theorem reachable_gap : Reachable gap := .after (.fresh rfl) (by simp)

/-- The function is the only capability, and it misses what the other template misses. -/
theorem passesOn_gap : gap.PassesOn := by
  intro kind name c hc args named render x message hcall
  have hpart : (gap.templates.get? "part.txt").isSome = true := by decide +kernel
  obtain ⟨t, ht⟩ := Option.isSome_iff_exists.1 hpart
  refine ⟨"part.txt", t, ht, ?_⟩
  have hregistered := lookup_eq_ok hc
  unfold gap at hregistered
  rw [registry_addTemplates] at hregistered
  cases kind
  case function =>
    -- of the functions only this one has been registered
    rw [registry, Table.get?_insert] at hregistered
    split at hregistered
    · cases hregistered
      change (render "part.txt").map Value.text = _ at hcall
      cases hrender : render "part.txt" with
      | ok text =>
        rw [hrender] at hcall
        cases hcall
      | error h =>
        rw [hrender] at hcall
        exact congrArg Except.error (Except.error.inj hcall)
    · cases hregistered
  all_goals cases hregistered

/-- The template that a render has missed. -/
def missed : Except Problem Unit → Option String
  | .error (.template (.notFound (.text name) _)) => some name
  | _ => none

theorem references_hold_gap : ∃ t, gap.templates.get? "page.txt" = some t ∧
    missed (run (Render.setting gap t) t {} .buffer).result = some "gone.txt" ∧
    ∃ ts names, (Render.setting gap t).Searches ts ∧ Lacks ts names ∧
      Text.joinTexts ", " names = "gone.txt" := by
  have h : ((gap.templates.get? "page.txt").map fun t =>
      missed (run (Render.setting gap t) t {} .buffer).result) = some (some "gone.txt") := by
    decide +kernel
  obtain ⟨t, ht, hmissed⟩ := Option.map_eq_some_iff.1 h
  refine ⟨t, ht, hmissed, ?_⟩
  unfold missed at hmissed
  split at hmissed
  · rename_i name message hrun
    cases hmissed
    obtain ⟨-, -, -, hmissing⟩ := references_hold reachable_gap (.registered ht) passesOn_gap
    obtain ⟨ts, names, hts, hlacks, hnames⟩ := hmissing {} .buffer _ _ .buffer hrun
    simp only [noInclude, Problem.template.injEq, TemplateError.notFound.injEq,
      Value.text.injEq] at hnames
    exact ⟨ts, names, hts, hlacks, hnames.1.symm⟩
  · cases hmissed

end Environment

end Stencil
