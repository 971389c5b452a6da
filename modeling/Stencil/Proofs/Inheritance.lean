import Stencil.Proofs.Code
import Stencil.Proofs.History
import Stencil.Proofs.Level
import Stencil.Proofs.Standpoint

/-! Renders do what lineages prescribe. The invariant is that the level of a render fits the
    standpoint from which code is run: the innermost frame is that of the owner, the innermost block
    frame notes the place of the definition that runs in the chain of its block, and the innermost
    target is the template whose lineage is in effect. A body keeps the level. -/

namespace Stencil

/-! ### Standpoints and states -/

namespace Lineage

variable {ts : Table Template}

/-- The templates of a lineage that define a block, with their definitions. -/
def definers (block : String) (lineage : List Template) : List (Template × Block) :=
  lineage.filterMap fun t => (t.blocks.get? block).map fun b => (t, b)

/-- A template and a definition as an entry of a chain. -/
def entry (d : Template × Block) : String × Block := (d.1.name, d.2)

theorem map_definers (block : String) (lineage : List Template) :
    (definers block lineage).map entry = definitionsOf lineage block := by
  unfold definers definitionsOf
  rw [List.map_filterMap]
  refine List.filterMap_congr fun t _ => ?_
  rw [Option.map_map]
  rfl

/-- The first definer is the head of all definers. -/
theorem definers_eq (block : String) : ∀ lineage : List Template,
    definers block lineage =
      match definer? block lineage with
      | none => []
      | some (t, b, rest) => (t, b) :: definers block rest
  | [] => rfl
  | t :: rest => by
    rw [definers, List.filterMap_cons, definer?]
    cases hb : t.blocks.get? block with
    | none => exact definers_eq block rest
    | some b => rfl

theorem registered_of_mem_definers {block : String} {lineage : List Template}
    (h : ∀ t ∈ lineage, ts.get? t.name = some t) :
    ∀ d ∈ definers block lineage, ts.get? d.1.name = some d.1 := by
  intro d hd
  obtain ⟨t, ht, hd⟩ := List.mem_filterMap.1 hd
  obtain ⟨b, -, rfl⟩ := Option.map_eq_some_iff.1 hd
  exact h t ht

/-- The last template of a lineage is the one that the last recorded parent names. -/
theorem getLast?_lineageOf {t : Template}
    (h : ∀ name ∈ t.parents, ∃ u, ts.get? name = some u) :
    (lineageOf ts t).getLast? =
      match t.parents.getLast? with
      | none => some t
      | some name => ts.get? name := by
  rcases List.eq_nil_or_concat t.parents with hnil | ⟨before, name, hlast⟩
  · rw [lineageOf, hnil]
    rfl
  · obtain ⟨u, hu⟩ := h name (by simp [hlast])
    rw [lineageOf, hlast, List.concat_eq_append, List.filterMap_append, ← List.cons_append,
      List.getLast?_append]
    simp [hu]

/-- A lineage ends or goes on with that of the parent. -/
theorem lineageOf_cases (hset : Resolved ts) {n : String} {t : Template} (hn : ts.get? n = some t) :
    lineageOf ts t = [t] ∨
      ∃ p q, ts.get? p = some q ∧ lineageOf ts t = t :: lineageOf ts q := by
  have hwalk := hset.walk n t hn
  generalize hparents : t.parents = names at hwalk
  cases hwalk with
  | root _ => exact Or.inl (by rw [lineageOf, hparents]; rfl)
  | @up _ q p names _ hq hw =>
    have hsame := hw.unique (hset.walk p q hq)
    exact Or.inr ⟨p, q, hq, by simp [lineageOf, hparents, hq, hsame]⟩

/-- From a template on, a lineage is that of the template. -/
theorem lineageOf_suffix (hset : Resolved ts) : ∀ {before after : List Template} {n : String}
    {t u : Template}, ts.get? n = some t → lineageOf ts t = before ++ u :: after →
      lineageOf ts u = u :: after
  | [], after, n, t, u, _, h => by
    have htu : t = u := (List.cons.inj h).1
    rw [← htu, h, htu]
    rfl
  | v :: before, after, n, t, u, hn, h => by
    rcases lineageOf_cases hset hn with hend | ⟨p, q, hq, hnext⟩
    · rw [hend] at h
      simp at h
    · rw [hnext, List.cons_append] at h
      exact lineageOf_suffix hset hq (List.cons.inj h).2

/-- A block of a template of a lineage has a first definer there. -/
theorem definer?_isSome {block : String} : ∀ {lineage : List Template} {t : Template} {b : Block},
    t ∈ lineage → t.blocks.get? block = some b → ∃ found, definer? block lineage = some found
  | u :: rest, t, b, ht, hb => by
    rw [definer?]
    cases hu : u.blocks.get? block with
    | some c => exact ⟨_, rfl⟩
    | none =>
      rcases List.mem_cons.1 ht with rfl | ht
      · rw [hb] at hu
        cases hu
      · exact definer?_isSome ht hb

end Lineage

open Lineage

/-- The chain of a running definition names registered templates: at its place there is the
    definition itself, and those after it are the definitions by the rest of its lineage. -/
def Running.Recorded (ts : Table Template) (r : Running) (owner : Template) (b : Block) : Prop :=
  ∃ before : List (Template × Block), before.length = r.position ∧
    r.chain = (before ++ (owner, b) :: definers r.block r.lineage.tail).map entry ∧
    ∀ d ∈ before ++ (owner, b) :: definers r.block r.lineage.tail, ts.get? d.1.name = some d.1

theorem Running.Recorded.registered {ts : Table Template} {r : Running} {owner : Template}
    {b : Block} (h : r.Recorded ts owner b) : ts.get? owner.name = some owner := by
  obtain ⟨before, -, -, hreg⟩ := h
  exact hreg (owner, b) (by simp)

theorem Running.Recorded.entry? {ts : Table Template} {r : Running} {owner : Template} {b : Block}
    (h : r.Recorded ts owner b) : r.chain.entry? r.position = some (owner.name, b) := by
  obtain ⟨before, hposition, hchain, -⟩ := h
  rw [BlockChain.entry?_natCast, hchain, ← hposition]
  simp [entry]

/-- What comes after a running definition in its chain. -/
theorem Running.Recorded.next {ts : Table Template} {r : Running} {owner next : Template}
    {b c : Block} {rest : List Template} (h : r.Recorded ts owner b)
    (hnext : definer? r.block r.lineage.tail = some (next, c, rest)) :
    Running.Recorded ts { r with lineage := next :: rest, position := r.position + 1 } next c := by
  obtain ⟨before, hposition, hchain, hreg⟩ := h
  have hlist := definers_eq r.block r.lineage.tail
  rw [hnext] at hlist
  dsimp only at hlist
  rw [hlist] at hchain hreg
  exact ⟨before ++ [(owner, b)], by simp [hposition], by simpa using hchain, by simpa using hreg⟩

/-- The chain goes on after a running definition iff the rest of its lineage has another. -/
theorem Running.Recorded.lt_length_iff {ts : Table Template} {r : Running} {owner : Template}
    {b : Block} (h : r.Recorded ts owner b) :
    ((r.position : Int) + 1 < r.chain.length) ↔ definers r.block r.lineage.tail ≠ [] := by
  obtain ⟨before, hposition, hchain, -⟩ := h
  rw [hchain, ← List.length_pos_iff]
  simp only [List.length_map, List.length_append, List.length_cons]
  omega

/-- The innermost target and the innermost block frame of a state fit a lineage and a running
    definition. -/
structure Situated (ts : Table Template) (lineage : List Template) (running : Option Running)
    (i : Level) : Prop where
  target : ∃ t, i.targets.head? = some t ∧ ts.get? t.name = some t ∧ lineage = lineageOf ts t
  noted : (CallStack.currentBlock { frames := i.frames }).map Frame.kind =
    running.map fun r => .block r.block r.position r.chain
  recorded : ∀ r, running = some r → ∃ owner b, r.Recorded ts owner b

/-- A state in which code is run from a standpoint. -/
structure Standing (ts : Table Template) (σ : Standpoint) (i : Level) : Prop extends
    Situated ts σ.lineage σ.running i where
  active : i.frames.head?.map Frame.template = some σ.owner
  owner : ts.get? σ.owner.name = some σ.owner

namespace Situated

variable {ts : Table Template} {lineage : List Template} {running : Option Running} {i : Level}

/-- In the frame of a template its code runs. -/
theorem root (h : Situated ts lineage running i) {t : Template} (ht : ts.get? t.name = some t) :
    Standing ts { lineage, owner := t, running } (i.inScope (.root t)) where
  target := h.target
  noted := h.noted
  recorded := h.recorded
  active := rfl
  owner := ht

theorem iteration {σ : Standpoint} (h : Standing ts σ i) (l : Loop) :
    Standing ts σ (i.inScope (.iteration l σ.owner)) where
  target := h.target
  noted := h.noted
  recorded := h.recorded
  active := rfl
  owner := h.owner

theorem call (h : Situated ts lineage running i) {t : Template} (ht : ts.get? t.name = some t)
    (name : String) :
    Standing ts { lineage, owner := t, running := none } (i.inScope (.call name t)) where
  target := h.target
  noted := rfl
  recorded := by simp
  active := rfl
  owner := ht

theorem block (h : Situated ts lineage running i) {t : Template} {r : Running} {b : Block}
    (hr : r.Recorded ts t b) :
    Standing ts { lineage, owner := t, running := some r }
      (i.inScope (.block r.block r.position r.chain t)) where
  target := h.target
  noted := rfl
  recorded := by
    rintro _ ⟨⟩
    exact ⟨t, b, hr⟩
  active := rfl
  owner := hr.registered

theorem included (h : Situated ts lineage running i) {t : Template}
    (ht : ts.get? t.name = some t) :
    Situated ts (lineageOf ts t) running (i.including t) where
  target := ⟨t, rfl, ht, rfl⟩
  noted := h.noted
  recorded := h.recorded

/-- Code of a template is run from where it is started. -/
theorem inTemplate (h : Situated ts lineage running i) (name : String) (line : Int) :
    Situated ts lineage running (i.inTemplate name line) :=
  { h with }

end Situated

theorem Standing.inTemplate {ts : Table Template} {σ : Standpoint} {i : Level}
    (h : Standing ts σ i) (name : String) (line : Int) :
    Standing ts σ (i.inTemplate name line) :=
  { h with }

/-! ### One step -/

namespace Render

/-- Computations that do the same wherever code is run from a standpoint. -/
abbrev fromStandpoint (ts : Table Template) (σ : Standpoint) : Congruence :=
  (levels (Standing ts σ) True).runs.congruence

/-- The code that runs is the owner's. -/
theorem active_of_standing {ts : Table Template} {σ : Standpoint} {i : Level} {s : RenderState}
    (hs : (levels (Standing ts σ) True).holds i s) : Render.active s = (.ok σ.owner, s) := by
  have hactive := hs.2.active
  rw [← hs.1] at hactive
  change (s.stack.frames.map Frame.outline).head?.map Frame.template = _ at hactive
  change Render.ofRuntime s.stack.activeTemplate s = _
  unfold CallStack.activeTemplate CallStack.current
  cases hf : s.stack.frames with
  | nil => simp [hf] at hactive
  | cons f rest =>
    rw [hf] at hactive
    have howner : f.template = σ.owner := Option.some.inj hactive
    rw [← howner]
    rfl

/-- Bodies and expressions that calls start do what is prescribed from every standpoint. -/
structure Prescribes (setting : Setting) (calls : Calls) (calls' : Standpoint → Calls) : Prop where
  body : ∀ σ ns, (fromStandpoint setting.templates σ).rel Eq (calls.body ns) ((calls' σ).body ns)
  value : ∀ σ n, (fromStandpoint setting.templates σ).rel (Same fun _ => True) (calls.value n)
    ((calls' σ).value n)
  render : ∀ σ, calls.render = (calls' σ).render

namespace Prescribes

variable {setting : Setting} {calls : Calls} {calls' : Standpoint → Calls}
  (h : Prescribes setting calls calls') (hset : Resolved setting.templates) {σ : Standpoint}

include h

/-- A definition of a chain runs as the prescribed one that is noted there. -/
theorem runDefinition {r : Running} {owner : Template} {b : Block}
    (hr : r.Recorded setting.templates owner b) :
    (fromStandpoint setting.templates σ).rel Eq
      (Render.runDefinition calls setting r.block r.chain r.position)
      (σ.enter calls' r owner b) := by
  have htemplate : setting.template owner.name = .ok owner := by
    rw [Setting.template, hr.registered]
  unfold Render.runDefinition Standpoint.enter
  rw [hr.entry?]
  dsimp only
  rw [htemplate]
  change (fromStandpoint setting.templates σ).rel Eq
    (inTemplate owner.name
      (inScope (.block r.block r.position r.chain owner) (calls.body b.body))) _
  exact Levels.inTemplate (fun i line hi => hi.inTemplate _ line)
    (Levels.inScope (fun i hi _ => hi.toSituated.block hr)
      (h.body { σ with owner, running := some r } b.body))

/-- `super` runs the definition after the one that runs. -/
theorem runSuper : (fromStandpoint setting.templates σ).rel Eq (Render.runSuper calls setting)
    (σ.runSuper calls') := by
  rintro i s _ ⟨rfl, hs⟩
  have hnoted := hs.2.noted
  -- what runs is noted in the innermost block frame, and frames are known by their outlines
  rw [← hs.1] at hnoted
  change (CallStack.currentBlock { frames := s.stack.frames.map Frame.outline }).map Frame.kind = _
    at hnoted
  rw [CallStack.currentBlock_outline] at hnoted
  unfold Render.runSuper Standpoint.runSuper
  rw [bind_of_done (m := state) rfl, hnoted]
  cases hrunning : σ.running with
  | none => exact (fromStandpoint setting.templates σ).raise _ ⟨rfl, rfl, rfl⟩ i s s ⟨rfl, hs⟩
  | some r =>
    obtain ⟨owner, b, hr⟩ := hs.2.recorded r hrunning
    have hlist := definers_eq r.block r.lineage.tail
    dsimp only [Option.map_some]
    -- the position is short of the chain exactly when the lineage goes on to another definer
    cases hnext : definer? r.block r.lineage.tail with
    | none =>
      rw [hnext] at hlist
      rw [if_neg (by rw [hr.lt_length_iff, hlist]; simp)]
      exact (fromStandpoint setting.templates σ).raise _ ⟨rfl, rfl, rfl⟩ i s s ⟨rfl, hs⟩
    | some found =>
      obtain ⟨next, c, rest⟩ := found
      rw [hnext] at hlist
      rw [if_pos (by rw [hr.lt_length_iff, hlist]; simp)]
      exact h.runDefinition (hr.next hnext) i s s ⟨rfl, hs⟩

include hset

/-- A block runs the definition of the first template of the lineage that has one. -/
theorem runBlock (name : String) (body : List Node) :
    (fromStandpoint setting.templates σ).rel Eq (Render.runBlock calls setting name body)
      (σ.runBlock calls' name body) := by
  rintro i s _ ⟨rfl, hs⟩
  obtain ⟨t, htarget, ht, hlineage⟩ := hs.2.target
  have hdefinitions : s.targets.head?.map (·.chain name) = some (definitionsOf σ.lineage name) := by
    have htargets : s.targets = i.targets := congrArg Level.targets hs.1
    rw [htargets, htarget, hlineage, Option.map_some, hset.chain_eq ht]
  have hreg : ∀ u ∈ σ.lineage, setting.templates.get? u.name = some u := by
    intro u hu
    rw [hlineage] at hu
    obtain ⟨m, hm⟩ := registered_of_mem_lineageOf ht hu
    rwa [(hset.built m u hm).name_eq]
  have hlist := definers_eq name σ.lineage
  have hchain := map_definers name σ.lineage
  unfold Render.runBlock Standpoint.runBlock
  rw [bind_of_done (m := state) rfl, hdefinitions, Option.getD_some]
  -- without a definer the block is its own definition, in a chain of one
  cases hfirst : definer? name σ.lineage with
  | none =>
    rw [hfirst] at hlist
    rw [hlist] at hchain
    have hr : Running.Recorded setting.templates
        ⟨name, [σ.owner], 0, [(σ.owner.name, ⟨name, body⟩)]⟩ σ.owner ⟨name, body⟩ :=
      ⟨[], rfl, rfl, List.forall_mem_singleton.2 hs.2.owner⟩
    rw [← hchain]
    change (levels (Standing setting.templates σ) True).runs.Ends i Eq ((active >>= fun running =>
      Render.runDefinition calls setting name [(running.name, ⟨name, body⟩)] 0) s) _
    rw [bind_of_done (active_of_standing hs)]
    exact h.runDefinition hr i s s ⟨rfl, hs⟩
  | some found =>
    obtain ⟨owner, b, rest⟩ := found
    rw [hfirst] at hlist
    dsimp only at hlist
    have hr : Running.Recorded setting.templates
        ⟨name, owner :: rest, 0, definitionsOf σ.lineage name⟩ owner b :=
      ⟨[], rfl, by rw [← hchain, hlist]; rfl, by
        have hall : ∀ d ∈ definers name σ.lineage, setting.templates.get? d.1.name = some d.1 :=
          registered_of_mem_definers hreg
        rwa [hlist] at hall⟩
    have ends := h.runDefinition (σ := σ) hr i s s ⟨rfl, hs⟩
    rw [← hchain, hlist] at ends ⊢
    exact ends

/-- A template runs the body of the last template of its lineage. -/
theorem runTemplate {t : Template} (ht : setting.templates.get? t.name = some t)
    (running : Option Running) :
    (levels (Situated setting.templates (lineageOf setting.templates t) running)
      True).runs.congruence.rel Eq (Render.runTemplate calls setting t)
      (Standpoint.runRoot calls' running (lineageOf setting.templates t)) := by
  have hparents := (hset.walk _ t ht).registered
  have hlast := getLast?_lineageOf hparents
  have hroot : ∀ root : Template, setting.templates.get? root.name = some root →
      (levels (Situated setting.templates (lineageOf setting.templates t) running)
        True).runs.congruence.rel Eq
        (inTemplate root.name (inScope (.root root) (calls.body root.document.body)))
        (inTemplate root.name (inScope (.root root)
          ((calls' ⟨lineageOf setting.templates t, root, running⟩).body root.document.body))) :=
    fun root hr => Levels.inTemplate (fun i line hi => hi.inTemplate _ line)
      (Levels.inScope (fun i hi _ => hi.root hr) (h.body _ _))
  unfold Render.runTemplate Standpoint.runRoot
  rw [hlast]
  -- the root is the last parent, or the template itself if it has none
  cases hname : t.parents.getLast? with
  | none => exact hroot t ht
  | some name =>
    obtain ⟨root, hget⟩ := hparents name (List.mem_of_getLast? hname)
    have htemplate : setting.template name = .ok root := by
      rw [Setting.template, hget]
    dsimp only
    rw [htemplate, hget]
    refine hroot root ?_
    rwa [(hset.built name root hget).name_eq]

/-- An included template is rendered as its own lineage prescribes. -/
theorem runInclude (names : List String) (ignoreMissing : Bool) :
    (fromStandpoint setting.templates σ).rel Eq
      (Render.runInclude (Render.runTemplate calls setting) setting names ignoreMissing)
      ((σ.links calls' setting).runInclude names ignoreMissing) := by
  refine (fromStandpoint setting.templates σ).runInclude (fun {name t} hname => ?_) names
    ignoreMissing
  have ht : setting.templates.get? t.name = some t := by
    rwa [(hset.built name t hname).name_eq]
  exact Levels.allowing (fun i hi _ => hi.toSituated.included ht)
    (h.runTemplate hset ht σ.running)

omit hset

/-- A macro runs as code of the template that holds it, outside of all blocks. -/
theorem runMacro {t : Template} (ht : setting.templates.get? t.name = some t) (m : Macro)
    (fullName : String) (bound : List (String × Value)) :
    (fromStandpoint setting.templates σ).rel (Same fun _ => True)
      (Render.runMacro calls t m fullName bound)
      ((σ.links calls' setting).runMacro t m fullName bound) := by
  have hinside : (fromStandpoint setting.templates ⟨σ.lineage, t, none⟩).rel Eq
      (Render.assignParams calls fullName bound m.params >>= fun _ => calls.body m.body)
      (Render.assignParams (calls' ⟨σ.lineage, t, none⟩) fullName bound m.params >>= fun _ =>
        (calls' ⟨σ.lineage, t, none⟩).body m.body) := by
    refine (fromStandpoint setting.templates _).seq ?_ (h.body _ m.body)
    exact (fromStandpoint setting.templates _).assignParams (fun _ => Levels.assign _ _)
      (fun _ _ => trivial) m.params fun _ _ n _ => h.value _ n
  refine (fromStandpoint setting.templates σ).bind (V := Same fun _ => True)
    (Levels.inScope (fun i hi _ => hi.toSituated.call ht m.name)
      (Levels.inTemplate (fun i line hi => hi.inTemplate _ line) (Levels.captured hinside))) ?_
  rintro text _ ⟨rfl, -⟩
  exact (fromStandpoint setting.templates σ).done ⟨rfl, trivial⟩

omit h

include hset in
/-- The search for macros meets registered templates. -/
def lookups (σ : Standpoint) : Lookups setting where
  toCongruence := fromStandpoint setting.templates σ
  template := fun t => setting.templates.get? t.name = some t
  agree := fun s t => ∃ i, (levels (Standing setting.templates σ) True).runs.states i s t
  registered := fun {name t} hname => by rwa [(hset.built name t hname).name_eq]
  state := (levels (Standing setting.templates σ) True).runs.state
  target := by
    rintro s _ ⟨i, rfl, hs⟩
    obtain ⟨t, htarget, ht, -⟩ := hs.2.target
    refine ⟨rfl, fun x hx => ?_⟩
    have htargets : s.targets = i.targets := congrArg Level.targets hs.1
    rw [htargets, htarget] at hx
    cases hx
    exact ht
  active := (levels (Standing setting.templates σ) True).step fun i s hs =>
    Or.inl ⟨σ.owner, s, active_of_standing hs, hs.2.owner, hs⟩

include hset in
/-- The macros of `self` are those of the template that owns the code. -/
theorem findMacro (space name : String) : (fromStandpoint setting.templates σ).rel
    (Same fun x => setting.templates.get? x.1.name = some x.1) (Render.findMacro setting space name)
    (σ.findMacro setting space name) := by
  have hfound : (fromStandpoint setting.templates σ).rel
      (Same fun x => setting.templates.get? x.1.name = some x.1)
      (Render.findMacro setting space name) (Render.findMacro setting space name) :=
    (fromStandpoint setting.templates σ).mono ((lookups hset σ).findMacro space name)
      fun _ _ hx => ⟨hx.1, hx.2.1⟩
  unfold Standpoint.findMacro
  split
  · rename_i hself
    subst hself
    rintro i s _ ⟨rfl, hs⟩
    have hown : Render.spaceTemplate setting "self" s = (.ok σ.owner, s) := by
      unfold Render.spaceTemplate
      rw [bind_of_done (active_of_standing hs)]
      rfl
    unfold Render.findMacro
    rw [bind_of_done hown]
    cases hm : σ.owner.macros.get? name with
    | some m => exact .done ⟨rfl, hs.2.owner⟩ ⟨rfl, hs⟩
    | none => exact (fromStandpoint setting.templates σ).raise _ ⟨rfl, rfl, rfl⟩ i s s ⟨rfl, hs⟩
  · exact hfound

/-- What nodes refer to is what is prescribed. -/
def execution (h : Prescribes setting calls calls') (hset : Resolved setting.templates)
    (σ : Standpoint) :
    Execution (linked calls setting) (σ.links calls' setting) setting setting where
  toCongruence := fromStandpoint setting.templates σ
  node := fun _ => True
  value := fun _ => True
  holds := fun t _ => setting.templates.get? t.name = some t
  hereditary := Value.Hereditary.trivial
  const := fun _ => trivial
  find := (levels _ _).find
  undefinedAt := (levels _ _).undefinedAt
  lookup := .refl setting
  function := fun _ _ _ _ =>
    (fromStandpoint setting.templates σ).invoke (h.render σ) (fun _ _ => trivial) fun _ =>
      Levels.exhausted trivial
  filter := fun _ _ _ _ _ =>
    (fromStandpoint setting.templates σ).invoke (h.render σ) (fun _ _ => trivial) fun _ =>
      Levels.exhausted trivial
  test := fun _ _ _ _ => (fromStandpoint setting.templates σ).mono
    ((fromStandpoint setting.templates σ).invoke (p := fun _ => True) (h.render σ)
      (fun _ _ => trivial) fun _ => Levels.exhausted trivial)
    fun _ _ hv => hv.1
  findMacro := fun _ => findMacro hset _ _
  runMacro := fun ht _ => h.runMacro ht _ _ _
  statement := fun _ => True
  template := fun t => t = σ.owner
  agree := fun s t => ∃ i, (levels (Standing setting.templates σ) True).runs.states i s t
  state := (levels (Standing setting.templates σ) True).runs.state
  pending := fun ⟨_, hst, _⟩ => congrArg RenderState.pending hst
  active := (levels (Standing setting.templates σ) True).step fun i s hs =>
    Or.inl ⟨σ.owner, s, active_of_standing hs, rfl, hs⟩
  proceed := (levels _ _).proceed
  requested := (levels _ _).requested
  request := Levels.request
  iteration := fun ht _ hm => by
    rw [ht]
    exact Levels.inScope (fun i hi _ => Situated.iteration hi _) hm
  data := fun _ => Levels.write _
  raw := fun _ => Levels.write _
  print := fun _ => (fromStandpoint setting.templates σ).print
    (fun {s} (_ : True) => Levels.write s)
    (fun _ _ => trivial) (fun _ => trivial) fun _ _ => trivial
  assign := fun _ => Levels.assign _ _
  assignWide := fun _ => Levels.assignWide _ _
  filterBlock := fun _ hm hargs hnamed => (fromStandpoint setting.templates σ).runFilter
    (h.render σ) Levels.write (Levels.captured hm) hargs hnamed fun _ _ => Levels.exhausted trivial
  block := fun _ => h.runBlock hset _ _
  super := fun _ => h.runSuper
  included := fun _ => h.runInclude hset _ _
  executed := fun _ => trivial
  atLine := Levels.atLine

end Prescribes

/-! ### Whole renders -/

theorem eq_of_ends {P : Level → Prop} {i : Level} {x y : Except Halt Unit × RenderState}
    (h : (levels P True).runs.Ends i Eq x y) : x = y := by
  cases h with
  | done hab hst => rw [hab, hst.1]
  | halt hh => rw [hh.1, hh.2.1]

/-- A whole render is the prescribed one if all that it starts is. -/
theorem Prescribes.whole {setting : Setting} {calls : Calls} {calls' : Standpoint → Calls}
    (h : Prescribes setting calls calls') (hset : Resolved setting.templates) {t : Template}
    (ht : setting.templates.get? t.name = some t) (context : Context) (sink : Sink) :
    Render.whole setting (Render.runTemplate calls setting t) (initial setting t context sink) =
      Render.whole setting (Standpoint.runRoot calls' none (lineageOf setting.templates t))
        (initial setting t context sink) := by
  have hbegin : Situated setting.templates (lineageOf setting.templates t) none
      (begun setting t context sink).level :=
    ⟨⟨t, rfl, ht, rfl⟩, rfl, by simp⟩
  have ends := h.runTemplate hset ht none _ _ _ ⟨rfl, rfl, hbegin⟩
  unfold begun at ends
  unfold Render.whole Render.ensuring
  rw [eq_of_ends ends]

/-- However deep calls nest, what they start is what is prescribed. -/
theorem prescribes_calls : ∀ (depth : Nat) (setting : Setting), Resolved setting.templates →
    Resolved setting.env.templates →
    Prescribes setting (calls depth setting) (prescribed depth setting)
  | 0, setting, _, _ =>
    { body := fun _ _ => Levels.exhausted trivial
      value := fun _ _ => Levels.exhausted trivial
      render := fun _ => rfl }
  | depth + 1, setting, hset, henv => by
    have ih := prescribes_calls depth
    refine ⟨fun σ ns => ?_, fun σ n => ?_, fun σ => ?_⟩
    · exact ((ih setting hset henv).execution hset σ).execAll ns fun _ _ _ _ => trivial
    · exact (fromStandpoint setting.templates σ).mono
        (((ih setting hset henv).execution hset σ).eval false n fun _ _ => trivial)
        fun _ _ hv => ⟨hv.1, trivial⟩
    · have hnamed : named (fun s => runTemplate (calls depth s) s) setting.env =
          named (fun s t => Standpoint.runRoot (prescribed depth s) none (lineageOf s.templates t))
            setting.env := by
        refine named_congr fun name t hname => ?_
        have ht : setting.env.templates.get? t.name = some t := by
          rwa [(henv.built name t hname).name_eq]
        have hwhole := (ih (Render.setting setting.env t) henv henv).whole henv ht {} .buffer
        exact ⟨congrArg Prod.fst hwhole, congrArg (fun x => x.2.chunks) hwhole⟩
      exact hnamed

end Render

namespace Environment

open Render

/-- A render of a registered template does what its lineage prescribes. -/
theorem run_eq_prescribed {setting : Setting} {t : Template}
    (hset : Lineage.Resolved setting.templates) (henv : Lineage.Resolved setting.env.templates)
    (ht : setting.templates.get? t.name = some t) (context : Context) (sink : Sink) :
    run setting t context sink = prescribedRun setting t context sink := by
  have hcalls := prescribes_calls maxDepth setting hset henv
  unfold run prescribedRun outcome
  rw [hcalls.whole hset ht context sink]

/-- Renders do what lineages prescribe, whatever the data and the output and however the render
    ends: every template that is rendered or included runs the body of the last of its lineage,
    blocks and `super` run the definitions that come first and next there, and `self` has the macros
    of the template that owns the code. Every block in the code of a lineage has a definition there,
    and what comes after a template is the same in all lineages. -/
theorem rendered_as_prescribed {env : Environment} {t : Template} {setting : Setting}
    (hr : Reachable env) (h : env.Renders t setting) :
    (∀ context sink, run setting t context sink = prescribedRun setting t context sink) ∧
    ∀ n u, setting.templates.get? n = some u →
      (∀ w ∈ lineageOf setting.templates u, ∀ p name body,
        .block p name body ∈ w.document.body.flatMap Node.preorder →
        ∃ found, definer? name (lineageOf setting.templates u) = some found) ∧
      ∀ before w after, lineageOf setting.templates u = before ++ w :: after →
        lineageOf setting.templates w = w :: after := by
  obtain ⟨rfl, hset, name, ht⟩ := h.settled hr
  refine ⟨run_eq_prescribed hset.toResolved hr.settled.toResolved
      (by rwa [(hset.built name t ht).name_eq]),
    fun n u hu => ⟨fun w hw p block body hmem => ?_,
      fun before w after => lineageOf_suffix hset.toResolved hu⟩⟩
  · obtain ⟨m, hm⟩ := registered_of_mem_lineageOf hu hw
    have hblock : w.blocks.get? block = some ⟨block, body⟩ :=
      (hset.built m w hm).get?_blocks.2 ⟨p, hmem, rfl⟩
    exact definer?_isSome hw hblock

/-- A tree with two blocks. -/
def plainTree : Document :=
  { body := [.block {} "a" [.data {} "A"], .block {} "c" [.data {} "C"]] }

/-- A tree that defines the second block within the first one. -/
def nestingTree : Document :=
  { body := [.block {} "a" [.block {} "c" [.super {}]]]
    parent := some ({}, .text "base.txt") }

/-- A tree that includes another one where a block stands. -/
def includingTree : Document :=
  { body := [.block {} "a" [.include {} ["part.txt"] false]]
    parent := some ({}, .text "mid.txt") }

/-- A tree that goes on with whichever block it is included in. -/
def partTree : Document := { body := [.super {}] }

/-- The environment after the trees are added at once. -/
def layers : Environment :=
  (perform {} (.addTemplates [("page.txt", includingTree), ("part.txt", partTree),
    ("mid.txt", nestingTree), ("base.txt", plainTree)])).2

theorem reachable_layers : Reachable layers := .after (.fresh rfl) (by simp)

theorem rendered_as_prescribed_layers : ∃ t u v, layers.templates.get? "page.txt" = some t ∧
    [t, u, v].map Template.name = ["page.txt", "mid.txt", "base.txt"] ∧
    (∀ context sink, run (Render.setting layers t) t context sink =
      prescribedRun (Render.setting layers t) t context sink) ∧
    lineageOf layers.templates t = [t, u, v] ∧ lineageOf layers.templates u = [u, v] := by
  have hnames : (layers.templates.get? "page.txt").map (fun t =>
      (lineageOf layers.templates t).map Template.name) =
      some ["page.txt", "mid.txt", "base.txt"] := by decide +kernel
  obtain ⟨t, ht, hn⟩ := Option.map_eq_some_iff.1 hnames
  obtain ⟨hrun, hlineages⟩ := rendered_as_prescribed reachable_layers (.registered ht)
  obtain ⟨w, hw⟩ : ∃ w, lineageOf layers.templates t = t :: w := ⟨_, rfl⟩
  rw [hw] at hn
  have hlength : w.length = 2 := by simpa using congrArg List.length hn
  obtain ⟨u, v, rfl⟩ := List.length_eq_two.1 hlength
  exact ⟨t, u, v, ht, hn, hrun, hw, (hlineages _ t ht).2 [t] u [v] hw⟩

/-- The name of the template and the message that the error of a render tells. -/
def told : Except Problem String → Option (Option String × String)
  | .error (.template (.runtime e)) => some (e.template, e.message)
  | _ => none

/-- An include does not only run code of the lineage of the included template. What its `super`
    brings in runs where that lineage is in effect, so that a block in it is not looked up in its
    own one, and `super` in such a block has no parent although the lineage defines one. -/
theorem super_without_parent_in_part : ∃ t, layers.templates.get? "page.txt" = some t ∧
    (lineageOf layers.templates t).map Template.name = ["page.txt", "mid.txt", "base.txt"] ∧
    (definitionsOf (lineageOf layers.templates t) "c").map Prod.fst = ["mid.txt", "base.txt"] ∧
    told (layers.render t ⟨[]⟩) =
      some (some "mid.txt", "Tried to use super() in the top level block 'c'") := by
  have h : (layers.templates.get? "page.txt").map (fun t =>
      ((lineageOf layers.templates t).map Template.name,
        (definitionsOf (lineageOf layers.templates t) "c").map Prod.fst,
        told (layers.render t ⟨[]⟩))) =
      some (["page.txt", "mid.txt", "base.txt"], ["mid.txt", "base.txt"],
        some (some "mid.txt", "Tried to use super() in the top level block 'c'")) := by
    decide +kernel
  obtain ⟨t, ht, hs⟩ := Option.map_eq_some_iff.1 h
  rw [Prod.mk.injEq, Prod.mk.injEq] at hs
  exact ⟨t, ht, hs⟩

end Environment

end Stencil
