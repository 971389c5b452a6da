import Stencil.Proofs.Result
import Stencil.Proofs.Simulation.Exec

/-! What a render starts preserves relations. A *simulation* relates a setting to itself: it says
    which templates, values and texts may be met and that the steps of a render, its scopes, places
    and buffers among them, keep the relation. Macros, blocks, includes and `super` keep it then,
    and by induction on their nesting so do all bodies and expressions that a render runs. -/

namespace Stencil

/-- Every node that a call of a macro runs has a property. -/
structure Macro.Every (p : Node → Prop) (m : Macro) : Prop where
  default : ∀ q ∈ m.params, ∀ n, q.default = some n → n.Every p
  body : ∀ n ∈ m.body, n.Every p

/-- Every node of the definitions in a chain has a property. -/
def BlockChain.Every (p : Node → Prop) (chain : BlockChain) : Prop :=
  ∀ e ∈ chain, ∀ n ∈ e.2.body, n.Every p

/-- Every node that a template starts has a property. -/
structure Template.Every (p : Node → Prop) (t : Template) : Prop where
  body : ∀ n ∈ t.document.body, n.Every p
  macros : ∀ {name m}, t.macros.get? name = some m → m.Every p
  chain : ∀ name, (t.chain name).Every p

theorem Template.every_true (t : Template) : t.Every fun _ => True where
  body := fun _ _ _ _ => trivial
  macros := fun _ => ⟨fun _ _ _ _ _ _ => trivial, fun _ _ _ _ => trivial⟩
  chain := fun _ _ _ _ _ _ _ => trivial

/-- The template of a frame and all that it runs over, binds or defines may be met. -/
structure Frame.Admitted (template : Template → Prop) (value : Value → Prop)
    (chain : BlockChain → Prop) (f : Frame) : Prop where
  template : template f.template
  locals : ∀ {name v}, f.locals.get? name = some v → value v
  loop : ∀ {l}, f.kind.loop? = some l → l.Admitted value
  chain : ∀ {name position definitions}, f.kind = .block name position definitions →
    chain definitions

theorem BlockChain.mem_of_entry? {chain : BlockChain} {position : Int} {e : String × Block}
    (h : chain.entry? position = some e) : e ∈ chain := by
  cases position with
  | ofNat i => exact List.mem_of_getElem? h
  | negSucc i => exact List.mem_reverse.1 (List.mem_of_getElem? h)

namespace Setting

variable {setting : Setting}

theorem get?_of_template {name : String} {t : Template}
    (h : Environment.ofTemplate (setting.template name) = .ok t) :
    setting.templates.get? name = some t := by
  rw [Environment.ofTemplate_eq_ok, template] at h
  split at h
  · rename_i hu
    rw [hu, Except.ok.inj h]
  · cases h

theorem get?_of_templateOf {v : Value} {t : Template} (h : setting.templateOf v = .ok t) :
    ∃ name, setting.templates.get? name = some t := by
  rw [templateOf] at h
  split at h
  · rename_i u hu
    obtain ⟨name, -, hname⟩ := Option.bind_eq_some_iff.1 hu
    exact ⟨name, hname.trans (by rw [Except.ok.inj h])⟩
  · split at h <;> cases h

end Setting

namespace Render

/-! ### Parts of statements -/

/-- The caller of a capability sees a problem where the capability has one. -/
theorem calledBy_problem (kind : CapabilityKind) (c : Capability) (args : List Value)
    (named : List (String × Value)) (p : Problem) :
    ∃ q, calledBy kind c args named (.problem p) = .problem q := by
  unfold calledBy
  dsimp only
  repeat' split
  all_goals exact ⟨_, rfl⟩

/-- An include of a template, if the limit allows one. -/
def allowing (t : Template) (m : Render α) : Render α := do
  let here ← place
  ofRuntime (here.checkInclude t.name)
  including t m

/-- An include is refused on the spot, or its place allows it. -/
theorem allowing_cases {P : Problem → Prop} (hmay : ∀ {p : Problem}, p.Plain → P p)
    (t : Template) (s : RenderState) :
    (∃ q, Problem.Met P s q ∧
      ∀ {α : Type} (m : Render α), allowing t m s = (.error (.problem q), s)) ∨
      ∃ here, s.place = some here ∧ here.includeDepth < here.limit ∧
        ∀ {α : Type} (m : Render α), allowing t m s = including t m s := by
  cases hplace : s.place with
  | none =>
    refine Or.inl ⟨_, .anywhere (hmay unplaced_outside.ofRuntime), fun m => ?_⟩
    change andThen place _ s = _
    unfold andThen place
    rw [hplace]
    rfl
  | some here =>
    have hhere : place s = (.ok here, s) := by
      unfold place
      rw [hplace]
    cases hcheck : here.checkInclude t.name with
    | error e =>
      refine Or.inl ⟨_, .here hplace (at_checkInclude hcheck), fun m => ?_⟩
      unfold allowing
      rw [bind_of_done hhere, hcheck]
      rfl
    | ok _ =>
      have hlimit : here.includeDepth < here.limit := by
        unfold Location.checkInclude at hcheck
        split at hcheck
        · assumption
        · cases hcheck
      refine Or.inr ⟨here, rfl, hlimit, fun m => ?_⟩
      unfold allowing
      rw [bind_of_done hhere, hcheck]
      rfl

/-- The problem of an include that finds no template. -/
def noInclude (names : List String) : Problem :=
  .template (.notFound (.text (Text.joinTexts ", " names))
    (some ("Template(s) for include not found: " ++
      Text.joinTexts ", " (names.map fun n => "'" ++ n ++ "'"))))

namespace Congruence

variable (C : Congruence) {value : Value → Prop} {text : String → Prop}

/-- The caller of a capability sees a problem that may be met where the capability has one. -/
def Allows (render : String → Except Halt String) (kind : CapabilityKind) (c : Capability) : Prop :=
  ∀ args named p q, c.call { args, named, render } = .error (.problem p) →
    calledBy kind c args named (.problem p) = .problem q → C.problem q

/-- A call of a capability whose results may be met. It runs out of depth only where the capability
    does. -/
theorem invoke {p : Value → Prop} {render render' : String → Except Halt String}
    {kind : CapabilityKind} {c : Capability} {vs : List Value} {ns : List (String × Value)}
    (hrender : render = render')
    (h : ∀ v, c.call { args := vs, named := ns, render } = .ok v → p (demoted c v))
    (hexhausted : c.call { args := vs, named := ns, render } = .error .exhausted →
      C.rel (Same p) (Render.halt .exhausted) (Render.halt .exhausted))
    (hcalls : C.Allows render kind c := by exact fun _ _ _ _ _ _ => trivial) :
    C.rel (Same p) (Render.invoke render kind c vs ns) (Render.invoke render' kind c vs ns) := by
  subst hrender
  unfold Render.invoke
  cases hc : c.call { args := vs, named := ns, render } with
  | ok v => exact C.done ⟨rfl, h v hc⟩
  | error k =>
    cases k with
    | exhausted => exact hexhausted hc
    | problem q =>
      obtain ⟨q', hq'⟩ := calledBy_problem kind c vs ns q
      simp only [Except.map, Except.mapError, hq']
      exact C.halted (hcalls vs ns q q' hc hq')

/-- What is printed is a text marked safe, an escaped one, or any where nothing is escaped. -/
theorem print {setting : Setting} {v : Value}
    (hwrite : ∀ {s}, text s → C.rel Eq (Render.write s) (Render.write s))
    (hmarkup : ∀ s, v = .markup s → text s)
    (hescaped : ∀ {s r}, setting.env.escape s = .ok r → text r)
    (hunescaped : setting.escaping = false → ∀ s, text s) :
    C.rel Eq (Render.print setting v) (Render.print setting v) := by
  unfold Render.print
  split
  · exact hwrite (hmarkup _ rfl)
  · refine C.bind (C.ofPlain (fun _ _ => trivial) (Value.plainly_display _)) ?_
    rintro s _ ⟨rfl, -⟩
    split
    · refine C.bind (C.ofFault fun r hr => hescaped hr) ?_
      rintro r _ ⟨rfl, hr⟩
      exact hwrite hr
    · rename_i h
      exact hwrite (hunescaped (by simpa using h) s)

/-- A filter block where any text may be written. -/
theorem runFilter {setting : Setting} {name : String} {links links' : Links} {m n : Render Unit}
    {ms ns : List (Render Value)} {xs ys : List (String × Render Value)}
    (hrender : links.render = links'.render)
    (hwrite : ∀ s, C.rel Eq (Render.write s) (Render.write s))
    (hbody : C.rel (Same text) (Render.captured m) (Render.captured n))
    (hargs : List.Forall₂ (C.rel (Same value)) ms ns) (hnamed : C.Named value xs ys)
    (hexhausted : ∀ {c vs vals}, setting.env.lookup .filter name = .ok c →
      c.call { args := vs, named := vals, render := links.render } = .error .exhausted →
      C.rel (Same fun _ : Value => True) (Render.halt .exhausted) (Render.halt .exhausted))
    (hcalls : ∀ c, setting.env.lookup .filter name = .ok c →
      C.Allows links.render .filter c := by exact fun _ _ _ _ _ _ _ _ => trivial) :
    C.rel Eq (Render.runFilter links setting name m ms xs)
      (Render.runFilter links' setting name n ns ys) := by
  unfold Render.runFilter
  refine C.bind hbody ?_
  rintro text _ ⟨rfl, -⟩
  refine C.arguments hargs hnamed fun vs ns _ _ => ?_
  refine C.bind (C.ofUnplaced (fun c hc => hc) (setting.env.plainly_lookup _ _)) ?_
  rintro c _ ⟨rfl, hc⟩
  refine C.bind (C.invoke (p := fun _ => True) hrender (fun _ _ => trivial) (hexhausted hc)
    (hcalls c hc)) ?_
  rintro v _ ⟨rfl, -⟩
  refine C.bind (C.ofPlain (fun _ _ => trivial) (Value.plainly_display _)) ?_
  rintro s _ ⟨rfl, -⟩
  exact hwrite s

/-- An include that the limit allows is related where what it starts is. -/
theorem allowing {V : α → α → Prop} {t : Template} {m n : Render α}
    (hplace : C.rel (fun l l' => ∀ name, l.checkInclude name = l'.checkInclude name) Render.place
      Render.place)
    (h : C.rel V (including t m) (including t n))
    (hrefused : ∀ l : Location, ∀ e, l.checkInclude t.name = .error e →
      C.problem (.ofRuntime e) := by exact fun _ _ _ => trivial) :
    C.rel V (Render.allowing t m) (Render.allowing t n) := by
  unfold Render.allowing
  refine C.bind hplace ?_
  intro l l' hl
  rw [hl]
  cases hcheck : l'.checkInclude t.name with
  | error e =>
    exact C.bind (V := fun _ _ => False) (C.halted (hrefused l' e hcheck)) fun _ _ h => h.elim
  | ok _ => exact h

/-- The first registered template of some names is included, and to find none may be a problem. -/
theorem runInclude {setting : Setting} {start start' : Template → Render Unit}
    (h : ∀ {name t}, setting.templates.get? name = some t →
      C.rel Eq (Render.allowing t (start t)) (Render.allowing t (start' t)))
    (names : List String) (ignoreMissing : Bool)
    (hmissing : ignoreMissing = false → names.findSome? setting.templates.get? = none →
      C.problem (noInclude names) := by exact fun _ _ => trivial) :
    C.rel Eq (Render.runInclude start setting names ignoreMissing)
      (Render.runInclude start' setting names ignoreMissing) := by
  unfold Render.runInclude
  split
  · rename_i hnone
    exact C.ite (fun _ => C.done rfl) fun h => C.halted (hmissing (by simpa using h) hnone)
  · rename_i t hfound
    obtain ⟨name, -, hname⟩ := List.exists_of_findSome?_eq_some hfound
    exact h hname

/-- Parameters are bound to the arguments of a call or to what their defaults evaluate to. -/
theorem assignParams {calls calls' : Calls} {fullName : String} {bound : List (String × Value)}
    (hassign : ∀ {name v}, value v → C.rel Eq (Render.assign name v) (Render.assign name v))
    (hbound : ∀ a ∈ bound, value a.2) : ∀ params : List Param,
      (∀ q ∈ params, ∀ n, q.default = some n →
        C.rel (Same value) (calls.value n) (calls'.value n)) →
      C.rel Eq (Render.assignParams calls fullName bound params)
        (Render.assignParams calls' fullName bound params)
  | [], _ => C.done rfl
  | q :: rest, h => by
    have hrest : C.rel Eq (Render.assignParams calls fullName bound rest)
        (Render.assignParams calls' fullName bound rest) :=
      assignParams hassign hbound rest fun q hq => h q (List.mem_cons_of_mem _ hq)
    rw [Render.assignParams, Render.assignParams]
    split
    · rename_i v hv
      obtain ⟨before, after, rfl, -⟩ := List.lookup_eq_some_iff.1 hv
      exact C.seq (hassign (hbound (q.name, v) (by simp))) hrest
    · rename_i n _ hn
      refine C.bind (h q (by simp) n hn) ?_
      rintro v _ ⟨rfl, hv⟩
      exact C.seq (hassign hv) hrest
    · exact C.raiseThen _ _ _

end Congruence

/-! ### Macros -/

/-- What a setting has to keep for the search for macros to be related. -/
structure Lookups (setting : Setting) extends Congruence where
  template : Template → Prop
  agree : RenderState → RenderState → Prop
  registered : ∀ {name t}, setting.templates.get? name = some t → template t
  state : rel agree Render.state Render.state
  target : ∀ {s t}, agree s t → Same (fun o => ∀ x ∈ o, template x) s.targets.head? t.targets.head?
  active : rel (Same template) Render.active Render.active
  ancestor : ∀ {t name q}, template t → name ∈ t.parents →
    Environment.ofTemplate (setting.template name) = .error q → problem q := by
      exact fun _ _ _ => trivial
  imported : ∀ {t space v q}, template t → Render.searchSpaces.spaceIn space t = some v →
    setting.templateOf v = .error q → problem q := by exact fun _ _ _ => trivial

namespace Lookups

variable {setting : Setting} (S : Lookups setting)

/-- A namespace stands for something in a template that may be met. -/
def Spaced (space : String) (v : Value) : Prop :=
  ∃ t, S.template t ∧ Render.searchSpaces.spaceIn space t = some v

/-- The search for a namespace meets the same templates. -/
theorem searchSpaces (space : String) : ∀ names : List String,
    (∀ name ∈ names, ∀ q, Environment.ofTemplate (setting.template name) = .error q →
      S.problem q) →
    S.rel (Same fun o => ∀ v, o = some v → S.Spaced space v)
      (Render.searchSpaces setting space names) (Render.searchSpaces setting space names)
  | [], _ => S.done ⟨rfl, by simp⟩
  | name :: rest, h => by
    rw [Render.searchSpaces]
    refine S.bind (S.ofProblem (fun t ht => S.registered (Setting.get?_of_template ht))
      (h name (by simp))) ?_
    rintro t _ ⟨rfl, ht⟩
    cases hspace : Render.searchSpaces.spaceIn space t with
    | some found => exact S.done ⟨rfl, by rintro _ ⟨⟩; exact ⟨t, ht, hspace⟩⟩
    | none => exact searchSpaces space rest fun name hname => h name (List.mem_cons_of_mem _ hname)

/-- A namespace that has been found stands for a registered template. -/
theorem templateOf {space : String} {v : Value} (h : S.Spaced space v) :
    S.rel (Same S.template) (Render.ofProblem (setting.templateOf v))
      (Render.ofProblem (setting.templateOf v)) := by
  obtain ⟨owner, howner, hspace⟩ := h
  refine S.ofProblem (fun t ht => ?_) fun q => S.imported howner hspace
  obtain ⟨name, hname⟩ := Setting.get?_of_templateOf ht
  exact S.registered hname

theorem inTargets (space : String) :
    S.rel (Same S.template) (Render.spaceTemplate.inTargets setting space)
      (Render.spaceTemplate.inTargets setting space) := by
  unfold Render.spaceTemplate.inTargets
  refine S.bind S.state ?_
  intro s t hst
  obtain ⟨hhead, htarget⟩ := S.target hst
  -- Only the heads are known to agree, which is enough: none of the others is looked at.
  match hs : s.targets, ht : t.targets with
  | [], [] => exact S.raise _
  | [], _ :: _ => simp [hs, ht] at hhead
  | _ :: _, [] => simp [hs, ht] at hhead
  | x :: _, y :: _ =>
    obtain rfl : x = y := by simpa [hs, ht] using hhead
    have hx : S.template x := htarget x (by simp [hs])
    dsimp only
    cases hspace : Render.searchSpaces.spaceIn space x with
    | some found => exact S.templateOf ⟨x, hx, hspace⟩
    | none =>
      refine S.bind (S.searchSpaces space x.parents fun name hname q => S.ancestor hx hname) ?_
      rintro o _ ⟨rfl, ho⟩
      cases o with
      | some found => exact S.templateOf (ho found rfl)
      | none => exact S.raise _

theorem spaceTemplate (space : String) :
    S.rel (Same S.template) (Render.spaceTemplate setting space)
      (Render.spaceTemplate setting space) := by
  unfold Render.spaceTemplate
  refine S.bind S.active ?_
  rintro running _ ⟨rfl, hrunning⟩
  refine S.ite (fun _ => S.done ⟨rfl, hrunning⟩) fun _ => ?_
  cases hspace : Render.searchSpaces.spaceIn space running with
  | some found => exact S.templateOf ⟨running, hrunning, hspace⟩
  | none =>
    refine S.bind (S.searchSpaces space running.parents fun name hname q =>
      S.ancestor hrunning hname) ?_
    rintro o _ ⟨rfl, ho⟩
    cases o with
    | some found => exact S.templateOf (ho found rfl)
    | none => exact S.inTargets space

/-- A macro that is found is one of a template that may be met. -/
theorem findMacro (space name : String) :
    S.rel (Same fun x => S.template x.1 ∧ x.1.macros.get? name = some x.2)
      (Render.findMacro setting space name) (Render.findMacro setting space name) := by
  unfold Render.findMacro
  refine S.bind (S.spaceTemplate space) ?_
  rintro t _ ⟨rfl, ht⟩
  cases hm : t.macros.get? name with
  | some m => exact S.done ⟨rfl, ht, hm⟩
  | none => exact S.raise _

end Lookups

/-! ### Simulations -/

/-- What a setting has to keep for the runs of everything in it to be related. -/
structure Simulation (setting : Setting) extends Lookups setting where
  node : Node → Prop
  chain : BlockChain → Prop
  value : Value → Prop
  text : String → Prop
  hereditary : Value.Hereditary value
  markup : ∀ {s}, value (.markup s) ↔ text s
  escaped : ∀ {s r}, setting.env.escape s = .ok r → text r
  unescaped : setting.escaping = false → ∀ s, text s
  const : ∀ {p v}, node (.const p v) → value v
  data : ∀ {p s}, node (.data p s) → text s
  raw : ∀ {p s}, node (.raw p s) → text s
  function : ∀ {p name args named c inv v}, node (.call p name args named) →
    setting.env.lookup .function name = .ok c → (∀ v ∈ inv.args, value v) →
    (∀ a ∈ inv.named, value a.2) → c.call inv = .ok v → value (demoted c v)
  filter : ∀ {p operand name args named c v vs ns render w},
    node (.filter p operand name args named) → setting.env.lookup .filter name = .ok c →
    (value v ∨ (Filter.isLenient name = true ∧ v = .undefined)) → (∀ v ∈ vs, value v) →
    (∀ a ∈ ns, value a.2) → c.call { args := v :: vs, named := ns, render } = .ok w →
    value (demoted c w)
  filterBlock : ∀ {p name body args named}, node (.filterBlock p name body args named) → ∀ s, text s
  code : ∀ {t}, template t → t.Every node
  code_of_chain : ∀ {definitions}, chain definitions → definitions.Every node
  recorded : ∀ {t}, template t → ∀ name, chain (t.chain name)
  defined : ∀ {t b}, template t → (∀ n ∈ b.body, n.Every node) → chain [(t.name, b)]
  owner : ∀ {definitions e q}, chain definitions → e ∈ definitions →
    Environment.ofTemplate (setting.template e.1) = .error q → problem q := by
      exact fun _ _ _ => trivial
  missing : ∀ {p names}, node (.include p names false) →
    names.findSome? setting.templates.get? = none → problem (noInclude names) := by
      exact fun _ _ => trivial
  pending : ∀ {s t}, agree s t → s.pending = t.pending
  loop : ∀ {s t}, agree s t → s.stack.currentLoop.isNone = t.stack.currentLoop.isNone
  block : ∀ {s t}, agree s t → Same (fun o => ∀ name position definitions,
    o = some (.block name position definitions) → chain definitions)
      (s.stack.currentBlock.map Frame.kind) (t.stack.currentBlock.map Frame.kind)
  find : ∀ name, rel (Same (Value.Found value)) (Render.find name) (Render.find name)
  undefinedAt : ∀ {α : Type} {V : α → α → Prop} n,
    rel V (Render.undefinedAt n) (Render.undefinedAt n)
  exhausted : ∀ {α : Type} {V : α → α → Prop},
    rel V (Render.halt .exhausted) (Render.halt .exhausted)
  requested : rel Eq Render.requested Render.requested
  atLine : ∀ line, rel Eq (Render.atLine line) (Render.atLine line)
  proceed : rel Eq (change fun s => { s with pending := false })
    (change fun s => { s with pending := false })
  interrupt : ∀ signal : Signal,
    rel Eq (change fun s =>
        { s with stack := s.stack.changeLoop (·.request signal), pending := true })
      (change fun s => { s with stack := s.stack.changeLoop (·.request signal), pending := true })
  write : ∀ {s}, text s → rel Eq (Render.write s) (Render.write s)
  assign : ∀ {name v}, value v → rel Eq (Render.assign name v) (Render.assign name v)
  assignWide : ∀ {name v}, value v → rel Eq (Render.assignWide name v) (Render.assignWide name v)
  inScope : ∀ {α : Type} {V : α → α → Prop} {f m n}, Frame.Admitted template value chain f →
    rel V m n → rel V (Render.inScope f m) (Render.inScope f n)
  inTemplate : ∀ {α : Type} {V : α → α → Prop} {name m n}, rel V m n →
    rel V (Render.inTemplate name m) (Render.inTemplate name n)
  captured : ∀ {m n}, rel Eq m n → rel (Same text) (Render.captured m) (Render.captured n)
  allowing : ∀ {α : Type} {V : α → α → Prop} {t m n}, template t → rel V m n →
    rel V (Render.allowing t m) (Render.allowing t n)

namespace Simulation

variable {setting : Setting} (S : Simulation setting)

theorem print {v : Value} (hv : S.value v) :
    S.rel Eq (Render.print setting v) (Render.print setting v) := by
  refine S.toCongruence.print S.write (fun s hs => ?_) S.escaped S.unescaped
  subst hs
  exact S.markup.1 hv

theorem request (signal : Signal) :
    S.rel Eq (Render.request signal) (Render.request signal) := by
  unfold Render.request
  refine S.bind S.state ?_
  intro s t hst
  rw [S.loop hst]
  exact S.ite (fun _ => S.raise _) fun _ => S.interrupt signal

/-- A filter block is only met where any text may be written. -/
theorem runFilter {p : Pos} {name : String} {body : List Node} {args : List Node}
    {named : List (String × Node)} {links links' : Links} {m n : Render Unit}
    {ms ns : List (Render Value)} {xs ys : List (String × Render Value)}
    (hrender : links.render = links'.render)
    (hnode : S.node (.filterBlock p name body args named)) (hbody : S.rel Eq m n)
    (hargs : List.Forall₂ (S.rel (Same S.value)) ms ns) (hnamed : S.Named S.value xs ys)
    (hcalls : ∀ c, setting.env.lookup .filter name = .ok c →
      S.Allows links.render .filter c := by exact fun _ _ _ _ _ _ _ _ => trivial) :
    S.rel Eq (Render.runFilter links setting name m ms xs)
      (Render.runFilter links' setting name n ns ys) :=
  S.toCongruence.runFilter hrender (fun s => S.write (S.filterBlock hnode s)) (S.captured hbody)
    hargs hnamed (fun _ _ => S.exhausted) hcalls

/-- A macro that is found runs nothing but nodes that may be met. -/
theorem findMacro (space name : String) :
    S.rel (Same fun x => S.template x.1 ∧ x.2.Every S.node)
      (Render.findMacro setting space name) (Render.findMacro setting space name) := by
  refine S.mono (S.toLookups.findMacro space name) ?_
  rintro x _ ⟨rfl, ht, hm⟩
  exact ⟨rfl, ht, (S.code ht).macros hm⟩

/-! ### What calls start -/

section

variable {calls calls' : Calls}
  (hbody : ∀ ns, (∀ n ∈ ns, n.Every S.node) → S.rel Eq (calls.body ns) (calls'.body ns))
  (hvalue : ∀ n, n.Every S.node → S.rel (Same S.value) (calls.value n) (calls'.value n))

include hbody hvalue in
/-- A macro keeps the relation with a text that may be met. -/
theorem runMacro {t : Template} {m : Macro} {fullName : String} {bound : List (String × Value)}
    (ht : S.template t) (hm : m.Every S.node) (hbound : ∀ a ∈ bound, S.value a.2) :
    S.rel (Same S.value) (Render.runMacro calls t m fullName bound)
      (Render.runMacro calls' t m fullName bound) := by
  have hframe : Frame.Admitted S.template S.value S.chain (.call m.name t) :=
    ⟨ht, by simp [Frame.call], by simp [Frame.call, FrameKind.loop?], by simp [Frame.call]⟩
  unfold Render.runMacro
  refine S.bind (S.inScope hframe (S.inTemplate (S.captured ?_))) ?_
  · exact S.seq (S.toCongruence.assignParams S.assign hbound m.params
      fun q hq n hn => hvalue n (hm.default q hq n hn)) (hbody m.body hm.body)
  · rintro s _ ⟨rfl, hs⟩
    exact S.done ⟨rfl, S.markup.2 hs⟩

include hbody in
/-- A definition of a chain keeps the relation. -/
theorem runDefinition {name : String} {chain : BlockChain} {position : Int}
    (hchain : S.chain chain) :
    S.rel Eq (Render.runDefinition calls setting name chain position)
      (Render.runDefinition calls' setting name chain position) := by
  unfold Render.runDefinition
  split
  · exact S.failure _
  · rename_i owner b he
    have hmem := BlockChain.mem_of_entry? he
    refine S.bind (S.ofProblem (fun t ht => S.registered (Setting.get?_of_template ht))
      fun q => S.owner hchain hmem) ?_
    rintro t _ ⟨rfl, ht⟩
    have hframe : Frame.Admitted S.template S.value S.chain (.block name position chain t) :=
      ⟨ht, by simp [Frame.block], by simp [Frame.block, FrameKind.loop?], by
        rintro _ _ _ h
        cases h
        exact hchain⟩
    exact S.inTemplate (S.inScope hframe (hbody b.body (S.code_of_chain hchain _ hmem)))

include hbody in
theorem runBlock {name : String} {body : List Node} (h : ∀ n ∈ body, n.Every S.node) :
    S.rel Eq (Render.runBlock calls setting name body)
      (Render.runBlock calls' setting name body) := by
  unfold Render.runBlock
  refine S.bind S.state ?_
  intro s t hst
  obtain ⟨hhead, htemplate⟩ := S.target hst
  rw [← hhead]
  split
  · refine S.bind S.active ?_
    rintro running _ ⟨rfl, hrunning⟩
    exact S.runDefinition hbody (S.defined hrunning h)
  · rename_i hknown
    refine S.runDefinition hbody ?_
    -- A chain was found, so there is a target that has recorded it.
    cases hx : s.targets.head? with
    | none => exact absurd (by rw [hx]; rfl) hknown
    | some x => exact S.recorded (htemplate x hx) name

include hbody in
theorem runSuper : S.rel Eq (Render.runSuper calls setting) (Render.runSuper calls' setting) := by
  unfold Render.runSuper
  refine S.bind S.state ?_
  intro s t hst
  obtain ⟨hkind, hchain⟩ := S.block hst
  rw [← hkind]
  split
  · rename_i h
    exact S.ite (fun _ => S.runDefinition hbody (hchain _ _ _ h)) fun _ => S.raise _
  · exact S.raise _

include hbody in
theorem runTemplate {t : Template} (ht : S.template t) :
    S.rel Eq (Render.runTemplate calls setting t) (Render.runTemplate calls' setting t) := by
  have hentry : ∀ e e' : Template, Same S.template e e' →
      S.rel Eq (Render.inTemplate e.name (Render.inScope (.root e) (calls.body e.document.body)))
        (Render.inTemplate e'.name
          (Render.inScope (.root e') (calls'.body e'.document.body))) := by
    rintro e _ ⟨rfl, he⟩
    have hframe : Frame.Admitted S.template S.value S.chain (.root e) :=
      ⟨he, by simp [Frame.root], by simp [Frame.root, FrameKind.loop?], by simp [Frame.root]⟩
    exact S.inTemplate (S.inScope hframe (hbody _ (S.code he).body))
  unfold Render.runTemplate
  split
  · rename_i name hname
    exact S.bind (S.ofProblem (fun u hu => S.registered (Setting.get?_of_template hu))
      fun q => S.ancestor ht (List.mem_of_getLast? hname)) hentry
  · exact hentry t t ⟨rfl, ht⟩

include hbody in
theorem runInclude {p : Pos} {names : List String} {ignoreMissing : Bool}
    (hnode : S.node (.include p names ignoreMissing)) :
    S.rel Eq (Render.runInclude (Render.runTemplate calls setting) setting names ignoreMissing)
      (Render.runInclude (Render.runTemplate calls' setting) setting names ignoreMissing) :=
  S.toCongruence.runInclude
    (fun h => S.allowing (S.registered h) (S.runTemplate hbody (S.registered h)))
    names ignoreMissing fun hraise => S.missing (hraise ▸ hnode)

end

/-- The problems of capabilities may be met where they are given a way to render templates. -/
def Calling (render : String → Except Halt String) : Prop :=
  ∀ kind name c, setting.env.lookup kind name = .ok c → S.Allows render kind c

/-- What nodes refer to is related where what it starts is. -/
def execution {calls calls' : Calls} (hrender : calls.render = calls'.render)
    (hbody : ∀ ns, (∀ n ∈ ns, n.Every S.node) → S.rel Eq (calls.body ns) (calls'.body ns))
    (hvalue : ∀ n, n.Every S.node → S.rel (Same S.value) (calls.value n) (calls'.value n))
    (hcalls : S.Calling calls.render := by exact fun _ _ _ _ _ _ _ _ _ _ => trivial) :
    Execution (linked calls setting) (linked calls' setting) setting setting where
  toCongruence := S.toCongruence
  node := S.node
  value := S.value
  holds := fun t m => S.template t ∧ m.Every S.node
  hereditary := S.hereditary
  const := S.const
  find := S.find
  undefinedAt := S.undefinedAt
  lookup := .refl setting
  function := fun hnode hc hvs hns =>
    S.invoke hrender (fun _ => S.function hnode hc hvs hns) (fun _ => S.exhausted)
      (hcalls _ _ _ hc)
  filter := fun hnode hc hv hvs hns =>
    S.invoke hrender (fun _ => S.filter hnode hc hv hvs hns) (fun _ => S.exhausted)
      (hcalls _ _ _ hc)
  test := fun _ hc _ _ => S.mono
    (S.invoke (p := fun _ => True) hrender (fun _ _ => trivial) (fun _ => S.exhausted)
      (hcalls _ _ _ hc))
    fun _ _ h => h.1
  findMacro := fun _ => S.findMacro _ _
  runMacro := fun h hbound => S.runMacro hbody hvalue h.1 h.2 hbound
  statement := fun n => n.Every S.node
  template := S.template
  agree := S.agree
  state := S.state
  pending := S.pending
  active := S.active
  proceed := S.proceed
  requested := S.requested
  request := S.request
  iteration := fun ht hl h => S.inScope
    ⟨ht, by simp [Frame.iteration], by rintro _ ⟨⟩; exact hl, by simp [Frame.iteration]⟩ h
  data := fun h => S.write (S.data h.self)
  raw := fun h => S.write (S.raw h.self)
  print := S.print
  assign := S.assign
  assignWide := S.assignWide
  filterBlock := fun h hbody hargs hnamed =>
    S.runFilter hrender h.self hbody hargs hnamed fun _ => hcalls _ _ _
  block := fun h => S.runBlock hbody fun _ hn => h.child hn
  super := fun _ => S.runSuper hbody
  included := fun h => S.runInclude hbody h.self
  executed := fun h => h
  atLine := S.atLine

/-- However deep calls nest, the bodies and expressions that they run are related. -/
theorem calls (depth : Nat)
    (hcalls : ∀ depth, S.Calling (Render.calls depth setting).render := by
      exact fun _ _ _ _ _ _ _ _ _ _ _ => trivial) :
    (∀ ns, (∀ n ∈ ns, n.Every S.node) →
      S.rel Eq ((Render.calls depth setting).body ns) ((Render.calls depth setting).body ns)) ∧
    ∀ n, n.Every S.node →
      S.rel (Same S.value) ((Render.calls depth setting).value n)
        ((Render.calls depth setting).value n) := by
  -- What a node starts is one level less deep; below that level the trees are followed.
  induction depth with
  | zero => exact ⟨fun _ _ => S.exhausted, fun _ _ => S.exhausted⟩
  | succ depth ih =>
    refine ⟨(S.execution rfl ih.1 ih.2 (hcalls depth)).execAll, fun n hn => ?_⟩
    exact S.mono ((S.execution rfl ih.1 ih.2 (hcalls depth)).eval false n hn)
      fun _ _ h => ⟨h.1, h.2.strict⟩

end Simulation

/-- Renders that capabilities ask for are the same if those of all registered templates end alike,
    with the same output. -/
theorem named_congr {start start' : Setting → Template → Render Unit} {env : Environment}
    (h : ∀ name t, env.templates.get? name = some t →
      let s := initial (Render.setting env t) t {} .buffer
      let ended := whole (Render.setting env t) (start (Render.setting env t) t) s
      let ended' := whole (Render.setting env t) (start' (Render.setting env t) t) s
      ended.1 = ended'.1 ∧ ended.2.chunks = ended'.2.chunks) :
    named start env = named start' env := by
  funext name
  unfold named Environment.getTemplate
  cases hname : env.templates.get? name with
  | none => rfl
  | some t =>
    obtain ⟨hresult, hchunks⟩ := h name t hname
    dsimp only at hresult hchunks ⊢
    rw [hresult, hchunks]

end Render

end Stencil
