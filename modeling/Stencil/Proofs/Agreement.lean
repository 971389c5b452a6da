import Stencil.Proofs.Code
import Stencil.Proofs.Reach

/-! Two renders side by side. Two settings *agree* if the code of the templates of the first one finds
    the same in both: parents, imports, owners of block definitions, includes and capabilities. The
    renders may have other templates as targets, as long as blocks and namespaces are found there
    alike. Beside each other two such renders are then in states that are the same but for the
    targets, from step to step, and so they write the same and end in the same way. -/

namespace Stencil

namespace Render

/-- The template that a namespace stands for in a template or its ancestors, or what is done if it
    stands for none there. -/
def searchFrom (setting : Setting) (space : String) (t : Template) (otherwise : Render Template) :
    Render Template :=
  match searchSpaces.spaceIn space t with
  | some found => ofProblem (setting.templateOf found)
  | none => searchSpaces setting space t.parents >>= fun o =>
    match o with
    | some found => ofProblem (setting.templateOf found)
    | none => otherwise

theorem inTargets_eq (setting : Setting) (space : String) :
    spaceTemplate.inTargets setting space = state >>= fun s =>
      match s.targets with
      | [] => spaceTemplate.missing space
      | t :: _ => searchFrom setting space t (spaceTemplate.missing space) := rfl

theorem spaceTemplate_eq (setting : Setting) (space : String) :
    spaceTemplate setting space = active >>= fun running =>
      if space = "self" then done running
      else searchFrom setting space running (spaceTemplate.inTargets setting space) := rfl

/-- The code of the templates of the first setting finds the same in both settings, and targets may
    be such that blocks and namespaces are found there alike. -/
structure Agreement (left right : Setting) where
  node : Node → Prop
  code : ∀ {t}, Registered left.templates t → t.Every node
  parent : ∀ {t name}, Registered left.templates t → name ∈ t.parents →
    left.template name = right.template name
  imported : ∀ {t space v}, Registered left.templates t → searchSpaces.spaceIn space t = some v →
    left.templateOf v = right.templateOf v
  owner : ∀ {t block e}, Registered left.templates t → e ∈ t.chain block →
    left.template e.1 = right.template e.1
  own : ∀ {t}, Registered left.templates t → left.template t.name = right.template t.name
  included : ∀ {p names ignoreMissing}, node (.include p names ignoreMissing) →
    names.findSome? left.templates.get? = names.findSome? right.templates.get?
  capabilities : SameCapabilities left right
  called : ∀ {depth kind name c}, left.env.lookup kind name = .ok c → ∀ args named,
    c.call { args, named, render := (calls depth left).render } =
      c.call { args, named, render := (calls depth right).render }
  escape : left.env.escape = right.env.escape
  escaping : left.escaping = right.escaping
  macroLimit : left.env.macroLimit = right.env.macroLimit
  includeLimit : left.env.includeLimit = right.env.includeLimit
  target : Template → Template → Prop
  known : ∀ {t u}, target t u → Registered left.templates t ∧ Registered left.templates u
  chain : ∀ {t u}, target t u → t.chain = u.chain
  search : ∀ {t u}, target t u → ∀ space otherwise,
    searchFrom left space t otherwise = searchFrom left space u otherwise
  same : ∀ {t}, Registered left.templates t → target t t

/-! ### What does not depend on the setting -/

section

variable {left right : Setting}

theorem searchSpaces_congr (space : String) : ∀ {names : List String},
    (∀ name ∈ names, left.template name = right.template name) →
      searchSpaces left space names = searchSpaces right space names
  | [], _ => rfl
  | name :: rest, h => by
    rw [searchSpaces, searchSpaces, h name (List.mem_cons_self ..),
      searchSpaces_congr space fun n hn => h n (List.mem_cons_of_mem _ hn)]

/-- What is printed depends on the escaping alone. -/
theorem print_congr (hescape : left.env.escape = right.env.escape)
    (hescaping : left.escaping = right.escaping) (v : Value) : print left v = print right v := by
  unfold print
  rw [hescape, hescaping]

/-- What an include starts depends on the template that it finds. -/
theorem runInclude_congr {names : List String}
    (h : names.findSome? left.templates.get? = names.findSome? right.templates.get?)
    (start : Template → Render Unit) (ignoreMissing : Bool) :
    runInclude start left names ignoreMissing = runInclude start right names ignoreMissing := by
  unfold runInclude
  rw [h]

/-- A capability that answers the same whichever way to render it is given. -/
theorem invoke_congr {render render' : String → Except Halt String} {kind : CapabilityKind}
    {c : Capability} {args : List Value} {named : List (String × Value)}
    (h : c.call { args, named, render } = c.call { args, named, render := render' }) :
    invoke render kind c args named = invoke render' kind c args named := by
  unfold invoke
  rw [h]

/-- A filter block depends on the filter alone. -/
theorem runFilter_congr {links links' : Links} {name : String}
    (hlookup : left.env.lookup .filter name = right.env.lookup .filter name)
    (hcall : ∀ c, left.env.lookup .filter name = .ok c → ∀ args named,
      c.call { args, named, render := links.render } =
        c.call { args, named, render := links'.render })
    (body : Render Unit) (args : List (Render Value)) (named : List (String × Render Value)) :
    runFilter links left name body args named = runFilter links' right name body args named := by
  unfold runFilter
  rw [← hlookup]
  cases hc : left.env.lookup .filter name with
  | error e => rfl
  | ok c =>
    have hinvoke : ∀ text vs ns, invoke links.render .filter c (.text text :: vs) ns =
        invoke links'.render .filter c (.text text :: vs) ns :=
      fun _ _ _ => invoke_congr (hcall c hc _ _)
    simp only [ofRuntime, done_bind, hinvoke]

end

namespace Agreement

variable {left right : Setting} (A : Agreement left right)

/-- The definitions of a chain run nodes that may be met and are owned by the same templates. -/
def Chain (definitions : BlockChain) : Prop :=
  definitions.Every A.node ∧ ∀ e ∈ definitions, left.template e.1 = right.template e.1

/-- All that a render reaches in a state are templates and definitions of the first setting. -/
abbrev Reached (s : RenderState) : Prop :=
  s.Admitted (Registered left.templates) (fun _ => True) A.Chain

/-- The states are the same but for the targets, which correspond one to one. -/
structure Beside (s t : RenderState) : Prop where
  rest : ∃ targets, t = { s with targets } ∧ List.Forall₂ A.target s.targets targets
  reached : A.Reached s

/-- Renders that stay beside each other, or halt with the same halt. -/
def runs : Correspondence Unit where
  states _ := A.Beside
  halts _ h s k t := h = k ∧ A.Beside s t
  halted _ hst := ⟨rfl, hst⟩

variable {α : Type} {V : α → α → Prop} {p : α → Prop} {m n : Render α} {A}

/-- The computation looks at no targets and changes none. -/
def Untargeted (m : Render α) : Prop :=
  ∀ s targets, m { s with targets } = ((m s).1, { (m s).2 with targets })

/-- A step that looks at no targets. -/
theorem step (hm : Untargeted m)
    (h : ∀ s, A.Reached s → (∀ a, (m s).1 = .ok a → p a) ∧ A.Reached (m s).2) :
    A.runs.congruence.rel (Same p) m m := by
  rintro _ s _ ⟨⟨targets, rfl, htargets⟩, hs⟩
  obtain ⟨hresult, hreached⟩ := h s hs
  have hsame : (m s).2.targets = s.targets := by
    have hself : m s = ((m s).1, { (m s).2 with targets := s.targets }) := hm s s.targets
    exact congrArg (fun x => x.2.targets) hself
  have hbeside : A.Beside (m s).2 { (m s).2 with targets } :=
    ⟨⟨targets, rfl, hsame ▸ htargets⟩, hreached⟩
  rw [hm s targets]
  generalize m s = x at hresult hbeside ⊢
  obtain ⟨r, u⟩ := x
  cases r with
  | ok a => exact .done ⟨rfl, hresult a rfl⟩ hbeside
  | error k => exact .halt ⟨rfl, hbeside⟩

/-- A step that looks at no targets, whatever its result. -/
theorem stepEq (hm : Untargeted m) (h : ∀ s, A.Reached s → A.Reached (m s).2) :
    A.runs.congruence.rel Eq m m := by
  have hstep : A.runs.congruence.rel (Same fun _ => True) m m :=
    step hm fun s hs => ⟨fun _ _ => trivial, h s hs⟩
  exact A.runs.congruence.mono hstep fun _ _ hab => hab.1

/-! ### Steps -/

theorem find (name : String) :
    A.runs.congruence.rel (Same (Value.Found fun _ => True)) (Render.find name)
      (Render.find name) :=
  step (fun _ _ => rfl) fun _ hs => ⟨fun _ _ => Or.inl trivial, hs⟩

theorem undefinedAt (n : Node) :
    A.runs.congruence.rel V (Render.undefinedAt n) (Render.undefinedAt n) := by
  have hstep : A.runs.congruence.rel (Same fun _ : α => False) (Render.undefinedAt n)
      (Render.undefinedAt n) := step (fun _ _ => rfl) fun s hs => ⟨by rintro a ⟨⟩, hs⟩
  exact A.runs.congruence.mono hstep fun _ _ h => h.2.elim

theorem requested : A.runs.congruence.rel Eq Render.requested Render.requested :=
  stepEq (fun _ _ => rfl) fun _ hs => hs

theorem atLine (line : Int) :
    A.runs.congruence.rel Eq (Render.atLine line) (Render.atLine line) := by
  unfold Render.atLine
  refine A.runs.congruence.ite (fun _ => A.runs.congruence.done rfl) fun _ => ?_
  exact stepEq (fun _ _ => rfl) fun _ hs => { hs with }

theorem proceed : A.runs.congruence.rel Eq (change fun s => { s with pending := false })
    (change fun s => { s with pending := false }) :=
  stepEq (fun _ _ => rfl) fun _ hs => { hs with }

/-- The running template is one of the first setting. -/
theorem active : A.runs.congruence.rel (Same (Registered left.templates)) Render.active
    Render.active := by
  have running : ∀ s, Render.active s = Render.ofRuntime s.stack.activeTemplate s := fun _ => rfl
  refine step (fun s targets => ?_) fun s hs => ?_
  · rw [running, running]
    cases s.stack.activeTemplate <;> rfl
  · rw [running]
    unfold CallStack.activeTemplate CallStack.current
    cases hf : s.stack.frames with
    | nil => exact ⟨by rintro a ⟨⟩, hs⟩
    | cons f rest =>
      refine ⟨?_, hs⟩
      rintro _ ⟨⟩
      exact (hs.frames f (by rw [hf]; exact List.mem_cons_self ..)).template

theorem place : A.runs.congruence.rel Eq Render.place Render.place := by
  refine stepEq (fun s targets => ?_) fun s hs => ?_
  · unfold Render.place
    rcases Option.eq_none_or_eq_some s.place with h | ⟨l, h⟩ <;> simp only [h]
  · unfold Render.place
    rcases Option.eq_none_or_eq_some s.place with h | ⟨l, h⟩ <;> simp only [h] <;> exact hs

theorem write (text : String) :
    A.runs.congruence.rel Eq (Render.write text) (Render.write text) := by
  refine stepEq (fun s targets => ?_) fun s hs => ?_
  · unfold Render.write
    cases hc : s.sink s.chunks text <;> rfl
  · unfold Render.write
    cases hc : s.sink s.chunks text
    · exact hs
    · exact { hs with }

theorem request (signal : Signal) :
    A.runs.congruence.rel Eq (Render.request signal) (Render.request signal) := by
  have requesting : ∀ s, Render.request signal s = (if s.stack.currentLoop.isNone
      then Render.raise (outsideLoop signal)
      else change fun s =>
        { s with stack := s.stack.changeLoop (·.request signal), pending := true }) s :=
    fun _ => rfl
  refine stepEq (fun s targets => ?_) fun s hs => ?_
  · rw [requesting, requesting]
    cases hloop : s.stack.currentLoop.isNone <;> rfl
  · rw [requesting]
    cases hloop : s.stack.currentLoop.isNone
    · exact { hs.interrupted signal with }
    · exact hs

theorem assign (name : String) (v : Value) :
    A.runs.congruence.rel Eq (Render.assign name v) (Render.assign name v) := by
  have assigned : ∀ s, Render.assign name v s = (Render.ofRuntime (s.stack.assign name v) >>=
      fun stack => change fun s => { s with stack }) s := fun _ => rfl
  refine stepEq (fun s targets => ?_) fun s hs => ?_
  · rw [assigned, assigned]
    cases s.stack.assign name v <;> rfl
  · rw [assigned]
    unfold CallStack.assign
    cases hf : s.stack.frames with
    | nil => exact hs
    | cons f rest => exact hs.assigned trivial hf

theorem assignWide (name : String) (v : Value) :
    A.runs.congruence.rel Eq (Render.assignWide name v) (Render.assignWide name v) := by
  have assigned : ∀ s, Render.assignWide name v s =
      (Render.ofRuntime (s.stack.assignWide name v) >>= fun stack =>
        change fun s => { s with stack }) s := fun _ => rfl
  refine stepEq (fun s targets => ?_) fun s hs => ?_
  · rw [assigned, assigned]
    cases s.stack.assignWide name v <;> rfl
  · rw [assigned]
    unfold CallStack.assignWide
    cases hf : CallStack.assignWideIn name v s.stack.frames with
    | none => exact hs
    | some frames => exact hs.assignedWide trivial hf

/-! ### Scopes -/

/-- A change of both states that leaves the targets alone. -/
theorem Beside.changed {s t : RenderState} (h : A.Beside s t) {f : RenderState → RenderState}
    (hf : ∀ targets, f { s with targets } = { f s with targets })
    (hreached : A.Reached s → A.Reached (f s)) : A.Beside (f s) (f t) := by
  obtain ⟨⟨targets, rfl, htargets⟩, hs⟩ := h
  refine ⟨⟨targets, hf targets, ?_⟩, hreached hs⟩
  have hsame : (f { s with targets := s.targets }).targets = s.targets := by rw [hf]
  exact hsame ▸ htargets

theorem inScope {f : Frame} (hf : f.Admitted (Registered left.templates) (fun _ => True) A.Chain)
    (h : A.runs.congruence.rel V m n) :
    A.runs.congruence.rel V (Render.inScope f m) (Render.inScope f n) := by
  rintro i s _ ⟨⟨targets, rfl, htargets⟩, hs⟩
  unfold Render.inScope
  dsimp only
  cases hpush : s.stack.push f with
  | error e => exact .halt ⟨rfl, ⟨targets, rfl, htargets⟩, hs⟩
  | ok stack =>
    have hin : A.Beside { s with stack } { s with stack, targets } :=
      ⟨⟨targets, rfl, htargets⟩, hs.pushed hf hpush⟩
    have hleft : ∀ u v, A.Beside u v → A.Beside (popped u) (popped v) :=
      fun u v huv => huv.changed (fun _ => rfl) RenderState.Admitted.popped
    exact A.runs.ensuring (h i _ _ hin) hleft fun _ _ _ _ hh => ⟨hh.1, hleft _ _ hh.2⟩

theorem inTemplate {name : String} (h : A.runs.congruence.rel V m n) :
    A.runs.congruence.rel V (Render.inTemplate name m) (Render.inTemplate name n) := by
  rintro i s _ ⟨⟨targets, rfl, htargets⟩, hs⟩
  -- outside a template there is no place to enter from, and both sides halt alike
  rcases Option.eq_none_or_eq_some s.place with hplace | ⟨outer, hplace⟩
  · rw [inTemplate_of_none hplace, inTemplate_of_none (s := { s with targets }) hplace]
    exact .halt ⟨rfl, ⟨targets, rfl, htargets⟩, hs⟩
  · rw [inTemplate_of_place hplace, inTemplate_of_place (s := { s with targets }) hplace]
    have ends := h i { s with place := some (outer.enter name) }
      { s with targets, place := some (outer.enter name) }
      ⟨⟨targets, rfl, htargets⟩, { hs with }⟩
    -- on the way back the place is restored, which no target has a part in
    have hleft : ∀ u v, A.Beside u v → A.Beside (Render.left outer u) (Render.left outer v) := by
      intro u v huv
      refine huv.changed (f := Render.left outer) (fun targets => ?_) fun hu => ?_ <;>
        unfold Render.left <;>
        rcases Option.eq_none_or_eq_some u.place with h | ⟨l, h⟩ <;> simp only [h]
      · exact hu
      · exact { hu with }
    generalize m _ = x, n _ = y at ends ⊢
    cases ends with
    | done hab huv => exact .done hab (hleft _ _ huv)
    | @halt k k' u v hh =>
      obtain ⟨rfl, huv⟩ := hh
      have hrelocated : relocated u k = relocated v k := by
        obtain ⟨⟨_, rfl, -⟩, -⟩ := huv
        rfl
      exact .halt ⟨hrelocated, hleft _ _ huv⟩

theorem captured {m n : Render Unit} (h : A.runs.congruence.rel Eq m n) :
    A.runs.congruence.rel (Same fun _ => True) (Render.captured m) (Render.captured n) := by
  rintro i s _ ⟨⟨targets, rfl, htargets⟩, hs⟩
  have ends := h i { s with sink := .buffer, chunks := [] }
    { s with targets, sink := .buffer, chunks := [] } ⟨⟨targets, rfl, htargets⟩, { hs with }⟩
  have hleft : ∀ u v, A.Beside u v → A.Beside { u with sink := s.sink, chunks := s.chunks }
      { v with sink := s.sink, chunks := s.chunks } :=
    fun u v huv => huv.changed (f := fun u => { u with sink := s.sink, chunks := s.chunks })
      (fun _ => rfl) fun hu => { hu with }
  unfold Render.captured
  generalize m _ = x, n _ = y at ends ⊢
  cases ends with
  | @done _ _ u v _ huv =>
    have htext : Sink.contents u.chunks = Sink.contents v.chunks := by
      obtain ⟨⟨_, rfl, -⟩, -⟩ := huv
      rfl
    exact .done ⟨htext, trivial⟩ (hleft _ _ huv)
  | halt hh => exact .halt ⟨hh.1, hleft _ _ hh.2⟩

/-- An included template is the innermost target of both. -/
theorem including {t : Template} (ht : Registered left.templates t)
    (h : A.runs.congruence.rel V m n) :
    A.runs.congruence.rel V (Render.including t m) (Render.including t n) := by
  rintro i s _ ⟨⟨targets, rfl, htargets⟩, hs⟩
  have hin : A.Beside { s with targets := t :: s.targets, place := deeper 1 s.place }
      { s with targets := t :: targets, place := deeper 1 s.place } :=
    ⟨⟨_, rfl, .cons (A.same ht) htargets⟩, { hs.included ht with }⟩
  have hleft : ∀ u v, A.Beside u v →
      A.Beside { u with targets := u.targets.drop 1, place := deeper (-1) u.place }
        { v with targets := v.targets.drop 1, place := deeper (-1) v.place } := by
    rintro u _ ⟨⟨outer, rfl, houter⟩, hu⟩
    refine ⟨⟨outer.drop 1, rfl, ?_⟩, { hu.excluded with }⟩
    exact List.forall₂_drop 1 houter
  exact A.runs.ensuring (h i _ _ hin) hleft fun _ _ _ _ hh => ⟨hh.1, hleft _ _ hh.2⟩

theorem allowing {t : Template} (ht : Registered left.templates t)
    (h : A.runs.congruence.rel V m n) :
    A.runs.congruence.rel V (Render.allowing t m) (Render.allowing t n) := by
  refine A.runs.congruence.allowing ?_ (including ht h) fun _ _ _ => trivial
  refine A.runs.congruence.mono place ?_
  rintro l _ rfl name
  rfl

/-! ### Namespaces -/

/-- A namespace stands for a template of the first setting. -/
theorem templateOf {t : Template} (ht : Registered left.templates t) {space : String} {v : Value}
    (hv : searchSpaces.spaceIn space t = some v) :
    A.runs.congruence.rel (Same (Registered left.templates)) (ofProblem (left.templateOf v))
      (ofProblem (right.templateOf v)) := by
  rw [← A.imported ht hv]
  exact A.runs.congruence.ofProblem (fun u hu => Setting.get?_of_templateOf hu) fun _ _ => trivial

/-- What the ancestors of a template import is found alike. -/
theorem searchSpaces (space : String) : ∀ names : List String,
    A.runs.congruence.rel
      (Same fun o => ∀ v, o = some v →
        ∃ t, Registered left.templates t ∧ searchSpaces.spaceIn space t = some v)
      (Render.searchSpaces left space names) (Render.searchSpaces left space names)
  | [] => A.runs.congruence.done ⟨rfl, by simp⟩
  | name :: rest => by
    rw [Render.searchSpaces]
    refine A.runs.congruence.bind (A.runs.congruence.ofProblem (p := Registered left.templates)
      (fun t ht => left.registered (Setting.get?_of_template ht)) fun _ _ => trivial) ?_
    rintro t _ ⟨rfl, ht⟩
    cases hspace : searchSpaces.spaceIn space t with
    | some found => exact A.runs.congruence.done ⟨rfl, by rintro _ ⟨⟩; exact ⟨t, ht, hspace⟩⟩
    | none => exact searchSpaces space rest

theorem searchFrom {t : Template} (ht : Registered left.templates t) (space : String)
    {x y : Render Template}
    (hxy : A.runs.congruence.rel (Same (Registered left.templates)) x y) :
    A.runs.congruence.rel (Same (Registered left.templates)) (Render.searchFrom left space t x)
      (Render.searchFrom right space t y) := by
  unfold Render.searchFrom
  cases hspace : searchSpaces.spaceIn space t with
  | some v => exact templateOf ht hspace
  | none =>
    rw [← searchSpaces_congr space fun name hname => A.parent ht hname]
    refine A.runs.congruence.bind (searchSpaces space t.parents) ?_
    rintro o _ ⟨rfl, ho⟩
    cases o with
    | none => exact hxy
    | some v =>
      obtain ⟨u, hu, hv⟩ := ho v rfl
      exact templateOf hu hv

/-- The innermost targets, which may not be the same, lead to the same template. -/
theorem inTargets (space : String) :
    A.runs.congruence.rel (Same (Registered left.templates))
      (spaceTemplate.inTargets left space) (spaceTemplate.inTargets right space) := by
  rw [inTargets_eq, inTargets_eq]
  refine A.runs.congruence.bind A.runs.state ?_
  rintro s _ ⟨_, ⟨targets, rfl, htargets⟩, -⟩
  dsimp only
  generalize s.targets = outer at htargets
  cases htargets with
  | nil => exact A.runs.congruence.raise _ ⟨rfl, rfl, rfl⟩
  | cons htu _ =>
    dsimp only
    rw [A.search htu]
    exact searchFrom (A.known htu).2 space (A.runs.congruence.raise _ ⟨rfl, rfl, rfl⟩)

theorem spaceTemplate (space : String) :
    A.runs.congruence.rel (Same (Registered left.templates)) (Render.spaceTemplate left space)
      (Render.spaceTemplate right space) := by
  rw [spaceTemplate_eq, spaceTemplate_eq]
  refine A.runs.congruence.bind active ?_
  rintro running _ ⟨rfl, hrunning⟩
  exact A.runs.congruence.ite (fun _ => A.runs.congruence.done ⟨rfl, hrunning⟩) fun _ =>
    searchFrom hrunning space (inTargets space)

/-- The same macros are found. -/
theorem findMacro (space name : String) :
    A.runs.congruence.rel (Same fun x => Registered left.templates x.1 ∧ x.2.Every A.node)
      (Render.findMacro left space name) (Render.findMacro right space name) := by
  unfold Render.findMacro
  refine A.runs.congruence.bind (spaceTemplate space) ?_
  rintro t _ ⟨rfl, ht⟩
  cases hm : t.macros.get? name with
  | some m => exact A.runs.congruence.done ⟨rfl, ht, (A.code ht).macros hm⟩
  | none => exact A.runs.congruence.raise _ ⟨rfl, rfl, rfl⟩

/-! ### What calls start -/

/-- What may be met of the chains of the first setting. -/
theorem chain_of_registered {t : Template} (ht : Registered left.templates t) (block : String) :
    A.Chain (t.chain block) :=
  ⟨(A.code ht).chain block, fun _ he => A.owner ht he⟩

section

variable {calls calls' : Calls}
  (hbody : ∀ ns, (∀ n ∈ ns, n.Every A.node) →
    A.runs.congruence.rel Eq (calls.body ns) (calls'.body ns))
  (hvalue : ∀ n, n.Every A.node →
    A.runs.congruence.rel (Same fun _ => True) (calls.value n) (calls'.value n))

include hbody hvalue in
theorem runMacro {t : Template} (ht : Registered left.templates t) {m : Macro}
    (hm : m.Every A.node) (fullName : String) (bound : List (String × Value)) :
    A.runs.congruence.rel (Same fun _ => True) (Render.runMacro calls t m fullName bound)
      (Render.runMacro calls' t m fullName bound) := by
  have hframe : Frame.Admitted (Registered left.templates) (fun _ => True) A.Chain
      (.call m.name t) :=
    ⟨ht, by simp [Frame.call], by simp [Frame.call, FrameKind.loop?], by simp [Frame.call]⟩
  unfold Render.runMacro
  refine A.runs.congruence.bind (inScope hframe (inTemplate (captured ?_))) ?_
  · refine A.runs.congruence.seq ?_ (hbody m.body hm.body)
    exact A.runs.congruence.assignParams (fun _ => assign _ _) (fun _ _ => trivial) m.params
      fun q hq n hn => hvalue n (hm.default q hq n hn)
  · rintro s _ ⟨rfl, -⟩
    exact A.runs.congruence.done ⟨rfl, trivial⟩

include hbody in
/-- A definition runs as code of the same owner. -/
theorem runDefinition {name : String} {chain : BlockChain} {position : Int}
    (hchain : A.Chain chain) :
    A.runs.congruence.rel Eq (Render.runDefinition calls left name chain position)
      (Render.runDefinition calls' right name chain position) := by
  unfold Render.runDefinition
  split
  · exact A.runs.congruence.failure _
  · rename_i owner b he
    have hmem := BlockChain.mem_of_entry? he
    have howner : left.template owner = right.template owner := hchain.2 _ hmem
    -- both settings know the chain, so its owner is one and the same template
    rw [← howner]
    refine A.runs.congruence.bind (A.runs.congruence.ofProblem (p := Registered left.templates)
      (fun t ht => left.registered (Setting.get?_of_template ht)) fun _ _ => trivial) ?_
    rintro t _ ⟨rfl, ht⟩
    have hframe : Frame.Admitted (Registered left.templates) (fun _ => True) A.Chain
        (.block name position chain t) :=
      ⟨ht, by simp [Frame.block], by simp [Frame.block, FrameKind.loop?], by
        rintro _ _ _ h
        cases h
        exact hchain⟩
    exact inTemplate (inScope hframe (hbody b.body (hchain.1 _ hmem)))

include hbody in
/-- A block has the same definitions in both targets. -/
theorem runBlock {name : String} {body : List Node} (h : ∀ n ∈ body, n.Every A.node) :
    A.runs.congruence.rel Eq (Render.runBlock calls left name body)
      (Render.runBlock calls' right name body) := by
  unfold Render.runBlock
  refine A.runs.congruence.bind A.runs.state ?_
  rintro s _ ⟨_, ⟨targets, rfl, htargets⟩, -⟩
  -- without a definition of the target the block runs its own body, as a chain of one
  have hown : A.runs.congruence.rel Eq
      (Render.active >>= fun running =>
        Render.runDefinition calls left name [(running.name, { name, body })] 0)
      (Render.active >>= fun running =>
        Render.runDefinition calls' right name [(running.name, { name, body })] 0) := by
    refine A.runs.congruence.bind active ?_
    rintro running _ ⟨rfl, hrunning⟩
    refine runDefinition hbody ⟨?_, ?_⟩
    · intro e he
      rw [List.mem_singleton] at he
      rw [he]
      exact h
    · intro e he
      rw [List.mem_singleton] at he
      rw [he]
      exact A.own hrunning
  dsimp only
  generalize s.targets = outer at htargets
  cases htargets with
  | nil => exact hown
  | @cons t u _ _ htu _ =>
    -- the targets need not be the same, but their chains for one name are
    rw [List.head?_cons, List.head?_cons, Option.map_some, Option.map_some, Option.getD_some,
      Option.getD_some, A.chain htu]
    cases hchain : u.chain name with
    | nil => exact hown
    | cons e rest =>
      refine runDefinition hbody ?_
      rw [← hchain]
      exact chain_of_registered (A.known htu).2 name

include hbody in
theorem runSuper : A.runs.congruence.rel Eq (Render.runSuper calls left)
    (Render.runSuper calls' right) := by
  unfold Render.runSuper
  refine A.runs.congruence.bind A.runs.state ?_
  rintro s _ ⟨_, ⟨targets, rfl, htargets⟩, hs⟩
  dsimp only
  split
  · rename_i name position chain h
    have hchain : A.Chain chain := hs.block h
    exact A.runs.congruence.ite (fun _ => runDefinition hbody hchain) fun _ =>
      A.runs.congruence.raise _ ⟨rfl, rfl, rfl⟩
  · exact A.runs.congruence.raise _ ⟨rfl, rfl, rfl⟩

include hbody in
theorem runTemplate {t : Template} (ht : Registered left.templates t) :
    A.runs.congruence.rel Eq (Render.runTemplate calls left t)
      (Render.runTemplate calls' right t) := by
  have hentry : ∀ e e' : Template, Same (Registered left.templates) e e' →
      A.runs.congruence.rel Eq
        (Render.inTemplate e.name (Render.inScope (.root e) (calls.body e.document.body)))
        (Render.inTemplate e'.name (Render.inScope (.root e') (calls'.body e'.document.body))) := by
    rintro e _ ⟨rfl, he⟩
    have hframe : Frame.Admitted (Registered left.templates) (fun _ => True) A.Chain (.root e) :=
      ⟨he, by simp [Frame.root], by simp [Frame.root, FrameKind.loop?], by simp [Frame.root]⟩
    exact inTemplate (inScope hframe (hbody _ (A.code he).body))
  unfold Render.runTemplate
  split
  · rename_i name hname
    rw [← A.parent ht (List.mem_of_getLast? hname)]
    refine A.runs.congruence.bind (A.runs.congruence.ofProblem (fun u hu => ?_)
      fun _ _ => trivial) hentry
    exact left.registered (Setting.get?_of_template hu)
  · exact hentry t t ⟨rfl, ht⟩

include hbody in
theorem runInclude {p : Pos} {names : List String} {ignoreMissing : Bool}
    (hnode : A.node (.include p names ignoreMissing)) :
    A.runs.congruence.rel Eq
      (Render.runInclude (Render.runTemplate calls left) left names ignoreMissing)
      (Render.runInclude (Render.runTemplate calls' right) right names ignoreMissing) := by
  rw [← runInclude_congr (A.included hnode)]
  exact A.runs.congruence.runInclude
    (fun h => allowing (left.registered h) (runTemplate hbody (left.registered h))) names
    ignoreMissing fun _ _ => trivial

end

variable (A)

theorem invoke (depth : Nat) {kind : CapabilityKind} {name : String} {c : Capability}
    (hc : left.env.lookup kind name = .ok c) (args : List Value) (named : List (String × Value)) :
    A.runs.congruence.rel (Same fun _ => True)
      (Render.invoke (Render.calls depth left).render kind c args named)
      (Render.invoke (Render.calls depth right).render kind c args named) := by
  have hcalled : c.call { args, named, render := (Render.calls depth left).render } =
      c.call { args, named, render := (Render.calls depth right).render } := A.called hc args named
  rw [← invoke_congr hcalled]
  exact A.runs.congruence.invoke rfl (fun _ _ => trivial)
    (fun _ => A.runs.exhausted fun _ _ _ hst => ⟨rfl, hst⟩) fun _ _ _ _ _ _ => trivial

/-- What nodes refer to in the two settings is related where what it starts is. -/
def execution (depth : Nat)
    (hbody : ∀ ns, (∀ n ∈ ns, n.Every A.node) → A.runs.congruence.rel Eq
      ((Render.calls depth left).body ns) ((Render.calls depth right).body ns))
    (hvalue : ∀ n, n.Every A.node → A.runs.congruence.rel (Same fun _ => True)
      ((Render.calls depth left).value n) ((Render.calls depth right).value n)) :
    Execution (linked (Render.calls depth left) left) (linked (Render.calls depth right) right)
      left right where
  toCongruence := A.runs.congruence
  node := A.node
  value := fun _ => True
  holds := fun t m => Registered left.templates t ∧ m.Every A.node
  hereditary := Value.Hereditary.trivial
  const := fun _ => trivial
  find := find
  undefinedAt := undefinedAt
  lookup := A.capabilities
  function := fun _ hc _ _ => A.invoke depth hc _ _
  filter := fun _ hc _ _ _ => A.invoke depth hc _ _
  test := fun _ hc _ _ => A.runs.congruence.mono (A.invoke depth hc _ _) fun _ _ h => h.1
  findMacro := fun _ => findMacro _ _
  runMacro := fun h _ => runMacro hbody hvalue h.1 h.2 _ _
  statement := fun n => n.Every A.node
  template := Registered left.templates
  agree := fun s t => ∃ i, A.runs.states i s t
  state := A.runs.state
  pending := by
    rintro s _ ⟨_, ⟨_, rfl, -⟩, -⟩
    rfl
  active := active
  proceed := proceed
  requested := requested
  request := request
  iteration := fun ht hl h => inScope
    ⟨ht, by simp [Frame.iteration], by rintro _ ⟨⟩; exact hl, by simp [Frame.iteration]⟩ h
  data := fun _ => write _
  raw := fun _ => write _
  print := fun {v} _ => by
    rw [← print_congr A.escape A.escaping v]
    exact A.runs.congruence.print (fun {s} (_ : True) => write s) (fun _ _ => trivial)
      (fun _ => trivial) fun _ _ => trivial
  assign := fun _ => assign _ _
  assignWide := fun _ => assignWide _ _
  filterBlock := fun {_ name _ _ _ _ _ _ _ _ _} _ hm hargs hnamed => by
    have hcall : ∀ c, left.env.lookup .filter name = .ok c → ∀ args named,
        c.call { args, named, render := (linked (Render.calls depth left) left).render } =
          c.call { args, named, render := (linked (Render.calls depth right) right).render } :=
      fun c hc => A.called hc
    rw [← runFilter_congr (A.capabilities _ _) hcall]
    exact A.runs.congruence.runFilter rfl write (captured hm) hargs hnamed
      (fun _ _ => A.runs.exhausted fun _ _ _ hst => ⟨rfl, hst⟩) fun _ _ _ _ _ _ _ _ => trivial
  block := fun h => runBlock hbody fun _ hn => h.child hn
  super := fun _ => runSuper hbody
  included := fun h => runInclude hbody h.self
  executed := fun h => h
  atLine := atLine

/-- However deep calls nest, the bodies and expressions that they run are related. -/
theorem calls (depth : Nat) :
    (∀ ns, (∀ n ∈ ns, n.Every A.node) → A.runs.congruence.rel Eq
      ((Render.calls depth left).body ns) ((Render.calls depth right).body ns)) ∧
    ∀ n, n.Every A.node → A.runs.congruence.rel (Same fun _ => True)
      ((Render.calls depth left).value n) ((Render.calls depth right).value n) := by
  induction depth with
  | zero =>
    have hexhausted : ∀ {α : Type} {V : α → α → Prop}, A.runs.congruence.rel V
        (Render.halt .exhausted) (Render.halt .exhausted) :=
      A.runs.exhausted fun _ _ _ hst => ⟨rfl, hst⟩
    exact ⟨fun _ _ => hexhausted, fun _ _ => hexhausted⟩
  | succ depth ih =>
    refine ⟨(A.execution depth ih.1 ih.2).execAll, fun n hn => ?_⟩
    exact A.runs.congruence.mono ((A.execution depth ih.1 ih.2).eval false n hn)
      fun _ _ h => ⟨h.1, trivial⟩

/-! ### Whole renders -/

/-- Renders of templates that count as the same target, and that begin alike, end alike: with the
    same result or problem, after the same chunks. -/
theorem run_eq {t u : Template} (htu : A.target t u)
    (hbegin : ∀ calls, Render.runTemplate calls left t = Render.runTemplate calls left u)
    (context : Context) (sink : Sink) :
    (run left t context sink).result = (run right u context sink).result ∧
      (run left t context sink).chunks = (run right u context sink).chunks := by
  have hbeside : A.Beside (begun left t context sink) (begun right u context sink) := by
    refine ⟨⟨[u], ?_, .cons htu .nil⟩, ⟨by rintro f ⟨⟩, trivial, ?_⟩⟩
    · unfold begun initial
      rw [A.macroLimit, A.includeLimit]
    · intro x hx
      rw [List.mem_singleton.1 hx]
      exact (A.known htu).1
  have ends := runTemplate (A.calls maxDepth).1 (A.known htu).2 () _ _ hbeside
  -- from here on both sides run one program; what is left is to read its ends
  rw [← hbegin] at ends
  have hleft : run left t context sink = outcome (whole left
      (Render.runTemplate (Render.calls maxDepth left) left t)) (initial left t context sink) := rfl
  have hright : run right u context sink = outcome (whole right
      (Render.runTemplate (Render.calls maxDepth right) right u))
        (initial right u context sink) := rfl
  unfold begun at ends
  rw [hleft, hright]
  unfold outcome whole ensuring Outcome.chunks
  dsimp only
  generalize Render.runTemplate (Render.calls maxDepth left) left t _ = x at ends ⊢
  generalize Render.runTemplate (Render.calls maxDepth right) right u _ = y at ends ⊢
  cases ends with
  | done hab huv =>
    obtain ⟨⟨_, rfl, -⟩, -⟩ := huv
    exact ⟨rfl, rfl⟩
  | halt hh =>
    obtain ⟨rfl, ⟨_, rfl, -⟩, -⟩ := hh
    exact ⟨rfl, rfl⟩

end Agreement

end Render

end Stencil
