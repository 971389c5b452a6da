import Stencil.Proofs.History
import Stencil.Proofs.Scope
import Stencil.Proofs.Simulation.Following
import Stencil.Proofs.Steady

/-! Break and continue. A render of steady code ends as the one with structured control does: a
    request ends every body up to the innermost loop, which takes it, and changes nothing else.
    Expressions do the same in both, whether or not a request waits, as long as they call no macro
    then. What blocks and includes start follows by induction on the nesting, and statements by
    induction on their trees. -/

namespace Stencil

variable {crossing : Bool}

/-- The code of a level is steady: that of its templates, and that of the chains of its blocks. -/
structure Level.Steady (crossing : Bool) (i : Level) : Prop where
  frames : ∀ f ∈ i.frames, f.template.Steady crossing
  chains : ∀ f ∈ i.frames, ∀ name position chain, f.kind = .block name position chain →
    BlockChain.Steady crossing chain
  targets : ∀ t ∈ i.targets, t.Steady crossing

namespace Level.Steady

variable {i : Level}

theorem inScope (h : i.Steady crossing) {f : Frame} (hf : f.template.Steady crossing)
    (hchain : ∀ name position chain, f.kind = .block name position chain →
      BlockChain.Steady crossing chain) : (i.inScope f).Steady crossing where
  frames := List.forall_mem_cons.2 ⟨hf, h.frames⟩
  chains := by
    refine List.forall_mem_cons.2 ⟨fun name position chain hk => ?_, h.chains⟩
    cases hkind : f.kind with
    | block name' position' chain' =>
      refine hchain name position chain ?_
      rw [hkind, ← hk]
      simp [Frame.outline, FrameKind.outline, hkind]
    | _ => simp [Frame.outline, FrameKind.outline, hkind] at hk
  targets := h.targets

theorem inTemplate (h : i.Steady crossing) (name : String) (line : Int) :
    (i.inTemplate name line).Steady crossing :=
  ⟨h.frames, h.chains, h.targets⟩

theorem including (h : i.Steady crossing) {t : Template} (ht : t.Steady crossing) :
    (i.including t).Steady crossing :=
  ⟨h.frames, h.chains, List.forall_mem_cons.2 ⟨ht, h.targets⟩⟩

/-- The chain of the block that runs is steady. -/
theorem currentBlock {s : RenderState} (h : s.level.Steady crossing) {name : String}
    {position : Int} {chain : BlockChain}
    (hblock : s.stack.currentBlock.map Frame.kind = some (.block name position chain)) :
    BlockChain.Steady crossing chain := by
  rw [← CallStack.currentBlock_outline] at hblock
  obtain ⟨f, hf, hkind⟩ := Option.map_eq_some_iff.1 hblock
  exact h.chains f (CallStack.mem_of_currentBlock hf) _ _ _ hkind

end Level.Steady

namespace Render

/-- Only a request that may be made is left. -/
def Leaves (may : Bool) (_ : Unit) (signal : Signal) : Prop := signal ≠ .none → may = true

theorem leaves_none (may : Bool) : Leaves may () .none := fun h => absurd rfl h

/-- Computations that do the same in steady code whether or not a request waits. -/
abbrev steadily (crossing : Bool) (signal : Signal) : Congruence :=
  waiting (Level.Steady crossing) signal

/-- A computation in steady code that leaves its requests in the state, and one that ends with them,
    if it may end with any. -/
abbrev Requests (crossing may : Bool) (m : Render Unit) (n : Render Signal) : Prop :=
  Follows (Level.Steady crossing) .none id (Leaves may) m n

theorem Requests.imp {may may' : Bool} {m : Render Unit} {n : Render Signal}
    (h : Requests crossing may m n) (hmay : may = true → may' = true) :
    Requests crossing may' m n :=
  h.mono fun _ _ hv hne => hmay (hv hne)

/-- A loop makes no requests itself; what stands for no pair may. -/
theorem Requests.runLoop {target : String} {key : Option String}
    {found : List (Value × Value)} {condition condition' : Option (Render Value)} {may : Bool}
    {body empty : Render Unit} {body' empty' : Render Signal}
    (hcondition : Option.Rel ((steadily crossing .none).rel (Same fun _ => True)) condition
      condition')
    (hbody : Follows (Level.Steady crossing) .none id (fun _ _ => True) body body')
    (hempty : Requests crossing may empty empty') :
    Requests crossing may (Render.runLoop target key found condition body empty)
      (Flow.runLoop target key found condition' body' empty') := by
  unfold Render.runLoop Flow.runLoop
  refine Follows.bind (Waiting.active fun _ hi => hi.frames) ?_
  rintro t _ ⟨rfl, ht⟩
  have hscope (l : Loop) (i : Level) (hi : i.Steady crossing) :
      (i.inScope (.iteration l t)).Steady crossing :=
    hi.inScope ht (by simp [Frame.iteration])
  have onward : ∀ kept kept' : List (Value × Value), Same (fun ps => ∀ e ∈ ps, True) kept kept' →
      Requests crossing may
        (if kept.isEmpty then empty else Render.iterate t body
          { valueName := target, keyName := key, items := kept.toArray } 0 kept.length)
        (if kept'.isEmpty then empty' else Flow.iterate t body'
          { valueName := target, keyName := key, items := kept'.toArray } 0 kept'.length) := by
    rintro kept _ ⟨rfl, -⟩
    split
    · exact hempty
    · exact Follows.iterate rfl (fun i index hi => hscope _ i hi) hbody (leaves_none may) 0 _
  -- with or without a condition the loop goes on with the same pairs on both sides
  cases hcondition with
  | none => exact onward found found ⟨rfl, fun _ _ => trivial⟩
  | some hc =>
    refine Follows.bind ((steadily crossing .none).filterPairs (p := fun _ => True)
      (fun index _ => ?_) 0 found (by simp) fun _ _ => trivial) onward
    exact Follows.inScope (by rintro _ ⟨⟩; rfl) (Or.inr fun _ => rfl) (hscope _) hc

theorem Tracks.ended {i : Level} {V : Unit → Unit → Prop} {x y : Except Halt Unit × RenderState}
    (h : Tracks i (fun _ => .none) V x y) : x.1 = y.1 ∧ x.2.chunks = y.2.chunks := by
  cases h with
  | done => exact ⟨rfl, rfl⟩
  | halt _ hchunks => exact ⟨rfl, hchunks⟩

/-- What calls start ends as it does with structured control. -/
structure Follow (crossing : Bool) (setting : Setting) (calls : Calls) (flow : Flow) : Prop where
  templates : ∀ name t, setting.templates.get? name = some t → t.Steady crossing
  render : calls.render = flow.render
  body : ∀ ns : List Node, (∀ n ∈ ns, n.Steady crossing) →
    Requests crossing (Node.interruptsAny crossing ns) (calls.body ns) (flow.body ns)
  value : ∀ n : Node, n.Steady crossing →
    (steadily crossing .none).rel (Same fun _ => True) (calls.value n) (flow.value n)

namespace Follow

variable {setting : Setting} {calls : Calls} {flow : Flow}

/-- The search for macros meets steady templates. -/
def lookups (h : Follow crossing setting calls flow) : Lookups setting where
  toCongruence := steadily crossing .none
  template := fun t => t.Steady crossing
  agree := fun s t => s = t ∧ Calm t ∧ t.level.Steady crossing
  registered := h.templates _ _
  state := Waiting.state
  target := by
    rintro s _ ⟨rfl, -, hs⟩
    refine ⟨rfl, fun t ht => hs.targets t (List.mem_of_head? ht)⟩
  active := Waiting.active fun _ hi => hi.frames

/-- A macro runs as it does with structured control: it has no loop around it. -/
theorem runMacro (h : Follow crossing setting calls flow) {t : Template} {m : Macro}
    (ht : t.Steady crossing) (hm : m.Every fun n => n.steady crossing = true) (fullName : String)
    (bound : List (String × Value)) :
    (steadily crossing .none).rel (Same fun _ => True) (Render.runMacro calls t m fullName bound)
      (Render.runMacro flow.calls t m fullName bound) := by
  -- in a macro call no loop is around, so a request is an error and none is left waiting
  let Q : Level → Prop := fun i => i.Steady crossing ∧ ¬i.Looped
  have hparams : (steadily crossing .none).rel Eq
      (Render.assignParams calls fullName bound m.params)
      (Render.assignParams flow.calls fullName bound m.params) :=
    Congruence.assignParams _ (fun _ => Waiting.assign _ _) (fun _ _ => trivial) m.params
      fun q hq n hn => h.value n (hm.default q hq n hn)
  have hbody : Follows Q .none (fun _ => .none) (fun _ _ => True)
      (do
        Render.assignParams calls fullName bound m.params
        calls.body m.body)
      (do
        Render.assignParams flow.calls fullName bound m.params
        flow.calls.body m.body) := by
    refine Follows.bind (hparams.weaken fun _ hi => hi.1) fun _ _ _ => ?_
    have hbody := (h.body m.body hm.body).mono fun _ _ _ => trivial
    exact Follows.settled (hbody.weaken fun _ hi => hi.1) (fun _ hi => hi.2) trivial
  have hcode : Follows Q .none (fun _ => .none) (Same fun _ => True) _ _ :=
    Follows.inTemplate (fun i line hi => ⟨hi.1.inTemplate t.name line, hi.2⟩) hbody.text
  refine Follows.bind (Follows.inScope (f := .call m.name t) (by simp [Frame.call])
    (Or.inr fun _ => rfl) (fun i hi => ?_) hcode) ?_
  · exact ⟨hi.inScope ht (by simp [Frame.call]), Level.not_looped_call rfl⟩
  · rintro text _ ⟨rfl, -⟩
    exact Follows.done ⟨rfl, trivial⟩ rfl

/-- Expressions do the same whether or not a request waits, as long as they call no macro then. -/
def evaluation (h : Follow crossing setting calls flow) (signal : Signal) :
    Evaluation (linked calls setting) (flow.links setting) setting setting where
  toCongruence := steadily crossing signal
  node := fun n => n.steady crossing = true ∧ (signal = .none ∨ n.isMacroCall = false)
  value := fun _ => True
  holds := fun t m => signal = .none ∧ t.Steady crossing ∧ m.Every fun n => n.steady crossing = true
  hereditary := Value.Hereditary.trivial
  const := fun _ => trivial
  find := Waiting.find
  undefinedAt := Waiting.undefinedAt
  lookup := .refl setting
  function := fun _ _ _ _ => Congruence.invoke _ h.render (fun _ _ => trivial)
    fun _ => Waiting.exhausted
  filter := fun _ _ _ _ _ => Congruence.invoke _ h.render (fun _ _ => trivial)
    fun _ => Waiting.exhausted
  test := fun _ _ _ _ => Congruence.mono _ (Congruence.invoke (p := fun _ => True) _ h.render
    (fun _ _ => trivial) fun _ => Waiting.exhausted) fun _ _ hv => hv.1
  findMacro := by
    rintro p space name args named ⟨-, rfl | hcall⟩
    · refine Congruence.mono _ (h.lookups.findMacro space name) ?_
      rintro x _ ⟨rfl, ht, hm⟩
      exact ⟨rfl, rfl, ht, ht.macros hm⟩
    · cases hcall
  runMacro := by
    rintro t m fullName bound ⟨rfl, ht, hm⟩ -
    exact h.runMacro ht hm fullName bound

/-- An expression of steady code, where no request waits. -/
theorem eval (h : Follow crossing setting calls flow) (lenient : Bool) {n : Node}
    (hn : n.Steady crossing) :
    (steadily crossing .none).rel (Same fun _ => True)
      (Render.eval (linked calls setting) setting lenient n)
      (Render.eval (flow.links setting) setting lenient n) :=
  Congruence.mono _ ((h.evaluation .none).eval lenient n fun m hm => ⟨hn m hm, Or.inl rfl⟩)
    fun _ _ hv => ⟨hv.1, trivial⟩

/-! ### Blocks and includes -/

/-- A body of a block or a template, which leaves a request only if requests cross these. -/
theorem crossingBody (h : Follow crossing setting calls flow) {body : List Node}
    (hbody : SteadyBody crossing body) :
    Requests crossing crossing (calls.body body) (flow.body body) :=
  (h.body body hbody.nodes).imp hbody.ends

theorem runDefinition (h : Follow crossing setting calls flow) {name : String} {chain : BlockChain}
    {position : Int} (hchain : chain.Steady crossing) :
    Requests crossing crossing (Render.runDefinition calls setting name chain position)
      (flow.runDefinition setting name chain position) := by
  unfold Render.runDefinition Flow.runDefinition
  rcases he : chain.entry? position with _ | ⟨ownerName, b⟩
  · exact Follows.halt _
  · refine Follows.bind ((steadily crossing .none).ofProblem fun t ht =>
      h.templates _ _ (Setting.get?_of_template ht)) ?_
    rintro t _ ⟨rfl, ht⟩
    refine Follows.inTemplate (fun i line hi => hi.inTemplate ownerName line)
      (Follows.inScope (by simp [Frame.block]) (Or.inl ⟨rfl, rfl⟩) (fun i hi => hi.inScope ht ?_)
        (h.crossingBody (hchain _ (BlockChain.mem_of_entry? he))))
    rintro _ _ _ ⟨⟩
    exact hchain

theorem runBlock (h : Follow crossing setting calls flow) {name : String} {body : List Node}
    (hbody : SteadyBody crossing body) :
    Requests crossing crossing (Render.runBlock calls setting name body)
      (flow.runBlock setting name body) := by
  unfold Render.runBlock Flow.runBlock
  refine Follows.bind Waiting.state ?_
  rintro s _ ⟨rfl, -, hs⟩
  have hchain : BlockChain.Steady crossing ((s.targets.head?.map (·.chain name)).getD []) := by
    cases hx : s.targets.head? with
    | none => simp [BlockChain.Steady]
    | some x => simpa using (hs.targets x (List.mem_of_head? hx)).chain name
  cases hfound : (s.targets.head?.map (·.chain name)).getD [] with
  | nil =>
    refine Follows.bind (Waiting.active (p := fun _ => True) fun _ _ _ _ => trivial) ?_
    rintro running _ ⟨rfl, -⟩
    exact h.runDefinition (List.forall_mem_singleton.2 hbody)
  | cons e rest => exact h.runDefinition (hfound ▸ hchain)

theorem runSuper (h : Follow crossing setting calls flow) :
    Requests crossing crossing (Render.runSuper calls setting) (flow.runSuper setting) := by
  unfold Render.runSuper Flow.runSuper
  refine Follows.bind Waiting.state ?_
  rintro s _ ⟨rfl, -, hs⟩
  rcases hblock : s.stack.currentBlock.map Frame.kind with _ | kind
  · exact Follows.halt _
  · cases kind with
    | block name position chain =>
      dsimp only
      split
      · exact h.runDefinition (hs.currentBlock hblock)
      · exact Follows.halt _
    | root | iteration | call => exact Follows.halt _

theorem runTemplate (h : Follow crossing setting calls flow) {t : Template}
    (ht : t.Steady crossing) :
    Requests crossing crossing (Render.runTemplate calls setting t)
      (flow.runTemplate setting t) := by
  have hentry : ∀ e e' : Template, Same (fun u => u.Steady crossing) e e' →
      Requests crossing crossing
        (Render.inTemplate e.name (Render.inScope (.root e) (calls.body e.document.body)))
        (Render.inTemplate e'.name (Render.inScope (.root e') (flow.body e'.document.body))) := by
    rintro e _ ⟨rfl, he⟩
    exact Follows.inTemplate (fun i line hi => hi.inTemplate e.name line)
      (Follows.inScope (by simp [Frame.root]) (Or.inl ⟨rfl, rfl⟩)
        (fun i hi => hi.inScope he (by simp [Frame.root])) (h.crossingBody he.body))
  unfold Render.runTemplate Flow.runTemplate
  cases t.parents.getLast? with
  | some name =>
    exact Follows.bind ((steadily crossing .none).ofProblem fun u hu =>
      h.templates _ _ (Setting.get?_of_template hu)) hentry
  | none => exact hentry t t ⟨rfl, ht⟩

theorem runInclude (h : Follow crossing setting calls flow) (names : List String)
    (ignoreMissing : Bool) :
    Requests crossing crossing
      (Render.runInclude (Render.runTemplate calls setting) setting names ignoreMissing)
      (flow.runInclude setting names ignoreMissing) := by
  unfold Render.runInclude Flow.runInclude
  cases hfound : names.findSome? setting.templates.get? with
  | none =>
    dsimp only
    split
    · exact Follows.done (leaves_none _) rfl
    · exact Follows.halt _
  | some t =>
    obtain ⟨name, -, hname⟩ := List.exists_of_findSome?_eq_some hfound
    have ht := h.templates name t hname
    exact Follows.allowing (P := Level.Steady crossing) (Q := Level.Steady crossing)
      (fun i hi => hi.including ht) (h.runTemplate ht)

/-! ### Statements -/

/-- A filter block passes on the request of its body. Its arguments call no macro if there may be
    one. -/
theorem runFilter (h : Follow crossing setting calls flow) {name : String} {may : Bool}
    {m : Render Unit} {n : Render Signal} {args : List Node} {named : List (String × Node)}
    (hbody : Requests crossing may m n)
    (hargs : ∀ n ∈ args ++ named.map Prod.snd, n.Steady crossing)
    (hcalls : may = true → ∀ n ∈ args ++ named.map Prod.snd, ∀ k ∈ n.preorder,
      k.isMacroCall = false) :
    Requests crossing may
      (Render.runFilter (linked calls setting) setting name m
        (evalEach (linked calls setting) setting false args)
        (evalNamed (linked calls setting) setting named))
      (Flow.runFilter (flow.links setting) setting name n
        (evalEach (flow.links setting) setting false args)
        (evalNamed (flow.links setting) setting named)) := by
  unfold Render.runFilter Flow.runFilter
  refine Follows.bind hbody.captured ?_
  rintro _ ⟨text, signal⟩ ⟨rfl, hsignal⟩
  -- The arguments are evaluated while the request of the body waits, if it has made one.
  let S := h.evaluation signal
  have hnodes : ∀ n ∈ args ++ named.map Prod.snd, n.Every S.node := by
    intro n hn k hk
    refine ⟨hargs n hn k hk, ?_⟩
    by_cases hnone : signal = .none
    · exact Or.inl hnone
    · exact Or.inr (hcalls (hsignal hnone) n hn k hk)
  have heach := S.evalEach false args fun n hn => hnodes n (List.mem_append_left _ hn)
  have hnamed := S.evalNamed named fun n hn => hnodes n (List.mem_append_right _ hn)
  refine Follows.bind (S.all heach) ?_
  rintro vs _ ⟨rfl, -⟩
  refine Follows.bind (S.allNamed hnamed) ?_
  rintro ns _ ⟨rfl, -⟩
  refine Follows.bind (S.ofRuntime (p := fun _ => True) fun _ _ => trivial) ?_
  rintro c _ ⟨rfl, -⟩
  refine Follows.bind (Congruence.invoke (p := fun _ => True) _ h.render (fun _ _ => trivial)
    fun _ => Waiting.exhausted) ?_
  rintro result _ ⟨rfl, -⟩
  refine Follows.bind (S.ofProblem (p := fun _ => True) fun _ _ => trivial) ?_
  rintro shown _ ⟨rfl, -⟩
  exact Follows.quiet (Waiting.write shown) hsignal

/-! ### The induction -/

mutual

/-- Steady statements end as with structured control. -/
theorem exec (h : Follow crossing setting calls flow) : ∀ n : Node, n.Steady crossing →
    Requests crossing (n.interrupts crossing) (Render.exec (linked calls setting) setting n)
      (Flow.exec flow setting n)
  | .data p text, _ | .raw p text, _ => Follows.quiet (Waiting.write text) (leaves_none _)
  | .output p n, hn => by
    rw [Render.exec, Flow.exec]
    refine Follows.bind (h.eval false (hn.child (by simp [Node.children]))) ?_
    rintro v _ ⟨rfl, -⟩
    exact Follows.quiet (Congruence.print _ (fun _ => Waiting.write _) (fun _ _ => trivial)
      (fun _ => trivial) fun _ _ => trivial) (leaves_none _)
  | .branch p condition body others otherwise, hn => by
    rw [Render.exec, Flow.exec]
    have hbody := execAll h body fun c hc => hn.child (by simp [Node.children, hc])
    have hotherwise := execAll h otherwise fun c hc => hn.child (by simp [Node.children, hc])
    refine Follows.bind (h.eval true (hn.child (by simp [Node.children]))) ?_
    rintro v _ ⟨rfl, -⟩
    split
    · exact hbody.imp fun hmay => by simp [Node.interrupts, hmay]
    · exact (execFirst h hotherwise others fun b hb c hc =>
        hn.child (Node.mem_children_of_branch hb hc)).imp Node.interrupts_branch
  | .loop p target iter body empty key condition, hn => by
    rw [Render.exec, Flow.exec]
    have hbody := execAll h body fun c hc => hn.child (by simp [Node.children, hc])
    have hempty := execAll h empty fun c hc => hn.child (by simp [Node.children, hc])
    refine Follows.bind (h.eval false (hn.child (by simp [Node.children]))) ?_
    rintro container _ ⟨rfl, -⟩
    refine Follows.bind ((steadily crossing .none).ofRuntime (p := fun _ => True)
      fun _ _ => trivial) ?_
    rintro found _ ⟨rfl, -⟩
    refine Requests.runLoop ?_ (hbody.mono fun _ _ _ => trivial) hempty
    cases condition with
    | none => exact .none
    | some c => exact .some (h.eval true (hn.child (by simp [Node.children])))
  | .leave p, _ => (Follows.request (by simp)).mono fun _ _ _ _ => rfl
  | .next p, _ => (Follows.request (by simp)).mono fun _ _ _ _ => rfl
  | .assign p name n wide, hn => by
    rw [Render.exec, Flow.exec]
    refine Follows.bind (h.eval false (hn.child (by simp [Node.children]))) ?_
    rintro v _ ⟨rfl, -⟩
    split
    · exact Follows.quiet (Waiting.assignWide name v) (leaves_none _)
    · exact Follows.quiet (Waiting.assign name v) (leaves_none _)
  | .block p name body, hn => h.runBlock (.of_block hn)
  | .super p, _ => h.runSuper
  | .include p names ignoreMissing, _ => h.runInclude names ignoreMissing
  | .filterBlock p name body args named, hn => by
    rw [Render.exec, Flow.exec]
    have hbody := execAll h body fun c hc => hn.child (by simp [Node.children, hc])
    have hself : (Node.filterBlock p name body args named).steady crossing = true := hn.self
    refine h.runFilter hbody (fun c hc => hn.child ?_) fun hmay c hc k hk => ?_
    · rw [Node.children, List.append_assoc]
      exact List.mem_append_right _ hc
    · rw [Node.steady, show Node.interruptsAny crossing body = true from hmay] at hself
      simpa using List.all_eq_true.1 (List.all_eq_true.1 hself c hc) k hk
  | .macroDef .., _ | .importing .., _ | .extends .., _ => Follows.done (leaves_none _) rfl
  | .const .., _ | .name .., _ | .list .., _ | .object .., _ | .attr .., _ | .item .., _
  | .call .., _ | .macroCall .., _ | .filter .., _ | .test .., _ | .arith .., _ | .unary .., _
  | .compare .., _ | .logic .., _ | .choice .., _ | .concat .., _ | .template .., _
  | .param .., _ => Follows.halt _

/-- Steady bodies end as with structured control. -/
theorem execAll (h : Follow crossing setting calls flow) : ∀ ns : List Node,
    (∀ n ∈ ns, n.Steady crossing) →
    Requests crossing (Node.interruptsAny crossing ns)
      (Render.execAll (linked calls setting) setting ns) (Flow.execAll flow setting ns)
  | [], _ => Follows.done (leaves_none _) rfl
  | n :: rest, hns => by
    rw [Render.execAll, Flow.execAll]
    have hrest := execAll h rest fun m hm => hns m (List.mem_cons_of_mem _ hm)
    refine Follows.bind (Waiting.atLine _) fun _ _ _ => ?_
    refine Follows.onward ((exec h n (hns n (by simp))).imp fun hmay => ?_)
      (hrest.imp fun hmay => ?_)
    · rw [Node.interruptsAny, hmay, Bool.true_or]
    · rw [Node.interruptsAny, hmay, Bool.or_true]

/-- The first branch that is taken ends as with structured control. -/
theorem execFirst (h : Follow crossing setting calls flow) {may : Bool} {m : Render Unit}
    {n : Render Signal} (hmn : Requests crossing may m n) : ∀ bs : List (Node × List Node),
    (∀ b ∈ bs, ∀ c ∈ b.1 :: b.2, c.Steady crossing) →
    Requests crossing (Node.interruptsFirst crossing bs || may)
      (Render.execFirst (linked calls setting) setting m bs) (Flow.execFirst flow setting n bs)
  | [], _ => hmn
  | (condition, body) :: rest, hbs => by
    rw [Render.execFirst, Flow.execFirst]
    have hhere := hbs (condition, body) (by simp)
    have hbody := execAll h body fun c hc => hhere c (List.mem_cons_of_mem _ hc)
    have hrest := execFirst h hmn rest fun b hb => hbs b (List.mem_cons_of_mem _ hb)
    refine Follows.bind (h.eval true (hhere condition (by simp))) ?_
    rintro v _ ⟨rfl, -⟩
    split
    · exact hbody.imp fun hmay => by simp [Node.interruptsFirst, hmay]
    · exact hrest.imp fun hmay => by rw [Node.interruptsFirst, Bool.or_assoc, hmay, Bool.or_true]

end

/-- A whole render ends as with structured control, with the same output. -/
theorem whole (h : Follow crossing setting calls flow) {t : Template} (ht : t.Steady crossing)
    (context : Context) (sink : Sink) :
    let s := initial setting t context sink
    let ended := Render.whole setting (Render.runTemplate calls setting t) s
    let ended' := Render.whole setting (do
      let _ ← flow.runTemplate setting t
      return ()) s
    ended.1 = ended'.1 ∧ ended.2.chunks = ended'.2.chunks := by
  let P : Level → Prop := fun i => i.Steady crossing ∧ ¬i.Looped
  have hrun : Follows P .none (fun _ => .none) (fun _ _ => True)
      (Render.runTemplate calls setting t)
      (do
        let _ ← flow.runTemplate setting t
        return ()) :=
    Follows.settled (((h.runTemplate ht).mono fun _ _ _ => trivial).weaken fun _ hi => hi.1)
      (fun _ hi => hi.2) trivial
  have hlevel : (begun setting t context sink).level.Steady crossing :=
    { frames := by simp [begun, initial, RenderState.level]
      chains := by simp [begun, initial, RenderState.level]
      targets := List.forall_mem_singleton.2 ht }
  have hcalm : Calm (begun setting t context sink) := ⟨rfl, by simp [begun, initial]⟩
  have tracks := hrun _ hcalm ⟨hlevel, Bool.false_ne_true⟩ fun hne => absurd rfl hne
  exact tracks.ended

end Follow

/-- However deep calls nest, what they start ends as with structured control. -/
theorem follow_nested : ∀ (depth : Nat) (setting : Setting),
    (∀ name t, setting.templates.get? name = some t → t.Steady crossing) →
    (∀ name t, setting.env.templates.get? name = some t → t.Steady crossing) →
    Follow crossing setting (calls depth setting) (Flow.nested depth setting)
  | 0, _, hset, _ =>
    { templates := hset
      render := rfl
      body := fun _ _ => Follows.halt _
      value := fun _ _ => Waiting.exhausted }
  | depth + 1, setting, hset, henv => by
    have ih := follow_nested depth setting hset henv
    -- A capability renders templates of the environment, in the settings of these.
    have hnested (name : String) (t : Template) (ht : setting.env.templates.get? name = some t) :=
      (follow_nested depth (Render.setting setting.env t) henv henv).whole (henv name t ht) {}
        .buffer
    have hrender : named (fun s => runTemplate (calls depth s) s) setting.env =
        named (fun s t => do
          let _ ← (Flow.nested depth s).runTemplate s t
          return ()) setting.env :=
      named_congr hnested
    exact ⟨hset, hrender, ih.execAll, fun n hn => ih.eval false hn⟩

end Render

namespace Environment

open Render

/-- Break and continue leave exactly the innermost loop. In steady code a render ends as the one
    with structured control does, with the same output, whatever the data: there a request ends all
    bodies up to the innermost loop, which takes it, while filter blocks on the way apply their
    filters and macros that are called for these run in full. Code is steady if either no body of a
    block or a template makes requests of loops around it, or blocks and includes count as requests,
    and filter blocks around requests call no macros for their arguments. Where no loop is inside of
    the macro call that is under way, a request is an error that changes nothing. -/
theorem render_structured {env : Environment} {t : Template} {setting : Setting}
    (hr : Reachable env) (h : env.Renders t setting) (crossing : Bool)
    (hset : ∀ name u, setting.templates.get? name = some u →
      SteadyBody crossing u.document.body)
    (henv : ∀ name u, env.templates.get? name = some u → SteadyBody crossing u.document.body) :
    (∀ context sink,
      (run setting t context sink).result = (Flow.run setting t context sink).result ∧
        (run setting t context sink).chunks = (Flow.run setting t context sink).chunks) ∧
    ∀ depth p s, s.stack.currentLoop = none →
      exec (linked (calls depth setting) setting) setting (.leave p) s =
          (.error (.runtime (outsideLoop .leave)), s) ∧
        exec (linked (calls depth setting) setting) setting (.next p) s =
          (.error (.runtime (outsideLoop .next)), s) := by
  obtain ⟨rfl, hsettled, name, ht⟩ := h.settled hr
  refine ⟨fun context sink => ?_, fun depth p s hnone => ?_⟩
  · have hfollow := follow_nested maxDepth setting (fun _ _ => hsettled.toResolved.steady hset)
      fun _ _ => hr.settled.toResolved.steady henv
    obtain ⟨hresult, hchunks⟩ :=
      hfollow.whole (hsettled.toResolved.steady hset ht) context sink
    exact ⟨congrArg (Except.mapError problemOf) hresult, congrArg List.reverse hchunks⟩
  · rw [exec, exec]
    unfold request
    rw [bind_of_done (m := state) rfl, bind_of_done (m := state) rfl, hnone]
    exact ⟨rfl, rfl⟩

/-- A filter that changes nothing. -/
def wrap : Capability :=
  { name := "wrap", behaviour := some fun inv => .ok (inv.args.headD .null) }

/-- A list of the first numbers. -/
def upTo (n : Nat) : Node := .list {} ((List.range n).map fun i => .const {} (.int (i + 1)))

/-- The condition that a name is bound to a number. -/
def isNumber (name : String) (n : Int) : Node :=
  .compare {} (.name {} name) ["=="] [.const {} (.int n)]

/-- A tree that leaves a loop from a filter block with arguments in a loop, and calls a macro for
    the argument of a filter block whose body has a loop. -/
def leavingTree : Document :=
  { body :=
      [.loop {} "i" (upTo 3)
        [.filterBlock {} "wrap" [.data {} "a", .branch {} (isNumber "i" 2) [.leave {}] [] [],
          .data {} "b"] [.const {} (.int 0)] [], .data {} "|"] [] none none,
       .filterBlock {} "wrap" [.loop {} "i" (upTo 2) [.next {}, .data {} "c"] [] none none,
          .data {} "d"] [.macroCall {} "self" "m" [] []] [],
       .macroDef {} "m" [] [.data {} "m"]] }

/-- The environment after a tree is added. -/
def wrapping (tree : Document) : Environment :=
  (perform { filters := Table.empty.insert "wrap" wrap }
    (.addTemplate "p.html" tree none)).2

theorem reachable_wrapping (tree : Document) : Reachable (wrapping tree) :=
  .after (.fresh rfl) (by simp)

theorem render_structured_leaving : ∃ t,
    (wrapping leavingTree).templates.get? "p.html" = some t ∧
    let setting := Render.setting (wrapping leavingTree) t
    (∀ context sink,
      (run setting t context sink).result = (Flow.run setting t context sink).result ∧
        (run setting t context sink).chunks = (Flow.run setting t context sink).chunks) ∧
    (Flow.run setting t {}).text.toOption = some "ab|ad" := by
  have hsteady : ((wrapping leavingTree).templates.entries.all fun e =>
      decide (SteadyBody false e.2.document.body)) = true := by decide +kernel
  have htext : ((wrapping leavingTree).templates.get? "p.html").map (fun t =>
      (Flow.run (Render.setting (wrapping leavingTree) t) t {}).text.toOption) =
      some (some "ab|ad") := by decide +kernel
  obtain ⟨t, ht, htext⟩ := Option.map_eq_some_iff.1 htext
  have hbodies : ∀ name u, (wrapping leavingTree).templates.get? name = some u →
      SteadyBody false u.document.body := fun name u hu =>
    of_decide_eq_true (List.all_eq_true.1 hsteady (name, u) (Table.mem_entries_iff.2 hu))
  have hrun := (render_structured (reachable_wrapping leavingTree) (.registered ht) false hbodies
    hbodies).1
  exact ⟨t, ht, hrun, htext⟩

/-- A tree that leaves a loop from a filter block that calls a macro for its argument. -/
def callingTree : Document :=
  { body :=
      [.loop {} "i" (upTo 3)
        [.branch {} (isNumber "i" 2)
          [.filterBlock {} "wrap" [.data {} "a", .leave {}, .data {} "b"]
            [.macroCall {} "self" "m" [] []] []] [] [],
         .data {} "after", .output {} (.name {} "i")] [] none none,
       .macroDef {} "m" []
        [.loop {} "j" (upTo 2) [.output {} (.name {} "j")] [] none none, .data {} "x",
         .data {} "y"]] }

/-- A macro that is called while a request waits can end it: a loop in its body takes the request
    for that of its own iteration, and the iteration that was to be left goes on. -/
theorem iteration_goes_on_after_leave : ∃ t,
    (wrapping callingTree).templates.get? "p.html" = some t ∧
    ((wrapping callingTree).render t {}).toOption = some "after1aafter2" ∧
    (Flow.run (Render.setting (wrapping callingTree) t) t {}).text.toOption = some "after1a" := by
  have h : ((wrapping callingTree).templates.get? "p.html").map (fun t =>
      (((wrapping callingTree).render t {}).toOption,
        (Flow.run (Render.setting (wrapping callingTree) t) t {}).text.toOption)) =
      some (some "after1aafter2", some "after1a") := by decide +kernel
  obtain ⟨t, ht, htexts⟩ := Option.map_eq_some_iff.1 h
  exact ⟨t, ht, Prod.mk.injEq .. ▸ htexts⟩

end Environment

end Stencil
