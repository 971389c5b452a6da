import Stencil.Proofs.Simulation.Eval

/-! Execution preserves relations. An *execution* says in addition that the steps a statement is
    made of are related: writes, assignments, requests of loops, scopes of iterations, and what
    blocks, includes and `super` start. The relation may be another one for each situation in which
    a statement is executed, as long as noting the line of a statement leads to the situation of that
    statement. By induction on statements their executions are related then. -/

namespace Stencil

namespace Node

/-- The statements that a statement executes by itself: the bodies of its branches, of the loop or
    of the filter block that it is. -/
def inner : Node → List Node
  | .branch _ _ body others otherwise => body ++ others.flatMap Prod.snd ++ otherwise
  | .loop _ _ _ body empty _ _ => body ++ empty
  | .filterBlock _ _ body _ _ => body
  | _ => []

/-- The expressions that a statement evaluates by itself. -/
def operands : Node → List Node
  | .output _ expr => [expr]
  | .branch _ condition _ others _ => condition :: others.map Prod.fst
  | .loop _ _ iter _ _ _ condition => iter :: condition.toList
  | .assign _ _ value _ => [value]
  | .filterBlock _ _ _ args named => args ++ named.map Prod.snd
  | _ => []

theorem inner_subset_children (n : Node) : n.inner ⊆ n.children := by
  cases n <;> simp only [inner, children, List.nil_subset]
  case branch condition body others otherwise =>
    intro m hm
    simp only [List.mem_append, List.mem_flatMap, List.mem_cons] at hm ⊢
    rcases hm with (hm | ⟨b, hb, hm⟩) | hm
    · exact Or.inl (Or.inl (Or.inr hm))
    · exact Or.inl (Or.inr ⟨b, hb, Or.inr hm⟩)
    · exact Or.inr hm
  case loop => grind
  case filterBlock => grind

theorem operands_subset_children (n : Node) : n.operands ⊆ n.children := by
  cases n <;> simp only [operands, children, List.nil_subset]
  case branch condition body others otherwise =>
    intro m hm
    simp only [List.mem_append, List.mem_flatMap, List.mem_cons, List.mem_map] at hm ⊢
    rcases hm with hm | ⟨b, hb, rfl⟩
    · exact Or.inl (Or.inl (Or.inl hm))
    · exact Or.inl (Or.inr ⟨b, hb, Or.inl rfl⟩)
  case loop => grind
  case filterBlock => grind
  all_goals exact List.Subset.refl _

end Node

/-- A loop is at one of its pairs, and all of them may be met. -/
structure Loop.Admitted (value : Value → Prop) (l : Loop) : Prop where
  pairs : ∀ e ∈ l.items.toList, value e.1 ∧ value e.2
  current : l.index < l.items.size

namespace Render

/-- The pairs that a loop keeps are those that it was given, if its condition is related in each
    iteration. -/
theorem Congruence.filterPairs (C : Congruence) {t : Template} {l : Loop} {p : Value → Prop}
    {q : Value × Value → Prop} {m n : Render Value}
    (h : ∀ index < l.items.size, C.rel (Same p) (inScope (.iteration { l with index } t) m)
      (inScope (.iteration { l with index } t) n)) :
    ∀ (i : Nat) (ps : List (Value × Value)), i + ps.length ≤ l.items.size → (∀ e ∈ ps, q e) →
      C.rel (Same fun ps => ∀ e ∈ ps, q e) (Render.filterPairs t m l i ps)
        (Render.filterPairs t n l i ps)
  | _, [], _, _ => C.done ⟨rfl, by simp⟩
  | i, e :: rest, hi, hps => by
    rw [List.length_cons] at hi
    rw [Render.filterPairs, Render.filterPairs]
    refine C.bind (h i (by omega)) ?_
    rintro v _ ⟨rfl, -⟩
    refine C.bind (filterPairs C h (i + 1) rest (by omega)
      fun e he => hps e (List.mem_cons_of_mem _ he)) ?_
    rintro kept _ ⟨rfl, hkept⟩
    refine C.done ⟨rfl, ?_⟩
    split
    · exact List.forall_mem_cons.2 ⟨hps e (by simp), hkept⟩
    · exact hkept

/-- What the execution of statements in two renders has to agree in to be related, apart from the
    lines that are noted. -/
structure Statements (links links' : Links) (left right : Setting) extends
    Evaluation links links' left right where
  statement : Node → Prop
  template : Template → Prop
  agree : RenderState → RenderState → Prop
  state : rel agree Render.state Render.state
  pending : ∀ {s t}, agree s t → s.pending = t.pending
  active : rel (Same template) Render.active Render.active
  proceed : rel Eq (change fun s => { s with pending := false })
    (change fun s => { s with pending := false })
  requested : rel Eq Render.requested Render.requested
  request : ∀ signal, rel Eq (Render.request signal) (Render.request signal)
  iteration : ∀ {α : Type} {V : α → α → Prop} {l : Loop} {t m n}, template t →
    l.Admitted value → rel V m n →
    rel V (inScope (.iteration l t) m) (inScope (.iteration l t) n)
  data : ∀ {p text}, statement (.data p text) → rel Eq (write text) (write text)
  raw : ∀ {p text}, statement (.raw p text) → rel Eq (write text) (write text)
  print : ∀ {v}, value v → rel Eq (Render.print left v) (Render.print right v)
  assign : ∀ {name v}, value v → rel Eq (Render.assign name v) (Render.assign name v)
  assignWide : ∀ {name v}, value v → rel Eq (Render.assignWide name v) (Render.assignWide name v)
  filterBlock : ∀ {p name body args named ms ns xs ys} {m n : Render Unit},
    statement (.filterBlock p name body args named) → rel Eq m n →
    List.Forall₂ (rel (Same value)) ms ns → toCongruence.Named value xs ys →
    rel Eq (runFilter links left name m ms xs) (runFilter links' right name n ns ys)
  block : ∀ {p name body}, statement (.block p name body) →
    rel Eq (links.runBlock name body) (links'.runBlock name body)
  super : ∀ {p}, statement (.super p) → rel Eq links.runSuper links'.runSuper
  included : ∀ {p names ignoreMissing}, statement (.include p names ignoreMissing) →
    rel Eq (links.runInclude names ignoreMissing) (links'.runInclude names ignoreMissing)

/-- Statements are executed alike in each of some situations. In which one a statement is executed
    depends on the one in which it stands: to note its line leads there, and after the statement
    back. -/
structure Situations (ι : Type) (links links' : Links) (left right : Setting) where
  statements : ι → Statements links links' left right
  stands : ι → Node → Prop
  within : ι → Node → ι
  statement : ∀ {i n}, stands i n → (statements (within i n)).statement n
  operands : ∀ {i n}, stands i n → ∀ c ∈ n.operands, c.Every (statements (within i n)).node
  inner : ∀ {i n}, stands i n → ∀ m ∈ n.inner, stands (within i n) m
  atLine : ∀ {i n} {x y : Render Unit}, stands i n → (statements (within i n)).rel Eq x y →
    (statements i).rel Eq (Render.atLine n.pos.line >>= fun _ => x)
      (Render.atLine n.pos.line >>= fun _ => y)

/-- What executions in two renders have to agree in to be related in one situation, whatever lines
    are noted. -/
structure Execution (links links' : Links) (left right : Setting) extends
    Statements links links' left right where
  executed : ∀ {n : Node}, n.Every node → statement n
  atLine : ∀ line, rel Eq (Render.atLine line) (Render.atLine line)

namespace Statements

variable {links links' : Links} {left right : Setting} (S : Statements links links' left right)

/-- The pairs of a loop over a container come from the container. -/
theorem of_pairs {shown : String} {hasKey : Bool} {container : Value}
    {found : List (Value × Value)} (h : pairs shown hasKey container = .ok found)
    (hc : S.value container) : ∀ e ∈ found, S.value e.1 ∧ S.value e.2 := by
  have items : ∀ xs, container.items? = some xs →
      ∀ e ∈ xs.map fun x => (Value.null, x), S.value e.1 ∧ S.value e.2 := by
    intro xs hxs e he
    obtain ⟨x, hx, rfl⟩ := List.mem_map.1 he
    exact ⟨S.hereditary.null, S.hereditary.items hc hxs x hx⟩
  cases container <;> simp only [pairs] at h <;> try cases h
  case object es =>
    split_ifs at h
    cases h
    exact S.hereditary.entries hc
  case list xs | tuple xs =>
    split_ifs at h
    cases h
    exact items xs rfl

/-- A loop that runs related bodies. -/
theorem iterate {t : Template} {l : Loop} {m n : Render Unit} (ht : S.template t)
    (hl : ∀ e ∈ l.items.toList, S.value e.1 ∧ S.value e.2) (h : S.rel Eq m n) :
    ∀ i remaining, i + remaining ≤ l.items.size →
      S.rel Eq (Render.iterate t m l i remaining) (Render.iterate t n l i remaining)
  | _, 0, _ => S.done rfl
  | i, remaining + 1, hi => by
    rw [Render.iterate, Render.iterate]
    refine S.bind (S.iteration ht ⟨hl, by dsimp only; omega⟩ (S.seq h S.requested)) ?_
    rintro signal _ rfl
    refine S.seq S.proceed (S.ite (fun _ => S.done rfl) fun _ => ?_)
    exact iterate ht hl h (i + 1) remaining (by omega)

/-- A loop over pairs that may be met. -/
theorem runLoop {p : Value → Prop} {target : String} {key : Option String}
    {found : List (Value × Value)} {condition condition' : Option (Render Value)}
    {body body' empty empty' : Render Unit} (hfound : ∀ e ∈ found, S.value e.1 ∧ S.value e.2)
    (hcondition : Option.Rel (S.rel (Same p)) condition condition') (hbody : S.rel Eq body body')
    (hempty : S.rel Eq empty empty') :
    S.rel Eq (Render.runLoop target key found condition body empty)
      (Render.runLoop target key found condition' body' empty') := by
  rw [Render.runLoop, Render.runLoop]
  refine S.bind S.active ?_
  rintro t _ ⟨rfl, ht⟩
  -- What follows the choice of pairs does not depend on whether there was a condition.
  have onward : ∀ kept kept' : List (Value × Value),
      Same (fun ps => ∀ e ∈ ps, S.value e.1 ∧ S.value e.2) kept kept' →
      S.rel Eq
        (if kept.isEmpty then empty else Render.iterate t body
          { valueName := target, keyName := key, items := kept.toArray } 0 kept.length)
        (if kept'.isEmpty then empty' else Render.iterate t body'
          { valueName := target, keyName := key, items := kept'.toArray } 0 kept'.length) := by
    rintro kept _ ⟨rfl, hkept⟩
    exact S.ite (fun _ => hempty) fun _ => S.iterate ht (by simpa using hkept) hbody 0 _ (by simp)
  cases hcondition with
  | none => exact onward found found ⟨rfl, hfound⟩
  | some hc =>
    refine S.bind (S.filterPairs (fun index hi => S.iteration ht ⟨by simpa using hfound, hi⟩ hc) 0
      found (by simp) hfound) onward

end Statements

/-! ### The induction -/

/-- The line of a statement is noted before it is executed. -/
theorem execAll_cons (links : Links) (setting : Setting) (n : Node) (rest : List Node) :
    execAll links setting (n :: rest) =
      (Render.atLine n.pos.line >>= fun _ => exec links setting n) >>= fun _ =>
        state >>= fun s => if s.pending then pure () else execAll links setting rest := by
  rw [execAll, bind_bind]

namespace Situations

variable {ι : Type} {links links' : Links} {left right : Setting}
  (E : Situations ι links links' left right)

mutual

/-- Statements execute alike in the situation to which they lead. -/
theorem exec : ∀ (n : Node) {i : ι}, E.stands i n → (E.statements (E.within i n)).rel Eq
    (Render.exec links left n) (Render.exec links' right n)
  | .data p text, i, h => (E.statements _).data (E.statement h)
  | .raw p text, i, h => (E.statements _).raw (E.statement h)
  | .output p n, i, h => by
    let S := E.statements (E.within i (.output p n))
    rw [Render.exec, Render.exec]
    refine S.bind (S.eval false n (E.operands h n (by simp [Node.operands]))) ?_
    rintro v _ ⟨rfl, hv⟩
    exact S.print hv.strict
  | .branch p condition body others otherwise, i, h => by
    let S := E.statements (E.within i (.branch p condition body others otherwise))
    rw [Render.exec, Render.exec]
    have hbody := execAll body fun c hc => E.inner h c (by simp [Node.inner, hc])
    have hotherwise := execAll otherwise fun c hc => E.inner h c (by simp [Node.inner, hc])
    refine S.bind (S.eval true condition (E.operands h condition (by simp [Node.operands]))) ?_
    rintro v _ ⟨rfl, -⟩
    refine S.ite (fun _ => hbody) fun _ => execFirst hotherwise others
      (fun b hb => E.operands h b.1 (List.mem_cons_of_mem _ (List.mem_map.2 ⟨b, hb, rfl⟩)))
      fun b hb c hc => E.inner h c ?_
    simp only [Node.inner, List.mem_append, List.mem_flatMap]
    exact Or.inl (Or.inr ⟨b, hb, hc⟩)
  | .loop p target iter body empty key condition, i, h => by
    let S := E.statements (E.within i (.loop p target iter body empty key condition))
    rw [Render.exec, Render.exec]
    have hbody := execAll body fun c hc => E.inner h c (by simp [Node.inner, hc])
    have hempty := execAll empty fun c hc => E.inner h c (by simp [Node.inner, hc])
    refine S.bind (S.eval false iter (E.operands h iter (by simp [Node.operands]))) ?_
    rintro container _ ⟨rfl, hcontainer⟩
    refine S.bind (S.ofUnplaced (fun found hfound => S.of_pairs hfound hcontainer.strict)
      (plainly_pairs _ _ _)) ?_
    rintro found _ ⟨rfl, hfound⟩
    refine S.runLoop (p := S.Admits true) hfound ?_ hbody hempty
    cases condition with
    | none => exact .none
    | some c => exact .some (S.eval true c (E.operands h c (by simp [Node.operands])))
  | .leave p, i, h => (E.statements _).request .leave
  | .next p, i, h => (E.statements _).request .next
  | .assign p name n wide, i, h => by
    let S := E.statements (E.within i (.assign p name n wide))
    rw [Render.exec, Render.exec]
    refine S.bind (S.eval false n (E.operands h n (by simp [Node.operands]))) ?_
    rintro v _ ⟨rfl, hv⟩
    exact S.ite (fun _ => S.assignWide hv.strict) fun _ => S.assign hv.strict
  | .block p name body, i, h => (E.statements _).block (E.statement h)
  | .super p, i, h => (E.statements _).super (E.statement h)
  | .include p names ignoreMissing, i, h => (E.statements _).included (E.statement h)
  | .filterBlock p name body args named, i, h => by
    let S := E.statements (E.within i (.filterBlock p name body args named))
    rw [Render.exec, Render.exec]
    have hbody := execAll body fun c hc => E.inner h c hc
    have hargs := S.evalEach false args fun c hc => E.operands h c (List.mem_append_left _ hc)
    have hnamed := S.evalNamed named fun c hc => E.operands h c (List.mem_append_right _ hc)
    exact S.filterBlock (E.statement h) hbody (S.strictEach hargs) (S.strictNamed hnamed)
  | .macroDef .., _, _ | .importing .., _, _ | .extends .., _, _ => (E.statements _).done rfl
  | .const .., _, _ | .name .., _, _ | .list .., _, _ | .object .., _, _ | .attr .., _, _
  | .item .., _, _ | .call .., _, _ | .macroCall .., _, _ | .filter .., _, _ | .test .., _, _
  | .arith .., _, _ | .unary .., _, _ | .compare .., _, _ | .logic .., _, _ | .choice .., _, _
  | .concat .., _, _ | .template .., _, _ | .param .., _, _ => (E.statements _).raise _

/-- Bodies execute alike. -/
theorem execAll : ∀ (ns : List Node) {i : ι}, (∀ n ∈ ns, E.stands i n) →
    (E.statements i).rel Eq (Render.execAll links left ns) (Render.execAll links' right ns)
  | [], _, _ => (E.statements _).done rfl
  | n :: rest, i, h => by
    let S := E.statements i
    rw [execAll_cons, execAll_cons]
    have hrest := execAll rest fun m hm => h m (List.mem_cons_of_mem _ hm)
    have hn := h n (by simp)
    refine S.seq (E.atLine hn (exec n hn)) (S.bind S.state ?_)
    -- The flag decides whether the rest runs, and related states agree in it.
    intro s t hst
    rw [S.pending hst]
    exact S.ite (fun _ => S.done rfl) fun _ => hrest

/-- The first branch that is taken executes alike. -/
theorem execFirst {i : ι} {m n : Render Unit} (hmn : (E.statements i).rel Eq m n) :
    ∀ bs : List (Node × List Node), (∀ b ∈ bs, b.1.Every (E.statements i).node) →
      (∀ b ∈ bs, ∀ c ∈ b.2, E.stands i c) →
      (E.statements i).rel Eq (Render.execFirst links left m bs)
        (Render.execFirst links' right n bs)
  | [], _, _ => hmn
  | (condition, body) :: rest, hconditions, hbodies => by
    rw [Render.execFirst, Render.execFirst]
    have hbody := execAll body fun c hc => hbodies (condition, body) (by simp) c hc
    have hrest := execFirst hmn rest (fun b hb => hconditions b (List.mem_cons_of_mem _ hb))
      fun b hb => hbodies b (List.mem_cons_of_mem _ hb)
    let S := E.statements i
    refine S.bind (S.eval true condition (hconditions (condition, body) (by simp))) ?_
    rintro v _ ⟨rfl, -⟩
    exact S.ite (fun _ => hbody) fun _ => hrest

end

end Situations

namespace Execution

variable {links links' : Links} {left right : Setting} (S : Execution links links' left right)

/-- One situation in which all statements stand whose nodes may all be met. -/
def situations : Situations Unit links links' left right where
  statements _ := S.toStatements
  stands _ n := n.Every S.node
  within _ _ := ()
  statement := S.executed
  operands h _ hc := h.child (Node.operands_subset_children _ hc)
  inner h _ hm := h.child (Node.inner_subset_children _ hm)
  atLine _ h := S.seq (S.atLine _) h

/-- Statements whose nodes may all be met execute alike. -/
theorem exec (n : Node) (h : n.Every S.node) :
    S.rel Eq (Render.exec links left n) (Render.exec links' right n) :=
  S.situations.exec (i := ()) n h

/-- Bodies execute alike. -/
theorem execAll (ns : List Node) (h : ∀ n ∈ ns, n.Every S.node) :
    S.rel Eq (Render.execAll links left ns) (Render.execAll links' right ns) :=
  S.situations.execAll (i := ()) ns h

end Execution

end Render

end Stencil
