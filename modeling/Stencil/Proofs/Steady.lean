import Stencil.Proofs.Code

/-! Code in which no macro is called while a request waits. The only code that runs between a
    request and the loop that takes it are the arguments of the filter blocks around the request.
    They call no macro if they hold no call, and no request waits for them if the body of the filter
    block makes none. What a body makes is seen in its statements but for those that run code from
    elsewhere: if no body of a block or a template makes requests of the loops around it, these do
    not either, and otherwise it is taken that they do. -/

namespace Stencil

namespace Node

mutual

/-- A statement may end with a request to a loop around it. Blocks and includes may if requests
    cross them. -/
def interrupts (crossing : Bool) : Node → Bool
  | .leave _ | .next _ => true
  | .branch _ _ body others otherwise =>
    interruptsAny crossing body || interruptsFirst crossing others ||
      interruptsAny crossing otherwise
  | .loop _ _ _ _ empty _ _ => interruptsAny crossing empty
  | .filterBlock _ _ body _ _ => interruptsAny crossing body
  | .block .. | .super _ | .include .. => crossing
  | _ => false

/-- Some statement may end with a request. -/
def interruptsAny (crossing : Bool) : List Node → Bool
  | [] => false
  | n :: rest => interrupts crossing n || interruptsAny crossing rest

/-- The body of some branch may end with a request. -/
def interruptsFirst (crossing : Bool) : List (Node × List Node) → Bool
  | [] => false
  | (_, body) :: rest => interruptsAny crossing body || interruptsFirst crossing rest

end

/-- The arguments of a filter block call no macro if the body may end with a request, and the body
    of a block does not if requests do not cross blocks. -/
def steady (crossing : Bool) : Node → Bool
  | .filterBlock _ _ body args named =>
    !interruptsAny crossing body ||
      (args ++ named.map Prod.snd).all fun n => n.preorder.all fun m => !m.isMacroCall
  | .block _ _ body => crossing || !interruptsAny crossing body
  | _ => true

/-- All nodes of a tree are steady. -/
abbrev Steady (crossing : Bool) (n : Node) : Prop := n.Every fun m => m.steady crossing = true

section

variable {crossing : Bool} {p : Pos} {condition : Node} {body otherwise : List Node}
  {others : List (Node × List Node)}

theorem mem_children_of_branch {b : Node × List Node} {n : Node} (hb : b ∈ others)
    (hn : n ∈ b.1 :: b.2) : n ∈ (Node.branch p condition body others otherwise).children := by
  simp only [children, List.mem_append, List.mem_flatMap]
  exact Or.inl (Or.inr ⟨b, hb, hn⟩)

theorem interrupts_branch
    (h : (interruptsFirst crossing others || interruptsAny crossing otherwise) = true) :
    (Node.branch p condition body others otherwise).interrupts crossing = true := by
  rw [interrupts, Bool.or_assoc, h, Bool.or_true]

end

end Node

/-- The body of a block or a template calls no macro while a request waits, and ends with a request
    only if requests cross blocks and templates. -/
structure SteadyBody (crossing : Bool) (body : List Node) : Prop where
  nodes : ∀ n ∈ body, n.Steady crossing
  ends : Node.interruptsAny crossing body = true → crossing = true

variable {crossing : Bool}

theorem SteadyBody.of_block {p : Pos} {name : String} {body : List Node}
    (h : (Node.block p name body).Steady crossing) : SteadyBody crossing body where
  nodes n hn := h.child hn
  ends hbody := by
    have hself : (Node.block p name body).steady crossing = true := h.self
    simpa [Node.steady, hbody] using hself

instance (crossing : Bool) (body : List Node) : Decidable (SteadyBody crossing body) :=
  decidable_of_iff
    ((∀ n ∈ body, ∀ m ∈ n.preorder, m.steady crossing = true) ∧
      (Node.interruptsAny crossing body = true → crossing = true))
    ⟨fun h => ⟨h.1, h.2⟩, fun h => ⟨h.nodes, h.ends⟩⟩

/-- The bodies of all definitions of a chain are steady. -/
def BlockChain.Steady (crossing : Bool) (chain : BlockChain) : Prop :=
  ∀ e ∈ chain, SteadyBody crossing e.2.body

/-- All that a template starts is steady. -/
structure Template.Steady (crossing : Bool) (t : Template) : Prop where
  body : SteadyBody crossing t.document.body
  macros : ∀ {name m}, t.macros.get? name = some m →
    m.Every fun n => n.steady crossing = true
  chain : ∀ name, (t.chain name).Steady crossing

/-- The templates of a resolved set start steady code only if their trees are steady. -/
theorem Lineage.Resolved.steady {ts : Table Template} (h : Resolved ts)
    (hts : ∀ n t, ts.get? n = some t → SteadyBody crossing t.document.body) {n : String}
    {t : Template} (hn : ts.get? n = some t) : t.Steady crossing where
  body := hts n t hn
  macros := (h.built n t hn).macro_every (hts n t hn).nodes
  chain name := by
    intro e he
    obtain ⟨m, u, hm, hb⟩ := h.exists_block hn he
    obtain ⟨p, hmem, -⟩ := (h.built m u hm).get?_blocks.1 hb
    obtain ⟨top, htop, hmem⟩ := List.mem_flatMap.1 hmem
    exact .of_block (((hts m u hm).nodes top htop).of_mem hmem)

end Stencil
