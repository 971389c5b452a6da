import Stencil.Proofs.Simulation.Invariant

/-! What a render can reach. In a state it reaches the data, the locals and loops of all frames, and
    the templates of the frames and targets. Let all of these be of some kind. Then what a name
    stands for is of that kind or has not been found, and assignments, scopes and includes that
    bring in nothing else keep it so. An invariant that says of the stack and the targets no more
    than this is kept by every step that concerns them. -/

namespace Stencil

open Render

/-- All that a render can reach in a state may be met. -/
structure RenderState.Admitted (template : Template → Prop) (value : Value → Prop)
    (chain : BlockChain → Prop) (s : RenderState) : Prop where
  frames : ∀ f ∈ s.stack.frames, f.Admitted template value chain
  context : value s.stack.context.root
  targets : ∀ t ∈ s.targets, template t

namespace RenderState.Admitted

variable {template : Template → Prop} {value : Value → Prop} {chain : BlockChain → Prop}
  {s : RenderState}

/-- A name that is visible stands for something that may be met. -/
theorem find (h : s.Admitted template value chain) (hv : Value.Hereditary value) (name : String) :
    Value.Found value (s.stack.find name) :=
  CallStack.found_findIn (hv.field h.context name) fun f hf => (h.frames f hf).find hv name

theorem assigned (h : s.Admitted template value chain) {name : String} {v : Value} (hv : value v)
    {f : Frame} {rest : List Frame} (hf : s.stack.frames = f :: rest) :
    RenderState.Admitted template value chain
      { s with stack := { s.stack with frames := f.assign name v :: rest } } := by
  have hframes := h.frames
  rw [hf, List.forall_mem_cons] at hframes
  exact { h with frames := List.forall_mem_cons.2 ⟨hframes.1.assign hv, hframes.2⟩ }

theorem assignedWide (h : s.Admitted template value chain) {name : String} {v : Value}
    (hv : value v) {frames : List Frame}
    (hf : CallStack.assignWideIn name v s.stack.frames = some frames) :
    RenderState.Admitted template value chain { s with stack := { s.stack with frames } } :=
  { h with frames := CallStack.forall_mem_assignWideIn (fun _ h => h.assign hv) h.frames hf }

/-- A request changes no more than the state of a loop. -/
theorem interrupted (h : s.Admitted template value chain) (signal : Signal) :
    RenderState.Admitted template value chain
      { s with stack := s.stack.changeLoop (·.request signal) } :=
  { h with
    frames := CallStack.forall_mem_changeLoopIn (fun _ _ hk h => h.iterated hk rfl rfl) h.frames }

theorem pushed (h : s.Admitted template value chain) {f : Frame} {stack : CallStack}
    (hf : f.Admitted template value chain) (hpush : s.stack.push f = .ok stack) :
    RenderState.Admitted template value chain { s with stack } := by
  obtain ⟨rfl, -⟩ := CallStack.push_eq_ok hpush
  exact { h with frames := List.forall_mem_cons.2 ⟨hf, h.frames⟩ }

theorem popped (h : s.Admitted template value chain) :
    (Render.popped s).Admitted template value chain := by
  unfold Render.popped CallStack.pop
  cases hframes : s.stack.frames with
  | nil => exact h
  | cons g rest =>
    have hall := h.frames
    rw [hframes, List.forall_mem_cons] at hall
    exact { h with frames := hall.2 }

theorem included (h : s.Admitted template value chain) {t : Template} (ht : template t) :
    RenderState.Admitted template value chain { s with targets := t :: s.targets } :=
  { h with targets := List.forall_mem_cons.2 ⟨ht, h.targets⟩ }

theorem excluded (h : s.Admitted template value chain) :
    RenderState.Admitted template value chain { s with targets := s.targets.drop 1 } :=
  { h with targets := fun t ht => h.targets t (List.mem_of_mem_drop ht) }

/-- The block that runs is defined by code that may be met. -/
theorem block (h : s.Admitted template value chain) {name : String} {position : Int}
    {definitions : BlockChain}
    (hkind : s.stack.currentBlock.map Frame.kind = some (.block name position definitions)) :
    chain definitions := by
  obtain ⟨f, hf, hkind⟩ := Option.map_eq_some_iff.1 hkind
  exact (h.frames f (CallStack.mem_of_currentBlock hf)).chain hkind

end RenderState.Admitted

namespace Render

/-- An invariant that says of the stack and the targets that all they hold may be met, and nothing
    else. -/
structure Invariant.Reaching {ι : Type} (I : Invariant ι) (template : Template → Prop)
    (value : Value → Prop) (chain : BlockChain → Prop) : Prop where
  admitted : ∀ {i s}, I.holds i s → s.Admitted template value chain
  altered : ∀ {i s} stack targets, I.holds i s →
    RenderState.Admitted template value chain { s with stack, targets } →
    I.holds i { s with stack, targets }
  abandoned : ∀ {i h s} stack targets, I.remains i h s →
    (s.Admitted template value chain →
      RenderState.Admitted template value chain { s with stack, targets }) →
    I.remains i h { s with stack, targets }

namespace Invariant.Reaching

variable {ι α : Type} {I : Invariant ι} {template : Template → Prop} {value : Value → Prop}
  {chain : BlockChain → Prop} {V : α → α → Prop} {m n : Render α}
  (hI : I.Reaching template value chain)
include hI

theorem find (hv : Value.Hereditary value) (name : String) :
    I.runs.congruence.rel (Same (Value.Found value)) (Render.find name) (Render.find name) :=
  I.step fun _ s hs => Or.inl ⟨_, s, rfl, (hI.admitted hs).find hv name, hs⟩

theorem active : I.runs.congruence.rel (Same template) Render.active Render.active :=
  I.active fun _ _ f _ hs hf => ((hI.admitted hs).frames f (by rw [hf]; simp)).template

theorem assign {name : String} {v : Value} (hv : value v) :
    I.runs.congruence.rel Eq (Render.assign name v) (Render.assign name v) :=
  I.assign fun _ s _ _ hs hf => hI.altered _ s.targets hs ((hI.admitted hs).assigned hv hf)

theorem assignWide {name : String} {v : Value} (hv : value v) :
    I.runs.congruence.rel Eq (Render.assignWide name v) (Render.assignWide name v) :=
  I.assignWide fun _ s _ hs hf => hI.altered _ s.targets hs ((hI.admitted hs).assignedWide hv hf)

theorem interrupt (signal : Signal) : I.runs.congruence.rel Eq
    (Render.change fun s =>
      { s with stack := s.stack.changeLoop (·.request signal), pending := true })
    (Render.change fun s =>
      { s with stack := s.stack.changeLoop (·.request signal), pending := true }) :=
  I.change fun _ s hs =>
    I.waiting true (hI.altered _ s.targets hs ((hI.admitted hs).interrupted signal))

/-- What runs in the scope of a frame that may be met. -/
theorem inScope {f : Frame} (hf : f.Admitted template value chain)
    (h : I.runs.congruence.rel V m n) :
    I.runs.congruence.rel V (Render.inScope f m) (Render.inScope f n) :=
  I.inScope (fun i s stack hs hpush =>
    ⟨i, hI.altered stack s.targets hs ((hI.admitted hs).pushed hf hpush),
      fun u hu => hI.altered _ u.targets hu (hI.admitted hu).popped,
      fun _ u hu => hI.abandoned _ u.targets hu RenderState.Admitted.popped⟩) h

/-- What an included template runs, if it may be met and the place does not matter. -/
theorem allowing (hplaceless : I.Placeless) {t : Template} (ht : template t)
    (h : I.runs.congruence.rel V m n) :
    I.runs.congruence.rel V (Render.allowing t m) (Render.allowing t n) :=
  hplaceless.allowing hplaceless (fun i s hs =>
    ⟨i, hI.altered s.stack _ hs ((hI.admitted hs).included ht),
      fun u hu => hI.altered u.stack _ hu (hI.admitted hu).excluded,
      fun _ u hu => hI.abandoned u.stack _ hu RenderState.Admitted.excluded⟩) h

/-- The block that runs is the same, and defined by code that may be met. -/
theorem block {s t : RenderState} (h : ∃ i, I.runs.states i s t) :
    Same (fun o => ∀ name position definitions, o = some (.block name position definitions) →
      chain definitions)
      (s.stack.currentBlock.map Frame.kind) (t.stack.currentBlock.map Frame.kind) := by
  obtain ⟨i, rfl, hs⟩ := h
  exact ⟨rfl, fun _ _ _ hkind => (hI.admitted hs).block hkind⟩

/-- The innermost target is the same and may be met. -/
theorem target {s t : RenderState} (h : ∃ i, I.runs.states i s t) :
    Same (fun o => ∀ x ∈ o, template x) s.targets.head? t.targets.head? := by
  obtain ⟨i, rfl, hs⟩ := h
  exact ⟨rfl, fun x hx => (hI.admitted hs).targets x (List.mem_of_mem_head? hx)⟩

end Invariant.Reaching

end Render

end Stencil
