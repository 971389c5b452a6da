import Mathlib.Data.List.Forall2
import Stencil.Proofs.Plain

/-! Relations between computations of two renders. A *congruence* relates computations whose parts
    it relates: results, halts and sequences. It is the one thing that a statement about all runs of
    the interpreter has to supply for its own notion of relatedness; that lists of computations,
    conditions and lookups of results are related then follows here once. A statement about one run
    is the case where the second computation is not looked at. -/

namespace Stencil

theorem Value.isUndefined_iff {v : Value} : v.isUndefined = true ↔ v = .undefined := by
  cases v <;> simp [Value.isUndefined]

/-- Equal results that have a property. -/
def Same {α : Type} (p : α → Prop) (a b : α) : Prop := a = b ∧ p a

namespace Render

variable {α β : Type}

/-- What follows a result. -/
theorem bind_of_done {m : Render α} {f : α → Render β} {s t : RenderState} {a : α}
    (h : m s = (.ok a, t)) : (m >>= f) s = f a t := by
  change andThen m f s = f a t
  unfold andThen
  rw [h]

/-- What follows a halt is never reached. -/
theorem bind_of_error {m : Render α} {f : α → Render β} {s t : RenderState} {h : Halt}
    (hm : m s = (.error h, t)) : (m >>= f) s = (.error h, t) := by
  change andThen m f s = _
  unfold andThen
  rw [hm]

/-- A sequence that ends with a result has got through its parts. -/
theorem bind_eq_done {m : Render α} {f : α → Render β} {s u : RenderState} {b : β}
    (h : (m >>= f) s = (.ok b, u)) : ∃ a t, m s = (.ok a, t) ∧ f a t = (.ok b, u) := by
  change andThen m f s = _ at h
  unfold andThen at h
  split at h
  · rename_i a t hm
    exact ⟨a, t, hm, h⟩
  · cases h

/-- A lenient lookup takes what it finds as it is. -/
theorem found_lenient (n : Node) (v : Value) : found true n v = done v := by
  simp [found]

/-- A relation between computations, for each relation between their results, that results, problems
    and sequences respect. Which problems may be met is up to the relation, but for those that code
    meets by itself. Running out of depth is no problem of a computation, and a relation may rule
    it out. -/
structure Congruence where
  problem : Problem → Prop := fun _ => True
  plain : ∀ {p : Problem}, p.Plain → problem p := by exact fun _ => trivial
  rel : {α : Type} → (α → α → Prop) → Render α → Render α → Prop
  done : ∀ {α : Type} {V : α → α → Prop} {a b : α}, V a b → rel V (Render.done a) (Render.done b)
  bind : ∀ {α β : Type} {V : α → α → Prop} {W : β → β → Prop} {m n : Render α}
    {f g : α → Render β}, rel V m n → (∀ a b, V a b → rel W (f a) (g b)) →
      rel W (m >>= f) (n >>= g)
  halted : ∀ {α : Type} {V : α → α → Prop} {p : Problem}, problem p →
    rel V (Render.halt (.problem p)) (Render.halt (.problem p))

theorem bind_done (m : Render α) : m >>= done = m := by
  funext s
  change andThen m done s = m s
  unfold andThen
  split <;> rename_i h <;> rw [h]
  rfl

theorem done_bind (a : α) (f : α → Render β) : done a >>= f = f a := rfl

theorem bind_bind {γ : Type} (m : Render α) (f : α → Render β) (g : β → Render γ) :
    m >>= f >>= g = m >>= fun a => f a >>= g := by
  funext s
  change andThen (andThen m f) g s = andThen m (fun a => andThen (f a) g) s
  unfold andThen
  cases m s with
  | mk r t => cases r <;> rfl

namespace Congruence

variable (C : Congruence)

/-- Results may be related more weakly. -/
theorem mono {V W : α → α → Prop} {m n : Render α} (h : C.rel V m n)
    (hw : ∀ a b, V a b → W a b) : C.rel W m n := by
  rw [← bind_done m, ← bind_done n]
  exact C.bind h fun a b hab => C.done (hw a b hab)

/-- A computation that is followed by one that does not look at its result. -/
theorem seq {W : β → β → Prop} {m n : Render Unit} {f g : Render β} (h : C.rel Eq m n)
    (hf : C.rel W f g) : C.rel W (m >>= fun _ => f) (n >>= fun _ => g) :=
  C.bind h fun _ _ _ => hf

theorem ite {V : α → α → Prop} {m n m' n' : Render α} {p : Prop} [Decidable p]
    (h : p → C.rel V m n) (h' : ¬p → C.rel V m' n') :
    C.rel V (if p then m else m') (if p then n else n') := by
  split
  · exact h ‹_›
  · exact h' ‹_›

/-- A problem that may be met. -/
theorem halt {V : α → α → Prop} (p : Problem) (h : C.problem p := by exact trivial) :
    C.rel V (Render.halt (.problem p)) (Render.halt (.problem p)) := C.halted h

/-- An error that code raises by itself. -/
theorem raise {V : α → α → Prop} (e : RuntimeError) (h : e.Unplaced := by exact ⟨rfl, rfl, rfl⟩) :
    C.rel V (Render.raise e) (Render.raise e) := C.halted (C.plain h.ofRuntime)

/-- What follows an error is never reached. -/
theorem raiseThen {W : β → β → Prop} (e : RuntimeError) (f g : α → Render β)
    (h : e.Unplaced := by exact ⟨rfl, rfl, rfl⟩) :
    C.rel W (Render.raise e >>= f) (Render.raise e >>= g) :=
  C.bind (V := fun _ _ => False) (C.raise e h) fun _ _ h => h.elim

/-- A failure that code meets by itself. -/
theorem failure {V : α → α → Prop} (f : Failure) :
    C.rel V (Render.halt (.failure f)) (Render.halt (.failure f)) := C.halted (C.plain trivial)

theorem ofProblem {p : α → Prop} {r : Except Problem α} (h : ∀ a, r = .ok a → p a)
    (hproblem : ∀ q, r = .error q → C.problem q := by exact fun _ _ => trivial) :
    C.rel (Same p) (Render.ofProblem r) (Render.ofProblem r) := by
  cases r with
  | ok a => exact C.done ⟨rfl, h a rfl⟩
  | error q => exact C.halted (hproblem q rfl)

/-- A result that can meet no other problems than plain ones. -/
theorem ofPlain {p : α → Prop} {r : Except Problem α} (h : ∀ a, r = .ok a → p a)
    (hplain : Problem.Plainly r) : C.rel (Same p) (Render.ofProblem r) (Render.ofProblem r) :=
  C.ofProblem h fun q hq => C.plain (hplain q hq)

theorem ofFailure {p : α → Prop} {r : Except Failure α} (h : ∀ a, r = .ok a → p a) :
    C.rel (Same p) (Render.ofFailure r) (Render.ofFailure r) := by
  cases r with
  | ok a => exact C.done ⟨rfl, h a rfl⟩
  | error _ => exact C.failure _

theorem ofFault {p : α → Prop} {r : Except Fault α} (h : ∀ a, r = .ok a → p a) :
    C.rel (Same p) (Render.ofFault r) (Render.ofFault r) := by
  cases r with
  | ok a => exact C.done ⟨rfl, h a rfl⟩
  | error _ => exact C.halted (C.plain trivial)

theorem ofRuntime {p : α → Prop} {r : Except RuntimeError α} (h : ∀ a, r = .ok a → p a)
    (hproblem : ∀ e, r = .error e → C.problem (.ofRuntime e) := by exact fun _ _ => trivial) :
    C.rel (Same p) (Render.ofRuntime r) (Render.ofRuntime r) := by
  cases r with
  | ok a => exact C.done ⟨rfl, h a rfl⟩
  | error e => exact C.halted (hproblem e rfl)

/-- A result that can meet no other errors than those that do not say where they arose. -/
theorem ofUnplaced {p : α → Prop} {r : Except RuntimeError α} (h : ∀ a, r = .ok a → p a)
    (hplain : RuntimeError.Plainly r) : C.rel (Same p) (Render.ofRuntime r) (Render.ofRuntime r) :=
  C.ofRuntime h fun e he => C.plain (hplain e he).ofRuntime

/-! ### Lists of computations -/

/-- The results of related computations, one after the other. -/
theorem all {p : α → Prop} {ms ns : List (Render α)}
    (h : List.Forall₂ (C.rel (Same p)) ms ns) :
    C.rel (Same fun as => ∀ a ∈ as, p a) (Render.all ms) (Render.all ns) := by
  induction h with
  | nil => exact C.done ⟨rfl, by simp⟩
  | cons hm _ ih =>
    refine C.bind hm ?_
    rintro a _ ⟨rfl, ha⟩
    refine C.bind ih ?_
    rintro as _ ⟨rfl, has⟩
    exact C.done ⟨rfl, List.forall_mem_cons.2 ⟨ha, has⟩⟩

/-- Named computations that are related under equal names. -/
def Named (p : α → Prop) : List (String × Render α) → List (String × Render α) → Prop :=
  List.Forall₂ fun m n => m.1 = n.1 ∧ C.rel (Same p) m.2 n.2

theorem allNamed {p : α → Prop} {ms ns : List (String × Render α)} (h : C.Named p ms ns) :
    C.rel (Same fun as => ∀ a ∈ as, p a.2) (Render.allNamed ms) (Render.allNamed ns) := by
  induction h with
  | nil => exact C.done ⟨rfl, by simp⟩
  | @cons m n ms ns hm _ ih =>
    obtain ⟨name, m⟩ := m
    obtain ⟨name', n⟩ := n
    obtain ⟨rfl, hm⟩ := hm
    refine C.bind hm ?_
    rintro a _ ⟨rfl, ha⟩
    refine C.bind ih ?_
    rintro as _ ⟨rfl, has⟩
    exact C.done ⟨rfl, List.forall_mem_cons.2 ⟨ha, has⟩⟩

/-- The arguments of a call, and what it does with their values. -/
theorem arguments {p : α → Prop} {W : β → β → Prop} {ms ns : List (Render α)}
    {xs ys : List (String × Render α)} {f g : List α → List (String × α) → Render β}
    (hargs : List.Forall₂ (C.rel (Same p)) ms ns) (hnamed : C.Named p xs ys)
    (h : ∀ as named, (∀ a ∈ as, p a) → (∀ a ∈ named, p a.2) → C.rel W (f as named) (g as named)) :
    C.rel W (Render.all ms >>= fun as => Render.allNamed xs >>= fun named => f as named)
      (Render.all ns >>= fun as => Render.allNamed ys >>= fun named => g as named) := by
  refine C.bind (C.all hargs) ?_
  rintro as _ ⟨rfl, has⟩
  refine C.bind (C.allNamed hnamed) ?_
  rintro named _ ⟨rfl, hnames⟩
  exact h as named has hnames

theorem allTrue {p : Value → Prop} {ms ns : List (Render Value)}
    (h : List.Forall₂ (C.rel (Same p)) ms ns) :
    C.rel Eq (Render.allTrue ms) (Render.allTrue ns) := by
  induction h with
  | nil => exact C.done rfl
  | cons hm _ ih =>
    refine C.bind hm ?_
    rintro v _ ⟨rfl, -⟩
    exact C.ite (fun _ => ih) fun _ => C.done rfl

theorem anyTrue {p : Value → Prop} {ms ns : List (Render Value)}
    (h : List.Forall₂ (C.rel (Same p)) ms ns) :
    C.rel Eq (Render.anyTrue ms) (Render.anyTrue ns) := by
  induction h with
  | nil => exact C.done rfl
  | cons hm _ ih =>
    refine C.bind hm ?_
    rintro v _ ⟨rfl, -⟩
    exact C.ite (fun _ => C.done rfl) fun _ => ih

theorem texts {p : Value → Prop} {ms ns : List (Render Value)}
    (h : List.Forall₂ (C.rel (Same p)) ms ns) : C.rel Eq (Render.texts ms) (Render.texts ns) := by
  induction h with
  | nil => exact C.done rfl
  | cons hm _ ih =>
    refine C.bind hm ?_
    rintro v _ ⟨rfl, -⟩
    refine C.bind (C.ofPlain (fun _ _ => trivial) (Value.plainly_display _)) ?_
    rintro s _ ⟨rfl, -⟩
    refine C.bind ih ?_
    rintro more _ rfl
    exact C.done rfl

theorem chain {p : Value → Prop} {ms ns : List (Render Value)}
    (h : List.Forall₂ (C.rel (Same p)) ms ns) (left : Value) (ops : List String) :
    C.rel Eq (Render.chain left ops ms) (Render.chain left ops ns) := by
  -- The right operand of one comparison is the left one of the next.
  induction h generalizing left ops with
  | nil =>
    cases ops with
    | nil => exact C.done rfl
    | cons _ _ => exact C.failure _
  | cons hm _ ih =>
    cases ops with
    | nil => exact C.failure _
    | cons op ops =>
      refine C.bind hm ?_
      rintro v _ ⟨rfl, -⟩
      refine C.bind (C.ofPlain (fun _ _ => trivial) (Operator.plainly_compare _ _ _)) ?_
      rintro b _ ⟨rfl, -⟩
      exact C.ite (fun _ => ih v ops) fun _ => C.done rfl

end Congruence

/-! ### Congruences of states -/

/-- Relations between the states in which two computations begin and end, and between the halts and
    states in which they halt, for each situation; with the problems that may be met, which are all
    unless the relation says otherwise. -/
structure Correspondence (ι : Type) where
  states : ι → RenderState → RenderState → Prop
  halts : ι → Halt → RenderState → Halt → RenderState → Prop
  problem : Problem → Prop := fun _ => True
  plain : ∀ {p : Problem}, p.Plain → problem p := by exact fun _ => trivial
  halted : ∀ {i s t p}, problem p → states i s t → halts i (.problem p) s (.problem p) t

namespace Correspondence

variable {ι : Type} (C : Correspondence ι) {i j : ι}

/-- Two computations have ended alike: with related results in related states, or both halted. -/
inductive Ends (i : ι) (V : α → α → Prop) :
    Except Halt α × RenderState → Except Halt α × RenderState → Prop where
  | done {a b s t} : V a b → C.states i s t → Ends i V (.ok a, s) (.ok b, t)
  | halt {h k s t} : C.halts i h s k t → Ends i V (.error h, s) (.error k, t)

/-- Computations that end alike, in the situation in which they begin. -/
def congruence : Congruence where
  problem := C.problem
  plain := C.plain
  rel V m n := ∀ i s t, C.states i s t → C.Ends i V (m s) (n t)
  done h _ _ _ hst := .done h hst
  halted hp _ _ _ hst := .halt (C.halted hp hst)
  bind := by
    intro α β V W m n f g hm hf i s t hst
    change C.Ends i W (andThen m f s) (andThen n g t)
    have ends := hm i s t hst
    unfold andThen
    generalize m s = x, n t = y at ends ⊢
    cases ends with
    | done hab hst => exact hf _ _ hab _ _ _ hst
    | halt h => exact .halt h

/-- Running out of depth is related where it may be met. -/
theorem exhausted {V : α → α → Prop}
    (h : ∀ i s t, C.states i s t → C.halts i .exhausted s .exhausted t) :
    C.congruence.rel V (Render.halt .exhausted) (Render.halt .exhausted) :=
  fun i s t hst => .halt (h i s t hst)

theorem state : C.congruence.rel (fun s t => ∃ i, C.states i s t) Render.state Render.state :=
  fun i _ _ hst => .done ⟨i, hst⟩ hst

theorem change {f g : RenderState → RenderState}
    (h : ∀ i s t, C.states i s t → C.states i (f s) (g t)) :
    C.congruence.rel Eq (Render.change f) (Render.change g) :=
  fun i s t hst => .done rfl (h i s t hst)

/-- What is done afterwards in any case leads back to the situation at the beginning. -/
theorem ensuring {V : α → α → Prop} {m n : Render α} {f g : RenderState → RenderState}
    {s t : RenderState} (h : C.Ends j V (m s) (n t))
    (hok : ∀ u v, C.states j u v → C.states i (f u) (g v))
    (hhalt : ∀ h u k v, C.halts j h u k v → C.halts i h (f u) k (g v)) :
    C.Ends i V (Render.ensuring m f s) (Render.ensuring n g t) := by
  unfold Render.ensuring
  generalize m s = x, n t = y at h
  cases h with
  | done hab hst => exact .done hab (hok _ _ hst)
  | halt hh => exact .halt (hhalt _ _ _ _ hh)

end Correspondence

end Render

end Stencil
