import Stencil.Proofs.Simulation.Invariant

/-! Scope hygiene. A statement changes the locals of no more than two frames: the innermost one,
    where names are bound, and the nearest one of a template or a macro call, where names are bound
    widely. The invariant compares the frames with those at the beginning. What runs in a scope of
    its own may change the locals of that scope, which are gone when it is left; where the scope is
    that of a template or a macro call itself, nothing is left of what was bound inside. -/

namespace Stencil

/-- The kind of a frame without the request of its loop. -/
def FrameKind.settled : FrameKind → FrameKind
  | .iteration l => .iteration (l.request .none)
  | k => k

/-- A frame without its locals and the request of its loop. -/
def Frame.bare (f : Frame) : Frame := { f with kind := f.kind.settled, locals := .empty }

theorem Frame.isWide_eq_of_bare {f g : Frame} (h : f.bare = g.bare) :
    f.kind.isWide = g.kind.isWide := by
  have isWide_settled (k : FrameKind) : k.settled.isWide = k.isWide := by cases k <;> rfl
  have hkind : f.kind.settled = g.kind.settled := congrArg Frame.kind h
  rw [← isWide_settled f.kind, hkind, isWide_settled]

namespace CallStack

/-- The place of the nearest frame of a template or a macro call. -/
def wideIndex? (frames : List Frame) : Option Nat := frames.findIdx? (·.kind.isWide)

/-- Which locals may change: none, those of the nearest wide frame, or those of the innermost frame
    and of the nearest wide one. -/
inductive Extent where
  | nothing | wide | inner

/-- The places of the frames whose locals may change. -/
def Extent.touches (e : Extent) (frames : List Frame) (i : Nat) : Prop :=
  match e with
  | .nothing => False
  | .wide => wideIndex? frames = some i
  | .inner => i = 0 ∨ wideIndex? frames = some i

/-- The same frames with the same locals, except for the locals at some places and for the requests
    of loops. -/
structure SameBut (touched : Nat → Prop) (before after : List Frame) : Prop where
  frames : before.map Frame.bare = after.map Frame.bare
  locals : ∀ i, ¬touched i → (before[i]?).map Frame.locals = (after[i]?).map Frame.locals

/-- The frames that an extent lets off are the same in both. -/
theorem touches_congr {a b : List Frame} (h : a.map Frame.bare = b.map Frame.bare) (e : Extent) :
    e.touches a = e.touches b := by
  have hwide : wideIndex? a = wideIndex? b := by
    unfold wideIndex?
    induction a generalizing b with
    | nil => rw [List.map_eq_nil_iff.1 h.symm]
    | cons f a ih =>
      obtain ⟨g, b, rfl, hg, hrest⟩ := List.map_eq_cons_iff.1 h.symm
      rw [List.findIdx?_cons, List.findIdx?_cons, Frame.isWide_eq_of_bare hg, ih hrest.symm]
  funext i
  cases e <;> simp only [Extent.touches, hwide]

/-- Behind a frame that is not wide, the nearest wide frame is that of the frames behind. -/
theorem touches_wide_succ {f : Frame} (hf : ¬f.kind.isWide = true) (rest : List Frame) (i : Nat) :
    Extent.wide.touches (f :: rest) (i + 1) ↔ Extent.wide.touches rest i := by
  simp [Extent.touches, wideIndex?, List.findIdx?_cons, hf]

namespace SameBut

variable {touched touched' : Nat → Prop} {a b c : List Frame} {f g : Frame} {e : Extent}

theorem refl (touched : Nat → Prop) (a : List Frame) : SameBut touched a a :=
  ⟨rfl, fun _ _ => rfl⟩

theorem trans (h : SameBut touched a b) (h' : SameBut touched b c) : SameBut touched a c :=
  ⟨h.frames.trans h'.frames, fun i hi => (h.locals i hi).trans (h'.locals i hi)⟩

theorem mono (h : SameBut touched a b) (hsub : ∀ i, touched i → touched' i) :
    SameBut touched' a b :=
  ⟨h.frames, fun i hi => h.locals i fun ht => hi (hsub i ht)⟩

/-- What follows may touch the same frames as what came before. -/
theorem transExtent (h : SameBut (e.touches a) a b) (h' : SameBut (e.touches b) b c) :
    SameBut (e.touches a) a c := by
  rw [← touches_congr h.frames] at h'
  exact h.trans h'

theorem cons (h : SameBut touched (f :: a) b) :
    ∃ g rest, b = g :: rest ∧ SameBut (fun i => touched (i + 1)) a rest := by
  obtain ⟨g, rest, rfl, -, hrest⟩ := List.map_eq_cons_iff.1 h.frames.symm
  exact ⟨g, rest, rfl, hrest.symm, fun i hi => by simpa using h.locals (i + 1) hi⟩

/-- A scope of its own leaves no more than what was bound widely, and nothing where it is wide
    itself. -/
theorem left (h : SameBut (Extent.inner.touches (f :: a)) (f :: a) b) :
    ∃ g rest, b = g :: rest ∧ SameBut (Extent.wide.touches a) a rest ∧
      (f.kind.isWide = true → SameBut (Extent.nothing.touches a) a rest) := by
  obtain ⟨g, rest, hb, hrest⟩ := h.cons
  have htail (i : Nat) (hi : Extent.inner.touches (f :: a) (i + 1)) :
      ¬f.kind.isWide = true ∧ Extent.wide.touches a i := by
    have hwide : Extent.wide.touches (f :: a) (i + 1) := hi.resolve_left (Nat.succ_ne_zero i)
    by_cases hf : f.kind.isWide = true
    · simp [Extent.touches, wideIndex?, List.findIdx?_cons, hf] at hwide
    · exact ⟨hf, (touches_wide_succ hf a i).1 hwide⟩
  exact ⟨g, rest, hb, hrest.mono fun i hi => (htail i hi).2,
    fun hf => hrest.mono fun i hi => (htail i hi).1 hf⟩

theorem assign (f : Frame) (rest : List Frame) (name : String) (v : Value) :
    SameBut (Extent.inner.touches (f :: rest)) (f :: rest) (f.assign name v :: rest) := by
  refine ⟨rfl, fun i hi => ?_⟩
  cases i with
  | zero => exact absurd (Or.inl rfl) hi
  | succ i => rfl

theorem assignWide {name : String} {v : Value} : ∀ {a b : List Frame},
    assignWideIn name v a = some b → SameBut (Extent.wide.touches a) a b
  | f :: rest, b, h => by
    rw [assignWideIn] at h
    split at h
    · rename_i hf
      cases h
      refine ⟨rfl, fun i hi => ?_⟩
      cases i with
      | zero => exact absurd (by simp [Extent.touches, wideIndex?, List.findIdx?_cons, hf]) hi
      | succ i => rfl
    · rename_i hf
      obtain ⟨rest', hrest, rfl⟩ := Option.map_eq_some_iff.1 h
      have ih := assignWide hrest
      refine ⟨by rw [List.map_cons, List.map_cons, ih.frames], fun i hi => ?_⟩
      cases i with
      | zero => rfl
      | succ i => simpa using ih.locals i fun ht => hi ((touches_wide_succ hf rest i).2 ht)

/-- A request changes no locals. -/
theorem changeLoop (signal : Signal) (a : List Frame) :
    SameBut touched a (changeLoopIn (·.request signal) a) := by
  refine ⟨?_, fun i _ => ?_⟩
  · rw [map_changeLoopIn]
    intro f l hk
    simp [Frame.bare, FrameKind.settled, Loop.request, hk]
  · rw [← List.getElem?_map, ← List.getElem?_map, map_changeLoopIn fun _ _ _ => rfl]

end SameBut

/-- What may touch less may touch more. -/
theorem Extent.touches_inner {e : Extent} {frames : List Frame} (i : Nat)
    (h : e.touches frames i) : Extent.inner.touches frames i := by
  cases e with
  | nothing => exact h.elim
  | wide => exact Or.inr h
  | inner => exact h

end CallStack

open CallStack

namespace Render

/-- Renders that touch no other locals than those of an extent. -/
def touching (e : Extent) : Invariant (List Frame) where
  holds i s := SameBut (e.touches i) i s.stack.frames
  remains i _ s := SameBut (e.touches i) i s.stack.frames
  remains_of_holds _ h := h
  waiting _ h := h

namespace Touching

variable {e e' : Extent} {α : Type} {V : α → α → Prop} {m n : Render α}

theorem placeless (e : Extent) : (touching e).Placeless where
  moved _ h := h
  left _ h := h
  located _ h := h

theorem captured {m n : Render Unit} (h : (touching e).runs.congruence.rel Eq m n) :
    (touching e).runs.congruence.rel (Same fun _ => True) (Render.captured m)
      (Render.captured n) :=
  (touching e).captured (fun i _ hs => ⟨i, hs, fun _ hu => ⟨trivial, hu⟩, fun _ _ hu => hu⟩) h

theorem allowing {t : Template} (h : (touching e).runs.congruence.rel V m n) :
    (touching e).runs.congruence.rel V (Render.allowing t m) (Render.allowing t n) :=
  (placeless e).allowing (placeless e)
    (fun i _ hs => ⟨i, hs, fun _ hu => hu, fun _ _ hu => hu⟩) h

/-- The frames after a scope is left, whatever was bound inside. -/
theorem popped {s u : RenderState} {f : Frame} {stack : CallStack}
    (hpush : s.stack.push f = .ok stack)
    (h : (touching .inner).holds stack.frames u) :
    SameBut (Extent.wide.touches s.stack.frames) s.stack.frames (popped u).stack.frames ∧
      (f.kind.isWide = true → SameBut (Extent.nothing.touches s.stack.frames) s.stack.frames
        (Render.popped u).stack.frames) := by
  obtain ⟨rfl, -⟩ := CallStack.push_eq_ok hpush
  obtain ⟨g, rest, hu, hleft⟩ := SameBut.left h
  unfold Render.popped CallStack.pop
  rw [hu]
  exact hleft

/-- What runs in a scope of its own touches no more than the nearest wide frame around it, and
    nothing around it if the scope is wide itself. -/
theorem inScope {f : Frame} (hf : f.kind.isWide = true ∨ ∀ frames i,
    Extent.wide.touches frames i → e.touches frames i)
    (h : (touching .inner).runs.congruence.rel V m n) :
    (touching e).runs.congruence.rel V (Render.inScope f m) (Render.inScope f n) := by
  have hleft {i : List Frame} {s u : RenderState} {stack : CallStack}
      (hs : (touching e).holds i s) (hpush : s.stack.push f = .ok stack)
      (hu : (touching .inner).holds stack.frames u) : (touching e).holds i (Render.popped u) := by
    obtain ⟨hwide, hnothing⟩ := popped hpush hu
    refine SameBut.transExtent hs ?_
    rcases hf with hf | hf
    · exact (hnothing hf).mono fun _ hi => hi.elim
    · exact hwide.mono (hf _)
  refine (touching e).inScope (fun i s stack hs hpush => ?_) h
  exact ⟨stack.frames, .refl _ _, fun u hu => hleft hs hpush hu, fun _ u hu => hleft hs hpush hu⟩

/-- What touches nothing in a scope of its own touches nothing around it. -/
theorem inScopeNothing {f : Frame} (h : (touching .nothing).runs.congruence.rel V m n) :
    (touching .nothing).runs.congruence.rel V (Render.inScope f m) (Render.inScope f n) := by
  have hleft {i : List Frame} {s u : RenderState} {stack : CallStack}
      (hs : (touching .nothing).holds i s) (hpush : s.stack.push f = .ok stack)
      (hu : (touching .nothing).holds stack.frames u) :
      (touching .nothing).holds i (Render.popped u) := by
    obtain ⟨rfl, -⟩ := CallStack.push_eq_ok hpush
    obtain ⟨g, rest, hframes, hrest⟩ := SameBut.cons hu
    refine SameBut.transExtent hs ?_
    unfold Render.popped CallStack.pop
    rw [hframes]
    exact hrest
  refine (touching .nothing).inScope (fun i s stack hs hpush => ?_) h
  exact ⟨stack.frames, .refl _ _, fun u hu => hleft hs hpush hu, fun _ u hu => hleft hs hpush hu⟩

/-- Statements touch the innermost frame and the nearest wide one alone. -/
theorem kept : (touching .inner).Kept where
  exhausted hs := hs
  lined _ hs := hs
  written _ hs := hs
  assigned {i s f rest} name v hs hf := by
    refine SameBut.transExtent hs ?_
    rw [hf]
    exact .assign f rest name v
  assignedWide hs hf := SameBut.transExtent hs
    ((SameBut.assignWide hf).mono fun i hi => Extent.touches_inner i hi)
  requested signal hs := hs.trans (.changeLoop signal _)
  inScope := inScope (Or.inr fun _ _ hi => Extent.touches_inner _ hi)
  inTemplate := (placeless .inner).inTemplate
  captured := captured
  allowing := allowing

section

variable {setting : Setting} {calls : Calls}
  (hbody : ∀ ns, (touching .inner).runs.congruence.rel Eq (calls.body ns) (calls.body ns))
  (hvalue : ∀ n, (touching .inner).runs.congruence.rel (Same fun _ => True) (calls.value n)
    (calls.value n))

include hbody

/-- A definition of a block touches no more than the nearest wide frame. -/
theorem runDefinition {name : String} {chain : BlockChain} {position : Int} :
    (touching .wide).runs.congruence.rel Eq
      (Render.runDefinition calls setting name chain position)
      (Render.runDefinition calls setting name chain position) := by
  unfold Render.runDefinition
  split
  · exact (touching .wide).runs.congruence.halt _
  · rename_i owner b _
    refine (touching .wide).runs.congruence.bind
      ((touching .wide).runs.congruence.ofProblem fun _ _ => trivial) ?_
    rintro t _ ⟨rfl, -⟩
    exact (placeless .wide).inTemplate (inScope (Or.inr fun _ _ hi => hi) (hbody b.body))

theorem runBlock (name : String) (body : List Node) :
    (touching .wide).runs.congruence.rel Eq (Render.runBlock calls setting name body)
      (Render.runBlock calls setting name body) := by
  unfold Render.runBlock
  refine (touching .wide).runs.congruence.bind (touching .wide).runs.state ?_
  rintro s _ ⟨i, rfl, -⟩
  split
  · refine (touching .wide).runs.congruence.bind
      ((touching .wide).active (p := fun _ => True) fun _ _ _ _ _ _ => trivial) ?_
    rintro running _ ⟨rfl, -⟩
    exact runDefinition hbody
  · exact runDefinition hbody

theorem runSuper : (touching .wide).runs.congruence.rel Eq (Render.runSuper calls setting)
    (Render.runSuper calls setting) := by
  unfold Render.runSuper
  refine (touching .wide).runs.congruence.bind (touching .wide).runs.state ?_
  rintro s _ ⟨i, rfl, -⟩
  split
  · exact (touching .wide).runs.congruence.ite (fun _ => runDefinition hbody) fun _ =>
      (touching .wide).runs.congruence.raise _
  · exact (touching .wide).runs.congruence.raise _

/-- The frame of a template takes all that is bound in it. -/
theorem runTemplate (t : Template) : (touching .nothing).runs.congruence.rel Eq
    (Render.runTemplate calls setting t) (Render.runTemplate calls setting t) := by
  have hentry (t : Template) : (touching .nothing).runs.congruence.rel Eq
      (Render.inTemplate t.name (Render.inScope (.root t) (calls.body t.document.body)))
      (Render.inTemplate t.name (Render.inScope (.root t) (calls.body t.document.body))) :=
    (placeless .nothing).inTemplate (inScope (Or.inl rfl) (hbody t.document.body))
  unfold Render.runTemplate
  split
  · refine (touching .nothing).runs.congruence.bind
      ((touching .nothing).runs.congruence.ofProblem fun _ _ => trivial) ?_
    rintro u _ ⟨rfl, -⟩
    exact hentry u
  · exact hentry t

theorem runInclude (names : List String) (ignoreMissing : Bool) :
    (touching .nothing).runs.congruence.rel Eq
      (Render.runInclude (Render.runTemplate calls setting) setting names ignoreMissing)
      (Render.runInclude (Render.runTemplate calls setting) setting names ignoreMissing) :=
  (touching .nothing).runs.congruence.runInclude
    (fun {_ t} _ => allowing (runTemplate hbody t)) names ignoreMissing

include hvalue

/-- The frame of a macro call takes all that is bound in it. -/
theorem runMacro (t : Template) (m : Macro) (fullName : String) (bound : List (String × Value)) :
    (touching .nothing).runs.congruence.rel (Same fun _ => True)
      (Render.runMacro calls t m fullName bound) (Render.runMacro calls t m fullName bound) := by
  have hparams : (touching .inner).runs.congruence.rel Eq
      (assignParams calls fullName bound m.params) (assignParams calls fullName bound m.params) :=
    (touching .inner).runs.congruence.assignParams
      (fun _ => (touching .inner).assign fun _ _ _ _ hs hf => kept.assigned _ _ hs hf)
      (fun _ _ => trivial) m.params fun _ _ n _ => hvalue n
  unfold Render.runMacro
  refine (touching .nothing).runs.congruence.bind (V := Same fun _ => True)
    (inScope (Or.inl rfl) ((placeless .inner).inTemplate (captured ?_))) ?_
  · exact (touching .inner).runs.congruence.seq hparams (hbody m.body)
  · rintro text _ ⟨rfl, -⟩
    exact (touching .nothing).runs.congruence.done ⟨rfl, trivial⟩

/-- Evaluation touches nothing. -/
def evaluation : Evaluation (linked calls setting) (linked calls setting) setting setting where
  toCongruence := (touching .nothing).runs.congruence
  node := fun _ => True
  value := fun _ => True
  holds := fun _ _ => True
  hereditary := Value.Hereditary.trivial
  const := fun _ => trivial
  find := (touching .nothing).find
  undefinedAt := (touching .nothing).undefinedAt
  lookup := .refl setting
  function := fun _ _ _ _ => (touching .nothing).runs.congruence.invoke rfl (fun _ _ => trivial)
    fun _ => (touching .nothing).exhausted fun hs => hs
  filter := fun _ _ _ _ _ => (touching .nothing).runs.congruence.invoke rfl (fun _ _ => trivial)
    fun _ => (touching .nothing).exhausted fun hs => hs
  test := fun _ _ _ _ => (touching .nothing).runs.congruence.mono
    ((touching .nothing).runs.congruence.invoke (p := fun _ => True) rfl (fun _ _ => trivial)
      fun _ => (touching .nothing).exhausted fun hs => hs) fun _ _ h => h.1
  findMacro := fun _ => (touching .nothing).runs.congruence.mono
    (((touching .nothing).lookups setting).findMacro _ _) fun _ _ h => ⟨h.1, trivial⟩
  runMacro := fun _ _ => runMacro hbody hvalue _ _ _ _

end

/-! ### Loops -/

/-- The iterations of a loop touch no more than the nearest wide frame. -/
theorem iterate {t : Template} {body : Render Unit} {l : Loop}
    (h : (touching .inner).runs.congruence.rel Eq body body) : ∀ i remaining,
      (touching .wide).runs.congruence.rel Eq (Render.iterate t body l i remaining)
        (Render.iterate t body l i remaining)
  | _, 0 => (touching .wide).runs.congruence.done rfl
  | i, remaining + 1 => by
    have hiteration : (touching .inner).runs.congruence.rel Eq (body >>= fun _ => Render.requested)
        (body >>= fun _ => Render.requested) :=
      (touching .inner).runs.congruence.seq h (touching .inner).requested
    rw [Render.iterate]
    refine (touching .wide).runs.congruence.bind
      (inScope (Or.inr fun _ _ hi => hi) hiteration) ?_
    rintro signal _ rfl
    refine (touching .wide).runs.congruence.seq (touching .wide).proceed ?_
    exact (touching .wide).runs.congruence.ite (fun _ => (touching .wide).runs.congruence.done rfl)
      fun _ => iterate h (i + 1) remaining

/-- The frames after a computation. -/
theorem sameBut (h : (touching e).runs.congruence.rel V m n) (s : RenderState) :
    SameBut (e.touches s.stack.frames) s.stack.frames (m s).2.stack.frames := by
  have ends := h s.stack.frames s s ⟨rfl, .refl _ _⟩
  generalize m s = x, n s = y at ends ⊢
  cases ends with
  | done _ hst => exact hst.2
  | halt hh => exact hh.2.2

/-- A computation touches no more than the nearest wide frame, or it does what another one does from
    a state where nothing has been touched. -/
def Unless (other m : Render Unit) : Prop := ∀ s : RenderState,
  SameBut (Extent.wide.touches s.stack.frames) s.stack.frames (m s).2.stack.frames ∨
    ∃ u, SameBut (fun _ => False) s.stack.frames u.stack.frames ∧ m s = other u

theorem Unless.bind {other : Render Unit} {m : Render α} {f : α → Render Unit}
    (h : (touching .nothing).runs.congruence.rel V m m) (hf : ∀ a, Unless other (f a)) :
    Unless other (m >>= f) := by
  intro s
  have hm := sameBut h s
  cases hs : m s with
  | mk r u =>
    rw [hs] at hm
    cases r with
    | error k =>
      have hend : (m >>= f) s = (.error k, u) := by
        change andThen m f s = _
        unfold andThen
        rw [hs]
      rw [hend]
      exact Or.inl (hm.mono fun _ hi => hi.elim)
    | ok a =>
      rw [bind_of_done hs]
      rcases hf a u with hwide | ⟨v, hv, heq⟩
      · rw [← touches_congr hm.frames] at hwide
        exact Or.inl ((hm.mono fun _ hi => hi.elim).trans hwide)
      · exact Or.inr ⟨v, hm.trans hv, heq⟩

/-- A loop touches no more than the nearest wide frame, unless what stands for no pair runs. -/
theorem runLoop {target : String} {key : Option String} {found : List (Value × Value)}
    {condition : Option (Render Value)} {body empty : Render Unit} {p : Value → Prop}
    (hcondition : ∀ c ∈ condition, (touching .nothing).runs.congruence.rel (Same p) c c)
    (hbody : (touching .inner).runs.congruence.rel Eq body body) :
    Unless empty (Render.runLoop target key found condition body empty) := by
  have onward (running : Template) (kept : List (Value × Value)) :
      Unless empty (if kept.isEmpty then empty else Render.iterate running body
        { valueName := target, keyName := key, items := kept.toArray } 0 kept.length) := by
    intro s
    split
    · exact Or.inr ⟨s, .refl _ _, rfl⟩
    · exact Or.inl (sameBut (iterate hbody 0 _) s)
  unfold Render.runLoop
  refine Unless.bind ((touching .nothing).active (p := fun _ => True) fun _ _ _ _ _ _ => trivial)
    fun running => ?_
  cases condition with
  | none => exact onward running found
  | some c =>
    exact Unless.bind ((touching .nothing).runs.congruence.filterPairs (q := fun _ => True)
      (fun _ _ => inScopeNothing (hcondition c rfl)) 0 found (by simp) fun _ _ => trivial)
      (onward running)

end Touching

/-- Scope hygiene. However a statement ends, the call stack has the frames from before; at most the
    locals of the innermost one and of the nearest one of a template or a macro call have changed.
    An include changes no locals of frames from before, and neither does the evaluation of an
    expression; a block, `super` or a loop changes at most those of the nearest frame of a template
    or a macro call, except where the body that stands for no pair runs in place of a loop. -/
theorem scope_hygiene (setting : Setting) (depth : Nat) (s : RenderState) :
    let links := linked (calls depth setting) setting
    let frames := s.stack.frames
    (∀ n, SameBut (fun i => i = 0 ∨ wideIndex? frames = some i) frames
      (exec links setting n s).2.stack.frames) ∧
    (∀ p names ignoreMissing, SameBut (fun _ => False) frames
      (exec links setting (.include p names ignoreMissing) s).2.stack.frames) ∧
    (∀ p name body, SameBut (fun i => wideIndex? frames = some i) frames
      (exec links setting (.block p name body) s).2.stack.frames) ∧
    (∀ p, SameBut (fun i => wideIndex? frames = some i) frames
      (exec links setting (.super p) s).2.stack.frames) ∧
    (∀ p target iter body empty key condition,
      SameBut (fun i => wideIndex? frames = some i) frames
        (exec links setting (.loop p target iter body empty key condition) s).2.stack.frames ∨
      ∃ u, SameBut (fun _ => False) frames u.stack.frames ∧
        exec links setting (.loop p target iter body empty key condition) s =
          execAll links setting empty u) ∧
    ∀ lenient n, SameBut (fun _ => False) frames
      (eval links setting lenient n s).2.stack.frames := by
  intro links frames
  have hall : ∀ ns : List Node, ∀ n ∈ ns, n.Every fun _ => True := fun _ _ _ _ _ => trivial
  obtain ⟨hbody, hvalue⟩ := (Touching.kept.simulation setting).calls depth
  have hbody' := fun ns => hbody ns (hall ns)
  have hvalue' := fun n => hvalue n fun _ _ => trivial
  -- a run is compared with itself: what both sides touch is what the run touches
  let S : Evaluation links links setting setting := Touching.evaluation hbody' hvalue'
  have heval (lenient : Bool) (n : Node) := S.eval lenient n fun _ _ => trivial
  have hexec (n : Node) : (touching .inner).runs.congruence.rel Eq (exec links setting n)
      (exec links setting n) :=
    ((Touching.kept.simulation setting).execution rfl hbody hvalue).exec n fun _ _ => trivial
  have hexecAll (ns : List Node) : (touching .inner).runs.congruence.rel Eq
      (execAll links setting ns) (execAll links setting ns) :=
    ((Touching.kept.simulation setting).execution rfl hbody hvalue).execAll ns (hall ns)
  refine ⟨fun n => ?_, fun p names ignoreMissing => ?_, fun p name body => ?_, fun p => ?_,
    fun p target iter body empty key condition => ?_, fun lenient n => ?_⟩
  · exact Touching.sameBut (hexec n) s
  · exact Touching.sameBut (Touching.runInclude hbody' names ignoreMissing) s
  · exact Touching.sameBut (Touching.runBlock hbody' name body) s
  · exact Touching.sameBut (Touching.runSuper hbody') s
  · suffices h : Touching.Unless (execAll links setting empty)
        (exec links setting (.loop p target iter body empty key condition)) from h s
    unfold exec
    refine .bind (heval false iter) fun container => ?_
    refine .bind ((touching .nothing).runs.congruence.ofRuntime fun _ _ => trivial) fun found => ?_
    refine Touching.runLoop (p := fun _ => True) (fun c hc => ?_) (hexecAll body)
    obtain ⟨n, rfl, rfl⟩ := Option.map_eq_some_iff.1 hc
    exact (touching .nothing).runs.congruence.mono (heval true n) fun _ _ h => ⟨h.1, trivial⟩
  · exact Touching.sameBut (heval lenient n) s

end Render

end Stencil
