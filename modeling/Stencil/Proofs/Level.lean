import Stencil.Proofs.Simulation.Invariant

/-! The level of a render: which frames and targets it is in, how deep its macro calls and includes
    are nested, and where it is. A computation that keeps the level leaves every scope, place and
    include that it enters. The state of loops, locals, lines and output are no part of it, so that
    the steps of a statement keep it, and a scope, a place or an include raises it for what runs
    inside. -/

namespace Stencil

/-- The kind of a frame without the state of its loop. -/
def FrameKind.outline : FrameKind → FrameKind
  | .iteration _ => .iteration { valueName := "", items := #[] }
  | k => k

/-- What does not change in a frame while code runs in it. -/
def Frame.outline (f : Frame) : Frame := { f with kind := f.kind.outline, locals := .empty }

namespace CallStack

theorem isCall_outline (f : Frame) : f.outline.kind.isCall = f.kind.isCall := by
  cases hk : f.kind <;> simp [Frame.outline, FrameKind.outline, FrameKind.isCall, hk]

theorem inScope_outline : ∀ frames : List Frame,
    inScope (frames.map Frame.outline) = (inScope frames).map Frame.outline
  | [] => rfl
  | f :: rest => by
    rw [List.map_cons, inScope, inScope, isCall_outline]
    split
    · rfl
    · rw [inScope_outline rest, List.map_cons]

/-- A frame of a kind that its outline shows is found among the outlines. -/
theorem find?_outline {p : Frame → Bool} (hp : ∀ f, p f.outline = p f)
    (hkind : ∀ f, p f = true → f.outline.kind = f.kind) : ∀ frames : List Frame,
      ((frames.map Frame.outline).find? p).map Frame.kind = (frames.find? p).map Frame.kind
  | [] => rfl
  | f :: rest => by
    rw [List.map_cons, List.find?_cons, List.find?_cons, hp]
    split
    · rename_i hf
      rw [Option.map_some, Option.map_some, hkind f hf]
    · exact find?_outline hp hkind rest

/-- The block that runs is known from the outlines. -/
theorem currentBlock_outline (s : CallStack) :
    (currentBlock { frames := s.frames.map Frame.outline }).map Frame.kind =
      s.currentBlock.map Frame.kind := by
  unfold currentBlock
  dsimp only
  rw [inScope_outline]
  refine find?_outline (fun f => ?_) (fun f hf => ?_) _
  · cases hk : f.kind <;> simp [Frame.outline, FrameKind.outline, hk]
  · cases hk : f.kind <;> simp [Frame.outline, FrameKind.outline, hk] at hf ⊢

end CallStack

/-- The place without the line of the statement. -/
def Location.unlined (l : Location) : Location := { l with line := 0 }

/-- Where code of a template is left, the place is that around it. -/
theorem Location.unlined_leave {here outer : Location} {name : String}
    (h : here.unlined = outer.enter name) :
    (here.leave (outer.template, outer.line)).unlined = outer.unlined := by
  simp only [unlined, enter, Location.mk.injEq] at h
  obtain ⟨-, -, hincludes, hlimit, htrail⟩ := h
  simp only [unlined, leave, hincludes, hlimit, htrail, Location.mk.injEq, true_and]
  cases outer.template <;> simp

/-- How deep a render is. -/
structure Level where
  frames : List Frame
  macroDepth : Nat
  macroLimit : Int
  targets : List Template
  place : Option Location

/-- The level of a state. -/
def RenderState.level (s : RenderState) : Level :=
  { frames := s.stack.frames.map Frame.outline
    macroDepth := s.stack.macroDepth
    macroLimit := s.stack.limit
    targets := s.targets
    place := s.place.map Location.unlined }

namespace Level

open Render

/-- The level in the scope of a frame. -/
def inScope (l : Level) (f : Frame) : Level :=
  { l with
    frames := f.outline :: l.frames
    macroDepth := if f.kind.isCall then l.macroDepth + 1 else l.macroDepth }

/-- The level in code of a template that is started at a line. -/
def inTemplate (l : Level) (name : String) (line : Int) : Level :=
  { l with place := l.place.map fun p => { p with line }.enter name }

/-- The level in an included template. -/
def including (l : Level) (t : Template) : Level :=
  { l with targets := t :: l.targets, place := deeper 1 l.place }

/-- The limit of includes is not reached. -/
def MayInclude (l : Level) : Prop := ∃ p, l.place = some p ∧ p.includeDepth < p.limit

variable {l : Level} {s u : RenderState}

theorem level_lined (line : Int) (s : RenderState) :
    RenderState.level { s with place := s.place.map fun l => { l with line } } = s.level := by
  unfold RenderState.level
  cases s.place <;> rfl

theorem level_assigned {f : Frame} {rest : List Frame} (name : String) (v : Value)
    (hf : s.stack.frames = f :: rest) :
    RenderState.level
      { s with stack := { s.stack with frames := f.assign name v :: rest } } = s.level := by
  unfold RenderState.level
  rw [hf]
  rfl

theorem level_assignedWide {frames : List Frame} {name : String} {v : Value}
    (hf : CallStack.assignWideIn name v s.stack.frames = some frames) :
    RenderState.level { s with stack := { s.stack with frames } } = s.level := by
  unfold RenderState.level
  dsimp only
  rw [CallStack.map_assignWideIn (fun _ => rfl) hf]

theorem level_interrupted (signal : Signal) (s : RenderState) :
    RenderState.level { s with stack := s.stack.changeLoop (·.request signal) } = s.level := by
  unfold RenderState.level CallStack.changeLoop
  dsimp only
  rw [CallStack.map_changeLoopIn fun f l hk => by simp [Frame.outline, FrameKind.outline, hk]]

theorem level_pushed {f : Frame} {stack : CallStack} (h : s.stack.push f = .ok stack) :
    RenderState.level { s with stack } = s.level.inScope f := by
  obtain ⟨rfl, -⟩ := CallStack.push_eq_ok h
  rfl

/-- When a scope is left, the level is that around it. -/
theorem level_popped {f : Frame} (h : u.level = l.inScope f) : (popped u).level = l := by
  simp only [RenderState.level, inScope, Level.mk.injEq] at h
  obtain ⟨hframes, hdepth, hlimit, htargets, hplace⟩ := h
  obtain ⟨g, rest, hg, hout, hrest⟩ := List.map_eq_cons_iff.1 hframes
  have hcall : g.kind.isCall = f.kind.isCall := by
    rw [← CallStack.isCall_outline, hout, CallStack.isCall_outline]
  unfold popped CallStack.pop RenderState.level
  simp only [hg, Option.map_some, Option.getD_some, hrest, hdepth, hcall, hlimit, htargets, hplace]
  cases f.kind.isCall <;> rfl

theorem level_entered {outer : Location} (h : s.place = some outer) (name : String) :
    RenderState.level { s with place := some (outer.enter name) } =
      s.level.inTemplate name outer.line := by
  unfold RenderState.level inTemplate
  rw [h]
  rfl

/-- When code of a template is left, the level is that around it. -/
theorem level_left {outer : Location} {name : String} (hl : l.place = some outer.unlined)
    (h : u.level = l.inTemplate name outer.line) : (left outer u).level = l := by
  obtain ⟨frames, depth, limit, targets, place⟩ := l
  obtain rfl : place = some outer.unlined := hl
  simp only [RenderState.level, inTemplate, Level.mk.injEq] at h
  obtain ⟨hframes, hdepth, hlimit, htargets, hplace⟩ := h
  obtain ⟨here, hhere, hentered⟩ := Option.map_eq_some_iff.1 hplace
  unfold left RenderState.level
  rw [hhere]
  simp only [Level.mk.injEq, hframes, hdepth, hlimit, htargets, true_and, Option.map_some]
  exact congrArg some (Location.unlined_leave hentered)

theorem level_included (s : RenderState) (t : Template) :
    RenderState.level { s with targets := t :: s.targets, place := deeper 1 s.place } =
      s.level.including t := by
  unfold RenderState.level including deeper
  cases s.place <;> rfl

/-- When an included template is left, the level is that around it. -/
theorem level_excluded {t : Template} (h : u.level = l.including t) :
    RenderState.level { u with targets := u.targets.drop 1, place := deeper (-1) u.place } = l := by
  simp only [RenderState.level, including, Level.mk.injEq] at h
  obtain ⟨hframes, hdepth, hlimit, htargets, hplace⟩ := h
  obtain ⟨frames, depth, limit, targets, place⟩ := l
  simp only [RenderState.level, Level.mk.injEq]
  refine ⟨hframes, hdepth, hlimit, by rw [htargets]; rfl, ?_⟩
  unfold deeper at hplace ⊢
  -- a place is left where one was entered; there both counts of includes agree
  cases hu : u.place with
  | none =>
    rw [hu] at hplace
    cases place with
    | none => rfl
    | some p => cases hplace
  | some q =>
    rw [hu] at hplace
    cases place with
    | none => cases hplace
    | some p =>
      simp only [Option.map_some, Option.some.injEq, Location.unlined, Location.mk.injEq] at hplace
      obtain ⟨htemplate, hline, hincludes, hmax, htrail⟩ := hplace
      simp only [Option.map_some, Option.some.injEq, Location.unlined]
      rw [htemplate, hline, hincludes, hmax, htrail, Int.add_neg_cancel_right]

end Level

namespace Render

/-- Running out of depth is not located. -/
theorem located_eq_exhausted {here : Location} {h : Halt} :
    located here h = .exhausted ↔ h = .exhausted := by
  unfold located
  split <;> simp [Halt.runtime]

/-- Renders that keep the level, where something holds of it. They run out of depth only if that is
    allowed. -/
def levels (P : Level → Prop) (deep : Prop) : Invariant Level where
  holds i s := s.level = i ∧ P i
  remains i h s := s.level = i ∧ (h = .exhausted → deep)
  remains_of_holds _ h := ⟨h.1, by simp⟩
  waiting _ h := h

namespace Levels

variable {P Q : Level → Prop} {deep : Prop} {α : Type} {V : α → α → Prop} {m n : Render α}

theorem exhausted (h : deep) :
    (levels P deep).runs.congruence.rel V (halt .exhausted) (halt .exhausted) :=
  (levels P deep).exhausted fun hs => ⟨hs.1, fun _ => h⟩

theorem atLine (line : Int) :
    (levels P deep).runs.congruence.rel Eq (Render.atLine line) (Render.atLine line) :=
  (levels P deep).atLine line fun _ _ hs => ⟨(Level.level_lined line _).trans hs.1, hs.2⟩

theorem write (text : String) :
    (levels P deep).runs.congruence.rel Eq (Render.write text) (Render.write text) :=
  (levels P deep).write fun _ _ _ hs _ => hs

theorem assign (name : String) (v : Value) :
    (levels P deep).runs.congruence.rel Eq (Render.assign name v) (Render.assign name v) :=
  (levels P deep).assign fun _ _ _ _ hs hf => ⟨(Level.level_assigned name v hf).trans hs.1, hs.2⟩

theorem assignWide (name : String) (v : Value) :
    (levels P deep).runs.congruence.rel Eq (Render.assignWide name v)
      (Render.assignWide name v) :=
  (levels P deep).assignWide fun _ _ _ hs hf => ⟨(Level.level_assignedWide hf).trans hs.1, hs.2⟩

theorem request (signal : Signal) :
    (levels P deep).runs.congruence.rel Eq (Render.request signal) (Render.request signal) :=
  (levels P deep).request signal fun _ _ hs =>
    ⟨(Level.level_interrupted signal _).trans hs.1, hs.2⟩

theorem captured {m n : Render Unit} (h : (levels P deep).runs.congruence.rel Eq m n) :
    (levels P deep).runs.congruence.rel (Same fun _ => True) (Render.captured m)
      (Render.captured n) :=
  (levels P deep).captured (fun i _ hs => ⟨i, hs, fun _ hu => ⟨trivial, hu⟩, fun _ _ hu => hu⟩) h

/-- The running template has what holds of the templates of all frames. -/
theorem active {p : Template → Prop} (h : ∀ i, P i → ∀ f ∈ i.frames, p f.template) :
    (levels P deep).runs.congruence.rel (Same p) Render.active Render.active := by
  refine (levels P deep).active fun i s f rest hs hf => h i hs.2 f.outline ?_
  rw [← hs.1]
  unfold RenderState.level
  rw [hf]
  exact List.mem_cons_self ..

/-- What runs in a scope does so at the level of the scope. -/
theorem inScope {f : Frame} (hf : ∀ i, P i →
    (f.kind.isCall = true → (i.macroDepth : Int) < i.macroLimit) → Q (i.inScope f))
    (h : (levels Q deep).runs.congruence.rel V m n) :
    (levels P deep).runs.congruence.rel V (Render.inScope f m) (Render.inScope f n) := by
  refine (levels P deep).inScope (fun i s stack hs hpush => ?_) h
  obtain ⟨rfl, hi⟩ := hs
  refine ⟨s.level.inScope f, ⟨Level.level_pushed hpush, hf _ hi (CallStack.push_eq_ok hpush).2⟩,
    fun u hu => ⟨Level.level_popped hu.1, hi⟩, fun k u hu => ⟨Level.level_popped hu.1, hu.2⟩⟩

/-- What runs as code of a template does so at its level. -/
theorem inTemplate {name : String} (ht : ∀ i line, P i → Q (i.inTemplate name line))
    (h : (levels Q deep).runs.congruence.rel V m n) :
    (levels P deep).runs.congruence.rel V (Render.inTemplate name m)
      (Render.inTemplate name n) := by
  refine (levels P deep).inTemplate (fun i s outer hs hplace => ?_) h
  obtain ⟨rfl, hi⟩ := hs
  have hl : s.level.place = some outer.unlined := congrArg (Option.map Location.unlined) hplace
  refine ⟨s.level.inTemplate name outer.line, ⟨Level.level_entered hplace name, ht _ _ hi⟩,
    fun u hu => ⟨Level.level_left hl hu.1, hi⟩, fun k u hu => ⟨Level.level_left hl hu.1, ?_⟩⟩
  unfold relocated
  split
  · exact hu.2
  · exact fun hk => hu.2 (located_eq_exhausted.1 hk)

/-- What an included template runs does so at the level of the include. -/
theorem allowing {t : Template} (ht : ∀ i, P i → i.MayInclude → Q (i.including t))
    (h : (levels Q deep).runs.congruence.rel V m n) :
    (levels P deep).runs.congruence.rel V (Render.allowing t m) (Render.allowing t n) := by
  refine (levels P deep).allowing (fun i s here hs hhere hlimit => ?_) h
  obtain ⟨rfl, hi⟩ := hs
  refine ⟨s.level.including t, ⟨Level.level_included s t, ht _ hi ?_⟩,
    fun u hu => ⟨Level.level_excluded hu.1, hi⟩, fun k u hu => ⟨Level.level_excluded hu.1, hu.2⟩⟩
  exact ⟨here.unlined, congrArg (Option.map Location.unlined) hhere, hlimit⟩

/-- Everything keeps the level. -/
theorem kept : (levels (fun _ => True) True).Kept where
  exhausted hs := ⟨hs.1, fun _ => trivial⟩
  lined line hs := ⟨(Level.level_lined line _).trans hs.1, trivial⟩
  written _ hs := hs
  assigned name v hs hf := ⟨(Level.level_assigned name v hf).trans hs.1, trivial⟩
  assignedWide hs hf := ⟨(Level.level_assignedWide hf).trans hs.1, trivial⟩
  requested signal hs := ⟨(Level.level_interrupted signal _).trans hs.1, trivial⟩
  inScope := inScope fun _ _ _ => trivial
  inTemplate := inTemplate fun _ _ _ => trivial
  captured := captured
  allowing := allowing fun _ _ _ => trivial

end Levels

end Render

end Stencil
