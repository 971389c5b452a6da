import Stencil.Proofs.Scope

/-! Macros are isolated from their callers. The frame of a macro call is a boundary: what runs
    inside of it neither sees nor changes the scopes outside. Two runs of a macro that begin with
    frames, loops and contexts of their own but share the arguments and what counts as the state of
    the whole render end with the same text, or halt with errors that differ in the trail alone. -/

namespace Stencil

/-- The error without the trail that led to it. -/
def RuntimeError.untrailed (e : RuntimeError) : RuntimeError := { e with trail := [] }

/-- The halt without the trail that led to it. -/
def Halt.untrailed : Halt → Halt
  | .problem (.template (.runtime e)) => .problem (.template (.runtime e.untrailed))
  | h => h

/-- The place without the trail that led to it. -/
def Location.untrailed (l : Location) : Location := { l with trail := [] }

namespace CallStack

variable {inner : List Frame}

/-- The frames of a macro call, the boundary itself among them. -/
def Bounded (inner : List Frame) : Prop := ∃ f ∈ inner, f.kind.isCall = true

theorem not_bounded_nil : ¬Bounded [] := by
  rintro ⟨f, hf, -⟩
  cases hf

theorem Bounded.rest {f : Frame} (h : Bounded (f :: inner)) (hf : ¬f.kind.isCall = true) :
    Bounded inner := by
  obtain ⟨g, hg, hcall⟩ := h
  rcases List.mem_cons.1 hg with rfl | hg
  · exact absurd hcall hf
  · exact ⟨g, hg, hcall⟩

/-- No lookup gets beyond the boundary. -/
theorem findIn_append (context context' : Context) (name : String) (outer outer' : List Frame) :
    ∀ {inner : List Frame}, Bounded inner →
      findIn context name (inner ++ outer) = findIn context' name (inner ++ outer')
  | [], h => absurd h not_bounded_nil
  | f :: rest, h => by
    rw [List.cons_append, List.cons_append, findIn, findIn]
    split
    · split
      · rfl
      · rename_i hf
        exact findIn_append context context' name outer outer' (h.rest hf)
    · rfl

theorem inScope_append (outer : List Frame) : ∀ {inner : List Frame}, Bounded inner →
    inScope (inner ++ outer) = inScope inner
  | [], h => absurd h not_bounded_nil
  | f :: rest, h => by
    rw [List.cons_append, inScope, inScope]
    split
    · rfl
    · rename_i hf
      rw [inScope_append outer (h.rest hf)]

theorem isCall_inScope : ∀ {inner : List Frame}, Bounded inner →
    (inScope inner).any (·.kind.isCall) = true
  | [], h => absurd h not_bounded_nil
  | f :: rest, h => by
    rw [inScope]
    split
    · rename_i hf
      simp [hf]
    · rename_i hf
      simp [isCall_inScope (h.rest hf)]

/-- A change of the innermost loop leaves alone what lies outside. -/
theorem changeLoopIn_append (change : Loop → Loop) (outer : List Frame) :
    ∀ {inner : List Frame}, Bounded inner →
      changeLoopIn change (inner ++ outer) = changeLoopIn change inner ++ outer
  | [], h => absurd h not_bounded_nil
  | f :: rest, h => by
    rw [List.cons_append, changeLoopIn, changeLoopIn]
    split
    · rfl
    · rfl
    · rename_i hcall
      have hf : ¬f.kind.isCall = true := by
        cases hk : f.kind <;> simp_all [FrameKind.isCall]
      rw [changeLoopIn_append change outer (h.rest hf), List.cons_append]

/-- A wide binding leaves alone what lies outside. -/
theorem assignWideIn_append (name : String) (v : Value) (outer : List Frame) :
    ∀ {inner : List Frame}, Bounded inner → ∃ inner', assignWideIn name v inner = some inner' ∧
      assignWideIn name v (inner ++ outer) = some (inner' ++ outer)
  | [], h => absurd h not_bounded_nil
  | f :: rest, h => by
    rw [List.cons_append, assignWideIn, assignWideIn]
    split
    · exact ⟨_, rfl, rfl⟩
    · rename_i hwide
      have hf : ¬f.kind.isCall = true := by
        cases hk : f.kind <;> simp_all [FrameKind.isCall, FrameKind.isWide]
      obtain ⟨inner', hin, hout⟩ := assignWideIn_append name v outer (h.rest hf)
      rw [hin, hout]
      exact ⟨_, rfl, rfl⟩

/-- Stacks with the same number of macro calls enter a scope alike. -/
theorem push_cases {a b : CallStack} (hlimit : a.limit = b.limit)
    (hdepth : a.macroDepth = b.macroDepth) (f : Frame) :
    (∃ e, a.push f = .error e ∧ b.push f = .error e) ∨
      ∃ d, a.push f = .ok { a with frames := f :: a.frames, macroDepth := d } ∧
        b.push f = .ok { b with frames := f :: b.frames, macroDepth := d } := by
  unfold push
  rw [hlimit, hdepth]
  split
  · split
    · exact Or.inl ⟨_, rfl, rfl⟩
    · exact Or.inr ⟨_, rfl, rfl⟩
  · exact Or.inr ⟨_, rfl, rfl⟩

end CallStack

open CallStack

/-! ### Two runs inside a macro -/

/-- Two runs are inside a macro whose frames are the same in both, with any frames outside of it.
    The situation tells the boundaries among the frames inside and how many includes were opened
    there. -/
structure Inside (i : List Bool × Nat) (s t : RenderState) : Prop where
  frames : ∃ inner outer outer', s.stack.frames = inner ++ outer ∧
    t.stack.frames = inner ++ outer' ∧ inner.map (·.kind.isCall) = i.1
  boundary : true ∈ i.1
  macroDepth : s.stack.macroDepth = t.stack.macroDepth
  limit : s.stack.limit = t.stack.limit
  targets : s.targets.take (i.2 + 1) = t.targets.take (i.2 + 1)
  pending : s.pending = t.pending
  place : s.place.map Location.untrailed = t.place.map Location.untrailed
  sink : s.sink = t.sink
  chunks : s.chunks = t.chunks

namespace Inside

variable {i : List Bool × Nat} {s t : RenderState}

theorem bounded {inner : List Frame} (h : Inside i s t)
    (hi : inner.map (·.kind.isCall) = i.1) : Bounded inner := by
  have hcall := h.boundary
  rw [← hi] at hcall
  obtain ⟨f, hf, hcall⟩ := List.mem_map.1 hcall
  exact ⟨f, hf, hcall⟩

/-- The frames of the two runs, with the boundary among those inside. -/
theorem split (h : Inside i s t) : ∃ inner outer outer', s.stack.frames = inner ++ outer ∧
    t.stack.frames = inner ++ outer' ∧ inner.map (·.kind.isCall) = i.1 ∧ Bounded inner := by
  obtain ⟨inner, outer, outer', hs, ht, hi⟩ := h.frames
  exact ⟨inner, outer, outer', hs, ht, hi, h.bounded hi⟩

/-- The innermost frame is the same in both runs. -/
theorem head (h : Inside i s t) : ∃ f rest rest', s.stack.frames = f :: rest ∧
    t.stack.frames = f :: rest' := by
  obtain ⟨inner, outer, outer', hs, ht, -, hb⟩ := h.split
  cases inner with
  | nil => exact absurd hb not_bounded_nil
  | cons f rest => exact ⟨f, rest ++ outer, rest ++ outer', hs, ht⟩

theorem target (h : Inside i s t) : s.targets.head? = t.targets.head? := by
  have heads := congrArg List.head? h.targets
  rwa [List.head?_take, List.head?_take, if_neg (by simp), if_neg (by simp)] at heads

/-- What is in scope is the same in both runs. -/
theorem inScope_eq (h : Inside i s t) :
    inScope s.stack.frames = inScope t.stack.frames := by
  obtain ⟨inner, outer, outer', hs, ht, -, hb⟩ := h.split
  rw [hs, ht, inScope_append outer hb, inScope_append outer' hb]

theorem find_eq (h : Inside i s t) (name : String) : s.stack.find name = t.stack.find name := by
  obtain ⟨inner, outer, outer', hs, ht, -, hb⟩ := h.split
  unfold CallStack.find
  rw [hs, ht]
  exact findIn_append _ _ name outer outer' hb

/-- Suggestions of names come from inside. -/
theorem visibleNames_eq (h : Inside i s t) : s.stack.visibleNames = t.stack.visibleNames := by
  obtain ⟨inner, outer, outer', hs, ht, -, hb⟩ := h.split
  unfold visibleNames
  rw [hs, ht, inScope_append outer hb, inScope_append outer' hb, isCall_inScope hb]
  rfl

/-- The places differ in the trail alone. -/
theorem place_cases (h : s.place.map Location.untrailed = t.place.map Location.untrailed) :
    (s.place = none ∧ t.place = none) ∨ ∃ l m, s.place = some l ∧ t.place = some m ∧
      l.untrailed = m.untrailed := by
  cases hs : s.place with
  | none =>
    cases ht : t.place with
    | none => exact Or.inl ⟨rfl, rfl⟩
    | some m => simp [hs, ht] at h
  | some l =>
    cases ht : t.place with
    | none => simp [hs, ht] at h
    | some m => exact Or.inr ⟨l, m, rfl, rfl, by simpa [hs, ht] using h⟩

theorem push (h : Inside i s t) (f : Frame) :
    (∃ e, s.stack.push f = .error e ∧ t.stack.push f = .error e) ∨
      ∃ a b, s.stack.push f = .ok a ∧ t.stack.push f = .ok b ∧
        Inside (f.kind.isCall :: i.1, i.2) { s with stack := a } { t with stack := b } := by
  obtain ⟨inner, outer, outer', hs, ht, hi⟩ := h.frames
  rcases push_cases h.limit h.macroDepth f with he | ⟨d, ha, hb⟩
  · exact Or.inl he
  · refine Or.inr ⟨_, _, ha, hb, ?_⟩
    exact
      { h with
        frames := ⟨f :: inner, outer, outer', by simp [hs], by simp [ht], by simp [hi]⟩
        boundary := List.mem_cons_of_mem _ h.boundary
        macroDepth := rfl
        limit := h.limit }

theorem pop {b : Bool} {n : Nat} {flags : List Bool} (h : Inside (b :: flags, n) s t)
    (hb : true ∈ flags) :
    Inside (flags, n) { s with stack := (s.stack.pop.map Prod.snd).getD s.stack }
      { t with stack := (t.stack.pop.map Prod.snd).getD t.stack } := by
  obtain ⟨inner, outer, outer', hs, ht, hi⟩ := h.frames
  obtain ⟨f, rest, rfl, -, hrest⟩ := List.map_eq_cons_iff.1 hi
  rw [List.cons_append] at hs ht
  unfold CallStack.pop
  simp only [hs, ht, Option.map_some, Option.getD_some]
  exact
    { h with
      frames := ⟨rest, outer, outer', rfl, rfl, hrest⟩
      boundary := hb
      macroDepth := by
        dsimp only
        rw [h.macroDepth]
      limit := h.limit }

/-- Frames may change inside as long as the boundaries stay. -/
theorem withFrames {a b : CallStack} (h : Inside i s t)
    (hframes : ∃ inner outer outer', a.frames = inner ++ outer ∧ b.frames = inner ++ outer' ∧
      inner.map (·.kind.isCall) = i.1)
    (ha : a.macroDepth = s.stack.macroDepth ∧ a.limit = s.stack.limit)
    (hb : b.macroDepth = t.stack.macroDepth ∧ b.limit = t.stack.limit) :
    Inside i { s with stack := a } { t with stack := b } :=
  { h with
    frames := hframes
    macroDepth := ha.1.trans (h.macroDepth.trans hb.1.symm)
    limit := ha.2.trans (h.limit.trans hb.2.symm) }

end Inside

/-! ### What runs inside -/

namespace Render

/-- Runs inside a macro correspond until both end, or halt with errors that differ in the trail at
    most. -/
def insideRuns : Correspondence (List Bool × Nat) where
  states := Inside
  halts _ h s k t := h.untrailed = k.untrailed ∧
    s.place.map Location.untrailed = t.place.map Location.untrailed
  halted _ hst := ⟨rfl, hst.place⟩

theorem untrailed_runtime {e f : RuntimeError} (h : e.untrailed = f.untrailed) :
    (Halt.runtime e).untrailed = (Halt.runtime f).untrailed := by
  have hvalues : e.untrailed.values = f.untrailed.values := by rw [h]
  change e.values = f.values at hvalues
  unfold Halt.runtime Problem.ofRuntime RuntimeError.isWritable
  rw [hvalues]
  split
  · change Halt.problem (.template (.runtime e.untrailed)) = _
    rw [h]
    rfl
  · rfl

/-- Halts that differ in the trail at most are runtime errors that do, or are the same. -/
theorem untrailed_cases {h k : Halt} (hhk : h.untrailed = k.untrailed) :
    (∃ e f : RuntimeError, h = .problem (.template (.runtime e)) ∧
      k = .problem (.template (.runtime f)) ∧ e.untrailed = f.untrailed) ∨ h = k := by
  unfold Halt.untrailed at hhk
  split at hhk <;> split at hhk
  · simp only [Halt.problem.injEq, Problem.template.injEq, TemplateError.runtime.injEq] at hhk
    exact Or.inl ⟨_, _, rfl, rfl, hhk⟩
  · rename_i hk
    exact absurd hhk.symm (hk _)
  · rename_i hh _ _
    exact absurd hhk (hh _)
  · exact Or.inr hhk

/-- Locating a halt adds places that are the same but for the trail. -/
theorem untrailed_located {l m : Location} {h k : Halt} (hlm : l.untrailed = m.untrailed)
    (hhk : h.untrailed = k.untrailed) :
    (located l h).untrailed = (located m k).untrailed := by
  obtain ⟨template, line, depth, limit, trail⟩ := l
  obtain ⟨template', line', depth', limit', trail'⟩ := m
  simp only [Location.untrailed, Location.mk.injEq] at hlm
  obtain ⟨rfl, rfl, rfl, rfl, -⟩ := hlm
  rcases untrailed_cases hhk with ⟨e, f, rfl, rfl, hef⟩ | rfl
  · simp only [RuntimeError.untrailed, RuntimeError.mk.injEq] at hef
    simp [located, Halt.untrailed, RuntimeError.untrailed, RuntimeError.locate, hef]
  · unfold located
    split
    · rfl
    · exact untrailed_runtime rfl
    · rfl

namespace Isolation

variable {V : α → α → Prop} {m n : Render α}

theorem inScope {f : Frame} (h : insideRuns.congruence.rel V m n) :
    insideRuns.congruence.rel V (Render.inScope f m) (Render.inScope f n) := by
  intro i s t hst
  unfold Render.inScope
  rcases hst.push f with ⟨e, hs, ht⟩ | ⟨a, b, hs, ht, hin⟩
  · rw [hs, ht]
    exact .halt ⟨rfl, hst.place⟩
  · rw [hs, ht]
    refine insideRuns.ensuring (h _ _ _ hin) (fun u v huv => huv.pop hst.boundary) ?_
    exact fun _ _ _ _ hh => hh

theorem inTemplate {name : String} (h : insideRuns.congruence.rel V m n) :
    insideRuns.congruence.rel V (Render.inTemplate name m) (Render.inTemplate name n) := by
  intro i s t hst
  unfold Render.inTemplate
  rcases Inside.place_cases hst.place with ⟨hs, ht⟩ | ⟨l, l', hs, ht, hl⟩
  · rw [hs, ht]
    exact .halt ⟨rfl, hst.place⟩
  · have entered : (l.enter name).untrailed = (l'.enter name).untrailed := by
      simp_all [Location.enter, Location.untrailed]
    have ends := h i { s with place := some (l.enter name) }
      { t with place := some (l'.enter name) } { hst with place := congrArg some entered }
    rw [hs, ht]
    dsimp only
    generalize m _ = x, n _ = y at ends ⊢
    have left {here here' : Location} (hh : here.untrailed = here'.untrailed) :
        (here.leave (l.template, l.line)).untrailed =
          (here'.leave (l'.template, l'.line)).untrailed := by
      simp_all [Location.leave, Location.untrailed]
    cases ends with
    | done hab hin =>
      rcases Inside.place_cases hin.place with ⟨hu, hv⟩ | ⟨here, here', hu, hv, hh⟩
      · simp only [hu, hv]
        exact .done hab hin
      · simp only [hu, hv]
        exact .done hab { hin with place := congrArg some (left hh) }
    | halt hhalts =>
      rcases Inside.place_cases hhalts.2 with ⟨hu, hv⟩ | ⟨here, here', hu, hv, hh⟩
      · simp only [hu, hv]
        exact .halt hhalts
      · simp only [hu, hv]
        exact .halt ⟨untrailed_located hh hhalts.1, congrArg some (left hh)⟩

theorem captured {m n : Render Unit} (h : insideRuns.congruence.rel Eq m n) :
    insideRuns.congruence.rel (Same fun _ => True) (Render.captured m) (Render.captured n) := by
  intro i s t hst
  have ends := h i { s with sink := .buffer, chunks := [] } { t with sink := .buffer, chunks := [] }
    { hst with sink := rfl, chunks := rfl }
  unfold Render.captured
  generalize m _ = x, n _ = y at ends ⊢
  cases ends with
  | done _ hin =>
    refine .done ⟨?_, trivial⟩ { hin with sink := hst.sink, chunks := hst.chunks }
    rw [hin.chunks]
  | halt hh => exact .halt hh

theorem including {x : Template} (h : insideRuns.congruence.rel V m n) :
    insideRuns.congruence.rel V (Render.including x m) (Render.including x n) := by
  intro i s t hst
  have deeper (step : Int) {u v : RenderState}
      (huv : u.place.map Location.untrailed = v.place.map Location.untrailed) :
      (u.place.map fun l => { l with includeDepth := l.includeDepth + step }).map
          Location.untrailed =
        (v.place.map fun l => { l with includeDepth := l.includeDepth + step }).map
          Location.untrailed := by
    rcases Inside.place_cases huv with ⟨hu, hv⟩ | ⟨l, l', hu, hv, hl⟩
    · rw [hu, hv]
    · rw [hu, hv]
      simp_all [Location.untrailed]
  unfold Render.including
  refine insideRuns.ensuring (h (i.1, i.2 + 1) _ _ ?_) (fun u v huv => ?_) fun h u k v hh => ?_
  · exact { hst with
      targets := by simpa using hst.targets
      place := deeper 1 hst.place }
  · have rest := congrArg (List.drop 1) huv.targets
    rw [List.drop_take, List.drop_take] at rest
    exact { huv with
      targets := rest
      place := deeper (-1) huv.place }
  · exact ⟨hh.1, deeper (-1) hh.2⟩

theorem find (name : String) :
    insideRuns.congruence.rel (Same (Value.Found fun _ => True)) (Render.find name)
      (Render.find name) :=
  fun _ _ _ hst => .done ⟨hst.find_eq name, Or.inl trivial⟩ hst

/-- The error of a lookup that has found nothing suggests the same names. -/
theorem undefinedAt {V : α → α → Prop} (n : Node) :
    insideRuns.congruence.rel V (Render.undefinedAt n) (Render.undefinedAt n) := by
  intro i s t hst
  unfold Render.undefinedAt
  refine .halt ⟨?_, hst.place⟩
  rw [hst.visibleNames_eq]
  rcases Inside.place_cases hst.place with ⟨hs, ht⟩ | ⟨l, l', hs, ht, hl⟩
  · rw [hs, ht]
  · rw [hs, ht]
    refine untrailed_runtime ?_
    simp only [Location.untrailed, Location.mk.injEq] at hl
    simp [RuntimeError.untrailed, Location.knownLine, hl]

theorem active :
    insideRuns.congruence.rel (Same fun _ => True) Render.active Render.active := by
  intro i s t hst
  obtain ⟨f, rest, rest', hs, ht⟩ := hst.head
  have running {u : RenderState} {fs : List Frame} (hu : u.stack.frames = f :: fs) :
      Render.active u = (.ok f.template, u) := by
    change Render.ofRuntime u.stack.activeTemplate u = _
    unfold CallStack.activeTemplate CallStack.current
    rw [hu]
    rfl
  rw [running hs, running ht]
  exact .done ⟨rfl, trivial⟩ hst

theorem requested : insideRuns.congruence.rel Eq Render.requested Render.requested := by
  intro i s t hst
  obtain ⟨f, rest, rest', hs, ht⟩ := hst.head
  refine .done ?_ hst
  rw [hs, ht]
  rfl

theorem place :
    insideRuns.congruence.rel (fun l m => ∀ name, l.checkInclude name = m.checkInclude name)
      Render.place Render.place := by
  intro i s t hst
  unfold Render.place
  rcases Inside.place_cases hst.place with ⟨hs, ht⟩ | ⟨l, l', hs, ht, hl⟩
  · rw [hs, ht]
    exact .halt ⟨rfl, hst.place⟩
  · rw [hs, ht]
    refine .done (fun name => ?_) hst
    simp only [Location.untrailed, Location.mk.injEq] at hl
    simp [Location.checkInclude, Location.knownLine, hl]

theorem atLine (line : Int) :
    insideRuns.congruence.rel Eq (Render.atLine line) (Render.atLine line) := by
  unfold Render.atLine
  refine insideRuns.congruence.ite (fun _ => insideRuns.congruence.done rfl) fun _ => ?_
  refine insideRuns.change fun i s t hst => { hst with place := ?_ }
  rcases Inside.place_cases hst.place with ⟨hs, ht⟩ | ⟨l, l', hs, ht, hl⟩
  · rw [hs, ht]
  · rw [hs, ht]
    simp_all [Location.untrailed]

/-- A request of a loop goes to a loop inside. -/
theorem interrupt (signal : Signal) : insideRuns.congruence.rel Eq
    (change fun s =>
      { s with stack := s.stack.changeLoop (·.request signal), pending := true })
    (change fun s =>
      { s with stack := s.stack.changeLoop (·.request signal), pending := true }) := by
  refine insideRuns.change fun i s t hst => ?_
  obtain ⟨inner, outer, outer', hs, ht, hi, hb⟩ := hst.split
  have changed : Inside i { s with stack := s.stack.changeLoop (·.request signal) }
      { t with stack := t.stack.changeLoop (·.request signal) } := by
    refine hst.withFrames ⟨changeLoopIn (·.request signal) inner, outer, outer', ?_, ?_, ?_⟩
      ⟨rfl, rfl⟩ ⟨rfl, rfl⟩
    · rw [← changeLoopIn_append _ outer hb, ← hs]
      rfl
    · rw [← changeLoopIn_append _ outer' hb, ← ht]
      rfl
    · rw [map_changeLoopIn (fun f l hk => by rw [hk]; rfl), hi]
  exact { changed with pending := rfl }

theorem write (text : String) :
    insideRuns.congruence.rel Eq (Render.write text) (Render.write text) := by
  intro i s t hst
  unfold Render.write
  rw [hst.sink, hst.chunks]
  split
  · exact .done rfl { hst with chunks := rfl, sink := rfl }
  · exact .halt ⟨rfl, hst.place⟩

/-- A binding goes to the innermost frame, which lies inside. -/
theorem assign (name : String) (v : Value) :
    insideRuns.congruence.rel Eq (Render.assign name v) (Render.assign name v) := by
  intro i s t hst
  obtain ⟨inner, outer, outer', hs, ht, hi, hb⟩ := hst.split
  cases inner with
  | nil => exact absurd hb not_bounded_nil
  | cons f rest =>
    have assigned {u : RenderState} {fs : List Frame} (hu : u.stack.frames = f :: fs) :
        Render.assign name v u = (.ok (), { u with
          stack := { u.stack with frames := f.assign name v :: fs } }) := by
      change Render.andThen (Render.ofRuntime (u.stack.assign name v)) _ u = _
      unfold CallStack.assign
      rw [hu]
      rfl
    rw [assigned hs, assigned ht]
    exact .done rfl (hst.withFrames ⟨f.assign name v :: rest, outer, outer', rfl, rfl, hi⟩
      ⟨rfl, rfl⟩ ⟨rfl, rfl⟩)

/-- A wide binding goes to the frame of the macro or of a template included there. -/
theorem assignWide (name : String) (v : Value) :
    insideRuns.congruence.rel Eq (Render.assignWide name v) (Render.assignWide name v) := by
  intro i s t hst
  obtain ⟨inner, outer, outer', hs, ht, hi, hb⟩ := hst.split
  obtain ⟨inner', hin, -⟩ := assignWideIn_append name v outer hb
  have assigned {u : RenderState} {fs : List Frame} (hu : u.stack.frames = inner ++ fs) :
      Render.assignWide name v u = (.ok (), { u with
        stack := { u.stack with frames := inner' ++ fs } }) := by
    obtain ⟨inner'', hin', hout⟩ := assignWideIn_append name v fs hb
    obtain rfl : inner' = inner'' := Option.some.inj (hin.symm.trans hin')
    change Render.andThen (Render.ofRuntime (u.stack.assignWide name v)) _ u = _
    unfold CallStack.assignWide
    rw [hu, hout]
    rfl
  rw [assigned hs, assigned ht]
  refine .done rfl (hst.withFrames ⟨inner', outer, outer', rfl, rfl, ?_⟩ ⟨rfl, rfl⟩ ⟨rfl, rfl⟩)
  rw [map_assignWideIn (fun _ => rfl) hin, hi]

end Isolation

/-- All that a macro may run corresponds in two runs inside of it. -/
def insideSimulation (setting : Setting) : Simulation setting where
  toCongruence := insideRuns.congruence
  node := fun _ => True
  chain := fun _ => True
  value := fun _ => True
  text := fun _ => True
  template := fun _ => True
  agree := fun s t => ∃ i, Inside i s t
  hereditary := Value.Hereditary.trivial
  markup := Iff.rfl
  escaped := fun _ => trivial
  unescaped := fun _ _ => trivial
  const := fun _ => trivial
  data := fun _ => trivial
  raw := fun _ => trivial
  function := fun _ _ _ _ _ => trivial
  filter := fun _ _ _ _ _ _ => trivial
  filterBlock := fun _ _ => trivial
  registered := fun _ => trivial
  code := fun _ => Template.every_true _
  code_of_chain := fun _ _ _ _ _ _ _ => trivial
  recorded := fun _ _ => trivial
  defined := fun _ _ => trivial
  state := insideRuns.state
  pending := fun ⟨_, h⟩ => h.pending
  target := fun ⟨_, h⟩ => ⟨h.target, fun _ _ => trivial⟩
  loop := fun ⟨_, h⟩ => by
    unfold CallStack.currentLoop
    rw [h.inScope_eq]
  block := fun ⟨_, h⟩ => by
    unfold CallStack.currentBlock
    rw [h.inScope_eq]
    exact ⟨rfl, fun _ _ _ _ => trivial⟩
  find := Isolation.find
  undefinedAt := Isolation.undefinedAt
  exhausted := insideRuns.exhausted fun _ _ _ hst => ⟨rfl, hst.place⟩
  active := Isolation.active
  requested := Isolation.requested
  atLine := Isolation.atLine
  proceed := insideRuns.change fun _ _ _ h => { h with pending := rfl }
  interrupt := Isolation.interrupt
  write := fun _ => Isolation.write _
  assign := fun _ => Isolation.assign _ _
  assignWide := fun _ => Isolation.assignWide _ _
  inScope := fun _ h => Isolation.inScope h
  inTemplate := Isolation.inTemplate
  captured := Isolation.captured
  allowing := fun _ h => insideRuns.congruence.allowing Isolation.place (Isolation.including h)

/-! ### Two calls of a macro -/

/-- What two states share that is not the caller's own: the template whose blocks are in effect, how
    deep macros and includes are nested and may be, and whether a request waits. -/
structure Shared (s t : RenderState) : Prop where
  limit : s.stack.limit = t.stack.limit
  macroDepth : s.stack.macroDepth = t.stack.macroDepth
  target : s.targets.head? = t.targets.head?
  pending : s.pending = t.pending
  includes : s.place.map (fun l => (l.includeDepth, l.limit)) =
    t.place.map fun l => (l.includeDepth, l.limit)

/-- Runs of two callers. -/
def callerRuns : Correspondence Unit where
  states _ := Shared
  halts _ h _ k _ := h.untrailed = k.untrailed
  halted _ _ := rfl

namespace Shared

variable {s t : RenderState}

/-- With the frame of a macro on top, in its template and with its own buffer, a run is inside. -/
theorem inside (h : Shared s t) {f : Frame} (hf : f.kind.isCall = true) (d : Nat)
    (name : String) {l l' : Location} (hs : s.place = some l) (ht : t.place = some l') :
    Inside ([true], 0)
      { s with
        stack := { s.stack with frames := f :: s.stack.frames, macroDepth := d }
        place := some (l.enter name)
        sink := .buffer
        chunks := [] }
      { t with
        stack := { t.stack with frames := f :: t.stack.frames, macroDepth := d }
        place := some (l'.enter name)
        sink := .buffer
        chunks := [] } := by
  have hincludes := h.includes
  rw [hs, ht] at hincludes
  simp only [Option.map_some, Option.some.injEq, Prod.mk.injEq] at hincludes
  -- the new frame is the boundary below which the callers may differ
  exact
    { frames := ⟨[f], s.stack.frames, t.stack.frames, rfl, rfl, by simp [hf]⟩
      boundary := by simp
      macroDepth := rfl
      limit := h.limit
      targets := by
        rw [List.take_one, List.take_one]
        exact congrArg Option.toList h.target
      pending := h.pending
      place := by simp [Location.untrailed, Location.enter, hincludes]
      sink := rfl
      chunks := rfl }

/-- When the frame of the macro is left, the callers share what they shared before. -/
theorem left {u v : RenderState} (h : Inside ([true], 0) u v) {p q : Option Location}
    (hpq : p.map (fun l => (l.includeDepth, l.limit)) = q.map fun l => (l.includeDepth, l.limit)) :
    Shared
      { s with
        stack := (u.stack.pop.map Prod.snd).getD u.stack
        targets := u.targets
        pending := u.pending
        place := p }
      { t with
        stack := (v.stack.pop.map Prod.snd).getD v.stack
        targets := v.targets
        pending := v.pending
        place := q } := by
  obtain ⟨f, rest, rest', hu, hv⟩ := h.head
  have hpop {w : CallStack} {fs : List Frame} (hw : w.frames = f :: fs) :
      (w.pop.map Prod.snd).getD w = { w with
        frames := fs
        macroDepth := if f.kind.isCall then w.macroDepth - 1 else w.macroDepth } := by
    unfold CallStack.pop
    rw [hw]
    rfl
  rw [hpop hu, hpop hv]
  exact
    { limit := h.limit
      macroDepth := by
        dsimp only
        rw [h.macroDepth]
      target := h.target
      pending := h.pending
      includes := hpq }

theorem place_cases (h : Shared s t) : (s.place = none ∧ t.place = none) ∨
    ∃ l l', s.place = some l ∧ t.place = some l' := by
  have hincludes := h.includes
  cases hs : s.place <;> cases ht : t.place <;> simp_all

end Shared

/-- A body in the scope of a macro ends alike for two callers, whatever scopes are theirs. -/
theorem callers_inScope {f : Frame} {name : String} {m : Render Unit} (hf : f.kind.isCall = true)
    (hm : insideRuns.congruence.rel Eq m m) :
    callerRuns.congruence.rel Eq (inScope f (inTemplate name (captured m)))
      (inScope f (inTemplate name (captured m))) := by
  intro _ s t hst
  unfold inScope
  rcases push_cases hst.limit hst.macroDepth f with ⟨e, hs, ht⟩ | ⟨d, hs, ht⟩
  · rw [hs, ht]
    exact .halt rfl
  · rw [hs, ht]
    rcases hst.place_cases with ⟨hs, ht⟩ | ⟨l, l', hs, ht⟩
    · simp only [ensuring, inTemplate, hs, ht]
      exact .halt rfl
    · -- the frame of the call is pushed on both sides, so the body runs inside of the boundary
      have ends := hm ([true], 0) _ _ (hst.inside hf d name hs ht)
      simp only [ensuring, inTemplate, captured, hs, ht]
      dsimp only at ends
      generalize m _ = x at ends ⊢
      generalize m _ = y at ends ⊢
      cases ends with
      | @done _ _ u v _ hin =>
        rw [hin.chunks]
        rcases Inside.place_cases hin.place with ⟨hu, hv⟩ | ⟨here, here', hu, hv, hh⟩
        · simp only [hu, hv]
          exact .done rfl (Shared.left hin rfl)
        · simp only [hu, hv]
          simp only [Location.untrailed, Location.mk.injEq] at hh
          exact .done rfl (Shared.left hin (by simp [Location.leave, hh]))
      | @halt h k u v hhalts =>
        rcases Inside.place_cases hhalts.2 with ⟨hu, hv⟩ | ⟨here, here', hu, hv, hh⟩
        · simp only [hu, hv]
          exact .halt hhalts.1
        · simp only [hu, hv]
          exact .halt (untrailed_located hh hhalts.1)

/-- A macro gives two callers the same text or errors that differ in the trail at most. -/
theorem callers_runMacro (setting : Setting) (depth : Nat) (owner : Template) (m : Macro)
    (fullName : String) (bound : List (String × Value)) :
    callerRuns.congruence.rel (Same fun v => ∃ text, v = .markup text)
      (runMacro (calls depth setting) owner m fullName bound)
      (runMacro (calls depth setting) owner m fullName bound) := by
  obtain ⟨hbody, hvalue⟩ := (insideSimulation setting).calls depth
  refine callerRuns.congruence.bind (callers_inScope rfl ?_) ?_
  · refine (insideSimulation setting).seq ?_ (hbody m.body fun _ _ _ _ => trivial)
    exact (insideSimulation setting).assignParams (insideSimulation setting).assign
      (fun _ _ => trivial) m.params fun _ _ n _ => hvalue n fun _ _ => trivial
  · rintro text _ rfl
    exact callerRuns.congruence.done ⟨rfl, text, rfl⟩

/-- The macro that a call names, with the values of its arguments. -/
def callee (links : Links) (setting : Setting) (space name : String) (args : List Node)
    (named : List (String × Node)) :
    Render ((Template × Macro) × List Value × List (String × Value)) := do
  let found ← links.findMacro space name
  let vs ← all (evalEach links setting false args)
  let ns ← allNamed (evalNamed links setting named)
  return (found, vs, ns)

theorem all_const (links : Links) (setting : Setting) (p : Pos) (s : RenderState)
    (vs : List Value) : all (evalEach links setting false (vs.map (.const p))) s = (.ok vs, s) := by
  induction vs with
  | nil => rfl
  | cons v rest ih =>
    rw [List.map_cons, evalEach, all, eval, bind_of_done (m := done v) rfl, bind_of_done ih]
    rfl

theorem allNamed_const (links : Links) (setting : Setting) (p : Pos) (s : RenderState) :
    ∀ ns : List (String × Value),
      allNamed (evalNamed links setting (ns.map fun a => (a.1, .const p a.2))) s = (.ok ns, s)
  | [] => rfl
  | (name, v) :: rest => by
    rw [List.map_cons, evalNamed, allNamed, eval, bind_of_done (m := done v) rfl,
      bind_of_done (allNamed_const links setting p s rest)]
    rfl

/-- A call with literals passes their values on and leaves the state as it was. -/
theorem callee_const {links : Links} {setting : Setting} {space name : String} {s : RenderState}
    {found : Template × Macro} (h : links.findMacro space name s = (.ok found, s)) (p : Pos)
    (vs : List Value) (ns : List (String × Value)) :
    callee links setting space name (vs.map (.const p)) (ns.map fun a => (a.1, .const p a.2)) s =
      (.ok (found, vs, ns), s) := by
  unfold callee
  rw [bind_of_done h, bind_of_done (all_const links setting p s vs),
    bind_of_done (allNamed_const links setting p s ns)]
  rfl

/-- What a call does once its macro and its arguments are known. -/
theorem eval_macroCall {links : Links} {setting : Setting} {lenient : Bool} {p : Pos}
    {space name : String} {args : List Node} {named : List (String × Node)}
    {found : Template × Macro} {vs : List Value} {ns : List (String × Value)}
    {s s' : RenderState}
    (h : callee links setting space name args named s = (.ok (found, vs, ns), s')) :
    eval links setting lenient (.macroCall p space name args named) s =
      (ofRuntime (bindArguments (space ++ "::" ++ name) found.2.params vs ns) >>= fun bound =>
        links.runMacro found.1 found.2 (space ++ "::" ++ name) bound) s' := by
  obtain ⟨_, s₁, h₁, h⟩ := bind_eq_done h
  obtain ⟨_, s₂, h₂, h⟩ := bind_eq_done h
  obtain ⟨_, s₃, h₃, h⟩ := bind_eq_done h
  cases h
  obtain ⟨owner, m⟩ := found
  rw [eval, bind_of_done h₁]
  dsimp only
  rw [bind_of_done h₂, bind_of_done h₃]

/-- What two callers cannot tell apart: the same marked text, or halts that differ in the trail at
    most. -/
inductive Alike : Except Halt Value → Except Halt Value → Prop where
  | text (s : String) : Alike (.ok (.markup s)) (.ok (.markup s))
  | halt {h k : Halt} : h.untrailed = k.untrailed → Alike (.error h) (.error k)

theorem alike_of_ends {x y : Except Halt Value × RenderState}
    (h : callerRuns.Ends () (Same fun v => ∃ text, v = .markup text) x y) : Alike x.1 y.1 := by
  cases h with
  | done h _ =>
    obtain ⟨rfl, text, rfl⟩ := h
    exact .text text
  | halt h => exact .halt h

/-- Macros are isolated: where two states share what is not the caller's own, a call of one macro
    with the same values of its arguments gives the same text in both or fails in both with errors
    that differ in the trail at most, whatever the contexts, frames, locals and loops of the
    callers. -/
theorem macro_isolated {setting : Setting} {depth : Nat} {lenient : Bool} {p : Pos}
    {space name : String} {args : List Node} {named : List (String × Node)}
    {found : Template × Macro} {vs : List Value} {ns : List (String × Value)}
    {s t s' t' : RenderState}
    (hs : callee (linked (calls depth setting) setting) setting space name args named s =
      (.ok (found, vs, ns), s'))
    (ht : callee (linked (calls depth setting) setting) setting space name args named t =
      (.ok (found, vs, ns), t'))
    (hshared : Shared s' t') :
    Alike
      (eval (linked (calls depth setting) setting) setting lenient
        (.macroCall p space name args named) s).1
      (eval (linked (calls depth setting) setting) setting lenient
        (.macroCall p space name args named) t).1 := by
  rw [eval_macroCall hs, eval_macroCall ht]
  refine alike_of_ends (callerRuns.congruence.bind
    (callerRuns.congruence.ofRuntime (p := fun _ => True)
      (r := bindArguments (space ++ "::" ++ name) found.2.params vs ns) fun _ _ => trivial)
    (fun bound bound' hbound => by
      obtain ⟨rfl, -⟩ := hbound
      exact callers_runMacro setting depth found.1 found.2 (space ++ "::" ++ name) bound)
    () s' t' hshared)

/-- A macro that sets a name, runs a loop and includes a template. -/
def listing : Macro :=
  { name := "listing"
    params := [⟨"items", none⟩, ⟨"title", some (.const {} (.text "All"))⟩]
    body :=
      [.assign {} "shown" (.name {} "title") true,
       .output {} (.name {} "shown"),
       .loop {} "x" (.name {} "items") [.data {} " ", .output {} (.name {} "x")] [] none none,
       .include {} ["footer.html"] false] }

/-- A template of macros. -/
def lists : Template :=
  { name := "lists.html", document := {}, macros := Table.ofList [("listing", listing)] }

/-- The template of macros and one that a macro includes. -/
def library : Setting :=
  { env := {}
    templates := Table.ofList
      [("lists.html", lists),
       ("footer.html", { name := "footer.html", document := { body := [.data {} "."] } })]
    escaping := false }

/-- A template that calls the macro. -/
def caller : Template :=
  { name := "page.html", document := {}, imports := [(.text "lists.html", "l")] }

/-- A state in which the template runs in some frames and with some data. -/
def calling (frames : List Frame) (context : Context) : RenderState :=
  { stack := { context, frames := frames ++ [.root caller] }
    targets := [caller]
    place := some {} }

/-- The items that the macro is called with. -/
def given : List Value := [.list [.text "a", .text "b"]]

/-- A call of the macro with the items. -/
def listed (s : RenderState) : Except Halt Value × RenderState :=
  eval (linked (calls 3 library) library) library false
    (.macroCall {} "l" "listing" (given.map (.const {})) []) s

/-- A loop over other items, in a template whose data has the names that the macro uses. -/
def elsewhere : RenderState :=
  calling [.iteration { valueName := "x", items := #[(.null, .text "theirs")] } caller]
    ⟨[(.text "shown", .text "None"), (.text "items", .list [])]⟩

/-- The macro is found from any state in which the template runs innermost. -/
theorem callee_listing {s : RenderState}
    (h : findMacro library "l" "listing" s = (.ok (lists, listing), s)) :
    callee (linked (calls 3 library) library) library "l" "listing" (given.map (.const {})) [] s =
      (.ok ((lists, listing), given, []), s) :=
  callee_const h {} given []

theorem macro_isolated_listing : Alike (listed (calling [] {})).1 (listed elsewhere).1 := by
  have hs : findMacro library "l" "listing" (calling [] {}) =
    (.ok (lists, listing), calling [] {}) := rfl
  have ht : findMacro library "l" "listing" elsewhere = (.ok (lists, listing), elsewhere) := rfl
  have shared : Shared (calling [] {}) elsewhere :=
    { limit := rfl, macroDepth := rfl, target := rfl, pending := rfl, includes := rfl }
  unfold listed
  exact macro_isolated (callee_listing hs) (callee_listing ht) shared

example : (listed elsewhere).1.toOption.bind Value.text? = some "All a b." := by
  decide +kernel

end Render

end Stencil
