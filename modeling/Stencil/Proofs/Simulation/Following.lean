import Stencil.Proofs.Flow
import Stencil.Proofs.Level

/-! Requests in the state and requests as results. A computation *follows* another one if it ends
    alike and keeps in its state the request that the other one ends with: the innermost loop has
    the request then, and the render knows that one waits. Apart from this the states are the same,
    so that what looks at neither is the same whether or not a request waits. Where no request
    waits, scopes, places, buffers and includes are entered and left alike. -/

namespace Stencil

/-- There is a loop to make requests of. -/
def Level.Looped (i : Level) : Prop :=
  (CallStack.currentLoop { frames := i.frames }).isSome = true

namespace CallStack

theorem isSome_loop?_outline (f : Frame) :
    f.outline.kind.loop?.isSome = f.kind.loop?.isSome := by
  cases hk : f.kind <;> simp [Frame.outline, FrameKind.outline, FrameKind.loop?, hk]

theorem loop?_outline_eq_none {f : Frame} : f.outline.kind.loop? = none ↔ f.kind.loop? = none := by
  rw [← Option.not_isSome_iff_eq_none, isSome_loop?_outline, Option.not_isSome_iff_eq_none]

/-- Whether there is a loop is known from the outlines. -/
theorem currentLoop_outline (s : CallStack) :
    (currentLoop { frames := s.frames.map Frame.outline }).isSome = s.currentLoop.isSome := by
  unfold currentLoop
  dsimp only
  rw [inScope_outline, List.isSome_findSome?, List.isSome_findSome?, List.any_map]
  simp only [Function.comp_def, isSome_loop?_outline]

/-- A request changes nothing that a name stands for. -/
theorem findIn_request (context : Context) (name : String) (signal : Signal) :
    ∀ frames : List Frame,
      findIn context name (changeLoopIn (·.request signal) frames) = findIn context name frames
  | [] => rfl
  | f :: rest => by
    have hrest := findIn_request context name signal rest
    rw [changeLoopIn]
    split
    · rename_i l hk
      have hfind :
          Frame.find { f with kind := .iteration (l.request signal) } name = f.find name := by
        unfold Frame.find
        rw [hk]
        rfl
      rw [findIn, findIn, hfind, hk]
      rfl
    · rfl
    · rw [findIn, findIn, hrest]

/-- A request changes no name that is visible. -/
theorem map_inScope_request {α : Type} {g : Frame → α} (signal : Signal)
    (hg : ∀ f l, f.kind = .iteration l →
      g { f with kind := .iteration (l.request signal) } = g f) : ∀ frames : List Frame,
      (inScope (changeLoopIn (·.request signal) frames)).map g = (inScope frames).map g
  | [] => rfl
  | f :: rest => by
    have hrest := map_inScope_request signal hg rest
    rw [changeLoopIn]
    split
    · rename_i l hk
      rw [inScope, inScope, hk]
      simp [FrameKind.isCall, hg f l hk]
    · rfl
    · rw [inScope, inScope]
      split <;> simp [hrest]

theorem visibleNames_request (s : CallStack) (signal : Signal) :
    (s.changeLoop (·.request signal)).visibleNames = s.visibleNames := by
  have hnames := map_inScope_request (g := Frame.names) signal
    (fun f l hk => by simp [Frame.names, hk, FrameKind.loop?, Loop.names, Loop.request]) s.frames
  have hcalls := map_inScope_request (g := fun f => f.kind.isCall) signal
    (fun f l hk => by simp [hk, FrameKind.isCall]) s.frames
  have hany := congrArg (List.any · id) hcalls
  simp only [List.any_map, Function.comp_def, id] at hany
  unfold visibleNames changeLoop
  dsimp only
  rw [List.flatMap_def, List.flatMap_def, hnames, hany]

end CallStack

namespace Level

variable {i : Level} {f : Frame}

/-- A scope that is neither a loop nor a macro call has the loop around it. -/
theorem looped_inScope (hcall : f.kind.isCall = false) (hloop : f.kind.loop? = none)
    (h : (i.inScope f).Looped) : i.Looped := by
  have hframe : f.outline.kind.loop? = none := CallStack.loop?_outline_eq_none.2 hloop
  unfold Looped CallStack.currentLoop Level.inScope at *
  dsimp only at h
  rwa [CallStack.inScope, CallStack.isCall_outline, hcall, if_neg (by simp), List.findSome?_cons,
    hframe] at h

/-- A macro call has no loop around it. -/
theorem not_looped_call (hcall : f.kind.isCall = true) : ¬(i.inScope f).Looped := by
  have hframe : f.outline.kind.loop? = none := by
    refine CallStack.loop?_outline_eq_none.2 ?_
    cases hk : f.kind <;> simp_all [FrameKind.isCall, FrameKind.loop?]
  unfold Looped CallStack.currentLoop Level.inScope
  rw [CallStack.inScope, CallStack.isCall_outline, if_pos hcall]
  simp [hframe]

end Level

namespace Render

/-! ### States in which a request waits -/

/-- The state with a request to the innermost loop. -/
def signalled (signal : Signal) (s : RenderState) : RenderState :=
  match signal with
  | .none => s
  | signal => { s with stack := s.stack.changeLoop (·.request signal), pending := true }

/-- No request waits. -/
structure Calm (s : RenderState) : Prop where
  pending : s.pending = false
  loops : ∀ f ∈ s.stack.frames, ∀ l, f.kind = .iteration l → l.signal = .none

section

variable (signal : Signal) (s : RenderState)

@[simp]
theorem place_signalled : (signalled signal s).place = s.place := by cases signal <;> rfl

@[simp]
theorem chunks_signalled : (signalled signal s).chunks = s.chunks := by cases signal <;> rfl

@[simp]
theorem sink_signalled : (signalled signal s).sink = s.sink := by cases signal <;> rfl

theorem pending_signalled {signal : Signal} (h : signal ≠ .none) (s : RenderState) :
    (signalled signal s).pending = true := by
  cases signal with
  | none => exact absurd rfl h
  | leave | next => rfl

theorem signalled_place (place : Option Location) :
    { signalled signal s with place } = signalled signal { s with place } := by
  cases signal <;> rfl

theorem signalled_output (sink : Sink) (chunks : List Chunk) :
    { signalled signal s with sink, chunks } = signalled signal { s with sink, chunks } := by
  cases signal <;> rfl

theorem find_signalled (name : String) :
    (signalled signal s).stack.find name = s.stack.find name := by
  cases signal
  case none => rfl
  all_goals exact CallStack.findIn_request _ _ _ _

theorem visibleNames_signalled :
    (signalled signal s).stack.visibleNames = s.stack.visibleNames := by
  cases signal
  case none => rfl
  all_goals exact CallStack.visibleNames_request _ _

end

/-! ### Following -/

variable {α β γ δ : Type}

/-- One computation has ended as another one did: with a related result and the request that the
    other one ends with, or halted for the same reason and at the same place, with the same
    output. -/
inductive Tracks (i : Level) (after : β → Signal) (V : α → β → Prop) :
    Except Halt α × RenderState → Except Halt β × RenderState → Prop where
  | done {a b t} : V a b → Calm t → t.level = i → (after b ≠ .none → i.Looped) →
      Tracks i after V (.ok a, signalled (after b) t) (.ok b, t)
  | halt {h u t} : u.place = t.place → u.chunks = t.chunks →
      Tracks i after V (.error h, u) (.error h, t)

/-- One computation follows another one where a request waits from before. -/
def Follows (P : Level → Prop) (before : Signal) (after : β → Signal) (V : α → β → Prop)
    (m : Render α) (n : Render β) : Prop :=
  ∀ t, Calm t → P t.level → (before ≠ .none → t.level.Looped) →
    Tracks t.level after V (m (signalled before t)) (n t)

namespace Follows

variable {P Q : Level → Prop} {before : Signal} {after : β → Signal} {V : α → β → Prop}
  {m : Render α} {n : Render β}

theorem bind {mid : β → Signal} {after : δ → Signal} {W : γ → δ → Prop} {f : α → Render γ}
    {g : β → Render δ} (hm : Follows P before mid V m n)
    (hf : ∀ a b, V a b → Follows P (mid b) after W (f a) (g b)) :
    Follows P before after W (m >>= f) (n >>= g) := by
  intro t ht hP hbefore
  have tracks := hm t ht hP hbefore
  change Tracks t.level after W (andThen m f _) (andThen n g t)
  unfold andThen
  generalize m (signalled before t) = x, n t = y at tracks ⊢
  cases tracks with
  | done hab hu hlevel hlooped => exact hlevel ▸ hf _ _ hab _ hu (hlevel ▸ hP) (hlevel ▸ hlooped)
  | halt hplace hchunks => exact .halt hplace hchunks

theorem done {a : α} {b : β} (h : V a b) (hafter : after b = before) :
    Follows P before after V (Render.done a) (Render.done b) := by
  intro t ht hP hbefore
  rw [← hafter]
  exact .done h ht rfl (hafter ▸ hbefore)

theorem halt (h : Halt) : Follows P before after V (Render.halt h) (Render.halt h) :=
  fun t _ _ _ => .halt (place_signalled before t) (chunks_signalled before t)

theorem mono {W : α → β → Prop} (h : Follows P before after V m n) (hw : ∀ a b, V a b → W a b) :
    Follows P before after W m n := by
  intro t ht hP hbefore
  have tracks := h t ht hP hbefore
  generalize m _ = x, n _ = y at tracks ⊢
  cases tracks with
  | done hab hu hlevel hlooped => exact .done (hw _ _ hab) hu hlevel hlooped
  | halt hplace hchunks => exact .halt hplace hchunks

theorem weaken (h : Follows P before after V m n) (hP : ∀ i, Q i → P i) :
    Follows Q before after V m n :=
  fun t ht hQ => h t ht (hP _ hQ)

end Follows

/-- Computations that do the same whether or not a request waits, and leave it as it is. -/
def waiting (P : Level → Prop) (signal : Signal) : Congruence where
  rel V m n := Follows P signal (fun _ => signal) V m n
  done h := .done h rfl
  bind hm hf := Follows.bind hm hf
  halted _ := .halt _

namespace Waiting

variable {P : Level → Prop} {signal : Signal} {V : α → α → Prop} {p : α → Prop} {m : Render α}

theorem exhausted : (waiting P signal).rel V (Render.halt .exhausted) (Render.halt .exhausted) :=
  Follows.halt .exhausted

theorem find (name : String) : (waiting P signal).rel (Same (Value.Found fun _ => True))
    (Render.find name) (Render.find name) := by
  intro t ht hP hsignal
  change Tracks t.level _ _ (.ok ((signalled signal t).stack.find name), signalled signal t)
    (.ok (t.stack.find name), t)
  rw [find_signalled]
  exact .done ⟨rfl, Or.inl trivial⟩ ht rfl hsignal

theorem undefinedAt (n : Node) :
    (waiting P signal).rel V (Render.undefinedAt n) (Render.undefinedAt n) := by
  intro t ht hP hsignal
  unfold Render.undefinedAt
  rw [visibleNames_signalled, place_signalled]
  exact .halt (place_signalled signal t) (chunks_signalled signal t)

theorem write (text : String) :
    (waiting P signal).rel Eq (Render.write text) (Render.write text) := by
  intro t ht hP hsignal
  unfold Render.write
  rw [sink_signalled, chunks_signalled]
  cases t.sink t.chunks text with
  | error q => exact .halt (place_signalled signal t) (chunks_signalled signal t)
  | ok c =>
    have hout := signalled_output signal t t.sink (c :: t.chunks)
    dsimp only at hout ⊢
    rw [hout]
    exact .done rfl ⟨ht.pending, ht.loops⟩ rfl hsignal

/-- Where no request waits, a computation does the same as itself if it keeps the level and makes no
    request. -/
theorem step (h : ∀ s, Calm s → P s.level →
    (∃ a t, m s = (.ok a, t) ∧ p a ∧ Calm t ∧ t.level = s.level) ∨ ∃ q, m s = (.error q, s)) :
    (waiting P .none).rel (Same p) m m := by
  intro s hs hP hsignal
  change Tracks s.level _ _ (m s) (m s)
  rcases h s hs hP with ⟨a, t, hm, ha, ht, hlevel⟩ | ⟨q, hm⟩
  · rw [hm]
    exact .done (t := t) ⟨rfl, ha⟩ ht hlevel fun h => absurd rfl h
  · rw [hm]
    exact .halt rfl rfl

theorem state : (waiting P .none).rel (fun s t => s = t ∧ Calm t ∧ P t.level) Render.state
    Render.state :=
  fun _ ht hP hsignal => .done ⟨rfl, ht, hP⟩ ht rfl hsignal

/-- The running template has what holds of the templates of all frames. -/
theorem active {p : Template → Prop} (h : ∀ i, P i → ∀ f ∈ i.frames, p f.template) :
    (waiting P .none).rel (Same p) Render.active Render.active := by
  refine step fun s hs hP => ?_
  have running : Render.active s = Render.ofRuntime s.stack.activeTemplate s := rfl
  rw [running]
  unfold CallStack.activeTemplate CallStack.current
  cases hf : s.stack.frames with
  | nil => exact Or.inr ⟨_, rfl⟩
  | cons f rest =>
    refine Or.inl ⟨f.template, s, rfl, h _ hP f.outline ?_, hs, rfl⟩
    unfold RenderState.level
    rw [hf]
    exact List.mem_cons_self ..

theorem atLine (line : Int) :
    (waiting P .none).rel Eq (Render.atLine line) (Render.atLine line) := by
  refine (waiting P .none).mono (step (p := fun _ => True) fun s hs _ => ?_) fun _ _ h => h.1
  unfold Render.atLine
  split
  · exact Or.inl ⟨(), s, rfl, trivial, hs, rfl⟩
  · exact Or.inl ⟨(), _, rfl, trivial, ⟨hs.pending, hs.loops⟩, Level.level_lined line s⟩

theorem assign (name : String) (v : Value) :
    (waiting P .none).rel Eq (Render.assign name v) (Render.assign name v) := by
  refine (waiting P .none).mono (step (p := fun _ => True) fun s hs _ => ?_) fun _ _ h => h.1
  have assigned : Render.assign name v s =
      Render.andThen (Render.ofRuntime (s.stack.assign name v)) _ s := rfl
  rw [assigned]
  unfold CallStack.assign
  cases hf : s.stack.frames with
  | nil => exact Or.inr ⟨_, rfl⟩
  | cons f rest =>
    have hloops := hs.loops
    rw [hf, List.forall_mem_cons] at hloops
    exact Or.inl ⟨(), _, rfl, trivial,
      ⟨hs.pending, List.forall_mem_cons.2 ⟨hloops.1, hloops.2⟩⟩, Level.level_assigned name v hf⟩

theorem assignWide (name : String) (v : Value) :
    (waiting P .none).rel Eq (Render.assignWide name v) (Render.assignWide name v) := by
  refine (waiting P .none).mono (step (p := fun _ => True) fun s hs _ => ?_) fun _ _ h => h.1
  have assigned : Render.assignWide name v s =
      Render.andThen (Render.ofRuntime (s.stack.assignWide name v)) _ s := rfl
  rw [assigned]
  unfold CallStack.assignWide
  cases hf : CallStack.assignWideIn name v s.stack.frames with
  | none => exact Or.inr ⟨_, rfl⟩
  | some frames =>
    exact Or.inl ⟨(), _, rfl, trivial,
      ⟨hs.pending, CallStack.forall_mem_assignWideIn (fun _ h => h) hs.loops hf⟩,
      Level.level_assignedWide hf⟩

end Waiting

/-! ### Scopes, places and buffers -/

namespace Calm

variable {s : RenderState}

theorem pushed (h : Calm s) {f : Frame} {stack : CallStack} (hpush : s.stack.push f = .ok stack)
    (hf : ∀ l, f.kind = .iteration l → l.signal = .none) : Calm { s with stack } := by
  obtain ⟨rfl, -⟩ := CallStack.push_eq_ok hpush
  exact ⟨h.pending, List.forall_mem_cons.2 ⟨hf, h.loops⟩⟩

theorem popped (h : Calm s) : Calm (Render.popped s) := by
  refine ⟨h.pending, fun f hf => h.loops f ?_⟩
  unfold Render.popped CallStack.pop at hf
  cases hframes : s.stack.frames with
  | nil => simp [hframes] at hf
  | cons g rest =>
    simp only [hframes, Option.map_some, Option.getD_some] at hf
    exact List.mem_cons_of_mem g hf

end Calm

/-- The innermost frame of a state in a scope is that of the scope, but for its locals and the state
    of its loop. -/
theorem exists_frame {i : Level} {f : Frame} {u : RenderState} (h : u.level = i.inScope f) :
    ∃ g rest, u.stack.frames = g :: rest ∧ g.outline = f.outline := by
  have hframes : u.stack.frames.map Frame.outline = f.outline :: i.frames :=
    congrArg Level.frames h
  obtain ⟨g, rest, hg, hout, -⟩ := List.map_eq_cons_iff.1 hframes
  exact ⟨g, rest, hg, hout⟩

/-- A request from a scope that is neither a loop nor a macro call is one to the loop around it. -/
theorem popped_signalled {i : Level} {f : Frame} {u : RenderState} (signal : Signal)
    (h : u.level = i.inScope f) (hcall : f.kind.isCall = false) (hloop : f.kind.loop? = none) :
    popped (signalled signal u) = signalled signal (popped u) := by
  obtain ⟨g, rest, hg, hout⟩ := exists_frame h
  have hgcall : g.kind.isCall = false := by
    rw [← CallStack.isCall_outline, hout, CallStack.isCall_outline, hcall]
  have hgloop : g.kind.loop? = none := by
    rw [← CallStack.loop?_outline_eq_none, hout, CallStack.loop?_outline_eq_none, hloop]
  cases signal
  case none => rfl
  all_goals
    unfold popped signalled CallStack.changeLoop CallStack.pop
    simp only [hg, CallStack.changeLoopIn]
    cases hk : g.kind <;> simp_all [FrameKind.isCall, FrameKind.loop?]

/-- The state after an included template is left. -/
def excluded (s : RenderState) : RenderState :=
  { s with targets := s.targets.drop 1, place := deeper (-1) s.place }

namespace Follows

variable {P Q : Level → Prop} {after : β → Signal} {V : α → β → Prop} {m : Render α} {n : Render β}

/-- Scopes other than loops pass requests on, except for macro calls; without requests every scope
    is entered and left alike. -/
theorem inScope {f : Frame} (hf : ∀ l, f.kind = .iteration l → l.signal = .none)
    (hpasses : (f.kind.isCall = false ∧ f.kind.loop? = none) ∨ ∀ b, after b = .none)
    (hQ : ∀ i, P i → Q (i.inScope f)) (h : Follows Q .none after V m n) :
    Follows P .none after V (Render.inScope f m) (Render.inScope f n) := by
  intro s hs hP _
  change Tracks s.level after V (Render.inScope f m s) (Render.inScope f n s)
  unfold Render.inScope
  cases hpush : s.stack.push f with
  | error e => exact .halt rfl rfl
  | ok stack =>
    have hlevel := Level.level_pushed hpush
    have tracks := h _ (hs.pushed hpush hf) (hlevel ▸ hQ _ hP) fun h => absurd rfl h
    unfold Render.ensuring
    dsimp only
    change Tracks _ after V (m { s with stack }) _ at tracks
    generalize m _ = x, n _ = y at tracks ⊢
    cases tracks with
    | @done a b u hab hu hul hlooped =>
      rw [hlevel] at hul hlooped
      -- The frame that is left is not the one that has the request.
      have hpopped : popped (signalled (after b) u) = signalled (after b) (popped u) := by
        rcases hpasses with ⟨hcall, hloop⟩ | hnone
        · exact popped_signalled _ hul hcall hloop
        · rw [hnone b]
          rfl
      change Tracks _ after V (.ok a, popped (signalled (after b) u)) (.ok b, popped u)
      rw [hpopped]
      refine .done hab hu.popped (Level.level_popped hul) fun hb => ?_
      rcases hpasses with ⟨hcall, hloop⟩ | hnone
      · exact Level.looped_inScope hcall hloop (hlooped hb)
      · exact absurd (hnone b) hb
    | halt hplace hchunks => exact .halt hplace hchunks

/-- Code of a template is entered and left alike. -/
theorem inTemplate {name : String} (hQ : ∀ i line, P i → Q (i.inTemplate name line))
    (h : Follows Q .none after V m n) :
    Follows P .none after V (Render.inTemplate name m) (Render.inTemplate name n) := by
  intro s hs hP _
  change Tracks s.level after V (Render.inTemplate name m s) (Render.inTemplate name n s)
  unfold Render.inTemplate
  cases hplace : s.place with
  | none => exact .halt rfl rfl
  | some outer =>
    have hlevel := Level.level_entered hplace name
    have hl : s.level.place = some outer.unlined := congrArg (Option.map Location.unlined) hplace
    have tracks := h { s with place := some (outer.enter name) } ⟨hs.pending, hs.loops⟩
      (hlevel ▸ hQ _ _ hP) fun h => absurd rfl h
    dsimp only
    change Tracks _ after V (m { s with place := some (outer.enter name) }) _ at tracks
    generalize m _ = x, n _ = y at tracks ⊢
    cases tracks with
    | @done a b u hab hu hul hlooped =>
      -- The request is on a frame, so that the place that is left is the same with it and without.
      have hleft := Level.level_left hl (hul.trans hlevel)
      have hlooped : after b ≠ .none → s.level.Looped := by
        rw [hlevel] at hlooped
        exact hlooped
      unfold left at hleft
      dsimp only
      rw [place_signalled]
      cases hhere : u.place with
      | none =>
        rw [hhere] at hleft
        exact .done hab hu hleft hlooped
      | some here =>
        rw [hhere] at hleft
        dsimp only
        rw [signalled_place]
        exact .done hab ⟨hu.pending, hu.loops⟩ hleft hlooped
    | @halt k u t hp hchunks =>
      dsimp only
      rw [hp]
      cases t.place with
      | none => exact .halt hp hchunks
      | some here => exact .halt rfl hchunks

/-- What is captured is the same, and the request is passed on. -/
theorem captured {V : Unit → β → Prop} {m : Render Unit} (h : Follows P .none after V m n) :
    Follows P .none (fun x => after x.2) (fun text x => text = x.1 ∧ V () x.2) (Render.captured m)
      (Flow.captured n) := by
  intro s hs hP _
  change Tracks s.level _ _ (Render.captured m s) (Flow.captured n s)
  have tracks := h { s with sink := .buffer, chunks := [] } ⟨hs.pending, hs.loops⟩ hP
    fun h => absurd rfl h
  unfold Render.captured Flow.captured
  change Tracks _ after V (m { s with sink := .buffer, chunks := [] }) _ at tracks
  generalize m _ = x, n _ = y at tracks ⊢
  cases tracks with
  | @done a b u hab hu hlevel hlooped =>
    have hout := signalled_output (after b) u s.sink s.chunks
    dsimp only [Except.map] at hout ⊢
    rw [chunks_signalled, hout]
    exact @Tracks.done _ _ s.level (fun x => after x.2) (fun text x => text = x.1 ∧ V () x.2) _
      (Sink.contents u.chunks, b) { u with sink := s.sink, chunks := s.chunks } ⟨rfl, hab⟩
      ⟨hu.pending, hu.loops⟩ hlevel hlooped
  | halt hplace _ => exact .halt hplace rfl

/-- Included templates pass requests on. -/
theorem allowing {t : Template} (hQ : ∀ i, P i → Q (i.including t))
    (h : Follows Q .none after V m n) :
    Follows P .none after V (Render.allowing t m) (Render.allowing t n) := by
  intro s hs hP _
  change Tracks s.level after V (Render.allowing t m s) (Render.allowing t n s)
  rcases allowing_cases (P := fun _ => True) (fun _ => trivial) t s with
    ⟨q, -, hrefused⟩ | ⟨here, hhere, -, hallowed⟩
  · rw [hrefused, hrefused]
    exact .halt rfl rfl
  · rw [hallowed, hallowed]
    have hlevel := Level.level_included s t
    have tracks := h { s with targets := t :: s.targets, place := deeper 1 s.place }
      ⟨hs.pending, hs.loops⟩ (hlevel ▸ hQ _ hP) fun h => absurd rfl h
    have included {γ : Type} (m : Render γ) : including t m s =
        (fun x => (x.1, excluded x.2))
          (m { s with targets := t :: s.targets, place := deeper 1 s.place }) := rfl
    rw [included, included]
    change Tracks _ after V (m { s with targets := t :: s.targets, place := deeper 1 s.place }) _
      at tracks
    generalize m _ = x, n _ = y at tracks ⊢
    cases tracks with
    | @done a b u hab hu hul hlooped =>
      rw [hlevel] at hul hlooped
      have hexcluded : excluded (signalled (after b) u) = signalled (after b) (excluded u) := by
        cases after b <;> rfl
      dsimp only
      rw [hexcluded]
      exact .done hab ⟨hu.pending, hu.loops⟩ (Level.level_excluded hul) hlooped
    | @halt k u v hplace hchunks => exact .halt (congrArg (deeper (-1)) hplace) hchunks

/-- A body that is left with no loop around leaves no request. -/
theorem settled {m : Render Unit} {n : Render Signal} {W : Unit → Unit → Prop}
    (h : Follows P .none id (fun _ _ => True) m n) (hP : ∀ i, P i → ¬i.Looped) (hw : W () ()) :
    Follows P .none (fun _ => .none) W m (n >>= fun _ => Render.done ()) := by
  intro s hs hPs hnone
  have tracks := h s hs hPs hnone
  change Tracks s.level _ W (m _) (andThen n _ s)
  unfold andThen
  generalize m _ = x, n _ = y at tracks ⊢
  cases tracks with
  | @done _ signal u _ hu hlevel hlooped =>
    have hsignal : signal = .none := by
      by_contra hne
      exact hP _ hPs (hlooped hne)
    rw [hsignal]
    refine .done (t := u) hw hu hlevel ?_
    exact fun h => absurd rfl h
  | halt hplace hchunks => exact .halt hplace hchunks

/-- A request is made of the innermost loop, or it is an error. -/
theorem request {signal : Signal} (h : signal ≠ .none) :
    Follows P .none id (fun _ _ => True) (Render.request signal) (Flow.request signal) := by
  intro s hs hP _
  change Tracks s.level id _ (Render.request signal s) (Flow.request signal s)
  unfold Render.request Flow.request
  rw [bind_of_done (m := Render.state) rfl, bind_of_done (m := Render.state) rfl]
  cases hloop : s.stack.currentLoop with
  | none => exact .halt rfl rfl
  | some l =>
    have hlooped : s.level.Looped := by
      unfold Level.Looped RenderState.level
      rw [CallStack.currentLoop_outline, hloop]
      rfl
    cases signal with
    | none => exact absurd rfl h
    | leave => exact .done (b := Signal.leave) (t := s) trivial hs rfl fun _ => hlooped
    | next => exact .done (b := Signal.next) (t := s) trivial hs rfl fun _ => hlooped

/-- The innermost frame in the scope of a loop is one of a loop, in which no request waits. -/
theorem exists_iteration {i : Level} {l : Loop} {t : Template} {u : RenderState} (hu : Calm u)
    (hlevel : u.level = i.inScope (.iteration l t)) :
    ∃ g rest l', u.stack.frames = g :: rest ∧ g.kind = .iteration l' ∧ l'.signal = .none := by
  obtain ⟨g, rest, hg, hout⟩ := exists_frame hlevel
  have hkind : g.kind.outline = FrameKind.outline (.iteration l) := congrArg Frame.kind hout
  cases hk : g.kind with
  | iteration l' => exact ⟨g, rest, l', hg, hk, hu.loops g (by simp [hg]) l' hk⟩
  | _ => rw [hk] at hkind; cases hkind

/-- The innermost frame of a loop has the request that its iteration has ended with. -/
theorem requested_signalled {i : Level} {l : Loop} {t : Template} {u : RenderState}
    (signal : Signal) (hu : Calm u) (hlevel : u.level = i.inScope (.iteration l t)) :
    Render.requested (signalled signal u) = (.ok signal, signalled signal u) := by
  obtain ⟨g, rest, l', hg, hl', hsignal⟩ := exists_iteration hu hlevel
  change (Except.ok _, _) = _
  unfold signalled CallStack.changeLoop
  cases signal <;> simp [hg, hl', hsignal, CallStack.changeLoopIn, FrameKind.loop?, Loop.request]

/-- When the iteration is left and no request waits any longer, there is no trace of the one that it
    has ended with. -/
theorem popped_iteration {i : Level} {l : Loop} {t : Template} {u : RenderState} (signal : Signal)
    (hu : Calm u) (hlevel : u.level = i.inScope (.iteration l t)) :
    { popped (signalled signal u) with pending := false } = popped u := by
  obtain ⟨g, rest, l', hg, hl', -⟩ := exists_iteration hu hlevel
  obtain ⟨stack, targets, pending, place, sink, chunks⟩ := u
  obtain rfl : pending = false := hu.pending
  unfold popped signalled CallStack.changeLoop CallStack.pop
  cases signal <;> simp_all [CallStack.changeLoopIn, FrameKind.isCall]

/-- A loop takes the request of its iteration. -/
theorem taken {l : Loop} {t : Template} {m : Render Unit} {n : Render Signal}
    (hl : l.signal = .none) (hQ : ∀ i, P i → Q (i.inScope (.iteration l t)))
    (h : Follows Q .none id (fun _ _ => True) m n) :
    Follows P .none (fun _ => .none) Eq
      (Render.inScope (.iteration l t) (m >>= fun _ => Render.requested) >>= fun signal =>
        change (fun s => { s with pending := false }) >>= fun _ => Render.done signal)
      (Render.inScope (.iteration l t) n) := by
  intro s hs hP _
  have hlevel : RenderState.level
      { s with stack := { s.stack with frames := .iteration l t :: s.stack.frames } } =
        s.level.inScope (.iteration l t) := Level.level_pushed rfl
  have tracks := h { s with stack := { s.stack with frames := .iteration l t :: s.stack.frames } }
    ⟨hs.pending, List.forall_mem_cons.2 ⟨by rintro _ ⟨⟩; exact hl, hs.loops⟩⟩ (hlevel ▸ hQ _ hP)
    fun h => absurd rfl h
  have entered {γ : Type} (m : Render γ) : Render.inScope (.iteration l t) m s =
      (fun x => (x.1, popped x.2))
        (m { s with stack := { s.stack with frames := .iteration l t :: s.stack.frames } }) := rfl
  change Tracks s.level _ Eq
    (andThen (Render.inScope _ (m >>= fun _ => Render.requested)) _ s) _
  unfold andThen
  rw [entered, entered]
  have body (s : RenderState) : (m >>= fun _ => Render.requested) s =
      andThen m (fun _ => Render.requested) s := rfl
  rw [body, andThen]
  change Tracks _ id _ (m { s with stack := { s.stack with
    frames := .iteration l t :: s.stack.frames } }) _ at tracks
  dsimp only
  generalize m _ = x, n _ = y at tracks ⊢
  cases tracks with
  | @done _ signal u _ hu hul hlooped =>
    rw [hlevel] at hul
    dsimp only [id]
    -- The request is read before the frame that has it is left, and the flag is taken down after.
    rw [requested_signalled signal hu hul]
    change Tracks _ _ Eq (.ok signal, { popped (signalled signal u) with pending := false }) _
    rw [popped_iteration signal hu hul]
    exact .done rfl hu.popped (Level.level_popped hul) fun h => absurd rfl h
  | halt hplace hchunks => exact .halt hplace hchunks

/-- What a loop does after an iteration depends on the request of the iteration alone. -/
theorem iteration {l : Loop} {t : Template} {m : Render Unit} {n : Render Signal}
    {after : δ → Signal} {W : γ → δ → Prop} {f : Signal → Render γ} {g : Signal → Render δ}
    (hl : l.signal = .none) (hQ : ∀ i, P i → Q (i.inScope (.iteration l t)))
    (h : Follows Q .none id (fun _ _ => True) m n)
    (hf : ∀ signal, Follows P .none after W (f signal) (g signal)) :
    Follows P .none after W
      (Render.inScope (.iteration l t) (m >>= fun _ => Render.requested) >>= fun signal =>
        change (fun s => { s with pending := false }) >>= fun _ => f signal)
      (Render.inScope (.iteration l t) n >>= g) := by
  have related (a b : Signal) (hab : a = b) : Follows P .none after W (f a) (g b) := hab ▸ hf a
  simpa only [bind_bind, done_bind] using (taken hl hQ h).bind related

/-! ### Parts of statements -/

section

variable {V : Unit → Signal → Prop} {m m' : Render Unit} {n n' : Render Signal}

/-- What leaves everything as it is makes no request, and passes on the one that waits. -/
theorem quiet {before : Signal} {n : Render Unit} (h : (waiting P before).rel Eq m n)
    (hv : V () before) : Follows P before id V m (n >>= fun _ => Render.done before) := by
  rw [← bind_done m]
  exact Follows.bind h fun _ _ _ => Follows.done hv rfl

/-- After a request nothing more of a body runs. -/
theorem onward (hm : Follows P .none id V m n) (hrest : Follows P .none id V m' n') :
    Follows P .none id V
      (m >>= fun _ => state >>= fun s => if s.pending then Render.done () else m')
      (n >>= fun signal => if signal = .none then n' else Render.done signal) := by
  refine hm.bind ?_
  rintro ⟨⟩ signal hsignal
  by_cases hnone : signal = .none
  · rw [if_pos hnone, hnone]
    refine Follows.bind Waiting.state ?_
    rintro s _ ⟨rfl, hs, -⟩
    rw [if_neg (by simp [hs.pending])]
    exact hrest
  · -- The first part leaves a request in the state, so that the flag is up when it is tested.
    rw [if_neg hnone]
    intro t ht hP hlooped
    have hpending : (signalled (id signal) t).pending = true := pending_signalled hnone t
    rw [bind_of_done (m := state) rfl, if_pos hpending]
    exact Follows.done hsignal rfl t ht hP hlooped

/-- A loop takes the requests of its iterations. -/
theorem iterate {t : Template} {l : Loop} (hl : l.signal = .none)
    (hQ : ∀ i index, P i → Q (i.inScope (.iteration { l with index } t)))
    (h : Follows Q .none id (fun _ _ => True) m n) (hv : V () .none) : ∀ i remaining,
      Follows P .none id V (Render.iterate t m l i remaining) (Flow.iterate t n l i remaining)
  | _, 0 => Follows.done hv rfl
  | i, remaining + 1 => by
    rw [Render.iterate, Flow.iterate]
    refine iteration (l := { l with index := i }) hl (fun j => hQ j i) h fun signal => ?_
    split
    · exact Follows.done hv rfl
    · exact iterate hl hQ h hv (i + 1) remaining

end

/-- The text that a macro writes. -/
theorem text {m n : Render Unit} {V : Unit → Unit → Prop}
    (h : Follows P .none (fun _ => .none) V m n) :
    Follows P .none (fun _ => .none) (Same fun _ => True) (Render.captured m)
      (Render.captured n) := by
  -- The second computation makes no request, so capturing it with requests is capturing it.
  have split : Render.captured n = Flow.captured n >>= fun x => Render.done x.1 := by
    funext s
    change _ = andThen _ _ s
    unfold Render.captured Flow.captured andThen
    dsimp only
    generalize n _ = x
    obtain ⟨r, t⟩ := x
    cases r <;> rfl
  rw [split, ← bind_done (Render.captured m)]
  refine Follows.bind h.captured ?_
  rintro _ ⟨text, ⟨⟩⟩ ⟨rfl, -⟩
  exact Follows.done ⟨rfl, trivial⟩ rfl

end Follows

end Render

end Stencil
