import Stencil.Proofs.Scope

/-! Invariants. Computations that do the same in one state correspond as long as an invariant of
    that state is kept, which may depend on the situation they began in. Whether a request of a loop
    waits does not matter to an invariant, so that the steps which change no more than that keep it
    whatever it says. Scopes, places, buffers and includes may be entered with another invariant;
    where the place does not matter at all, code of a template keeps the invariant as it does
    elsewhere. An invariant that every step and scope keeps is kept by all that a render runs. -/

namespace Stencil.Render

/-- What holds of the state between the steps of a render, and what remains of it at a halt. Some
    problems may be ruled out. -/
structure Invariant (ι : Type) where
  holds : ι → RenderState → Prop
  remains : ι → Halt → RenderState → Prop
  problem : Problem → Prop := fun _ => True
  plain : ∀ {p : Problem}, p.Plain → problem p := by exact fun _ => trivial
  remains_of_holds : ∀ {i s p}, p.Met problem s → holds i s → remains i (.problem p) s
  waiting : ∀ {i s} pending, holds i s → holds i { s with pending }

/-- The state after the innermost scope is left. -/
def popped (s : RenderState) : RenderState :=
  { s with stack := (s.stack.pop.map Prod.snd).getD s.stack }

/-- The state after code of a template is left for the place around it. -/
def left (outer : Location) (s : RenderState) : RenderState :=
  match s.place with
  | none => s
  | some here => { s with place := some (here.leave (outer.template, outer.line)) }

/-- A halt as it leaves the code of a template. -/
def relocated (s : RenderState) (h : Halt) : Halt :=
  match s.place with
  | none => h
  | some here => located here h

section

variable {α : Type} {m : Render α} {name : String} {s : RenderState} {here outer : Location}

theorem left_of_place (h : s.place = some here) :
    left outer s = { s with place := some (here.leave (outer.template, outer.line)) } := by
  unfold left
  rw [h]

theorem relocated_of_place (h : s.place = some here) (k : Halt) :
    relocated s k = located here k := by
  unfold relocated
  rw [h]

/-- Without a place there is no code of templates. -/
theorem inTemplate_of_none (h : s.place = none) :
    inTemplate name m s = (.error (.runtime outside), s) := by
  unfold inTemplate
  rw [h]

/-- Code of a template is left for the place around it, which is filled in where it halts. -/
theorem inTemplate_of_place (h : s.place = some outer) :
    inTemplate name m s =
      ((m { s with place := some (outer.enter name) }).1.mapError
          (relocated (m { s with place := some (outer.enter name) }).2),
        left outer (m { s with place := some (outer.enter name) }).2) := by
  unfold inTemplate
  rw [h]
  dsimp only
  generalize m _ = x
  obtain ⟨r, t⟩ := x
  unfold relocated left
  cases t.place <;> cases r <;> rfl

end

/-- The state in which a whole render begins, in its fresh place. -/
def begun (setting : Setting) (t : Template) (context : Context) (sink : Sink) : RenderState :=
  { initial setting t context sink with place := some { limit := setting.env.includeLimit } }

theorem chunks_run (setting : Setting) (t : Template) (context : Context) (sink : Sink) :
    (run setting t context sink).chunks =
      (runTemplate (calls maxDepth setting) setting t
        (begun setting t context sink)).2.chunks.reverse := rfl

/-- A place with other includes open. -/
def deeper (step : Int) (place : Option Location) : Option Location :=
  place.map fun l => { l with includeDepth := l.includeDepth + step }

namespace Invariant

variable {ι α : Type} (I : Invariant ι) {p : α → Prop} {V : α → α → Prop} {m n : Render α}

/-- Runs that do the same and keep the invariant. -/
def runs : Correspondence ι where
  states i s t := s = t ∧ I.holds i s
  halts i h s k t := h = k ∧ s = t ∧ I.remains i h s
  problem := I.problem
  plain := I.plain
  halted hp hst := ⟨rfl, hst.1, I.remains_of_holds (.anywhere hp) hst.2⟩

/-- A computation ends with a result that has a property and keeps the invariant, or it meets a
    problem on the spot. -/
theorem step (h : ∀ i s, I.holds i s → (∃ a t, m s = (.ok a, t) ∧ p a ∧ I.holds i t) ∨
    ∃ q, m s = (.error (.problem q), s) ∧ q.Met I.problem s) :
    I.runs.congruence.rel (Same p) m m := by
  rintro i s _ ⟨rfl, hs⟩
  rcases h i s hs with ⟨a, t, hm, ha, ht⟩ | ⟨q, hm, hq⟩
  · rw [hm]
    exact .done ⟨rfl, ha⟩ ⟨rfl, ht⟩
  · rw [hm]
    exact .halt ⟨rfl, rfl, I.remains_of_holds hq hs⟩

/-- Where a computation ends with a result, the invariant holds. -/
theorem holds_of_ok {i : ι} {s t : RenderState} {a : α} (h : I.runs.congruence.rel V m n)
    (hs : I.holds i s) (hm : m s = (.ok a, t)) : I.holds i t := by
  have ends := h i s s ⟨rfl, hs⟩
  rw [hm] at ends
  generalize n s = y at ends
  cases ends with
  | done _ hst => exact hst.2

/-- Where it halts, what remains at a halt does. -/
theorem remains_of_error {i : ι} {s t : RenderState} {h : Halt} (hmn : I.runs.congruence.rel V m n)
    (hs : I.holds i s) (hm : m s = (.error h, t)) : I.remains i h t := by
  have ends := hmn i s s ⟨rfl, hs⟩
  rw [hm] at ends
  generalize n s = y at ends
  cases ends with
  | halt hh => exact hh.2.2

/-- A runtime error that does not tell a place may be met anywhere. -/
theorem met {e : RuntimeError} (h : e.Unplaced) (s : RenderState) :
    (Problem.ofRuntime e).Met I.problem s := .anywhere (I.plain h.ofRuntime)

theorem change {f : RenderState → RenderState} (h : ∀ i s, I.holds i s → I.holds i (f s)) :
    I.runs.congruence.rel Eq (Render.change f) (Render.change f) :=
  I.runs.change fun i s _ hst => ⟨congrArg f hst.1, h i s hst.2⟩

/-- Running out of depth is related where it leaves what remains at a halt. -/
theorem exhausted (h : ∀ {i s}, I.holds i s → I.remains i .exhausted s) :
    I.runs.congruence.rel V (Render.halt .exhausted) (Render.halt .exhausted) :=
  I.runs.exhausted fun _ _ _ hst => ⟨rfl, hst.1, h hst.2⟩

theorem undefinedAt (n : Node) :
    I.runs.congruence.rel V (Render.undefinedAt n) (Render.undefinedAt n) := by
  rintro i s _ ⟨rfl, hs⟩
  obtain ⟨q, hq, hundefined⟩ := undefinedAt_met I.plain n s
  rw [hundefined]
  exact .halt ⟨rfl, rfl, I.remains_of_holds hq hs⟩

theorem find (name : String) : I.runs.congruence.rel (Same (Value.Found fun _ => True))
    (Render.find name) (Render.find name) :=
  I.step fun _ s hs => Or.inl ⟨_, s, rfl, Or.inl trivial, hs⟩

/-- The running template has whatever holds of the template of the innermost frame. -/
theorem active {p : Template → Prop}
    (h : ∀ i s f rest, I.holds i s → s.stack.frames = f :: rest → p f.template) :
    I.runs.congruence.rel (Same p) Render.active Render.active := by
  refine I.step fun i s hs => ?_
  have running : Render.active s = Render.ofRuntime s.stack.activeTemplate s := rfl
  rw [running]
  have hplain := s.stack.plainly_activeTemplate
  unfold CallStack.activeTemplate CallStack.current at hplain ⊢
  cases hf : s.stack.frames with
  | nil => exact Or.inr ⟨_, rfl, I.met (hplain _ (by rw [hf]; rfl)) s⟩
  | cons f rest => exact Or.inl ⟨f.template, s, rfl, h i s f rest hs hf, hs⟩

theorem requested : I.runs.congruence.rel Eq Render.requested Render.requested := by
  refine I.runs.congruence.mono (I.step (p := fun _ => True) fun i s hs => ?_) fun _ _ h => h.1
  exact Or.inl ⟨_, s, rfl, trivial, hs⟩

/-- The line of a statement is noted where that keeps the invariant. -/
theorem atLine (line : Int) (h : ∀ i s, I.holds i s →
    I.holds i { s with place := s.place.map fun l => { l with line } }) :
    I.runs.congruence.rel Eq (Render.atLine line) (Render.atLine line) := by
  unfold Render.atLine
  exact I.runs.congruence.ite (fun _ => I.runs.congruence.done rfl) fun _ => I.change h

theorem proceed : I.runs.congruence.rel Eq (Render.change fun s => { s with pending := false })
    (Render.change fun s => { s with pending := false }) :=
  I.change fun _ _ hs => I.waiting false hs

/-! ### Steps that an invariant has to keep -/

/-- A text that reaches the sink. -/
theorem write {text : String} (h : ∀ i s c, I.holds i s → s.sink s.chunks text = .ok c →
      I.holds i { s with chunks := c :: s.chunks })
    (hproblem : ∀ i s q, I.holds i s → s.sink s.chunks text = .error q → I.problem q := by
      exact fun _ _ _ _ _ => trivial) :
    I.runs.congruence.rel Eq (Render.write text) (Render.write text) := by
  refine I.runs.congruence.mono (I.step (p := fun _ => True) fun i s hs => ?_) fun _ _ h => h.1
  unfold Render.write
  cases hc : s.sink s.chunks text with
  | error q => exact Or.inr ⟨q, rfl, .anywhere (hproblem i s q hs hc)⟩
  | ok c => exact Or.inl ⟨(), _, rfl, trivial, h i s c hs hc⟩

/-- A binding in the innermost frame. -/
theorem assign {name : String} {v : Value} (h : ∀ i s f rest, I.holds i s →
    s.stack.frames = f :: rest →
    I.holds i { s with stack := { s.stack with frames := f.assign name v :: rest } }) :
    I.runs.congruence.rel Eq (Render.assign name v) (Render.assign name v) := by
  refine I.runs.congruence.mono (I.step (p := fun _ => True) fun i s hs => ?_) fun _ _ h => h.1
  have assigned : Render.assign name v s =
      Render.andThen (Render.ofRuntime (s.stack.assign name v)) _ s := rfl
  rw [assigned]
  have hplain := s.stack.plainly_assign name v
  unfold CallStack.assign at hplain ⊢
  cases hf : s.stack.frames with
  | nil => exact Or.inr ⟨_, rfl, I.met (hplain _ (by rw [hf])) s⟩
  | cons f rest => exact Or.inl ⟨(), _, rfl, trivial, h i s f rest hs hf⟩

/-- A binding in the frame of a template or a macro call. -/
theorem assignWide {name : String} {v : Value} (h : ∀ i s frames, I.holds i s →
    CallStack.assignWideIn name v s.stack.frames = some frames →
    I.holds i { s with stack := { s.stack with frames } }) :
    I.runs.congruence.rel Eq (Render.assignWide name v) (Render.assignWide name v) := by
  refine I.runs.congruence.mono (I.step (p := fun _ => True) fun i s hs => ?_) fun _ _ h => h.1
  have assigned : Render.assignWide name v s =
      Render.andThen (Render.ofRuntime (s.stack.assignWide name v)) _ s := rfl
  rw [assigned]
  have hplain := s.stack.plainly_assignWide name v
  unfold CallStack.assignWide at hplain ⊢
  cases hf : CallStack.assignWideIn name v s.stack.frames with
  | none => exact Or.inr ⟨_, rfl, I.met (hplain _ (by rw [hf])) s⟩
  | some frames => exact Or.inl ⟨(), _, rfl, trivial, h i s frames hs hf⟩

/-- A request to the innermost loop. -/
theorem request (signal : Signal) (h : ∀ i s, I.holds i s →
    I.holds i { s with stack := s.stack.changeLoop (·.request signal) }) :
    I.runs.congruence.rel Eq (Render.request signal) (Render.request signal) := by
  unfold Render.request
  refine I.runs.congruence.bind I.runs.state ?_
  rintro s _ ⟨i, rfl, hs⟩
  exact I.runs.congruence.ite (fun _ => I.runs.congruence.raise _) fun _ =>
    I.change fun i s hs => I.waiting true (h i s hs)

variable {κ : Type} {J : Invariant κ}

/-- What runs in a scope of its own may keep another invariant there. -/
theorem inScope {f : Frame} (h : ∀ i s stack, I.holds i s → s.stack.push f = .ok stack →
    ∃ j, J.holds j { s with stack } ∧ (∀ u, J.holds j u → I.holds i (popped u)) ∧
      ∀ k u, J.remains j k u → I.remains i k (popped u))
    (hm : J.runs.congruence.rel V m n) :
    I.runs.congruence.rel V (Render.inScope f m) (Render.inScope f n) := by
  rintro i s _ ⟨rfl, hs⟩
  unfold Render.inScope
  cases hpush : s.stack.push f with
  | error e =>
    exact .halt ⟨rfl, rfl, I.remains_of_holds (I.met (s.stack.plainly_push f e hpush) s) hs⟩
  | ok stack =>
    obtain ⟨j, hj, hleft, hhalted⟩ := h i s stack hs hpush
    have ends := hm j _ _ ⟨rfl, hj⟩
    unfold Render.ensuring
    dsimp only
    generalize m _ = x, n _ = y at ends ⊢
    cases ends with
    | done hab huv =>
      obtain ⟨rfl, hu⟩ := huv
      exact .done hab ⟨rfl, hleft _ hu⟩
    | halt hh =>
      obtain ⟨rfl, rfl, hu⟩ := hh
      exact .halt ⟨rfl, rfl, hhalted _ _ hu⟩

/-- What runs as code of a template may keep another invariant there. -/
theorem inTemplate {name : String} (h : ∀ i s outer, I.holds i s → s.place = some outer →
    ∃ j, J.holds j { s with place := some (outer.enter name) } ∧
      (∀ u, J.holds j u → I.holds i (left outer u)) ∧
      ∀ k u, J.remains j k u → I.remains i (relocated u k) (left outer u))
    (hm : J.runs.congruence.rel V m n) :
    I.runs.congruence.rel V (Render.inTemplate name m) (Render.inTemplate name n) := by
  rintro i s _ ⟨rfl, hs⟩
  cases hplace : s.place with
  | none =>
    rw [inTemplate_of_none hplace, inTemplate_of_none hplace]
    exact .halt ⟨rfl, rfl, I.remains_of_holds (I.met unplaced_outside s) hs⟩
  | some outer =>
    rw [inTemplate_of_place hplace, inTemplate_of_place hplace]
    obtain ⟨j, hj, hleft, hhalted⟩ := h i s outer hs hplace
    have ends := hm j _ _ ⟨rfl, hj⟩
    generalize m _ = x, n _ = y at ends ⊢
    cases ends with
    | done hab huv =>
      obtain ⟨rfl, hu⟩ := huv
      exact .done hab ⟨rfl, hleft _ hu⟩
    | halt hh =>
      obtain ⟨rfl, rfl, hu⟩ := hh
      exact .halt ⟨rfl, rfl, hhalted _ _ hu⟩

/-- What is captured may keep another invariant, one that says what the text is. -/
theorem captured {p : String → Prop} {m n : Render Unit} (h : ∀ i s, I.holds i s →
    ∃ j, J.holds j { s with sink := .buffer, chunks := [] } ∧
      (∀ u, J.holds j u → p (Sink.contents u.chunks) ∧
        I.holds i { u with sink := s.sink, chunks := s.chunks }) ∧
      ∀ k u, J.remains j k u → I.remains i k { u with sink := s.sink, chunks := s.chunks })
    (hm : J.runs.congruence.rel Eq m n) :
    I.runs.congruence.rel (Same p) (Render.captured m) (Render.captured n) := by
  rintro i s _ ⟨rfl, hs⟩
  -- Sink and output from before come back in either case; only the text is left of the buffer.
  obtain ⟨j, hj, hleft, hhalted⟩ := h i s hs
  have ends := hm j _ _ ⟨rfl, hj⟩
  unfold Render.captured
  generalize m _ = x, n _ = y at ends ⊢
  cases ends with
  | done _ huv =>
    obtain ⟨rfl, hu⟩ := huv
    obtain ⟨htext, hu⟩ := hleft _ hu
    exact .done ⟨rfl, htext⟩ ⟨rfl, hu⟩
  | halt hh =>
    obtain ⟨rfl, rfl, hu⟩ := hh
    exact .halt ⟨rfl, rfl, hhalted _ _ hu⟩

/-- What an included template runs may keep another invariant while it is the innermost target. An
    include starts where the limit allows one. -/
theorem allowing {t : Template} (h : ∀ i s here, I.holds i s → s.place = some here →
    here.includeDepth < here.limit →
    ∃ j, J.holds j { s with targets := t :: s.targets, place := deeper 1 s.place } ∧
      (∀ u, J.holds j u →
        I.holds i { u with targets := u.targets.drop 1, place := deeper (-1) u.place }) ∧
      ∀ k u, J.remains j k u →
        I.remains i k { u with targets := u.targets.drop 1, place := deeper (-1) u.place })
    (hm : J.runs.congruence.rel V m n) :
    I.runs.congruence.rel V (Render.allowing t m) (Render.allowing t n) := by
  rintro i s _ ⟨rfl, hs⟩
  rcases allowing_cases I.plain t s with ⟨q, hq, hrefused⟩ | ⟨here, hhere, hlimit, hallowed⟩
  · rw [hrefused, hrefused]
    exact .halt ⟨rfl, rfl, I.remains_of_holds hq hs⟩
  · rw [hallowed, hallowed]
    obtain ⟨j, hj, hleft, hhalted⟩ := h i s here hs hhere hlimit
    have ends := hm j _ _ ⟨rfl, hj⟩
    unfold Render.including Render.ensuring
    unfold deeper at ends hleft hhalted
    dsimp only
    generalize m _ = x, n _ = y at ends ⊢
    cases ends with
    | done hab huv =>
      obtain ⟨rfl, hu⟩ := huv
      exact .done hab ⟨rfl, hleft _ hu⟩
    | halt hh =>
      obtain ⟨rfl, rfl, hu⟩ := hh
      exact .halt ⟨rfl, rfl, hhalted _ _ hu⟩

end Invariant

/-! ### Invariants that the place does not matter to -/

/-- Neither the place nor what a halt tells about it matters. -/
structure Invariant.Placeless {ι : Type} (I : Invariant ι) : Prop where
  moved : ∀ {i s} place, I.holds i s → I.holds i { s with place }
  left : ∀ {i h s} place, I.remains i h s → I.remains i h { s with place }
  located : ∀ {i h s} here, I.remains i h s → I.remains i (located here h) s

namespace Invariant.Placeless

variable {ι κ α : Type} {I : Invariant ι} {J : Invariant κ} {V : α → α → Prop} {m n : Render α}

theorem atLine (hI : I.Placeless) (line : Int) :
    I.runs.congruence.rel Eq (Render.atLine line) (Render.atLine line) :=
  I.atLine line fun _ _ hs => hI.moved _ hs

/-- What runs as code of a template keeps the invariant as it does elsewhere. -/
theorem inTemplate (hI : I.Placeless) {name : String} (h : I.runs.congruence.rel V m n) :
    I.runs.congruence.rel V (Render.inTemplate name m) (Render.inTemplate name n) := by
  refine I.inTemplate (fun i s outer hs _ => ⟨i, hI.moved _ hs, fun u hu => ?_, fun k u hu => ?_⟩) h
  · unfold Render.left
    split
    · exact hu
    · exact hI.moved _ hu
  · unfold Render.left relocated
    split
    · exact hu
    · exact hI.left _ (hI.located _ hu)

/-- What an included template runs may keep another invariant while it is the innermost target. -/
theorem allowing (hI : I.Placeless) (hJ : J.Placeless) {t : Template} (h : ∀ i s, I.holds i s →
    ∃ j, J.holds j { s with targets := t :: s.targets } ∧
      (∀ u, J.holds j u → I.holds i { u with targets := u.targets.drop 1 }) ∧
      ∀ k u, J.remains j k u → I.remains i k { u with targets := u.targets.drop 1 })
    (hm : J.runs.congruence.rel V m n) :
    I.runs.congruence.rel V (Render.allowing t m) (Render.allowing t n) := by
  refine I.allowing (fun i s _ hs _ _ => ?_) hm
  obtain ⟨j, hj, hleft, hhalted⟩ := h i s hs
  exact ⟨j, hJ.moved _ hj, fun u hu => hI.moved _ (hleft u hu),
    fun k u hu => hI.left _ (hhalted k u hu)⟩

end Invariant.Placeless

/-! ### Invariants that no value or template matters to -/

namespace Invariant

variable {ι : Type}

/-- The search for macros keeps an invariant that rules no problem out. -/
def lookups (I : Invariant ι) (setting : Setting)
    (hevery : ∀ q, I.problem q := by exact fun _ => trivial) : Lookups setting where
  toCongruence := I.runs.congruence
  template := fun _ => True
  agree := fun s t => s = t
  registered := fun _ => trivial
  state := I.runs.congruence.mono I.runs.state fun _ _ ⟨_, h, _⟩ => h
  target := fun h => ⟨by rw [h], fun _ _ => trivial⟩
  active := I.active fun _ _ _ _ _ _ => trivial
  ancestor := fun _ _ _ => hevery _
  imported := fun _ _ _ => hevery _

/-- The steps and scopes of a render that an invariant has to keep for all that a render runs to
    keep it. -/
structure Kept (I : Invariant ι) : Prop where
  every : ∀ q, I.problem q := by exact fun _ => trivial
  exhausted : ∀ {i s}, I.holds i s → I.remains i .exhausted s
  lined : ∀ {i s} line, I.holds i s →
    I.holds i { s with place := s.place.map fun l => { l with line } }
  written : ∀ {i s} c, I.holds i s → I.holds i { s with chunks := c :: s.chunks }
  assigned : ∀ {i s f rest} name v, I.holds i s → s.stack.frames = f :: rest →
    I.holds i { s with stack := { s.stack with frames := f.assign name v :: rest } }
  assignedWide : ∀ {i s frames name v}, I.holds i s →
    CallStack.assignWideIn name v s.stack.frames = some frames →
    I.holds i { s with stack := { s.stack with frames } }
  requested : ∀ {i s} signal, I.holds i s →
    I.holds i { s with stack := s.stack.changeLoop (·.request signal) }
  inScope : ∀ {α : Type} {V : α → α → Prop} {f m n}, I.runs.congruence.rel V m n →
    I.runs.congruence.rel V (Render.inScope f m) (Render.inScope f n)
  inTemplate : ∀ {α : Type} {V : α → α → Prop} {name m n}, I.runs.congruence.rel V m n →
    I.runs.congruence.rel V (Render.inTemplate name m) (Render.inTemplate name n)
  captured : ∀ {m n}, I.runs.congruence.rel Eq m n →
    I.runs.congruence.rel (Same fun _ => True) (Render.captured m) (Render.captured n)
  allowing : ∀ {α : Type} {V : α → α → Prop} {t m n}, I.runs.congruence.rel V m n →
    I.runs.congruence.rel V (Render.allowing t m) (Render.allowing t n)

/-- What is kept by each step is kept by everything that runs in a setting. -/
def Kept.simulation {I : Invariant ι} (h : I.Kept) (setting : Setting) : Simulation setting where
  toLookups := I.lookups setting h.every
  node := fun _ => True
  chain := fun _ => True
  value := fun _ => True
  text := fun _ => True
  hereditary := Value.Hereditary.trivial
  markup := Iff.rfl
  escaped := fun _ => trivial
  unescaped := fun _ _ => trivial
  const := fun _ => trivial
  data := fun _ => trivial
  raw := fun _ => trivial
  function := fun _ _ _ _ _ => trivial
  filter := fun _ _ _ _ _ _ => trivial
  filterBlock := fun _ _ => trivial
  code := fun _ => Template.every_true _
  code_of_chain := fun _ _ _ _ _ _ _ => trivial
  recorded := fun _ _ => trivial
  defined := fun _ _ => trivial
  owner := fun _ _ _ => h.every _
  missing := fun _ _ => h.every _
  pending := fun hst => congrArg RenderState.pending hst
  loop := fun hst => by rw [hst]
  block := fun hst => ⟨by rw [hst], fun _ _ _ _ => trivial⟩
  find := I.find
  undefinedAt := I.undefinedAt
  exhausted := I.exhausted fun hs => h.exhausted hs
  requested := I.requested
  atLine := fun line => I.atLine line fun _ _ hs => h.lined line hs
  proceed := I.proceed
  interrupt := fun signal => I.change fun _ _ hs => I.waiting true (h.requested signal hs)
  write := fun _ => I.write (fun _ _ c hs _ => h.written c hs) fun _ _ q _ _ => h.every q
  assign := fun _ => I.assign fun _ _ _ _ hs hf => h.assigned _ _ hs hf
  assignWide := fun _ => I.assignWide fun _ _ _ hs hf => h.assignedWide hs hf
  inScope := fun _ hm => h.inScope hm
  inTemplate := h.inTemplate
  captured := h.captured
  allowing := fun _ hm => h.allowing hm

namespace Kept

variable {I : Invariant ι} (h : I.Kept) (setting : Setting) (depth : Nat)
include h

theorem calling (render : String → Except Halt String) : (h.simulation setting).Calling render :=
  fun _ _ _ _ _ _ _ q _ _ => h.every q

/-- However deep calls nest, the bodies that they run keep what every step keeps. -/
theorem body (ns : List Node) :
    I.runs.congruence.rel Eq ((calls depth setting).body ns) ((calls depth setting).body ns) :=
  ((h.simulation setting).calls depth fun _ => h.calling setting _).1 ns fun _ _ _ _ => trivial

/-- So do the expressions. -/
theorem value (n : Node) :
    I.runs.congruence.rel (Same fun _ => True) ((calls depth setting).value n)
      ((calls depth setting).value n) :=
  ((h.simulation setting).calls depth fun _ => h.calling setting _).2 n fun _ _ => trivial

/-- So do the statements. -/
theorem exec (n : Node) :
    I.runs.congruence.rel Eq (Render.exec (linked (calls depth setting) setting) setting n)
      (Render.exec (linked (calls depth setting) setting) setting n) :=
  ((h.simulation setting).execution rfl (fun ns _ => h.body setting depth ns)
    (fun n _ => h.value setting depth n) (h.calling setting _)).exec n fun _ _ => trivial

/-- So do lists of statements. -/
theorem execAll (ns : List Node) :
    I.runs.congruence.rel Eq (Render.execAll (linked (calls depth setting) setting) setting ns)
      (Render.execAll (linked (calls depth setting) setting) setting ns) :=
  h.body setting (depth + 1) ns

end Kept

end Invariant

end Stencil.Render
