import Stencil.Proofs.Ground
import Stencil.Proofs.Simulation.Following

/-! Evaluation leaves the state as it was. A macro call is all that an expression runs which changes
    the state, and what it changes is its own: its scope, its place and its buffer are left, the
    frames below are out of its reach, and no request is left waiting, because a macro call has no
    loop around it and a loop takes the requests that it is asked. This needs to be known of bodies
    and expressions together, by induction on the nesting of calls: where no request waits, an
    expression leaves the state as it was, and a body that has no loop around it leaves none. -/

namespace Stencil

theorem Level.not_looped_inScope {i : Level} {f : Frame} (hf : f.kind.loop? = none)
    (h : ¬i.Looped) : ¬(i.inScope f).Looped := by
  by_cases hcall : f.kind.isCall = true
  · exact not_looped_call hcall
  · exact fun hlooped => h (looped_inScope (by simpa using hcall) hf hlooped)

namespace Render

open CallStack

variable {α : Type} {V : α → α → Prop} {m n : Render α}

/-! ### Scopes, places and buffers that are left with a result -/

theorem inScope_eq_done {f : Frame} {s t : RenderState} {a : α}
    (h : inScope f m s = (.ok a, t)) :
    ∃ stack u, s.stack.push f = .ok stack ∧ m { s with stack } = (.ok a, u) ∧ t = popped u := by
  unfold inScope at h
  split at h
  · cases h
  · rename_i stack hpush
    cases hm : m { s with stack } with
    | mk r u =>
      simp only [ensuring, hm, Prod.mk.injEq] at h
      obtain ⟨rfl, rfl⟩ := h
      exact ⟨stack, u, hpush, hm, rfl⟩

theorem inTemplate_eq_done {name : String} {s t : RenderState} {a : α}
    (h : inTemplate name m s = (.ok a, t)) :
    ∃ outer u, s.place = some outer ∧
      m { s with place := some (outer.enter name) } = (.ok a, u) ∧ t = left outer u := by
  cases hplace : s.place with
  | none =>
    rw [inTemplate_of_none hplace] at h
    cases h
  | some outer =>
    rw [inTemplate_of_place hplace] at h
    cases hm : m { s with place := some (outer.enter name) } with
    | mk r u =>
      rw [hm] at h
      cases r with
      | error _ => cases h
      | ok b =>
        cases h
        exact ⟨outer, u, rfl, hm, rfl⟩

theorem captured_eq_done {m : Render Unit} {s t : RenderState} {text : String}
    (h : captured m s = (.ok text, t)) :
    ∃ u, m { s with sink := .buffer, chunks := [] } = (.ok (), u) ∧
      t = { u with sink := s.sink, chunks := s.chunks } := by
  unfold captured at h
  cases hm : m { s with sink := .buffer, chunks := [] } with
  | mk r u =>
    rw [hm] at h
    cases r with
    | error _ => cases h
    | ok _ =>
      cases h
      exact ⟨u, rfl, rfl⟩

/-! ### Computations that leave the state as it was -/

/-- Computations that leave the state as it was where they end with a result, if no request
    waits. -/
def resting : Correspondence RenderState where
  states i s t := s = i ∧ t = i ∧ i.pending = false
  halts _ _ _ _ _ := True
  halted _ _ := trivial

namespace Resting

/-- A computation that ends with a result does so in the state as it was. -/
theorem eq_done {s : RenderState} {a : α} (h : resting.congruence.rel V m n)
    (hs : s.pending = false) (hm : (m s).1 = .ok a) : m s = (.ok a, s) := by
  have ends := h s s s ⟨rfl, rfl, hs⟩
  generalize m s = x, n s = y at ends hm ⊢
  cases ends with
  | done _ hst =>
    obtain ⟨rfl, -⟩ := hst
    exact Prod.ext hm rfl
  | halt _ => cases hm

/-- A computation whose results all come with the state as it was. -/
theorem of_eq {p : α → Prop} (h : ∀ s a t, s.pending = false → m s = (.ok a, t) → t = s ∧ p a) :
    resting.congruence.rel (Same p) m m := by
  rintro _ _ s ⟨rfl, rfl, hs⟩
  cases hm : m s with
  | mk r t =>
    cases r with
    | error _ => exact .halt trivial
    | ok a =>
      obtain ⟨rfl, ha⟩ := h s a t hs hm
      exact .done ⟨rfl, ha⟩ ⟨rfl, rfl, hs⟩

theorem state : resting.congruence.rel (fun s t => s = t) Render.state Render.state :=
  fun _ _ _ ⟨hs, ht, hpending⟩ => .done (hs.trans ht.symm) ⟨hs, ht, hpending⟩

theorem find (name : String) : resting.congruence.rel (Same (Value.Found fun _ => True))
    (Render.find name) (Render.find name) := by
  refine of_eq fun s v t _ hm => ?_
  cases hm
  exact ⟨rfl, Or.inl trivial⟩

theorem undefinedAt (n : Node) :
    resting.congruence.rel V (Render.undefinedAt n) (Render.undefinedAt n) :=
  fun _ _ _ _ => .halt trivial

theorem exhausted :
    resting.congruence.rel V (Render.halt .exhausted) (Render.halt .exhausted) :=
  resting.exhausted fun _ _ _ _ => trivial

theorem active : resting.congruence.rel (Same fun _ => True) Render.active Render.active := by
  refine resting.congruence.bind state ?_
  rintro s _ rfl
  exact resting.congruence.ofUnplaced (fun _ _ => trivial) s.stack.plainly_activeTemplate

theorem popped_pushed {s : RenderState} {f : Frame} {stack : CallStack}
    (hpush : s.stack.push f = .ok stack) : popped { s with stack } = s := by
  obtain ⟨rfl, -⟩ := push_eq_ok hpush
  unfold popped CallStack.pop
  cases hcall : f.kind.isCall <;> simp [hcall]

/-- A scope that is entered and left again leaves nothing behind. -/
theorem inScope {f : Frame} (h : resting.congruence.rel V m n) :
    resting.congruence.rel V (Render.inScope f m) (Render.inScope f n) := by
  rintro _ _ s ⟨rfl, rfl, hs⟩
  unfold Render.inScope
  cases hpush : s.stack.push f with
  | error e => exact .halt trivial
  | ok stack =>
    refine resting.ensuring (h { s with stack } _ _ ⟨rfl, rfl, hs⟩) (fun u v huv => ?_)
      fun _ _ _ _ _ => trivial
    obtain ⟨rfl, rfl, -⟩ := huv
    exact ⟨popped_pushed hpush, popped_pushed hpush, hs⟩

theorem target {s t : RenderState} (h : s = t) :
    Same (fun o => ∀ x ∈ o, True) s.targets.head? t.targets.head? := by
  rw [h]
  exact ⟨rfl, fun _ _ => trivial⟩

/-- The search for macros leaves the state as it was. -/
def lookups (setting : Setting) : Lookups setting where
  toCongruence := resting.congruence
  template := fun _ => True
  agree := fun s t => s = t
  registered := fun _ => trivial
  state := state
  target := target
  active := active

end Resting

/-! ### Bodies that leave no request -/

/-- Computations that have no loop around them, and where no request waits. -/
def unlooped : Correspondence Level where
  states i s t := s = t ∧ s.level = i ∧ ¬i.Looped ∧ s.pending = false
  halts _ _ _ _ _ := True
  halted _ _ := trivial

/-- Everything keeps the level. -/
abbrev leveled : Invariant Level := levels (fun _ => True) True

namespace Unlooped

/-- No request waits after a computation that has no loop around it. -/
theorem pending_eq {s t : RenderState} {a : α} (h : unlooped.congruence.rel V m n)
    (hm : m s = (.ok a, t)) (hlooped : ¬s.level.Looped) (hs : s.pending = false) :
    t.pending = false := by
  have ends := h s.level s s ⟨rfl, rfl, hlooped, hs⟩
  rw [hm] at ends
  generalize n s = y at ends
  cases ends with
  | done _ hst => exact hst.2.2.2

theorem of_resting (h : resting.congruence.rel V m n) : unlooped.congruence.rel V m n := by
  rintro i s _ ⟨rfl, hlevel, hlooped, hs⟩
  have ends := h s s s ⟨rfl, rfl, hs⟩
  generalize m s = x, n s = y at ends ⊢
  cases ends with
  | done hab hst =>
    obtain ⟨rfl, rfl, -⟩ := hst
    exact .done hab ⟨rfl, hlevel, hlooped, hs⟩
  | halt _ => exact .halt trivial

/-- A step that keeps the level and makes no request. -/
theorem step (h : leveled.runs.congruence.rel V m m)
    (hpending : ∀ s a t, m s = (.ok a, t) → t.pending = s.pending) :
    unlooped.congruence.rel V m m := by
  rintro i s _ ⟨rfl, rfl, hlooped, hs⟩
  have ends := h s.level s s ⟨rfl, rfl, trivial⟩
  cases hm : m s with
  | mk r t =>
    rw [hm] at ends
    cases ends with
    | done hab hst => exact .done hab ⟨rfl, hst.2.1, hlooped, (hpending _ _ _ hm).trans hs⟩
    | halt _ => exact .halt trivial

theorem state : unlooped.congruence.rel (fun s t => s = t ∧ ¬s.level.Looped) Render.state
    Render.state := by
  rintro i s _ ⟨rfl, rfl, hlooped, hs⟩
  exact .done ⟨rfl, hlooped⟩ ⟨rfl, rfl, hlooped, hs⟩

theorem atLine (line : Int) :
    unlooped.congruence.rel Eq (Render.atLine line) (Render.atLine line) := by
  refine step (Levels.atLine line) fun s a t hm => ?_
  unfold Render.atLine at hm
  split at hm
  · cases hm
    rfl
  · cases hm
    rfl

theorem write (text : String) :
    unlooped.congruence.rel Eq (Render.write text) (Render.write text) := by
  refine step (Levels.write text) fun s a t hm => ?_
  unfold Render.write at hm
  split at hm
  · cases hm
    rfl
  · cases hm

/-- A new call stack makes no request. -/
theorem pending_ofStack {r : Except RuntimeError CallStack} {s t : RenderState} {a : Unit}
    (h : (ofRuntime r >>= fun stack => change fun s => { s with stack }) s = (.ok a, t)) :
    t.pending = s.pending := by
  cases r with
  | ok _ =>
    cases h
    rfl
  | error _ => cases h

theorem assign (name : String) (v : Value) :
    unlooped.congruence.rel Eq (Render.assign name v) (Render.assign name v) :=
  step (Levels.assign name v) fun _ _ _ hm => pending_ofStack hm

theorem assignWide (name : String) (v : Value) :
    unlooped.congruence.rel Eq (Render.assignWide name v) (Render.assignWide name v) :=
  step (Levels.assignWide name v) fun _ _ _ hm => pending_ofStack hm

/-- Where no loop is around, a request is an error. -/
theorem request (signal : Signal) :
    unlooped.congruence.rel Eq (Render.request signal) (Render.request signal) := by
  unfold Render.request
  refine unlooped.congruence.bind state ?_
  rintro s _ ⟨rfl, hlooped⟩
  have hnone : s.stack.currentLoop.isNone = true := by
    rw [← Option.not_isSome, ← currentLoop_outline, Bool.not_eq_true']
    exact Bool.eq_false_iff.2 hlooped
  rw [if_pos hnone]
  exact unlooped.congruence.raise _

/-! ### Scopes, places and buffers -/

theorem inScope {f : Frame} (hf : f.kind.loop? = none) (h : unlooped.congruence.rel V m n) :
    unlooped.congruence.rel V (Render.inScope f m) (Render.inScope f n) := by
  rintro i s _ ⟨rfl, rfl, hlooped, hs⟩
  unfold Render.inScope
  cases hpush : s.stack.push f with
  | error e => exact .halt trivial
  | ok stack =>
    have hinside := Level.not_looped_inScope hf hlooped
    refine unlooped.ensuring (h (s.level.inScope f) { s with stack } _
      ⟨rfl, Level.level_pushed hpush, hinside, hs⟩) (fun u v huv => ?_) fun _ _ _ _ _ => trivial
    obtain ⟨rfl, hlevel, -, hpending⟩ := huv
    exact ⟨rfl, Level.level_popped hlevel, hlooped, hpending⟩

theorem pending_left (outer : Location) (s : RenderState) :
    (left outer s).pending = s.pending := by
  unfold left
  split <;> rfl

theorem inTemplate {name : String} (h : unlooped.congruence.rel V m n) :
    unlooped.congruence.rel V (Render.inTemplate name m) (Render.inTemplate name n) := by
  rintro i s _ ⟨rfl, rfl, hlooped, hs⟩
  cases hplace : s.place with
  | none =>
    rw [inTemplate_of_none hplace, inTemplate_of_none hplace]
    exact .halt trivial
  | some outer =>
    rw [inTemplate_of_place hplace, inTemplate_of_place hplace]
    have hl : s.level.place = some outer.unlined := congrArg (Option.map Location.unlined) hplace
    have ends := h (s.level.inTemplate name outer.line)
      { s with place := some (outer.enter name) } _
      ⟨rfl, Level.level_entered hplace name, hlooped, hs⟩
    generalize m _ = x, n _ = y at ends ⊢
    cases ends with
    | done hab huv =>
      obtain ⟨rfl, hlevel, -, hpending⟩ := huv
      exact .done hab ⟨rfl, Level.level_left hl hlevel, hlooped,
        (pending_left outer _).trans hpending⟩
    | halt _ => exact .halt trivial

theorem captured {m n : Render Unit} (h : unlooped.congruence.rel Eq m n) :
    unlooped.congruence.rel (Same fun _ => True) (Render.captured m) (Render.captured n) := by
  rintro i s _ ⟨rfl, rfl, hlooped, hs⟩
  have ends := h s.level { s with sink := .buffer, chunks := [] } _ ⟨rfl, rfl, hlooped, hs⟩
  unfold Render.captured
  generalize m _ = x, n _ = y at ends ⊢
  cases ends with
  | done _ huv =>
    obtain ⟨rfl, hlevel, -, hpending⟩ := huv
    exact .done ⟨rfl, trivial⟩ ⟨rfl, hlevel, hlooped, hpending⟩
  | halt _ => exact .halt trivial

theorem allowing {t : Template} (h : unlooped.congruence.rel V m n) :
    unlooped.congruence.rel V (Render.allowing t m) (Render.allowing t n) := by
  rintro i s _ ⟨rfl, rfl, hlooped, hs⟩
  rcases allowing_cases (P := fun _ => True) (fun _ => trivial) t s with
    ⟨q, -, hrefused⟩ | ⟨here, -, -, hallowed⟩
  · rw [hrefused, hrefused]
    exact .halt trivial
  · rw [hallowed, hallowed]
    have hinside := h (s.level.including t)
      { s with targets := t :: s.targets, place := deeper 1 s.place } _
      ⟨rfl, Level.level_included s t, hlooped, hs⟩
    unfold Render.including
    refine unlooped.ensuring hinside (fun u v huv => ?_) fun _ _ _ _ _ => trivial
    obtain ⟨rfl, hlevel, -, hpending⟩ := huv
    exact ⟨rfl, Level.level_excluded hlevel, hlooped, hpending⟩

end Unlooped

/-! ### Macro calls -/

/-- Code of a template that has kept its place is left for the place around it. -/
theorem leave_eq {here outer : Location} {name : String} (h : here.unlined = outer.enter name) :
    here.leave (outer.template, outer.line) = outer := by
  have hunlined := Location.unlined_leave h
  cases outer
  simp only [Location.unlined, Location.leave, Location.mk.injEq] at hunlined ⊢
  exact ⟨trivial, trivial, hunlined.2.2⟩

/-- A macro call leaves the state as it was, if its code keeps the level, the data and the frames
    below and leaves no request. -/
theorem popped_left_eq {s u : RenderState} {stack : CallStack} {f : Frame} {outer : Location}
    {name : String} (hpush : s.stack.push f = .ok stack) (hcall : f.kind.isCall = true)
    (hplace : s.place = some outer)
    (hlevel : u.level = (s.level.inScope f).inTemplate name outer.line)
    (hcontext : u.stack.context = s.stack.context) (hbelow : InCall s.stack.frames u.stack.frames)
    (hpending : u.pending = s.pending) :
    popped (left outer { u with sink := s.sink, chunks := s.chunks }) = s := by
  obtain ⟨g, hframes, hg⟩ := hbelow
  simp only [RenderState.level, Level.inScope, Level.inTemplate, Level.mk.injEq] at hlevel
  -- the level tells all of the state but the frames below, the data, the request and the output
  obtain ⟨-, hdepth, hlimit, htargets, hhere⟩ := hlevel
  rw [hplace] at hhere
  obtain ⟨here, hhere, hentered⟩ := Option.map_eq_some_iff.1 hhere
  replace hentered : here.unlined = outer.enter name := hentered
  have hleft : left outer { u with sink := s.sink, chunks := s.chunks } = _ := left_of_place hhere
  rw [hleft, leave_eq hentered]
  unfold popped CallStack.pop
  obtain ⟨⟨context, limit, frames, depth⟩, targets, pending, place, sink, chunks⟩ := s
  simp_all

namespace Resting

/-- Code whose output is captured in the scope of a macro call leaves the state as it was. -/
theorem call {code : Render Unit} {macroName : String} {t : Template}
    (hlevel : leveled.runs.congruence.rel Eq code code)
    (hbelow : ∀ context caller,
      (above context (InCall caller)).runs.congruence.rel Eq code code)
    (hpending : unlooped.congruence.rel Eq code code) :
    resting.congruence.rel (Same fun _ => True)
      (Render.inScope (.call macroName t) (Render.inTemplate t.name (Render.captured code)))
      (Render.inScope (.call macroName t) (Render.inTemplate t.name (Render.captured code))) := by
  refine of_eq fun s text _ hs hm => ⟨?_, trivial⟩
  -- the call has a result, so each of the three layers has been entered and left
  obtain ⟨stack, v, hpush, hscope, rfl⟩ := inScope_eq_done hm
  obtain ⟨outer, w, hplace, hplaced, rfl⟩ := inTemplate_eq_done hscope
  obtain ⟨u, hcode, rfl⟩ := captured_eq_done hplaced
  have hentered : RenderState.level
      { s with stack, place := some (outer.enter t.name), sink := .buffer, chunks := [] } =
      (s.level.inScope (.call macroName t)).inTemplate t.name outer.line :=
    (Level.level_entered hplace t.name).trans
      (congrArg (·.inTemplate t.name outer.line) (Level.level_pushed hpush))
  have hlooped : ¬((s.level.inScope (.call macroName t)).inTemplate t.name outer.line).Looped :=
    Level.not_looped_call rfl
  have hinside : (above s.stack.context (InCall s.stack.frames)).holds 0
      { s with stack, place := some (outer.enter t.name), sink := .buffer, chunks := [] } := by
    obtain ⟨rfl, -⟩ := push_eq_ok hpush
    exact ⟨rfl, [], _, rfl, rfl, _, rfl, rfl⟩
  have hafter : u.level = (s.level.inScope (.call macroName t)).inTemplate t.name outer.line :=
    (leveled.holds_of_ok hlevel ⟨hentered, trivial⟩ hcode).1
  -- no loop is inside of the call, so a request there would have been an error
  have hcalm : u.pending = false :=
    Unlooped.pending_eq hpending hcode (hentered ▸ hlooped) hs
  obtain ⟨hcontext, upper, lower, hframes, hlength, hlower⟩ :=
    (above _ _).holds_of_ok (hbelow _ _) hinside hcode
  obtain rfl := List.length_eq_zero_iff.1 hlength
  exact popped_left_eq hpush rfl hplace hafter hcontext (hframes ▸ hlower) (hcalm.trans hs.symm)

end Resting

/-! ### Loops -/

namespace Unlooped

/-- Whatever requests a computation makes, none waits once they are taken. -/
theorem proceeding (h : leveled.runs.congruence.rel V m m) :
    unlooped.congruence.rel V
      (m >>= fun a => change (fun s => { s with pending := false }) >>= fun _ => done a)
      (m >>= fun a => change (fun s => { s with pending := false }) >>= fun _ => done a) := by
  rintro i s _ ⟨rfl, rfl, hlooped, -⟩
  -- what the computation has requested may be anything, so only its level is compared
  have ends := h s.level s s ⟨rfl, rfl, trivial⟩
  cases hm : m s with
  | mk r t =>
    rw [hm] at ends
    cases ends with
    | done hab hst =>
      rw [bind_of_done hm]
      exact .done hab ⟨rfl, hst.2.1, hlooped, rfl⟩
    | halt _ =>
      rw [bind_of_error hm]
      exact .halt trivial

/-- A loop takes the requests of its body. -/
theorem iterate {t : Template} {body : Render Unit} {l : Loop}
    (h : leveled.runs.congruence.rel Eq body body) : ∀ i remaining,
      unlooped.congruence.rel Eq (Render.iterate t body l i remaining)
        (Render.iterate t body l i remaining)
  | _, 0 => unlooped.congruence.done rfl
  | i, remaining + 1 => by
    have hround : Render.iterate t body l i (remaining + 1) =
        (Render.inScope (.iteration { l with index := i } t) (body >>= fun _ => requested) >>=
          fun signal => change (fun s => { s with pending := false }) >>= fun _ => done signal) >>=
        fun signal =>
          if signal = .leave then done () else Render.iterate t body l (i + 1) remaining := by
      rw [Render.iterate, bind_bind]
      rfl
    rw [hround]
    refine unlooped.congruence.bind (proceeding (Levels.inScope (fun _ _ _ => trivial)
      (leveled.runs.congruence.seq h leveled.requested))) ?_
    rintro signal _ rfl
    exact unlooped.congruence.ite (fun _ => unlooped.congruence.done rfl) fun _ =>
      iterate h (i + 1) remaining

theorem runLoop {target : String} {key : Option String} {found : List (Value × Value)}
    {condition : Option (Render Value)} {body empty : Render Unit} {p : Value → Prop}
    (hcondition : ∀ c ∈ condition, resting.congruence.rel (Same p) c c)
    (hbody : leveled.runs.congruence.rel Eq body body)
    (hempty : unlooped.congruence.rel Eq empty empty) :
    unlooped.congruence.rel Eq (Render.runLoop target key found condition body empty)
      (Render.runLoop target key found condition body empty) := by
  have onward (running : Template) (kept : List (Value × Value)) :
      unlooped.congruence.rel Eq
        (if kept.isEmpty then empty else Render.iterate running body
          { valueName := target, keyName := key, items := kept.toArray } 0 kept.length)
        (if kept.isEmpty then empty else Render.iterate running body
          { valueName := target, keyName := key, items := kept.toArray } 0 kept.length) :=
    unlooped.congruence.ite (fun _ => hempty) fun _ => iterate hbody 0 _
  unfold Render.runLoop
  refine unlooped.congruence.bind (of_resting Resting.active) ?_
  rintro running _ ⟨rfl, -⟩
  cases condition with
  | none => exact onward running found
  | some c =>
    refine unlooped.congruence.bind (of_resting (resting.congruence.filterPairs (q := fun _ => True)
      (fun _ _ => Resting.inScope (hcondition c rfl)) 0 found (by simp) fun _ _ => trivial)) ?_
    rintro kept _ ⟨rfl, -⟩
    exact onward running kept

end Unlooped

/-! ### What calls start -/

/-- What a macro call runs in its scope: its parameters are bound before its body runs. -/
theorem Congruence.macroCode (C : Congruence) {calls : Calls}
    (hassign : ∀ name v, C.rel Eq (Render.assign name v) (Render.assign name v))
    (hbody : ∀ ns, C.rel Eq (calls.body ns) (calls.body ns))
    (hvalue : ∀ n, C.rel (Same fun _ => True) (calls.value n) (calls.value n))
    (m : Macro) (fullName : String) (bound : List (String × Value)) :
    C.rel Eq (Render.assignParams calls fullName bound m.params >>= fun _ => calls.body m.body)
      (Render.assignParams calls fullName bound m.params >>= fun _ => calls.body m.body) :=
  C.seq (C.assignParams (fun _ => hassign _ _) (fun _ _ => trivial) m.params
    fun _ _ n _ => hvalue n) (hbody m.body)

/-- What calls start leaves no request if it has no loop around it, and it leaves the state as it was
    if it is an expression. -/
structure Tidy (setting : Setting) (depth : Nat) : Prop where
  body : ∀ ns, unlooped.congruence.rel Eq ((calls depth setting).body ns)
    ((calls depth setting).body ns)
  value : ∀ n, resting.congruence.rel (Same fun _ => True) ((calls depth setting).value n)
    ((calls depth setting).value n)

namespace Tidy

variable {setting : Setting} {depth : Nat}

theorem runMacro (h : Tidy setting depth) (t : Template) (m : Macro) (fullName : String)
    (bound : List (String × Value)) :
    resting.congruence.rel (Same fun _ => True)
      (Render.runMacro (calls depth setting) t m fullName bound)
      (Render.runMacro (calls depth setting) t m fullName bound) := by
  unfold Render.runMacro
  -- the code keeps the level, leaves what is below alone, and makes no request
  refine resting.congruence.bind (Resting.call ?_ (fun context caller => ?_) ?_) ?_
  · exact leveled.runs.congruence.macroCode Levels.assign (Levels.kept.body setting depth)
      (Levels.kept.value setting depth) m fullName bound
  · have hkept : (above context (InCall caller)).Kept := Above.kept (firm_inCall caller)
    exact (above _ _).runs.congruence.macroCode
      (fun _ _ => (above _ _).assign fun _ _ _ _ hs hf => hkept.assigned _ _ hs hf)
      (hkept.body setting depth) (hkept.value setting depth) m fullName bound
  · exact unlooped.congruence.macroCode Unlooped.assign h.body
      (fun n => Unlooped.of_resting (h.value n)) m fullName bound
  · rintro text _ ⟨rfl, -⟩
    exact resting.congruence.done ⟨rfl, trivial⟩

/-- Evaluation leaves the state as it was. -/
def evaluation (h : Tidy setting depth) : Evaluation (linked (calls depth setting) setting)
    (linked (calls depth setting) setting) setting setting where
  toCongruence := resting.congruence
  node := fun _ => True
  value := fun _ => True
  holds := fun _ _ => True
  hereditary := Value.Hereditary.trivial
  const := fun _ => trivial
  find := Resting.find
  undefinedAt := Resting.undefinedAt
  lookup := .refl setting
  function := fun _ _ _ _ => resting.congruence.invoke rfl (fun _ _ => trivial)
    fun _ => Resting.exhausted
  filter := fun _ _ _ _ _ => resting.congruence.invoke rfl (fun _ _ => trivial)
    fun _ => Resting.exhausted
  test := fun _ _ _ _ => resting.congruence.mono (resting.congruence.invoke (p := fun _ => True) rfl
    (fun _ _ => trivial) fun _ => Resting.exhausted) fun _ _ h => h.1
  findMacro := fun _ => resting.congruence.mono ((Resting.lookups setting).findMacro _ _)
    fun _ _ h => ⟨h.1, trivial⟩
  runMacro := fun _ _ => h.runMacro _ _ _ _

theorem eval (h : Tidy setting depth) (lenient : Bool) (n : Node) :
    resting.congruence.rel (Same fun _ => True)
      (Render.eval (linked (calls depth setting) setting) setting lenient n)
      (Render.eval (linked (calls depth setting) setting) setting lenient n) :=
  resting.congruence.mono (h.evaluation.eval lenient n fun _ _ => trivial)
    fun _ _ h => ⟨h.1, trivial⟩

theorem runDefinition (h : Tidy setting depth) {name : String} {chain : BlockChain}
    {position : Int} :
    unlooped.congruence.rel Eq
      (Render.runDefinition (calls depth setting) setting name chain position)
      (Render.runDefinition (calls depth setting) setting name chain position) := by
  unfold Render.runDefinition
  split
  · exact unlooped.congruence.halt _
  · rename_i owner b _
    refine unlooped.congruence.bind (unlooped.congruence.ofProblem fun _ _ => trivial) ?_
    rintro t _ ⟨rfl, -⟩
    exact Unlooped.inTemplate (Unlooped.inScope rfl (h.body b.body))

theorem runBlock (h : Tidy setting depth) (name : String) (body : List Node) :
    unlooped.congruence.rel Eq (Render.runBlock (calls depth setting) setting name body)
      (Render.runBlock (calls depth setting) setting name body) := by
  unfold Render.runBlock
  refine unlooped.congruence.bind Unlooped.state ?_
  rintro s _ ⟨rfl, -⟩
  split
  · refine unlooped.congruence.bind (Unlooped.of_resting Resting.active) ?_
    rintro running _ ⟨rfl, -⟩
    exact h.runDefinition
  · exact h.runDefinition

theorem runSuper (h : Tidy setting depth) :
    unlooped.congruence.rel Eq (Render.runSuper (calls depth setting) setting)
      (Render.runSuper (calls depth setting) setting) := by
  unfold Render.runSuper
  refine unlooped.congruence.bind Unlooped.state ?_
  rintro s _ ⟨rfl, -⟩
  split
  · exact unlooped.congruence.ite (fun _ => h.runDefinition) fun _ => unlooped.congruence.raise _
  · exact unlooped.congruence.raise _

theorem runTemplate (h : Tidy setting depth) (t : Template) :
    unlooped.congruence.rel Eq (Render.runTemplate (calls depth setting) setting t)
      (Render.runTemplate (calls depth setting) setting t) := by
  have hentry (t : Template) : unlooped.congruence.rel Eq
      (inTemplate t.name (inScope (.root t) ((calls depth setting).body t.document.body)))
      (inTemplate t.name (inScope (.root t) ((calls depth setting).body t.document.body))) :=
    Unlooped.inTemplate (Unlooped.inScope rfl (h.body t.document.body))
  unfold Render.runTemplate
  split
  · refine unlooped.congruence.bind (unlooped.congruence.ofProblem fun _ _ => trivial) ?_
    rintro u _ ⟨rfl, -⟩
    exact hentry u
  · exact hentry t

theorem runInclude (h : Tidy setting depth) (names : List String) (ignoreMissing : Bool) :
    unlooped.congruence.rel Eq
      (Render.runInclude (Render.runTemplate (calls depth setting) setting) setting names
        ignoreMissing)
      (Render.runInclude (Render.runTemplate (calls depth setting) setting) setting names
        ignoreMissing) :=
  unlooped.congruence.runInclude (fun {_ t} _ => Unlooped.allowing (h.runTemplate t)) names
    ignoreMissing

/-- What is printed is no request. -/
theorem print (v : Value) :
    unlooped.congruence.rel Eq (Render.print setting v) (Render.print setting v) :=
  Congruence.print _ (fun _ => Unlooped.write _) (fun _ _ => trivial) (fun _ => trivial)
    fun _ _ => trivial

mutual

/-- Where no loop is around, a statement leaves no request. -/
theorem exec (h : Tidy setting depth) : ∀ n : Node, unlooped.congruence.rel Eq
    (Render.exec (linked (calls depth setting) setting) setting n)
    (Render.exec (linked (calls depth setting) setting) setting n)
  | .data p text | .raw p text => Unlooped.write text
  | .output p n => by
    rw [Render.exec]
    refine unlooped.congruence.bind (Unlooped.of_resting (h.eval false n)) ?_
    rintro v _ ⟨rfl, -⟩
    exact print v
  | .branch p condition body others otherwise => by
    rw [Render.exec]
    refine unlooped.congruence.bind (Unlooped.of_resting (h.eval true condition)) ?_
    rintro v _ ⟨rfl, -⟩
    exact unlooped.congruence.ite (fun _ => execAll h body) fun _ =>
      execFirst h (execAll h otherwise) others
  | .loop p target iter body empty key condition => by
    rw [Render.exec]
    refine unlooped.congruence.bind (Unlooped.of_resting (h.eval false iter)) ?_
    rintro container _ ⟨rfl, -⟩
    refine unlooped.congruence.bind
      (unlooped.congruence.ofRuntime (p := fun _ => True) fun _ _ => trivial) ?_
    rintro found _ ⟨rfl, -⟩
    -- the body may make requests, which the loop takes
    refine Unlooped.runLoop (p := fun _ => True) (fun c hc => ?_)
      (Levels.kept.execAll setting depth body) (execAll h empty)
    obtain ⟨n, rfl, rfl⟩ := Option.map_eq_some_iff.1 hc
    exact h.eval true n
  | .leave p => Unlooped.request .leave
  | .next p => Unlooped.request .next
  | .assign p name n wide => by
    rw [Render.exec]
    refine unlooped.congruence.bind (Unlooped.of_resting (h.eval false n)) ?_
    rintro v _ ⟨rfl, -⟩
    exact unlooped.congruence.ite (fun _ => Unlooped.assignWide name v)
      fun _ => Unlooped.assign name v
  | .block p name body => h.runBlock name body
  | .super p => h.runSuper
  | .include p names ignoreMissing => h.runInclude names ignoreMissing
  | .filterBlock p name body args named => by
    rw [Render.exec]
    let S := h.evaluation
    have hargs := S.strictEach (S.evalEach false args fun _ _ _ _ => trivial)
    have hnamed := S.strictNamed (S.evalNamed named fun _ _ _ _ => trivial)
    exact unlooped.congruence.runFilter rfl Unlooped.write (Unlooped.captured (execAll h body))
      (hargs.imp fun _ _ h => Unlooped.of_resting h)
      (hnamed.imp fun _ _ h => ⟨h.1, Unlooped.of_resting h.2⟩)
      fun _ _ => unlooped.exhausted fun _ _ _ _ => trivial
  | .macroDef .. | .importing .. | .extends .. => unlooped.congruence.done rfl
  | .const .. | .name .. | .list .. | .object .. | .attr .. | .item .. | .call .. | .macroCall ..
  | .filter .. | .test .. | .arith .. | .unary .. | .compare .. | .logic .. | .choice ..
  | .concat .. | .template .. | .param .. => unlooped.congruence.raise _

/-- Nor does a body. -/
theorem execAll (h : Tidy setting depth) : ∀ ns : List Node, unlooped.congruence.rel Eq
    (Render.execAll (linked (calls depth setting) setting) setting ns)
    (Render.execAll (linked (calls depth setting) setting) setting ns)
  | [] => unlooped.congruence.done rfl
  | n :: rest => by
    rw [Render.execAll]
    refine unlooped.congruence.seq (Unlooped.atLine _) (unlooped.congruence.seq (exec h n) ?_)
    refine unlooped.congruence.bind Unlooped.state ?_
    rintro s _ ⟨rfl, -⟩
    exact unlooped.congruence.ite (fun _ => unlooped.congruence.done rfl) fun _ => execAll h rest

/-- Nor does the first branch that is taken. -/
theorem execFirst (h : Tidy setting depth) {m : Render Unit}
    (hm : unlooped.congruence.rel Eq m m) : ∀ bs : List (Node × List Node),
    unlooped.congruence.rel Eq
      (Render.execFirst (linked (calls depth setting) setting) setting m bs)
      (Render.execFirst (linked (calls depth setting) setting) setting m bs)
  | [] => hm
  | (condition, body) :: rest => by
    rw [Render.execFirst]
    refine unlooped.congruence.bind (Unlooped.of_resting (h.eval true condition)) ?_
    rintro v _ ⟨rfl, -⟩
    exact unlooped.congruence.ite (fun _ => execAll h body) fun _ => execFirst h hm rest

end

end Tidy

/-- However deep calls nest, the expressions that they run leave the state as it was, and the bodies
    leave no request where no loop is around. -/
theorem tidy (setting : Setting) (depth : Nat) : Tidy setting depth := by
  induction depth with
  | zero => exact ⟨fun _ => unlooped.exhausted fun _ _ _ _ => trivial, fun _ => Resting.exhausted⟩
  | succ depth ih => exact ⟨ih.execAll, ih.eval false⟩

/-- An expression that evaluates to a value leaves the state as it was, where no request waits. -/
theorem eval_pure {setting : Setting} {depth : Nat} {lenient : Bool} {n : Node} {s : RenderState}
    {v : Value} (hs : s.pending = false)
    (h : (eval (linked (calls depth setting) setting) setting lenient n s).1 = .ok v) :
    eval (linked (calls depth setting) setting) setting lenient n s = (.ok v, s) :=
  Resting.eq_done ((tidy setting depth).eval lenient n) hs h

end Render

end Stencil
