import Stencil.Proofs.Level

/-! Stack discipline. A render opens sections one inside the other: scopes, code of templates,
    includes, and captures of output. The states that it visits are those that come from its start
    by opening and closing sections and by the steps of statements in between. In each of them the
    level is told by the sections that are open, so that the counters of macro calls and includes
    agree with the frames and targets and stay within their limits, and every run of a statement or
    an expression ends where it began, however it ends. -/

namespace Stencil

open Render

/-- A part of a render that is open. Code of a template knows the place it was started from, and a
    capture the output that it keeps apart. -/
inductive Section where
  | scope (f : Frame)
  | code (name : String) (outer : Location)
  | inclusion (t : Template)
  | capture (sink : Sink) (chunks : List Chunk)

namespace Section

def isCode : Section → Bool
  | .code .. => true
  | _ => false

def isInclusion : Section → Bool
  | .inclusion _ => true
  | _ => false

/-- The level inside of sections that are opened from a level, the innermost first. -/
def level (l : Level) : List Section → Level
  | [] => l
  | .scope f :: rest => (level l rest).inScope f
  | .code name outer :: rest => (level l rest).inTemplate name outer.line
  | .inclusion t :: rest => (level l rest).including t
  | .capture .. :: rest => level l rest

/-- Each section has been opened where it may be: a macro call and an include below their limits,
    code of a template from the place that it knows. -/
def Permitted (l : Level) : List Section → Prop
  | [] => True
  | .scope f :: rest => Permitted l rest ∧
      (f.kind.isCall = true → ((level l rest).macroDepth : Int) < (level l rest).macroLimit)
  | .code _ outer :: rest => Permitted l rest ∧ (level l rest).place = some outer.unlined
  | .inclusion _ :: rest => Permitted l rest ∧ (level l rest).MayInclude
  | .capture .. :: rest => Permitted l rest

end Section

/-- The states that a render visits from its start, with the sections that are open, the innermost
    first. -/
inductive Visits (start : RenderState) : List Section → RenderState → Prop where
  | start : Visits start [] start
  | write {K s} (c : Chunk) : Visits start K s → Visits start K { s with chunks := c :: s.chunks }
  | assign {K s f rest} (name : String) (v : Value) : Visits start K s →
      s.stack.frames = f :: rest →
      Visits start K { s with stack := { s.stack with frames := f.assign name v :: rest } }
  | assignWide {K s frames name v} : Visits start K s →
      CallStack.assignWideIn name v s.stack.frames = some frames →
      Visits start K { s with stack := { s.stack with frames } }
  | request {K s} (signal : Signal) : Visits start K s →
      Visits start K { s with stack := s.stack.changeLoop (·.request signal) }
  | wait {K s} (pending : Bool) : Visits start K s → Visits start K { s with pending }
  | line {K s} (line : Int) : Visits start K s →
      Visits start K { s with place := s.place.map fun l => { l with line } }
  | push {K s f stack} : Visits start K s → s.stack.push f = .ok stack →
      Visits start (.scope f :: K) { s with stack }
  | pop {K s f} : Visits start (.scope f :: K) s → Visits start K (popped s)
  | enter {K s outer} (name : String) : Visits start K s → s.place = some outer →
      Visits start (.code name outer :: K) { s with place := some (outer.enter name) }
  | leave {K s name outer} : Visits start (.code name outer :: K) s → Visits start K (left outer s)
  | included {K s here} (t : Template) : Visits start K s → s.place = some here →
      here.includeDepth < here.limit →
      Visits start (.inclusion t :: K)
        { s with targets := t :: s.targets, place := deeper 1 s.place }
  | excluded {K s t} : Visits start (.inclusion t :: K) s →
      Visits start K { s with targets := s.targets.drop 1, place := deeper (-1) s.place }
  | capture {K s} : Visits start K s →
      Visits start (.capture s.sink s.chunks :: K) { s with sink := .buffer, chunks := [] }
  | release {K s sink chunks} : Visits start (.capture sink chunks :: K) s →
      Visits start K { s with sink, chunks }

/-! ### Levels of visited states -/

/-- The open sections tell the level, and have been opened where they may be. -/
theorem Visits.level_eq {start : RenderState} {K : List Section} {s : RenderState}
    (h : Visits start K s) :
    s.level = Section.level start.level K ∧ Section.Permitted start.level K := by
  -- most steps open or close nothing
  have keeps {s t : RenderState} {K : List Section} (hst : t.level = s.level)
      (ih : s.level = Section.level start.level K ∧ Section.Permitted start.level K) :
      t.level = Section.level start.level K ∧ Section.Permitted start.level K :=
    ⟨hst.trans ih.1, ih.2⟩
  induction h with
  | start => exact ⟨rfl, trivial⟩
  | write c _ ih => exact keeps rfl ih
  | assign name v _ hf ih => exact keeps (Level.level_assigned name v hf) ih
  | assignWide _ hf ih => exact keeps (Level.level_assignedWide hf) ih
  | request signal _ ih => exact keeps (Level.level_interrupted signal _) ih
  | wait pending _ ih => exact keeps rfl ih
  | line line _ ih => exact keeps (Level.level_lined line _) ih
  | push _ hpush ih =>
    obtain ⟨hl, hp⟩ := ih
    refine ⟨by rw [Level.level_pushed hpush, hl]; rfl, hp, ?_⟩
    rw [← hl]
    exact (CallStack.push_eq_ok hpush).2
  | pop _ ih => exact ⟨Level.level_popped ih.1, ih.2.1⟩
  | enter name _ hplace ih =>
    obtain ⟨hl, hp⟩ := ih
    refine ⟨by rw [Level.level_entered hplace, hl]; rfl, hp, ?_⟩
    rw [← hl]
    exact congrArg (Option.map Location.unlined) hplace
  | leave _ ih => exact ⟨Level.level_left ih.2.2 ih.1, ih.2.1⟩
  | included t _ hplace hlimit ih =>
    obtain ⟨hl, hp⟩ := ih
    refine ⟨by rw [Level.level_included, hl]; rfl, hp, ?_⟩
    rw [← hl]
    exact ⟨_, congrArg (Option.map Location.unlined) hplace, hlimit⟩
  | excluded _ ih => exact ⟨Level.level_excluded ih.1, ih.2.1⟩
  | capture _ ih => exact keeps rfl ih
  | release _ ih => exact keeps rfl ih

/-- Counters that agree with the frames, the targets and the open sections, and keep to their
    limits. The trail has an entry for every open code of a template but the first. -/
structure Counted (macroLimit includeLimit : Int) (K : List Section) (l : Level) : Prop where
  macros : l.macroDepth = l.frames.countP (·.kind.isCall)
  macroBound : l.macroLimit = macroLimit ∧ (l.macroDepth : Int) ≤ max 0 macroLimit
  targets : l.targets.length = K.countP Section.isInclusion + 1
  place : ∃ p, l.place = some p ∧ p.limit = includeLimit ∧
    p.includeDepth = K.countP Section.isInclusion ∧ p.includeDepth ≤ max 0 includeLimit ∧
    p.trail.length = K.countP Section.isCode - 1 ∧
    (p.template.isSome = true ↔ 0 < K.countP Section.isCode)

namespace Counted

variable {macroLimit includeLimit : Int} {K : List Section} {l : Level}

theorem scope {f : Frame} (h : Counted macroLimit includeLimit K l)
    (hf : f.kind.isCall = true → (l.macroDepth : Int) < l.macroLimit) :
    Counted macroLimit includeLimit (.scope f :: K) (l.inScope f) where
  macros := by
    unfold Level.inScope
    rw [List.countP_cons, CallStack.isCall_outline, h.macros]
    split <;> rfl
  macroBound := by
    obtain ⟨hlimit, hbound⟩ := h.macroBound
    refine ⟨hlimit, ?_⟩
    unfold Level.inScope
    dsimp only
    split
    · rename_i hcall
      have := hf hcall
      omega
    · exact hbound
  targets := h.targets
  place := h.place

theorem code {outer : Location} (h : Counted macroLimit includeLimit K l) (name : String)
    (hl : l.place = some outer.unlined) :
    Counted macroLimit includeLimit (.code name outer :: K) (l.inTemplate name outer.line) where
  macros := h.macros
  macroBound := h.macroBound
  targets := h.targets
  place := by
    obtain ⟨p, hp, hlimit, hincludes, hbound, htrail, htemplate⟩ := h.place
    rw [hl] at hp
    obtain rfl : outer.unlined = p := Option.some.inj hp
    refine ⟨outer.enter name, by rw [Level.inTemplate, hl]; rfl, hlimit, hincludes, hbound, ?_, ?_⟩
    · -- the trail grows exactly when a template encloses the new code, so that it is not the first
      have hcode : (Section.code name outer :: K).countP Section.isCode =
          K.countP Section.isCode + 1 := List.countP_cons_of_pos rfl
      rw [hcode]
      change (if outer.template.isSome then outer.trail ++ [(outer.template, outer.line)]
        else outer.trail).length = _
      change outer.trail.length = _ at htrail
      change outer.template.isSome = true ↔ _ at htemplate
      split
      · rename_i hsome
        have := htemplate.1 hsome
        rw [List.length_append, List.length_singleton]
        omega
      · rename_i hnone
        have : ¬0 < K.countP Section.isCode := fun hpos => hnone (htemplate.2 hpos)
        omega
    · simp [Location.enter, Section.isCode]

theorem inclusion {t : Template} (h : Counted macroLimit includeLimit K l) (hl : l.MayInclude) :
    Counted macroLimit includeLimit (.inclusion t :: K) (l.including t) := by
  have hcount : (Section.inclusion t :: K).countP Section.isInclusion =
      K.countP Section.isInclusion + 1 := List.countP_cons_of_pos rfl
  obtain ⟨p, hp, hlimit, hincludes, hbound, htrail, htemplate⟩ := h.place
  obtain ⟨q, hq, hless⟩ := hl
  obtain rfl : p = q := Option.some.inj (hp.symm.trans hq)
  refine ⟨h.macros, h.macroBound, ?_, { p with includeDepth := p.includeDepth + 1 }, ?_, hlimit, ?_,
    ?_, htrail, htemplate⟩
  · rw [Level.including, List.length_cons, h.targets, hcount]
  · rw [Level.including, hp]
    rfl
  · dsimp only
    omega
  · dsimp only
    omega

theorem capture (h : Counted macroLimit includeLimit K l) (sink : Sink) (chunks : List Chunk) :
    Counted macroLimit includeLimit (.capture sink chunks :: K) l :=
  ⟨h.macros, h.macroBound, h.targets, h.place⟩

end Counted

/-- Where the counters agree at the start, they do so inside of the sections that are opened. -/
theorem Section.counted {macroLimit includeLimit : Int} {l : Level}
    (h : Counted macroLimit includeLimit [] l) {K : List Section} (hp : Section.Permitted l K) :
    Counted macroLimit includeLimit K (Section.level l K) := by
  induction K with
  | nil => exact h
  | cons b K ih =>
    cases b with
    | scope f => exact (ih hp.1).scope hp.2
    | code name outer => exact (ih hp.1).code name hp.2
    | inclusion t => exact (ih hp.1).inclusion hp.2
    | capture sink chunks => exact (ih hp).capture sink chunks

namespace Render

/-! ### Runs between visited states -/

/-- Renders that go from one visited state to another, with the same sections open. -/
def visiting (start : RenderState) : Invariant (List Section) where
  holds := Visits start
  remains K _ s := Visits start K s
  remains_of_holds _ h := h
  waiting pending h := h.wait pending

namespace Visiting

variable {start : RenderState}

/-- All that a render runs goes from one visited state to another. -/
theorem kept : (visiting start).Kept where
  exhausted h := h
  lined line h := h.line line
  written c h := h.write c
  assigned name v h hf := h.assign name v hf
  assignedWide h hf := h.assignWide hf
  requested signal h := h.request signal
  inScope := (visiting start).inScope fun _ _ _ h hpush =>
    ⟨_, h.push hpush, fun _ hu => hu.pop, fun _ _ hu => hu.pop⟩
  inTemplate {_ _ name _ _} := (visiting start).inTemplate fun _ _ _ h hplace =>
    ⟨_, h.enter name hplace, fun _ hu => hu.leave, fun _ _ hu => hu.leave⟩
  captured := (visiting start).captured fun _ _ h =>
    ⟨_, h.capture, fun _ hu => ⟨trivial, hu.release⟩, fun _ _ hu => hu.release⟩
  allowing {_ _ t _ _} := (visiting start).allowing fun _ _ _ h hplace hlimit =>
    ⟨_, h.included t hplace hlimit, fun _ hu => hu.excluded, fun _ _ hu => hu.excluded⟩

variable {α : Type} {V : α → α → Prop} {m n : Render α} {K : List Section} {s : RenderState}

/-- The state after a computation is visited with the same sections open. -/
theorem visits (h : (visiting start).runs.congruence.rel V m n) (hs : Visits start K s) :
    Visits start K (m s).2 := by
  have ends := h K s s ⟨rfl, hs⟩
  generalize m s = x, n s = y at ends ⊢
  cases ends with
  | done _ hst => exact hst.2
  | halt hh => exact hh.2.2

/-- Computations that do the same in visited states do so. -/
theorem eq_of_rel (h : (visiting start).runs.congruence.rel V m n) (hs : Visits start K s)
    (hV : ∀ a b, V a b → a = b) : m s = n s := by
  have ends := h K s s ⟨rfl, hs⟩
  generalize m s = x, n s = y at ends ⊢
  cases ends with
  | done hab hst => rw [hV _ _ hab, hst.1]
  | halt hh => rw [hh.1, hh.2.1]

theorem rel_of_eq (h : (visiting start).runs.congruence.rel V m m)
    (heq : ∀ K s, Visits start K s → m s = n s) : (visiting start).runs.congruence.rel V m n := by
  rintro K s _ ⟨rfl, hs⟩
  have ends := h K s s ⟨rfl, hs⟩
  rwa [← heq K s hs]

end Visiting

/-- Calls that do the same in all states that are visited. -/
structure Agree (start : RenderState) (c c' : Calls) : Prop where
  body : ∀ {K s}, Visits start K s → ∀ ns, c.body ns s = c'.body ns s
  value : ∀ {K s}, Visits start K s → ∀ n, c.value n s = c'.value n s
  render : c.render = c'.render

namespace Agree

variable {start : RenderState} {setting : Setting} {depth : Nat} {c : Calls}

theorem refl (start : RenderState) (c : Calls) : Agree start c c :=
  ⟨fun _ _ => rfl, fun _ _ => rfl, rfl⟩

theorem body_rel (h : Agree start (calls depth setting) c) (ns : List Node) :
    (visiting start).runs.congruence.rel Eq ((calls depth setting).body ns) (c.body ns) :=
  Visiting.rel_of_eq (Visiting.kept.body setting depth ns) fun _ _ hs => h.body hs ns

theorem value_rel (h : Agree start (calls depth setting) c) (n : Node) :
    (visiting start).runs.congruence.rel (Same fun _ => True) ((calls depth setting).value n)
      (c.value n) :=
  Visiting.rel_of_eq (Visiting.kept.value setting depth n) fun _ _ hs => h.value hs n

/-- What is started in a state that is not visited makes no difference to statements. -/
theorem exec_rel (h : Agree start (calls depth setting) c) (n : Node) :
    (visiting start).runs.congruence.rel Eq (exec (linked (calls depth setting) setting) setting n)
      (exec (linked c setting) setting n) :=
  ((Visiting.kept.simulation setting).execution h.render (fun ns _ => h.body_rel ns)
    fun n _ => h.value_rel n).exec n fun _ _ => trivial

/-- Nor does it to expressions. -/
theorem eval_rel (h : Agree start (calls depth setting) c) (lenient : Bool) (n : Node) :
    (visiting start).runs.congruence.rel (Same fun _ => True)
      (eval (linked (calls depth setting) setting) setting lenient n)
      (eval (linked c setting) setting lenient n) :=
  (visiting start).runs.congruence.mono
    (((Visiting.kept.simulation setting).execution h.render (fun ns _ => h.body_rel ns)
      fun n _ => h.value_rel n).eval lenient n fun _ _ => trivial) fun _ _ hv => ⟨hv.1, trivial⟩

end Agree

theorem level_of_rel {α : Type} {V : α → α → Prop} {m : Render α}
    (h : (levels (fun _ => True) True).runs.congruence.rel V m m) (s : RenderState) :
    (m s).2.level = s.level := by
  have ends := h s.level s s ⟨rfl, rfl, trivial⟩
  generalize hx : m s = x at ends
  cases ends with
  | done _ hst => exact hst.2.1
  | halt hh => exact hh.2.2.1

/-- At the start of a render no section is open. -/
theorem counted_begun (setting : Setting) (t : Template) (context : Context) (sink : Sink) :
    Counted setting.env.macroLimit setting.env.includeLimit []
      (begun setting t context sink).level :=
  { macros := rfl
    macroBound := ⟨rfl, Int.le_max_left 0 _⟩
    targets := rfl
    place := ⟨_, rfl, rfl, rfl, Int.le_max_left 0 _, rfl, by simp [Location.unlined]⟩ }

/-- Stack discipline. In every state that a render visits, the number of macro calls agrees with the
    frames and the number of includes with the includes that are open and with the targets, both
    keep to their limits, and the trail has an entry for every open code of a template but the
    first. Statements and expressions lead from visited states to visited states, and what they
    would start elsewhere makes no difference to them. From whatever state and however it ends, a
    statement or an expression leaves the frames, the targets, both numbers and the trail as they
    were, and in the end of a render the call stack is empty. -/
theorem stack_disciplined (setting : Setting) (t : Template) (context : Context) (sink : Sink) :
    let start := begun setting t context sink
    (∀ K s, Visits start K s →
      s.stack.macroDepth = s.stack.frames.countP (·.kind.isCall) ∧
      (s.stack.macroDepth : Int) ≤ max 0 setting.env.macroLimit ∧
      s.targets.length = K.countP Section.isInclusion + 1 ∧
      ∃ here, s.place = some here ∧ here.includeDepth = K.countP Section.isInclusion ∧
        here.includeDepth ≤ max 0 setting.env.includeLimit ∧
        here.trail.length = K.countP Section.isCode - 1) ∧
    (∀ depth c K s, Agree start (calls depth setting) c → Visits start K s →
      (∀ n, exec (linked c setting) setting n s =
          exec (linked (calls depth setting) setting) setting n s ∧
        Visits start K (exec (linked (calls depth setting) setting) setting n s).2) ∧
      ∀ lenient n, eval (linked c setting) setting lenient n s =
          eval (linked (calls depth setting) setting) setting lenient n s ∧
        Visits start K (eval (linked (calls depth setting) setting) setting lenient n s).2) ∧
    (∀ depth s,
      (∀ n, (exec (linked (calls depth setting) setting) setting n s).2.level = s.level) ∧
      ∀ lenient n,
        (eval (linked (calls depth setting) setting) setting lenient n s).2.level = s.level) ∧
    (run setting t context sink).final.stack.frames = [] ∧
    (run setting t context sink).final.stack.macroDepth = 0 := by
  intro start
  refine ⟨fun K s hs => ?_, fun depth c K s hc hs => ?_, fun depth s => ?_, rfl, rfl⟩
  · obtain ⟨hlevel, hpermitted⟩ := hs.level_eq
    have hcounted := Section.counted (counted_begun setting t context sink) hpermitted
    rw [← hlevel] at hcounted
    obtain ⟨hmacros, ⟨hlimit, hbound⟩, htargets, p, hp, -, hincludes, hmax, htrail, -⟩ := hcounted
    obtain ⟨here, hhere, rfl⟩ := Option.map_eq_some_iff.1 hp
    have hcalls : (s.stack.frames.map Frame.outline).countP (·.kind.isCall) =
        s.stack.frames.countP (·.kind.isCall) := by
      rw [List.countP_map]
      exact List.countP_congr fun f _ => by rw [Function.comp_apply, CallStack.isCall_outline]
    exact ⟨hmacros.trans hcalls, hbound, htargets, here, hhere, hincludes, hmax, htrail⟩
  · have hself := Agree.refl start (calls depth setting)
    refine ⟨fun n => ⟨?_, ?_⟩, fun lenient n => ⟨?_, ?_⟩⟩
    · exact (Visiting.eq_of_rel (hc.exec_rel n) hs fun _ _ h => h).symm
    · exact Visiting.visits (hself.exec_rel n) hs
    · exact (Visiting.eq_of_rel (hc.eval_rel lenient n) hs fun _ _ h => h.1).symm
    · exact Visiting.visits (hself.eval_rel lenient n) hs
  · obtain ⟨hbody, hvalue⟩ := (Levels.kept.simulation setting).calls depth
    refine ⟨fun n => ?_, fun lenient n => ?_⟩
    · exact level_of_rel (((Levels.kept.simulation setting).execution rfl hbody hvalue).exec n
        fun _ _ => trivial) s
    · exact level_of_rel (((Levels.kept.simulation setting).execution rfl hbody hvalue).eval lenient
        n fun _ _ => trivial) s

/-- A template that is rendered on its own. -/
def leaflet : Template := { name := "leaflet.txt", document := {} }

/-- A setting with no other template. -/
def solitary : Setting := { env := {}, templates := .empty, escaping := false }

theorem stack_disciplined_call : ∃ K s, Visits (begun solitary leaflet {} .buffer) K s ∧
    K.length = 3 ∧ s.stack.macroDepth = 1 ∧ s.stack.frames.countP (·.kind.isCall) = 1 := by
  have atStart : Visits (begun solitary leaflet {} .buffer) []
      (begun solitary leaflet {} .buffer) := .start
  have inside := atStart.enter "leaflet.txt" rfl
  have called := (inside.push (f := .root leaflet) rfl).push (f := .call "m" leaflet) rfl
  obtain ⟨hcount, -⟩ := (stack_disciplined solitary leaflet {} .buffer).1 _ _ called
  exact ⟨_, _, called, rfl, rfl, hcount.symm⟩

end Render

end Stencil
