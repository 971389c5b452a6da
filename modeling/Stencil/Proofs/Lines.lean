import Stencil.Proofs.Innermost
import Stencil.Proofs.Places
import Stencil.Proofs.Purity

/-! The line of an error. While a body is executed as code of a template, the place of the render is
    in this template, whatever other code has been run from there. What a statement evaluates by
    itself leaves the line as it is, however it ends, so that an error which arises there tells the
    line of the statement. Only a filter block evaluates its arguments after its body, at the line
    that the body has left. -/

namespace Stencil

open Render

/-- What an error told of its place is what it tells now. -/
structure RuntimeError.Keeps (told e : RuntimeError) : Prop where
  template : told.template.isSome = true → e.template = told.template
  line : told.line.getD 0 ≠ 0 → e.line = told.line
  trail : told.trail ≠ [] → e.trail = told.trail

theorem RuntimeError.Keeps.locate {told e : RuntimeError} (h : told.Keeps e)
    (template : Option String) (line : Option Int) (trail : List Step) :
    told.Keeps (e.locate template line trail) where
  template htold := by
    obtain ⟨name, hname⟩ := Option.isSome_iff_exists.1 htold
    simp [RuntimeError.locate, h.template htold, hname]
  line htold := by
    simp [RuntimeError.locate, h.line htold, htold]
  trail htold := by
    simp [RuntimeError.locate, h.trail htold, htold]

/-- A capability has told the place of an error, as one does that has rendered a template. -/
def Environment.Tells (env : Environment) (e : RuntimeError) : Prop :=
  ∃ kind name c args named render told, env.lookup kind name = .ok c ∧
    c.call { args, named, render } = .error (.problem (.template (.runtime told))) ∧
    ¬told.Unplaced ∧ told.Keeps e

/-- What is filled in further out leaves the place that a capability has told as it is. -/
theorem Environment.Tells.locate {env : Environment} {e : RuntimeError} (h : env.Tells e)
    (template : Option String) (line : Option Int) (trail : List Step) :
    env.Tells (e.locate template line trail) := by
  obtain ⟨kind, name, c, args, named, render, told, hc, hcall, hplaced, hkeeps⟩ := h
  exact ⟨kind, name, c, args, named, render, told, hc, hcall, hplaced, hkeeps.locate _ _ _⟩

/-- Where an error at a place has come from: it has arisen there, or in code of a template that was
    run from there, or a capability has told its place. -/
inductive Origin (env : Environment) (here : Location) (e : RuntimeError) : Prop
  | here (h : e.Unplaced ∨ e.At here)
  | inside (h : here.trail ++ [(here.template, here.line)] <+: e.trail)
  | told (h : env.Tells e)

namespace Origin

variable {env : Environment} {here outer : Location} {h : Halt} {e : RuntimeError}

theorem trail_ne_nil_of_inside (h : here.trail ++ [(here.template, here.line)] <+: e.trail) :
    e.trail ≠ [] := by
  intro hnil
  simp [hnil] at h

/-- The number of open includes is no part of where an error has come from. -/
theorem deepened {l : Location} (hl : l.template = here.template ∧ l.line = here.line ∧
    l.trail = here.trail) (he : Origin env here e) : Origin env l e := by
  obtain ⟨htemplate, hline, htrail⟩ := hl
  cases he with
  | here h =>
    refine .here (h.imp id fun h => ⟨h.template.trans htemplate.symm, ?_, ?_⟩)
    · rw [h.line, Location.knownLine, Location.knownLine, hline]
    · rw [htrail]
      exact h.trail
  | inside h => exact .inside (by rwa [htrail, htemplate, hline])
  | told h => exact .told h

/-- An error that leaves code of a template has come from there. -/
theorem left (htrail : here.trail = outer.trail ++ [(outer.template, outer.line)])
    (h' : ∀ e, h = .problem (.template (.runtime e)) → Origin env here e)
    (he : located here h = .problem (.template (.runtime e))) : Origin env outer e := by
  unfold located at he
  split at he
  · rename_i inner
    cases he
    -- the error is met at this place, has come out of code inside, or its place has been told
    cases h' inner rfl with
    | here hinner =>
      refine .inside ?_
      have hempty : inner.trail = here.trail ∨ inner.trail = [] :=
        hinner.elim (fun h => .inr h.trail) fun h => h.trail
      rcases hempty with htold | htold <;> simp [RuntimeError.locate, htold, htrail]
    | inside hprefix =>
      refine .inside ?_
      have hne := trail_ne_nil_of_inside hprefix
      have hkept :
          (inner.locate here.template (some here.line) here.trail).trail = inner.trail := by
        simp [RuntimeError.locate, hne]
      rw [hkept, ← htrail]
      exact (List.prefix_append here.trail _).trans hprefix
    | told htells => exact .told (htells.locate _ _ _)
  · obtain rfl := eq_of_runtime_eq he
    exact .inside (htrail ▸ List.prefix_refl here.trail)
  · rename_i hother _
    exact absurd he (hother e)

/-- An error that has arisen at a line tells this line when it leaves the code of the template. -/
theorem tells (hline : here.line ≠ 0)
    (h' : ∀ e, h = .problem (.template (.runtime e)) → Origin env here e)
    (he : located here h = .problem (.template (.runtime e))) :
    (e.template = here.template ∧ e.line = some here.line ∧ e.trail = here.trail) ∨
      here.trail ++ [(here.template, here.line)] <+: e.trail ∨ env.Tells e := by
  by_cases harises : h.Arises here
  · obtain ⟨htemplate, htold, htrail⟩ := harises.located he
    refine .inl ⟨htemplate, ?_, htrail⟩
    cases hknown : e.line with
    | none => exact absurd (by rw [← htold, hknown]; rfl) hline
    | some l => rw [← htold, hknown]; rfl
  · unfold Halt.Arises at harises
    push Not at harises
    obtain ⟨inner, rfl, hnot⟩ := harises
    cases he
    cases h' inner rfl with
    | here hinner => exact absurd hinner (by simpa using hnot)
    | inside hprefix =>
      have hne := trail_ne_nil_of_inside hprefix
      refine .inr (.inl ?_)
      simpa [RuntimeError.locate, hne] using hprefix
    | told htells => exact .inr (.inr (htells.locate _ _ _))

end Origin

namespace Render

/-! ### The invariant -/

/-- Renders that stay in a place of a template, at some lines. -/
def staying (setting : Setting) (lines : Int → Prop) : Invariant Location where
  holds here s := here.template.isSome = true ∧ s.sink.Offered ∧
    ∃ line, lines line ∧ s.place = some { here with line }
  remains here h s := ∃ line, lines line ∧ s.place = some { here with line } ∧
    ∀ e, h = .problem (.template (.runtime e)) → Origin setting.env { here with line } e
  problem q := ∀ e, q = .template (.runtime e) → e.Unplaced ∨ setting.env.Tells e
  plain := by
    rintro _ hplain e rfl
    exact .inl hplain
  remains_of_holds := by
    rintro here s q hq ⟨-, -, line, hline, hplace⟩
    refine ⟨line, hline, hplace, fun e he => ?_⟩
    cases hq with
    | anywhere hq => exact (hq e (Halt.problem.inj he)).elim (fun h => .here (.inl h)) .told
    | here hhere hat =>
      obtain rfl := eq_of_runtime_eq he
      obtain rfl := Option.some.inj (hplace.symm.trans hhere)
      exact .here (.inr hat)
  waiting _ h := h

namespace Staying

variable {setting : Setting} {lines : Int → Prop} {α : Type} {V : α → α → Prop} {m n : Render α}

theorem exhausted : (staying setting lines).runs.congruence.rel V (halt .exhausted)
    (halt .exhausted) := by
  refine (staying setting lines).exhausted fun hs => ?_
  obtain ⟨-, -, line, hline, hplace⟩ := hs
  exact ⟨line, hline, hplace, fun e he => by cases he⟩

theorem write (text : String) : (staying setting lines).runs.congruence.rel Eq (Render.write text)
    (Render.write text) :=
  (staying setting lines).write (fun _ _ _ hs _ => hs)
    fun _ _ q hs hq => (staying setting lines).plain (hs.2.1.plainly _ _ q hq)

theorem assign (name : String) (v : Value) : (staying setting lines).runs.congruence.rel Eq
    (Render.assign name v) (Render.assign name v) :=
  (staying setting lines).assign fun _ _ _ _ hs _ => hs

theorem assignWide (name : String) (v : Value) : (staying setting lines).runs.congruence.rel Eq
    (Render.assignWide name v) (Render.assignWide name v) :=
  (staying setting lines).assignWide fun _ _ _ hs _ => hs

theorem request (signal : Signal) : (staying setting lines).runs.congruence.rel Eq
    (Render.request signal) (Render.request signal) :=
  (staying setting lines).request signal fun _ _ hs => hs

theorem active : (staying setting lines).runs.congruence.rel (Same fun _ => True) Render.active
    Render.active :=
  (staying setting lines).active fun _ _ _ _ _ _ => trivial

theorem inScope {f : Frame} (h : (staying setting lines).runs.congruence.rel V m n) :
    (staying setting lines).runs.congruence.rel V (Render.inScope f m) (Render.inScope f n) :=
  (staying setting lines).inScope (J := staying setting lines)
    (fun here _ _ hs _ => ⟨here, hs, fun _ hu => hu, fun _ _ hu => hu⟩) h

theorem captured {m n : Render Unit} (h : (staying setting lines).runs.congruence.rel Eq m n) :
    (staying setting lines).runs.congruence.rel (Same fun _ => True) (Render.captured m)
      (Render.captured n) :=
  (staying setting lines).captured (J := staying setting lines)
    (fun here _ hs => ⟨here, ⟨hs.1, .buffer, hs.2.2⟩,
      fun _ hu => ⟨trivial, hu.1, hs.2.1, hu.2.2⟩, fun _ _ hu => hu⟩) h

/-- A line is noted among those that may be. -/
theorem atLine {line : Int} (hline : line ≠ 0 → lines line) :
    (staying setting lines).runs.congruence.rel Eq (Render.atLine line) (Render.atLine line) := by
  by_cases hzero : line = 0
  · unfold Render.atLine
    rw [if_pos hzero]
    exact (staying setting lines).runs.congruence.done rfl
  · refine (staying setting lines).atLine line fun here s ⟨htemplate, hsink, _, _, hplace⟩ => ?_
    exact ⟨htemplate, hsink, line, hline hzero, by rw [hplace]; rfl⟩

/-- Whatever lines code of a template notes, it is left for the line around it. -/
theorem inTemplate {name : String}
    (h : (staying setting fun _ => True).runs.congruence.rel V m n) :
    (staying setting lines).runs.congruence.rel V (Render.inTemplate name m)
      (Render.inTemplate name n) := by
  refine (staying setting lines).inTemplate (J := staying setting fun _ => True)
    (fun here s outer hs hplace => ⟨outer.enter name, ?_⟩) h
  obtain ⟨htemplate, hsink, line, hline, hhere⟩ := hs
  obtain rfl : outer = { here with line } := Option.some.inj (hplace.symm.trans hhere)
  have hleave (inner : Int) :
      ({ Location.enter { here with line } name with line := inner }).leave (here.template, line) =
        { here with line } := by
    simp [Location.leave, Location.enter, htemplate]
  refine ⟨⟨rfl, hsink, 0, trivial, rfl⟩, fun u hu => ?_, fun k u hu => ?_⟩
  · obtain ⟨-, hsink, inner, -, hu⟩ := hu
    rw [left_of_place hu]
    exact ⟨htemplate, hsink, line, hline, congrArg some (hleave inner)⟩
  · obtain ⟨inner, -, hu, horigin⟩ := hu
    rw [left_of_place hu, relocated_of_place hu]
    refine ⟨line, hline, congrArg some (hleave inner), fun e he => Origin.left ?_ horigin he⟩
    exact if_pos htemplate

/-- What an included template runs does so at another depth of includes. -/
theorem allowing {t : Template} (h : (staying setting lines).runs.congruence.rel V m n) :
    (staying setting lines).runs.congruence.rel V (Render.allowing t m) (Render.allowing t n) := by
  refine (staying setting lines).allowing (J := staying setting lines) (fun here s outer hs _ _ =>
    ⟨{ here with includeDepth := here.includeDepth + 1 }, ?_⟩) h
  obtain ⟨htemplate, hsink, line, hline, hplace⟩ := hs
  have hback : here.includeDepth + 1 + -1 = here.includeDepth := by omega
  refine ⟨⟨htemplate, hsink, line, hline, by rw [hplace]; rfl⟩, fun u hu => ?_, fun k u hu => ?_⟩
  · obtain ⟨-, hsink, line, hline, hu⟩ := hu
    refine ⟨htemplate, hsink, line, hline, ?_⟩
    simp [deeper, hu, hback]
  · obtain ⟨line, hline, hu, horigin⟩ := hu
    refine ⟨line, hline, by simp [deeper, hu, hback], fun e he => ?_⟩
    refine Origin.deepened ?_ (horigin e he)
    exact ⟨rfl, rfl, rfl⟩

/-- A capability meets no runtime error that tells a place, unless it tells the place itself. -/
theorem allows {render : String → Except Halt String} {kind : CapabilityKind} {name : String}
    {c : Capability} (hc : setting.env.lookup kind name = .ok c) :
    (staying setting lines).runs.congruence.Allows render kind c := by
  rintro args named p q hp hq e rfl
  obtain hunplaced | rfl := unplaced_or_eq_of_calledBy hq
  · exact .inl hunplaced
  · refine or_iff_not_imp_left.2 fun hplaced => ?_
    exact ⟨kind, name, c, args, named, render, e, hc, hp, hplaced, fun _ => rfl, fun _ => rfl,
      fun _ => rfl⟩

/-- The search for macros meets no runtime errors that tell a place. -/
def lookups (setting : Setting) (lines : Int → Prop) : Lookups setting where
  toCongruence := (staying setting lines).runs.congruence
  template := fun _ => True
  agree := fun s t => ∃ i, (staying setting lines).runs.states i s t
  registered := fun _ => trivial
  state := (staying setting lines).runs.state
  target := fun ⟨_, h, _⟩ => ⟨by rw [h], fun _ _ => trivial⟩
  active := active
  ancestor := fun _ _ hq e he => absurd he (ne_runtime_of_template hq e)
  imported := fun _ _ hq e he => absurd he (ne_runtime_of_templateOf hq e)

end Staying

/-! ### What calls start -/

/-- What calls start stays in the place in which it is started, whatever lines it notes there. -/
structure Started (setting : Setting) (depth : Nat) : Prop where
  body : ∀ ns, (staying setting fun _ => True).runs.congruence.rel Eq
    ((calls depth setting).body ns) ((calls depth setting).body ns)
  value : ∀ n, (staying setting fun _ => True).runs.congruence.rel (Same fun _ => True)
    ((calls depth setting).value n) ((calls depth setting).value n)

namespace Started

variable {setting : Setting} {depth : Nat} {lines : Int → Prop}

section

variable (h : Started setting depth)
include h

theorem runMacro (t : Template) (m : Macro) (fullName : String) (bound : List (String × Value)) :
    (staying setting lines).runs.congruence.rel (Same fun _ => True)
      (Render.runMacro (calls depth setting) t m fullName bound)
      (Render.runMacro (calls depth setting) t m fullName bound) := by
  unfold Render.runMacro
  refine (staying setting lines).runs.congruence.bind
    (Staying.inScope (Staying.inTemplate (Staying.captured ?_))) ?_
  · exact (staying setting fun _ => True).runs.congruence.macroCode Staying.assign h.body h.value m
      fullName bound
  · rintro text _ ⟨rfl, -⟩
    exact (staying setting lines).runs.congruence.done ⟨rfl, trivial⟩

theorem runDefinition {name : String} {chain : BlockChain} {position : Int} :
    (staying setting lines).runs.congruence.rel Eq
      (Render.runDefinition (calls depth setting) setting name chain position)
      (Render.runDefinition (calls depth setting) setting name chain position) := by
  unfold Render.runDefinition
  split
  · exact (staying setting lines).runs.congruence.failure _
  · rename_i owner b _
    refine (staying setting lines).runs.congruence.bind
      ((staying setting lines).runs.congruence.ofProblem (p := fun _ => True) (fun _ _ => trivial)
        fun _ hq e he => absurd he (ne_runtime_of_template hq e)) ?_
    rintro t _ ⟨rfl, -⟩
    exact Staying.inTemplate (Staying.inScope (h.body b.body))

theorem runBlock (name : String) (body : List Node) :
    (staying setting lines).runs.congruence.rel Eq
      (Render.runBlock (calls depth setting) setting name body)
      (Render.runBlock (calls depth setting) setting name body) := by
  unfold Render.runBlock
  refine (staying setting lines).runs.congruence.bind (staying setting lines).runs.state ?_
  rintro s _ ⟨_, rfl, -⟩
  split
  · refine (staying setting lines).runs.congruence.bind Staying.active ?_
    rintro running _ ⟨rfl, -⟩
    exact h.runDefinition
  · exact h.runDefinition

theorem runSuper : (staying setting lines).runs.congruence.rel Eq
    (Render.runSuper (calls depth setting) setting)
    (Render.runSuper (calls depth setting) setting) := by
  unfold Render.runSuper
  refine (staying setting lines).runs.congruence.bind (staying setting lines).runs.state ?_
  rintro s _ ⟨_, rfl, -⟩
  split
  · exact (staying setting lines).runs.congruence.ite (fun _ => h.runDefinition) fun _ =>
      (staying setting lines).runs.congruence.raise _
  · exact (staying setting lines).runs.congruence.raise _

theorem runTemplate (t : Template) : (staying setting lines).runs.congruence.rel Eq
    (Render.runTemplate (calls depth setting) setting t)
    (Render.runTemplate (calls depth setting) setting t) := by
  have hentry (t : Template) : (staying setting lines).runs.congruence.rel Eq
      (inTemplate t.name (inScope (.root t) ((calls depth setting).body t.document.body)))
      (inTemplate t.name (inScope (.root t) ((calls depth setting).body t.document.body))) :=
    Staying.inTemplate (Staying.inScope (h.body t.document.body))
  unfold Render.runTemplate
  split
  · refine (staying setting lines).runs.congruence.bind
      ((staying setting lines).runs.congruence.ofProblem (p := fun _ => True) (fun _ _ => trivial)
        fun _ hq e he => absurd he (ne_runtime_of_template hq e)) ?_
    rintro u _ ⟨rfl, -⟩
    exact hentry u
  · exact hentry t

theorem runInclude (names : List String) (ignoreMissing : Bool) :
    (staying setting lines).runs.congruence.rel Eq
      (Render.runInclude (Render.runTemplate (calls depth setting) setting) setting names
        ignoreMissing)
      (Render.runInclude (Render.runTemplate (calls depth setting) setting) setting names
        ignoreMissing) := by
  refine (staying setting lines).runs.congruence.runInclude
    (fun {_ t} _ => Staying.allowing (h.runTemplate t)) names ignoreMissing fun _ _ => ?_
  rintro _ ⟨⟩

/-- What a statement refers to stays in the place, and what it evaluates notes no lines. -/
def statements (lines : Int → Prop) : Statements (linked (calls depth setting) setting)
    (linked (calls depth setting) setting) setting setting where
  toCongruence := (staying setting lines).runs.congruence
  node := fun _ => True
  value := fun _ => True
  holds := fun _ _ => True
  hereditary := Value.Hereditary.trivial
  const := fun _ => trivial
  find := (staying setting lines).find
  undefinedAt := (staying setting lines).undefinedAt
  lookup := .refl setting
  function := fun _ hc _ _ => (staying setting lines).runs.congruence.invoke rfl
    (fun _ _ => trivial) (fun _ => Staying.exhausted) (Staying.allows hc)
  filter := fun _ hc _ _ _ => (staying setting lines).runs.congruence.invoke rfl
    (fun _ _ => trivial) (fun _ => Staying.exhausted) (Staying.allows hc)
  test := fun _ hc _ _ => (staying setting lines).runs.congruence.mono
    ((staying setting lines).runs.congruence.invoke (p := fun _ => True) rfl (fun _ _ => trivial)
      (fun _ => Staying.exhausted) (Staying.allows hc))
    fun _ _ hv => hv.1
  findMacro := fun {_ space name _ _} _ => (staying setting lines).runs.congruence.mono
    (V := fun x y => x = y ∧ _) ((Staying.lookups setting lines).findMacro space name)
    fun _ _ hm => ⟨hm.1, trivial⟩
  runMacro := fun _ _ => h.runMacro _ _ _ _
  statement := fun _ => True
  template := fun _ => True
  agree := fun s t => ∃ i, (staying setting lines).runs.states i s t
  state := (staying setting lines).runs.state
  pending := fun ⟨_, hst, _⟩ => congrArg RenderState.pending hst
  active := Staying.active
  proceed := (staying setting lines).proceed
  requested := (staying setting lines).requested
  request := Staying.request
  iteration := fun _ _ hm => Staying.inScope hm
  data := fun _ => Staying.write _
  raw := fun _ => Staying.write _
  print := fun _ => (staying setting lines).runs.congruence.print
    (fun {s} (_ : True) => Staying.write s) (fun _ _ => trivial) (fun _ => trivial)
    fun _ _ => trivial
  assign := fun _ => Staying.assign _ _
  assignWide := fun _ => Staying.assignWide _ _
  filterBlock := fun _ hm hargs hnamed => (staying setting lines).runs.congruence.runFilter rfl
    Staying.write (Staying.captured hm) hargs hnamed (fun _ _ => Staying.exhausted)
    fun _ hc => Staying.allows hc
  block := fun _ => h.runBlock _ _
  super := fun _ => h.runSuper
  included := fun _ => h.runInclude _ _

/-- Statements keep the lines among which their own are. -/
def situations (lines : Int → Prop) : Situations Unit (linked (calls depth setting) setting)
    (linked (calls depth setting) setting) setting setting where
  statements _ := h.statements lines
  stands _ n := ∀ k, n.Holds k → k.pos.line ≠ 0 → lines k.pos.line
  within _ _ := ()
  statement _ := trivial
  operands _ _ _ _ _ := trivial
  inner hn _ hm k hk := hn k (.inner hm hk)
  atLine hn hxy := (staying setting lines).runs.congruence.seq (Staying.atLine (hn _ .self)) hxy

theorem exec (lines : Int → Prop) {n : Node}
    (hn : ∀ k, n.Holds k → k.pos.line ≠ 0 → lines k.pos.line) :
    (staying setting lines).runs.congruence.rel Eq
      (Render.exec (linked (calls depth setting) setting) setting n)
      (Render.exec (linked (calls depth setting) setting) setting n) :=
  (h.situations lines).exec (i := ()) n hn

theorem execAll (lines : Int → Prop) {ns : List Node}
    (hns : ∀ n ∈ ns, ∀ k, n.Holds k → k.pos.line ≠ 0 → lines k.pos.line) :
    (staying setting lines).runs.congruence.rel Eq
      (Render.execAll (linked (calls depth setting) setting) setting ns)
      (Render.execAll (linked (calls depth setting) setting) setting ns) :=
  (h.situations lines).execAll (i := ()) ns hns

theorem eval (lenient : Bool) (n : Node) :
    (staying setting lines).runs.congruence.rel (Same fun _ => True)
      (Render.eval (linked (calls depth setting) setting) setting lenient n)
      (Render.eval (linked (calls depth setting) setting) setting lenient n) :=
  (staying setting lines).runs.congruence.mono
    ((h.statements lines).eval lenient n fun _ _ => trivial) fun _ _ hv => ⟨hv.1, trivial⟩

/-- What a loop evaluates before its rounds notes no line. -/
theorem selection (target : String) (iter : Node) (key : Option String)
    (condition : Option Node) : (staying setting lines).runs.congruence.rel (Same fun _ => True)
      (Render.selection (linked (calls depth setting) setting) setting target iter key condition)
      (Render.selection (linked (calls depth setting) setting) setting target iter key
        condition) := by
  unfold Render.selection
  refine (staying setting lines).runs.congruence.bind (h.eval false iter) ?_
  rintro container _ ⟨rfl, -⟩
  refine (staying setting lines).runs.congruence.bind
    ((staying setting lines).runs.congruence.ofUnplaced (p := fun _ => True) (fun _ _ => trivial)
      (plainly_pairs _ _ _)) ?_
  rintro found _ ⟨rfl, -⟩
  refine (staying setting lines).runs.congruence.bind Staying.active ?_
  rintro running _ ⟨rfl, -⟩
  cases condition with
  | none => exact (staying setting lines).runs.congruence.done ⟨rfl, trivial⟩
  | some c =>
    refine (staying setting lines).runs.congruence.bind
      ((staying setting lines).runs.congruence.filterPairs (q := fun _ => True)
        (fun _ _ => Staying.inScope (h.eval true c)) 0 found (by simp [Leads.looping])
        fun _ _ => trivial) ?_
    rintro kept _ ⟨rfl, -⟩
    exact (staying setting lines).runs.congruence.done ⟨rfl, trivial⟩

/-- Nor does what a filter block evaluates after its body. -/
theorem applyFilter (name : String) (args : List Node) (named : List (String × Node))
    (text : String) : (staying setting lines).runs.congruence.rel Eq
      (Render.applyFilter (linked (calls depth setting) setting) setting name args named text)
      (Render.applyFilter (linked (calls depth setting) setting) setting name args named
        text) := by
  let S := h.statements lines
  have hargs := S.strictEach (S.evalEach false args fun _ _ _ _ => trivial)
  have hnamed := S.strictNamed (S.evalNamed named fun _ _ _ _ => trivial)
  unfold Render.applyFilter
  refine S.arguments hargs hnamed fun vs ns _ _ => ?_
  refine S.bind (S.ofUnplaced (fun c hc => hc) (setting.env.plainly_lookup _ _)) ?_
  rintro c _ ⟨rfl, hc⟩
  refine S.bind (S.invoke (p := fun _ => True) rfl (fun _ _ => trivial)
    (fun _ => Staying.exhausted) (Staying.allows hc)) ?_
  rintro v _ ⟨rfl, -⟩
  refine S.bind (S.ofPlain (p := fun _ => True) (fun _ _ => trivial) (Value.plainly_display _)) ?_
  rintro s _ ⟨rfl, -⟩
  exact Staying.write s

end

end Started

/-- However deep calls nest, what they start stays in its place. -/
theorem started (setting : Setting) (depth : Nat) : Started setting depth := by
  induction depth with
  | zero => exact ⟨fun _ => Staying.exhausted, fun _ => Staying.exhausted⟩
  | succ depth ih => exact ⟨fun _ => ih.execAll _ fun _ _ _ _ _ => trivial, ih.eval false⟩

/-! ### The line of a statement that fails -/

theorem inner_hollow (n : Node) : n.hollow.inner = [] := by
  cases n <;> simp [Node.hollow, Node.inner]

theorem pos_hollow (n : Node) : n.hollow.pos = n.pos := by
  cases n <;> rfl

/-- Without its bodies a statement holds no other one. -/
theorem eq_of_holds_hollow {n k : Node} (h : n.hollow.Holds k) : k = n.hollow := by
  cases h with
  | self => rfl
  | inner hm _ => simp [inner_hollow] at hm

section

variable {setting : Setting} {depth : Nat} {here : Location} {s t u v : RenderState}

/-- The rounds of a loop come to its body in the place of the loop. -/
theorem RoundAt.stays {running : Template} {body : Render Unit} {l : Loop} {i remaining : Nat}
    (h : RoundAt running body l i remaining s u)
    (hbody : (staying setting fun _ => True).runs.congruence.rel Eq body body)
    (hs : (staying setting fun _ => True).holds here s) :
    (staying setting fun _ => True).holds here u := by
  induction h with
  | now hpush => exact hs
  | later hround _ _ ih =>
    have hkept := (staying setting fun _ => True).runs.congruence.seq hbody
      (staying setting fun _ => True).requested
    have ht := Invariant.holds_of_ok _ (Staying.inScope hkept) hs hround
    exact ih ht

/-- A statement begins its bodies in its place. -/
theorem Begins.stays {n : Node} {body : List Node}
    (h : Begins (linked (calls depth setting) setting) setting n s body t)
    (hs : (staying setting fun _ => True).holds here s) :
    (staying setting fun _ => True).holds here t := by
  induction h with
  | chosen hv _ => exact Invariant.holds_of_ok _ ((started setting depth).eval true _) hs hv
  | other hv _ _ ih =>
    exact ih (Invariant.holds_of_ok _ ((started setting depth).eval true _) hs hv)
  | otherwise hv _ => exact Invariant.holds_of_ok _ ((started setting depth).eval true _) hs hv
  | empty hkept =>
    exact Invariant.holds_of_ok _ ((started setting depth).selection _ _ _ _) hs hkept
  | round hkept hround =>
    refine hround.stays ((started setting depth).execAll _ fun _ _ _ _ _ => trivial) ?_
    exact Invariant.holds_of_ok _ ((started setting depth).selection _ _ _ _) hs hkept
  | filtered => exact ⟨hs.1, .buffer, hs.2.2⟩

/-- A body comes to its statements in its place, at their lines. -/
theorem Comes.stays {n : Node} {body : List Node}
    (h : Comes (linked (calls depth setting) setting) setting body s n u) (hline : n.pos.line ≠ 0)
    (hs : (staying setting fun _ => True).holds here s) :
    (staying setting (· = n.pos.line)).holds here u := by
  have hlined (n : Node) {s : RenderState} (hs : (staying setting fun _ => True).holds here s) :
      (staying setting fun _ => True).holds here (Leads.lined n s) :=
    Invariant.holds_of_ok _ (Staying.atLine fun _ => trivial) hs (Leads.atLine_eq n s)
  induction h with
  | @here n rest s =>
    obtain ⟨htemplate, hsink, line, -, hplace⟩ := hs
    unfold Leads.lined atLine
    rw [if_neg hline]
    refine ⟨htemplate, hsink, n.pos.line, rfl, ?_⟩
    change s.place.map _ = _
    rw [hplace]
    rfl
  | next hn _ _ ih =>
    exact ih hline (Invariant.holds_of_ok _ ((started setting depth).exec _ fun _ _ _ => trivial)
      (hlined _ hs) hn)
  | inside hn _ ih => exact ih hline (hn.stays (hlined _ hs))

/-- A statement halts at its line by what it evaluates itself, and a filter block at the line that
    its body has left. -/
theorem Fails.stays {n : Node} {h : Halt}
    (hn : Fails (linked (calls depth setting) setting) setting n u h v) (hline : n.pos.line ≠ 0)
    (hu : (staying setting (· = n.pos.line)).holds here u) :
    ∃ line, line ≠ 0 ∧ (staying setting (· = line)).remains here h v ∧
      (n.isFilterBlock = false → line = n.pos.line) ∧
      ∀ p name inner args named, n = .filterBlock p name inner args named →
        (line = n.pos.line ∨ ∃ m ∈ inner, ∃ k, m.Holds k ∧ k.pos.line = line) ∧ ∃ text w,
          captured (execAll (linked (calls depth setting) setting) setting inner) u =
            (.ok text, w) ∧ w.place = some { here with line } := by
  cases hn with
  | alone hn hfails =>
    have hkept := (started setting depth).exec (· = n.pos.line) (n := n.hollow)
      fun k hk _ => by rw [eq_of_holds_hollow hk, pos_hollow]
    refine ⟨n.pos.line, hline, Invariant.remains_of_error _ hkept hu hfails, fun _ => rfl, ?_⟩
    rintro p name inner args named rfl
    cases hn
  | @filter p name body args named _ text w _ _ hbody hfails =>
    -- the body begins at the line of the block and notes those of its statements
    let lines (line : Int) : Prop :=
      line ≠ 0 ∧ (line = p.line ∨ ∃ m ∈ body, ∃ k, m.Holds k ∧ k.pos.line = line)
    have hbegun : (staying setting lines).holds here u := by
      obtain ⟨htemplate, hsink, line, rfl, hplace⟩ := hu
      exact ⟨htemplate, hsink, _, ⟨hline, .inl rfl⟩, hplace⟩
    have hkept := (started setting depth).execAll lines
      fun m (hm : m ∈ body) k hk hnonzero => ⟨hnonzero, .inr ⟨m, hm, k, hk, rfl⟩⟩
    obtain ⟨htemplate, hsink, line, ⟨hnonzero, hleft⟩, hplace⟩ :=
      Invariant.holds_of_ok _ (Staying.captured hkept) hbegun hbody
    refine ⟨line, hnonzero, ?_, (fun hn => by cases hn), ?_⟩
    · exact Invariant.remains_of_error _ ((started setting depth).applyFilter name args named text)
        ⟨htemplate, hsink, line, rfl, hplace⟩ hfails
    · rintro _ _ _ _ _ ⟨⟩
      exact ⟨hleft, text, w, hbody, hplace⟩

/-- Sections that are no code of a template leave a halt as it is, and its place but for the
    includes that are open. -/
theorem leaveAll_of_no_code {h : Halt} {K : List Section} (hK : K.any Section.isCode = false)
    (hplace : v.place = some here) : (Section.leaveAll K (h, v)).1 = h ∧ ∃ includeDepth,
      (Section.leaveAll K (h, v)).2.place = some { here with includeDepth } := by
  induction K generalizing v here with
  | nil => exact ⟨rfl, here.includeDepth, hplace⟩
  | cons b K ih =>
    obtain ⟨hb, hK⟩ := Bool.or_eq_false_iff.1 (List.any_cons.symm.trans hK)
    cases b with
    | scope f => exact ih hK (v := popped v) hplace
    | capture sink chunks => exact ih hK (v := { v with sink, chunks }) hplace
    | code name outer => cases hb
    | inclusion t =>
      have hdeeper : deeper (-1) v.place =
          some { here with includeDepth := here.includeDepth + -1 } := by
        rw [hplace]
        rfl
      have hrest := ih hK
        (v := { v with targets := v.targets.drop 1, place := deeper (-1) v.place }) hdeeper
      exact hrest

/-- The error that leaves the innermost code of a template is told by the whole render. -/
theorem run_of_leads {k : Render Unit} {page : Template} {context : Context} {sink : Sink}
    {K K' : List Section} {name : String} {outer : Location} {h : Halt} {e : RuntimeError}
    (hleads : Leads k s (runTemplate (calls maxDepth setting) setting page)
      (begun setting page context sink) (K ++ .code name outer :: K'))
    (hK : K.any Section.isCode = false) (hk : k s = (.error h, t)) (hplace : t.place = some here)
    (he : located here h = .problem (.template (.runtime e))) (htemplate : e.template ≠ none)
    (hline : e.line.getD 0 ≠ 0) :
    ∃ e', (run setting page context sink).result = .error (.template (.runtime e')) ∧
      e'.template = e.template ∧ e'.line = e.line := by
  have hrun := hleads.halts hk
  obtain ⟨hsame, includeDepth, hhere⟩ := leaveAll_of_no_code (h := h) hK hplace
  -- other sections pass the error on; the innermost code puts its place in, which all keep
  have hcode : Section.leaveAll (K ++ .code name outer :: K') (h, t) = Section.leaveAll K'
      (relocated (Section.leaveAll K (h, t)).2 (Section.leaveAll K (h, t)).1,
        left outer (Section.leaveAll K (h, t)).2) := by
    simp [Section.leaveAll, Section.leave]
  have hrelocated : relocated (Section.leaveAll K (h, t)).2 (Section.leaveAll K (h, t)).1 =
      .problem (.template (.runtime e)) := by
    rw [relocated_of_place hhere, hsame, ← he]
    rfl
  obtain ⟨line, hpassed, hkept⟩ := leaveAll_runtime htemplate K'
    (s := left outer (Section.leaveAll K (h, t)).2) (by rw [left_of_place hhere])
  rw [hcode, hrelocated, hpassed] at hrun
  have hresult : (run setting page context sink).result =
      (runTemplate (calls maxDepth setting) setting page
        (begun setting page context sink)).1.mapError problemOf := rfl
  rw [hrun] at hresult
  exact ⟨_, hresult, rfl, hkept hline⟩

end

/-- The state in which a whole render begins the body of a template without parents. -/
def begunBody (setting : Setting) (t : Template) : RenderState :=
  let s := begun setting t {} .buffer
  { s with
    place := some (Location.enter { limit := setting.env.includeLimit } t.name)
    stack := { s.stack with frames := .root t :: s.stack.frames } }

theorem leads_begunBody (setting : Setting) {t : Template} (h : t.parents = []) :
    Leads (execAll (linked (calls 3999 setting) setting) setting t.document.body)
      (begunBody setting t) (runTemplate (calls maxDepth setting) setting t)
      (begun setting t {} .buffer)
      ([.scope (.root t)] ++ [.code t.name { limit := setting.env.includeLimit }]) :=
  .template h rfl (.body (d := 3999) .here)

end Render

namespace Environment

/-- A page in which a name is looked up that is not bound, after a branch that has been taken. -/
def lookingUp : Template :=
  { name := "page.txt"
    document := { body := [
      .branch ⟨1, 0⟩ (.const ⟨1, 0⟩ (.bool true)) [.data ⟨2, 0⟩ "a"] [] [],
      .output ⟨3, 0⟩ (.name ⟨3, 0⟩ "x")] } }

/-- A page with a filter block on whose line a name is looked up that is not bound. -/
def filtering : Environment :=
  holding [("page.txt", { body := [.filterBlock ⟨1, 0⟩ "upper" [.data ⟨2, 0⟩ "a"]
    [.name ⟨1, 0⟩ "x"] []] })]

end Environment
end Stencil
