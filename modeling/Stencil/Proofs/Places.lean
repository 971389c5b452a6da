import Stencil.Proofs.Fragment
import Stencil.Proofs.Inheritance
import Stencil.Proofs.Reach
import Stencil.Proofs.Refusals

/-! Errors tell where they arose. While a fragment runs, the place of the render is in the template
    that the fragment belongs to, the trail is the one by which the fragment was come to, and the
    line is that of one of its statements. An error that leaves the fragment has therefore arisen at
    this place, or it tells a way from here on. The lines of callers only get into an error that
    arises while the parameters of a macro are bound, where no line is known. -/

namespace Stencil

open Lineage Render

/-- No error of a capability says where it arose, as one of a render would that it has started. -/
def Environment.Unplacing (env : Environment) : Prop :=
  ∀ kind name c, env.lookup kind name = .ok c → ∀ args named render e,
    c.call { args, named, render } = .error (.problem (.template (.runtime e))) → e.Unplaced

namespace Fragment

/-- Where in a fragment a computation belongs. -/
inductive Site where
  | body
  | spot (n : Option Node)

/-- The lines at a site: any of the statements of a body. -/
def lines (a : Fragment) : Site → Int → Prop
  | .body, line => ∃ n, a.At (some n) line
  | .spot n, line => a.At n line

/-- The nodes that are run at a site itself. -/
def nodes (a : Fragment) : Site → List Node
  | .body => []
  | .spot n => a.parts n

theorem at_of_lines {a : Fragment} {x : Site} {line : Int} (h : a.lines x line) :
    ∃ n, a.At n line := by
  cases x with
  | body =>
    obtain ⟨n, hn⟩ := h
    exact ⟨some n, hn⟩
  | spot n => exact ⟨n, h⟩

end Fragment

/-- A render is in a fragment to which it has come by a trail. -/
structure Placed (ts : Table Template) (a : Fragment) (trail : List Step) (lines : Int → Prop)
    (s : RenderState) : Prop extends
    s.Admitted (Registered ts) (fun _ => True) (fun _ => True) where
  sink : s.sink.Offered
  placed : ∃ line, lines line ∧ s.Stands a.name line trail

theorem Placed.mono {ts : Table Template} {a : Fragment} {trail : List Step}
    {lines lines' : Int → Prop} {s : RenderState} (h : Placed ts a trail lines s)
    (hlines : ∀ line, lines line → lines' line) : Placed ts a trail lines' s := by
  obtain ⟨line, hline, hs⟩ := h.placed
  exact { h with placed := ⟨line, hlines line hline, hs⟩ }

/-- An error in a fragment has arisen here, or it has come out of a fragment that is opened here. -/
inductive Raised (setting : Setting) (a : Fragment) (n : Option Node) (here : Location)
    (e : RuntimeError) : Prop
  | here (h : e.Unplaced ∨ e.At here)
  | inside {k b spots} (hk : k ∈ a.parts n) (hopens : a.standpoint.Opens setting.templates k b)
    (h : Way setting (here.trail ++ [(some a.name, here.line)]) b e spots)

/-- A render halts in a fragment to which it has come by a trail. -/
def Halted (setting : Setting) (a : Fragment) (trail : List Step) (h : Halt) (s : RenderState) :
    Prop :=
  ∃ here, s.place = some here ∧ here.template = some a.name ∧ here.trail = trail ∧
    (h ≠ .exhausted → ∃ n, a.At n here.line ∧
      ∀ e, h = .problem (.template (.runtime e)) → Raised setting a n here e)

/-- A computation in a fragment has ended or halted there. -/
def Ended (setting : Setting) (a : Fragment) (trail : List Step) :
    Except Halt α × RenderState → Prop
  | (.ok _, s) => Placed setting.templates a trail (fun _ => True) s
  | (.error h, s) => Halted setting a trail h s

/-- The whole fragment has ended or halted. -/
def Finished (setting : Setting) (a : Fragment) (trail : List Step)
    (x : Except Halt α × RenderState) : Prop :=
  Ended setting a trail x ∧
    ∀ h line, x.1 = .error h → x.2.Stands a.name line trail → a.Halts setting trail line h

/-- What is filled in when code of a template is left is that of a spot. -/
theorem Fragment.located_place {a : Fragment} {here : Location}
    (hname : here.template = some a.name) (h : Halt) :
    Render.located (a.place here.line here.trail) h = Render.located here h := by
  unfold Render.located Location.knownLine Fragment.place
  rw [hname]

/-- An error that leaves a fragment has come a way that begins there. -/
theorem way_of_located {setting : Setting} {a : Fragment} {here : Location} {h : Halt}
    {e : RuntimeError} (hname : here.template = some a.name)
    (hhalts : a.Halts setting here.trail here.line h)
    (hraised : h ≠ .exhausted → ∃ n, a.At n here.line ∧
      ∀ e, h = .problem (.template (.runtime e)) → Raised setting a n here e)
    (he : Render.located here h = .problem (.template (.runtime e))) :
    ∃ spots, Way setting here.trail a e spots := by
  obtain ⟨n, hn, hraised⟩ := hraised (by rintro rfl; cases he)
  rw [← Fragment.located_place hname] at he
  by_cases harises : h.Arises here
  · exact ⟨_, .last hn hhalts (fun e he => (harises e he).imp id fun h =>
      ⟨h.template.trans hname, h.line, h.trail⟩) he⟩
  · unfold Halt.Arises at harises
    push Not at harises
    obtain ⟨inner, rfl, hnot⟩ := harises
    cases hraised inner rfl with
    | here h => exact absurd h (by simpa using hnot)
    | inside hk hopens hway =>
      cases he
      exact ⟨_, .on hn hhalts hk hopens hway⟩

namespace Render

/-! ### The invariant -/

/-- Renders that stay in a fragment, at a site. -/
def placing (setting : Setting) (a : Fragment) (x : Fragment.Site) : Invariant (List Step) where
  holds trail s := Placed setting.templates a trail (a.lines x) s
  remains trail h s := Halted setting a trail h s
  problem q := ∀ e, q = .template (.runtime e) → e.Unplaced
  plain := by
    rintro _ hplain e rfl
    exact hplain
  remains_of_holds := by
    intro trail s q hq hs
    obtain ⟨line, hline, here, hhere, hname, rfl, htrail⟩ := hs.placed
    obtain ⟨n, hn⟩ := Fragment.at_of_lines hline
    refine ⟨here, hhere, hname, htrail, fun _ => ⟨n, hn, fun e he => .here ?_⟩⟩
    cases hq with
    | anywhere hq => exact Or.inl (hq e (Halt.problem.inj he))
    | here hplace hat =>
      obtain rfl := eq_of_runtime_eq he
      obtain rfl := Option.some.inj (hhere.symm.trans hplace)
      exact Or.inr hat
  waiting _ h := { h with }

namespace Placing

variable {setting : Setting} {a b : Fragment} {x : Fragment.Site} {α : Type} {V : α → α → Prop}
  {m n : Render α}

theorem reaching : (placing setting a x).Reaching (Registered setting.templates) (fun _ => True)
    (fun _ => True) where
  admitted h := h.toAdmitted
  altered _ _ h hs := { hs with sink := h.sink, placed := h.placed }
  abandoned _ _ h _ := h

theorem exhausted : (placing setting a x).runs.congruence.rel V (halt .exhausted)
    (halt .exhausted) := by
  refine (placing setting a x).exhausted fun hs => ?_
  obtain ⟨line, -, here, hhere, hname, -, htrail⟩ := hs.placed
  exact ⟨here, hhere, hname, htrail, fun h => absurd rfl h⟩

theorem write (text : String) :
    (placing setting a x).runs.congruence.rel Eq (Render.write text) (Render.write text) := by
  refine (placing setting a x).write (fun _ _ _ hs _ => { hs with }) fun _ _ q hs hq => ?_
  exact (placing setting a x).plain (hs.sink.plainly _ _ q hq)

theorem captured {m n : Render Unit}
    (h : (placing setting a x).runs.congruence.rel Eq m n) :
    (placing setting a x).runs.congruence.rel (Same fun _ => True) (Render.captured m)
      (Render.captured n) :=
  (placing setting a x).captured (J := placing setting a x)
    (fun trail _ hs => ⟨trail, { hs with sink := .buffer },
      fun _ hu => ⟨trivial, { hu with sink := hs.sink }⟩, fun _ _ hu => hu⟩) h

theorem request (signal : Signal) : (placing setting a x).runs.congruence.rel Eq
    (Render.request signal) (Render.request signal) :=
  (placing setting a x).request signal fun _ s hs =>
    reaching.altered _ s.targets hs ((reaching.admitted hs).interrupted signal)

/-- An included template is rendered at another depth of includes. -/
theorem allowing {t : Template} (ht : Registered setting.templates t)
    (h : (placing setting a x).runs.congruence.rel V m n) :
    (placing setting a x).runs.congruence.rel V (Render.allowing t m) (Render.allowing t n) := by
  have deepened {trail : List Step} {lines : Int → Prop} {u : RenderState} (step : Int)
      (hu : Placed setting.templates a trail lines u) :
      Placed setting.templates a trail lines { u with place := deeper step u.place } := by
    obtain ⟨line, hline, here, hhere, hname, hat, htrail⟩ := hu.placed
    exact { hu with
      placed := ⟨line, hline, { here with includeDepth := here.includeDepth + step },
        by rw [deeper, hhere]; rfl, hname, hat, htrail⟩ }
  refine (placing setting a x).allowing (fun trail s here hs _ _ =>
    ⟨trail, ?_, fun u hu => ?_, fun k u hu => ?_⟩) h
  · exact deepened 1 (reaching.altered s.stack _ hs ((reaching.admitted hs).included ht))
  · exact deepened (-1) (reaching.altered u.stack _ hu (reaching.admitted hu).excluded)
  · obtain ⟨here, hhere, hname, htrail, hraised⟩ := hu
    refine ⟨{ here with includeDepth := here.includeDepth + -1 }, by rw [deeper, hhere]; rfl, hname,
      htrail, fun hk => ?_⟩
    obtain ⟨n, hn, hraised⟩ := hraised hk
    refine ⟨n, hn, fun e he => ?_⟩
    cases hraised e he with
    | here h => exact .here (h.imp id fun h => ⟨h.template, h.line, h.trail⟩)
    | inside hk hopens hway => exact .inside hk hopens hway

/-- A call of a capability, whose errors do not say where they arose. -/
theorem allows (hhost : setting.env.Unplacing) {render : String → Except Halt String}
    {kind : CapabilityKind} {name : String} {c : Capability}
    (hc : setting.env.lookup kind name = .ok c) :
    (placing setting a x).runs.congruence.Allows render kind c := by
  rintro args named p q hp hq e rfl
  obtain hunplaced | rfl := unplaced_or_eq_of_calledBy hq
  · exact hunplaced
  · exact hhost kind name c hc _ _ _ _ hp

/-- The search for macros meets registered templates. -/
def lookups (setting : Setting) (a : Fragment) (x : Fragment.Site) : Lookups setting where
  toCongruence := (placing setting a x).runs.congruence
  template := Registered setting.templates
  agree := fun s t => ∃ i, (placing setting a x).runs.states i s t
  registered := setting.registered
  state := (placing setting a x).runs.state
  target := reaching.target
  active := reaching.active
  ancestor := fun _ _ hq e he => absurd he (ne_runtime_of_template hq e)
  imported := fun _ _ hq e he => absurd he (ne_runtime_of_templateOf hq e)

/-! ### Fragments that are opened -/

/-- A fragment finishes in a scope of its own as it does elsewhere. -/
theorem finished_inScope {trail : List Step} {f : Frame} {m : Render α} {s : RenderState}
    (hf : f.Admitted (Registered setting.templates) (fun _ => True) fun _ => True)
    (hcall : f.kind.isCall = false)
    (hm : ∀ s, Placed setting.templates a trail (· = 0) s → Finished setting a trail (m s))
    (hs : Placed setting.templates a trail (· = 0) s) :
    Finished setting a trail (Render.inScope f m s) := by
  obtain ⟨stack, hpush⟩ : ∃ stack, s.stack.push f = .ok stack := by
    unfold CallStack.push
    rw [if_neg (by simp [hcall])]
    exact ⟨_, rfl⟩
  have hfinished := hm { s with stack }
    { hs.toAdmitted.pushed hf hpush with sink := hs.sink, placed := hs.placed }
  unfold Render.inScope Render.ensuring
  rw [hpush]
  dsimp only
  generalize m _ = y at hfinished ⊢
  obtain ⟨r, t⟩ := y
  cases r with
  | ok c =>
    have hinside : Placed setting.templates a trail (fun _ => True) t := hfinished.1
    exact ⟨{ hinside.toAdmitted.popped with sink := hinside.sink, placed := hinside.placed },
      fun _ _ h => nomatch h⟩
  | error h => exact hfinished

/-- A fragment finishes in a buffer of its own as it does elsewhere. -/
theorem finished_captured {trail : List Step} {m : Render Unit} {s : RenderState}
    (hm : ∀ s, Placed setting.templates a trail (· = 0) s → Finished setting a trail (m s))
    (hs : Placed setting.templates a trail (· = 0) s) :
    Finished setting a trail (Render.captured m s) := by
  have hfinished := hm { s with sink := .buffer, chunks := [] } { hs with sink := .buffer }
  unfold Render.captured
  generalize m _ = y at hfinished ⊢
  obtain ⟨r, t⟩ := y
  cases r with
  | ok c =>
    have hinside : Placed setting.templates a trail (fun _ => True) t := hfinished.1
    exact ⟨{ hinside with sink := hs.sink }, fun _ _ h => nomatch h⟩
  | error h =>
    obtain ⟨hhalted, hhalts⟩ := hfinished
    refine ⟨hhalted, fun k line hk => ?_⟩
    cases hk
    exact hhalts h line rfl

/-- A fragment that a node opens at a spot is run as code of its template. -/
theorem inTemplate {o : Option Node} {k : Node} {m : Render α} (hV : ∀ c, V c c)
    (hk : k ∈ a.parts o) (hopens : a.standpoint.Opens setting.templates k b)
    (hm : ∀ trail s, Placed setting.templates b trail (· = 0) s → Finished setting b trail (m s)) :
    (placing setting a (.spot o)).runs.congruence.rel V (Render.inTemplate b.name m)
      (Render.inTemplate b.name m) := by
  rintro trail s _ ⟨rfl, hs⟩
  obtain ⟨line, hline, outer, hplace, hname, rfl, rfl⟩ := hs.placed
  have hfinished := hm (outer.trail ++ [(some a.name, outer.line)])
    { s with place := some (outer.enter b.name) }
    { hs with placed := ⟨0, rfl, outer.enter b.name, rfl, rfl, rfl, by simp [Location.enter, hname]⟩ }
  rw [inTemplate_of_place hplace]
  generalize m _ = y at hfinished ⊢
  obtain ⟨r, t⟩ := y
  have hleft {here : Location} (htrail : here.trail = outer.trail ++ [(some a.name, outer.line)]) :
      (here.leave (outer.template, outer.line)).trail = outer.trail := by
    simp [Location.leave, hname, htrail]
  -- the code ends and its place is put back, or it halts and the error is located on its way out
  cases r with
  | ok c =>
    have hinside : Placed setting.templates b _ (fun _ => True) t := hfinished.1
    obtain ⟨-, -, here, hhere, -, -, htrail⟩ := hinside.placed
    rw [left_of_place hhere]
    exact .done (hV c) ⟨rfl, { hinside with
      placed := ⟨outer.line, hline, _, rfl, hname, rfl, hleft htrail⟩ }⟩
  | error h =>
    obtain ⟨⟨here, hhere, hname', htrail, hraised⟩, hhalts⟩ := hfinished
    rw [left_of_place hhere]
    refine .halt ⟨rfl, rfl, _, rfl, hname, hleft htrail, fun _ => ⟨o, hline, fun e he => ?_⟩⟩
    rw [← htrail] at hhalts
    obtain ⟨spots, hway⟩ := way_of_located hname'
      (hhalts h here.line rfl ⟨here, hhere, hname', rfl, rfl⟩) hraised
      ((relocated_of_place hhere h).symm.trans he)
    rw [htrail, ← hleft htrail] at hway
    exact .inside hk hopens hway

end Placing

theorem atLine_bind {line : Int} (hline : line ≠ 0) (m : Render α) (s : RenderState) :
    (Render.atLine line >>= fun _ => m) s =
      m { s with place := s.place.map fun l => { l with line } } := by
  unfold Render.atLine
  rw [if_neg hline]
  rfl

/-- What a setting starts at some depth stays in the fragment that starts it. -/
structure Stays (setting : Setting) (depth : Nat) : Prop where
  value : ∀ a : Fragment, a.Sound setting.templates → ∀ q ∈ a.params, ∀ n, q.default = some n →
    (placing setting a (.spot none)).runs.congruence.rel (Same fun _ => True)
      ((prescribed depth setting a.standpoint).value n)
      ((prescribed depth setting a.standpoint).value n)
  body : ∀ a : Fragment, a.Sound setting.templates → ∀ trail s,
    Placed setting.templates a trail (fun _ => True) s →
      Ended setting a trail ((prescribed depth setting a.standpoint).body a.body s)

/-- What runs in a fragment ends or halts there. -/
theorem ended_of_rel {setting : Setting} {a : Fragment} {x : Fragment.Site} {trail : List Step}
    {V : α → α → Prop} {m : Render α} {s : RenderState}
    (h : (placing setting a x).runs.congruence.rel V m m)
    (hs : Placed setting.templates a trail (a.lines x) s) : Ended setting a trail (m s) := by
  have ends := h trail s s ⟨rfl, hs⟩
  generalize m s = y at ends
  cases ends with
  | done _ hu => exact hu.2.mono fun _ _ => trivial
  | halt hu => exact hu.2.2

namespace Stays

variable {setting : Setting} {depth : Nat} {a b : Fragment}

/-- A fragment binds its parameters and executes its body. -/
theorem run (h : Stays setting depth) (ha : a.Sound setting.templates) {trail : List Step}
    {s : RenderState} (hs : Placed setting.templates a trail (· = 0) s) (fullName : String)
    (bound : List (String × Value)) :
    Finished setting a trail (a.run (prescribed depth setting) fullName bound s) := by
  have hended : Ended setting a trail (a.run (prescribed depth setting) fullName bound s) := by
    -- a macro without parameters begins with its body, so no line is noted for the binding
    by_cases hparams : a.params = []
    · unfold Fragment.run
      rw [hparams]
      exact h.body a ha trail s (hs.mono fun _ _ => trivial)
    · have hassign : (placing setting a (.spot none)).runs.congruence.rel Eq
          (assignParams (prescribed depth setting a.standpoint) fullName bound a.params)
          (assignParams (prescribed depth setting a.standpoint) fullName bound a.params) :=
        (placing setting a (.spot none)).runs.congruence.assignParams
          (fun _ => Placing.reaching.assign trivial) (fun _ _ => trivial) a.params
          fun q hq n hn => h.value a ha q hq n hn
      have ends := hassign trail s s ⟨rfl, hs.mono fun _ hline => hline ▸ .binding hparams⟩
      change Ended setting a trail (andThen _ _ s)
      unfold andThen
      generalize assignParams _ _ _ _ s = y at ends ⊢
      cases ends with
      | done _ hu => exact h.body a ha trail _ (hu.2.mono fun _ _ => trivial)
      | halt hu => exact hu.2.2
  refine ⟨hended, fun k line hk ht => ?_⟩
  obtain ⟨-, rfl, hstands⟩ := hs.placed
  exact ⟨depth, fullName, bound, s, _, hstands, Prod.ext hk rfl, ht⟩

section

variable (h : Stays setting depth)
include h

/-- A definition of a block is a fragment that its template owns. -/
theorem enter {o : Option Node} {k : Node} {r : Running} {owner : Template} {d : Block}
    (hk : k ∈ a.parts o)
    (hopens : a.standpoint.Opens setting.templates k
      { standpoint := { a.standpoint with owner, running := some r }, body := d.body })
    (hb : Fragment.Sound setting.templates
      { standpoint := { a.standpoint with owner, running := some r }, body := d.body }) :
    (placing setting a (.spot o)).runs.congruence.rel Eq
      (a.standpoint.enter (prescribed depth setting) r owner d)
      (a.standpoint.enter (prescribed depth setting) r owner d) := by
  have hframe : Frame.Admitted (Registered setting.templates) (fun _ => True) (fun _ => True)
      (.block r.block r.position r.chain owner) :=
    ⟨hb.owner, by simp [Frame.block], by simp [Frame.block, FrameKind.loop?], fun _ => trivial⟩
  exact Placing.inTemplate (fun _ => rfl) hk hopens fun trail s hs =>
    Placing.finished_inScope hframe rfl (fun s hs => h.run hb hs "" []) hs

/-- A template starts with the fragment that is its body. -/
theorem finished_root {trail : List Step} {s : RenderState} (hb : b.Sound setting.templates)
    (hbody : b.params = []) (hs : Placed setting.templates b trail (· = 0) s) :
    Finished setting b trail (Render.inScope (.root b.standpoint.owner)
      ((prescribed depth setting b.standpoint).body b.body) s) := by
  have hframe : Frame.Admitted (Registered setting.templates) (fun _ => True) (fun _ => True)
      (.root b.standpoint.owner) :=
    ⟨hb.owner, by simp [Frame.root], by simp [Frame.root, FrameKind.loop?], by simp [Frame.root]⟩
  refine Placing.finished_inScope hframe rfl (fun s hs => ?_) hs
  have hrun := h.run hb hs "" []
  unfold Fragment.run at hrun
  rw [hbody] at hrun
  exact hrun

variable (hts : ∀ t, Registered setting.templates t → t.Numbered)
  (ha : a.Sound setting.templates)
include hts ha

theorem runInclude {p : Pos} {names : List String} {ignoreMissing : Bool} {o : Option Node}
    (hk : .include p names ignoreMissing ∈ a.parts o) :
    (placing setting a (.spot o)).runs.congruence.rel Eq
      ((a.standpoint.links (prescribed depth setting) setting).runInclude names ignoreMissing)
      ((a.standpoint.links (prescribed depth setting) setting).runInclude names ignoreMissing) := by
  change (placing setting a (.spot o)).runs.congruence.rel Eq (Render.runInclude _ _ _ _)
    (Render.runInclude _ _ _ _)
  unfold Render.runInclude
  split
  · refine (placing setting a (.spot o)).runs.congruence.ite (fun _ =>
      (placing setting a (.spot o)).runs.congruence.done rfl) fun _ =>
        (placing setting a (.spot o)).runs.congruence.halt _ ?_
    rintro _ ⟨⟩
  · -- the template that is found opens a fragment for the last one of its own lineage
    rename_i t hfound
    obtain ⟨name, -, hname⟩ := List.exists_of_findSome?_eq_some hfound
    refine Placing.allowing ⟨name, hname⟩ ?_
    unfold Standpoint.runRoot
    dsimp only
    split
    · exact (placing setting a (.spot o)).runs.congruence.done rfl
    · rename_i root hroot
      have hopens : a.standpoint.Opens setting.templates (.include p names ignoreMissing) _ :=
        .included hfound hroot
      have hb := ha.opens hts (by rintro _ _ _ ⟨⟩) hopens
      exact Placing.inTemplate (fun _ => rfl) hk hopens fun _ _ => h.finished_root hb rfl

theorem runMacro {t : Template} {m : Macro} {o : Option Node} {k : Node} (hk : k ∈ a.parts o)
    (hblock : ∀ p name body, k = .block p name body → ∀ n ∈ body, n.Numbered)
    (hopens : a.standpoint.Opens setting.templates k
      { standpoint := { a.standpoint with owner := t, running := none }, params := m.params,
        body := m.body })
    (fullName : String) (bound : List (String × Value)) :
    (placing setting a (.spot o)).runs.congruence.rel (Same fun _ => True)
      ((a.standpoint.links (prescribed depth setting) setting).runMacro t m fullName bound)
      ((a.standpoint.links (prescribed depth setting) setting).runMacro t m fullName bound) := by
  have hb := ha.opens hts hblock hopens
  have hframe : Frame.Admitted (Registered setting.templates) (fun _ => True) (fun _ => True)
      (.call m.name t) :=
    ⟨hb.owner, by simp [Frame.call], by simp [Frame.call, FrameKind.loop?], by simp [Frame.call]⟩
  refine (placing setting a (.spot o)).runs.congruence.bind (V := Same fun _ => True)
    (Placing.reaching.inScope hframe (Placing.inTemplate (fun _ => ⟨rfl, trivial⟩) hk hopens
      fun trail s hs => Placing.finished_captured (fun s hs => h.run hb hs fullName bound) hs)) ?_
  rintro text _ ⟨rfl, -⟩
  exact (placing setting a (.spot o)).runs.congruence.done ⟨rfl, trivial⟩

theorem runBlock {p : Pos} {name : String} {body : List Node} {o : Option Node}
    (hk : .block p name body ∈ a.parts o) (hbody : ∀ n ∈ body, n.Numbered) :
    (placing setting a (.spot o)).runs.congruence.rel Eq
      ((a.standpoint.links (prescribed depth setting) setting).runBlock name body)
      ((a.standpoint.links (prescribed depth setting) setting).runBlock name body) := by
  have hnumbered : ∀ p' name' body', Node.block p name body = .block p' name' body' →
      ∀ n ∈ body', n.Numbered := by
    rintro _ _ _ ⟨⟩
    exact hbody
  change (placing setting a (.spot o)).runs.congruence.rel Eq (Standpoint.runBlock _ _ _ _)
    (Standpoint.runBlock _ _ _ _)
  unfold Standpoint.runBlock
  split
  · rename_i hfound
    exact h.enter hk (.block hfound) (ha.opens hts hnumbered (.block hfound))
  · rename_i hnone
    exact h.enter hk (.own hnone) (ha.opens hts hnumbered (.own hnone))

theorem runSuper {p : Pos} {o : Option Node} (hk : .super p ∈ a.parts o) :
    (placing setting a (.spot o)).runs.congruence.rel Eq
      (a.standpoint.links (prescribed depth setting) setting).runSuper
      (a.standpoint.links (prescribed depth setting) setting).runSuper := by
  change (placing setting a (.spot o)).runs.congruence.rel Eq (Standpoint.runSuper _ _)
    (Standpoint.runSuper _ _)
  unfold Standpoint.runSuper
  split
  · exact (placing setting a (.spot o)).runs.congruence.raise _
  · rename_i r hr
    split
    · rename_i hfound
      exact h.enter hk (.super hr hfound)
        (ha.opens hts (k := .super p) (by rintro _ _ _ ⟨⟩) (.super hr hfound))
    · exact (placing setting a (.spot o)).runs.congruence.raise _

omit h hts in
/-- A macro that is found is one that the call opens. -/
theorem findMacro {x : Fragment.Site} (p : Pos) (space name : String) (args : List Node)
    (named : List (String × Node)) : (placing setting a x).runs.congruence.rel
    (Same fun y => a.standpoint.Opens setting.templates (.macroCall p space name args named)
      { standpoint := { a.standpoint with owner := y.1, running := none }, params := y.2.params,
        body := y.2.body })
    ((a.standpoint.links (prescribed depth setting) setting).findMacro space name)
    ((a.standpoint.links (prescribed depth setting) setting).findMacro space name) := by
  change (placing setting a x).runs.congruence.rel _ (Standpoint.findMacro _ _ _ _)
    (Standpoint.findMacro _ _ _ _)
  unfold Standpoint.findMacro
  split
  · split
    · rename_i m hm
      exact (placing setting a x).runs.congruence.done ⟨rfl, .call ha.owner hm fun _ => rfl⟩
    · exact (placing setting a x).runs.congruence.raise _
  · rename_i hself
    refine (placing setting a x).runs.congruence.mono
      ((Placing.lookups setting a x).findMacro space name) ?_
    rintro ⟨t, m⟩ _ ⟨rfl, ht, hm⟩
    exact ⟨rfl, .call ht hm fun h => absurd h hself⟩

/-- What the nodes at a site of a fragment refer to keeps the render there. -/
def statements (hhost : setting.env.Unplacing) (x : Fragment.Site) :
    Statements (a.standpoint.links (prescribed depth setting) setting)
      (a.standpoint.links (prescribed depth setting) setting) setting setting where
  toCongruence := (placing setting a x).runs.congruence
  node := fun k => k.isMacroCall → k ∈ a.nodes x
  value := fun _ => True
  holds := fun t m => ∃ p space name args named, .macroCall p space name args named ∈ a.nodes x ∧
    a.standpoint.Opens setting.templates (.macroCall p space name args named)
      { standpoint := { a.standpoint with owner := t, running := none }, params := m.params,
        body := m.body }
  hereditary := Value.Hereditary.trivial
  const := fun _ => trivial
  find := Placing.reaching.find Value.Hereditary.trivial
  undefinedAt := (placing setting a x).undefinedAt
  lookup := .refl setting
  function := fun _ hc _ _ => (placing setting a x).runs.congruence.invoke rfl (fun _ _ => trivial)
    (fun _ => Placing.exhausted) (Placing.allows hhost hc)
  filter := fun _ hc _ _ _ => (placing setting a x).runs.congruence.invoke rfl
    (fun _ _ => trivial) (fun _ => Placing.exhausted) (Placing.allows hhost hc)
  test := fun _ hc _ _ => (placing setting a x).runs.congruence.mono
    ((placing setting a x).runs.congruence.invoke (p := fun _ => True) rfl (fun _ _ => trivial)
      (fun _ => Placing.exhausted) (Placing.allows hhost hc))
    fun _ _ hv => hv.1
  findMacro := by
    intro p space name args named hk
    refine (placing setting a x).runs.congruence.mono (findMacro ha p space name args named) ?_
    rintro _ _ ⟨rfl, hopens⟩
    exact ⟨rfl, p, space, name, args, named, hk rfl, hopens⟩
  runMacro := by
    rintro t m fullName bound ⟨p, space, name, args, named, hk, hopens⟩ -
    cases x with
    | body => nomatch hk
    | spot o => exact h.runMacro hts ha hk (by rintro _ _ _ ⟨⟩) hopens fullName bound
  statement := fun k => x = .spot (some k) ∧ k.Numbered
  template := Registered setting.templates
  agree := fun s t => ∃ i, (placing setting a x).runs.states i s t
  state := (placing setting a x).runs.state
  pending := fun ⟨_, hst, _⟩ => congrArg RenderState.pending hst
  active := Placing.reaching.active
  proceed := (placing setting a x).proceed
  requested := (placing setting a x).requested
  request := Placing.request
  iteration := fun ht hl hm => Placing.reaching.inScope
    ⟨ht, by simp [Frame.iteration], by rintro _ ⟨⟩; exact hl, by simp [Frame.iteration]⟩ hm
  data := fun _ => Placing.write _
  raw := fun _ => Placing.write _
  print := fun _ => (placing setting a x).runs.congruence.print
    (fun {s} (_ : True) => Placing.write s) (fun _ _ => trivial) (fun _ => trivial)
    fun _ _ => trivial
  assign := fun _ => Placing.reaching.assign trivial
  assignWide := fun _ => Placing.reaching.assignWide trivial
  filterBlock := fun _ hm hargs hnamed => (placing setting a x).runs.congruence.runFilter rfl
    Placing.write (Placing.captured hm) hargs hnamed (fun _ _ => Placing.exhausted)
    fun _ => Placing.allows hhost
  block := by
    rintro p name body ⟨rfl, hn⟩
    exact h.runBlock hts ha (List.mem_cons_self ..) fun n hmem => hn.bodies hmem
  super := by
    rintro p ⟨rfl, -⟩
    exact h.runSuper hts ha (List.mem_cons_self ..)
  included := by
    rintro p names ignoreMissing ⟨rfl, -⟩
    exact h.runInclude hts ha (List.mem_cons_self ..)

/-- Statements of a fragment are executed where they stand: among those of the body, or within
    another one. -/
def situations (hhost : setting.env.Unplacing) :
    Situations Fragment.Site (a.standpoint.links (prescribed depth setting) setting)
      (a.standpoint.links (prescribed depth setting) setting) setting setting where
  statements := h.statements hts ha hhost
  stands x n := n.Numbered ∧ (∃ m ∈ a.body, m.Holds n) ∧ ∀ line, a.At (some n) line → a.lines x line
  within _ n := .spot (some n)
  statement hn := ⟨rfl, hn.1⟩
  operands := fun {_ n} _ c hc k hk hcall =>
    List.mem_cons_of_mem _ (List.mem_flatMap.2 ⟨c, hc, List.mem_filter.2 ⟨hk, hcall⟩⟩)
  inner := by
    rintro x n ⟨hn, ⟨m, hm, hholds⟩, -⟩ k hk
    have hinner : n.Holds k := .inner hk .self
    refine ⟨hn.bodies (Node.inner_subset_bodies _ hk), ⟨m, hm, hholds.trans hinner⟩, ?_⟩
    intro line hline
    cases hline with
    | statement _ _ hk => exact .statement hm hholds (hinner.trans hk)
  atLine := by
    rintro x n m m' ⟨hn, ⟨top, htop, hholds⟩, hlines⟩ hm trail s _ ⟨rfl, hs⟩
    have hs' : Placed setting.templates a trail (a.At (some n))
        { s with place := s.place.map fun l => { l with line := n.pos.line } } := by
      obtain ⟨-, -, here, hhere, hname, -, htrail⟩ := hs.placed
      exact { hs with
        placed := ⟨n.pos.line, .statement htop hholds .self, { here with line := n.pos.line },
          by rw [hhere]; rfl, hname, rfl, htrail⟩ }
    have ends := hm trail _ _ ⟨rfl, hs'⟩
    rw [atLine_bind hn.1, atLine_bind hn.1]
    generalize m _ = y, m' _ = z at ends ⊢
    cases ends with
    | done hab hu => exact .done hab ⟨hu.1, hu.2.mono hlines⟩
    | halt hu => exact .halt hu

end

end Stays

/-- A body begins in the line of its first statement. -/
theorem execAll_lined {links : Links} {setting : Setting} {n : Node} {rest : List Node}
    {s : RenderState} (hn : n.pos.line ≠ 0) : execAll links setting (n :: rest) s =
      execAll links setting (n :: rest)
        { s with place := s.place.map fun l => { l with line := n.pos.line } } := by
  rw [execAll_cons, bind_bind, atLine_bind hn, atLine_bind hn]
  cases s.place <;> rfl

/-- However deep calls nest, what they start stays in the fragment that starts it. -/
theorem stays {setting : Setting} (hts : ∀ t, Registered setting.templates t → t.Numbered)
    (hhost : setting.env.Unplacing) : ∀ depth, Stays setting depth
  | 0 =>
    { value := fun _ _ _ _ _ _ => Placing.exhausted
      body := fun a _ trail s hs => by
        obtain ⟨-, -, here, hhere, hname, -, htrail⟩ := hs.placed
        exact ⟨here, hhere, hname, htrail, fun h => absurd rfl h⟩ }
  | depth + 1 =>
    have ih := stays hts hhost depth
    { value := by
        intro a ha q hq n hn
        refine (placing setting a (.spot none)).runs.congruence.mono
          ((ih.statements hts ha hhost (.spot none)).eval false n fun k hk hcall => ?_)
          fun _ _ hv => ⟨hv.1, trivial⟩
        exact List.mem_flatMap.2 ⟨n, List.mem_filterMap.2 ⟨q, hq, hn⟩, List.mem_filter.2 ⟨hk, hcall⟩⟩
      body := by
        intro a ha trail s hs
        have hstands : ∀ n ∈ a.body, (ih.situations hts ha hhost).stands .body n :=
          fun n hn => ⟨ha.numbered n hn, ⟨n, hn, .self⟩, fun _ hline => ⟨n, hline⟩⟩
        have hall := (ih.situations hts ha hhost).execAll a.body hstands
        change Ended setting a trail (execAll _ _ a.body s)
        cases hbody : a.body with
        | nil => exact hs
        | cons n rest =>
          have hn : n ∈ a.body := by simp [hbody]
          -- the first statement notes its line at once, so the line before the body does not matter
          rw [execAll_lined (ha.numbered n hn).1, ← hbody]
          refine ended_of_rel hall ?_
          obtain ⟨-, -, here, hhere, hname, -, htrail⟩ := hs.placed
          exact { hs with
            placed := ⟨n.pos.line, ⟨n, .statement hn .self .self⟩,
              { here with line := n.pos.line }, by rw [hhere]; rfl, hname, rfl, htrail⟩ } }

/-! ### Whole renders -/

/-- What a whole render runs finishes in the body of the last template of the lineage. -/
theorem finished_runRoot {setting : Setting} {depth : Nat} (h : Stays setting depth)
    (hts : ∀ t, Registered setting.templates t → t.Numbered) {t root : Template} {name : String}
    (ht : setting.templates.get? name = some t)
    (hroot : (lineageOf setting.templates t).getLast? = some root) (context : Context)
    {sink : Sink} (hsink : sink.Offered) :
    let a : Fragment := { standpoint := ⟨lineageOf setting.templates t, root, none⟩
                          body := root.document.body }
    a.Sound setting.templates ∧
    ∀ e u, Standpoint.runRoot (prescribed depth setting) none (lineageOf setting.templates t)
        (begun setting t context sink) = (.error (.problem (.template (.runtime e))), u) →
      ∃ spots, Way setting [] a e spots := by
  intro a
  have hknown : ∀ u ∈ lineageOf setting.templates t, Registered setting.templates u :=
    fun u hu => registered_of_mem_lineageOf ht hu
  have howner := hknown root (List.mem_of_getLast? hroot)
  have ha : a.Sound setting.templates :=
    ⟨howner, hknown, by rintro _ ⟨⟩, (hts root howner).body⟩
  refine ⟨ha, fun e u hrun => ?_⟩
  -- the state in which the body of the root begins: no frames, no trail and no line yet
  have hbegin : Placed setting.templates a [] (· = 0)
      { begun setting t context sink with
        place := some (Location.enter { limit := setting.env.includeLimit } root.name) } :=
    { frames := by simp [begun, initial]
      context := trivial
      targets := by
        rintro u hu
        obtain rfl := List.mem_singleton.1 hu
        exact ⟨name, ht⟩
      sink := hsink
      placed := ⟨0, rfl, _, rfl, rfl, rfl, rfl⟩ }
  have hfinished := h.finished_root ha rfl hbegin
  unfold Standpoint.runRoot at hrun
  rw [hroot] at hrun
  dsimp only at hrun
  rw [inTemplate_of_place (s := begun setting t context sink) rfl] at hrun
  generalize Render.inScope _ _ _ = x at hfinished hrun
  obtain ⟨r, v⟩ := x
  cases r with
  | ok _ => cases hrun
  | error k =>
    obtain ⟨⟨here, hhere, hname, htrail, hraised⟩, hhalts⟩ := hfinished
    have he : located here k = .problem (.template (.runtime e)) := by
      rw [← relocated_of_place hhere]
      exact Except.error.inj (congrArg Prod.fst hrun)
    rw [← htrail] at hhalts ⊢
    exact way_of_located hname (hhalts k here.line rfl ⟨here, hhere, hname, rfl, rfl⟩) hraised he

end Render

namespace Environment

open Render

/-- A place as an error tells it. -/
structure ToldPlace where
  template : Option String
  line : Option Int
  trail : List Step
  deriving DecidableEq

/-- The place that the error of a render tells. -/
def toldPlace : Except Problem Unit → Option ToldPlace
  | .error (.template (.runtime e)) => some ⟨e.template, e.line, e.trail⟩
  | _ => none

theorem eq_of_toldPlace {r : Except Problem Unit} {place : ToldPlace}
    (h : toldPlace r = some place) :
    ∃ e, r = .error (.template (.runtime e)) ∧ e.template = place.template ∧ e.line = place.line ∧
      e.trail = place.trail := by
  unfold toldPlace at h
  split at h
  · cases h
    exact ⟨_, rfl, rfl, rfl, rfl⟩
  · cases h

/-- An environment of some trees with the built-in capabilities. -/
def holding (trees : List (String × Document)) : Environment :=
  (perform (withBuiltins {} {}) (.addTemplates trees)).2

theorem reachable_holding (trees : List (String × Document)) : Reachable (holding trees) :=
  .after (.fresh rfl) (by simp)

/-- Built-in capabilities start no render, and their errors do not say where they arose. -/
theorem unplacing_holding (trees : List (String × Document)) : (holding trees).Unplacing := by
  intro kind name c hc args named render e he
  have hregistered := lookup_eq_ok hc
  unfold holding at hregistered
  rw [registry_addTemplates] at hregistered
  exact plainly_withBuiltins {} {} hregistered he

/-- Every statement of some templates has a line. -/
def lined (ts : Table Template) : Bool :=
  ts.entries.all fun entry => entry.2.document.statements.all fun n => n.pos.line != 0

theorem line_ne_zero_of_lined {ts : Table Template} (h : lined ts = true) {t : Template}
    (ht : Registered ts t) : ∀ n ∈ t.document.statements, n.pos.line ≠ 0 := by
  obtain ⟨name, hname⟩ := ht
  intro n hn
  have hentry := List.all_eq_true.1 h (name, t) (Table.mem_entries_iff.2 hname)
  simpa using List.all_eq_true.1 hentry n hn

/-- A page that includes a part, which looks up a name that is not bound. -/
def including : Environment :=
  holding [("page.html", { body := [.data ⟨1, 0⟩ "a", .include ⟨2, 0⟩ ["part.html"] false] }),
    ("part.html", { body := [.data ⟨1, 0⟩ "b", .output ⟨3, 0⟩ (.name ⟨3, 0⟩ "x")] })]

/-- A page that calls a macro without the argument that it needs. -/
def calling : Environment :=
  holding [("macros.html",
      { body := [.macroDef ⟨1, 0⟩ "f" [.param ⟨1, 0⟩ "x" none] [.data ⟨2, 0⟩ "-"]] }),
    ("page.html", { body := [.importing ⟨1, 0⟩ (.text "macros.html") "m",
        .output ⟨7, 0⟩ (.macroCall ⟨7, 0⟩ "m" "f" [] [])] })]

end Environment

end Stencil
