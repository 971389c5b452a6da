import Stencil.Proofs.Discipline
import Stencil.Proofs.Streaming

/-! Errors of nested renders. A capability may render another template and fail with the error of that
    render, which tells its place already. Such an error goes outwards through every section that is
    open around the call. The sections leave its class, its texts and its template as they are, and
    its line and its trail if they are filled; but they take an empty trail for one that is not
    filled yet, so that the error of a nested render whose trail is empty comes out with the trail of
    the call. -/

namespace Stencil

open Render

namespace Section

/-- Leaves an open section with a halt. -/
def leave : Section → Halt × RenderState → Halt × RenderState
  | .scope _, (h, s) => (h, popped s)
  | .code _ outer, (h, s) => (relocated s h, left outer s)
  | .inclusion _, (h, s) =>
    (h, { s with targets := s.targets.drop 1, place := deeper (-1) s.place })
  | .capture sink chunks, (h, s) => (h, { s with sink, chunks })

/-- Leaves open sections, the innermost first. -/
def leaveAll (K : List Section) (x : Halt × RenderState) : Halt × RenderState :=
  K.foldl (fun x b => b.leave x) x

end Section

namespace Render

variable {α β γ : Type}

/-- A computation comes to another one in some state: it begins with it, or goes on to it after a
    result, or runs it in the sections that it opens. -/
inductive Leads (k : Render γ) (u : RenderState) :
    {α : Type} → Render α → RenderState → List Section → Prop
  | here : Leads k u k u []
  | first {α β : Type} {m : Render α} {f : α → Render β} {s K} (h : Leads k u m s K) :
    Leads k u (m >>= f) s K
  | next {α β : Type} {m : Render α} {f : α → Render β} {a : α} {s t K}
    (hm : m s = (.ok a, t)) (h : Leads k u (f a) t K) : Leads k u (m >>= f) s K
  | scope {α : Type} {m : Render α} {f : Frame} {s stack K} (hpush : s.stack.push f = .ok stack)
    (h : Leads k u m { s with stack } K) : Leads k u (inScope f m) s (K ++ [.scope f])
  | code {α : Type} {m : Render α} {name : String} {outer : Location} {s K}
    (hplace : s.place = some outer)
    (h : Leads k u m { s with place := some (outer.enter name) } K) :
    Leads k u (inTemplate name m) s (K ++ [.code name outer])
  | inclusion {α : Type} {m : Render α} {t : Template} {s K}
    (h : Leads k u m { s with targets := t :: s.targets, place := deeper 1 s.place } K) :
    Leads k u (including t m) s (K ++ [.inclusion t])
  | capture {m : Render Unit} {s K}
    (h : Leads k u m { s with sink := .buffer, chunks := [] } K) :
    Leads k u (captured m) s (K ++ [.capture s.sink s.chunks])

theorem Section.leaveAll_append (K : List Section) (b : Section) (x : Halt × RenderState) :
    Section.leaveAll (K ++ [b]) x = b.leave (Section.leaveAll K x) := by
  simp [Section.leaveAll]

/-- Where the other computation halts, the sections that are open are left. -/
theorem Leads.halts {k : Render γ} {u v : RenderState} {m : Render α} {s : RenderState}
    {K : List Section} {h : Halt} (hleads : Leads k u m s K) (hk : k u = (.error h, v)) :
    m s = (.error (Section.leaveAll K (h, v)).1, (Section.leaveAll K (h, v)).2) := by
  -- along the way to the other computation: each section that it opened is left, innermost first
  induction hleads with
  | here => exact hk
  | first _ ih => exact bind_of_error ih
  | next hm _ ih => exact (bind_of_done hm).trans ih
  | scope hpush _ ih =>
    rw [Section.leaveAll_append]
    unfold inScope
    rw [hpush]
    dsimp only
    unfold ensuring
    rw [ih]
    rfl
  | code hplace _ ih =>
    rw [Section.leaveAll_append, inTemplate_of_place hplace, ih]
    rfl
  | inclusion _ ih =>
    rw [Section.leaveAll_append]
    unfold including ensuring
    unfold deeper at ih
    dsimp only
    rw [ih]
    rfl
  | capture _ ih =>
    rw [Section.leaveAll_append]
    unfold captured
    rw [ih]
    rfl

/-! ### Errors that tell their place -/

/-- The trail that an error has taken over where it leaves code of a template is that which it tells
    further out, because an empty trail does not get longer there. -/
theorem trail_locate_leave (e : RuntimeError) (here outer : Location)
    (p : Prop) [Decidable p] :
    (if (e.locate here.template (some here.line) here.trail).trail = [] ∧ p then
        (here.leave (outer.template, outer.line)).trail
      else (e.locate here.template (some here.line) here.trail).trail) =
      if e.trail = [] then here.trail else e.trail := by
  have hleave : here.trail = [] → (here.leave (outer.template, outer.line)).trail = [] := by
    intro h
    simp [Location.leave, h]
  by_cases he : e.trail = []
  · by_cases hh : here.trail = [] <;> simp_all [RuntimeError.locate]
  · simp [RuntimeError.locate, he]

/-- An error that tells its template takes over no more than a trail and a line on its way. -/
theorem leaveAll_runtime {e : RuntimeError} (htemplate : e.template ≠ none) :
    ∀ (K : List Section) {s : RenderState} {here : Location}, s.place = some here → ∃ line,
      (Section.leaveAll K (.problem (.template (.runtime e)), s)).1 =
        .problem (.template (.runtime { e with
          line
          trail := if e.trail = [] ∧ K.any Section.isCode = true then here.trail else e.trail })) ∧
      (e.line.getD 0 ≠ 0 → line = e.line)
  | [], s, here, hplace => ⟨e.line, by simp [Section.leaveAll], fun _ => rfl⟩
  | b :: K, s, here, hplace => by
    cases b with
    | scope f => exact leaveAll_runtime htemplate K (s := popped s) hplace
    | capture sink chunks =>
      exact leaveAll_runtime htemplate K (s := { s with sink, chunks }) hplace
    | inclusion t =>
      have hdeeper : deeper (-1) s.place =
          some { here with includeDepth := here.includeDepth + -1 } := by
        rw [hplace]
        rfl
      have hrest := leaveAll_runtime htemplate K
        (s := { s with targets := s.targets.drop 1, place := deeper (-1) s.place }) hdeeper
      exact hrest
    | code name outer =>
      -- the place of the code is filled in, and the others find it filled
      have hkept : e.template.or here.template = e.template := by
        obtain ⟨n, hn⟩ := Option.ne_none_iff_exists'.1 htemplate
        rw [hn, Option.some_or]
      have hlocated : (e.locate here.template (some here.line) here.trail).template ≠ none :=
        hkept.trans_ne htemplate
      have hleave : Section.leave (.code name outer) (.problem (.template (.runtime e)), s) =
          (.problem (.template (.runtime (e.locate here.template (some here.line) here.trail))),
            { s with place := some (here.leave (outer.template, outer.line)) }) := by
        change (relocated s _, left outer s) = _
        rw [relocated_of_place hplace, left_of_place hplace]
        rfl
      obtain ⟨line, hrest, hline⟩ := leaveAll_runtime hlocated K
        (s := { s with place := some (here.leave (outer.template, outer.line)) }) rfl
      have hstep (x : Halt × RenderState) : Section.leaveAll (.code name outer :: K) x =
          Section.leaveAll K (Section.leave (.code name outer) x) := rfl
      refine ⟨line, ?_, fun hknown => ?_⟩
      · have htrail := trail_locate_leave e here outer (K.any Section.isCode = true)
        rw [hstep, hleave, hrest, htrail]
        simp [RuntimeError.locate, hkept, Section.isCode]
      · have hfilled : (e.locate here.template (some here.line) here.trail).line = e.line :=
          if_neg hknown
        rw [hfilled] at hline
        exact hline hknown

/-- The error of a capability that tells its template is the error of the call. -/
theorem invoke_of_located {kind : CapabilityKind} {c : Capability} {args : List Value}
    {named : List (String × Value)} {render : String → Except Halt String} {e : RuntimeError}
    (hcall : c.call { args, named, render } = .error (.problem (.template (.runtime e))))
    (htemplate : e.template ≠ none) (s : RenderState) :
    invoke render kind c args named s = (.error (.problem (.template (.runtime e))), s) := by
  have hpasses : calledBy kind c args named (.problem (.template (.runtime e))) =
      .problem (.template (.runtime e)) := by
    unfold calledBy
    dsimp only
    split
    · rfl
    · rw [if_pos (Option.isSome_iff_ne_none.2 htemplate)]
  unfold invoke
  rw [hcall]
  dsimp only [Except.map, Except.mapError]
  rw [hpasses]
  rfl

/-! ### Ways through templates -/

namespace Leads

variable {k : Render γ} {u s : RenderState} {K : List Section} {links : Links} {c : Calls}
  {setting : Setting}

/-- The state at the line of a statement. -/
def lined (n : Node) (s : RenderState) : RenderState := (atLine n.pos.line s).2

theorem atLine_eq (n : Node) (s : RenderState) : atLine n.pos.line s = (.ok (), lined n s) := by
  unfold lined atLine
  split <;> rfl

theorem body {d : Nat} {ns : List Node}
    (h : Leads k u (execAll (linked (calls d setting) setting) setting ns) s K) :
    Leads k u ((calls (d + 1) setting).body ns) s K := h

/-- A body comes to what its first statement comes to. -/
theorem head {n : Node} {rest : List Node} (h : Leads k u (exec links setting n) (lined n s) K) :
    Leads k u (execAll links setting (n :: rest)) s K := by
  rw [execAll]
  exact .next (atLine_eq n s) (.first h)

/-- It comes to what the other statements come to where the first one has made no request. -/
theorem tail {n : Node} {rest : List Node} {t : RenderState}
    (hn : exec links setting n (lined n s) = (.ok (), t)) (ht : t.pending = false)
    (h : Leads k u (execAll links setting rest) t K) :
    Leads k u (execAll links setting (n :: rest)) s K := by
  rw [execAll]
  refine .next (atLine_eq n s) (.next hn (.next (t := t) (a := t) rfl ?_))
  rw [ht]
  exact h

theorem output {p : Pos} {n : Node} (h : Leads k u (eval links setting false n) s K) :
    Leads k u (exec links setting (.output p n)) s K := by
  rw [exec]
  exact .first h

/-- A template comes to what its body comes to. -/
theorem template {t : Template} {outer : Location} (hparents : t.parents = [])
    (hplace : s.place = some outer)
    (h : Leads k u (c.body t.document.body) { s with
      place := some (outer.enter t.name)
      stack := { s.stack with frames := .root t :: s.stack.frames } } K) :
    Leads k u (runTemplate c setting t) s (K ++ [.scope (.root t)] ++ [.code t.name outer]) := by
  unfold runTemplate
  rw [hparents]
  exact .next (a := t) rfl (.code hplace (.scope rfl h))

/-- An include comes to what the included template comes to. -/
theorem included {names : List String} {ignoreMissing : Bool} {t : Template} {here : Location}
    {p : Pos} (ht : names.findSome? setting.templates.get? = some t)
    (hplace : s.place = some here) (hlimit : here.includeDepth < here.limit)
    (h : Leads k u (runTemplate c setting t)
      { s with targets := t :: s.targets, place := deeper 1 s.place } K) :
    Leads k u (exec (linked c setting) setting (.include p names ignoreMissing)) s
      (K ++ [.inclusion t]) := by
  rw [exec]
  change Leads k u (runInclude _ setting names ignoreMissing) s _
  unfold runInclude
  rw [ht]
  refine .next (a := here) (t := s) ?_ (.next (a := ()) (t := s) ?_ (.inclusion h))
  · unfold place
    rw [hplace]
  · unfold Location.checkInclude
    rw [if_pos hlimit]
    rfl

/-- A block comes to what its most derived definition comes to. -/
theorem block {p : Pos} {name : String} {body : List Node} {t o : Template}
    {rest : List Template} {b : Block} {more : BlockChain} {outer : Location}
    (htargets : s.targets = t :: rest) (hchain : t.chain name = (o.name, b) :: more)
    (howner : setting.template o.name = .ok o) (hplace : s.place = some outer)
    (h : Leads k u (c.body b.body) { s with
      place := some (outer.enter o.name)
      stack := { s.stack with
        frames := .block name 0 (t.chain name) o :: s.stack.frames } } K) :
    Leads k u (exec (linked c setting) setting (.block p name body)) s
      (K ++ [.scope (.block name 0 (t.chain name) o)] ++ [.code o.name outer]) := by
  have hdefinition : Leads k u (runDefinition c setting name (t.chain name) 0) s
      (K ++ [.scope (.block name 0 (t.chain name) o)] ++ [.code o.name outer]) := by
    have hentry : BlockChain.entry? (t.chain name) 0 = some (o.name, b) := by
      rw [hchain]
      rfl
    unfold runDefinition
    rw [hentry]
    refine .next (a := o) (t := s) ?_ (.code hplace (.scope rfl h))
    rw [howner]
    rfl
  rw [exec]
  change Leads k u (runBlock c setting name body) s _
  unfold runBlock
  refine .next (a := s) (t := s) rfl ?_
  have hfound : ((s.targets.head?.map (·.chain name)).getD []) = t.chain name := by
    rw [htargets]
    rfl
  rw [hfound]
  split
  · rename_i hnone
    cases hchain.symm.trans hnone
  · exact hdefinition

/-- A loop over pairs, at the first of them. -/
def looping (target : String) (key : Option String) (ps : List (Value × Value)) : Loop :=
  { valueName := target, keyName := key, items := ps.toArray }

/-- A loop comes to what its body comes to for the first pair. -/
theorem loop {p : Pos} {target : String} {iter : Node} {body empty : List Node}
    {key : Option String} {container : Value} {pair : Value × Value}
    {more : List (Value × Value)} {f : Frame} {rest : List Frame}
    (hiter : eval links setting false iter s = (.ok container, s))
    (hpairs : pairs iter.describe key.isSome container = .ok (pair :: more))
    (hframes : s.stack.frames = f :: rest)
    (h : Leads k u (execAll links setting body) { s with
      stack := { s.stack with
        frames := .iteration (looping target key (pair :: more)) f.template ::
          s.stack.frames } } K) :
    Leads k u (exec links setting (.loop p target iter body empty key none)) s
      (K ++ [.scope (.iteration (looping target key (pair :: more)) f.template)]) := by
  have hactive : active s = (.ok f.template, s) := by
    have hrunning : s.stack.activeTemplate = .ok f.template := by
      unfold CallStack.activeTemplate CallStack.current
      rw [hframes]
      rfl
    change ofRuntime s.stack.activeTemplate s = _
    rw [hrunning]
    rfl
  rw [exec]
  refine .next hiter (.next (a := pair :: more) (t := s) ?_ ?_)
  · rw [hpairs]
    rfl
  · unfold runLoop
    refine .next hactive (.next (a := pair :: more) (t := s) rfl ?_)
    exact .first (.scope rfl (.first h))

/-- A call of a macro without parameters comes to what its body comes to. -/
theorem macroCall {p : Pos} {space name : String} {lenient : Bool} {o : Template} {m : Macro}
    {outer : Location} (hfound : findMacro setting space name s = (.ok (o, m), s))
    (hparams : m.params = []) (hlimit : (s.stack.macroDepth : Int) < s.stack.limit)
    (hplace : s.place = some outer)
    (h : Leads k u (c.body m.body) { s with
      place := some (outer.enter o.name)
      sink := .buffer
      chunks := []
      stack := { s.stack with
        frames := .call m.name o :: s.stack.frames
        macroDepth := s.stack.macroDepth + 1 } } K) :
    Leads k u (eval (linked c setting) setting lenient (.macroCall p space name [] [])) s
      (K ++ [.capture s.sink s.chunks] ++ [.code o.name outer] ++
        [.scope (.call m.name o)]) := by
  have hpush : s.stack.push (.call m.name o) = .ok { s.stack with
      frames := .call m.name o :: s.stack.frames
      macroDepth := s.stack.macroDepth + 1 } :=
    (if_pos rfl).trans (if_neg (Int.not_le.2 hlimit))
  have hrun : Leads k u (runMacro c o m (space ++ "::" ++ name) []) s
      (K ++ [.capture s.sink s.chunks] ++ [.code o.name outer] ++
        [.scope (.call m.name o)]) := by
    unfold runMacro
    rw [hparams]
    exact .first (.scope hpush (.code hplace (.capture (.next (a := ()) rfl h))))
  rw [eval]
  refine .next hfound (.next (a := []) (t := s) rfl (.next (a := []) (t := s) rfl
    (.next (a := []) (t := s) ?_ hrun)))
  rw [hparams]
  rfl

/-- A filter block comes to what its body comes to. -/
theorem filtered {p : Pos} {name : String} {body args : List Node} {named : List (String × Node)}
    (h : Leads k u (execAll links setting body) { s with sink := .buffer, chunks := [] } K) :
    Leads k u (exec links setting (.filterBlock p name body args named)) s
      (K ++ [.capture s.sink s.chunks]) := by
  rw [exec]
  exact .first (.capture h)

/-- A call without arguments comes to the function. -/
theorem call (links : Links) {p : Pos} {name : String} {cap : Capability} {lenient : Bool}
    (hc : setting.env.lookup .function name = .ok cap) :
    Leads (invoke links.render .function cap [] []) s
      (eval links setting lenient (.call p name [] [])) s [] := by
  rw [eval]
  refine .next (a := cap) (t := s) ?_ (.next (a := []) (t := s) rfl
    (.next (a := []) (t := s) rfl .here))
  rw [hc]
  rfl

end Leads

/-- An error of a nested render goes through the render around it. Let a capability of an environment
    fail with the runtime error of a render, and let another render come to its call, whatever
    includes, blocks, macro calls, loops and filter blocks are open there. This render ends with
    an error of the same class, with the same texts and values, and the same template. It has the
    same line if that is known, and the same trail if that is not empty. An empty trail becomes that
    of the call. -/
theorem nested_error_passes {env : Environment} {inner : Template} {context : Context} {sink : Sink}
    {e : RuntimeError}
    (hinner : (run (Render.setting env inner) inner context sink).result =
      .error (.template (.runtime e)))
    {kind : CapabilityKind} {c : Capability} {args : List Value} {named : List (String × Value)}
    {render : String → Except Halt String}
    (hcall : c.call { args, named, render } = .error (.problem (.template (.runtime e))))
    {setting : Setting} {t : Template} {context' : Context} {sink' : Sink} {u : RenderState}
    {K : List Section} {here : Location}
    (hleads : Leads (invoke render kind c args named) u
      (runTemplate (calls maxDepth setting) setting t) (begun setting t context' sink') K)
    (hplace : u.place = some here) : ∃ line,
      (run setting t context' sink').result = .error (.template (.runtime { e with
        line
        trail := if e.trail = [] ∧ K.any Section.isCode = true then here.trail else e.trail })) ∧
      (e.line.getD 0 ≠ 0 → line = e.line) := by
  -- an error that leaves a whole render names a template, whatever it did inside
  have htemplate : e.template ≠ none := by
    rcases run_escapes hinner with hdeep | ⟨_, hsame, hname⟩
    · cases hdeep
    · cases hsame
      exact hname e rfl
  have hrun := hleads.halts (invoke_of_located hcall htemplate u)
  obtain ⟨line, hpassed, hline⟩ := leaveAll_runtime htemplate K hplace
  rw [hpassed] at hrun
  have hresult : (run setting t context' sink').result =
      (runTemplate (calls maxDepth setting) setting t
        (begun setting t context' sink')).1.mapError problemOf := rfl
  refine ⟨line, ?_, hline⟩
  rw [hresult, hrun]
  rfl

end Render

namespace Environment

/-- A template with a request where no loop is. -/
def strayTemplate : Template := { name := "stray.txt", document := { body := [.leave ⟨3, 0⟩] } }

/-- A function that renders it. -/
def strayer : Capability :=
  { name := "stray", behaviour := some fun inv => (inv.render "stray.txt").map .text }

/-- A macro that calls the function in a filter block. -/
def strayMacro : Macro :=
  ⟨"m", [], [.filterBlock ⟨5, 0⟩ "upper" [.output ⟨6, 0⟩ (.call ⟨6, 0⟩ "stray" [] [])] [] []]⟩

/-- A template that calls the macro in a loop. -/
def strayPart : Template :=
  { name := "part.txt"
    document := { body := [.loop ⟨1, 0⟩ "i" (.list ⟨1, 0⟩ [.const ⟨1, 0⟩ (.int 1)])
      [.output ⟨2, 0⟩ (.macroCall ⟨2, 0⟩ "self" "m" [] [])] [] none none] }
    macros := Table.empty.insert "m" strayMacro }

/-- A block that includes the template after a text. -/
def strayBlock : Block := ⟨"b", [.data ⟨1, 0⟩ "a", .include ⟨2, 0⟩ ["part.txt"] false]⟩

def strayPage : Template :=
  { name := "page.txt"
    document := { body := [.block ⟨1, 0⟩ "b" strayBlock.body] }
    chains := Table.empty.insert "b" [("page.txt", strayBlock)] }

def straying : Environment :=
  { templates := ((Table.empty.insert "stray.txt" strayTemplate).insert "part.txt"
      strayPart).insert "page.txt" strayPage
    functions := Table.empty.insert "stray" strayer }

/-- The error of the template on its own. -/
def strayError : RuntimeError :=
  { outsideLoop .leave with template := some "stray.txt", line := some 3 }

theorem nested_error_passes_macro :
    (run (Render.setting straying strayTemplate) strayTemplate {} .buffer).result =
      .error (.template (.runtime strayError)) ∧
    (run (Render.setting straying strayPage) strayPage {} .buffer).result =
      .error (.template (.runtime { strayError with
        trail := [(some "page.txt", 1), (some "page.txt", 2), (some "part.txt", 2)] })) := by
  have hinner : (run (Render.setting straying strayTemplate) strayTemplate {} .buffer).result =
      .error (.template (.runtime strayError)) := rfl
  let setting := Render.setting straying strayPage
  have hcall : strayer.call { render := (calls 3996 setting).render } =
      .error (.problem (.template (.runtime strayError))) := rfl
  have hfunction (s : RenderState) :
      Leads (invoke (calls 3996 setting).render .function strayer [] []) s
        (eval (linked (calls 3996 setting) setting) setting false (.call ⟨6, 0⟩ "stray" [] []))
        s [] := .call (linked (calls 3996 setting) setting) rfl
  -- through the block, the include, the loop, the macro and its filter block to the function
  obtain ⟨u, K, here, hleads, hplace, htrail, hcode⟩ : ∃ u K here,
      Leads (invoke (calls 3996 setting).render .function strayer [] []) u
        (runTemplate (calls maxDepth setting) setting strayPage)
        (begun setting strayPage {} .buffer) K ∧
      u.place = some here ∧
      here.trail = [(some "page.txt", 1), (some "page.txt", 2), (some "part.txt", 2)] ∧
      K.any Section.isCode = true :=
    ⟨_, _, _, .template (t := strayPage) rfl rfl (.body (d := 3999) (.head
      (.block (o := strayPage) (b := strayBlock) rfl rfl rfl rfl (.body (d := 3998) (.tail rfl rfl
      (.head (.included rfl rfl (by decide) (.template (t := strayPart) rfl rfl (.body (d := 3997)
      (.head (.loop rfl rfl rfl (.head (.output
      (.macroCall (o := strayPart) (m := strayMacro) rfl rfl (by decide) rfl
        (.body (d := 3996) (.head (.filtered (.head (.output (hfunction _)))))))))))))))))))),
      rfl, rfl, rfl⟩
  obtain ⟨line, hrun, hline⟩ := nested_error_passes hinner hcall hleads hplace
  refine ⟨hinner, ?_⟩
  rw [hrun, hline (by decide), htrail, if_pos ⟨rfl, hcode⟩]

/-- A function that renders the template that it is given the name of. -/
def renderer : Capability :=
  { name := "nested"
    behaviour := some fun inv =>
      match inv.args with
      | [.text name] => (inv.render name).map .text
      | _ => .error (.failure .wrongType) }

/-- A page that includes a part, which renders another template with a name that is not bound. -/
def nesting : Environment :=
  (perform
    (holding [("inner.txt", { body := [.data ⟨1, 0⟩ "a", .output ⟨3, 0⟩ (.name ⟨3, 0⟩ "x")] }),
      ("part.txt",
        { body := [.output ⟨1, 0⟩
          (.call ⟨1, 0⟩ "nested" [.const ⟨1, 0⟩ (.text "inner.txt")] [])] }),
      ("page.txt", { body := [.include ⟨2, 0⟩ ["part.txt"] false] })])
    (.register .function renderer)).2

/-- The error of a nested render need not come out as it is. Rendered on its own the template fails
    with an error that has no trail, and rendered by a part of a page with one that has the place of
    the part in the page. -/
theorem nested_error_takes_trail : Reachable nesting ∧
    ∃ inner page e e', nesting.templates.get? "inner.txt" = some inner ∧
      nesting.templates.get? "page.txt" = some page ∧
      (run (Render.setting nesting inner) inner {} .buffer).result =
        .error (.template (.runtime e)) ∧
      (run (Render.setting nesting page) page {} .buffer).result =
        .error (.template (.runtime e')) ∧
      e.template = some "inner.txt" ∧ e'.template = some "inner.txt" ∧
      e.line = some 3 ∧ e'.line = some 3 ∧
      e.trail = [] ∧ e'.trail = [(some "page.txt", 2)] := by
  refine ⟨.after (reachable_holding _) (by simp), ?_⟩
  have h : (nesting.templates.get? "inner.txt").bind (fun inner =>
      (nesting.templates.get? "page.txt").map fun page =>
        (toldPlace (run (Render.setting nesting inner) inner {} .buffer).result,
          toldPlace (run (Render.setting nesting page) page {} .buffer).result)) =
      some (some ⟨some "inner.txt", some 3, []⟩,
        some ⟨some "inner.txt", some 3, [(some "page.txt", 2)]⟩) := by decide +kernel
  obtain ⟨inner, hinner, h⟩ := Option.bind_eq_some_iff.1 h
  obtain ⟨page, hpage, h⟩ := Option.map_eq_some_iff.1 h
  obtain ⟨halone, hnested⟩ := Prod.mk.inj h
  obtain ⟨e, he, htemplate, hline, htrail⟩ := eq_of_toldPlace halone
  obtain ⟨e', he', htemplate', hline', htrail'⟩ := eq_of_toldPlace hnested
  exact ⟨inner, page, e, e', hinner, hpage, he, he', htemplate, htemplate', hline, hline', htrail,
    htrail'⟩

end Environment

end Stencil
