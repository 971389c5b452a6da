import Stencil.Proofs.Code
import Stencil.Proofs.History
import Stencil.Proofs.Proper
import Stencil.Proofs.Reach

/-! Values stay template values. A render whose trees hold template values as constants, whose data
    is a context and whose capabilities are the built-in ones reaches nothing else: not in its data,
    not in a local, not in a loop, and not as the result of an expression. A lookup that finds
    nothing is seen by conditions, by testers and by the filter that supplies a default; everywhere
    else it is an error, so that it is neither bound, passed on nor printed as an empty text. -/

namespace Stencil

open Render

/-- A node that brings in no value but template values. -/
def Node.Literal : Node → Prop
  | .const _ v => v.Proper
  | _ => True

/-- A node that looks something up. -/
def Node.isLookup : Node → Bool
  | .name .. | .attr .. | .item .. => true
  | _ => false

/-- The filters and functions are built in. -/
structure Environment.BuiltIn (env : Environment) : Prop where
  filters : ∀ name c, env.filters.get? name = some c → Filter.all.get? name = some c
  functions : ∀ name c, env.functions.get? name = some c →
    ∃ host, (Function.all host).get? name = some c

theorem Environment.builtIn_withBuiltins (env : Environment) (host : Host) :
    (env.withBuiltins host).BuiltIn where
  filters _ _ h := h
  functions _ _ h := ⟨host, h⟩

/-- A render can reach nothing but template values, and code that brings in nothing else. -/
def Sound (ts : Table Template) (s : RenderState) : Prop :=
  s.Admitted (Registered ts) Value.Proper (BlockChain.Every Node.Literal)

namespace Render

/-- Computations that do the same wherever nothing but template values can be reached, and that lead
    to such states, however they end; their results have a property. -/
def Keeps (ts : Table Template) (p : α → Prop) (m n : Render α) : Prop :=
  ∀ s, Sound ts s → m s = n s ∧ Sound ts (m s).2 ∧ ∀ a, (m s).1 = .ok a → p a

/-- Where nothing but template values can be reached, a computation halts on the way, or it comes to
    such a state again and goes on with something that has a property. -/
def Arrives (ts : Table Template) (p : β → Prop) (onward : β → Render α) (m : Render α) : Prop :=
  ∀ s, Sound ts s → (∃ h t, m s = (.error h, t)) ∨ ∃ b t, p b ∧ Sound ts t ∧ m s = onward b t

/-- Calls that do the same wherever nothing but template values can be reached. -/
structure AgreeSoundly (ts : Table Template) (c c' : Calls) : Prop where
  body : ∀ {s}, Sound ts s → ∀ ns, (∀ n ∈ ns, n.Every Node.Literal) → c.body ns s = c'.body ns s
  value : ∀ {s}, Sound ts s → ∀ n, n.Every Node.Literal → c.value n s = c'.value n s
  render : c.render = c'.render

/-- A capability with arguments for it. -/
abbrev Callee := Capability × Invocation

/-- A call of a capability. -/
def called (links : Links) (kind : CapabilityKind) (b : Callee) : Render Value :=
  invoke links.render kind b.1 b.2.args b.2.named

/-- A registered capability with arguments of some kind, of which the first may be of another. -/
def Callable (setting : Setting) (kind : CapabilityKind) (name : String)
    (operand : Value → Prop) (b : Callee) : Prop :=
  setting.env.lookup kind name = .ok b.1 ∧ b.2.Given operand Value.Proper

/-- What a node hands on is a template value: what it prints or binds, the pairs that a loop runs
    over, and the arguments of calls. A tester, and the filter that supplies a default, may be given
    an operand that has not been found. -/
def HandsOn (ts : Table Template) (links : Links) (setting : Setting) (n : Node) : Prop :=
  match n with
  | .output _ _ => Arrives ts Value.Proper (print setting) (exec links setting n)
  | .assign _ name _ wide => Arrives ts Value.Proper
      (fun v => if wide then assignWide name v else assign name v) (exec links setting n)
  | .loop _ target _ body empty key condition =>
    Arrives ts (fun found : List (Value × Value) => ∀ e ∈ found, e.1.Proper ∧ e.2.Proper)
      (fun found => runLoop target key found (condition.map fun c => eval links setting true c)
        (execAll links setting body) (execAll links setting empty)) (exec links setting n)
  | .filterBlock _ name _ _ _ => Arrives ts (Callable setting .filter name Value.Proper)
      (fun b => called links .filter b >>= fun v => ofProblem v.display >>= write)
      (exec links setting n)
  | .macroCall _ space name _ _ => Arrives ts
      (fun b : (Template × Macro) × List (String × Value) => ∀ a ∈ b.2, a.2.Proper)
      (fun b => links.runMacro b.1.1 b.1.2 (space ++ "::" ++ name) b.2) (eval links setting false n)
  | .call _ name _ _ => Arrives ts (Callable setting .function name Value.Proper)
      (called links .function) (eval links setting false n)
  | .filter _ _ name _ _ => Arrives ts
      (Callable setting .filter name (Filter.Operand Value.Proper name))
      (called links .filter) (eval links setting false n)
  | .test _ _ name _ negated => Arrives ts
      (Callable setting .test name (Value.Found Value.Proper))
      (fun b => called links .test b >>= fun answer => pure (.bool (answer.isSet != negated)))
      (eval links setting false n)
  | _ => True

/-! ### The invariant -/

/-- Renders that can reach nothing but template values. -/
def sounds (ts : Table Template) : Invariant Unit where
  holds _ s := Sound ts s
  remains _ _ s := Sound ts s
  remains_of_holds _ h := h
  waiting _ h := { h with }

namespace Values

variable {ts : Table Template} {setting : Setting} {α β : Type} {p : α → Prop} {q : β → Prop}
  {V : α → α → Prop} {m n : Render α}

theorem placeless : (sounds ts).Placeless where
  moved _ h := { h with }
  left _ h := { h with }
  located _ h := h

theorem reaching : (sounds ts).Reaching (Registered ts) Value.Proper
    (BlockChain.Every Node.Literal) where
  admitted h := h
  altered _ _ _ h := h
  abandoned _ _ h keep := keep h

theorem write (text : String) :
    (sounds ts).runs.congruence.rel Eq (Render.write text) (Render.write text) :=
  (sounds ts).write fun _ _ _ hs _ => { hs with }

theorem captured {m n : Render Unit} (h : (sounds ts).runs.congruence.rel Eq m n) :
    (sounds ts).runs.congruence.rel (Same fun _ => True) (Render.captured m) (Render.captured n) :=
  (sounds ts).captured (J := sounds ts)
    (fun _ _ hs => ⟨(), ⟨hs.frames, hs.context, hs.targets⟩,
      fun _ hu => ⟨trivial, ⟨hu.frames, hu.context, hu.targets⟩⟩,
      fun _ _ hu => ⟨hu.frames, hu.context, hu.targets⟩⟩) h

/-- Nothing but template values can be reached by what a render with built-in capabilities runs. -/
def simulation (hset : Lineage.Resolved setting.templates) (henv : setting.env.BuiltIn)
    (htrees : ∀ name t, setting.templates.get? name = some t →
      ∀ n ∈ t.document.body, n.Every Node.Literal) : Simulation setting where
  toCongruence := (sounds setting.templates).runs.congruence
  node := Node.Literal
  chain := BlockChain.Every Node.Literal
  value := Value.Proper
  text := fun _ => True
  template := Registered setting.templates
  agree := fun s t => ∃ i, (sounds setting.templates).runs.states i s t
  hereditary := Value.Proper.hereditary
  markup := ⟨fun _ => trivial, fun _ => .markup _⟩
  escaped := fun _ => trivial
  unescaped := fun _ _ => trivial
  const := fun h => h
  data := fun _ => trivial
  raw := fun _ => trivial
  function := fun _ hc hargs hnamed hv => by
    obtain ⟨host, hb⟩ := henv.functions _ _ (Environment.lookup_eq_ok hc)
    exact Function.proper_of_get? hb (Invocation.given_of_args hargs hnamed) hv
  filter := fun {_ _ name _ _ c v vs ns render w} _ hc hv hargs hnamed hw => by
    have hgiven : Invocation.Given (Filter.Operand Value.Proper name) Value.Proper
        { args := v :: vs, named := ns, render } :=
      ⟨by rintro _ ⟨⟩; exact hv, hargs, hnamed⟩
    exact Filter.proper_of_get? (henv.filters _ _ (Environment.lookup_eq_ok hc)) hgiven hw
  filterBlock := fun _ _ => trivial
  registered := setting.registered
  code := hset.every htrees
  code_of_chain := fun h => h
  recorded := fun h => (hset.every htrees h).chain
  defined := fun _ h => List.forall_mem_singleton.2 h
  state := (sounds setting.templates).runs.state
  pending := fun ⟨_, h, _⟩ => congrArg RenderState.pending h
  target := reaching.target
  loop := fun ⟨_, h, _⟩ => by rw [h]
  block := reaching.block
  find := reaching.find Value.Proper.hereditary
  undefinedAt := (sounds setting.templates).undefinedAt
  exhausted := (sounds setting.templates).exhausted fun hs => hs
  active := reaching.active
  requested := (sounds setting.templates).requested
  atLine := placeless.atLine
  proceed := (sounds setting.templates).proceed
  interrupt := reaching.interrupt
  write := fun _ => write _
  assign := reaching.assign
  assignWide := reaching.assignWide
  inScope := reaching.inScope
  inTemplate := placeless.inTemplate
  captured := captured
  allowing := reaching.allowing placeless

/-! ### Computations that keep it -/

theorem keeps_of_rel (h : (sounds ts).runs.congruence.rel V m n)
    (hV : ∀ a b, V a b → a = b ∧ p a) : Keeps ts p m n := by
  intro s hs
  have ends := h () s s ⟨rfl, hs⟩
  generalize m s = x, n s = y at ends ⊢
  cases ends with
  | done hab hst =>
    obtain ⟨rfl, ha⟩ := hV _ _ hab
    exact ⟨by rw [hst.1], hst.2, fun a h => Except.ok.inj h ▸ ha⟩
  | halt hh => exact ⟨by rw [hh.1, hh.2.1], hh.2.2, by simp⟩

theorem rel_of_keeps (h : Keeps ts p m n) : (sounds ts).runs.congruence.rel (Same p) m n := by
  rintro i s _ ⟨rfl, hs⟩
  obtain ⟨heq, hsound, hp⟩ := h s hs
  rw [← heq]
  generalize m s = x at hsound hp ⊢
  obtain ⟨r, t⟩ := x
  cases r with
  | ok a => exact .done ⟨rfl, hp a rfl⟩ ⟨rfl, hsound⟩
  | error h => exact .halt ⟨rfl, rfl, hsound⟩

/-- A statement has no result to speak of. -/
theorem rel_of_keeps_unit {m n : Render Unit} (h : Keeps ts (fun _ => True) m n) :
    (sounds ts).runs.congruence.rel Eq m n :=
  (sounds ts).runs.congruence.mono (rel_of_keeps h) fun _ _ h => h.1

theorem keeps_of_rel_unit {m n : Render Unit} (h : (sounds ts).runs.congruence.rel Eq m n) :
    Keeps ts (fun _ => True) m n :=
  keeps_of_rel h fun _ _ h => ⟨h, trivial⟩

/-- Computations that do the same where only template values can be reached do so from there on. -/
theorem rel_of_eq (h : (sounds ts).runs.congruence.rel V m m)
    (heq : ∀ s, Sound ts s → m s = n s) : (sounds ts).runs.congruence.rel V m n := by
  rintro i s _ ⟨rfl, hs⟩
  have ends := h i s s ⟨rfl, hs⟩
  rwa [← heq s hs]

/-! ### What is passed on -/

theorem arrives_here {onward : β → Render α} {b : β} (hb : q b) :
    Arrives ts q onward (onward b) :=
  fun s hs => Or.inr ⟨b, s, hb, hs, rfl⟩

theorem arrives_bind {γ : Type} {r : γ → Prop} {first : Render γ} {rest : γ → Render α}
    {onward : β → Render α} (hm : (sounds ts).runs.congruence.rel (Same r) first first)
    (hf : ∀ a, r a → Arrives ts q onward (rest a)) : Arrives ts q onward (first >>= rest) := by
  intro s hs
  obtain ⟨-, hsound, hr⟩ := keeps_of_rel hm (fun _ _ h => h) s hs
  change (∃ h t, andThen first rest s = _) ∨ ∃ b t, _ ∧ _ ∧ andThen first rest s = _
  unfold andThen
  generalize first s = x at hsound hr ⊢
  obtain ⟨a | a, t⟩ := x
  · exact Or.inl ⟨a, t, rfl⟩
  · exact hf a (hr a rfl) t hsound

/-- Every node hands on template values, where what it starts keeps to them. -/
theorem handsOn {setting : Setting} {calls : Calls} (hset : Lineage.Resolved setting.templates)
    (henv : setting.env.BuiltIn) (htrees : ∀ name t, setting.templates.get? name = some t →
      ∀ n ∈ t.document.body, n.Every Node.Literal)
    (hbody : ∀ ns, (∀ n ∈ ns, n.Every Node.Literal) →
      (sounds setting.templates).runs.congruence.rel Eq (calls.body ns) (calls.body ns))
    (hvalue : ∀ n, n.Every Node.Literal → (sounds setting.templates).runs.congruence.rel
      (Same Value.Proper) (calls.value n) (calls.value n)) (n : Node) (hn : n.Every Node.Literal) :
    HandsOn setting.templates (linked calls setting) setting n := by
  let S := (simulation hset henv htrees).execution rfl hbody hvalue
  have given {operand : Value → Prop} {v : Value} {vs : List Value} {ns : List (String × Value)}
      (hv : operand v) (hvs : ∀ w ∈ vs, w.Proper) (hns : ∀ a ∈ ns, a.2.Proper) :
      Invocation.Given operand Value.Proper { args := v :: vs, named := ns } :=
    ⟨by rintro _ ⟨⟩; exact hv, hvs, hns⟩
  have each (ns : List Node) (h : ∀ c ∈ ns, c.Every Node.Literal) :=
    S.all (S.strictEach (S.evalEach false ns h))
  have named (ns : List (String × Node)) (h : ∀ c ∈ ns.map Prod.snd, c.Every Node.Literal) :=
    S.allNamed (S.strictNamed (S.evalNamed ns h))
  have capability (kind : CapabilityKind) (name : String) :=
    S.ofRuntime (r := setting.env.lookup kind name) fun _ hc => hc
  cases n with
  | output p e =>
    unfold HandsOn
    rw [exec]
    exact arrives_bind (S.eval false e (hn.child (by simp [Node.children])))
      fun v hv => arrives_here hv.strict
  | assign p name e wide =>
    unfold HandsOn
    rw [exec]
    exact arrives_bind (S.eval false e (hn.child (by simp [Node.children])))
      fun v hv => arrives_here hv.strict
  | loop p target iter body empty key condition =>
    unfold HandsOn
    rw [exec]
    refine arrives_bind (S.eval false iter (hn.child (by simp [Node.children]))) fun v hv => ?_
    exact arrives_bind (S.ofRuntime fun _ hfound => S.of_pairs hfound hv.strict)
      fun found hfound => arrives_here hfound
  | filterBlock p name body args ns =>
    unfold HandsOn
    rw [exec, runFilter]
    have hbody := S.execAll body fun c hc => hn.child (by simp [Node.children, hc])
    refine arrives_bind (captured hbody) fun text _ => ?_
    refine arrives_bind (each args fun c hc => hn.child (by simp [Node.children, hc]))
      fun vs hvs => ?_
    refine arrives_bind (named ns fun c hc => hn.child (List.mem_append_right _ hc))
      fun vals hvals => ?_
    refine arrives_bind (capability .filter name) fun c hc => ?_
    exact arrives_here (b := ((c, { args := .text text :: vs, named := vals }) : Callee))
      ⟨hc, given (.text text) hvs hvals⟩
  | macroCall p space name args ns =>
    unfold HandsOn
    rw [eval]
    refine arrives_bind ((simulation hset henv htrees).findMacro space name) fun owned _ => ?_
    refine arrives_bind (each args fun c hc => hn.child (List.mem_append_left _ hc))
      fun vs hvs => ?_
    refine arrives_bind (named ns fun c hc => hn.child (List.mem_append_right _ hc))
      fun vals hvals => ?_
    refine arrives_bind (S.ofRuntime fun _ hbound => S.bound_of_bindArguments hbound hvs hvals)
      fun bound hbound => ?_
    exact arrives_here (b := (owned, bound)) hbound
  | call p name args ns =>
    unfold HandsOn
    rw [eval]
    refine arrives_bind (capability .function name) fun c hc => ?_
    refine arrives_bind (each args fun c hc => hn.child (List.mem_append_left _ hc))
      fun vs hvs => ?_
    refine arrives_bind (named ns fun c hc => hn.child (List.mem_append_right _ hc))
      fun vals hvals => ?_
    exact arrives_here (b := ((c, { args := vs, named := vals }) : Callee))
      ⟨hc, Invocation.given_of_args hvs hvals⟩
  | filter p operand name args ns =>
    unfold HandsOn
    rw [eval]
    refine arrives_bind (capability .filter name) fun c hc => ?_
    refine arrives_bind (S.eval _ operand (hn.child (by simp [Node.children]))) fun v hv => ?_
    refine arrives_bind (each args fun c hc => hn.child (by simp [Node.children, hc]))
      fun vs hvs => ?_
    refine arrives_bind (named ns fun c hc => hn.child (List.mem_append_right _ hc))
      fun vals hvals => ?_
    exact arrives_here (b := ((c, { args := v :: vs, named := vals }) : Callee))
      ⟨hc, given hv hvs hvals⟩
  | test p operand name args negated =>
    unfold HandsOn
    rw [eval]
    refine arrives_bind (capability .test name) fun c hc => ?_
    refine arrives_bind (S.eval true operand (hn.child (by simp [Node.children]))) fun v hv => ?_
    refine arrives_bind (each args fun c hc => hn.child (List.mem_cons_of_mem _ hc))
      fun vs hvs => ?_
    exact arrives_here (b := ((c, { args := v :: vs }) : Callee))
      ⟨hc, given (hv.imp_right And.right) hvs (by simp)⟩
  | _ => trivial

end Values

/-! ### Lookups -/

/-- Whether it is evaluated strictly makes no difference to any node but lookups. -/
theorem eval_of_not_lookup {links : Links} {setting : Setting} {n : Node} (lenient : Bool)
    (h : n.isLookup = false) : eval links setting lenient n = eval links setting false n := by
  cases n <;> simp only [Node.isLookup, reduceCtorEq] at h <;> unfold eval <;> rfl

/-- What a strict evaluation does in place of a lenient one: it has the same result, unless nothing
    has been found. Then it ends with the error of the lookup that has found nothing, in the state
    that the lenient one has reached. -/
def Strictly (links : Links) (setting : Setting) (n : Node) (s t : RenderState) (v : Value) :
    Prop :=
  (v ≠ .undefined ∧ eval links setting false n s = (.ok v, t)) ∨
    (v = .undefined ∧ ∃ m ∈ n.preorder, m.isLookup = true ∧
      eval links setting false n s = undefinedAt m t)

/-- The error of a lookup that has found nothing. -/
theorem undefinedAt_eq (n : Node) (s : RenderState) :
    ∃ e : RuntimeError, e.kind = .undefinedName n.describe s.stack.visibleNames ∧
      ∀ {α : Type}, (undefinedAt n : Render α) s = (.error (.runtime e), s) := by
  unfold undefinedAt
  cases s.place with
  | none => exact ⟨_, rfl, rfl⟩
  | some l => exact ⟨_, rfl, rfl⟩

namespace Values

variable {links : Links} {setting : Setting} {ts : Table Template}

/-- A lookup that finds nothing is an error of a strict evaluation. -/
theorem strictly_of_found {n : Node} (hn : n.isLookup = true) {s t : RenderState} {v : Value}
    (h : eval links setting false n s = Render.found false n v t) :
    Strictly links setting n s t v := by
  unfold Render.found at h
  split at h
  · rename_i hv
    refine Or.inr ⟨?_, n, n.mem_preorder_self, hn, h⟩
    simpa [Value.isUndefined_iff] using hv
  · rename_i hv
    exact Or.inl ⟨fun hu => hv (by rw [hu]; rfl), h⟩

/-- A lookup in what has not been found ends with the error of that. -/
theorem strictly_of_operand {n operand : Node} (hn : operand ∈ n.children)
    {rest : Value → Render Value} {s t : RenderState} {w : Value}
    (heval : eval links setting false n = eval links setting false operand >>= rest)
    (hw : w.isUndefined = true) (h : Strictly links setting operand s t w) :
    Strictly links setting n s t .undefined := by
  obtain rfl : w = .undefined := Value.isUndefined_iff.1 hw
  obtain ⟨-, m, hm, hlookup, hs⟩ := h.resolve_left fun h => h.1 rfl
  refine Or.inr ⟨rfl, m, Node.mem_preorder_of_child hn m hm, hlookup, ?_⟩
  rw [heval]
  exact bind_of_error hs

/-- A lookup goes on in what has been found as a strict one does. -/
theorem strictly_present {operand : Node} {s t : RenderState} {w : Value}
    (hw : ¬w.isUndefined = true) (h : Strictly links setting operand s t w) :
    eval links setting false operand s = (.ok w, t) :=
  (h.resolve_right fun h => hw (by rw [h.1]; rfl)).2

/-- What is no lookup has a result whether or not it is evaluated strictly. -/
theorem strictly_of_not_lookup {n : Node} (hn : n.isLookup = false) {s t : RenderState} {v : Value}
    (h : eval links setting true n s = (.ok v, t))
    (hproper : eval links setting false n s = (.ok v, t) → v.Proper) :
    Strictly links setting n s t v := by
  rw [eval_of_not_lookup true hn] at h
  exact Or.inl ⟨(hproper h).ne_undefined, h⟩

/-- A lenient evaluation that ends with a result does what the strict one does, but for the error of
    the lookup that has found nothing. -/
theorem strictly (hproper : ∀ n : Node, n.Every Node.Literal → ∀ s, Sound ts s → ∀ v t,
      eval links setting false n s = (.ok v, t) → v.Proper) :
    ∀ n : Node, n.Every Node.Literal → ∀ {s t v}, Sound ts s →
      eval links setting true n s = (.ok v, t) → Strictly links setting n s t v
  | .name p name, _, s, t, v, _, h => by
    rw [eval] at h
    obtain ⟨w, u, hw, h⟩ := bind_eq_done h
    rw [found_lenient] at h
    cases h
    exact strictly_of_found rfl (by rw [eval, bind_of_done hw])
  | .attr p operand name, hn, s, t, v, hs, h => by
    have hchild : operand ∈ (Node.attr p operand name).children := by simp [Node.children]
    rw [eval] at h
    obtain ⟨w, u, hw, h⟩ := bind_eq_done h
    have hoperand := strictly hproper operand (hn.child hchild) hs hw
    rw [Bool.true_and] at h
    split at h
    · -- nothing was found before this step, which the strict lookup has refused there
      rename_i hu
      cases h
      exact strictly_of_operand hchild (by rw [eval]) hu hoperand
    · rename_i hu
      obtain ⟨x, y, hx, h⟩ := bind_eq_done h
      rw [found_lenient] at h
      cases h
      refine strictly_of_found rfl ?_
      rw [eval, bind_of_done (strictly_present hu hoperand), Bool.false_and]
      exact bind_of_done hx
  | .item p operand key, hn, s, t, v, hs, h => by
    have hchild : operand ∈ (Node.item p operand key).children := by simp [Node.children]
    rw [eval] at h
    obtain ⟨w, u, hw, h⟩ := bind_eq_done h
    have hoperand := strictly hproper operand (hn.child hchild) hs hw
    rw [Bool.true_and] at h
    split at h
    · rename_i hu
      cases h
      exact strictly_of_operand hchild (by rw [eval]) hu hoperand
    · rename_i hu
      obtain ⟨x, y, hx, h⟩ := bind_eq_done h
      rw [found_lenient] at h
      cases h
      refine strictly_of_found rfl ?_
      rw [eval, bind_of_done (strictly_present hu hoperand), Bool.false_and]
      exact bind_of_done hx
  | .const .., hn, s, t, v, hs, h | .list .., hn, s, t, v, hs, h | .object .., hn, s, t, v, hs, h
  | .call .., hn, s, t, v, hs, h | .macroCall .., hn, s, t, v, hs, h
  | .filter .., hn, s, t, v, hs, h | .test .., hn, s, t, v, hs, h | .arith .., hn, s, t, v, hs, h
  | .unary .., hn, s, t, v, hs, h | .compare .., hn, s, t, v, hs, h | .logic .., hn, s, t, v, hs, h
  | .choice .., hn, s, t, v, hs, h | .concat .., hn, s, t, v, hs, h | .output .., hn, s, t, v, hs, h
  | .data .., hn, s, t, v, hs, h | .raw .., hn, s, t, v, hs, h | .filterBlock .., hn, s, t, v, hs, h
  | .assign .., hn, s, t, v, hs, h | .block .., hn, s, t, v, hs, h | .super .., hn, s, t, v, hs, h
  | .include .., hn, s, t, v, hs, h | .importing .., hn, s, t, v, hs, h
  | .extends .., hn, s, t, v, hs, h | .template .., hn, s, t, v, hs, h
  | .macroDef .., hn, s, t, v, hs, h | .param .., hn, s, t, v, hs, h | .branch .., hn, s, t, v, hs, h
  | .loop .., hn, s, t, v, hs, h | .leave .., hn, s, t, v, hs, h | .next .., hn, s, t, v, hs, h =>
    strictly_of_not_lookup rfl h (hproper _ hn s hs v t)

end Values

end Render

namespace Environment

open Render Values

/-- A tree that prints the items of an array and a name with a default for what is missing. -/
def inventory : Document :=
  { body :=
      [.assign {} "items" (.list {} [.const {} (.int 1), .const {} .null]) false,
       .loop {} "item" (.name {} "items") [.output {} (.name {} "item")] [] none none,
       .output {} (.filter {} (.attr {} (.name {} "shelf") "label") "default"
         [.const {} (.text "none")] [])] }

/-- The environment of a render of one tree. -/
def warehouse : Environment := forOneOff {} false

example : ((warehouse.resolveOneOff inventory).toOption.bind fun r =>
    (warehouse.renderOneOff r.1 r.2 {}).toOption) = some "1none" := by
  decide +kernel

end Environment

end Stencil
