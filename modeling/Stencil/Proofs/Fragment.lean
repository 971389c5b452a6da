import Stencil.Proofs.Code
import Stencil.Proofs.Definition

/-! Fragments of templates and the ways on which renders halt. A *fragment* is the body of a
    template, of a block or of a macro that is run from a standpoint; a macro binds its parameters
    first. The statements of a fragment open other ones, of the same template or of others. A render
    that halts does so at a *spot* of each fragment that is open: at a line of one of its statements,
    or while its parameters are bound, where no line is known. -/

namespace Stencil

open Lineage Render

namespace Node

/-- The statements in the bodies of a node. -/
def bodies : Node → List Node
  | .block _ _ body | .macroDef _ _ _ body => body
  | n => n.inner

/-- The calls of macros in an expression. -/
def macroCalls (n : Node) : List Node := n.preorder.filter isMacroCall

/-- A statement executes another one as a part of itself. -/
inductive Holds : Node → Node → Prop
  | self {n} : Holds n n
  | inner {n m k} : m ∈ n.inner → Holds m k → Holds n k

/-- A statement has a line, and so have all statements in its tree. -/
def Numbered (n : Node) : Prop :=
  n.pos.line ≠ 0 ∧ n.Every fun m => ∀ k ∈ m.bodies, k.pos.line ≠ 0

end Node

/-- The statements of a tree. -/
def Document.statements (d : Document) : List Node :=
  d.body ++ (d.body.flatMap Node.preorder).flatMap Node.bodies

/-- The body of a template, of a block or of a macro with its parameters, as it is run from a
    standpoint. -/
structure Fragment where
  standpoint : Standpoint
  params : List Param := []
  body : List Node

namespace Fragment

/-- The name of the template that a fragment belongs to. -/
def name (a : Fragment) : String := a.standpoint.owner.name

/-- Runs a fragment with what a call of a macro has bound. -/
def run (calls : Standpoint → Calls) (a : Fragment) (fullName : String)
    (bound : List (String × Value)) : Render Unit := do
  assignParams (calls a.standpoint) fullName bound a.params
  (calls a.standpoint).body a.body

/-- At a statement of a fragment the line is that of the statement or of one that it executes as a
    part of itself. While parameters are bound there is none. -/
inductive At (a : Fragment) : Option Node → Int → Prop
  | binding (h : a.params ≠ []) : At a none 0
  | statement {m n k : Node} (hm : m ∈ a.body) (hn : m.Holds n) (hk : n.Holds k) :
    At a (some n) k.pos.line

/-- The nodes that may open fragments at a statement, which are the statement itself and the calls
    in its operands, or while parameters are bound. -/
def parts (a : Fragment) : Option Node → List Node
  | some n => n :: n.operands.flatMap Node.macroCalls
  | none => (a.params.filterMap Param.default).flatMap Node.macroCalls

end Fragment

/-- The fragment that a node opens where it is run from a standpoint: the definition of a block that
    comes first, the one that comes next, the body of the last template of an included lineage, or a
    macro of a registered template. -/
inductive Standpoint.Opens (ts : Table Template) (σ : Standpoint) : Node → Fragment → Prop
  | block {p name body owner b rest position chain}
    (h : definer? name σ.lineage = some (owner, b, rest)) :
    Opens ts σ (.block p name body)
      { standpoint := { σ with owner, running := some ⟨name, owner :: rest, position, chain⟩ }
        body := b.body }
  | own {p name body position chain} (h : definer? name σ.lineage = none) :
    Opens ts σ (.block p name body)
      { standpoint := { σ with running := some ⟨name, [σ.owner], position, chain⟩ }, body }
  | super {p r owner b rest position} (hr : σ.running = some r)
    (h : definer? r.block r.lineage.tail = some (owner, b, rest)) :
    Opens ts σ (.super p)
      { standpoint := { σ with owner, running := some { r with lineage := owner :: rest, position } }
        body := b.body }
  | included {p names ignoreMissing t root} (h : names.findSome? ts.get? = some t)
    (hroot : (lineageOf ts t).getLast? = some root) :
    Opens ts σ (.include p names ignoreMissing)
      { standpoint := ⟨lineageOf ts t, root, σ.running⟩, body := root.document.body }
  | call {p space name args named t m} (ht : Registered ts t) (hm : t.macros.get? name = some m)
    (hself : space = "self" → t = σ.owner) :
    Opens ts σ (.macroCall p space name args named)
      { standpoint := { σ with owner := t, running := none }, params := m.params, body := m.body }

/-- A statement of a fragment at one of its lines, or the binding of its parameters. -/
structure Spot where
  fragment : Fragment
  statement : Option Node
  line : Int

/-- A spot as a step on the way to an error. -/
def Spot.step (x : Spot) : Step := (some x.fragment.name, x.line)

/-- The line of the last spot that has one. -/
def Spot.nearestLine : List Spot → Int
  | [] => 0
  | x :: rest => if nearestLine rest = 0 then x.line else nearestLine rest

/-- The render is in a template, at a line, and has come there by a trail. -/
def RenderState.Stands (s : RenderState) (name : String) (line : Int) (trail : List Step) : Prop :=
  ∃ here, s.place = some here ∧ here.template = some name ∧ here.line = line ∧ here.trail = trail

/-- The place at a line of a fragment to which a render has come by a trail. -/
def Fragment.place (a : Fragment) (line : Int) (trail : List Step) : Location :=
  { template := some a.name, line, trail }

/-- A fragment to which a render comes by a trail halts at a line. -/
def Fragment.Halts (setting : Setting) (a : Fragment) (trail : List Step) (line : Int) (h : Halt) :
    Prop :=
  ∃ depth fullName bound s t, s.Stands a.name 0 trail ∧
    a.run (prescribed depth setting) fullName bound s = (.error h, t) ∧ t.Stands a.name line trail

/-- A halt has arisen at a place: as a fault, or as an error that tells this place or none. -/
def Halt.Arises (here : Location) (h : Halt) : Prop :=
  ∀ e, h = .problem (.template (.runtime e)) → e.Unplaced ∨ e.At here

/-- The spots at which a render halts that has come to a fragment by a trail, one in each fragment
    that is open, the outermost first; with the error that leaves the fragment. In the last one the
    error arises, and the others it passes. -/
inductive Way (setting : Setting) : List Step → Fragment → RuntimeError → List Spot → Prop
  | last {trail a n line h e} (hline : a.At n line) (hhalts : a.Halts setting trail line h)
    (harises : h.Arises (a.place line trail))
    (he : located (a.place line trail) h = .problem (.template (.runtime e))) :
    Way setting trail a e [⟨a, n, line⟩]
  | on {trail a n line k b inner spots} (hline : a.At n line)
    (hhalts : a.Halts setting trail line (.problem (.template (.runtime inner))))
    (hk : k ∈ a.parts n) (hopens : a.standpoint.Opens setting.templates k b)
    (h : Way setting (trail ++ [(some a.name, line)]) b inner spots) :
    Way setting trail a (inner.locate (some a.name) (some line) trail) (⟨a, n, line⟩ :: spots)

/-- An error tells the spots at which a render halts: the template of the last one, those before it
    as its trail, and the nearest line. -/
structure RuntimeError.Tells (e : RuntimeError) (trail : List Step) (spots : List Spot) : Prop where
  template : e.template = spots.getLast?.map (·.fragment.name)
  line : e.line.getD 0 = Spot.nearestLine spots
  trail : e.trail = trail ++ spots.dropLast.map Spot.step

/-! ### Statements with lines -/

namespace Node

theorem bodies_subset_children (n : Node) : n.bodies ⊆ n.children := by
  have hinner := inner_subset_children n
  cases n with
  | block => exact List.Subset.refl _
  | macroDef => exact List.subset_append_right _ _
  | _ => exact hinner

theorem inner_subset_bodies (n : Node) : n.inner ⊆ n.bodies := by
  have hsame := List.Subset.refl n.inner
  cases n with
  | block | macroDef => exact List.nil_subset _
  | _ => exact hsame

theorem Holds.trans {n m k : Node} (h : n.Holds m) (hk : m.Holds k) : n.Holds k := by
  induction h with
  | self => exact hk
  | inner hm _ ih => exact .inner hm (ih hk)

/-- Where all statements below a node have lines, those in its bodies are numbered. -/
theorem numbered_of_bodies {n m : Node} (h : n.Every fun m => ∀ k ∈ m.bodies, k.pos.line ≠ 0)
    (hm : m ∈ n.bodies) : m.Numbered :=
  ⟨h.self m hm, h.child (bodies_subset_children n hm)⟩

theorem Numbered.bodies {n m : Node} (h : n.Numbered) (hm : m ∈ n.bodies) : m.Numbered :=
  numbered_of_bodies h.2 hm

theorem Numbered.holds {n m : Node} (hn : n.Numbered) (h : n.Holds m) : m.Numbered := by
  induction h with
  | self => exact hn
  | inner hm _ ih => exact ih (hn.bodies (inner_subset_bodies _ hm))

end Node

/-- All statements in the code of a template have lines. -/
structure Template.Numbered (t : Template) : Prop where
  body : ∀ n ∈ t.document.body, n.Numbered
  block : ∀ {name b}, t.blocks.get? name = some b → ∀ n ∈ b.body, n.Numbered
  macros : ∀ {name m}, t.macros.get? name = some m → ∀ n ∈ m.body, n.Numbered

theorem Lineage.Resolved.numbered {ts : Table Template} (hset : Resolved ts) {t : Template}
    (ht : Registered ts t) (h : ∀ n ∈ t.document.statements, n.pos.line ≠ 0) : t.Numbered := by
  obtain ⟨name, hname⟩ := ht
  have hbuilt := hset.built name t hname
  have hbelow : ∀ n ∈ t.document.body.flatMap Node.preorder,
      n.Every fun m => ∀ k ∈ m.bodies, k.pos.line ≠ 0 := by
    intro n hn m hm k hk
    obtain ⟨top, htop, hn⟩ := List.mem_flatMap.1 hn
    have hmem : m ∈ t.document.body.flatMap Node.preorder :=
      List.mem_flatMap.2 ⟨top, htop, (Node.preorder_sublist hn).subset hm⟩
    exact h k (List.mem_append_right _ (List.mem_flatMap.2 ⟨m, hmem, hk⟩))
  have htop {n : Node} (hn : n ∈ t.document.body) : n ∈ t.document.body.flatMap Node.preorder :=
    List.mem_flatMap.2 ⟨n, hn, n.mem_preorder_self⟩
  refine ⟨fun n hn => ⟨h n (List.mem_append_left _ hn), hbelow n (htop hn)⟩, fun hb n hn => ?_,
    fun hm n hn => ?_⟩
  · obtain ⟨p, hmem, -⟩ := hbuilt.get?_blocks.1 hb
    exact Node.numbered_of_bodies (hbelow _ hmem) hn
  · obtain ⟨p, params, body, hmem, rfl⟩ := hbuilt.macro_mem hm
    exact Node.numbered_of_bodies (hbelow _ (htop hmem)) hn

/-! ### Fragments of a set -/

/-- A fragment of registered templates whose statements have lines. -/
structure Fragment.Sound (ts : Table Template) (a : Fragment) : Prop where
  owner : Registered ts a.standpoint.owner
  lineage : ∀ t ∈ a.standpoint.lineage, Registered ts t
  running : ∀ r, a.standpoint.running = some r → ∀ t ∈ r.lineage.tail, Registered ts t
  numbered : ∀ n ∈ a.body, n.Numbered

/-- The first definer in a part of a lineage, and what comes after it, is registered. -/
theorem Lineage.registered_of_definer? {ts : Table Template} {name : String}
    {lineage rest : List Template} {owner : Template} {b : Block}
    (h : definer? name lineage = some (owner, b, rest)) (hknown : ∀ t ∈ lineage, Registered ts t) :
    Registered ts owner ∧ ∀ t ∈ rest, Registered ts t := by
  have hsuffix := (definer?_eq_some h).2
  exact ⟨hknown owner (hsuffix.subset (List.mem_cons_self ..)),
    fun t ht => hknown t (hsuffix.subset (List.mem_cons_of_mem _ ht))⟩

namespace Fragment

variable {ts : Table Template} {a b : Fragment}

/-- Statements have lines. -/
theorem At.line_ne_zero {n : Node} {line : Int} (h : a.At (some n) line)
    (ha : ∀ m ∈ a.body, m.Numbered) : line ≠ 0 := by
  cases h with
  | statement hm hn hk => exact ((ha _ hm).holds (hn.trans hk)).1

theorem numbered_of_part {n : Option Node} {line : Int} (hn : a.At n line)
    (ha : ∀ m ∈ a.body, m.Numbered) {p : Pos} {name : String} {body : List Node}
    (hk : .block p name body ∈ a.parts n) : ∀ m ∈ body, m.Numbered := by
  have hcalls : ∀ m ∈ body, ∀ ns : List Node,
      .block p name body ∉ ns.flatMap Node.macroCalls := by
    simp [Node.macroCalls, Node.isMacroCall]
  intro m hm
  cases hn with
  | binding => exact absurd hk (hcalls m hm _)
  | statement htop hholds =>
    rcases List.mem_cons.1 hk with rfl | hk
    · exact ((ha _ htop).holds hholds).bodies hm
    · exact absurd hk (hcalls m hm _)

/-- What a node of a fragment opens is a fragment of the set. -/
theorem Sound.opens (ha : a.Sound ts) (hts : ∀ t, Registered ts t → t.Numbered) {k : Node}
    (hk : ∀ p name body, k = .block p name body → ∀ n ∈ body, n.Numbered)
    (h : a.standpoint.Opens ts k b) : b.Sound ts := by
  -- each way to open a node leads to an owner that is registered, with the rest of its chain
  cases h with
  | @block p name body owner d rest position chain h =>
    obtain ⟨howner, hrest⟩ := registered_of_definer? h ha.lineage
    refine ⟨howner, ha.lineage, ?_, (hts owner howner).block (definer?_eq_some h).1⟩
    rintro _ ⟨⟩
    exact hrest
  | @own p name body position chain h =>
    refine ⟨ha.owner, ha.lineage, ?_, hk p name body rfl⟩
    rintro _ ⟨⟩
    simp
  | @super p r owner d rest position hr h =>
    obtain ⟨howner, hrest⟩ := registered_of_definer? h (ha.running r hr)
    refine ⟨howner, ha.lineage, ?_, (hts owner howner).block (definer?_eq_some h).1⟩
    rintro _ ⟨⟩
    exact hrest
  | @included p names ignoreMissing t root h hroot =>
    obtain ⟨name, -, hname⟩ := List.exists_of_findSome?_eq_some h
    have hknown : ∀ u ∈ lineageOf ts t, Registered ts u :=
      fun u hu => registered_of_mem_lineageOf hname hu
    have howner := hknown root (List.mem_of_getLast? hroot)
    exact ⟨howner, hknown, ha.running, (hts root howner).body⟩
  | @call p space name args named t m ht hm hself =>
    exact ⟨ht, ha.lineage, by rintro _ ⟨⟩, (hts t ht).macros hm⟩

end Fragment

/-! ### Errors on their way -/

theorem eq_of_runtime_eq {e e' : RuntimeError}
    (h : Halt.runtime e' = .problem (.template (.runtime e))) : e' = e := by
  unfold Halt.runtime Problem.ofRuntime at h
  split at h
  · cases h
    rfl
  · cases h

/-- To miss a template that is looked up is no runtime error. -/
theorem ne_runtime_of_template {setting : Setting} {name : String} {q : Problem}
    (hq : Environment.ofTemplate (setting.template name) = .error q) (e : RuntimeError) :
    q ≠ .template (.runtime e) := by
  rintro rfl
  unfold Setting.template at hq
  split at hq <;> cases hq

theorem ne_runtime_of_templateOf {setting : Setting} {v : Value} {q : Problem}
    (hq : setting.templateOf v = .error q) (e : RuntimeError) : q ≠ .template (.runtime e) := by
  rintro rfl
  unfold Setting.templateOf at hq
  split at hq
  · cases hq
  · split at hq
    · unfold Problem.notFound at hq
      split at hq <;> cases hq
    · cases hq

/-- The runtime error of a call does not tell a place, or it is the one of the capability. -/
theorem unplaced_or_eq_of_calledBy {kind : CapabilityKind} {c : Capability} {args : List Value}
    {named : List (String × Value)} {p : Problem} {e : RuntimeError}
    (h : calledBy kind c args named (.problem p) = .problem (.template (.runtime e))) :
    e.Unplaced ∨ p = .template (.runtime e) := by
  have failed (h : Halt.runtime (.capabilityFailed kind.name c.name p args named) =
      .problem (.template (.runtime e))) : e.Unplaced := by
    obtain rfl := eq_of_runtime_eq h
    exact ⟨rfl, rfl, rfl⟩
  unfold calledBy at h
  dsimp only at h
  split at h
  · exact .inl (failed h)
  · split at h
    · exact .inr (Halt.problem.inj h)
    · split at h
      · exact .inr (Halt.problem.inj h)
      · exact .inl (failed h)
  · exact .inr (Halt.problem.inj h)

/-- An error that arises at a place tells it when it has left the code of its template. -/
theorem Halt.Arises.located {here : Location} {h : Halt} {e : RuntimeError} (harises : h.Arises here)
    (he : Render.located here h = .problem (.template (.runtime e))) :
    e.template = here.template ∧ e.line.getD 0 = here.line ∧ e.trail = here.trail := by
  unfold Render.located at he
  split at he
  · rename_i e'
    cases he
    rcases harises e' rfl with h | h
    · simp [RuntimeError.locate, h.template, h.line, h.trail]
    · refine ⟨?_, ?_, ?_⟩
      · simp [RuntimeError.locate, h.template]
      · by_cases hline : here.line = 0 <;>
          simp [RuntimeError.locate, h.line, Location.knownLine, hline]
      · rcases h.trail with htrail | htrail
        · simp [RuntimeError.locate, htrail]
        · simp [RuntimeError.locate, htrail]
  · obtain rfl := eq_of_runtime_eq he
    refine ⟨rfl, ?_, rfl⟩
    by_cases hline : here.line = 0 <;> simp [Location.knownLine, hline]
  · rename_i hother _
    exact absurd he (hother e)

namespace RuntimeError

variable {e inner : RuntimeError} {a : Fragment} {n : Option Node} {line : Int} {trail : List Step}

theorem tells_here (h : e.template = some a.name ∧ e.line.getD 0 = line ∧ e.trail = trail) :
    e.Tells trail [⟨a, n, line⟩] := by
  refine ⟨h.1, ?_, ?_⟩
  · simp [h.2.1, Spot.nearestLine]
  · simp [h.2.2]

/-- An error that has come out of a fragment tells one spot more when it has left the next. -/
theorem tells_inside {spots : List Spot} (hspots : spots ≠ [])
    (h : inner.Tells (trail ++ [(some a.name, line)]) spots) :
    (inner.locate (some a.name) (some line) trail).Tells trail (⟨a, n, line⟩ :: spots) := by
  obtain ⟨x, rest, rfl⟩ := List.exists_cons_of_ne_nil hspots
  refine ⟨?_, ?_, ?_⟩
  · have hlast := h.template
    rw [List.getLast?_cons_cons]
    cases hx : (x :: rest).getLast? with
    | none => simp at hx
    | some y =>
      rw [hx] at hlast
      simp [locate, hlast]
  · have hline := h.line
    rw [Spot.nearestLine, ← hline]
    unfold locate
    split <;> simp_all
  · have htrail := h.trail
    simp [locate, htrail, Spot.step]

end RuntimeError

namespace Way

variable {setting : Setting} {trail : List Step} {a : Fragment} {e : RuntimeError}
  {spots : List Spot}

/-- A way has a spot in the fragment that it begins with. -/
theorem ne_nil (h : Way setting trail a e spots) : spots ≠ [] := by
  cases h <;> simp

/-- Spots at statements have lines. -/
theorem line_ne_zero (h : Way setting trail a e spots) (ha : a.Sound setting.templates)
    (hts : ∀ t, Registered setting.templates t → t.Numbered) :
    ∀ x ∈ spots, ∀ n, x.statement = some n → x.line ≠ 0 := by
  induction h with
  | last hline _ _ _ =>
    rintro x hx n hn
    obtain rfl := List.mem_singleton.1 hx
    obtain rfl : _ = some n := hn
    exact hline.line_ne_zero ha.numbered
  | on hline _ hk hopens _ ih =>
    rintro x hx n hn
    rcases List.mem_cons.1 hx with rfl | hx
    · obtain rfl : _ = some n := hn
      exact hline.line_ne_zero ha.numbered
    · refine ih (ha.opens hts ?_ hopens) x hx n hn
      rintro p name body rfl
      exact Fragment.numbered_of_part hline ha.numbered hk

/-- A fragment without parameters is left at one of its statements. -/
theorem head_statement (h : Way setting trail a e spots) (ha : a.params = []) :
    ∃ x rest n, spots = x :: rest ∧ x.statement = some n := by
  cases h with
  | last hline _ _ _ =>
    cases hline with
    | binding h => exact absurd ha h
    | statement => exact ⟨_, _, _, rfl, rfl⟩
  | on hline _ _ _ _ =>
    cases hline with
    | binding h => exact absurd ha h
    | statement => exact ⟨_, _, _, rfl, rfl⟩

/-- An error that leaves a fragment tells the way from there. -/
theorem tells (h : Way setting trail a e spots) : e.Tells trail spots := by
  induction h with
  | last _ _ harises he => exact RuntimeError.tells_here (harises.located he)
  | on _ _ _ _ h ih => exact RuntimeError.tells_inside h.ne_nil ih

end Way

namespace Spot

theorem nearestLine_ne_zero {x : Spot} (rest : List Spot) (h : x.line ≠ 0) :
    nearestLine (x :: rest) ≠ 0 := by
  rw [nearestLine]
  split
  · exact h
  · assumption

/-- The nearest line is that of the last spot if it has one. -/
theorem nearestLine_append {x : Spot} (h : x.line ≠ 0) :
    ∀ spots, nearestLine (spots ++ [x]) = x.line
  | [] => by simp [nearestLine]
  | y :: rest => by
    rw [List.cons_append, nearestLine, nearestLine_append h rest, if_neg h]

end Spot

end Stencil
