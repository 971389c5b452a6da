import Mathlib.Order.Filter.AtTopBot.Basic
import Mathlib.Order.Filter.Finite
import Stencil.Proofs.Definition
import Stencil.Proofs.Inheritance

/-! Renders that come to an end. Macro calls and includes use up what their limits allow, so that
    what they start has less left; a block in the code of a definition and `super` only lead to
    other definitions. Where no definition leads back to itself, the nesting of a render is
    therefore bounded, whatever the data and the output: by induction on what the limits still
    allow, within that along the definitions, and within those on the trees of blocks that the
    lineage in effect does not know. How deep a nesting is enough is not counted: all sufficiently
    deep ones are. -/

open Filter (atTop)

namespace Stencil

open Lineage Render

/-- How many macro calls and includes the limits still allow. -/
def Level.budget (l : Level) : Nat :=
  (l.macroLimit - l.macroDepth).toNat +
    ((l.place.map fun p => (p.limit - p.includeDepth).toNat).getD 0)

/-- Code of a set of templates runs, and the limits allow less than a bound. -/
structure Level.Bounded (ts : Table Template) (bound : Nat) (l : Level) : Prop where
  frames : ∀ f ∈ l.frames, Registered ts f.template
  targets : ∀ t ∈ l.targets, Registered ts t
  within : l.budget < bound

/-- Capabilities return or raise where they are given a way to render templates. -/
def Setting.Returns (setting : Setting) (render : String → Except Halt String) : Prop :=
  ∀ kind name c, setting.env.lookup kind name = .ok c → ∀ args named,
    c.call { args, named, render } ≠ .error .exhausted

namespace Level.Bounded

variable {ts : Table Template} {bound : Nat} {i : Level}

theorem inScope (h : Bounded ts bound i) {f : Frame} (hf : Registered ts f.template) :
    Bounded ts bound (i.inScope f) where
  frames := List.forall_mem_cons.2 ⟨hf, h.frames⟩
  targets := h.targets
  within := by
    have hwithin := h.within
    unfold Level.budget Level.inScope at *
    dsimp only
    split <;> omega

/-- A macro call uses up one that the limit allows. -/
theorem call (h : Bounded ts (bound + 1) i) {name : String} {t : Template} (ht : Registered ts t)
    (hlimit : (i.macroDepth : Int) < i.macroLimit) :
    Bounded ts bound (i.inScope (.call name t)) where
  frames := List.forall_mem_cons.2 ⟨ht, h.frames⟩
  targets := h.targets
  within := by
    have hwithin := h.within
    unfold Level.budget at *
    change (i.macroLimit - (i.macroDepth + 1 : Nat)).toNat +
      (i.place.map fun p => (p.limit - p.includeDepth).toNat).getD 0 < bound
    omega

theorem inTemplate (h : Bounded ts bound i) (name : String) (line : Int) :
    Bounded ts bound (i.inTemplate name line) where
  frames := h.frames
  targets := h.targets
  within := by
    have hwithin := h.within
    unfold Level.budget Level.inTemplate at *
    cases hp : i.place <;> simpa [hp, Location.enter] using hwithin

/-- An include uses up one that the limit allows. -/
theorem included (h : Bounded ts (bound + 1) i) {t : Template} (ht : Registered ts t)
    (hmay : i.MayInclude) : Bounded ts bound (i.including t) where
  frames := h.frames
  targets := List.forall_mem_cons.2 ⟨ht, h.targets⟩
  within := by
    obtain ⟨p, hp, hlimit⟩ := hmay
    have hwithin := h.within
    unfold Level.budget Level.including deeper at *
    simp only [hp, Option.map_some, Option.getD_some] at hwithin ⊢
    omega

end Level.Bounded

/-! ### Code that ends -/

/-- What `super` goes on with: the block and the templates after the one whose definition runs. -/
def Running.above (r : Running) : String × List Template := (r.block, r.lineage.tail)

/-- The definition that `super` leads to. -/
def Lineage.next? (above : Option (String × List Template)) : Option Definition :=
  above.bind fun (name, rest) => definition? name rest

/-- Code of a set of templates is run with a lineage in effect. -/
structure Standpoint.At (ts : Table Template) (lineage : List Template)
    (above : Option (String × List Template)) (σ : Standpoint) : Prop where
  lineage : σ.lineage = lineage
  owner : Registered ts σ.owner
  above : σ.running.map Running.above = above
  known : ∀ r, σ.running = some r → ∀ t ∈ r.lineage.tail, Registered ts t

namespace Render

/-- Computations that do not run out of depth where the limits allow less than a bound. -/
abbrev ending (ts : Table Template) (bound : Nat) : Congruence :=
  (levels (Level.Bounded ts bound) False).runs.congruence

/-- Statements and expressions end, nested at most so deep, wherever they are run with a lineage in
    effect. -/
structure Finishes (setting : Setting) (bound : Nat) (lineage : List Template)
    (above : Option (String × List Template)) (ns : List Node) (depth : Nat) : Prop where
  body : ∀ σ : Standpoint, σ.At setting.templates lineage above →
    (ending setting.templates bound).rel Eq ((prescribed depth setting σ).body ns)
      ((prescribed depth setting σ).body ns)
  value : ∀ σ : Standpoint, σ.At setting.templates lineage above → ∀ n ∈ ns,
    (ending setting.templates bound).rel (Same fun _ => True)
      ((prescribed depth setting σ).value n) ((prescribed depth setting σ).value n)

namespace Finishes

variable {setting : Setting} {bound depth : Nat} {lineage : List Template}
  {above : Option (String × List Template)} {σ : Standpoint}

/-- A definition ends where its code does. -/
theorem enter {r : Running} {owner : Template} {b : Block}
    (h : Finishes setting bound lineage (some r.above) b.body depth)
    (hlineage : σ.lineage = lineage) (howner : Registered setting.templates owner)
    (hknown : ∀ t ∈ r.lineage.tail, Registered setting.templates t) :
    (ending setting.templates bound).rel Eq (σ.enter (prescribed depth setting) r owner b)
      (σ.enter (prescribed depth setting) r owner b) := by
  have hat : Standpoint.At setting.templates lineage (some r.above)
      { σ with owner, running := some r } :=
    ⟨hlineage, howner, rfl, by rintro _ ⟨⟩; exact hknown⟩
  exact Levels.inTemplate (fun _ _ hi => hi.inTemplate _ _)
    (Levels.inScope (fun _ hi _ => hi.inScope howner) (h.body _ hat))

/-- A macro ends where its defaults and its body do with one call less left. -/
theorem runMacro {m : Macro} (hbody : Finishes setting bound lineage none m.body depth)
    (hdefaults : ∀ q ∈ m.params, ∀ n, q.default = some n →
      Finishes setting bound lineage none [n] depth)
    (hlineage : σ.lineage = lineage) {t : Template} (ht : Registered setting.templates t)
    (fullName : String) (args : List (String × Value)) :
    (ending setting.templates (bound + 1)).rel (Same fun _ => True)
      ((σ.links (prescribed depth setting) setting).runMacro t m fullName args)
      ((σ.links (prescribed depth setting) setting).runMacro t m fullName args) := by
  have hat : Standpoint.At setting.templates lineage none { σ with owner := t, running := none } :=
    ⟨hlineage, ht, rfl, by rintro _ ⟨⟩⟩
  have hparams : (ending setting.templates bound).rel Eq
      (assignParams (prescribed depth setting { σ with owner := t, running := none }) fullName args
        m.params)
      (assignParams (prescribed depth setting { σ with owner := t, running := none }) fullName args
        m.params) :=
    (ending setting.templates bound).assignParams (fun _ => Levels.assign _ _) (fun _ _ => trivial)
      m.params fun q hq n hn => (hdefaults q hq n hn).value _ hat n (by simp)
  have hinside := (ending setting.templates bound).seq hparams (hbody.body _ hat)
  refine (ending setting.templates (bound + 1)).bind (V := Same fun _ => True)
    (Levels.inScope (fun _ hi hcall => hi.call ht (hcall rfl))
      (Levels.inTemplate (fun _ _ hi => hi.inTemplate _ _) (Levels.captured hinside))) ?_
  rintro text _ ⟨rfl, -⟩
  exact (ending setting.templates (bound + 1)).done ⟨rfl, trivial⟩

/-- A template ends where the body of the last one of its lineage does. -/
theorem runRoot {running : Option Running}
    (h : ∀ root, lineage.getLast? = some root → Registered setting.templates root ∧
      Finishes setting bound lineage (running.map Running.above) root.document.body depth)
    (hknown : ∀ r, running = some r → ∀ t ∈ r.lineage.tail, Registered setting.templates t) :
    (ending setting.templates bound).rel Eq
      (Standpoint.runRoot (prescribed depth setting) running lineage)
      (Standpoint.runRoot (prescribed depth setting) running lineage) := by
  unfold Standpoint.runRoot
  split
  · exact (ending setting.templates bound).done rfl
  · rename_i root hroot
    obtain ⟨hregistered, hbody⟩ := h root hroot
    exact Levels.inTemplate (fun _ _ hi => hi.inTemplate _ _)
      (Levels.inScope (fun _ hi _ => hi.inScope hregistered)
        (hbody.body _ ⟨rfl, hregistered, rfl, hknown⟩))

/-- A block ends where the definition that comes first in the lineage does. -/
theorem runBlock {d : Definition} {name : String} (hd : definition? name lineage = some d)
    (h : Finishes setting bound lineage (some (d.block, d.rest)) d.body depth)
    (hknown : ∀ t ∈ lineage, Registered setting.templates t)
    (hσ : σ.At setting.templates lineage above) (body : List Node) :
    (ending setting.templates bound).rel Eq (σ.runBlock (prescribed depth setting) name body)
      (σ.runBlock (prescribed depth setting) name body) := by
  obtain ⟨⟨owner, b, rest⟩, hfound, rfl⟩ := Option.map_eq_some_iff.1 hd
  have hsuffix := (definer?_eq_some hfound).2
  unfold Standpoint.runBlock
  rw [hσ.lineage, hfound]
  exact h.enter hσ.lineage (hknown owner (hsuffix.subset (List.mem_cons_self ..)))
    fun t ht => hknown t (hsuffix.subset (List.mem_cons_of_mem _ ht))

/-- A block that the lineage does not know ends where its own body does. -/
theorem runOwnBlock {name : String} {body : List Node} (hd : definition? name lineage = none)
    (h : Finishes setting bound lineage (some (name, [])) body depth)
    (hσ : σ.At setting.templates lineage above) :
    (ending setting.templates bound).rel Eq (σ.runBlock (prescribed depth setting) name body)
      (σ.runBlock (prescribed depth setting) name body) := by
  unfold Standpoint.runBlock
  rw [hσ.lineage, Option.map_eq_none_iff.1 hd]
  exact Finishes.enter (b := ⟨name, body⟩) h hσ.lineage hσ.owner (by simp)

/-- `super` ends where the definition that comes next does. -/
theorem runSuper
    (h : ∀ d, next? above = some d →
      Finishes setting bound lineage (some (d.block, d.rest)) d.body depth)
    (hσ : σ.At setting.templates lineage above) :
    (ending setting.templates bound).rel Eq (σ.runSuper (prescribed depth setting))
      (σ.runSuper (prescribed depth setting)) := by
  have habove := hσ.above
  unfold Standpoint.runSuper
  cases hr : σ.running with
  | none => exact (ending setting.templates bound).raise _
  | some r =>
    rw [hr] at habove
    dsimp only
    cases hfound : definer? r.block r.lineage.tail with
    | none => exact (ending setting.templates bound).raise _
    | some found =>
      obtain ⟨owner, b, rest⟩ := found
      have hsuffix := (definer?_eq_some hfound).2
      have hnext := h ⟨r.block, owner, b.body, rest⟩ (by
        rw [← habove]
        exact Option.map_eq_some_iff.2 ⟨_, hfound, rfl⟩)
      exact Finishes.enter (b := b) hnext hσ.lineage
        (hσ.known r hr owner (hsuffix.subset (List.mem_cons_self ..)))
        fun t ht => hσ.known r hr t (hsuffix.subset (List.mem_cons_of_mem _ ht))

end Finishes

/-! ### One step -/

/-- What code that is run from a standpoint may start ends, blocks and `super` apart. -/
structure Ready (setting : Setting) (bound depth : Nat) (σ : Standpoint) : Prop where
  owner : Registered setting.templates σ.owner
  returns : setting.Returns (prescribed depth setting σ).render
  runMacro : ∀ t m, Registered setting.templates t → (∃ name, t.macros.get? name = some m) →
    ∀ fullName args, (ending setting.templates bound).rel (Same fun _ => True)
      ((σ.links (prescribed depth setting) setting).runMacro t m fullName args)
      ((σ.links (prescribed depth setting) setting).runMacro t m fullName args)
  included : ∀ t, Registered setting.templates t → (ending setting.templates bound).rel Eq
    (allowing t (Standpoint.runRoot (prescribed depth setting) σ.running
      (lineageOf setting.templates t)))
    (allowing t (Standpoint.runRoot (prescribed depth setting) σ.running
      (lineageOf setting.templates t)))

/-- What a node starts ends if it is a block or `super`. -/
structure Starts (setting : Setting) (bound depth : Nat) (σ : Standpoint) (n : Node) : Prop where
  block : ∀ p name body, n = .block p name body → (ending setting.templates bound).rel Eq
    (σ.runBlock (prescribed depth setting) name body)
    (σ.runBlock (prescribed depth setting) name body)
  super : ∀ p, n = .super p → (ending setting.templates bound).rel Eq
    (σ.runSuper (prescribed depth setting)) (σ.runSuper (prescribed depth setting))

/-- The search for macros meets registered templates. -/
def endingLookups (setting : Setting) (bound : Nat) : Lookups setting where
  toCongruence := ending setting.templates bound
  template := Registered setting.templates
  agree := fun s t => ∃ i, (levels (Level.Bounded setting.templates bound) False).runs.states i s t
  registered := setting.registered
  state := (levels _ _).runs.state
  target := by
    rintro s _ ⟨i, rfl, rfl, hi⟩
    exact ⟨rfl, fun x hx => hi.targets x (List.mem_of_head? hx)⟩
  active := Levels.active fun _ hi => hi.frames

namespace Ready

variable {setting : Setting} {bound depth : Nat} {σ : Standpoint}

theorem findMacro (h : Ready setting bound depth σ) (space name : String) :
    (ending setting.templates bound).rel
      (Same fun x => Registered setting.templates x.1 ∧ ∃ name, x.1.macros.get? name = some x.2)
      (σ.findMacro setting space name) (σ.findMacro setting space name) := by
  unfold Standpoint.findMacro
  split
  · cases hm : σ.owner.macros.get? name with
    | some m => exact (ending setting.templates bound).done ⟨rfl, h.owner, name, hm⟩
    | none => exact (ending setting.templates bound).raise _
  · exact (ending setting.templates bound).mono
      ((endingLookups setting bound).findMacro space name)
      fun x _ hx => ⟨hx.1, hx.2.1, name, hx.2.2⟩

/-- What nodes refer to ends, where blocks and `super` do. -/
def execution (h : Ready setting bound depth σ) :
    Execution (σ.links (prescribed depth setting) setting)
      (σ.links (prescribed depth setting) setting) setting setting where
  toCongruence := ending setting.templates bound
  node := Starts setting bound depth σ
  value := fun _ => True
  holds := fun t m => Registered setting.templates t ∧ ∃ name, t.macros.get? name = some m
  hereditary := Value.Hereditary.trivial
  const := fun _ => trivial
  find := (levels _ _).find
  undefinedAt := (levels _ _).undefinedAt
  lookup := .refl setting
  function := fun _ hc _ _ => (ending setting.templates bound).invoke rfl (fun _ _ => trivial)
    fun hdeep => absurd hdeep (h.returns _ _ _ hc _ _)
  filter := fun _ hc _ _ _ => (ending setting.templates bound).invoke rfl (fun _ _ => trivial)
    fun hdeep => absurd hdeep (h.returns _ _ _ hc _ _)
  test := fun _ hc _ _ => (ending setting.templates bound).mono
    ((ending setting.templates bound).invoke (p := fun _ => True) rfl (fun _ _ => trivial)
      fun hdeep => absurd hdeep (h.returns _ _ _ hc _ _)) fun _ _ hv => hv.1
  findMacro := fun _ => h.findMacro _ _
  runMacro := fun hm _ => h.runMacro _ _ hm.1 hm.2 _ _
  statement := Starts setting bound depth σ
  template := Registered setting.templates
  agree := (endingLookups setting bound).agree
  state := (endingLookups setting bound).state
  pending := fun ⟨_, hst, _⟩ => congrArg RenderState.pending hst
  active := (endingLookups setting bound).active
  proceed := (levels _ _).proceed
  requested := (levels _ _).requested
  request := Levels.request
  iteration := fun ht _ hm => Levels.inScope (fun _ hi _ => hi.inScope ht) hm
  data := fun _ => Levels.write _
  raw := fun _ => Levels.write _
  print := fun _ => (ending setting.templates bound).print (fun {s} (_ : True) => Levels.write s)
    (fun _ _ => trivial) (fun _ => trivial) fun _ _ => trivial
  assign := fun _ => Levels.assign _ _
  assignWide := fun _ => Levels.assignWide _ _
  filterBlock := fun _ hm hargs hnamed => (ending setting.templates bound).runFilter rfl
    Levels.write (Levels.captured hm) hargs hnamed
    fun hc hdeep => absurd hdeep (h.returns _ _ _ hc _ _)
  block := fun hnode => hnode.block _ _ _ rfl
  super := fun hnode => hnode.super _ rfl
  included := fun _ => (ending setting.templates bound).runInclude
    (fun hname => h.included _ ⟨_, hname⟩) _ _
  executed := fun h => h.self
  atLine := Levels.atLine

end Ready

/-! ### All sufficiently deep nestings -/

theorem eventually_forall_mem {α : Type} {l : List α} {p : α → Nat → Prop}
    (h : ∀ a ∈ l, ∀ᶠ depth in atTop, p a depth) : ∀ᶠ depth in atTop, ∀ a ∈ l, p a depth :=
  (Filter.eventually_all_finite (List.finite_toSet l)).2 h

/-- Statements and expressions end where the nesting may be deep enough. -/
def Ends (setting : Setting) (bound : Nat) (lineage : List Template)
    (above : Option (String × List Template)) (ns : List Node) : Prop :=
  ∀ᶠ depth in atTop, Finishes setting bound lineage above ns depth

variable {setting : Setting} {bound : Nat} {u : Template}

/-- Where all code ends with less left of the limits, whatever macros and includes start ends. -/
theorem eventually_ready
    (hprescribes : ∀ depth, Prescribes setting (calls depth setting) (prescribed depth setting))
    (hreturns : ∀ᶠ depth in atTop, setting.Returns (calls depth setting).render)
    (hless : ∀ u, Registered setting.templates u → ∀ above ns,
      Ends setting bound (lineageOf setting.templates u) above ns)
    (hu : Registered setting.templates u) (above : Option (String × List Template)) :
    ∀ᶠ depth in atTop, ∀ σ : Standpoint,
      σ.At setting.templates (lineageOf setting.templates u) above →
        Ready setting (bound + 1) depth σ := by
  -- there are finitely many macros and parameters, so one depth is enough for all of them
  have hmacros : ∀ᶠ depth in atTop, ∀ e ∈ setting.templates.entries, ∀ x ∈ e.2.macros.entries,
      Finishes setting bound (lineageOf setting.templates u) none x.2.body depth ∧
        ∀ q ∈ x.2.params, ∀ n, q.default = some n →
          Finishes setting bound (lineageOf setting.templates u) none [n] depth := by
    refine eventually_forall_mem fun e _ => eventually_forall_mem fun x _ =>
      (hless u hu none x.2.body).and (eventually_forall_mem fun q _ => ?_)
    cases q.default with
    | none => exact .of_forall fun _ _ h => nomatch h
    | some n =>
      filter_upwards [hless u hu none [n]] with depth h m hm
      rwa [← Option.some.inj hm]
  have hincludes : ∀ᶠ depth in atTop, ∀ e ∈ setting.templates.entries, ∀ root,
      (lineageOf setting.templates e.2).getLast? = some root →
        Finishes setting bound (lineageOf setting.templates e.2) above root.document.body
          depth := by
    refine eventually_forall_mem fun e he => ?_
    cases (lineageOf setting.templates e.2).getLast? with
    | none => exact .of_forall fun _ _ h => nomatch h
    | some root =>
      filter_upwards [hless e.2 ⟨e.1, Table.mem_entries_iff.1 he⟩ above root.document.body]
        with depth h m hm
      rwa [← Option.some.inj hm]
  filter_upwards [hreturns, hmacros, hincludes] with depth hreturns hmacros hincludes σ hσ
  refine ⟨hσ.owner, by rwa [← (hprescribes depth).render σ], ?_, ?_⟩
  · rintro t m ⟨n, hn⟩ ⟨name, hm⟩ fullName args
    obtain ⟨hbody, hdefaults⟩ := hmacros (n, t) (Table.mem_entries_iff.2 hn) (name, m)
      (Table.mem_entries_iff.2 hm)
    exact hbody.runMacro hdefaults hσ.lineage ⟨n, hn⟩ fullName args
  · rintro t ⟨n, hn⟩
    refine Levels.allowing (fun _ hi hmay => hi.included ⟨n, hn⟩ hmay)
      (Finishes.runRoot (fun root hroot => ⟨?_, ?_⟩) hσ.known)
    · exact registered_of_mem_lineageOf hn (List.mem_of_getLast? hroot)
    · rw [hσ.above]
      exact hincludes (n, t) (Table.mem_entries_iff.2 hn) root hroot

variable {lineage : List Template} {above : Option (String × List Template)} {ns : List Node}

/-- Code ends if the definitions that its blocks and `super` lead to do. The induction is on the
    size of the code, for the sake of blocks that the lineage does not know and that run their own
    body. -/
theorem ends_of_definitions
    (hready : ∀ above, ∀ᶠ depth in atTop, ∀ σ : Standpoint, σ.At setting.templates lineage above →
      Ready setting bound depth σ)
    (hknown : ∀ t ∈ lineage, Registered setting.templates t)
    (hblock : ∀ p name body, .block p name body ∈ ns.flatMap Node.preorder →
      ∀ d, definition? name lineage = some d →
        Ends setting bound lineage (some (d.block, d.rest)) d.body)
    (hsuper : ∀ p, .super p ∈ ns.flatMap Node.preorder → ∀ d, next? above = some d →
      Ends setting bound lineage (some (d.block, d.rest)) d.body) :
    Ends setting bound lineage above ns := by
  induction hweight : Node.weight ns using Nat.strong_induction_on generalizing above ns with
  | _ weight ih =>
    have hstarts : ∀ᶠ depth in atTop, ∀ n ∈ ns.flatMap Node.preorder, ∀ σ : Standpoint,
        σ.At setting.templates lineage above → Starts setting bound depth σ n := by
      refine eventually_forall_mem fun n hn => ?_
      cases n with
      | block p name body =>
        cases hd : definition? name lineage with
        | some d =>
          filter_upwards [hblock p name body hn d hd] with depth h σ hσ
          exact ⟨by rintro _ _ _ ⟨⟩; exact h.runBlock hd hknown hσ body, nofun⟩
        | none =>
          -- the block runs its own body, which is smaller than the code that it stands in
          have hown : Ends setting bound lineage (some (name, [])) body := by
            obtain ⟨hless, hsub⟩ := Node.weight_lt_of_mem hn
            refine ih _ (hweight ▸ hless) (fun q m c hm => hblock q m c (hsub hm)) ?_ rfl
            rintro _ _ _ ⟨⟩
          filter_upwards [hown] with depth h σ hσ
          exact ⟨by rintro _ _ _ ⟨⟩; exact h.runOwnBlock hd hσ, nofun⟩
      | super p =>
        have hnext : ∀ᶠ depth in atTop, ∀ d, next? above = some d →
            Finishes setting bound lineage (some (d.block, d.rest)) d.body depth := by
          cases hd : next? above with
          | none => exact .of_forall fun _ _ h => nomatch h
          | some d =>
            filter_upwards [hsuper p hn d hd] with depth h e he
            rwa [← Option.some.inj he]
        filter_upwards [hnext] with depth h σ hσ
        exact ⟨nofun, fun _ _ => Finishes.runSuper h hσ⟩
      | _ => exact .of_forall fun _ _ _ => ⟨nofun, nofun⟩
    have hnext : ∀ᶠ depth in atTop, Finishes setting bound lineage above ns (depth + 1) := by
      filter_upwards [hready above, hstarts] with depth hready hstarts
      have every (σ : Standpoint) (hσ : σ.At setting.templates lineage above) :
          ∀ n ∈ ns, n.Every (Starts setting bound depth σ) :=
        fun n hn m hm => hstarts m (List.mem_flatMap.2 ⟨n, hn, hm⟩) σ hσ
      refine ⟨fun σ hσ => (hready σ hσ).execution.execAll ns (every σ hσ), fun σ hσ n hn => ?_⟩
      exact (ending setting.templates bound).mono
        ((hready σ hσ).execution.eval false n (every σ hσ n hn)) fun _ _ hv => ⟨hv.1, trivial⟩
    unfold Ends
    rwa [← Filter.map_add_atTop_eq_nat 1, Filter.eventually_map]

/-- Where no definition leads back to itself, all code ends. -/
theorem ends_of_acyclic
    (hprescribes : ∀ depth, Prescribes setting (calls depth setting) (prescribed depth setting))
    (hreturns : ∀ᶠ depth in atTop, setting.Returns (calls depth setting).render)
    (hacyclic : ∀ u, Registered setting.templates u → Acyclic (lineageOf setting.templates u)) :
    ∀ (bound : Nat) (u : Template), Registered setting.templates u → ∀ above ns,
      Ends setting bound (lineageOf setting.templates u) above ns
  | 0, _, _, _, _ => .of_forall fun _ =>
    ⟨fun _ _ _ _ _ hst => absurd hst.2.2.within (Nat.not_lt_zero _),
      fun _ _ _ _ _ _ _ hst => absurd hst.2.2.within (Nat.not_lt_zero _)⟩
  | bound + 1, u, hu, above, ns => by
    have hready := eventually_ready hprescribes hreturns
      (ends_of_acyclic hprescribes hreturns hacyclic bound) hu
    have hknown : ∀ t ∈ lineageOf setting.templates u, Registered setting.templates t := by
      obtain ⟨n, hn⟩ := hu
      exact fun t ht => registered_of_mem_lineageOf hn ht
    have definitions : ∀ d : Definition, Ends setting (bound + 1) (lineageOf setting.templates u)
        (some (d.block, d.rest)) d.body := by
      intro d
      -- acyclicity makes the definitions well-founded, each to be run after those that it leads to
      induction d using (hacyclic u hu).wellFounded.induction with
      | _ d ih =>
        refine ends_of_definitions hready hknown (fun p name body hmem e he => ?_) ?_
        · exact ih e (mem_leads_iff.2 (Or.inl ⟨p, name, body, hmem, he⟩))
        · exact fun p hmem e he => ih e (mem_leads_iff.2 (Or.inr ⟨p, hmem, he⟩))
    exact ends_of_definitions hready hknown (fun _ _ _ _ d _ => definitions d)
      fun _ _ d _ => definitions d

/-! ### Renders that never end -/

/-- Text is written to a sink that takes all of it, and no request of a loop waits. -/
structure Writing (sink : Sink) (s : RenderState) : Prop where
  takes : ∀ chunks text, ∃ c, sink chunks text = .ok c
  sink : s.sink = sink
  placed : s.place.isSome = true
  calm : s.pending = false

/-- A computation runs out of depth wherever text is written to a sink. -/
def Sinks (sink : Sink) (m : Render Unit) : Prop :=
  ∀ s, Writing sink s → (m s).1 = .error .exhausted

namespace Writing

variable {sink : Sink} {s : RenderState}

theorem lined (h : Writing sink s) (line : Int) :
    ∃ t, atLine line s = (.ok (), t) ∧ Writing sink t := by
  unfold atLine
  split
  · exact ⟨s, rfl, h⟩
  · exact ⟨_, rfl, h.takes, h.sink, by simpa using h.placed, h.calm⟩

theorem written (h : Writing sink s) (text : String) :
    ∃ t, write text s = (.ok (), t) ∧ Writing sink t := by
  obtain ⟨c, hc⟩ := h.takes s.chunks text
  refine ⟨{ s with chunks := c :: s.chunks }, ?_, h.takes, h.sink, h.placed, h.calm⟩
  unfold write
  rw [h.sink, hc]

end Writing

namespace Sinks

variable {sink : Sink} {m : Render Unit}

theorem inScope {f : Frame} (hf : f.kind.isCall = false) (h : Sinks sink m) :
    Sinks sink (Render.inScope f m) := by
  intro s hs
  unfold Render.inScope CallStack.push
  rw [hf]
  exact h _ ⟨hs.takes, hs.sink, hs.placed, hs.calm⟩

theorem inTemplate {name : String} (h : Sinks sink m) : Sinks sink (Render.inTemplate name m) := by
  intro s hs
  obtain ⟨outer, houter⟩ := Option.isSome_iff_exists.1 hs.placed
  have hinside := h { s with place := some (outer.enter name) } ⟨hs.takes, hs.sink, rfl, hs.calm⟩
  rw [inTemplate_of_place houter]
  dsimp only
  rw [hinside]
  unfold relocated
  split <;> rfl

theorem bind {α : Type} {s : RenderState} {m : Render α} {f : α → Render Unit}
    (h : (m s).1 = .error .exhausted) : ((m >>= f) s).1 = .error .exhausted := by
  change (andThen m f s).1 = _
  unfold andThen
  generalize m s = x at h
  obtain ⟨r, t⟩ := x
  obtain rfl : r = .error .exhausted := h
  rfl

/-- A definition runs out of depth where its code does. -/
theorem enter {calls : Standpoint → Calls} {σ : Standpoint} {r : Running} {owner : Template}
    {b : Block} (h : Sinks sink ((calls { σ with owner, running := some r }).body b.body)) :
    Sinks sink (σ.enter calls r owner b) :=
  inTemplate (inScope rfl h)

/-- Code runs out of depth where the definition that it starts does. -/
theorem execAll {setting : Setting} {calls : Standpoint → Calls} {σ : Standpoint}
    {next : Option Definition} {d : Definition}
    (hblock : ∀ name body, definition? name σ.lineage = some d →
      Sinks sink (σ.runBlock calls name body))
    (hsuper : next = some d → Sinks sink (σ.runSuper calls)) : ∀ ns : List Node,
      opens σ.lineage next ns = some d →
        Sinks sink (Render.execAll (σ.links calls setting) setting ns)
  | n :: rest, h => by
    intro s hs
    obtain ⟨t, ht, hlined⟩ := hs.lined n.pos.line
    rw [Render.execAll, bind_of_done ht]
    have texts (text : String) (hn : exec (σ.links calls setting) setting n = write text)
        (hrest : opens σ.lineage next rest = some d) :
        ((exec (σ.links calls setting) setting n >>= fun _ => state >>= fun s =>
          if s.pending then pure () else Render.execAll (σ.links calls setting) setting rest) t).1 =
            .error .exhausted := by
      obtain ⟨u, hu, hwritten⟩ := hlined.written text
      rw [hn, bind_of_done hu, bind_of_done (m := state) rfl, hwritten.calm]
      exact execAll hblock hsuper rest hrest u hwritten
    cases n <;> simp only [opens, reduceCtorEq] at h
    case data p text | raw p text => exact texts text rfl h
    case block p name body => exact bind (hblock name body h t hlined)
    case super p => exact bind (hsuper h t hlined)

end Sinks

/-- Where each of some definitions starts one of them again whatever happens, their code runs out of
    depth however deep calls may nest. -/
theorem sinks_of_opens {setting : Setting} {sink : Sink} {lineage : List Template}
    (good : Definition → Prop) (hgood : ∀ d, good d → ∃ e, d.opens lineage = some e ∧ good e) :
    ∀ (depth : Nat) (σ : Standpoint) (d : Definition), good d → σ.lineage = lineage →
      next? (σ.running.map Running.above) = definition? d.block d.rest →
        Sinks sink ((prescribed depth setting σ).body d.body)
  | 0, _, _, _, _, _ => fun _ _ => rfl
  | depth + 1, σ, d, hd, hlineage, hnext => by
    -- each definition uses up one level of depth and goes on to another good one
    obtain ⟨e, hopens, he⟩ := hgood d hd
    rw [Definition.opens, ← hnext, ← hlineage] at hopens
    refine Sinks.execAll (fun name body hfound => ?_) (fun hfound => ?_) d.body hopens
    · obtain ⟨⟨owner, b, rest⟩, hdefiner, rfl⟩ := Option.map_eq_some_iff.1 hfound
      unfold Standpoint.runBlock
      rw [hdefiner]
      exact Sinks.enter (sinks_of_opens good hgood depth _ _ he hlineage rfl)
    · unfold Standpoint.runSuper
      cases hr : σ.running with
      | none =>
        rw [hr] at hfound
        cases hfound
      | some r =>
        rw [hr] at hfound
        obtain ⟨⟨owner, b, rest⟩, hdefiner, rfl⟩ := Option.map_eq_some_iff.1 hfound
        dsimp only
        rw [hdefiner]
        exact Sinks.enter (sinks_of_opens good hgood depth _ _ he hlineage rfl)

end Render

namespace Environment

/-- Renders end where no definition of a block leads back to itself: with macros, includes, blocks
    and `super` nested in whatever way, there is a nesting that is deep enough for all data and all
    outputs. The capabilities have to return or raise, with the renders that they ask for nested so
    deep. -/
theorem render_ends {env : Environment} {t : Template} {setting : Setting} (hr : Reachable env)
    (h : env.Renders t setting)
    (hacyclic : ∀ n u, setting.templates.get? n = some u →
      Acyclic (lineageOf setting.templates u))
    (hreturns : ∃ enough, ∀ depth ≥ enough, setting.Returns (calls depth setting).render) :
    ∃ enough, ∀ depth ≥ enough, ∀ context sink,
      (whole setting (runTemplate (calls depth setting) setting t)
        (initial setting t context sink)).1 ≠ .error .exhausted := by
  obtain ⟨rfl, hset, name, ht⟩ := h.settled hr
  have hprescribes (depth : Nat) :
      Prescribes setting (calls depth setting) (prescribed depth setting) :=
    prescribes_calls depth setting hset.toResolved hr.settled.toResolved
  -- macro calls and includes are limited, which bounds how often code starts code of another
  -- lineage
  obtain ⟨bound, hbound⟩ : ∃ bound, ∀ context sink,
      (begun setting t context sink).level.Bounded setting.templates bound := by
    refine ⟨(begun setting t {} .buffer).level.budget + 1, fun context sink => ⟨?_, ?_, ?_⟩⟩
    · exact fun _ hf => nomatch hf
    · exact List.forall_mem_singleton.2 ⟨name, ht⟩
    · exact Nat.lt_succ_self _
  obtain ⟨root, hroot⟩ : ∃ root, (lineageOf setting.templates t).getLast? = some root :=
    ⟨_, List.getLast?_eq_some_getLast (List.cons_ne_nil _ _)⟩
  obtain ⟨enough, hends⟩ := Filter.eventually_atTop.1 (ends_of_acyclic hprescribes
    (Filter.eventually_atTop.2 hreturns) (fun u ⟨n, hn⟩ => hacyclic n u hn) bound t ⟨name, ht⟩ none
    root.document.body)
  refine ⟨enough, fun depth hdepth context sink => ?_⟩
  have hrun : (ending setting.templates bound).rel Eq
      (Standpoint.runRoot (prescribed depth setting) none (lineageOf setting.templates t))
      (Standpoint.runRoot (prescribed depth setting) none (lineageOf setting.templates t)) := by
    refine Finishes.runRoot (fun r hr' => ?_) fun _ hnone => nomatch hnone
    obtain rfl : root = r := Option.some.inj (hroot.symm.trans hr')
    exact ⟨registered_of_mem_lineageOf ht (List.mem_of_getLast? hr'), hends depth hdepth⟩
  have ends := hrun _ _ _ ⟨rfl, rfl, hbound context sink⟩
  rw [(hprescribes depth).whole hset.toResolved (by rwa [(hset.built name t ht).name_eq]) context
    sink]
  unfold begun at ends
  unfold whole ensuring
  dsimp only
  generalize Standpoint.runRoot _ _ _ _ = x at ends ⊢
  cases ends with
  | done _ _ => exact fun hdeep => nomatch hdeep
  | halt hh => exact fun hdeep => hh.2.2.2 (Except.error.inj hdeep)

/-- A template that goes on with the block of its parent, includes itself, and whose macro calls
    itself. -/
def recurringTree : Document :=
  { body :=
      [.block {} "a" [.super {}, .include {} ["page.txt"] false,
        .output {} (.macroCall {} "self" "m" [.call {} "stamp" [] []] [])],
       .macroDef {} "m" [.param {} "x" none]
        [.output {} (.macroCall {} "self" "m" [.name {} "x"] [])]]
    parent := some ({}, .text "base.txt") }

/-- A function that takes no notice of its arguments. -/
def stamp : Capability := { name := "stamp", behaviour := some fun _ => .ok (.text "*") }

/-- The environment after the tree and one with the block are added. -/
def recurring : Environment :=
  (perform { functions := Table.empty.insert "stamp" stamp }
    (.addTemplates [("page.txt", recurringTree),
      ("base.txt", { body := [.block {} "a" [.data {} "A"]] })])).2

theorem reachable_recurring : Reachable recurring := .after (.fresh rfl) (by simp)

/-- The function is the only capability. -/
theorem lookup_recurring {kind : CapabilityKind} {name : String} {c : Capability}
    (h : recurring.lookup kind name = .ok c) : c = stamp := by
  unfold lookup recurring at h
  rw [registry_addTemplates] at h
  split at h
  · rename_i found hfound
    cases h
    cases kind
    case function =>
      rw [registry, Table.get?_insert] at hfound
      split at hfound
      · exact (Option.some.inj hfound).symm
      · cases hfound
    all_goals cases hfound
  · cases h

/-- Everything that a definition leads to comes later in the lineage. -/
def descends (lineage : List Template) : Bool :=
  (allDefinitions lineage).all fun d =>
    (d.leads lineage).all fun e => e.rest.length < d.rest.length

theorem acyclic_of_descends {lineage : List Template} (h : descends lineage = true) :
    Acyclic lineage := by
  refine acyclic_of_rank (fun d => d.rest.length) fun d hd e he => ?_
  simpa using List.all_eq_true.1 (List.all_eq_true.1 h d hd) e he

theorem render_ends_recurring : ∃ t, recurring.templates.get? "page.txt" = some t ∧
    ∃ enough, ∀ depth ≥ enough, ∀ context sink,
      (whole (Render.setting recurring t)
        (runTemplate (calls depth (Render.setting recurring t)) (Render.setting recurring t) t)
        (initial (Render.setting recurring t) t context sink)).1 ≠ .error .exhausted := by
  have hregistered : (recurring.templates.get? "page.txt").isSome = true := by decide +kernel
  have hdescends : (recurring.templates.entries.all fun e =>
      descends (lineageOf recurring.templates e.2)) = true := by decide +kernel
  obtain ⟨t, ht⟩ := Option.isSome_iff_exists.1 hregistered
  refine ⟨t, ht, render_ends reachable_recurring (.registered ht) (fun n u hu => ?_) ⟨0, ?_⟩⟩
  · exact acyclic_of_descends (List.all_eq_true.1 hdescends _ (Table.mem_entries_iff.2 hu))
  · intro depth _ kind name c hc args named
    rw [lookup_recurring hc]
    exact fun hdeep => nomatch hdeep

/-- A render never ends if what the last template of the lineage starts is one of some definitions
    each of which starts one of them again. -/
theorem exhausted_of_opens {env : Environment} {t root : Template} {setting : Setting} {sink : Sink}
    (good : Definition → Prop) (hr : Reachable env) (h : env.Renders t setting)
    (htakes : ∀ chunks text, ∃ c, sink chunks text = .ok c)
    (hroot : (lineageOf setting.templates t).getLast? = some root)
    (hstart : ∃ e, opens (lineageOf setting.templates t) none root.document.body = some e ∧ good e)
    (hgood : ∀ d, good d → ∃ e, d.opens (lineageOf setting.templates t) = some e ∧ good e)
    (depth : Nat) (context : Context) :
    (whole setting (runTemplate (calls depth setting) setting t)
      (initial setting t context sink)).1 = .error .exhausted := by
  obtain ⟨rfl, hset, name, ht⟩ := h.settled hr
  have hbody : Sinks sink ((prescribed depth setting
      ⟨lineageOf setting.templates t, root, none⟩).body root.document.body) := by
    refine sinks_of_opens (fun d => d = ⟨"", root, root.document.body, []⟩ ∨ good d) ?_ depth _
      ⟨"", root, root.document.body, []⟩ (Or.inl rfl) rfl rfl
    rintro d (rfl | hd)
    · obtain ⟨e, he, hgoode⟩ := hstart
      exact ⟨e, he, Or.inr hgoode⟩
    · obtain ⟨e, he, hgoode⟩ := hgood d hd
      exact ⟨e, he, Or.inr hgoode⟩
  rw [(prescribes_calls depth setting hset.toResolved hr.settled.toResolved).whole hset.toResolved
    (by rwa [(hset.built name t ht).name_eq]) context sink]
  unfold Standpoint.runRoot
  rw [hroot]
  exact Sinks.inTemplate (Sinks.inScope (f := .root root) rfl hbody) (begun setting t context sink)
    ⟨htakes, rfl, rfl, rfl⟩

/-- The code of a lineage and of all its definitions but the empty ones goes on with a definition
    that is not empty. -/
def circles (lineage : List Template) : Bool :=
  (lineage.getLast?.bind fun root => opens lineage none root.document.body).any
      (fun e => !e.body.isEmpty) &&
    (allDefinitions lineage).all fun d =>
      d.body.isEmpty || (d.opens lineage).any fun e => !e.body.isEmpty

theorem exhausted_of_circles {env : Environment} {t : Template} {setting : Setting}
    (hr : Reachable env) (h : env.Renders t setting)
    (hcircles : circles (lineageOf setting.templates t) = true) (depth : Nat) (context : Context) :
    (whole setting (runTemplate (calls depth setting) setting t)
      (initial setting t context .buffer)).1 = .error .exhausted := by
  rw [circles, Bool.and_eq_true, Option.any_eq_true, List.all_eq_true] at hcircles
  obtain ⟨⟨e, he, hbody⟩, hall⟩ := hcircles
  obtain ⟨root, hroot, he⟩ := Option.bind_eq_some_iff.1 he
  refine exhausted_of_opens
    (fun d => d ∈ allDefinitions (lineageOf setting.templates t) ∧ d.body.isEmpty = false) hr h
    (fun _ text => ⟨.text text, rfl⟩) hroot ⟨e, he, ?_, by simpa using hbody⟩ ?_ depth context
  · rcases mem_of_opens he with ⟨_, _, _, _, hfound⟩ | ⟨_, _, hnone⟩
    · exact mem_allDefinitions (List.suffix_refl _) hfound
    · cases hnone
  · rintro d ⟨hd, hnonempty⟩
    have hnext := hall d hd
    rw [hnonempty, Bool.false_or, Option.any_eq_true] at hnext
    obtain ⟨e, he, hbody⟩ := hnext
    exact ⟨e, he, leads_closed hd (mem_leads_of_opens he), by simpa using hbody⟩

/-- A tree with a block within another one. -/
def nestedTree : Document :=
  { body := [.block {} "a" [.data {} "1", .block {} "b" []]] }

/-- A tree that puts the outer block into the inner one. -/
def invertedTree : Document :=
  { body := [.block {} "b" [.data {} "2", .block {} "a" [.super {}]]]
    parent := some ({}, .text "base.txt") }

/-- The environment after both trees are added. -/
def inverted : Environment :=
  (perform {} (.addTemplates [("page.txt", invertedTree), ("base.txt", nestedTree)])).2

theorem reachable_inverted : Reachable inverted := .after (.fresh rfl) (by simp)

/-- Blocks that two templates nest into each other are rendered for ever: however deep calls may
    nest, it is not deep enough. -/
theorem render_without_end : ∃ t, inverted.templates.get? "page.txt" = some t ∧
    ∀ depth context,
      (whole (Render.setting inverted t)
        (runTemplate (calls depth (Render.setting inverted t)) (Render.setting inverted t) t)
        (initial (Render.setting inverted t) t context .buffer)).1 = .error .exhausted := by
  have h : ((inverted.templates.get? "page.txt").map fun t =>
      circles (lineageOf inverted.templates t)) = some true := by decide +kernel
  obtain ⟨t, ht, hcircles⟩ := Option.map_eq_some_iff.1 h
  exact ⟨t, ht, exhausted_of_circles reachable_inverted (.registered ht) hcircles⟩

end Environment

end Stencil
