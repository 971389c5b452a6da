import Stencil.Proofs.Purity
import Stencil.Proofs.Reach
import Stencil.Proofs.Steady

/-! Renders that leave no request. A request waits while the bodies around it end, up to the loop
    that takes it. All that runs in between are the arguments and the filters of the filter blocks
    around the request, so that a render halts with a request only in a filter block whose body
    makes one. In calm code no body of a filter block does. There a computation that halts has no
    request waiting, and one that ends with a result has one only if its statements may make it.
    This needs to be known of bodies and expressions together, by induction on the nesting of
    calls. -/

namespace Stencil

variable {crossing : Bool}

namespace Node

/-- The body of a filter block makes no request of a loop around it. -/
def quiet (crossing : Bool) : Node → Bool
  | .filterBlock _ _ body _ _ => !interruptsAny crossing body
  | _ => true

/-- All nodes of a tree are steady, and no filter block has a request. -/
structure Calm (crossing : Bool) (n : Node) : Prop where
  steady : n.Steady crossing
  quiet : n.Every fun m => m.quiet crossing = true

theorem Calm.child {n c : Node} (h : n.Calm crossing) (hc : c ∈ n.children) : c.Calm crossing :=
  ⟨h.steady.child hc, h.quiet.child hc⟩

end Node

/-- The body of a block or a template is calm, and ends with a request only if requests cross blocks
    and templates. -/
structure CalmBody (crossing : Bool) (body : List Node) : Prop where
  nodes : ∀ n ∈ body, n.Calm crossing
  ends : Node.interruptsAny crossing body = true → crossing = true

namespace CalmBody

variable {body : List Node}

theorem steady (h : CalmBody crossing body) : SteadyBody crossing body :=
  ⟨fun n hn => (h.nodes n hn).steady, h.ends⟩

theorem of_steady (h : SteadyBody crossing body)
    (hquiet : ∀ n ∈ body, n.Every fun m => m.quiet crossing = true) : CalmBody crossing body :=
  ⟨fun n hn => ⟨h.nodes n hn, hquiet n hn⟩, h.ends⟩

instance (crossing : Bool) (body : List Node) : Decidable (CalmBody crossing body) :=
  decidable_of_iff
    (SteadyBody crossing body ∧ ∀ n ∈ body, ∀ m ∈ n.preorder, m.quiet crossing = true)
    ⟨fun h => of_steady h.1 h.2, fun h => ⟨h.steady, fun n hn => (h.nodes n hn).quiet⟩⟩

end CalmBody

/-- The bodies of all definitions of a chain are calm. -/
def BlockChain.Calm (crossing : Bool) (chain : BlockChain) : Prop :=
  ∀ e ∈ chain, CalmBody crossing e.2.body

/-- All that a template starts is calm. -/
structure Template.Calm (crossing : Bool) (t : Template) : Prop where
  steady : t.Steady crossing
  quiet : t.Every fun n => n.quiet crossing = true

namespace Template.Calm

variable {t : Template}

theorem body (h : t.Calm crossing) : CalmBody crossing t.document.body :=
  .of_steady h.steady.body h.quiet.body

theorem chain (h : t.Calm crossing) (name : String) : (t.chain name).Calm crossing :=
  fun e he => .of_steady (h.steady.chain name e he) (h.quiet.chain name e he)

end Template.Calm

/-- The templates of a resolved set start calm code only if their trees are calm. -/
theorem Lineage.Resolved.calm {ts : Table Template} (h : Resolved ts)
    (hts : ∀ n t, ts.get? n = some t → CalmBody crossing t.document.body) {n : String}
    {t : Template} (hn : ts.get? n = some t) : t.Calm crossing where
  steady := h.steady (fun n t hn => (hts n t hn).steady) hn
  quiet := h.every (fun n t hn m hm => ((hts n t hn).nodes m hm).quiet) ⟨n, hn⟩

namespace Render

/-! ### Settled computations -/

/-- All code that can be reached in a state is calm. -/
abbrev AllCalm (crossing : Bool) (s : RenderState) : Prop :=
  s.Admitted (·.Calm crossing) (fun _ => True) (·.Calm crossing)

variable {α β : Type} {may : Bool} {p : α → Prop} {q : β → Prop} {m : Render α}

/-- A computation has ended with a request only if it may, or has halted with none. -/
inductive Settling.Ends (crossing may : Bool) (p : α → Prop) : Except Halt α × RenderState → Prop
  | done {a t} (ha : p a) (ht : AllCalm crossing t) (hpending : t.pending = true → may = true) :
    Settling.Ends crossing may p (.ok a, t)
  | halt {h t} (hpending : t.pending = false) : Settling.Ends crossing may p (.error h, t)

/-- A computation that begins without a request ends with one only if it may, and halts with
    none. -/
def Settles (crossing may : Bool) (p : α → Prop) (m : Render α) : Prop :=
  ∀ s, AllCalm crossing s → s.pending = false → Settling.Ends crossing may p (m s)

/-- Computations that make no request, and halt with none. -/
def settling (crossing : Bool) : Correspondence Unit where
  states _ s t := s = t ∧ AllCalm crossing s ∧ s.pending = false
  halts _ _ s _ _ := s.pending = false
  halted _ h := h.2.2

/-- Renders that reach nothing but calm code. -/
def reachingCalm (crossing : Bool) : Invariant Unit where
  holds _ s := AllCalm crossing s
  remains _ _ _ := True
  remains_of_holds _ _ := trivial
  waiting _ h := ⟨h.frames, h.context, h.targets⟩

theorem reaching_calm : (reachingCalm crossing).Reaching (·.Calm crossing) (fun _ => True)
    (·.Calm crossing) where
  admitted h := h
  altered _ _ _ h := h
  abandoned _ _ _ _ := trivial

namespace Settles

theorem imp {may' : Bool} (h : Settles crossing may p m) (hmay : may = true → may' = true) :
    Settles crossing may' p m := by
  intro s hs hpending
  have hsettled := h s hs hpending
  generalize m s = x at hsettled ⊢
  cases hsettled with
  | done ha ht hmade => exact .done ha ht fun h => hmay (hmade h)
  | halt hnone => exact .halt hnone

/-- What comes after a computation starts where that has ended. -/
theorem goesOn {may' : Bool} {f : α → Render β} (hm : Settles crossing may p m)
    (hf : ∀ a t, p a → AllCalm crossing t → (t.pending = true → may = true) →
      Settling.Ends crossing may' q (f a t)) : Settles crossing may' q (m >>= f) := by
  intro s hs hpending
  have hsettled := hm s hs hpending
  change Settling.Ends crossing may' q (andThen m f s)
  unfold andThen
  generalize m s = x at hsettled ⊢
  cases hsettled with
  | done ha ht hmade => exact hf _ _ ha ht hmade
  | halt hnone => exact .halt hnone

/-- What comes after a computation that makes no request may make one. -/
theorem bind {f : α → Render β} (hm : Settles crossing false p m)
    (hf : ∀ a, p a → Settles crossing may q (f a)) : Settles crossing may q (m >>= f) :=
  hm.goesOn fun a t ha ht hmade => hf a ha t ht (by simpa using hmade)

theorem of_rel {V : α → α → Prop} {n : Render α} (h : (settling crossing).congruence.rel V m n)
    (hV : ∀ a b, V a b → p a) : Settles crossing false p m := by
  intro s hs hpending
  have ends := h () s s ⟨rfl, hs, hpending⟩
  generalize m s = x, n s = y at ends ⊢
  cases ends with
  | done hab hst => exact .done (hV _ _ hab) hst.2.1 fun h => by rw [← h, hst.2.2]
  | halt hnone => exact .halt hnone

theorem rel (h : Settles crossing false p m) : (settling crossing).congruence.rel (Same p) m m := by
  rintro _ s _ ⟨rfl, hs, hpending⟩
  have hsettled := h s hs hpending
  generalize m s = x at hsettled ⊢
  cases hsettled with
  | done ha ht hmade => exact .done ⟨rfl, ha⟩ ⟨rfl, ht, by simpa using hmade⟩
  | halt hnone => exact .halt hnone

theorem unit {m : Render Unit} (h : Settles crossing false (fun _ => True) m) :
    (settling crossing).congruence.rel Eq m m :=
  (settling crossing).congruence.mono h.rel fun _ _ h => h.1

/-- A step that makes and takes no request. -/
theorem step {V : α → α → Prop} {n : Render α}
    (h : (reachingCalm crossing).runs.congruence.rel V m n)
    (hsame : ∀ s, (m s).2.pending = s.pending) (hV : ∀ a b, V a b → p a) :
    Settles crossing false p m := by
  intro s hs hpending
  have ends := h () s s ⟨rfl, hs⟩
  have hnone := (hsame s).trans hpending
  generalize m s = x, n s = y at ends hnone ⊢
  cases ends with
  | done hab hst => exact .done (hV _ _ hab) hst.2 fun h => by rw [← h, hnone]
  | halt _ => exact .halt hnone

end Settles

namespace Settling

theorem exhausted {V : α → α → Prop} :
    (settling crossing).congruence.rel V (halt .exhausted) (halt .exhausted) :=
  (settling crossing).exhausted fun _ _ _ h => h.2.2

theorem state : (settling crossing).congruence.rel (fun s t => s = t ∧ AllCalm crossing s)
    Render.state Render.state := by
  rintro _ s _ ⟨rfl, hs, hpending⟩
  exact .done ⟨rfl, hs⟩ ⟨rfl, hs, hpending⟩

theorem find (name : String) : (settling crossing).congruence.rel
    (Same (Value.Found fun _ => True)) (Render.find name) (Render.find name) :=
  (Settles.step (reaching_calm.find Value.Hereditary.trivial name) (fun _ => rfl)
    fun _ _ h => h.2).rel

theorem undefinedAt {V : α → α → Prop} (n : Node) :
    (settling crossing).congruence.rel V (Render.undefinedAt n) (Render.undefinedAt n) :=
  fun _ _ _ hst => .halt hst.2.2

theorem active : (settling crossing).congruence.rel (Same (·.Calm crossing)) Render.active
    Render.active := by
  refine (Settles.step reaching_calm.active (fun s => ?_) fun _ _ h => h.2).rel
  change (ofRuntime s.stack.activeTemplate s).2.pending = _
  cases s.stack.activeTemplate <;> rfl

/-- A new call stack makes no request. -/
theorem pending_ofStack (r : Except RuntimeError CallStack) (s : RenderState) :
    ((ofRuntime r >>= fun stack => change fun s => { s with stack }) s).2.pending = s.pending := by
  cases r <;> rfl

theorem assign (name : String) (v : Value) :
    (settling crossing).congruence.rel Eq (Render.assign name v) (Render.assign name v) :=
  (Settles.step (reaching_calm.assign trivial)
    (fun s => pending_ofStack (s.stack.assign name v) s) fun _ _ _ => trivial).unit

theorem assignWide (name : String) (v : Value) :
    (settling crossing).congruence.rel Eq (Render.assignWide name v)
      (Render.assignWide name v) :=
  (Settles.step (reaching_calm.assignWide trivial)
    (fun s => pending_ofStack (s.stack.assignWide name v) s) fun _ _ _ => trivial).unit

theorem atLine (line : Int) :
    (settling crossing).congruence.rel Eq (Render.atLine line) (Render.atLine line) := by
  rintro _ s _ ⟨rfl, hs, hpending⟩
  unfold Render.atLine
  split
  · exact .done rfl ⟨rfl, hs, hpending⟩
  · exact .done rfl ⟨rfl, ⟨hs.frames, hs.context, hs.targets⟩, hpending⟩

theorem write (text : String) :
    (settling crossing).congruence.rel Eq (Render.write text) (Render.write text) := by
  rintro _ s _ ⟨rfl, hs, hpending⟩
  unfold Render.write
  cases s.sink s.chunks text with
  | error q => exact .halt hpending
  | ok c => exact .done rfl ⟨rfl, ⟨hs.frames, hs.context, hs.targets⟩, hpending⟩

end Settling

namespace Settles

/-! ### Scopes, places and buffers -/

theorem inScope {f : Frame}
    (hf : f.Admitted (·.Calm crossing) (fun _ => True) (·.Calm crossing))
    (h : Settles crossing may p m) : Settles crossing may p (Render.inScope f m) := by
  intro s hs hpending
  unfold Render.inScope
  cases hpush : s.stack.push f with
  | error e => exact .halt hpending
  | ok stack =>
    have hsettled := h { s with stack } (hs.pushed hf hpush) hpending
    dsimp only
    unfold ensuring
    generalize m _ = x at hsettled ⊢
    cases hsettled with
    | done ha ht hmade => exact .done ha ht.popped hmade
    | halt hnone => exact .halt hnone

theorem inTemplate {name : String} (h : Settles crossing may p m) :
    Settles crossing may p (Render.inTemplate name m) := by
  intro s hs hpending
  cases hplace : s.place with
  | none =>
    rw [inTemplate_of_none hplace]
    exact .halt hpending
  | some outer =>
    rw [inTemplate_of_place hplace]
    have hsettled := h { s with place := some (outer.enter name) }
      ⟨hs.frames, hs.context, hs.targets⟩ hpending
    generalize m _ = x at hsettled ⊢
    cases hsettled with
    | @done a t ha ht hmade =>
      have hleft : AllCalm crossing (left outer t) := by
        unfold left
        split <;> exact ⟨ht.frames, ht.context, ht.targets⟩
      exact .done ha hleft fun h => hmade ((Unlooped.pending_left outer t).symm.trans h)
    | halt hnone => exact .halt ((Unlooped.pending_left outer _).trans hnone)

theorem captured {m : Render Unit} (h : Settles crossing may (fun _ => True) m) :
    Settles crossing may (fun _ => True) (Render.captured m) := by
  intro s hs hpending
  have hsettled := h { s with sink := .buffer, chunks := [] } ⟨hs.frames, hs.context, hs.targets⟩
    hpending
  unfold Render.captured
  generalize m _ = x at hsettled ⊢
  cases hsettled with
  | done ha ht hmade => exact .done trivial ⟨ht.frames, ht.context, ht.targets⟩ hmade
  | halt hnone => exact .halt hnone

theorem allowing {t : Template} (ht : t.Calm crossing) (h : Settles crossing may p m) :
    Settles crossing may p (Render.allowing t m) := by
  intro s hs hpending
  rcases allowing_cases (P := fun _ => True) (fun _ => trivial) t s with
    ⟨q, -, hrefused⟩ | ⟨here, -, -, hallowed⟩
  · rw [hrefused]
    exact .halt hpending
  · rw [hallowed]
    have hincluded : AllCalm crossing
        { s with targets := t :: s.targets, place := deeper 1 s.place } :=
      ⟨hs.frames, hs.context, List.forall_mem_cons.2 ⟨ht, hs.targets⟩⟩
    have hsettled := h _ hincluded hpending
    have hleft : including t m s = (fun x => (x.1, excluded x.2))
        (m { s with targets := t :: s.targets, place := deeper 1 s.place }) := rfl
    rw [hleft]
    generalize m _ = x at hsettled ⊢
    cases hsettled with
    | @done a u ha hu hmade =>
      have hexcluded : AllCalm crossing (excluded u) :=
        ⟨hu.frames, hu.context, fun t ht => hu.targets t (List.mem_of_mem_drop ht)⟩
      exact .done ha hexcluded hmade
    | halt hnone => exact .halt hnone

/-! ### Parts of statements -/

/-- A request is an error, or it waits. -/
theorem request (signal : Signal) :
    Settles crossing true (fun _ => True) (Render.request signal) := by
  intro s hs hpending
  unfold Render.request
  rw [bind_of_done (m := Render.state) rfl]
  split
  · exact .halt hpending
  · have hasked := hs.interrupted signal
    exact .done trivial ⟨hasked.frames, hasked.context, hasked.targets⟩ fun _ => rfl

/-- A body goes on where no request waits. -/
theorem onward {m rest : Render Unit} (hm : Settles crossing may (fun _ => True) m)
    (hrest : Settles crossing may (fun _ => True) rest) :
    Settles crossing may (fun _ => True)
      (m >>= fun _ => state >>= fun s => if s.pending then done () else rest) := by
  refine hm.goesOn fun _ t _ ht hmade => ?_
  rw [bind_of_done (m := Render.state) rfl]
  cases hwaits : t.pending with
  | true => exact .done trivial ht hmade
  | false => exact hrest t ht hwaits

/-- What a computation has requested is read where it ends. -/
theorem requested {m : Render Unit} (h : Settles crossing may (fun _ => True) m) :
    Settles crossing may (fun _ => True) (m >>= fun _ => Render.requested) :=
  h.goesOn fun _ _ _ ht hmade => .done trivial ht hmade

/-- The request of a computation is taken. -/
theorem taken (h : Settles crossing may p m) : Settles crossing false p
    (m >>= fun a => change (fun s => { s with pending := false }) >>= fun _ => done a) :=
  h.goesOn fun _ _ ha ht _ => .done ha ⟨ht.frames, ht.context, ht.targets⟩ fun h => h

theorem iteration {t : Template} {l : Loop} (ht : t.Calm crossing)
    (hl : l.Admitted fun _ => True) (h : Settles crossing may p m) :
    Settles crossing may p (Render.inScope (.iteration l t) m) :=
  h.inScope ⟨ht, by simp [Frame.iteration], by rintro _ ⟨⟩; exact hl, by simp [Frame.iteration]⟩

/-- A loop takes the requests of its body. -/
theorem iterate {t : Template} {l : Loop} {body : Render Unit} (ht : t.Calm crossing)
    (h : Settles crossing may (fun _ => True) body) : ∀ i remaining,
      i + remaining ≤ l.items.size →
      Settles crossing false (fun _ => True) (Render.iterate t body l i remaining)
  | _, 0, _ => of_rel ((settling crossing).congruence.done rfl) fun _ _ _ => trivial
  | i, remaining + 1, hi => by
    have hround : Render.iterate t body l i (remaining + 1) =
        (Render.inScope (.iteration { l with index := i } t)
            (body >>= fun _ => Render.requested) >>= fun signal =>
          change (fun s => { s with pending := false }) >>= fun _ => done signal) >>=
        fun signal =>
          if signal = .leave then done () else Render.iterate t body l (i + 1) remaining := by
      rw [Render.iterate, bind_bind]
      rfl
    have hl : Loop.Admitted (fun _ => True) { l with index := i } :=
      ⟨fun _ _ => ⟨trivial, trivial⟩, by dsimp only; omega⟩
    rw [hround]
    refine (h.requested.iteration ht hl).taken.bind fun signal _ => ?_
    split
    · exact of_rel ((settling crossing).congruence.done rfl) fun _ _ _ => trivial
    · exact iterate ht h (i + 1) remaining (by omega)

/-- What stands for no pair may make requests. -/
theorem runLoop {target : String} {key : Option String} {found : List (Value × Value)}
    {condition : Option (Render Value)} {body empty : Render Unit} {may' : Bool}
    (hcondition : ∀ c ∈ condition, Settles crossing false (fun _ => True) c)
    (hbody : Settles crossing may' (fun _ => True) body)
    (hempty : Settles crossing may (fun _ => True) empty) :
    Settles crossing may (fun _ => True)
      (Render.runLoop target key found condition body empty) := by
  have onward {running : Template} (hrunning : running.Calm crossing)
      (kept : List (Value × Value)) : Settles crossing may (fun _ => True)
        (if kept.isEmpty then empty else Render.iterate running body
          { valueName := target, keyName := key, items := kept.toArray } 0 kept.length) := by
    split
    · exact hempty
    · exact (iterate hrunning hbody 0 _ (by simp)).imp (by simp)
  unfold Render.runLoop
  refine (of_rel Settling.active fun _ _ h => h.2).bind fun running hrunning => ?_
  cases condition with
  | none => exact onward hrunning found
  | some c =>
    have hpairs := (settling crossing).congruence.filterPairs (p := fun _ => True)
      (q := fun _ => True) (t := running) (m := c) (n := c)
      (l := { valueName := target, keyName := key, items := found.toArray })
      (fun index hi =>
        ((hcondition c rfl).iteration hrunning ⟨fun _ _ => ⟨trivial, trivial⟩, hi⟩).rel)
      0 found (by simp) fun _ _ => trivial
    exact (of_rel hpairs fun _ _ h => h.2).bind fun kept _ => onward hrunning kept

theorem halted (h : Halt) : Settles crossing may p (halt h) := fun _ _ hpending => .halt hpending

theorem finished {a : α} (h : p a) : Settles crossing may p (done a) :=
  fun _ hs hpending => .done h hs fun h => by rw [hpending] at h; cases h

/-- What leaves the state as it was makes no request. -/
theorem resting {V : α → α → Prop} {n : Render α} (h : Settles crossing may p m)
    (hrest : Render.resting.congruence.rel V m n) : Settles crossing false p m := by
  intro s hs hpending
  have hsettled := h s hs hpending
  cases hm : m s with
  | mk r t =>
    rw [hm] at hsettled
    cases hsettled with
    | done ha ht _ =>
      have hsame := Resting.eq_done hrest hpending (congrArg Prod.fst hm)
      obtain rfl : t = s := congrArg Prod.snd (hm.symm.trans hsame)
      exact .done ha ht fun h => by rw [← h, hpending]
    | halt hnone => exact .halt hnone

end Settles

/-! ### What calls start -/

/-- What calls start in calm code makes no request but those of its statements, and halts with
    none. -/
structure Calming (crossing : Bool) (setting : Setting) (depth : Nat) : Prop where
  templates : ∀ name t, setting.templates.get? name = some t → t.Calm crossing
  body : ∀ ns : List Node, (∀ n ∈ ns, n.Calm crossing) →
    Settles crossing (Node.interruptsAny crossing ns) (fun _ => True)
      ((calls depth setting).body ns)
  value : ∀ n : Node, n.Calm crossing →
    Settles crossing false (fun _ => True) ((calls depth setting).value n)

namespace Calming

variable {setting : Setting} {depth : Nat}

/-- The search for macros meets calm templates. -/
def lookups (h : Calming crossing setting depth) : Lookups setting where
  toCongruence := (settling crossing).congruence
  template := fun t => t.Calm crossing
  agree := fun s t => s = t ∧ AllCalm crossing s
  registered := h.templates _ _
  state := Settling.state
  target := by
    rintro s _ ⟨rfl, hs⟩
    exact ⟨rfl, fun t ht => hs.targets t (List.mem_of_mem_head? ht)⟩
  active := Settling.active

/-- A macro leaves no request, because it leaves the state as it was. -/
theorem runMacro (h : Calming crossing setting depth) {t : Template} {m : Macro}
    (ht : t.Calm crossing) (hsteady : m.Every fun n => n.steady crossing = true)
    (hquiet : m.Every fun n => n.quiet crossing = true) (fullName : String)
    (bound : List (String × Value)) : Settles crossing false (fun _ => True)
      (Render.runMacro (calls depth setting) t m fullName bound) := by
  have hframe : Frame.Admitted (·.Calm crossing) (fun _ => True) (·.Calm crossing)
      (.call m.name t) :=
    ⟨ht, by simp [Frame.call], by simp [Frame.call, FrameKind.loop?], by simp [Frame.call]⟩
  have hdefaults (q : Param) (hq : q ∈ m.params) (n : Node) (hn : q.default = some n) :
      (settling crossing).congruence.rel (Same fun _ => True) ((calls depth setting).value n)
        ((calls depth setting).value n) :=
    (h.value n ⟨hsteady.default q hq n hn, hquiet.default q hq n hn⟩).rel
  have hparams : (settling crossing).congruence.rel Eq
      (Render.assignParams (calls depth setting) fullName bound m.params)
      (Render.assignParams (calls depth setting) fullName bound m.params) :=
    Congruence.assignParams _ (fun _ => Settling.assign _ _) (fun _ _ => trivial) m.params
      hdefaults
  have hcode := (Settles.of_rel (p := fun _ => True) hparams fun _ _ _ => trivial).bind fun _ _ =>
    h.body m.body fun n hn => ⟨hsteady.body n hn, hquiet.body n hn⟩
  -- as far as the body goes a request may be left in the frame of the call
  have hcall : Settles crossing (Node.interruptsAny crossing m.body) (fun _ => True)
      (Render.runMacro (calls depth setting) t m fullName bound) :=
    (hcode.captured.inTemplate.inScope hframe).goesOn fun _ _ _ ht hmade =>
      .done trivial ht hmade
  -- the frame is dropped when the call ends, and the request with it
  exact hcall.resting ((tidy setting depth).runMacro t m fullName bound)

/-- Evaluation makes no request. -/
def evaluation (h : Calming crossing setting depth) :
    Evaluation (linked (calls depth setting) setting) (linked (calls depth setting) setting)
      setting setting where
  toCongruence := (settling crossing).congruence
  node := fun n => n.steady crossing = true ∧ n.quiet crossing = true
  value := fun _ => True
  holds := fun t m => t.Calm crossing ∧ (m.Every fun n => n.steady crossing = true) ∧
    m.Every fun n => n.quiet crossing = true
  hereditary := Value.Hereditary.trivial
  const := fun _ => trivial
  find := Settling.find
  undefinedAt := Settling.undefinedAt
  lookup := .refl setting
  function := fun _ _ _ _ => Congruence.invoke _ rfl (fun _ _ => trivial)
    fun _ => Settling.exhausted
  filter := fun _ _ _ _ _ => Congruence.invoke _ rfl (fun _ _ => trivial)
    fun _ => Settling.exhausted
  test := fun _ _ _ _ => Congruence.mono _ (Congruence.invoke (p := fun _ => True) _ rfl
    (fun _ _ => trivial) fun _ => Settling.exhausted) fun _ _ h => h.1
  findMacro := fun _ => Congruence.mono _ (h.lookups.findMacro _ _) fun _ _ hx =>
    ⟨hx.1, hx.2.1, hx.2.1.steady.macros hx.2.2, hx.2.1.quiet.macros hx.2.2⟩
  runMacro := fun hm _ => (h.runMacro hm.1 hm.2.1 hm.2.2 _ _).rel

theorem eval (h : Calming crossing setting depth) (lenient : Bool) {n : Node}
    (hn : n.Calm crossing) : Settles crossing false (fun _ => True)
      (Render.eval (linked (calls depth setting) setting) setting lenient n) :=
  .of_rel (h.evaluation.eval lenient n fun m hm => ⟨hn.steady m hm, hn.quiet m hm⟩)
    fun _ _ _ => trivial

/-! ### Blocks and includes -/

/-- The template of a name is calm if it is registered. -/
theorem registered (h : Calming crossing setting depth) (name : String) :
    Settles crossing false (fun t : Template => t.Calm crossing)
      (ofProblem (Environment.ofTemplate (setting.template name))) :=
  .of_rel ((settling crossing).congruence.ofProblem fun _ ht =>
    h.templates _ _ (Setting.get?_of_template ht)) fun _ _ h => h.2

/-- A body of a block or a template, which leaves a request only if requests cross these. -/
theorem crossingBody (h : Calming crossing setting depth) {body : List Node}
    (hbody : CalmBody crossing body) :
    Settles crossing crossing (fun _ => True) ((calls depth setting).body body) :=
  (h.body body hbody.nodes).imp hbody.ends

theorem runDefinition (h : Calming crossing setting depth) {name : String} {chain : BlockChain}
    {position : Int} (hchain : chain.Calm crossing) :
    Settles crossing crossing (fun _ => True)
      (Render.runDefinition (calls depth setting) setting name chain position) := by
  unfold Render.runDefinition
  rcases he : chain.entry? position with _ | ⟨ownerName, b⟩
  · exact Settles.halted _
  · refine (h.registered ownerName).bind fun t ht => ?_
    have hframe : Frame.Admitted (·.Calm crossing) (fun _ => True) (·.Calm crossing)
        (.block name position chain t) := by
      refine ⟨ht, by simp [Frame.block], by simp [Frame.block, FrameKind.loop?], ?_⟩
      rintro _ _ _ ⟨⟩
      exact hchain
    exact ((h.crossingBody (hchain _ (BlockChain.mem_of_entry? he))).inScope hframe).inTemplate

theorem runBlock (h : Calming crossing setting depth) {name : String} {body : List Node}
    (hbody : CalmBody crossing body) :
    Settles crossing crossing (fun _ => True)
      (Render.runBlock (calls depth setting) setting name body) := by
  unfold Render.runBlock
  refine (Settles.of_rel Settling.state fun _ _ h => h.2).bind fun s hs => ?_
  have hchain : BlockChain.Calm crossing ((s.targets.head?.map (·.chain name)).getD []) := by
    cases hx : s.targets.head? with
    | none => simp [BlockChain.Calm]
    | some x => simpa using (hs.targets x (List.mem_of_head? hx)).chain name
  cases hfound : (s.targets.head?.map (·.chain name)).getD [] with
  | nil =>
    refine (Settles.of_rel Settling.active fun _ _ h => h.2).bind fun running _ => ?_
    exact h.runDefinition (List.forall_mem_singleton.2 hbody)
  | cons e rest => exact h.runDefinition (hfound ▸ hchain)

theorem runSuper (h : Calming crossing setting depth) :
    Settles crossing crossing (fun _ => True)
      (Render.runSuper (calls depth setting) setting) := by
  unfold Render.runSuper
  refine (Settles.of_rel Settling.state fun _ _ h => h.2).bind fun s hs => ?_
  rcases hblock : s.stack.currentBlock.map Frame.kind with _ | kind
  · exact Settles.halted _
  · cases kind with
    | block name position chain =>
      dsimp only
      split
      · exact h.runDefinition (hs.block hblock)
      · exact Settles.halted _
    | root | iteration | call => exact Settles.halted _

theorem runTemplate (h : Calming crossing setting depth) {t : Template}
    (ht : t.Calm crossing) : Settles crossing crossing (fun _ => True)
      (Render.runTemplate (calls depth setting) setting t) := by
  have hentry (e : Template) (he : e.Calm crossing) : Settles crossing crossing (fun _ => True)
      (Render.inTemplate e.name
        (Render.inScope (.root e) ((calls depth setting).body e.document.body))) := by
    have hframe : Frame.Admitted (·.Calm crossing) (fun _ => True) (·.Calm crossing) (.root e) :=
      ⟨he, by simp [Frame.root], by simp [Frame.root, FrameKind.loop?], by simp [Frame.root]⟩
    exact ((h.crossingBody he.body).inScope hframe).inTemplate
  unfold Render.runTemplate
  cases t.parents.getLast? with
  | some name => exact (h.registered name).bind hentry
  | none => exact hentry t ht

theorem runInclude (h : Calming crossing setting depth) (names : List String)
    (ignoreMissing : Bool) : Settles crossing crossing (fun _ => True)
      (Render.runInclude (Render.runTemplate (calls depth setting) setting) setting names
        ignoreMissing) := by
  unfold Render.runInclude
  cases hfound : names.findSome? setting.templates.get? with
  | none =>
    dsimp only
    split
    · exact Settles.finished trivial
    · exact Settles.halted _
  | some t =>
    obtain ⟨name, -, hname⟩ := List.exists_of_findSome?_eq_some hfound
    have ht := h.templates name t hname
    exact (h.runTemplate ht).allowing ht

/-! ### Statements -/

/-- A step that statements take where no request waits. -/
theorem stepped {m n : Render Unit} (h : (settling crossing).congruence.rel Eq m n) {may : Bool} :
    Settles crossing may (fun _ => True) m :=
  (Settles.of_rel (p := fun _ => True) h fun _ _ _ => trivial).imp (by simp)

/-- What a filter block does after its body makes no request. -/
theorem runFilter (h : Calming crossing setting depth) {name : String} {m : Render Unit}
    {args : List Node} {named : List (String × Node)}
    (hbody : Settles crossing false (fun _ => True) m)
    (hargs : ∀ n ∈ args ++ named.map Prod.snd, n.Calm crossing) :
    Settles crossing false (fun _ => True)
      (Render.runFilter (linked (calls depth setting) setting) setting name m
        (evalEach (linked (calls depth setting) setting) setting false args)
        (evalNamed (linked (calls depth setting) setting) setting named)) := by
  let S := h.evaluation
  have hnode : ∀ n ∈ args ++ named.map Prod.snd, n.Every S.node :=
    fun n hn m hm => ⟨(hargs n hn).steady m hm, (hargs n hn).quiet m hm⟩
  have heach := S.evalEach false args fun n hn => hnode n (List.mem_append_left _ hn)
  have hvalues := S.evalNamed named fun n hn => hnode n (List.mem_append_right _ hn)
  exact stepped ((settling crossing).congruence.runFilter rfl Settling.write hbody.captured.rel
    (S.strictEach heach) (S.strictNamed hvalues) fun _ _ => Settling.exhausted)

mutual

/-- A calm statement makes no request but its own, and halts with none. -/
theorem exec (h : Calming crossing setting depth) : ∀ n : Node, n.Calm crossing →
    Settles crossing (n.interrupts crossing) (fun _ => True)
      (Render.exec (linked (calls depth setting) setting) setting n)
  | .data p text, _ | .raw p text, _ => stepped (Settling.write text)
  | .output p n, hn => by
    rw [Render.exec]
    refine (h.eval false (hn.child (by simp [Node.children]))).bind fun v _ => ?_
    exact stepped (Congruence.print _ (fun _ => Settling.write _) (fun _ _ => trivial)
      (fun _ => trivial) fun _ _ => trivial)
  | .branch p condition body others otherwise, hn => by
    rw [Render.exec]
    have hbody := execAll h body fun c hc => hn.child (by simp [Node.children, hc])
    have hotherwise := execAll h otherwise fun c hc => hn.child (by simp [Node.children, hc])
    refine (h.eval true (hn.child (by simp [Node.children]))).bind fun v _ => ?_
    split
    · exact hbody.imp fun hmay => by simp [Node.interrupts, hmay]
    · exact (execFirst h hotherwise others fun b hb c hc =>
        hn.child (Node.mem_children_of_branch hb hc)).imp Node.interrupts_branch
  | .loop p target iter body empty key condition, hn => by
    rw [Render.exec]
    have hbody := execAll h body fun c hc => hn.child (by simp [Node.children, hc])
    have hempty := execAll h empty fun c hc => hn.child (by simp [Node.children, hc])
    refine (h.eval false (hn.child (by simp [Node.children]))).bind fun container _ => ?_
    have hpairs := (settling crossing).congruence.ofRuntime (p := fun _ => True)
      (r := pairs iter.describe key.isSome container) fun _ _ => trivial
    refine (Settles.of_rel hpairs fun _ _ h => h.2).bind fun found _ => ?_
    refine Settles.runLoop (fun c hc => ?_) hbody hempty
    obtain ⟨n, rfl, rfl⟩ := Option.map_eq_some_iff.1 hc
    exact h.eval true (hn.child (by simp [Node.children]))
  | .leave p, _ => Settles.request .leave
  | .next p, _ => Settles.request .next
  | .assign p name n wide, hn => by
    rw [Render.exec]
    refine (h.eval false (hn.child (by simp [Node.children]))).bind fun v _ => ?_
    split
    · exact stepped (Settling.assignWide name v)
    · exact stepped (Settling.assign name v)
  | .block p name body, hn => h.runBlock
      (.of_steady (.of_block hn.steady) fun _ hm => hn.quiet.child hm)
  | .super p, _ => h.runSuper
  | .include p names ignoreMissing, _ => h.runInclude names ignoreMissing
  | .filterBlock p name body args named, hn => by
    rw [Render.exec]
    have hbody := execAll h body fun c hc => hn.child (by simp [Node.children, hc])
    have hquiet : Node.interruptsAny crossing body = false := by
      simpa [Node.quiet] using hn.quiet.self
    rw [hquiet] at hbody
    refine (h.runFilter hbody fun c hc => hn.child ?_).imp (by simp)
    rw [Node.children, List.append_assoc]
    exact List.mem_append_right _ hc
  | .macroDef .., _ | .importing .., _ | .extends .., _ => Settles.finished trivial
  | .const .., _ | .name .., _ | .list .., _ | .object .., _ | .attr .., _ | .item .., _
  | .call .., _ | .macroCall .., _ | .filter .., _ | .test .., _ | .arith .., _ | .unary .., _
  | .compare .., _ | .logic .., _ | .choice .., _ | .concat .., _ | .template .., _
  | .param .., _ => Settles.halted _

/-- A calm body makes no request but those of its statements. -/
theorem execAll (h : Calming crossing setting depth) : ∀ ns : List Node,
    (∀ n ∈ ns, n.Calm crossing) → Settles crossing (Node.interruptsAny crossing ns) (fun _ => True)
      (Render.execAll (linked (calls depth setting) setting) setting ns)
  | [], _ => Settles.finished trivial
  | n :: rest, hns => by
    rw [Render.execAll]
    have hrest := execAll h rest fun m hm => hns m (List.mem_cons_of_mem _ hm)
    refine (stepped (Settling.atLine _)).bind fun _ _ => ?_
    refine ((exec h n (hns n (by simp))).imp fun hmay => ?_).onward (hrest.imp fun hmay => ?_)
    · rw [Node.interruptsAny, hmay, Bool.true_or]
    · rw [Node.interruptsAny, hmay, Bool.or_true]

/-- The first branch that is taken makes no request but those of its statements. -/
theorem execFirst (h : Calming crossing setting depth) {may : Bool} {m : Render Unit}
    (hm : Settles crossing may (fun _ => True) m) : ∀ bs : List (Node × List Node),
    (∀ b ∈ bs, ∀ c ∈ b.1 :: b.2, c.Calm crossing) →
    Settles crossing (Node.interruptsFirst crossing bs || may) (fun _ => True)
      (Render.execFirst (linked (calls depth setting) setting) setting m bs)
  | [], _ => hm
  | (condition, body) :: rest, hbs => by
    rw [Render.execFirst]
    have hhere := hbs (condition, body) (by simp)
    have hbody := execAll h body fun c hc => hhere c (List.mem_cons_of_mem _ hc)
    have hrest := execFirst h hm rest fun b hb => hbs b (List.mem_cons_of_mem _ hb)
    refine (h.eval true (hhere condition (by simp))).bind fun v _ => ?_
    split
    · exact hbody.imp fun hmay => by simp [Node.interruptsFirst, hmay]
    · refine hrest.imp fun hmay => ?_
      rw [Node.interruptsFirst, Bool.or_assoc, hmay, Bool.or_true]

end

end Calming

/-- However deep calls nest, what they start in calm code halts with no request. -/
theorem calming {setting : Setting}
    (h : ∀ name t, setting.templates.get? name = some t → t.Calm crossing) (depth : Nat) :
    Calming crossing setting depth := by
  induction depth with
  | zero => exact ⟨h, fun _ _ => Settles.halted _, fun _ _ => Settles.halted _⟩
  | succ depth ih => exact ⟨h, ih.execAll, fun n hn => ih.eval false hn⟩

end Render

end Stencil
