import Stencil.Proofs.Proper
import Stencil.Proofs.Scope

/-! The call stack as a scoped environment. A name is visible if a frame binds it that is no further
    out than the innermost macro call, or if there is no macro call and the data has it. A binding
    shows unless the loop of its frame or a frame further in hides it, and it shows nowhere else.
    When a scope is left, all names stand for what they stood for when it was entered. These laws
    are proved of a stack whose frames are regular, which every operation on a call stack keeps. -/

namespace Stencil

/-! ### Names in a frame -/

namespace Loop

variable {l : Loop}

/-- A loop binds the names that it tells, if the name of its keys is not empty. -/
theorem mem_names_iff (hkey : l.keyName ≠ some "") (name : String) :
    name ∈ l.names ↔ (l.binding? name).isSome = true := by
  have hnames : l.names = [l.valueName, "loop"] ++ l.keyName.toList := by
    unfold names
    cases hk : l.keyName with
    | none => rfl
    | some k =>
      have hne : k ≠ "" := fun h => hkey (by rw [hk, h])
      simp [Option.filter, hne]
  have hkeys : name ∈ l.keyName.toList ↔ some name = l.keyName := by
    rw [Option.mem_toList]
    exact eq_comm
  rw [hnames, List.mem_append, hkeys]
  unfold binding?
  split_ifs with hvalue hname hloop <;> simp_all

/-- A loop at one of its pairs binds no name to the undefined marker, if there is none in its
    pairs. -/
theorem binding?_ne_undefined (h : l.Admitted (· ≠ .undefined)) {name : String} {v : Value}
    (hv : l.binding? name = some v) : v ≠ .undefined := by
  obtain ⟨hkey, hvalue⟩ := h.of_current
  unfold binding? at hv
  split_ifs at hv <;> cases hv
  · exact hvalue
  · exact hkey
  · exact nofun

end Loop

namespace Frame

/-- The names that the loop of a frame binds. -/
def loopNames (f : Frame) : List String := (f.kind.loop?.map Loop.names).getD []

/-- A frame holds the undefined marker nowhere, its loop is at one of its pairs, and the keys of the
    loop have no empty name. -/
structure Regular (f : Frame) : Prop where
  admitted : f.Admitted (fun _ => True) (· ≠ .undefined) fun _ => True
  key : ∀ l, f.kind.loop? = some l → l.keyName ≠ some ""

variable {f : Frame}

theorem names_eq (f : Frame) : f.names = f.locals.names ++ f.loopNames := rfl

namespace Regular

theorem assign (h : f.Regular) {name : String} {v : Value} (hv : v ≠ .undefined) :
    (f.assign name v).Regular :=
  ⟨h.admitted.assign hv, h.key⟩

theorem lacks (h : f.Regular) (name : String) : f.lacks name = false := by
  unfold Frame.lacks
  cases hl : f.kind.loop? with
  | none => rfl
  | some l =>
    have hcurrent := (h.admitted.loop hl).current
    have hitems : l.items.isEmpty = false := by
      rw [Bool.eq_false_iff, ne_eq, Array.isEmpty_iff_size_eq_zero]
      omega
    simp [hitems]

/-- What the loop of a frame binds is known from its names. -/
theorem mem_loopNames_iff (h : f.Regular) (name : String) :
    name ∈ f.loopNames ↔ (f.kind.loop?.bind (·.binding? name)).isSome = true := by
  unfold loopNames
  cases hl : f.kind.loop? with
  | none => simp
  | some l => exact Loop.mem_names_iff (h.key l hl) name

/-- The names of a frame are those that it has a value for. -/
theorem mem_names_iff (h : f.Regular) (name : String) :
    name ∈ f.names ↔ f.find name ≠ .undefined := by
  rw [names_eq, List.mem_append, h.mem_loopNames_iff]
  unfold Frame.find
  cases hbound : f.kind.loop?.bind (·.binding? name) with
  | some v =>
    obtain ⟨l, hl, hv⟩ := Option.bind_eq_some_iff.1 hbound
    simpa using Loop.binding?_ne_undefined (h.admitted.loop hl) hv
  | none =>
    cases hlocal : f.locals.get? name with
    | some v => simpa [Table.mem_names_of_get? hlocal] using h.admitted.locals hlocal
    | none =>
      have hnot : name ∉ f.locals.names := by
        intro hmem
        obtain ⟨⟨n, v⟩, he, rfl⟩ := List.mem_map.1 hmem
        rw [Table.mem_entries_iff.1 he] at hlocal
        cases hlocal
      simp [hnot]

/-- A binding shows in its frame unless the loop of the frame has the name, and it changes no other
    name. -/
theorem find_assign (h : f.Regular) (name n : String) (v : Value) :
    (f.assign name v).find n = if n = name ∧ name ∉ f.loopNames then v else f.find n := by
  have hloop := h.mem_loopNames_iff name
  unfold Frame.find Frame.assign
  dsimp only
  cases hbound : f.kind.loop?.bind (·.binding? n) with
  | some w =>
    rw [if_neg]
    rintro ⟨rfl, hnot⟩
    exact hnot (hloop.2 (by rw [hbound]; rfl))
  | none =>
    dsimp only
    rw [Table.get?_insert]
    by_cases hn : n = name
    · subst hn
      have hnot : n ∉ f.loopNames := by simp [hloop, hbound]
      simp [hnot]
    · simp [hn]

end Regular

end Frame

/-! ### Names in a context -/

theorem Context.mem_names_iff {c : Context} (h : c.root.Proper) (name : String) :
    name ∈ c.names ↔ c.lookup name ≠ .undefined := by
  have hvalues : ∀ e ∈ c.entries, e.2 ≠ .undefined := fun e he => (h.entries e he).2.ne_undefined
  unfold names lookup
  generalize c.entries = es at hvalues
  induction es with
  | nil => simp [Value.field]
  | cons e rest ih =>
    obtain ⟨hv, hrest⟩ := List.forall_mem_cons.1 hvalues
    rw [Value.field]
    by_cases hname : e.1.text? = some name
    · simp [hname, hv]
    · rw [if_neg (by simpa using hname)]
      refine Iff.trans ?_ (ih hrest)
      simp [hname]

/-! ### Lookups through the frames -/

namespace CallStack

variable {context : Context} {name n : String} {v : Value}

/-- The frames further in than a macro call are in scope, and so is its own frame, but no other. -/
theorem inScope_of_call {f : Frame} {below : List Frame} (hf : f.kind.isCall = true) :
    ∀ {above : List Frame}, (∀ g ∈ above, g.kind.isCall = false) →
      inScope (above ++ f :: below) = above ++ [f]
  | [], _ => by rw [List.nil_append, inScope, if_pos hf, List.nil_append]
  | g :: rest, h => by
    obtain ⟨hg, hrest⟩ := List.forall_mem_cons.1 h
    rw [List.cons_append, inScope, if_neg (by simp [hg]), inScope_of_call hf hrest,
      List.cons_append]

theorem inScope_of_no_call : ∀ {frames : List Frame}, (∀ g ∈ frames, g.kind.isCall = false) →
    inScope frames = frames
  | [], _ => rfl
  | g :: rest, h => by
    obtain ⟨hg, hrest⟩ := List.forall_mem_cons.1 h
    rw [inScope, if_neg (by simp [hg]), inScope_of_no_call hrest]

/-- A lookup passes frames that do not have the name, up to the innermost macro call. -/
theorem findIn_append_of_unbound {below : List Frame} : ∀ {above : List Frame},
    (∀ g ∈ above, g.kind.isCall = false) →
    (∀ g ∈ above, g.find name = .undefined) →
      findIn context name (above ++ below) = findIn context name below
  | [], _, _ => rfl
  | g :: rest, hcall, h => by
    obtain ⟨hg, hrest⟩ := List.forall_mem_cons.1 h
    obtain ⟨hgcall, hrestcall⟩ := List.forall_mem_cons.1 hcall
    rw [List.cons_append, findIn, hg]
    dsimp only
    rw [if_neg (by simp [hgcall]), findIn_append_of_unbound hrestcall hrest]

/-- A lookup ends at a frame that has the name. -/
theorem findIn_of_bound {f : Frame} {rest : List Frame} (h : f.find name ≠ .undefined) :
    findIn context name (f :: rest) = f.find name := by
  rw [findIn]
  split
  · rename_i hnone
    exact absurd hnone h
  · rfl

/-- A lookup goes on from a frame that does not have the name, unless it is that of a macro call. -/
theorem findIn_of_unbound {f : Frame} {rest : List Frame} (h : f.find name = .undefined) :
    findIn context name (f :: rest) =
      if f.kind.isCall then .undefined else findIn context name rest := by
  rw [findIn, h]

/-- What lies below frames matters to a lookup only by what it finds there. -/
theorem findIn_congr_below {below below' : List Frame}
    (h : findIn context name below = findIn context name below') : ∀ above : List Frame,
      findIn context name (above ++ below) = findIn context name (above ++ below')
  | [] => h
  | g :: rest => by
    rw [List.cons_append, List.cons_append]
    by_cases hg : g.find name = .undefined
    · rw [findIn_of_unbound hg, findIn_of_unbound hg, findIn_congr_below h rest]
    · rw [findIn_of_bound hg, findIn_of_bound hg]

/-- What lies below a frame that has the name does not matter to a lookup. -/
theorem findIn_congr_of_bound {below below' : List Frame} : ∀ {above : List Frame},
    (∃ g ∈ above, g.find name ≠ .undefined) →
      findIn context name (above ++ below) = findIn context name (above ++ below')
  | [], h => by simp at h
  | g :: rest, h => by
    rw [List.cons_append, List.cons_append]
    by_cases hg : g.find name = .undefined
    · have hrest : ∃ g ∈ rest, g.find name ≠ .undefined := by simpa [hg] using h
      rw [findIn_of_unbound hg, findIn_of_unbound hg, findIn_congr_of_bound hrest]
    · rw [findIn_of_bound hg, findIn_of_bound hg]

/-- The names that are visible from frames on are those of the first one, and, unless this is that
    of a macro call, those that are visible from the others on. -/
theorem mem_visibleNames_cons (s : CallStack) (f : Frame) (rest : List Frame) (name : String) :
    name ∈ visibleNames { s with frames := f :: rest } ↔
      name ∈ f.names ∨ f.kind.isCall = false ∧ name ∈ visibleNames { s with frames := rest } := by
  unfold visibleNames
  cases hcall : f.kind.isCall with
  | true => simp [inScope, hcall]
  | false =>
    simp only [inScope, hcall, Bool.false_eq_true, if_false, List.flatMap_cons, List.any_cons,
      Bool.false_or, true_and]
    split <;> simp

/-- The visible names are those that a lookup has a value for. -/
theorem mem_visibleNames_iff {s : CallStack} (hcontext : s.context.root.Proper)
    (h : ∀ f ∈ s.frames, f.Regular) (name : String) :
    name ∈ s.visibleNames ↔ s.find name ≠ .undefined := by
  obtain ⟨context, limit, frames, depth⟩ := s
  unfold find
  induction frames with
  | nil => exact Context.mem_names_iff hcontext name
  | cons f rest ih =>
    obtain ⟨hf, hrest⟩ := List.forall_mem_cons.1 h
    have hstep := mem_visibleNames_cons ⟨context, limit, f :: rest, depth⟩ f rest name
    refine hstep.trans ?_
    rw [hf.mem_names_iff]
    by_cases hbound : f.find name = .undefined
    · dsimp only
      rw [findIn_of_unbound hbound]
      cases f.kind.isCall with
      | true => simp [hbound]
      | false => simpa [hbound] using ih hcontext hrest
    · dsimp only
      rw [findIn_of_bound hbound]
      simp [hbound]

/-! ### Bindings -/

/-- A binding in the innermost frame shows unless the loop of the frame has the name. -/
theorem find_assign {s : CallStack} {f : Frame} {rest : List Frame} (hf : f.Regular)
    (hframes : s.frames = f :: rest) (name : String) (hv : v ≠ .undefined) (n : String) :
    find { s with frames := f.assign name v :: rest } n =
      if n = name ∧ name ∉ f.loopNames then v else s.find n := by
  have hfind := hf.find_assign name n v
  unfold find
  rw [hframes]
  dsimp only
  split_ifs at hfind ⊢ with hn
  · rw [findIn_of_bound (by rwa [hfind]), hfind]
  · by_cases hbound : f.find n = .undefined
    · rw [findIn_of_unbound hbound, findIn_of_unbound (by rw [hfind, hbound])]
      rfl
    · rw [findIn_of_bound hbound, findIn_of_bound (by rwa [hfind]), hfind]

/-- A wide binding goes to the first frame of a template or macro call. -/
theorem assignWideIn_append_cons {f : Frame} {below : List Frame} (hf : f.kind.isWide = true) :
    ∀ {above : List Frame}, (∀ g ∈ above, g.kind.isWide = false) →
      assignWideIn name v (above ++ f :: below) = some (above ++ f.assign name v :: below)
  | [], _ => by rw [List.nil_append, assignWideIn, if_pos hf, List.nil_append]
  | g :: rest, h => by
    obtain ⟨hg, hrest⟩ := List.forall_mem_cons.1 h
    rw [List.cons_append, assignWideIn, if_neg (by simp [hg]), assignWideIn_append_cons hf hrest]
    rfl

theorem isCall_of_not_wide {k : FrameKind} (h : k.isWide = false) : k.isCall = false := by
  cases k <;> simp_all [FrameKind.isWide, FrameKind.isCall]

theorem loopNames_of_wide {f : Frame} (h : f.kind.isWide = true) : f.loopNames = [] := by
  unfold Frame.loopNames
  cases hk : f.kind <;> simp_all [FrameKind.isWide, FrameKind.loop?]

/-- A wide binding shows unless a frame further in has the name. -/
theorem find_assignWide {s : CallStack} {above below : List Frame} {f : Frame}
    (hf : f.Regular) (hwide : f.kind.isWide = true)
    (habove : ∀ g ∈ above, g.kind.isWide = false) (hframes : s.frames = above ++ f :: below)
    (name : String) (hv : v ≠ .undefined) (n : String)
    [Decidable (∃ g ∈ above, g.find name ≠ .undefined)] :
    find { s with frames := above ++ f.assign name v :: below } n =
      if n = name ∧ ¬∃ g ∈ above, g.find name ≠ .undefined then v else s.find n := by
  have hbelow := find_assign (s := { s with frames := f :: below }) hf rfl name hv n
  rw [loopNames_of_wide hwide] at hbelow
  unfold find at hbelow ⊢
  rw [hframes]
  dsimp only at hbelow ⊢
  by_cases hn : n = name
  · subst hn
    by_cases hhidden : ∃ g ∈ above, g.find n ≠ .undefined
    · rw [if_neg (by simp [hhidden]), findIn_congr_of_bound hhidden]
    · rw [if_pos ⟨rfl, hhidden⟩,
        findIn_append_of_unbound (fun g hg => isCall_of_not_wide (habove g hg))
          (by simpa using hhidden), hbelow]
      simp
  · rw [if_neg (by simp [hn])]
    rw [if_neg (by simp [hn])] at hbelow
    exact findIn_congr_below hbelow above

/-! ### Operations -/

/-- What is done with a call stack. -/
inductive Operation where
  | push (f : Frame)
  | pop
  | assign (name : String) (v : Value)
  | assignWide (name : String) (v : Value)

/-- The call stack after an operation, which leaves it as it was if it fails. -/
def after (s : CallStack) : Operation → CallStack
  | .push f => (s.push f).toOption.getD s
  | .pop => (s.pop.map Prod.snd).getD s
  | .assign name v => (s.assign name v).toOption.getD s
  | .assignWide name v => (s.assignWide name v).toOption.getD s

namespace Operation

/-- Only regular frames are entered, and the undefined marker is not bound. -/
def Regular : Operation → Prop
  | .push f => f.Regular
  | .pop => True
  | .assign _ v | .assignWide _ v => v ≠ .undefined

/-- An operation binds a name in a frame if it is the innermost one. -/
def BindsIn (f : Frame) : Operation → Prop
  | .assign .. => True
  | .assignWide .. => f.kind.isWide = true
  | _ => False

end Operation

variable {s t : CallStack} {f : Frame}

/-- An operation leaves the data as it is and the frames regular. -/
theorem regular_after (h : ∀ f ∈ s.frames, f.Regular) {o : Operation} (ho : o.Regular) :
    (∀ f ∈ (s.after o).frames, f.Regular) ∧ (s.after o).context = s.context := by
  cases o with
  | push f =>
    rw [after]
    cases hpush : s.push f with
    | error _ => exact ⟨h, rfl⟩
    | ok t =>
      obtain ⟨rfl, -⟩ := push_eq_ok hpush
      exact ⟨List.forall_mem_cons.2 ⟨ho, h⟩, rfl⟩
  | pop =>
    rw [after, pop]
    cases hframes : s.frames with
    | nil => exact ⟨h, rfl⟩
    | cons f rest =>
      rw [hframes] at h
      exact ⟨fun g hg => h g (List.mem_cons_of_mem _ hg), rfl⟩
  | assign name v =>
    rw [after, assign]
    cases hframes : s.frames with
    | nil => exact ⟨h, rfl⟩
    | cons f rest =>
      obtain ⟨hf, hrest⟩ := List.forall_mem_cons.1 (hframes ▸ h)
      exact ⟨List.forall_mem_cons.2 ⟨hf.assign ho, hrest⟩, rfl⟩
  | assignWide name v =>
    rw [after, assignWide]
    cases hframes : assignWideIn name v s.frames with
    | none => exact ⟨h, rfl⟩
    | some out => exact ⟨forall_mem_assignWideIn (fun g hg => hg.assign ho) h hframes, rfl⟩

/-- After any operations the frames are regular and the data is what it was. -/
theorem regular_run {ops : List Operation} (hops : ∀ o ∈ ops, o.Regular)
    (h : ∀ f ∈ s.frames, f.Regular) :
    (∀ f ∈ (ops.foldl after s).frames, f.Regular) ∧ (ops.foldl after s).context = s.context := by
  induction ops generalizing s with
  | nil => exact ⟨h, rfl⟩
  | cons o rest ih =>
    obtain ⟨ho, hrest⟩ := List.forall_mem_cons.1 hops
    obtain ⟨hregular, hcontext⟩ := regular_after h ho
    obtain ⟨hregular', hcontext'⟩ := ih hrest hregular
    exact ⟨hregular', hcontext'.trans hcontext⟩

/-! ### Scopes that are left -/

/-- Frames of the same kind with whatever locals lie on a stack that is otherwise as it was after a
    frame was put on it. -/
def Over (s : CallStack) (f : Frame) (u : CallStack) : Prop :=
  ∃ g, g.kind = f.kind ∧ s.push f = .ok { u with frames := f :: s.frames } ∧
    u.frames = g :: s.frames

theorem over_of_push (h : s.push f = .ok t) : Over s f t := by
  obtain ⟨rfl, -⟩ := push_eq_ok h
  exact ⟨f, rfl, h, rfl⟩

/-- What binds in the innermost frame stays above the rest of the stack. -/
theorem Over.after {u : CallStack} (h : Over s f u) {o : Operation} (ho : o.BindsIn f) :
    Over s f (u.after o) := by
  obtain ⟨g, hkind, hpush, hframes⟩ := h
  cases o with
  | push | pop => cases ho
  | assign name v =>
    refine ⟨g.assign name v, hkind, ?_, ?_⟩
    all_goals simp only [CallStack.after, CallStack.assign, hframes]
    · exact hpush
    · rfl
  | assignWide name v =>
    have hwide : g.kind.isWide = true := by rw [hkind]; exact ho
    have hout : assignWideIn name v u.frames = some (g.assign name v :: s.frames) := by
      rw [hframes, assignWideIn, if_pos hwide]
    refine ⟨g.assign name v, hkind, ?_, ?_⟩
    all_goals simp only [CallStack.after, CallStack.assignWide, hout]
    · exact hpush
    · rfl

/-- Where the frame is left, the stack is what it was. -/
theorem Over.pop {u : CallStack} (h : Over s f u) : u.pop.map Prod.snd = some s := by
  obtain ⟨g, hkind, hpush, hframes⟩ := h
  obtain ⟨hu, -⟩ := push_eq_ok hpush
  obtain ⟨context, limit, frames, depth⟩ := s
  obtain ⟨context', limit', frames', depth'⟩ := u
  simp only [CallStack.mk.injEq] at hu hframes
  obtain ⟨rfl, rfl, -, rfl⟩ := hu
  subst hframes
  unfold CallStack.pop
  cases hcall : f.kind.isCall <;> simp [hkind, hcall]

theorem pop_of_binds (h : s.push f = .ok t) {ops : List Operation}
    (hops : ∀ o ∈ ops, o.BindsIn f) : (ops.foldl CallStack.after t).pop.map Prod.snd = some s := by
  suffices hover : ∀ u, Over s f u → Over s f (ops.foldl CallStack.after u) from
    (hover t (over_of_push h)).pop
  induction ops with
  | nil => exact fun u hu => hu
  | cons o rest ih =>
    obtain ⟨ho, hrest⟩ := List.forall_mem_cons.1 hops
    exact fun u hu => ih hrest _ (hu.after ho)

/-! ### The laws of scopes -/

/-- A call stack is a scoped environment, whatever has been done with it. A host finds what code
    finds, and the names that are visible are those that a lookup finds. A binding in the innermost
    frame shows unless the loop of the frame has the name, and a wide binding shows unless a frame
    further in than the one that it goes to has the name; no other name changes. A frame that is
    entered, bound in and left leaves the stack as it was. A name that no frame has up to the
    innermost macro call stands for nothing, whatever the frames further out and the data have, and
    where no macro is called it stands for what the data has. -/
theorem scoped_environment {context : Context} (hcontext : context.Built) (limit : Int)
    {ops : List Operation} (hops : ∀ o ∈ ops, o.Regular) {s : CallStack}
    (hs : s = ops.foldl CallStack.after { context, limit }) :
    (∀ name, s.lookup name = .ok (s.find name)) ∧
    (∀ name, name ∈ s.visibleNames ↔ s.find name ≠ .undefined) ∧
    (∀ name v, v ≠ .undefined → ∀ f rest, s.frames = f :: rest →
      ∃ t, s.assign name v = .ok t ∧ (name ∉ f.loopNames → t.find name = v) ∧
        (name ∈ f.loopNames → t.find name = s.find name) ∧
        ∀ n, n ≠ name → t.find n = s.find n) ∧
    (∀ name v, v ≠ .undefined → ∀ above f below, s.frames = above ++ f :: below →
      f.kind.isWide = true → (∀ g ∈ above, g.kind.isWide = false) →
      ∃ t, s.assignWide name v = .ok t ∧ ((∀ g ∈ above, name ∉ g.names) → t.find name = v) ∧
        ((∃ g ∈ above, name ∈ g.names) → t.find name = s.find name) ∧
        ∀ n, n ≠ name → t.find n = s.find n) ∧
    (∀ f t, s.push f = .ok t → ∀ binds : List Operation, (∀ o ∈ binds, o.BindsIn f) →
      (binds.foldl CallStack.after t).pop.map Prod.snd = some s) ∧
    (∀ name above f below, s.frames = above ++ f :: below → f.kind.isCall = true →
      (∀ g ∈ above, g.kind.isCall = false) → (∀ g ∈ above ++ [f], name ∉ g.names) →
      ∀ outer data, find { s with frames := above ++ f :: outer, context := data } name =
        .undefined) ∧
    ∀ name, (∀ f ∈ s.frames, f.kind.isCall = false) → (∀ f ∈ s.frames, name ∉ f.names) →
      s.find name = context.lookup name := by
  obtain ⟨hregular, hsame⟩ := regular_run (s := { context, limit }) hops (by simp)
  rw [← hs] at hregular hsame
  have unbound {frames : List Frame} (hframes : frames ⊆ s.frames) {name : String}
      (h : ∀ g ∈ frames, name ∉ g.names) : ∀ g ∈ frames, g.find name = .undefined := by
    intro g hg
    simpa using mt ((hregular g (hframes hg)).mem_names_iff name).2 (h g hg)
  refine ⟨fun name => ?_, ?_, ?_, ?_, fun f t hpush binds => pop_of_binds hpush, ?_, ?_⟩
  · exact lookupIn_eq_find _ _ _ fun f hf => (hregular f hf).lacks name
  · exact mem_visibleNames_iff (hsame ▸ hcontext.proper) hregular
  · intro name v hv f rest hframes
    have hf : f.Regular := hregular f (by simp [hframes])
    have hfind := find_assign hf hframes name hv
    refine ⟨{ s with frames := f.assign name v :: rest }, ?_, fun hn => ?_, fun hn => ?_,
      fun n hn => ?_⟩
    · rw [CallStack.assign, hframes]
    · rw [hfind, if_pos ⟨rfl, hn⟩]
    · rw [hfind, if_neg (by simp [hn])]
    · rw [hfind, if_neg (by simp [hn])]
  · intro name v hv above f below hframes hwide habove
    have hsub : above ⊆ s.frames := by simp [hframes]
    have hhidden : (∃ g ∈ above, g.find name ≠ .undefined) ↔ ∃ g ∈ above, name ∈ g.names :=
      exists_congr fun g => and_congr_right fun hg =>
        ((hregular g (hsub hg)).mem_names_iff name).symm
    classical
    have hfind := find_assignWide (hregular f (by simp [hframes])) hwide habove hframes name hv
    rw [hhidden] at hfind
    refine ⟨{ s with frames := above ++ f.assign name v :: below }, ?_, fun hn => ?_, fun hn => ?_,
      fun n hn => ?_⟩
    · rw [CallStack.assignWide, hframes, assignWideIn_append_cons hwide habove]
    · rw [hfind, if_pos ⟨rfl, by simpa using hn⟩]
    · rw [hfind, if_neg (by simpa using hn)]
    · rw [hfind, if_neg (by simp [hn])]
  · intro name above f below hframes hcall habove hnames outer data
    have hsub : above ++ [f] ⊆ s.frames := by simp [hframes]
    obtain ⟨hunbound, hf⟩ := List.forall_mem_append.1 (unbound hsub hnames)
    unfold find
    dsimp only
    rw [findIn_append_of_unbound habove hunbound, findIn_of_unbound (hf f (by simp)), if_pos hcall]
  · intro name hcalls hnames
    have hpass : findIn s.context name (s.frames ++ []) = findIn s.context name [] :=
      findIn_append_of_unbound hcalls (unbound (List.Subset.refl _) hnames)
    rw [List.append_nil, hsame] at hpass
    unfold find
    rw [hsame]
    exact hpass

/-- A template without code. -/
def sheet : Template := { name := "sheet.txt", document := {} }

/-- The data of a shop. -/
def shop : Context := ⟨[(.text "shop", .text "Books")]⟩

/-- A loop over one pair that calls a macro. -/
def row : List Operation :=
  [.push (.root sheet), .assign "total" (.int 3),
    .push (.iteration { valueName := "item", items := #[(.null, .text "a")] } sheet),
    .assignWide "seen" (.bool true), .push (.call "cell" sheet), .assign "width" (.int 1)]

/-- The frame of the macro call and those around it. -/
theorem frames_row : (row.foldl after { context := shop }).frames =
    [] ++ (Frame.call "cell" sheet).assign "width" (.int 1) ::
      [.iteration { valueName := "item", items := #[(.null, .text "a")] } sheet,
        ((Frame.root sheet).assign "total" (.int 3)).assign "seen" (.bool true)] := rfl

theorem scoped_environment_row : shop.Built ∧ (∀ o ∈ row, o.Regular) ∧
    ∃ s, s = row.foldl after { context := shop } ∧ "width" ∈ s.visibleNames ∧
      (∃ outer data, find { s with frames := outer, context := data } "seen" = .undefined) ∧
      ∃ t, s.assign "item" (.int 2) = .ok t ∧ t.find "item" = .int 2 ∧
        t.find "width" = s.find "width" := by
  have hbuilt : shop.Built :=
    .ofData (show Context.ofData (.object shop.entries) = .ok shop from rfl)
  have hplain (f : Frame) (hlocals : f.locals = .empty) (hloop : f.kind.loop? = none) :
      f.Regular := by
    refine ⟨⟨trivial, ?_, ?_, fun _ => trivial⟩, ?_⟩
    · simp [hlocals]
    all_goals simp [hloop]
  have hiteration : (Frame.iteration { valueName := "item", items := #[(.null, .text "a")] }
      sheet).Regular := by
    refine ⟨⟨trivial, nofun, ?_, fun _ => trivial⟩, ?_⟩
    · rintro _ ⟨⟩
      exact ⟨by simp, by decide⟩
    · rintro _ ⟨⟩
      exact nofun
  have hregular : ∀ o ∈ row, o.Regular := by
    simp only [row, List.forall_mem_cons]
    exact ⟨hplain _ rfl rfl, nofun, hiteration, nofun, hplain _ rfl rfl, nofun, by simp⟩
  have hwidth : find (row.foldl after { context := shop }) "width" = .int 1 := rfl
  have hframes := frames_row
  have hnames : ∀ g ∈ [(Frame.call "cell" sheet).assign "width" (.int 1)], "seen" ∉ g.names := by
    decide
  -- What the operations lead to is computed here once; the laws are applied to it by name.
  refine ⟨hbuilt, hregular, _, rfl, ?_⟩
  generalize hs : row.foldl after { context := shop } = s at hwidth hframes
  obtain ⟨-, hvisible, hassign, -, -, hboundary, -⟩ :=
    scoped_environment hbuilt 50 hregular hs.symm
  have hbound := hboundary "seen" [] _ _ hframes rfl (by simp) hnames [] shop
  obtain ⟨t, ht, hitem, -, hother⟩ := hassign "item" (.int 2) nofun _ _ hframes
  refine ⟨(hvisible "width").2 (by simp [hwidth]), ⟨_, _, hbound⟩, t, ht, hitem ?_,
    hother "width" (by decide)⟩
  decide

end CallStack

end Stencil
