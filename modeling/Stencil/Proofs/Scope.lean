import Stencil.Proofs.Simulation.Nesting

/-! Scopes under lookups and changes. What a name stands for is a local, an item of a loop or part
    of the data, and changes of a stack change the locals of one frame or the request of one loop.
    What does not depend on these is the same for all frames before and after. -/

namespace Stencil

/-- The names of a loop stand for one of its pairs. -/
theorem Loop.Admitted.of_current {value : Value → Prop} {l : Loop} (h : l.Admitted value) :
    value l.current.1 ∧ value l.current.2 := by
  unfold Loop.current
  rw [Array.getElem?_eq_getElem h.current, Option.getD_some]
  exact h.pairs _ (Array.getElem_mem_toList h.current)

namespace Frame

variable {template : Template → Prop} {value : Value → Prop} {chain : BlockChain → Prop} {f : Frame}

theorem Admitted.assign (h : f.Admitted template value chain) {name : String} {v : Value}
    (hv : value v) : (f.assign name v).Admitted template value chain where
  template := h.template
  locals := by
    intro n w hw
    rw [Frame.assign, Table.get?_insert] at hw
    split at hw
    · rwa [← Option.some.inj hw]
    · exact h.locals hw
  loop := h.loop
  chain := h.chain

/-- The state of a loop apart from its items and its position does not matter. -/
theorem Admitted.iterated (h : f.Admitted template value chain) {l l' : Loop}
    (hl : f.kind = .iteration l) (hitems : l'.items = l.items) (hindex : l'.index = l.index) :
    Frame.Admitted template value chain { f with kind := .iteration l' } where
  template := h.template
  locals := h.locals
  loop := by
    intro _ heq
    cases heq
    have hloop := h.loop (l := l) (by rw [hl]; rfl)
    exact ⟨by rw [hitems]; exact hloop.pairs, by rw [hitems, hindex]; exact hloop.current⟩
  chain := by simp

/-- A name in a frame stands for one of the items of its loop, for what the loop tells about itself,
    or for a local. -/
theorem Admitted.find (h : f.Admitted template value chain) (hv : Value.Hereditary value)
    (name : String) : Value.Found value (f.find name) := by
  have metadata (l : Loop) : value l.metadata := by
    refine hv.object fun e he => ?_
    obtain ⟨c, hc, rfl⟩ := List.mem_map.1 he
    refine ⟨rfl, hv.text _, ?_⟩
    simp only [Loop.counters, List.mem_cons, List.not_mem_nil, or_false] at hc
    rcases hc with rfl | rfl | rfl | rfl | rfl | rfl | rfl
    any_goals exact hv.number (.int _)
    all_goals exact hv.bool _
  unfold Frame.find
  split
  · rename_i v hbound
    obtain ⟨l, hl, hbound⟩ := Option.bind_eq_some_iff.1 hbound
    obtain ⟨hkey, hvalue⟩ := (h.loop hl).of_current
    unfold Loop.binding? at hbound
    split_ifs at hbound <;> cases hbound
    · exact Or.inl hvalue
    · exact Or.inl hkey
    · exact Or.inl (metadata l)
  · cases hlocal : f.locals.get? name with
    | none => exact Or.inr rfl
    | some v => exact Or.inl (h.locals hlocal)

end Frame

namespace CallStack

variable {value : Value → Prop} {P : Frame → Prop}

/-- What a name stands for is found in a frame or in the data. -/
theorem found_findIn {context : Context} {name : String}
    (hc : Value.Found value (context.lookup name)) :
    ∀ {frames : List Frame}, (∀ f ∈ frames, Value.Found value (f.find name)) →
      Value.Found value (findIn context name frames)
  | [], _ => hc
  | f :: rest, h => by
    rw [List.forall_mem_cons] at h
    rw [findIn]
    split
    · split
      · exact Or.inr rfl
      · exact found_findIn hc h.2
    · exact h.1

theorem mem_of_mem_inScope {f : Frame} : ∀ {frames : List Frame}, f ∈ inScope frames → f ∈ frames
  | [], h => h
  | g :: rest, h => by
    rw [inScope] at h
    split at h
    · rw [List.mem_singleton.1 h]
      exact List.mem_cons_self ..
    · rcases List.mem_cons.1 h with rfl | h
      · exact List.mem_cons_self ..
      · exact List.mem_cons_of_mem _ (mem_of_mem_inScope h)

/-- The block that runs is that of one of the frames. -/
theorem mem_of_currentBlock {s : CallStack} {f : Frame} (h : s.currentBlock = some f) :
    f ∈ s.frames :=
  mem_of_mem_inScope (List.mem_of_find?_eq_some h)

/-- Entering a scope puts its frame on top; a macro call is counted, and is below the limit. -/
theorem push_eq_ok {s t : CallStack} {f : Frame} (h : s.push f = .ok t) :
    t = { s with
        frames := f :: s.frames
        macroDepth := if f.kind.isCall then s.macroDepth + 1 else s.macroDepth } ∧
      (f.kind.isCall = true → (s.macroDepth : Int) < s.limit) := by
  unfold push at h
  split at h
  · rename_i hcall
    split at h
    · cases h
    · rename_i hlimit
      exact ⟨by rw [if_pos hcall]; exact (Except.ok.inj h).symm, fun _ => Int.not_le.1 hlimit⟩
  · rename_i hcall
    exact ⟨by rw [if_neg hcall]; exact (Except.ok.inj h).symm, fun hf => absurd hf hcall⟩

/-- A change of the innermost loop keeps what does not depend on the state of a loop. -/
theorem map_changeLoopIn {g : Frame → α} {change : Loop → Loop}
    (hg : ∀ f l, f.kind = .iteration l → g { f with kind := .iteration (change l) } = g f) :
    ∀ frames : List Frame, (changeLoopIn change frames).map g = frames.map g
  | [] => rfl
  | f :: rest => by
    rw [changeLoopIn]
    split
    · rename_i l hk
      rw [List.map_cons, List.map_cons, hg f l hk]
    · rfl
    · rw [List.map_cons, List.map_cons, map_changeLoopIn hg rest]

/-- A wide binding keeps what does not depend on the locals of a frame. -/
theorem map_assignWideIn {g : Frame → α} {name : String} {v : Value}
    (hg : ∀ f, g (f.assign name v) = g f) : ∀ {frames out : List Frame},
      assignWideIn name v frames = some out → out.map g = frames.map g
  | f :: rest, out, h => by
    rw [assignWideIn] at h
    split at h
    · cases h
      rw [List.map_cons, List.map_cons, hg]
    · obtain ⟨rest', hrest, rfl⟩ := Option.map_eq_some_iff.1 h
      rw [List.map_cons, List.map_cons, map_assignWideIn hg hrest]

/-- A change of the innermost loop keeps what it keeps for each loop. -/
theorem forall_mem_changeLoopIn {change : Loop → Loop}
    (hchange : ∀ f l, f.kind = .iteration l → P f → P { f with kind := .iteration (change l) }) :
    ∀ {frames : List Frame}, (∀ f ∈ frames, P f) → ∀ f ∈ changeLoopIn change frames, P f
  | [], h => h
  | f :: rest, h => by
    rw [List.forall_mem_cons] at h
    rw [changeLoopIn]
    split
    · rename_i l hk
      exact List.forall_mem_cons.2 ⟨hchange f l hk h.1, h.2⟩
    · exact List.forall_mem_cons.2 h
    · exact List.forall_mem_cons.2 ⟨h.1, forall_mem_changeLoopIn hchange h.2⟩

/-- A wide binding keeps what a binding keeps for each frame. -/
theorem forall_mem_assignWideIn {name : String} {v : Value}
    (hassign : ∀ f, P f → P (f.assign name v)) : ∀ {frames out : List Frame},
      (∀ f ∈ frames, P f) → assignWideIn name v frames = some out → ∀ f ∈ out, P f
  | f :: rest, out, h, ho => by
    rw [List.forall_mem_cons] at h
    rw [assignWideIn] at ho
    split at ho
    · cases ho
      exact List.forall_mem_cons.2 ⟨hassign f h.1, h.2⟩
    · obtain ⟨rest', hrest, rfl⟩ := Option.map_eq_some_iff.1 ho
      exact List.forall_mem_cons.2 ⟨h.1, forall_mem_assignWideIn hassign h.2 hrest⟩

end CallStack

end Stencil
