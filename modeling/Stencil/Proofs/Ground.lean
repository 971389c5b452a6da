import Stencil.Proofs.Simulation.Invariant

/-! What lies below a scope. Whatever runs above some frames reaches them in two ways: a name that is
    bound widely may go to one of them, and a request may be one to a loop among them. A property
    of the lower frames that neither changes holds until their scope is left, however many scopes
    are entered above. So the frames below a macro call stay as they are. -/

namespace Stencil

namespace CallStack

/-- A wide binding goes to one of the upper frames, or to the lower ones as it would without the
    upper ones. -/
theorem append_of_assignWideIn {name : String} {v : Value} {lower : List Frame} :
    ∀ {upper out : List Frame}, assignWideIn name v (upper ++ lower) = some out →
      ∃ upper' lower', out = upper' ++ lower' ∧ upper'.length = upper.length ∧
        (lower' = lower ∨ assignWideIn name v lower = some lower')
  | [], out, h => ⟨[], out, rfl, rfl, Or.inr h⟩
  | f :: rest, out, h => by
    rw [List.cons_append, assignWideIn] at h
    split at h
    · cases h
      exact ⟨f.assign name v :: rest, lower, rfl, rfl, Or.inl rfl⟩
    · obtain ⟨out', hout, rfl⟩ := Option.map_eq_some_iff.1 h
      obtain ⟨upper', lower', rfl, hlength, hlower⟩ := append_of_assignWideIn hout
      exact ⟨f :: upper', lower', rfl, by simp [hlength], hlower⟩

/-- A change of the innermost loop is one of the upper frames, or of the lower ones as it would be
    without the upper ones. -/
theorem append_of_changeLoopIn (change : Loop → Loop) (lower : List Frame) : ∀ upper : List Frame,
    ∃ upper' lower', changeLoopIn change (upper ++ lower) = upper' ++ lower' ∧
      upper'.length = upper.length ∧ (lower' = lower ∨ lower' = changeLoopIn change lower)
  | [] => ⟨[], _, rfl, rfl, Or.inr rfl⟩
  | f :: rest => by
    obtain ⟨upper', lower', hrest, hlength, hlower⟩ := append_of_changeLoopIn change lower rest
    rw [List.cons_append, changeLoopIn]
    split
    · exact ⟨_ :: rest, lower, rfl, rfl, Or.inl rfl⟩
    · exact ⟨f :: rest, lower, rfl, rfl, Or.inl rfl⟩
    · exact ⟨f :: upper', lower', by rw [hrest, List.cons_append], by simp [hlength], hlower⟩

/-- A property of frames that bindings in the innermost one, wide bindings and requests keep. -/
structure Firm (F : List Frame → Prop) : Prop where
  assign : ∀ {f rest} name v, F (f :: rest) → F (f.assign name v :: rest)
  assignWide : ∀ {a b name v}, F a → assignWideIn name v a = some b → F b
  request : ∀ {a} signal, F a → F (changeLoopIn (·.request signal) a)

/-- The frames of a macro call that was made in other frames. -/
def InCall (caller frames : List Frame) : Prop :=
  ∃ g, frames = g :: caller ∧ g.kind.isCall = true

/-- Neither bindings nor requests in a macro call reach the frames below. -/
theorem firm_inCall (caller : List Frame) : Firm (InCall caller) where
  assign := by
    rintro f rest name v ⟨g, hg, hcall⟩
    obtain ⟨rfl, rfl⟩ := List.cons.inj hg
    exact ⟨f.assign name v, rfl, hcall⟩
  assignWide := by
    rintro _ b name v ⟨g, rfl, hcall⟩ h
    have hwide : g.kind.isWide = true := by
      cases hk : g.kind <;> simp_all [FrameKind.isCall, FrameKind.isWide]
    rw [assignWideIn, if_pos hwide] at h
    cases h
    exact ⟨g.assign name v, rfl, hcall⟩
  request := by
    rintro _ signal ⟨g, rfl, hcall⟩
    have hkind : g.kind = .call := by
      cases hk : g.kind <;> simp_all [FrameKind.isCall]
    refine ⟨g, ?_, hcall⟩
    rw [changeLoopIn, hkind]

end CallStack

namespace Render

open CallStack

/-- Renders above frames with a property, with some data: so many frames are above. -/
def above (context : Context) (F : List Frame → Prop) : Invariant Nat where
  holds i s := s.stack.context = context ∧
    ∃ upper lower, s.stack.frames = upper ++ lower ∧ upper.length = i ∧ F lower
  remains _ _ _ := True
  remains_of_holds _ _ := trivial
  waiting _ h := h

namespace Above

variable {context : Context} {F : List Frame → Prop} {i : Nat} {s u : RenderState}

theorem placeless : (above context F).Placeless where
  moved _ h := h
  left _ _ := trivial
  located _ _ := trivial

theorem assigned (hF : Firm F) (hs : (above context F).holds i s) {f : Frame} {rest : List Frame}
    (hf : s.stack.frames = f :: rest) (name : String) (v : Value) :
    (above context F).holds i
      { s with stack := { s.stack with frames := f.assign name v :: rest } } := by
  obtain ⟨hcontext, upper, lower, hframes, hlength, hlower⟩ := hs
  refine ⟨hcontext, ?_⟩
  rw [hf] at hframes
  cases upper with
  | nil =>
    obtain rfl : f :: rest = lower := hframes
    exact ⟨[], _, rfl, hlength, hF.assign name v hlower⟩
  | cons g upper =>
    obtain ⟨rfl, rfl⟩ := List.cons.inj hframes
    exact ⟨f.assign name v :: upper, lower, rfl, hlength, hlower⟩

theorem assignedWide (hF : Firm F) (hs : (above context F).holds i s) {frames : List Frame}
    {name : String} {v : Value} (hf : assignWideIn name v s.stack.frames = some frames) :
    (above context F).holds i { s with stack := { s.stack with frames } } := by
  obtain ⟨hcontext, upper, lower, hframes, hlength, hlower⟩ := hs
  rw [hframes] at hf
  obtain ⟨upper', lower', rfl, hlength', hcases⟩ := append_of_assignWideIn hf
  refine ⟨hcontext, upper', lower', rfl, hlength'.trans hlength, ?_⟩
  rcases hcases with rfl | hwide
  · exact hlower
  · exact hF.assignWide hlower hwide

theorem requested (hF : Firm F) (hs : (above context F).holds i s) (signal : Signal) :
    (above context F).holds i { s with stack := s.stack.changeLoop (·.request signal) } := by
  obtain ⟨hcontext, upper, lower, hframes, hlength, hlower⟩ := hs
  obtain ⟨upper', lower', hchange, hlength', hcases⟩ :=
    append_of_changeLoopIn (·.request signal) lower upper
  refine ⟨hcontext, upper', lower', ?_, hlength'.trans hlength, ?_⟩
  · unfold changeLoop
    rw [hframes, hchange]
  · rcases hcases with rfl | rfl
    · exact hlower
    · exact hF.request signal hlower

theorem pushed (hs : (above context F).holds i s) {f : Frame} {stack : CallStack}
    (hpush : s.stack.push f = .ok stack) : (above context F).holds (i + 1) { s with stack } := by
  obtain ⟨hcontext, upper, lower, hframes, hlength, hlower⟩ := hs
  obtain ⟨rfl, -⟩ := push_eq_ok hpush
  exact ⟨hcontext, f :: upper, lower, by simp [hframes], by simp [hlength], hlower⟩

theorem popped (hu : (above context F).holds (i + 1) u) :
    (above context F).holds i (Render.popped u) := by
  obtain ⟨hcontext, upper, lower, hframes, hlength, hlower⟩ := hu
  obtain ⟨g, upper, rfl⟩ := List.exists_cons_of_length_eq_add_one hlength
  unfold Render.popped CallStack.pop
  rw [hframes]
  exact ⟨hcontext, upper, lower, rfl, by simpa using hlength, hlower⟩

/-- What lies below keeps a property that bindings and requests keep. -/
theorem kept (hF : Firm F) : (above context F).Kept where
  exhausted _ := trivial
  lined _ hs := hs
  written _ hs := hs
  assigned name v hs hf := assigned hF hs hf name v
  assignedWide hs hf := assignedWide hF hs hf
  requested signal hs := requested hF hs signal
  inScope := (above context F).inScope fun i _ _ hs hpush =>
    ⟨i + 1, pushed hs hpush, fun _ hu => popped hu, fun _ _ _ => trivial⟩
  inTemplate := placeless.inTemplate
  captured := (above context F).captured fun i _ hs =>
    ⟨i, hs, fun _ hu => ⟨trivial, hu⟩, fun _ _ _ => trivial⟩
  allowing := placeless.allowing placeless fun i _ hs =>
    ⟨i, hs, fun _ hu => hu, fun _ _ _ => trivial⟩

end Above

end Render

end Stencil
