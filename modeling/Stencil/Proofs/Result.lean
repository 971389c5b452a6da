import Mathlib.Tactic.Common
import Stencil.Environment

/-! Results in sequence. A sequence succeeds iff its parts do, one after the other, and fails with the
    first of them that does not; a result that is only taken for another kind of problem succeeds
    iff it did before. -/

namespace Stencil

variable {ε α β : Type}

@[simp]
theorem bind_eq_ok {x : Except ε α} {f : α → Except ε β} {b : β} :
    x >>= f = .ok b ↔ ∃ a, x = .ok a ∧ f a = .ok b := by
  cases x <;> simp [bind, Except.bind]

theorem bind_eq_error {x : Except ε α} {f : α → Except ε β} {e : ε} :
    x >>= f = .error e ↔ x = .error e ∨ ∃ a, x = .ok a ∧ f a = .error e := by
  cases x <;> simp [bind, Except.bind]

theorem map_eq_ok {x : Except ε α} {f : α → β} {b : β} :
    x.map f = .ok b ↔ ∃ a, x = .ok a ∧ f a = b := by
  cases x <;> simp [Except.map]

@[simp]
theorem pure_eq_ok {a b : α} : (pure a : Except ε α) = .ok b ↔ a = b := by
  simp [pure, Except.pure]

/-- The results of a list come of its elements. -/
theorem exists_of_mapM_eq_ok {f : α → Except ε β} : ∀ {xs : List α} {ys : List β},
    xs.mapM f = .ok ys → ∀ y ∈ ys, ∃ x ∈ xs, f x = .ok y
  | [], ys, h => by
    rw [List.mapM_nil] at h
    cases h
    simp
  | x :: xs, ys, h => by
    rw [List.mapM_cons] at h
    simp only [bind_eq_ok, pure_eq_ok] at h
    obtain ⟨y, hy, rest, hrest, rfl⟩ := h
    refine List.forall_mem_cons.2 ⟨⟨x, List.mem_cons_self .., hy⟩, fun z hz => ?_⟩
    obtain ⟨w, hw, hfw⟩ := exists_of_mapM_eq_ok hrest z hz
    exact ⟨w, List.mem_cons_of_mem _ hw, hfw⟩

/-- What every step keeps holds of the result of all. -/
theorem of_foldlM_eq_ok {P : β → Prop} {f : β → α → Except ε β} : ∀ {xs : List α} {b c : β},
    (∀ x ∈ xs, ∀ b c, P b → f b x = .ok c → P c) → P b → xs.foldlM f b = .ok c → P c
  | [], b, c, _, hb, h => by
    rw [List.foldlM_nil] at h
    cases h
    exact hb
  | x :: xs, b, c, hstep, hb, h => by
    rw [List.foldlM_cons] at h
    simp only [bind_eq_ok] at h
    obtain ⟨d, hd, h⟩ := h
    rw [List.forall_mem_cons] at hstep
    exact of_foldlM_eq_ok hstep.2 (hstep.1 b d hb hd) h

namespace Environment

@[simp]
theorem ofConstruction_eq_ok {x : Except ConstructionError α} {a : α} :
    ofConstruction x = .ok a ↔ x = .ok a := by
  cases x <;> simp [ofConstruction]

@[simp]
theorem ofTemplate_eq_ok {x : Except TemplateError α} {a : α} :
    ofTemplate x = .ok a ↔ x = .ok a := by
  cases x <;> simp [ofTemplate]

/-- A capability that is found is registered. -/
theorem lookup_eq_ok {env : Environment} {kind : CapabilityKind} {name : String} {c : Capability}
    (h : env.lookup kind name = .ok c) : (env.registry kind).get? name = some c := by
  unfold lookup at h
  split at h
  · rename_i hc
    rw [hc, Except.ok.inj h]
  · cases h

end Environment

end Stencil
