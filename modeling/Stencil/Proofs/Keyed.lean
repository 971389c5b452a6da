import Mathlib.Data.List.Nodup
import Stencil.Value.Equality

/-! Objects without a key twice. The entries of an object are a list, so a value can be written down
    whose objects have keys that are no texts, or one key in two entries. Objects that are built up
    key by key are not like that: what is found under a key is then the one entry that has it. -/

namespace Stencil.Value

/-- All objects in a value, at any depth, have texts as keys, and none twice. -/
inductive Keyed : Value → Prop where
  | atom {v} (hitems : v.items? = none) (hentries : v.entries? = none) : Keyed v
  | items {v xs} (hv : v.items? = some xs) (h : ∀ x ∈ xs, Keyed x) : Keyed v
  | object {es} (hk : ∀ e ∈ es, e.1.text?.isSome = true) (hd : (es.map (·.1.text?)).Nodup)
      (hv : ∀ e ∈ es, Keyed e.2) : Keyed (.object es)

namespace Keyed

variable {v : Value} {es : List (Value × Value)}

theorem of_items {xs : List Value} (h : Keyed v) (hv : v.items? = some xs) : ∀ x ∈ xs, Keyed x := by
  cases h with
  | atom hitems _ =>
    rw [hitems] at hv
    cases hv
  | items hv' h =>
    cases hv'.symm.trans hv
    exact h
  | object _ _ _ => cases hv

theorem of_entries (h : Keyed (.object es)) : (∀ e ∈ es, e.1.text?.isSome = true) ∧
    (es.map (·.1.text?)).Nodup ∧ ∀ e ∈ es, Keyed e.2 := by
  cases h with
  | atom _ hentries => cases hentries
  | items hv _ => cases hv
  | object hk hd hv => exact ⟨hk, hd, hv⟩

/-- No two entries have the same key. -/
theorem entry_unique (h : Keyed (.object es)) {e f : Value × Value} (he : e ∈ es) (hf : f ∈ es)
    (heq : e.1.text? = f.1.text?) : e = f :=
  List.inj_on_of_nodup_map h.of_entries.2.1 he hf heq

end Keyed

/-- The value under a key is that of the entry that has it. -/
theorem field_of_mem {es : List (Value × Value)} {name : String} {e : Value × Value}
    (hd : (es.map (·.1.text?)).Nodup) (he : e ∈ es) (hname : e.1.text? = some name) :
    field es name = e.2 := by
  induction es with
  | nil => cases he
  | cons f rest ih =>
    obtain ⟨k, v⟩ := f
    rw [List.map_cons, List.nodup_cons] at hd
    rw [field]
    rcases List.mem_cons.1 he with rfl | he
    · rw [if_pos (by simpa using hname)]
    · have hk : ¬(k.text? == some name) = true := by
        intro hk
        have hsame : k.text? = e.1.text? := (beq_iff_eq.1 hk).trans hname.symm
        exact hd.1 (hsame ▸ List.mem_map_of_mem he)
      rw [if_neg hk]
      exact ih hd.2 he

end Stencil.Value
