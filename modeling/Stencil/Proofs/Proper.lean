import Stencil.Context
import Stencil.Proofs.Passing

/-! Template values proper: null, booleans, numbers and texts, lists of template values, and objects
    of template values under texts. What a host may hand in besides, and the marker of a lookup that
    has found nothing, are none. Contexts hold template values alone, whatever data they are built
    of, and the built-in filters and functions make template values of template values. -/

namespace Stencil

namespace Value

/-- A template value, with nothing else anywhere in it. -/
inductive Proper : Value → Prop where
  | null : Proper .null
  | bool (b : Bool) : Proper (.bool b)
  | int (n : Int) : Proper (.int n)
  | float (x : Binary64) : Proper (.float x)
  | text (s : String) : Proper (.text s)
  | markup (s : String) : Proper (.markup s)
  | list {xs : List Value} (h : ∀ x ∈ xs, Proper x) : Proper (.list xs)
  | object {es : List (Value × Value)} (hk : ∀ e ∈ es, e.1.text?.isSome = true)
      (hv : ∀ e ∈ es, Proper e.2) : Proper (.object es)

namespace Proper

variable {v w : Value}

theorem ne_undefined (h : Proper v) : v ≠ .undefined := by
  rintro rfl
  cases h

theorem ofNumber (n : Number) : Proper (.ofNumber n) := by
  cases n
  · exact .int _
  · exact .float _

theorem ofText {k : Value} (h : k.text?.isSome = true) : Proper k := by
  cases k <;> simp only [text?, Option.isSome_some, Option.isSome_none, reduceCtorEq] at h
  · exact .text _
  · exact .markup _

theorem items {xs : List Value} (h : Proper v) (hxs : v.items? = some xs) :
    ∀ x ∈ xs, Proper x := by
  cases h <;> simp only [items?, Option.some.injEq, reduceCtorEq] at hxs
  case list h => exact hxs ▸ h

theorem keys {es : List (Value × Value)} (h : Proper (.object es)) :
    ∀ e ∈ es, e.1.text?.isSome = true := by
  cases h with
  | object hk _ => exact hk

theorem entries {es : List (Value × Value)} (h : Proper (.object es)) :
    ∀ e ∈ es, Proper e.1 ∧ Proper e.2 := by
  cases h with
  | object hk hv => exact fun e he => ⟨ofText (hk e he), hv e he⟩

/-- What is found in a template value is one. -/
theorem hereditary : Hereditary Proper where
  null := .null
  bool := .bool
  number := ofNumber
  text := .text
  list := .list
  object h := .object (fun e he => (h e he).1) fun e he => (h e he).2.2
  items h hxs := h.items hxs
  entries := entries

end Proper

/-! ### Normalised data -/

mutual

/-- Data that is normalised is a template value. -/
theorem proper_of_normalize : ∀ {v w : Value}, v.normalize = .ok w → w.Proper
  | .null, w, h | .bool _, w, h | .int _, w, h | .float _, w, h | .text _, w, h
  | .markup _, w, h => by
    simp only [normalize, Except.ok.injEq] at h
    subst h
    constructor
  | .list xs, w, h | .tuple xs, w, h => by
    rw [normalize] at h
    simp only [bind_eq_ok, pure_eq_ok] at h
    obtain ⟨ys, hys, rfl⟩ := h
    exact .list (proper_of_normalizeAll hys)
  | .object es, w, h => by
    rw [normalize] at h
    simp only [bind_eq_ok, pure_eq_ok] at h
    obtain ⟨fs, hfs, rfl⟩ := h
    have hall := proper_of_normalizeEntries hfs
    exact .object (fun e he => (hall e he).1) fun e he => (hall e he).2
  | .undefined, w, h | .bytes _, w, h => by
    rw [normalize] at h
    cases h

theorem proper_of_normalizeAll : ∀ {xs ys : List Value}, normalizeAll xs = .ok ys →
    ∀ y ∈ ys, y.Proper
  | [], ys, h => by
    rw [normalizeAll] at h
    cases h
    simp
  | x :: xs, ys, h => by
    rw [normalizeAll] at h
    simp only [bind_eq_ok, pure_eq_ok] at h
    obtain ⟨y, hy, rest, hrest, rfl⟩ := h
    exact List.forall_mem_cons.2 ⟨proper_of_normalize hy, proper_of_normalizeAll hrest⟩

theorem proper_of_normalizeEntries : ∀ {es fs : List (Value × Value)},
    normalizeEntries es = .ok fs → ∀ e ∈ fs, e.1.text?.isSome = true ∧ e.2.Proper
  | [], fs, h => by
    rw [normalizeEntries] at h
    cases h
    simp
  | (k, v) :: rest, fs, h => by
    rw [normalizeEntries] at h
    split at h
    · cases h
    · rename_i s hs
      simp only [bind_eq_ok, pure_eq_ok] at h
      obtain ⟨w, hw, more, hmore, rfl⟩ := h
      refine List.forall_mem_cons.2 ⟨⟨?_, proper_of_normalize hw⟩, proper_of_normalizeEntries hmore⟩
      rw [hs]
      rfl

end

/-- Binding a template value under a text keeps a template value. -/
theorem Proper.bind {es : List (Value × Value)} {key value : Value} (h : Proper (.object es))
    (hk : key.text?.isSome = true) (hv : value.Proper) :
    Proper (.object (Value.bind es key value)) := by
  have hall : ∀ e ∈ Value.bind es key value, e.1.text?.isSome = true ∧ e.2.Proper := by
    refine forall_mem_bind (fun e he => ⟨h.keys e he, (h.entries e he).2⟩) fun k hkey => ⟨?_, hv⟩
    rcases hkey with rfl | ⟨e, he, rfl⟩
    · exact hk
    · exact h.keys e he
  exact .object (fun e he => (hall e he).1) fun e he => (hall e he).2

end Value

/-! ### Contexts -/

namespace Context

/-- The contexts that are built of host data by the operations of a context. -/
inductive Built : Context → Prop where
  | ofData {data : Value} {c : Context} (h : ofData data = .ok c) : Built c
  | insert {c d : Context} {key value : Value} (hc : Built c) (h : c.insert key value = .ok d) :
      Built d
  | extend {c d : Context} (hc : Built c) (hd : Built d) : Built (c.extend d)
  | remove {c d : Context} {key v : Value} (hc : Built c) (h : c.remove key = .ok (v, d)) : Built d

theorem proper_insert {c d : Context} {key value : Value} (hc : c.root.Proper)
    (h : c.insert key value = .ok d) : d.root.Proper := by
  unfold Context.insert at h
  split at h
  · cases h
  · rename_i s hs
    simp only [bind_eq_ok, pure_eq_ok] at h
    obtain ⟨v, hv, rfl⟩ := h
    exact hc.bind (by rw [hs]; rfl) (Value.proper_of_normalize hv)

theorem proper_insertAll : ∀ {es : List (Value × Value)} {c d : Context}, c.root.Proper →
    c.insertAll es = .ok d → d.root.Proper
  | [], c, d, hc, h => by
    rw [insertAll] at h
    cases h
    exact hc
  | (k, v) :: rest, c, d, hc, h => by
    rw [insertAll] at h
    simp only [bind_eq_ok] at h
    obtain ⟨b, hb, h⟩ := h
    exact proper_insertAll (proper_insert hc hb) h

theorem proper_ofData {data : Value} {c : Context} (h : ofData data = .ok c) : c.root.Proper := by
  have hempty : Context.root {} |>.Proper := .object (by simp) (by simp)
  unfold ofData at h
  split at h
  · cases h
    exact hempty
  · split at h
    · exact proper_insertAll hempty h
    · cases h

theorem proper_extend {c d : Context} (hc : c.root.Proper) (hd : d.root.Proper) :
    (c.extend d).root.Proper := by
  have hfold : ∀ (fs es : List (Value × Value)), (Value.object es).Proper →
      (∀ e ∈ fs, e.1.text?.isSome = true ∧ e.2.Proper) →
      (Value.object (fs.foldl (fun es e => Value.bind es e.1 e.2) es)).Proper := by
    intro fs
    induction fs with
    | nil => exact fun es h _ => h
    | cons e rest ih =>
      intro es h hall
      rw [List.forall_mem_cons] at hall
      exact ih _ (h.bind hall.1.1 hall.1.2) hall.2
  exact hfold d.entries c.entries hc fun e he => ⟨hd.keys e he, (hd.entries e he).2⟩

theorem proper_remove {c d : Context} {key v : Value} (hc : c.root.Proper)
    (h : c.remove key = .ok (v, d)) : d.root.Proper := by
  unfold Context.remove at h
  split at h
  · cases h
    exact hc
  split at h
  · cases h
  split at h
  · cases h
    exact hc
  · cases h
    exact .object (fun e he => hc.keys e (List.mem_filter.1 he).1)
      fun e he => (hc.entries e (List.mem_filter.1 he).1).2

/-- A context holds template values alone. -/
theorem Built.proper {c : Context} (h : Built c) : c.root.Proper := by
  induction h with
  | ofData h => exact proper_ofData h
  | insert _ h ih => exact proper_insert ih h
  | extend _ _ ihc ihd => exact proper_extend ihc ihd
  | remove _ h ih => exact proper_remove ih h

end Context

/-! ### Capabilities -/

/-- Template values are made of template values by a built-in filter. One that supplies a default
    may be given what has not been found. -/
theorem Filter.proper_of_get? {name : String} {c : Capability} {inv : Invocation} {v : Value}
    (h : Filter.all.get? name = some c) (hinv : inv.Given (Operand Value.Proper name) Value.Proper)
    (hv : c.call inv = .ok v) : (Render.demoted c v).Proper := by
  obtain ⟨f, rfl, hf⟩ := mem_of_get? h
  have unmarked (hsafe : isSafe name = false)
      (hf : f.Gives (Operand Value.Proper name) Value.Proper Value.Proper) :
      (Render.demoted { name, behaviour := some f, safe := isSafe name } v).Proper :=
    Capability.of_demoted Value.Proper.hereditary hsafe (hf inv v hinv hv)
  rcases hf with hf | hf
  · obtain ⟨hsafe, hf⟩ := gives_plain Value.Proper.hereditary _ hf
    exact unmarked hsafe hf
  · rcases gives_ofValues Value.Proper.hereditary _ hf with ⟨hsafe, hf⟩ | ⟨hsafe, hf⟩
    · -- a filter that is marked safe gives a text, which becomes markup
      obtain ⟨s, rfl⟩ := hf inv v hinv hv
      dsimp only at hsafe
      rw [Render.demoted, hsafe]
      exact .markup s
    · exact unmarked hsafe hf

/-- Template values are made of template values by a built-in function. -/
theorem Function.proper_of_get? {host : Host} {name : String} {c : Capability} {inv : Invocation}
    {v : Value} (h : (Function.all host).get? name = some c)
    (hinv : inv.Given Value.Proper Value.Proper) (hv : c.call inv = .ok v) :
    (Render.demoted c v).Proper := by
  obtain ⟨f, hf, rfl⟩ := Capability.mem_of_capabilities h
  exact Capability.of_demoted Value.Proper.hereditary rfl
    (gives_behaviours Value.Proper.hereditary _ hf inv v hinv hv)

end Stencil
