import Stencil.Proofs.Passing

/-! Clean values. A text is *clean* if it has none of the characters that can open or close a tag or
    an attribute, and a value if every text marked safe anywhere in it is clean; texts that are not
    marked may hold anything. Escaped texts are clean, cleanness is hereditary, and so the built-in
    capabilities, but for the one that marks any text as safe, make clean values of clean ones. -/

namespace Stencil

namespace Text

/-- A character that can open or close a tag or an attribute. -/
def isDelimiter (c : Char) : Bool := c == '<' || c == '>' || c == '"' || c == '\''

/-- The text has no delimiter. -/
def Clean (s : String) : Prop := ∀ c ∈ s.toList, isDelimiter c = false

instance (s : String) : Decidable (Clean s) :=
  List.decidableBAll (fun c => isDelimiter c = false) s.toList

theorem clean_ofList {cs : List Char} (h : ∀ c ∈ cs, isDelimiter c = false) :
    Clean (String.ofList cs) := by
  unfold Clean
  rwa [String.toList_ofList]

theorem isDelimiter_htmlEntity {c d : Char} (h : c ∈ htmlEntity d) : isDelimiter c = false := by
  have hall : (htmlEntity d).all (fun e => !isDelimiter e) = true := by
    unfold htmlEntity
    split
    iterate 6
      · rfl
    · simp_all [isDelimiter]
  simpa using List.all_eq_true.1 hall c h

theorem isDelimiter_xmlEntity {c d : Char} (h : c ∈ xmlEntity d) : isDelimiter c = false := by
  have hall : (xmlEntity d).all (fun e => !isDelimiter e) = true := by
    unfold xmlEntity
    split
    iterate 5
      · rfl
    · simp_all [isDelimiter]
  simpa using List.all_eq_true.1 hall c h

theorem clean_escapeHtml (s : String) : Clean (escapeHtml s) := by
  refine clean_ofList fun c hc => ?_
  obtain ⟨d, -, hc⟩ := List.mem_flatMap.1 hc
  exact isDelimiter_htmlEntity hc

theorem clean_escapeXml (s : String) : Clean (escapeXml s) := by
  refine clean_ofList fun c hc => ?_
  obtain ⟨d, -, hc⟩ := List.mem_flatMap.1 hc
  exact isDelimiter_xmlEntity hc

end Text

namespace Value

/-- Every text marked safe in a value is clean. -/
inductive Clean : Value → Prop where
  | null : Clean .null
  | bool (b : Bool) : Clean (.bool b)
  | int (n : Int) : Clean (.int n)
  | float (x : Binary64) : Clean (.float x)
  | text (s : String) : Clean (.text s)
  | markup {s : String} (h : Text.Clean s) : Clean (.markup s)
  | list {xs : List Value} (h : ∀ x ∈ xs, Clean x) : Clean (.list xs)
  | tuple {xs : List Value} (h : ∀ x ∈ xs, Clean x) : Clean (.tuple xs)
  | object {es : List (Value × Value)} (hk : ∀ e ∈ es, Clean e.1) (hv : ∀ e ∈ es, Clean e.2) :
      Clean (.object es)
  | undefined : Clean .undefined
  | bytes (data : List UInt8) : Clean (.bytes data)

namespace Clean

theorem ofNumber (n : Number) : Clean (.ofNumber n) := by
  cases n
  · exact .int _
  · exact .float _

theorem items {v : Value} {xs : List Value} (h : Clean v) (hxs : v.items? = some xs) :
    ∀ x ∈ xs, Clean x := by
  cases h <;> simp only [items?, Option.some.injEq, reduceCtorEq] at hxs
  case list h => exact hxs ▸ h
  case tuple h => exact hxs ▸ h

theorem entries {es : List (Value × Value)} (h : Clean (.object es)) :
    ∀ e ∈ es, Clean e.1 ∧ Clean e.2 := by
  cases h with
  | object hk hv => exact fun e he => ⟨hk e he, hv e he⟩

/-- Cleanness is passed on to whatever is found in a value. -/
theorem hereditary : Hereditary Clean where
  null := .null
  bool := .bool
  number := ofNumber
  text := .text
  list := .list
  object h := .object (fun e he => (h e he).2.1) fun e he => (h e he).2.2
  items h hxs := h.items hxs
  entries := entries

end Clean

end Value

/-- All arguments of a call are clean. -/
structure Invocation.Clean (inv : Invocation) : Prop where
  args : ∀ v ∈ inv.args, v.Clean
  named : ∀ a ∈ inv.named, a.2.Clean

theorem Invocation.Clean.given {inv : Invocation} (h : inv.Clean) :
    inv.Given Value.Clean Value.Clean := given_of_args h.args h.named

/-- What calls of a capability with clean arguments give, as templates get it, is clean. -/
def Capability.Clean (c : Capability) : Prop :=
  ∀ inv v, inv.Clean → c.call inv = .ok v → (Render.demoted c v).Clean

namespace Capability

/-- A capability that is not safe marks no text itself. -/
theorem clean_demoted {c : Capability} {v : Value} (hc : c.safe = false) (h : v.Clean) :
    (Render.demoted c v).Clean := of_demoted Value.Clean.hereditary hc h

end Capability

namespace Filter

open Capability Parameter

/-- Escaping marks clean texts alone. -/
theorem clean_escapeWith {f : String → String} (hf : ∀ s, Text.Clean (f s)) {v w : Value}
    (h : v.Clean) (hw : escapeWith f v = .ok w) : ∃ s, w = .markup s ∧ Text.Clean s := by
  unfold escapeWith at hw
  split at hw
  · rename_i s
    cases h with
    | markup hs => exact ⟨s, (Except.ok.inj hw).symm, hs⟩
  · simp only [bind_eq_ok, pure_eq_ok] at hw
    obtain ⟨s, -, rfl⟩ := hw
    exact ⟨f s, rfl, hf s⟩

/-- Of the safe filters, one marks any text, and the others mark clean texts. -/
theorem gives_ofSafe : ∀ e ∈ ofValues, isSafe e.1 = true → e.1 = "safe" ∨
    e.2.Gives Value.Clean Value.Clean fun w => ∃ s, w = .markup s ∧ Text.Clean s := by
  simp only [ofValues, List.forall_mem_cons, List.not_mem_nil, false_implies, implies_true,
    and_true]
  have unmarked {name : String} {q : Prop} (h : isSafe name = false) : isSafe name = true → q :=
    fun hsafe => absurd hsafe (by simp [h])
  refine ⟨unmarked (by decide), unmarked (by decide), unmarked (by decide), fun _ => Or.inl trivial,
    fun _ => Or.inr ?_, fun _ => Or.inr ?_⟩
  · exact gives_unary (default_none rfl) fun _ _ h hw =>
      clean_escapeWith Text.clean_escapeHtml h hw
  · exact gives_unary (default_none rfl) fun _ _ h hw =>
      clean_escapeWith Text.clean_escapeXml h hw

/-- Every built-in filter but one is clean. -/
theorem clean_of_get? {name : String} {c : Capability} (h : Filter.all.get? name = some c)
    (hname : name ≠ "safe") : c.Clean := by
  obtain ⟨f, rfl, hf⟩ := mem_of_get? h
  intro inv v hinv hv
  have hgiven : inv.Given (Operand Value.Clean name) Value.Clean :=
    ⟨fun w hw => Or.inl (hinv.given.operand w hw), hinv.given.rest, hinv.named⟩
  rcases hf with hf | hf
  · obtain ⟨hsafe, hf⟩ := gives_plain Value.Clean.hereditary _ hf
    exact clean_demoted hsafe (hf inv v hgiven hv)
  · rcases gives_ofValues Value.Clean.hereditary _ hf with ⟨hsafe, -⟩ | ⟨hsafe, hf⟩
    · obtain ⟨s, rfl, hs⟩ :=
        (gives_ofSafe _ hf hsafe).resolve_left hname inv v hinv.given hv
      dsimp only at hsafe
      rw [Render.demoted, hsafe]
      exact .markup hs
    · exact clean_demoted hsafe (hf inv v hgiven hv)

end Filter

/-- Every built-in function is clean. -/
theorem Function.clean_of_get? {host : Host} {name : String} {c : Capability}
    (h : (Function.all host).get? name = some c) : c.Clean := by
  obtain ⟨f, hf, rfl⟩ := Capability.mem_of_capabilities h
  exact fun inv v hinv hv => Capability.clean_demoted rfl
    (gives_behaviours Value.Clean.hereditary _ hf inv v hinv.given hv)

end Stencil
