import Stencil.Proofs.Purity
import Stencil.Proofs.Values

/-! Lenient and strict evaluation. What has a value strictly has the same value leniently. A lookup
    chain is a name with any number of attributes and items taken from it; if the keys of the items
    can be evaluated, it is undefined leniently where it is the error of an undefined name strictly,
    and the two agree otherwise. Conditions join chains by negation, conjunction and disjunction.
    They are never the error of an undefined name, and they hold iff they do when every chain is
    evaluated strictly and a missing one is read as false. -/

namespace Stencil.Render

variable {links : Links} {setting : Setting}

/-! ### Lookups -/

/-- The error of a lookup that has found nothing. -/
def isMissing : Halt → Bool
  | .problem (.template (.runtime e)) => e.errorClass == .undefinedName
  | _ => false

/-- A result is the error of a lookup that has found nothing. -/
def Missing {α : Type} (r : Except Halt α) : Prop := ∃ h, r = .error h ∧ isMissing h = true

@[simp]
theorem not_missing_ok {α : Type} (a : α) : ¬Missing (.ok a) := by
  simp [Missing]

@[simp]
theorem missing_error_iff {α : Type} {h : Halt} :
    Missing (.error h : Except Halt α) ↔ isMissing h = true := by
  simp [Missing]

theorem undefinedAt_missing (n : Node) (s : RenderState) :
    ∃ h, (undefinedAt n : Render Value) s = (.error h, s) ∧ isMissing h = true := by
  unfold undefinedAt
  cases s.place with
  | none => exact ⟨_, rfl, rfl⟩
  | some l => exact ⟨_, rfl, rfl⟩

/-- A lookup goes on from the value of its operand; a lenient one does not go on from nothing. -/
def stepFrom (lenient : Bool) (m : Render Value) (f : Value → Render Value) : Render Value := do
  let v ← m
  if lenient && v.isUndefined then return .undefined
  f v

/-- What the lookup of an attribute goes on with. -/
def attrFrom (p : Pos) (operand : Node) (name : String) (lenient : Bool) (v : Value) :
    Render Value := do
  let w ← ofFailure (v.getAttr name)
  found lenient (.attr p operand name) w

/-- What the lookup of an item goes on with. -/
def itemFrom (links : Links) (setting : Setting) (p : Pos) (operand key : Node) (lenient : Bool)
    (v : Value) : Render Value := do
  let k ← eval links setting false key
  found lenient (.item p operand key) (v.getItem k)

theorem eval_attr (p : Pos) (operand : Node) (name : String) (lenient : Bool) :
    eval links setting lenient (.attr p operand name) =
      stepFrom lenient (eval links setting lenient operand) (attrFrom p operand name lenient) := by
  rw [eval]
  rfl

theorem eval_item (p : Pos) (operand key : Node) (lenient : Bool) :
    eval links setting lenient (.item p operand key) =
      stepFrom lenient (eval links setting lenient operand)
        (itemFrom links setting p operand key lenient) := by
  rw [eval]
  rfl

section

variable {m : Render Value} {f : Value → Render Value} {s t : RenderState} {v : Value}

/-- From something a lookup goes on. -/
theorem stepFrom_of_value {lenient : Bool} (hm : m s = (.ok v, t))
    (hv : (lenient && v.isUndefined) = false) : stepFrom lenient m f s = f v t := by
  rw [stepFrom, bind_of_done hm, hv]
  rfl

theorem stepFrom_of_undefined (hm : m s = (.ok .undefined, t)) :
    stepFrom true m f s = (.ok .undefined, t) := by
  rw [stepFrom, bind_of_done hm]
  rfl

theorem stepFrom_of_error {lenient : Bool} {h : Halt} (hm : m s = (.error h, t)) :
    stepFrom lenient m f s = (.error h, t) := by
  rw [stepFrom, bind_of_error hm]

/-- What is found has a value. -/
theorem found_of_value (n : Node) (lenient : Bool) (hv : v ≠ .undefined) :
    found lenient n v = done v := by
  have hundefined : v.isUndefined = false :=
    Bool.eq_false_iff.2 fun h => hv (Value.isUndefined_iff.1 h)
  simp [found, hundefined]

/-- Only what is found has a value strictly. -/
theorem ne_undefined_of_found {n : Node} {w : Value} (h : found false n v s = (.ok w, t)) :
    v ≠ .undefined := by
  rintro rfl
  obtain ⟨e, he, -⟩ := undefinedAt_missing n s
  have hvalue : (undefinedAt n : Render Value) s = (.ok w, t) := h
  cases he.symm.trans hvalue

end

/-! ### Values -/

section

variable {s t : RenderState} {v w : Value}

theorem getItem_undefined (key : Value) : Value.getItem .undefined key = .undefined := by
  cases key <;> simp [Value.getItem, Value.itemAt, Value.items?, Value.entries?]

theorem attrFrom_lenient {p : Pos} {operand : Node} {name : String}
    (h : attrFrom p operand name false v s = (.ok w, t)) :
    v ≠ .undefined ∧ attrFrom p operand name true v s = (.ok w, t) := by
  obtain ⟨x, u, hx, h⟩ := bind_eq_done h
  have hfound := ne_undefined_of_found h
  refine ⟨?_, ?_⟩
  · rintro rfl
    cases hx
    exact hfound rfl
  · rw [attrFrom, bind_of_done hx, found_of_value _ _ hfound, ← found_of_value _ false hfound]
    exact h

theorem itemFrom_lenient {p : Pos} {operand key : Node}
    (h : itemFrom links setting p operand key false v s = (.ok w, t)) :
    v ≠ .undefined ∧ itemFrom links setting p operand key true v s = (.ok w, t) := by
  obtain ⟨k, u, hk, h⟩ := bind_eq_done h
  have hfound := ne_undefined_of_found h
  refine ⟨?_, ?_⟩
  · rintro rfl
    exact hfound (getItem_undefined k)
  · rw [itemFrom, bind_of_done hk, found_of_value _ _ hfound, ← found_of_value _ false hfound]
    exact h

/-- A step that leads to a value strictly does so leniently. -/
theorem stepFrom_lenient {m m' : Render Value} {f : Bool → Value → Render Value}
    (hm : ∀ {w u}, m s = (.ok w, u) → m' s = (.ok w, u))
    (hf : ∀ {w u}, f false w u = (.ok v, t) → w ≠ .undefined ∧ f true w u = (.ok v, t))
    (h : stepFrom false m (f false) s = (.ok v, t)) :
    stepFrom true m' (f true) s = (.ok v, t) := by
  obtain ⟨w, u, hw, h⟩ := bind_eq_done h
  obtain ⟨hne, hlenient⟩ := hf h
  have hgoes : (true && w.isUndefined) = false :=
    Bool.eq_false_iff.2 fun h => hne (Value.isUndefined_iff.1 h)
  rw [stepFrom_of_value (hm hw) hgoes, hlenient]

/-- What has a value strictly has it leniently. -/
theorem eval_lenient (n : Node) {s t : RenderState} {v : Value}
    (h : eval links setting false n s = (.ok v, t)) :
    eval links setting true n s = (.ok v, t) := by
  cases hlookup : n.isLookup with
  | false => rwa [eval_of_not_lookup true hlookup]
  | true =>
    cases n with
    | name p name =>
      rw [eval] at h ⊢
      have hstrict : found false (.name p name) (s.stack.find name) s = (.ok v, t) := h
      have hfound := ne_undefined_of_found hstrict
      have hlenient : found true (.name p name) (s.stack.find name) s = (.ok v, t) := by
        rw [found_of_value _ _ hfound, ← found_of_value _ false hfound]
        exact hstrict
      exact hlenient
    | attr p operand name =>
      rw [eval_attr] at h ⊢
      exact stepFrom_lenient (eval_lenient operand) attrFrom_lenient h
    | item p operand key =>
      rw [eval_item] at h ⊢
      exact stepFrom_lenient (eval_lenient operand) itemFrom_lenient h
    | _ => cases hlookup

end

/-! ### Chains -/

/-- A lookup chain: a name, or an attribute or an item of a lookup chain. -/
inductive IsChain : Node → Prop
  | name {p : Pos} {n : String} : IsChain (.name p n)
  | attr {p : Pos} {operand : Node} {n : String} (h : IsChain operand) :
    IsChain (.attr p operand n)
  | item {p : Pos} {operand key : Node} (h : IsChain operand) : IsChain (.item p operand key)

/-- The keys of a lookup chain, as far as they come to be evaluated, have values. -/
def KeysEvaluate (links : Links) (setting : Setting) : Node → RenderState → Prop
  | .attr _ operand _, s => KeysEvaluate links setting operand s
  | .item _ operand key, s => KeysEvaluate links setting operand s ∧
    ∀ v t, eval links setting false operand s = (.ok v, t) →
      ∃ k u, eval links setting false key t = (.ok k, u)
  | _, _ => True

/-- What a strict and a lenient evaluation come to: to the same value, to the error that nothing was
    found and the undefined marker, or to the same error, which is another one. -/
inductive Softens : Except Halt Value × RenderState → Except Halt Value × RenderState → Prop
  | found {v : Value} {t : RenderState} (hv : v ≠ .undefined) : Softens (.ok v, t) (.ok v, t)
  | missing {h : Halt} {t : RenderState} (hh : isMissing h = true) :
    Softens (.error h, t) (.ok .undefined, t)
  | failed {h : Halt} {t : RenderState} (hh : isMissing h = false) :
    Softens (.error h, t) (.error h, t)

theorem softens_found (n : Node) (v : Value) (s : RenderState) :
    Softens (found false n v s) (found true n v s) := by
  by_cases hv : v = .undefined
  · subst hv
    obtain ⟨h, hs, hh⟩ := undefinedAt_missing n s
    have hstrict : found false n .undefined s = (.error h, s) := hs
    rw [hstrict]
    exact .missing hh
  · rw [found_of_value n false hv, found_of_value n true hv]
    exact .found hv

/-- A step from an operand keeps strict and lenient evaluation so related, if what follows does from
    wherever the operand leads. -/
theorem Softens.step {m m' : Render Value} {s : RenderState} (h : Softens (m s) (m' s))
    {f : Bool → Value → Render Value}
    (hf : ∀ v t, m s = (.ok v, t) → Softens (f false v t) (f true v t)) :
    Softens (stepFrom false m (f false) s) (stepFrom true m' (f true) s) := by
  generalize hm : m s = r at h
  generalize hm' : m' s = r' at h
  cases h with
  | @found v t hv =>
    have hgoes : (true && v.isUndefined) = false :=
      Bool.eq_false_iff.2 fun h => hv (Value.isUndefined_iff.1 h)
    rw [stepFrom_of_value hm rfl, stepFrom_of_value hm' hgoes]
    exact hf v t hm
  | missing hh =>
    rw [stepFrom_of_error hm, stepFrom_of_undefined hm']
    exact .missing hh
  | failed hh =>
    rw [stepFrom_of_error hm, stepFrom_of_error hm']
    exact .failed hh

/-- Strict and lenient evaluation are so related on a chain whose keys have values. -/
theorem IsChain.softens {n : Node} (hn : IsChain n) {s : RenderState}
    (hkeys : KeysEvaluate links setting n s) :
    Softens (eval links setting false n s) (eval links setting true n s) := by
  induction hn with
  | @name p n =>
    rw [eval, eval]
    exact softens_found _ _ s
  | @attr p operand n _ ih =>
    rw [eval_attr, eval_attr]
    refine (ih hkeys).step fun v t _ => ?_
    -- a lookup that fails fails in both modes; they differ only where nothing is found
    cases hattr : v.getAttr n with
    | error f =>
      have hfails (lenient : Bool) : attrFrom p operand n lenient v t = (.error (.failure f), t) :=
        bind_of_error (by rw [hattr]; rfl)
      rw [hfails, hfails]
      exact .failed rfl
    | ok w =>
      have hgoes (lenient : Bool) : attrFrom p operand n lenient v t =
          found lenient (.attr p operand n) w t :=
        bind_of_done (by rw [hattr]; rfl)
      rw [hgoes, hgoes]
      exact softens_found _ w t
  | @item p operand key _ ih =>
    rw [eval_item, eval_item]
    refine (ih hkeys.1).step fun v t hv => ?_
    obtain ⟨k, u, hk⟩ := hkeys.2 v t hv
    have hgoes (lenient : Bool) : itemFrom links setting p operand key lenient v t =
        found lenient (.item p operand key) (v.getItem k) u := bind_of_done hk
    rw [hgoes, hgoes]
    exact softens_found _ _ u

/-- A chain whose keys have values is never missing leniently, and it is undefined iff it is missing
    strictly. -/
theorem IsChain.undefined_iff_missing {n : Node} (hn : IsChain n) {s : RenderState}
    (hkeys : KeysEvaluate links setting n s) :
    ¬Missing (eval links setting true n s).1 ∧
      ((eval links setting true n s).1 = .ok .undefined ↔
        Missing (eval links setting false n s).1) := by
  have h := hn.softens hkeys
  generalize eval links setting false n s = strict at h
  generalize eval links setting true n s = lenient at h
  cases h with
  | found hv => simp [hv]
  | missing hh => simp [hh]
  | failed hh => simp [hh]

/-! ### Conditions -/

/-- A condition: a lookup chain, or conditions that are negated or joined. -/
inductive IsCondition : Node → Prop
  | chain {n : Node} (h : IsChain n) : IsCondition n
  | negation {p : Pos} {operand : Node} (h : IsCondition operand) :
    IsCondition (.unary p "not" operand)
  | joined {p : Pos} {op : String} {operands : List Node} (hop : op = "and" ∨ op = "or")
    (h : ∀ c ∈ operands, IsCondition c) : IsCondition (.logic p op operands)

/-- Whether a condition holds. -/
def holds (links : Links) (setting : Setting) (c : Node) : Render Bool := do
  return (← eval links setting true c).isTruthy

mutual

/-- The truth of a condition, read off what its chains are read as. -/
def reading {m : Type → Type} [Monad m] (chain : Node → m Bool) : Node → m Bool
  | .unary p op operand =>
    if op = "not" then do return !(← reading chain operand) else chain (.unary p op operand)
  | .logic _ op operands => readingOf chain (op = "and") operands
  | n => chain n

/-- The truth of conditions that are joined; those after the first that decides are not read. -/
def readingOf {m : Type → Type} [Monad m] (chain : Node → m Bool) (conjunction : Bool) :
    List Node → m Bool
  | [] => return conjunction
  | c :: rest => do
    if (← reading chain c) = conjunction then readingOf chain conjunction rest
    else return !conjunction

end

/-- The truth of a chain that is evaluated strictly, where a missing one is read as false. -/
def missingAsFalse (links : Links) (setting : Setting) (n : Node) : Render Bool := fun s =>
  match eval links setting false n s with
  | (.ok v, t) => (.ok v.isTruthy, t)
  | (.error h, t) => (if isMissing h then .ok false else .error h, t)

/-- A chain of a condition comes to be evaluated in a state, when the condition is in another. -/
inductive Meets (links : Links) (setting : Setting) :
    Node → RenderState → Node → RenderState → Prop
  | chain {n : Node} {s : RenderState} (h : IsChain n) : Meets links setting n s n s
  | negation {p : Pos} {c n : Node} {s t : RenderState} (h : Meets links setting c s n t) :
    Meets links setting (.unary p "not" c) s n t
  | first {p : Pos} {op : String} {c n : Node} {rest : List Node} {s t : RenderState}
    (h : Meets links setting c s n t) : Meets links setting (.logic p op (c :: rest)) s n t
  | next {p : Pos} {op : String} {c n : Node} {rest : List Node} {s t u : RenderState}
    (hc : reading (missingAsFalse links setting) c s = (.ok (decide (op = "and")), u))
    (h : Meets links setting (.logic p op rest) u n t) :
    Meets links setting (.logic p op (c :: rest)) s n t

theorem IsChain.reading_eq {m : Type → Type} [Monad m] {n : Node} (hn : IsChain n)
    (chain : Node → m Bool) : reading chain n = chain n := by
  cases hn <;> simp only [reading]

/-- Whether conditions that are joined hold; those after the first that decides are not
    evaluated. -/
def holdsOf (links : Links) (setting : Setting) (conjunction : Bool) : List Node → Render Bool
  | [] => done conjunction
  | c :: rest => do
    if (← holds links setting c) = conjunction then holdsOf links setting conjunction rest
    else return !conjunction

theorem holds_negation (p : Pos) (c : Node) :
    holds links setting (.unary p "not" c) = (do return !(← holds links setting c)) := by
  rw [holds, eval, holds, bind_bind, bind_bind]
  rfl

theorem allTrue_evalEach (cs : List Node) :
    allTrue (evalEach links setting true cs) = holdsOf links setting true cs := by
  induction cs with
  | nil => rw [evalEach, allTrue, holdsOf]
  | cons c rest ih =>
    rw [evalEach, allTrue, holdsOf, holds, bind_bind, ih]
    rfl

theorem anyTrue_evalEach (cs : List Node) :
    anyTrue (evalEach links setting true cs) = holdsOf links setting false cs := by
  induction cs with
  | nil => rw [evalEach, anyTrue, holdsOf]
  | cons c rest ih =>
    rw [evalEach, anyTrue, holdsOf, holds, bind_bind, ih]
    refine congrArg (eval links setting true c >>= ·) (funext fun v => ?_)
    change _ = if v.isTruthy = false then holdsOf links setting false rest else done !false
    cases v.isTruthy <;> rfl

theorem holds_joined (p : Pos) (op : String) (cs : List Node) :
    holds links setting (.logic p op cs) = holdsOf links setting (op = "and") cs := by
  rw [holds, eval]
  by_cases hop : op = "and"
  · rw [if_pos hop, bind_bind, allTrue_evalEach, decide_eq_true hop]
    exact bind_done _
  · rw [if_neg hop, bind_bind, anyTrue_evalEach, decide_eq_false hop]
    exact bind_done _

/-- Two computations do the same in a state, and it is not the error of a lookup that has found
    nothing. -/
def Concur {α : Type} (m m' : Render α) (s : RenderState) : Prop := m s = m' s ∧ ¬Missing (m s).1

theorem Concur.done {α : Type} (a : α) (s : RenderState) :
    Concur (Render.done a) (Render.done a) s :=
  ⟨rfl, not_missing_ok a⟩

theorem Concur.bind {α β : Type} {m m' : Render α} {f f' : α → Render β} {s : RenderState}
    (h : Concur m m' s) (hf : ∀ a t, m' s = (.ok a, t) → Concur (f a) (f' a) t) :
    Concur (m >>= f) (m' >>= f') s := by
  obtain ⟨heq, hno⟩ := h
  cases hm : m' s with
  | mk r t =>
    cases r with
    | ok a =>
      rw [Concur, bind_of_done (heq.trans hm), bind_of_done hm]
      exact hf a t hm
    | error e =>
      rw [Concur, bind_of_error (heq.trans hm), bind_of_error hm]
      rw [heq, hm, missing_error_iff] at hno
      exact ⟨rfl, missing_error_iff.not.2 hno⟩

/-- A condition holds as it is read, wherever the keys that come to be evaluated have values. -/
def Readable (links : Links) (setting : Setting) (c : Node) : Prop :=
  ∀ s, (∀ n t, Meets links setting c s n t → KeysEvaluate links setting n t) →
    Concur (holds links setting c) (reading (missingAsFalse links setting) c) s

theorem IsChain.readable {n : Node} (hn : IsChain n) : Readable links setting n := by
  intro s hkeys
  have hsoftens := hn.softens (hkeys n s (.chain hn))
  rw [hn.reading_eq, Concur]
  generalize hstrict : eval links setting false n s = strict at hsoftens
  generalize hlenient : eval links setting true n s = lenient at hsoftens
  cases hsoftens with
  | @found v t hv =>
    have hholds : holds links setting n s = (.ok v.isTruthy, t) := bind_of_done hlenient
    rw [hholds, missingAsFalse, hstrict]
    exact ⟨rfl, not_missing_ok _⟩
  | @missing h t hh =>
    have hholds : holds links setting n s = (.ok false, t) := bind_of_done hlenient
    rw [hholds, missingAsFalse, hstrict]
    simp [hh]
  | @failed h t hh =>
    have hholds : holds links setting n s = (.error h, t) := bind_of_error hlenient
    rw [hholds, missingAsFalse, hstrict]
    simp [hh]

theorem Readable.negation {p : Pos} {c : Node} (h : Readable links setting c) :
    Readable links setting (.unary p "not" c) := by
  intro s hkeys
  have hreading : reading (missingAsFalse links setting) (.unary p "not" c) =
      (do return !(← reading (missingAsFalse links setting) c)) := by
    rw [reading, if_pos rfl]
  rw [holds_negation, hreading]
  exact (h s fun n t hmeets => hkeys n t (.negation hmeets)).bind fun b t _ => .done (!b) t

/-- Conditions that are joined hold as they are read, one after the other. -/
theorem holdsOf_concurs {p : Pos} {op : String} : ∀ {cs : List Node} {s : RenderState},
    (∀ c ∈ cs, Readable links setting c) →
    (∀ n t, Meets links setting (.logic p op cs) s n t → KeysEvaluate links setting n t) →
    Concur (holdsOf links setting (op = "and") cs)
      (readingOf (missingAsFalse links setting) (op = "and") cs) s
  | [], s, _, _ => .done _ s
  | c :: rest, s, h, hkeys => by
    obtain ⟨hc, hrest⟩ := List.forall_mem_cons.1 h
    refine (hc s fun n t hmeets => hkeys n t (.first hmeets)).bind fun b t hb => ?_
    by_cases hdecides : b = decide (op = "and")
    · rw [if_pos hdecides, if_pos hdecides]
      exact holdsOf_concurs hrest fun n u hmeets => hkeys n u (.next (hdecides ▸ hb) hmeets)
    · rw [if_neg hdecides, if_neg hdecides]
      exact .done _ t

theorem IsCondition.readable {c : Node} (hc : IsCondition c) : Readable links setting c := by
  induction hc with
  | chain h => exact h.readable
  | negation _ ih => exact ih.negation
  | @joined p op cs _ _ ih =>
    intro s hkeys
    rw [holds_joined, reading]
    exact holdsOf_concurs ih hkeys

/-! ### Truth -/

/-- The truth of a condition whose chains are true or false. -/
def truth (chain : Node → Bool) (c : Node) : Bool := reading (m := Id) chain c

/-- Chains count as their values do that they have strictly in a state, or as false if they are
    missing. -/
def Faithful (links : Links) (setting : Setting) (s : RenderState) (chain : Node → Bool) : Prop :=
  ∀ n, IsChain n →
    (∀ v t, eval links setting false n s = (.ok v, t) → chain n = v.isTruthy) ∧
    (Missing (eval links setting false n s).1 → chain n = false)

section

variable {chain : Node → Bool}

theorem truth_negation (p : Pos) (c : Node) :
    truth chain (.unary p "not" c) = !truth chain c := by
  rw [truth, reading, if_pos rfl]
  rfl

theorem readingOf_id (conjunction : Bool) (cs : List Node) :
    readingOf (m := Id) chain conjunction cs =
      if conjunction then cs.all (truth chain) else cs.any (truth chain) := by
  induction cs with
  | nil => cases conjunction <;> rfl
  | cons c rest ih =>
    have hstep : readingOf (m := Id) chain conjunction (c :: rest) =
        if truth chain c = conjunction then readingOf (m := Id) chain conjunction rest
        else !conjunction := rfl
    rw [hstep, ih]
    cases conjunction <;> cases h : truth chain c <;> simp [h]

/-- Conditions that are joined are true iff all of them or some of them are. -/
theorem truth_joined (p : Pos) (op : String) (cs : List Node) :
    truth chain (.logic p op cs) =
      if op = "and" then cs.all (truth chain) else cs.any (truth chain) := by
  rw [truth, reading]
  refine (readingOf_id _ cs).trans ?_
  simp

end

section

variable {depth : Nat} {setting : Setting} {s t : RenderState} {b : Bool}

/-- A condition leaves the state as it is and has the truth that its chains give it, where the keys
    that come to be evaluated have values. -/
def Definite (links : Links) (setting : Setting) (s : RenderState) (c : Node) : Prop :=
  (∀ n t, Meets links setting c s n t → KeysEvaluate links setting n t) →
    ∀ b t, holds links setting c s = (.ok b, t) →
      t = s ∧ ∀ chain, Faithful links setting s chain → b = truth chain c

theorem IsChain.definite {n : Node} (hn : IsChain n) (hs : s.pending = false) :
    Definite (linked (calls depth setting) setting) setting s n := by
  intro hkeys b t h
  obtain ⟨v, u, hv, h⟩ := bind_eq_done h
  have hpure := eval_pure hs (congrArg Prod.fst hv)
  cases hv.symm.trans hpure
  cases h
  refine ⟨rfl, fun chain hchain => ?_⟩
  obtain ⟨hfound, hmissing⟩ := hchain n hn
  have hsoftens := hn.softens (hkeys n s (.chain hn))
  rw [hpure] at hsoftens
  rw [truth, hn.reading_eq]
  generalize eval (linked (calls depth setting) setting) setting false n s = strict at *
  cases hsoftens with
  | found hne => exact (hfound v s rfl).symm
  | missing hh => exact (hmissing (missing_error_iff.2 hh)).symm

theorem Definite.negation {links : Links} {p : Pos} {c : Node}
    (h : Definite links setting s c) : Definite links setting s (.unary p "not" c) := by
  intro hkeys b t hb
  rw [holds_negation] at hb
  obtain ⟨b, u, hb, hdone⟩ := bind_eq_done hb
  cases hdone
  obtain ⟨rfl, htruth⟩ := h (fun n t hmeets => hkeys n t (.negation hmeets)) b t hb
  exact ⟨rfl, fun chain hchain => by rw [truth_negation, htruth chain hchain]⟩

theorem holdsOf_definite {links : Links} {p : Pos} {op : String} : ∀ {cs : List Node} {b : Bool}
    {t : RenderState}, (∀ c ∈ cs, Readable links setting c ∧ Definite links setting s c) →
    (∀ n t, Meets links setting (.logic p op cs) s n t → KeysEvaluate links setting n t) →
    holdsOf links setting (op = "and") cs s = (.ok b, t) →
    t = s ∧ ∀ chain, Faithful links setting s chain → b = truth chain (.logic p op cs)
  | [], b, t, _, _, h => by
    cases h
    refine ⟨rfl, fun chain _ => ?_⟩
    rw [truth_joined]
    by_cases hop : op = "and" <;> simp [hop]
  | c :: rest, b, t, hcs, hkeys, h => by
    obtain ⟨⟨hreads, hdefinite⟩, hrest⟩ := List.forall_mem_cons.1 hcs
    have hfirst : ∀ n t, Meets links setting c s n t → KeysEvaluate links setting n t :=
      fun n t hmeets => hkeys n t (.first hmeets)
    obtain ⟨d, u, hd, hafter⟩ := bind_eq_done h
    obtain ⟨hsame, htruth⟩ := hdefinite hfirst d u hd
    subst u
    -- an operand that does not decide leaves the rest of the chain to be read from the same state
    by_cases hdecides : d = decide (op = "and")
    · rw [if_pos hdecides] at hafter
      have hnext : reading (missingAsFalse links setting) c s = (.ok (decide (op = "and")), s) := by
        rw [← (hreads s hfirst).1, hd, hdecides]
      obtain ⟨hsame, hb⟩ := holdsOf_definite hrest
        (fun n t hmeets => hkeys n t (.next hnext hmeets)) hafter
      refine ⟨hsame, fun chain hchain => ?_⟩
      rw [hb chain hchain, truth_joined, truth_joined, List.all_cons, List.any_cons,
        ← htruth chain hchain, hdecides]
      by_cases hop : op = "and" <;> simp [hop]
    · rw [if_neg hdecides] at hafter
      cases hafter
      refine ⟨rfl, fun chain hchain => ?_⟩
      rw [truth_joined, List.all_cons, List.any_cons, ← htruth chain hchain]
      by_cases hop : op = "and" <;> simp_all

theorem IsCondition.definite {c : Node} (hc : IsCondition c) (hs : s.pending = false) :
    Definite (linked (calls depth setting) setting) setting s c := by
  induction hc with
  | chain h => exact h.definite hs
  | negation _ ih => exact ih.negation
  | @joined p op cs _ h ih =>
    intro hkeys b t hb
    rw [holds_joined] at hb
    exact holdsOf_definite (fun c hc => ⟨(h c hc).readable, ih c hc⟩) hkeys hb

end

/-- The state of a reader of a page that has a title and no author. -/
def reader : RenderState :=
  { stack := { context := { entries := [(.text "page", .object [(.text "title", .text "Home")])] } }
    targets := [] }

/-- A setting that escapes and has no templates. -/
def plainSetting : Setting := { env := {}, templates := .empty, escaping := true }

/-- The author of the page. -/
def author : Node := .attr ⟨1, 0⟩ (.name ⟨1, 0⟩ "page") "author"

/-- The title of the page. -/
def title : Node := .item ⟨1, 0⟩ (.name ⟨1, 0⟩ "page") (.const ⟨1, 0⟩ (.text "title"))

/-- The page has no author but a title. -/
def anonymous : Node := .logic ⟨1, 0⟩ "and" [.unary ⟨1, 0⟩ "not" author, title]

end Stencil.Render
