import Stencil.Proofs.Simulation.Basic

/-! Evaluation preserves relations. An *evaluation* says, for a congruence, which nodes and values
    may be met and that the computations an expression is made of are related: lookups, calls of
    capabilities, and runs of macros. By induction on expressions their evaluations are related
    then, with results that may be met. -/

namespace Stencil

/-- A property of values that containers have with their items. Objects have texts as keys where
    templates build them. -/
structure Value.Hereditary (p : Value → Prop) : Prop where
  null : p .null
  bool : ∀ b, p (.bool b)
  number : ∀ n, p (.ofNumber n)
  text : ∀ s, p (.text s)
  list : ∀ {xs}, (∀ x ∈ xs, p x) → p (.list xs)
  object : ∀ {es}, (∀ e ∈ es, e.1.text?.isSome = true ∧ p e.1 ∧ p e.2) → p (.object es)
  items : ∀ {v xs}, p v → v.items? = some xs → ∀ x ∈ xs, p x
  entries : ∀ {es}, p (.object es) → ∀ e ∈ es, p e.1 ∧ p e.2

theorem Value.Hereditary.trivial : Hereditary fun _ => True := by
  constructor <;> simp

/-- Every node of a tree has a property. -/
def Node.Every (p : Node → Prop) (n : Node) : Prop := ∀ m ∈ n.preorder, p m

namespace Node

variable {p : Node → Prop}

theorem mem_preorder_self (n : Node) : n ∈ n.preorder := by
  rw [preorder_eq]
  exact List.mem_cons_self ..

theorem mem_preorder_of_child {n c : Node} (hc : c ∈ n.children) :
    ∀ m ∈ c.preorder, m ∈ n.preorder := by
  intro m hm
  rw [preorder_eq]
  exact List.mem_cons_of_mem _ (List.mem_flatMap.2 ⟨c, hc, hm⟩)

theorem Every.self {n : Node} (h : n.Every p) : p n := h n n.mem_preorder_self

/-- What holds throughout a tree holds throughout the trees below. -/
theorem Every.child {n c : Node} (h : n.Every p) (hc : c ∈ n.children) : c.Every p :=
  fun m hm => h m (mem_preorder_of_child hc m hm)

end Node

namespace Value

variable {p : Value → Prop}

/-- The property of what a lookup gives: it may have found nothing. -/
def Found (p : Value → Prop) (v : Value) : Prop := p v ∨ v = .undefined

theorem Hereditary.field (hp : Hereditary p) {es : List (Value × Value)} (h : p (.object es))
    (name : String) : Found p (field es name) := by
  have hes := hp.entries h
  clear h
  induction es with
  | nil => exact Or.inr rfl
  | cons e rest ih =>
    obtain ⟨k, v⟩ := e
    rw [Value.field]
    split
    · exact Or.inl (hes (k, v) (by simp)).2
    · exact ih fun e he => hes e (List.mem_cons_of_mem _ he)

theorem Hereditary.itemAt (hp : Hereditary p) {v : Value} (h : p v) (i : Nat) :
    Found p (v.itemAt i) := by
  unfold Value.itemAt
  split
  · rename_i xs hxs
    cases hi : xs[i]? with
    | none => exact Or.inr rfl
    | some x => exact Or.inl (hp.items h hxs x (List.mem_of_getElem? hi))
  · exact Or.inr rfl

theorem Hereditary.getItem (hp : Hereditary p) {v : Value} (h : p v) (key : Value) :
    Found p (v.getItem key) := by
  unfold Value.getItem
  split
  · split
    · exact hp.itemAt h _
    · exact Or.inr rfl
  · cases v <;> first | exact Or.inr rfl | exact hp.field h _
  · cases v <;> first | exact Or.inr rfl | exact hp.field h _
  · exact Or.inr rfl

/-- An attribute is the field of an object, an item of an array, or nothing. -/
theorem getAttr_cases {v w : Value} {name : String} (h : v.getAttr name = .ok w) :
    (∃ es, v = .object es ∧ w = field es name) ∨ (∃ i, w = v.itemAt i) ∨ w = .undefined := by
  cases v <;> simp only [Value.getAttr, Except.ok.injEq] at h
  case object es => exact Or.inl ⟨es, rfl, h.symm⟩
  case list | tuple =>
    split_ifs at h
    · split at h
      · exact Or.inr (Or.inl ⟨_, (Except.ok.inj h).symm⟩)
      · cases h
    · exact Or.inr (Or.inr (Except.ok.inj h).symm)
  all_goals exact Or.inr (Or.inr h.symm)

theorem Hereditary.getAttr (hp : Hereditary p) {v w : Value} (h : p v) {name : String}
    (hw : v.getAttr name = .ok w) : Found p w := by
  -- The name may be a numeral, so that an attribute of an array is one of its items.
  rcases getAttr_cases hw with ⟨es, rfl, rfl⟩ | ⟨i, rfl⟩ | rfl
  · exact hp.field h name
  · exact hp.itemAt h i
  · exact Or.inr rfl

/-- Binding a key keeps what holds of all entries. -/
theorem forall_mem_bind {q : Value × Value → Prop} {es : List (Value × Value)} {key value : Value}
    (h : ∀ e ∈ es, q e) (hq : ∀ k, (k = key ∨ ∃ e ∈ es, e.1 = k) → q (k, value)) :
    ∀ e ∈ Value.bind es key value, q e := by
  induction es with
  | nil => simpa [Value.bind] using hq key (Or.inl rfl)
  | cons e rest ih =>
    obtain ⟨k, v⟩ := e
    rw [Value.bind]
    -- A key that is there already stays as it was written first, with the new value.
    split
    · intro e he
      rcases List.mem_cons.1 he with rfl | he
      · exact hq k (Or.inr ⟨(k, v), by simp, rfl⟩)
      · exact h e (List.mem_cons_of_mem _ he)
    · intro e he
      rcases List.mem_cons.1 he with rfl | he
      · exact h _ (by simp)
      · refine ih (fun e he => h e (List.mem_cons_of_mem _ he)) (fun k' hk => hq k' ?_) e he
        rcases hk with rfl | ⟨e', he', rfl⟩
        · exact Or.inl rfl
        · exact Or.inr ⟨e', List.mem_cons_of_mem _ he', rfl⟩

end Value

namespace Render

/-- Two renders find the same capabilities. -/
def SameCapabilities (left right : Setting) : Prop :=
  ∀ kind name, left.env.lookup kind name = right.env.lookup kind name

theorem SameCapabilities.refl (setting : Setting) : SameCapabilities setting setting :=
  fun _ _ => rfl

/-- What evaluations in two renders have to agree in to be related. -/
structure Evaluation (links links' : Links) (left right : Setting) extends Congruence where
  node : Node → Prop
  value : Value → Prop
  holds : Template → Macro → Prop
  hereditary : Value.Hereditary value
  const : ∀ {p v}, node (.const p v) → value v
  find : ∀ name, rel (Same (Value.Found value)) (Render.find name) (Render.find name)
  undefinedAt : ∀ {α : Type} {V : α → α → Prop} n,
    rel V (Render.undefinedAt n) (Render.undefinedAt n)
  lookup : SameCapabilities left right
  function : ∀ {p name args named c vs ns}, node (.call p name args named) →
    left.env.lookup .function name = .ok c → (∀ v ∈ vs, value v) → (∀ a ∈ ns, value a.2) →
    rel (Same value) (invoke links.render .function c vs ns)
      (invoke links'.render .function c vs ns)
  filter : ∀ {p operand name args named c v vs ns}, node (.filter p operand name args named) →
    left.env.lookup .filter name = .ok c →
    (value v ∨ (Filter.isLenient name = true ∧ v = .undefined)) → (∀ v ∈ vs, value v) →
    (∀ a ∈ ns, value a.2) →
    rel (Same value) (invoke links.render .filter c (v :: vs) ns)
      (invoke links'.render .filter c (v :: vs) ns)
  test : ∀ {p operand name args negated c v vs}, node (.test p operand name args negated) →
    left.env.lookup .test name = .ok c → Value.Found value v → (∀ v ∈ vs, value v) →
    rel Eq (invoke links.render .test c (v :: vs) []) (invoke links'.render .test c (v :: vs) [])
  findMacro : ∀ {p space name args named}, node (.macroCall p space name args named) →
    rel (Same fun x => holds x.1 x.2) (links.findMacro space name) (links'.findMacro space name)
  runMacro : ∀ {t m fullName bound}, holds t m → (∀ a ∈ bound, value a.2) →
    rel (Same value) (links.runMacro t m fullName bound) (links'.runMacro t m fullName bound)

namespace Evaluation

variable {links links' : Links} {left right : Setting} (S : Evaluation links links' left right)

/-- What an evaluation may give: a lenient one may have found nothing. -/
def Admits (lenient : Bool) (v : Value) : Prop := S.value v ∨ (lenient = true ∧ v = .undefined)

variable {S} in
theorem Admits.strict {v : Value} (h : S.Admits false v) : S.value v :=
  h.resolve_right fun h => Bool.false_ne_true h.1

/-- The evaluations of an expression are related. -/
abbrev Evals (lenient : Bool) (m n : Render Value) : Prop :=
  S.rel (Same (S.Admits lenient)) m n

/-- A computation with a result of its own may stand for a lenient evaluation too. -/
theorem ofStrict {lenient : Bool} {m n : Render Value} (h : S.rel (Same S.value) m n) :
    S.Evals lenient m n :=
  S.mono h fun _ _ h => ⟨h.1, Or.inl h.2⟩

theorem ofDone {lenient : Bool} {v : Value} (h : S.value v) :
    S.Evals lenient (Render.done v) (Render.done v) := S.done ⟨rfl, Or.inl h⟩

/-- What a lookup has found is a result, and nothing found is one where that is allowed. -/
theorem found {lenient : Bool} {n : Node} {v : Value} (h : Value.Found S.value v) :
    S.Evals lenient (Render.found lenient n v) (Render.found lenient n v) := by
  refine S.ite (fun _ => S.undefinedAt n) fun hc => S.done ⟨rfl, ?_⟩
  rcases h with h | rfl
  · exact Or.inl h
  · cases lenient
    · exact absurd rfl hc
    · exact Or.inr ⟨rfl, rfl⟩

/-- A strict evaluation may stand for a lenient one. -/
theorem weaken {lenient : Bool} {m n : Render Value} (h : S.Evals false m n) :
    S.Evals lenient m n :=
  S.mono h fun _ _ h => ⟨h.1, Or.inl h.2.strict⟩

/-- A lenient evaluation ends where it has found nothing to look into. -/
theorem nothing {lenient : Bool} {v : Value} (h : (lenient && v.isUndefined) = true) :
    S.Evals lenient (Render.done .undefined) (Render.done .undefined) :=
  S.done ⟨rfl, Or.inr ⟨(Bool.and_eq_true_iff.1 h).1, rfl⟩⟩

/-- Where it does not end, it has found a value. -/
theorem present {lenient : Bool} {v : Value} (h : S.Admits lenient v)
    (hc : ¬(lenient && v.isUndefined) = true) : S.value v := by
  rcases h with h | ⟨rfl, rfl⟩
  · exact h
  · exact absurd rfl hc

/-- The result of an operation on numbers is a number. -/
theorem arithmetic {op : String} {a b : Number} {v : Value}
    (h : Operator.arithmetic op a b = .ok v) : S.value v := by
  have hn : ∀ {r : Except NumberFault Number}, Operator.numeric r = .ok v → S.value v := by
    intro r hr
    cases r with
    | ok n =>
      cases hr
      exact S.hereditary.number n
    | error _ => cases hr
  unfold Operator.arithmetic at h
  split at h
  · cases h
  · split at h <;> first | exact hn h | cases h

theorem strictEach {ms ns : List (Render Value)} (h : List.Forall₂ (S.Evals false) ms ns) :
    List.Forall₂ (S.rel (Same S.value)) ms ns :=
  h.imp fun _ _ h => S.mono h fun _ _ h => ⟨h.1, h.2.strict⟩

theorem strictNamed {ms ns : List (String × Render Value)} (h : S.Named (S.Admits false) ms ns) :
    S.Named S.value ms ns :=
  h.imp fun _ _ h => ⟨h.1, S.mono h.2 fun _ _ h => ⟨h.1, h.2.strict⟩⟩

/-- Entries are evaluated pairwise, and their keys are texts. -/
theorem entries {ks ls vs ws : List (Render Value)} {known : List (Value × Value)}
    (hknown : ∀ e ∈ known, e.1.text?.isSome = true ∧ S.value e.1 ∧ S.value e.2)
    (hk : List.Forall₂ (S.Evals false) ks ls) (hv : List.Forall₂ (S.Evals false) vs ws) :
    S.rel (Same S.value) (Render.entries known ks vs) (Render.entries known ls ws) := by
  -- What has been built so far is carried along: its keys have passed the test for texts.
  induction hk generalizing vs ws known with
  | nil =>
    cases hv with
    | nil => exact S.done ⟨rfl, S.hereditary.object hknown⟩
    | cons _ _ => exact S.failure _
  | cons hk _ ih =>
    cases hv with
    | nil => exact S.failure _
    | cons hv hvs =>
      refine S.bind hk ?_
      rintro key _ ⟨rfl, hkey⟩
      refine S.ite (fun _ => S.raiseThen _ _ _) fun htext => ?_
      refine S.bind hv ?_
      rintro v _ ⟨rfl, hval⟩
      refine ih (Value.forall_mem_bind hknown fun k hk => ?_) hvs
      have hkv : k.text?.isSome = true ∧ S.value k := by
        rcases hk with rfl | ⟨e, he, rfl⟩
        · exact ⟨by simpa [Option.isSome_iff_ne_none] using htext, hkey.strict⟩
        · exact ⟨(hknown e he).1, (hknown e he).2.1⟩
      exact ⟨hkv.1, hkv.2, hval.strict⟩

/-- The arguments that a call binds come from the call. -/
theorem bound_of_bindNamed {fullName : String} {names : List String} :
    ∀ {named bound out : List (String × Value)}, bindNamed fullName names bound named = .ok out →
      (∀ a ∈ bound, S.value a.2) → (∀ a ∈ named, S.value a.2) → ∀ a ∈ out, S.value a.2
  | [], bound, out, h, hb, _ => by
    cases h
    exact hb
  | (key, v) :: rest, bound, out, h, hb, hn => by
    rw [bindNamed] at h
    split_ifs at h
    exact bound_of_bindNamed h (List.forall_mem_cons.2 ⟨hn _ (by simp), hb⟩)
      fun a ha => hn a (List.mem_cons_of_mem _ ha)

theorem bound_of_bindArguments {fullName : String} {params : List Param} {args : List Value}
    {named out : List (String × Value)} (h : bindArguments fullName params args named = .ok out)
    (ha : ∀ v ∈ args, S.value v) (hn : ∀ a ∈ named, S.value a.2) : ∀ a ∈ out, S.value a.2 := by
  rw [bindArguments] at h
  split_ifs at h
  refine S.bound_of_bindNamed h (fun a hmem => ?_) hn
  exact ha _ (List.of_mem_zip (List.mem_reverse.1 hmem)).2

/-! ### The induction -/

mutual

/-- Expressions whose nodes may all be met evaluate alike. -/
theorem eval (lenient : Bool) : ∀ n : Node, n.Every S.node →
    S.Evals lenient (Render.eval links left lenient n) (Render.eval links' right lenient n)
  | .const p v, h => S.ofDone (S.const h.self)
  | .name p n, h => by
    rw [Render.eval, Render.eval]
    refine S.bind (S.find n) ?_
    rintro v _ ⟨rfl, hv⟩
    exact S.found hv
  | .list p items, h => by
    rw [Render.eval, Render.eval]
    refine S.bind (S.all (evalEach false items fun c hc => h.child hc)) ?_
    rintro vs _ ⟨rfl, hvs⟩
    exact S.ofDone (S.hereditary.list fun v hv => (hvs v hv).strict)
  | .object p keys values, h => by
    rw [Render.eval, Render.eval]
    refine S.ofStrict (S.entries (by simp) (evalEach false keys ?_) (evalEach false values ?_))
    · exact fun c hc => h.child (List.mem_append_left _ hc)
    · exact fun c hc => h.child (List.mem_append_right _ hc)
  | .attr p operand name, h => by
    rw [Render.eval, Render.eval]
    refine S.bind (eval lenient operand (h.child (by simp [Node.children]))) ?_
    rintro v _ ⟨rfl, hv⟩
    refine S.ite (fun hc => S.nothing hc) fun hc => ?_
    refine S.bind (S.ofFailure fun w hw => S.hereditary.getAttr (S.present hv hc) hw) ?_
    rintro w _ ⟨rfl, hw⟩
    exact S.found hw
  | .item p operand key, h => by
    rw [Render.eval, Render.eval]
    refine S.bind (eval lenient operand (h.child (by simp [Node.children]))) ?_
    rintro v _ ⟨rfl, hv⟩
    refine S.ite (fun hc => S.nothing hc) fun hc => ?_
    refine S.bind (eval false key (h.child (by simp [Node.children]))) ?_
    rintro k _ ⟨rfl, -⟩
    exact S.found (S.hereditary.getItem (S.present hv hc) k)
  | .call p name args named, h => by
    rw [Render.eval, Render.eval]
    have hargs := evalEach false args fun c hc => h.child (List.mem_append_left _ hc)
    have hnamed := evalNamed named fun c hc => h.child (List.mem_append_right _ hc)
    rw [← S.lookup]
    refine S.bind (S.ofUnplaced (fun c hc => hc) (left.env.plainly_lookup _ _)) ?_
    rintro c _ ⟨rfl, hc⟩
    refine S.arguments (S.strictEach hargs) (S.strictNamed hnamed) fun vs ns hvs hns => ?_
    exact S.ofStrict (S.function h.self hc hvs hns)
  | .macroCall p space name args named, h => by
    rw [Render.eval, Render.eval]
    have hargs := evalEach false args fun c hc => h.child (List.mem_append_left _ hc)
    have hnamed := evalNamed named fun c hc => h.child (List.mem_append_right _ hc)
    refine S.bind (S.findMacro h.self) ?_
    rintro ⟨t, m⟩ _ ⟨rfl, hm⟩
    refine S.arguments (S.strictEach hargs) (S.strictNamed hnamed) fun vs ns hvs hns => ?_
    refine S.bind (S.ofUnplaced (fun bound hbound => S.bound_of_bindArguments hbound hvs hns)
      (plainly_bindArguments _ _ _ _)) ?_
    rintro bound _ ⟨rfl, hbound⟩
    exact S.ofStrict (S.runMacro hm hbound)
  | .filter p operand name args named, h => by
    rw [Render.eval, Render.eval]
    have hargs := evalEach false args fun c hc => h.child (by simp [Node.children, hc])
    have hnamed := evalNamed named fun c hc => h.child (List.mem_append_right _ hc)
    rw [← S.lookup]
    refine S.bind (S.ofUnplaced (fun c hc => hc) (left.env.plainly_lookup _ _)) ?_
    rintro c _ ⟨rfl, hc⟩
    refine S.bind (eval (Filter.isLenient name) operand (h.child (by simp [Node.children]))) ?_
    rintro v _ ⟨rfl, hv⟩
    refine S.arguments (S.strictEach hargs) (S.strictNamed hnamed) fun vs ns hvs hns => ?_
    exact S.ofStrict (S.filter h.self hc hv hvs hns)
  | .test p operand name args negated, h => by
    rw [Render.eval, Render.eval]
    have hargs := evalEach false args fun c hc => h.child (List.mem_cons_of_mem _ hc)
    rw [← S.lookup]
    refine S.bind (S.ofUnplaced (fun c hc => hc) (left.env.plainly_lookup _ _)) ?_
    rintro c _ ⟨rfl, hc⟩
    refine S.bind (eval true operand (h.child (by simp [Node.children]))) ?_
    rintro v _ ⟨rfl, hv⟩
    refine S.bind (S.all hargs) ?_
    rintro vs _ ⟨rfl, hvs⟩
    refine S.bind (S.test h.self hc (hv.imp_right And.right) fun v hv => (hvs v hv).strict) ?_
    rintro answer _ rfl
    exact S.ofDone (S.hereditary.bool _)
  | .arith p op left right, h => by
    rw [Render.eval, Render.eval]
    refine S.bind (eval false left (h.child (by simp [Node.children]))) ?_
    rintro v _ ⟨rfl, -⟩
    refine S.bind (S.ofPlain (fun _ _ => trivial) (Operator.plainly_operand _ _)) ?_
    rintro a _ ⟨rfl, -⟩
    refine S.bind (eval false right (h.child (by simp [Node.children]))) ?_
    rintro w _ ⟨rfl, -⟩
    refine S.bind (S.ofPlain (fun _ _ => trivial) (Operator.plainly_operand _ _)) ?_
    rintro b _ ⟨rfl, -⟩
    exact S.ofStrict (S.ofPlain (fun v hv => S.arithmetic hv) (Operator.plainly_arithmetic _ _ _))
  | .unary p op operand, h => by
    have hc : operand ∈ (Node.unary p op operand).children := by simp [Node.children]
    unfold Render.eval
    split
    · refine S.bind (eval true operand (h.child hc)) ?_
      rintro v _ ⟨rfl, -⟩
      exact S.ofDone (S.hereditary.bool _)
    · refine S.bind (eval false operand (h.child hc)) ?_
      rintro v _ ⟨rfl, -⟩
      refine S.bind (S.ofPlain (fun _ _ => trivial) (Operator.plainly_operand _ _)) ?_
      rintro n _ ⟨rfl, -⟩
      exact S.ofDone (S.hereditary.number _)
    · exact S.raise _
  | .compare p left ops comparators, h => by
    rw [Render.eval, Render.eval]
    refine S.bind (eval false left (h.child (by simp [Node.children]))) ?_
    rintro v _ ⟨rfl, -⟩
    have hrest := evalEach false comparators fun c hc => h.child (List.mem_cons_of_mem _ hc)
    refine S.bind (S.chain hrest v ops) ?_
    rintro b _ rfl
    exact S.ofDone (S.hereditary.bool _)
  | .logic p op operands, h => by
    have hall := evalEach true operands fun c hc => h.child hc
    rw [Render.eval, Render.eval]
    refine S.ite (fun _ => S.bind (S.allTrue hall) ?_) fun _ => S.bind (S.anyTrue hall) ?_ <;>
      rintro b _ rfl <;> exact S.ofDone (S.hereditary.bool _)
  | .choice p condition ifTrue ifFalse, h => by
    rw [Render.eval, Render.eval]
    refine S.bind (eval true condition (h.child (by simp [Node.children]))) ?_
    rintro v _ ⟨rfl, -⟩
    refine S.ite (fun _ => ?_) fun _ => ?_
    · -- The branches are evaluated strictly, also where the choice is not.
      exact S.weaken (eval false ifTrue (h.child (by simp [Node.children])))
    · exact S.weaken (eval false ifFalse (h.child (by simp [Node.children])))
  | .concat p parts, h => by
    rw [Render.eval, Render.eval]
    refine S.bind (S.texts (evalEach false parts fun c hc => h.child hc)) ?_
    rintro s _ rfl
    exact S.ofDone (S.hereditary.text s)
  | .output .., _ | .data .., _ | .raw .., _ | .filterBlock .., _ | .assign .., _ | .block .., _
  | .super .., _ | .include .., _ | .importing .., _ | .extends .., _ | .template .., _
  | .macroDef .., _ | .param .., _ | .branch .., _ | .loop .., _ | .leave .., _ | .next .., _ => by
    unfold Render.eval
    exact S.raise _

/-- Lists of expressions evaluate alike. -/
theorem evalEach (lenient : Bool) : ∀ ns : List Node, (∀ n ∈ ns, n.Every S.node) →
    List.Forall₂ (S.Evals lenient) (Render.evalEach links left lenient ns)
      (Render.evalEach links' right lenient ns)
  | [], _ => .nil
  | n :: rest, h => by
    rw [Render.evalEach, Render.evalEach]
    exact .cons (eval lenient n (h n (by simp)))
      (evalEach lenient rest fun m hm => h m (List.mem_cons_of_mem _ hm))

/-- Named expressions evaluate alike. -/
theorem evalNamed : ∀ ns : List (String × Node), (∀ n ∈ ns.map Prod.snd, n.Every S.node) →
    S.Named (S.Admits false) (Render.evalNamed links left ns) (Render.evalNamed links' right ns)
  | [], _ => .nil
  | (name, n) :: rest, h => by
    rw [Render.evalNamed, Render.evalNamed]
    exact .cons ⟨rfl, eval false n (h n (by simp))⟩
      (evalNamed rest fun m hm => h m (List.mem_cons_of_mem _ hm))

end

end Evaluation

end Render

end Stencil
