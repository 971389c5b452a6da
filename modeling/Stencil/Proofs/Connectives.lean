import Stencil.Proofs.Leniency

/-! Expansions of connectives. A chain of comparisons does what the conjunction of its links does:
    each operand in between is evaluated twice there, which makes no difference because an
    expression that has a value leaves the state as it was. A negated conjunction does what the
    disjunction of the negated operands does, and a negated disjunction what their conjunction does.
    Both sides evaluate their operands up to the same one. -/

namespace Stencil.Render

variable {links : Links} {setting : Setting} {lenient : Bool}

/-- What follows two computations is the same if they do the same in a state. -/
theorem bind_eq_of_eq {α β : Type} {m m' : Render α} {f : α → Render β} {s : RenderState}
    (h : m s = m' s) : (m >>= f) s = (m' >>= f) s := by
  change andThen m f s = andThen m' f s
  rw [andThen, andThen, h]

/-! ### Negation -/

/-- The word that joins the operands of a conjunction or of a disjunction. -/
def joiner (conjunction : Bool) : String := if conjunction then "and" else "or"

@[simp]
theorem joiner_eq_and (conjunction : Bool) : decide (joiner conjunction = "and") = conjunction := by
  cases conjunction <;> decide

/-- Each operand negated. -/
def negations (place : Node → Pos) (operands : List Node) : List Node :=
  operands.map fun a => .unary (place a) "not" a

theorem eval_negation (p : Pos) (c : Node) :
    eval links setting lenient (.unary p "not" c) =
      (do return .bool !(← holds links setting c)) := by
  rw [eval, holds, bind_bind]
  rfl

theorem eval_joined (p : Pos) (conjunction : Bool) (operands : List Node) :
    eval links setting lenient (.logic p (joiner conjunction) operands) =
      (do return .bool (← holdsOf links setting conjunction operands)) := by
  rw [eval]
  cases conjunction
  · rw [if_neg (by decide), ← anyTrue_evalEach]
  · rw [if_pos (by decide), ← allTrue_evalEach]

theorem holdsOf_negations (place : Node → Pos) (conjunction : Bool) (operands : List Node) :
    holdsOf links setting (!conjunction) (negations place operands) =
      (do return !(← holdsOf links setting conjunction operands)) := by
  induction operands with
  | nil => rfl
  | cons a rest ih =>
    change (holds links setting (.unary (place a) "not" a) >>= fun b =>
        if b = !conjunction then holdsOf links setting (!conjunction) (negations place rest)
        else done !!conjunction) =
      (holds links setting a >>= fun b =>
        if b = conjunction then holdsOf links setting conjunction rest
        else done !conjunction) >>= fun b => done !b
    rw [holds_negation, bind_bind, bind_bind]
    refine congrArg (holds links setting a >>= ·) (funext fun b => ?_)
    change (if (!b) = !conjunction then holdsOf links setting (!conjunction) (negations place rest)
      else done !!conjunction) = _
    by_cases hb : b = conjunction
    · rw [if_pos (congrArg not hb), if_pos hb, ih]
      rfl
    · rw [if_neg (mt Bool.not_inj hb), if_neg hb]
      rfl

/-- A negated conjunction is the disjunction of the negated operands, and a negated disjunction is
    their conjunction. -/
theorem eval_negated_joined (p q r : Pos) (place : Node → Pos) (conjunction : Bool)
    (operands : List Node) :
    eval links setting lenient (.unary p "not" (.logic q (joiner conjunction) operands)) =
      eval links setting lenient (.logic r (joiner !conjunction) (negations place operands)) := by
  rw [eval_negation, eval_joined, holds_joined, joiner_eq_and, holdsOf_negations, bind_bind]
  rfl

/-! ### Operands that are evaluated -/

/-- How many of the operands that are joined are evaluated in a state: all up to the first that
    fails or decides. -/
def reach (links : Links) (setting : Setting) (conjunction : Bool) (s : RenderState) :
    List Node → Nat
  | [] => 0
  | c :: rest =>
    match (holds links setting c s).1 with
    | .ok b => if b = conjunction then reach links setting conjunction s rest + 1 else 1
    | .error _ => 1

/-- What is computed of operands in a state evaluates as many of them, from the first on, and no
    more. If one of these is replaced by an expression that fails, the whole fails like it; whatever
    replaces the others makes no difference. -/
structure StopsAfter (links : Links) (setting : Setting) (s : RenderState)
    (whole : List Node → Except Halt Value × RenderState) (operands : List Node) (count : Nat) :
    Prop where
  within : count ≤ operands.length
  fails : ∀ i < count, ∀ f h t, eval links setting true f s = (.error h, t) →
    whole (operands.set i f) = (.error h, t)
  ignores : ∀ others, others.length = operands.length →
    others.take count = operands.take count → whole others = whole operands

/-- An expression that fails under a name of its own. -/
theorem eval_unknown (s : RenderState) (op : String) (hneg : op ≠ "-") (hnot : op ≠ "not") :
    eval links setting true (.unary ⟨1, 0⟩ op (.const ⟨1, 0⟩ .null)) s =
      (.error (.runtime (.general s!"Unknown unary operator '{op}'")), s) := by
  rw [eval]
  · rfl
  · exact hnot
  · exact hneg

/-- A computation cannot stop after two numbers of operands: what fails in a place that one of them
    reaches would not matter by the other. -/
theorem StopsAfter.not_lt {s : RenderState} {whole : List Node → Except Halt Value × RenderState}
    {operands : List Node} {j k : Nat} (hj : StopsAfter links setting s whole operands j)
    (hk : StopsAfter links setting s whole operands k) : ¬j < k := by
  intro hlt
  have hsame : ∀ f, whole (operands.set j f) = whole operands := fun f =>
    hj.ignores _ List.length_set (List.take_set_of_le (Nat.le_refl j))
  have hfails := fun op hneg hnot => hk.fails j hlt _ _ _ (eval_unknown s op hneg hnot)
  have hone := (hsame _).symm.trans (hfails "+" (by decide) (by decide))
  have hother := (hsame _).symm.trans (hfails "~" (by decide) (by decide))
  cases hone.symm.trans hother

theorem StopsAfter.iff_eq {s : RenderState} {whole : List Node → Except Halt Value × RenderState}
    {operands : List Node} {k : Nat} (hk : StopsAfter links setting s whole operands k) (j : Nat) :
    StopsAfter links setting s whole operands j ↔ j = k := by
  refine ⟨fun hj => ?_, fun hjk => hjk ▸ hk⟩
  exact Nat.le_antisymm (Nat.le_of_not_lt (hk.not_lt hj)) (Nat.le_of_not_lt (hj.not_lt hk))

/-- Expressions that have a value in a state leave it as it is. -/
def Undisturbed (links : Links) (setting : Setting) (s : RenderState) : Prop :=
  ∀ lenient n v, (eval links setting lenient n s).1 = .ok v →
    eval links setting lenient n s = (.ok v, s)

section

variable {s : RenderState} {conjunction : Bool}

/-- What an expression comes to. -/
theorem Undisturbed.eval_cases (hs : Undisturbed links setting s) (lenient : Bool) (n : Node) :
    (∃ v, eval links setting lenient n s = (.ok v, s)) ∨
      ∃ h t, eval links setting lenient n s = (.error h, t) := by
  cases hn : eval links setting lenient n s with
  | mk r t =>
    cases r with
    | ok v => exact .inl ⟨v, hn ▸ hs lenient n v (congrArg Prod.fst hn)⟩
    | error h => exact .inr ⟨h, t, rfl⟩

/-- What a condition comes to. -/
theorem Undisturbed.holds_cases (hs : Undisturbed links setting s) (c : Node) :
    (∃ b, holds links setting c s = (.ok b, s)) ∨
      ∃ h t, holds links setting c s = (.error h, t) := by
  obtain ⟨v, hv⟩ | ⟨h, t, hv⟩ := hs.eval_cases true c
  · exact .inl ⟨v.isTruthy, bind_of_done hv⟩
  · exact .inr ⟨h, t, bind_of_error hv⟩

theorem reach_cons_of_ok {c : Node} {b : Bool} {t : RenderState} (rest : List Node)
    (hc : holds links setting c s = (.ok b, t)) :
    reach links setting conjunction s (c :: rest) =
      if b = conjunction then reach links setting conjunction s rest + 1 else 1 := by
  rw [reach, hc]

theorem reach_cons_of_error {c : Node} {h : Halt} {t : RenderState} (rest : List Node)
    (hc : holds links setting c s = (.error h, t)) :
    reach links setting conjunction s (c :: rest) = 1 := by
  rw [reach, hc]

theorem Undisturbed.reach_le (hs : Undisturbed links setting s) (operands : List Node) :
    reach links setting conjunction s operands ≤ operands.length := by
  induction operands with
  | nil => exact Nat.le_refl 0
  | cons a rest ih =>
    rw [List.length_cons]
    obtain ⟨b, ha⟩ | ⟨h, t, ha⟩ := hs.holds_cases a
    · rw [reach_cons_of_ok rest ha]
      split <;> omega
    · rw [reach_cons_of_error rest ha]
      omega

/-- As many of the negated operands are evaluated until one decides the other way. -/
theorem Undisturbed.reach_negations (hs : Undisturbed links setting s) (place : Node → Pos)
    (operands : List Node) :
    reach links setting (!conjunction) s (negations place operands) =
      reach links setting conjunction s operands := by
  induction operands with
  | nil => rfl
  | cons a rest ih =>
    change reach links setting (!conjunction) s
      (.unary (place a) "not" a :: negations place rest) = _
    obtain ⟨b, ha⟩ | ⟨h, t, ha⟩ := hs.holds_cases a
    · have hnot : holds links setting (.unary (place a) "not" a) s = (.ok !b, s) := by
        rw [holds_negation]
        exact bind_of_done ha
      rw [reach_cons_of_ok _ hnot, reach_cons_of_ok _ ha, ih]
      exact if_congr ⟨Bool.not_inj, congrArg not⟩ rfl rfl
    · have hnot : holds links setting (.unary (place a) "not" a) s = (.error h, t) := by
        rw [holds_negation]
        exact bind_of_error ha
      rw [reach_cons_of_error _ hnot, reach_cons_of_error _ ha]

/-- A failing operand that comes to be evaluated is the failure of those that are joined. -/
theorem Undisturbed.holdsOf_fails (hs : Undisturbed links setting s) {f : Node} {h : Halt}
    {t : RenderState} (hf : eval links setting true f s = (.error h, t)) :
    ∀ {operands : List Node} {i : Nat}, i < reach links setting conjunction s operands →
      holdsOf links setting conjunction (operands.set i f) s = (.error h, t)
  | a :: rest, 0, _ => bind_of_error (bind_of_error hf)
  | a :: rest, i + 1, hi => by
    obtain ⟨b, ha⟩ | ⟨g, u, ha⟩ := hs.holds_cases a
    · rw [reach_cons_of_ok rest ha] at hi
      by_cases hb : b = conjunction
      · rw [if_pos hb] at hi
        refine (bind_of_done ha).trans ?_
        rw [if_pos hb]
        exact hs.holdsOf_fails hf (Nat.lt_of_succ_lt_succ hi)
      · rw [if_neg hb] at hi
        omega
    · rw [reach_cons_of_error rest ha] at hi
      omega

/-- Operands behind those that come to be evaluated make no difference. -/
theorem Undisturbed.holdsOf_ignores (hs : Undisturbed links setting s) :
    ∀ {operands others : List Node}, others.length = operands.length →
      others.take (reach links setting conjunction s operands) =
        operands.take (reach links setting conjunction s operands) →
      holdsOf links setting conjunction others s = holdsOf links setting conjunction operands s
  | [], [], _, _ => rfl
  | a :: rest, b :: others, hlen, htake => by
    -- The first operand is evaluated in any case; the others are if it decides nothing.
    obtain ⟨d, ha⟩ | ⟨g, u, ha⟩ := hs.holds_cases a
    · rw [reach_cons_of_ok rest ha] at htake
      by_cases hd : d = conjunction
      · rw [if_pos hd, List.take_succ_cons, List.take_succ_cons, List.cons.injEq] at htake
        obtain ⟨rfl, htake⟩ := htake
        refine (bind_of_done ha).trans (Eq.trans ?_ (bind_of_done ha).symm)
        rw [if_pos hd, if_pos hd]
        exact hs.holdsOf_ignores (Nat.succ.inj hlen) htake
      · rw [if_neg hd, List.take_succ_cons, List.take_succ_cons, List.cons.injEq] at htake
        obtain ⟨rfl, -⟩ := htake
        refine (bind_of_done ha).trans (Eq.trans ?_ (bind_of_done ha).symm)
        rw [if_neg hd, if_neg hd]
    · rw [reach_cons_of_error rest ha, List.take_succ_cons, List.take_succ_cons,
        List.cons.injEq] at htake
      obtain ⟨rfl, -⟩ := htake
      exact (bind_of_error ha).trans (bind_of_error ha).symm

/-- A negated conjunction or disjunction evaluates its operands up to the first that fails or
    decides. -/
theorem Undisturbed.stopsAfter (hs : Undisturbed links setting s) (p q : Pos)
    (operands : List Node) :
    StopsAfter links setting s
      (fun as => eval links setting lenient (.unary p "not" (.logic q (joiner conjunction) as)) s)
      operands (reach links setting conjunction s operands) := by
  have hwhole : ∀ as,
      eval links setting lenient (.unary p "not" (.logic q (joiner conjunction) as)) =
        (do return .bool !(← holdsOf links setting conjunction as)) := by
    intro as
    rw [eval_negation, holds_joined, joiner_eq_and]
  refine ⟨hs.reach_le operands, fun i hi f h t hf => ?_, fun others hlen htake => ?_⟩
  · rw [hwhole]
    exact bind_of_error (hs.holdsOf_fails hf hi)
  · rw [hwhole, hwhole]
    exact bind_eq_of_eq (hs.holdsOf_ignores hlen htake)

end

/-! ### Chains of comparisons -/

/-- A comparison with the operand before it in a chain. -/
structure Comparison where
  place : Pos
  op : String
  right : Node

/-- The comparisons of a chain, each on its own. -/
def pairwise (left : Node) : List Comparison → List Node
  | [] => []
  | c :: rest => .compare c.place left [c.op] [c.right] :: pairwise c.right rest

/-- A comparison of two operands holds as it does at the start of a chain. -/
theorem holds_comparison (p : Pos) (left : Node) (op : String) (right : Node) :
    holds links setting (.compare p left [op] [right]) = (do
      let v ← eval links setting false left
      let w ← eval links setting false right
      ofProblem (Operator.compare op v w)) := by
  rw [holds, eval, bind_bind]
  refine congrArg (eval links setting false left >>= ·) (funext fun v => ?_)
  rw [bind_bind, evalEach, evalEach, chain, bind_bind]
  refine congrArg (eval links setting false right >>= ·) (funext fun w => ?_)
  rw [bind_bind]
  refine Eq.trans (congrArg (ofProblem (Operator.compare op v w) >>= ·) (funext fun b => ?_))
    (bind_done _)
  cases b <;> rfl

section

variable {s : RenderState}

/-- From an operand on that has a value, a chain holds as its comparisons do one by one: each of
    them evaluates its left operand again, to the value that it has had. -/
theorem Undisturbed.chain_eq (hs : Undisturbed links setting s) :
    ∀ (cs : List Comparison) {left : Node} {v : Value},
      eval links setting false left s = (.ok v, s) →
      chain v (cs.map Comparison.op)
          (evalEach links setting false (cs.map Comparison.right)) s =
        holdsOf links setting true (pairwise left cs) s
  | [], _, _, _ => by
    rw [List.map_nil, List.map_nil, evalEach, chain, pairwise, holdsOf]
  | c :: rest, left, v, hleft => by
    rw [List.map_cons, List.map_cons, evalEach, chain, pairwise, holdsOf, holds_comparison]
    obtain ⟨w, hw⟩ | ⟨h, t, hw⟩ := hs.eval_cases false c.right
    · rw [bind_of_done hw, bind_bind, bind_of_done hleft, bind_bind, bind_of_done hw]
      cases Operator.compare c.op v w with
      | error p => rfl
      | ok b =>
        cases b with
        | false => rfl
        | true => exact hs.chain_eq rest hw
    · rw [bind_of_error hw, bind_bind, bind_of_done hleft, bind_bind, bind_of_error hw]

/-- A chain of comparisons does what the conjunction of its comparisons does. -/
theorem Undisturbed.eval_chain (hs : Undisturbed links setting s) (p q : Pos) (left : Node)
    {cs : List Comparison} (hcs : cs ≠ []) :
    eval links setting lenient
        (.compare p left (cs.map Comparison.op) (cs.map Comparison.right)) s =
      eval links setting lenient (.logic q "and" (pairwise left cs)) s := by
  rw [eval, show "and" = joiner true from rfl, eval_joined]
  obtain ⟨v, hv⟩ | ⟨h, t, hv⟩ := hs.eval_cases false left
  · rw [bind_of_done hv]
    exact bind_eq_of_eq (hs.chain_eq cs hv)
  · rw [bind_of_error hv]
    obtain ⟨c, rest, rfl⟩ := List.exists_cons_of_ne_nil hcs
    rw [pairwise, holdsOf, holds_comparison, bind_bind, bind_bind, bind_of_error hv]

end

/-- While no request of a loop waits, a chain of comparisons ends as the conjunction of its
    comparisons does, with the same value or the same error; a negated conjunction ends as the
    disjunction of the negated operands does, and a negated disjunction as their conjunction; either
    of the two evaluates just the operands up to the first that fails or decides. An expression that
    has a value leaves the state as it was. -/
theorem connectives_expand (depth : Nat) (setting : Setting) (lenient : Bool) (s : RenderState)
    (hs : s.pending = false) :
    let links := linked (calls depth setting) setting
    let run (n : Node) := eval links setting lenient n s
    (∀ p q left (cs : List Comparison), cs ≠ [] →
      run (.compare p left (cs.map Comparison.op) (cs.map Comparison.right)) =
        run (.logic q "and" (pairwise left cs))) ∧
    (∀ conjunction p q r place operands,
      let negated as := run (.unary p "not" (.logic q (joiner conjunction) as))
      let spread as := run (.logic r (joiner !conjunction) (negations place as))
      let count := reach links setting conjunction s operands
      negated operands = spread operands ∧
      reach links setting (!conjunction) s (negations place operands) = count ∧
      ∀ k, (StopsAfter links setting s negated operands k ↔ k = count) ∧
        (StopsAfter links setting s spread operands k ↔ k = count)) ∧
    ∀ n v, (run n).1 = .ok v → run n = (.ok v, s) := by
  intro links run
  have hpure : Undisturbed links setting s := fun lenient n v => eval_pure hs
  refine ⟨fun p q left cs hcs => hpure.eval_chain p q left hcs,
    fun conjunction p q r place operands => ?_, fun n v => hpure lenient n v⟩
  intro negated spread count
  have hsame : ∀ as, negated as = spread as := fun as =>
    congrFun (eval_negated_joined p q r place conjunction as) s
  have hstops : StopsAfter links setting s negated operands count :=
    hpure.stopsAfter p q operands
  refine ⟨hsame operands, hpure.reach_negations place operands, fun k => ⟨hstops.iff_eq k, ?_⟩⟩
  rw [← funext hsame]
  exact hstops.iff_eq k

/-- A division by zero. -/
def ratio : Node := .arith ⟨1, 0⟩ "//" (.const ⟨1, 0⟩ (.int 1)) (.const ⟨1, 0⟩ (.int 0))

/-- What three is compared with: it exceeds two, two does not exceed five. -/
def descending : List Comparison :=
  [⟨⟨1, 0⟩, ">", .const ⟨1, 0⟩ (.int 2)⟩, ⟨⟨1, 0⟩, ">", .const ⟨1, 0⟩ (.int 5)⟩,
    ⟨⟨1, 0⟩, ">", ratio⟩]

/-- The page has a title, it has no author, and what comes next would fail. -/
def titled : List Node := [title, author, ratio]

theorem connectives_expand_descending :
    let links := linked (calls 0 plainSetting) plainSetting
    let run (n : Node) := eval links plainSetting false n reader
    reader.pending = false ∧ descending ≠ [] ∧ (∃ h, run ratio = (.error h, reader)) ∧
    run (.logic ⟨1, 0⟩ "and" (pairwise (.const ⟨1, 0⟩ (.int 3)) descending)) =
      (.ok (.bool false), reader) ∧
    run (.logic ⟨1, 0⟩ "or" (negations (fun _ => ⟨1, 0⟩) titled)) = (.ok (.bool true), reader) ∧
    StopsAfter links plainSetting reader
      (fun as => run (.logic ⟨1, 0⟩ "or" (negations (fun _ => ⟨1, 0⟩) as))) titled 2 := by
  intro links run
  obtain ⟨hchain, hnegation, -⟩ := connectives_expand 0 plainSetting false reader rfl
  obtain ⟨hsame, -, hstops⟩ := hnegation true ⟨1, 0⟩ ⟨1, 0⟩ ⟨1, 0⟩ (fun _ => ⟨1, 0⟩) titled
  refine ⟨rfl, nofun, ⟨_, by simp only [run, ratio, eval]; rfl⟩, ?_, ?_, ?_⟩
  · refine (hchain ⟨1, 0⟩ ⟨1, 0⟩ _ descending nofun).symm.trans ?_
    simp only [descending, eval, evalEach, List.map]
    rfl
  · refine hsame.symm.trans ?_
    simp only [titled, title, author, eval, evalEach, found_lenient]
    rfl
  · refine (hstops 2).2.2 ?_
    simp only [titled, reach, holds, title, author, eval, found_lenient]
    rfl

end Stencil.Render
