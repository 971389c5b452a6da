import Stencil.Proofs.Nested

/-! The innermost statement. A statement evaluates expressions, and it may execute bodies of other
    statements. What is left of it without its bodies is what it evaluates by itself before any of
    them; only a filter block evaluates more, when its body has been executed. A body halts iff it
    comes to a statement that fails by itself: one of the body, or one within a body that another
    statement of it begins. -/

namespace Stencil

namespace Node

/-- A statement without the statements in its bodies. -/
def hollow : Node → Node
  | .branch p condition _ others _ => .branch p condition [] (others.map fun b => (b.1, [])) []
  | .loop p target iter _ _ key condition => .loop p target iter [] [] key condition
  | .filterBlock p called _ args named => .filterBlock p called [] args named
  | n => n

def isFilterBlock : Node → Bool
  | .filterBlock .. => true
  | _ => false

end Node

namespace Render

open Leads

variable {links : Links} {setting : Setting}

/-! ### What statements evaluate by themselves -/

/-- What a loop evaluates before its rounds: the template that runs and the pairs that are kept. -/
def selection (links : Links) (setting : Setting) (target : String) (iter : Node)
    (key : Option String) (condition : Option Node) :
    Render (Template × List (Value × Value)) := do
  let container ← eval links setting false iter
  let found ← ofRuntime (pairs iter.describe key.isSome container)
  let running ← active
  let kept ← match condition with
    | none => done found
    | some c => filterPairs running (eval links setting true c) (looping target key found) 0 found
  return (running, kept)

/-- What a filter block evaluates when its body has written a text. -/
def applyFilter (links : Links) (setting : Setting) (name : String) (args : List Node)
    (named : List (String × Node)) (text : String) : Render Unit := do
  let vs ← all (evalEach links setting false args)
  let ns ← allNamed (evalNamed links setting named)
  let c ← ofRuntime (setting.env.lookup .filter name)
  let result ← invoke links.render .filter c (.text text :: vs) ns
  write (← ofProblem result.display)

/-- A statement halts by what it evaluates itself. -/
inductive Fails (links : Links) (setting : Setting) :
    Node → RenderState → Halt → RenderState → Prop
  | alone {n s h t} (hn : n.isFilterBlock = false)
    (hfails : exec links setting n.hollow s = (.error h, t)) : Fails links setting n s h t
  | filter {p name body args named s text u h t}
    (hbody : captured (execAll links setting body) s = (.ok text, u))
    (hfails : applyFilter links setting name args named text u = (.error h, t)) :
    Fails links setting (.filterBlock p name body args named) s h t

/-! ### Bodies that statements begin -/

/-- The rounds of a loop from one on come to the body, in the scope of a round. -/
inductive RoundAt (running : Template) (body : Render Unit) (l : Loop) :
    Nat → Nat → RenderState → RenderState → Prop
  | now {i remaining s stack}
    (hpush : s.stack.push (.iteration { l with index := i } running) = .ok stack) :
    RoundAt running body l i (remaining + 1) s { s with stack }
  | later {i remaining s signal t u}
    (hround : inScope (.iteration { l with index := i } running) (do body; requested) s =
      (.ok signal, t))
    (hsignal : signal ≠ .leave)
    (h : RoundAt running body l (i + 1) remaining { t with pending := false } u) :
    RoundAt running body l i (remaining + 1) s u

/-- A statement begins one of its bodies in a state. -/
inductive Begins (links : Links) (setting : Setting) :
    Node → RenderState → List Node → RenderState → Prop
  | chosen {p condition body others otherwise s v t}
    (hv : eval links setting true condition s = (.ok v, t)) (htrue : v.isTruthy = true) :
    Begins links setting (.branch p condition body others otherwise) s body t
  | other {p condition body condition' body' others otherwise s v t inner u}
    (hv : eval links setting true condition s = (.ok v, t)) (hfalse : v.isTruthy = false)
    (h : Begins links setting (.branch p condition' body' others otherwise) t inner u) :
    Begins links setting (.branch p condition body ((condition', body') :: others) otherwise) s
      inner u
  | otherwise {p condition body otherwise s v t}
    (hv : eval links setting true condition s = (.ok v, t)) (hfalse : v.isTruthy = false) :
    Begins links setting (.branch p condition body [] otherwise) s otherwise t
  | empty {p target iter body empty key condition s running t}
    (hkept : selection links setting target iter key condition s = (.ok (running, []), t)) :
    Begins links setting (.loop p target iter body empty key condition) s empty t
  | round {p target iter body empty key condition s running kept t u}
    (hkept : selection links setting target iter key condition s = (.ok (running, kept), t))
    (h : RoundAt running (execAll links setting body) (looping target key kept) 0 kept.length t u) :
    Begins links setting (.loop p target iter body empty key condition) s body u
  | filtered {p name body args named s} :
    Begins links setting (.filterBlock p name body args named) s body
      { s with sink := .buffer, chunks := [] }

/-- A body comes to a statement in a state, where its line has been noted: to one of its own, or to
    one in a body that one of them begins. -/
inductive Comes (links : Links) (setting : Setting) :
    List Node → RenderState → Node → RenderState → Prop
  | here {n rest s} : Comes links setting (n :: rest) s n (lined n s)
  | next {n rest s t m u} (hn : exec links setting n (lined n s) = (.ok (), t))
    (ht : t.pending = false) (h : Comes links setting rest t m u) :
    Comes links setting (n :: rest) s m u
  | inside {n rest s body t m u} (hn : Begins links setting n (lined n s) body t)
    (h : Comes links setting body t m u) : Comes links setting (n :: rest) s m u

/-! ### Statements by their parts -/

theorem exec_branch_cons (p : Pos) (condition condition' : Node) (body body' : List Node)
    (others : List (Node × List Node)) (otherwise : List Node) :
    exec links setting (.branch p condition body ((condition', body') :: others) otherwise) = (do
      if (← eval links setting true condition).isTruthy then execAll links setting body
      else exec links setting (.branch p condition' body' others otherwise)) := by
  rw [exec, execFirst, exec]

theorem exec_branch_nil (p : Pos) (condition : Node) (body otherwise : List Node) :
    exec links setting (.branch p condition body [] otherwise) = (do
      if (← eval links setting true condition).isTruthy then execAll links setting body
      else execAll links setting otherwise) := by
  rw [exec, execFirst]

theorem exec_loop (p : Pos) (target : String) (iter : Node) (body empty : List Node)
    (key : Option String) (condition : Option Node) :
    exec links setting (.loop p target iter body empty key condition) = (do
      let (running, kept) ← selection links setting target iter key condition
      if kept.isEmpty then execAll links setting empty
      else
        iterate running (execAll links setting body) (looping target key kept) 0 kept.length) := by
  rw [exec, selection, bind_bind]
  refine congrArg (eval links setting false iter >>= ·) (funext fun container => ?_)
  rw [bind_bind]
  refine congrArg (ofRuntime _ >>= ·) (funext fun found => ?_)
  rw [bind_bind, runLoop]
  refine congrArg (active >>= ·) (funext fun running => ?_)
  cases condition with
  | none => rfl
  | some c =>
    dsimp only [Option.map_some]
    rw [bind_bind]
    rfl

theorem exec_filterBlock (p : Pos) (name : String) (body args : List Node)
    (named : List (String × Node)) :
    exec links setting (.filterBlock p name body args named) =
      captured (execAll links setting body) >>= applyFilter links setting name args named := by
  rw [exec]
  rfl

/-! ### What fails in a statement fails the statement -/

variable {h : Halt} {s t v : RenderState}

theorem inScope_of_error {α : Type} {f : Frame} {m : Render α} {stack : CallStack}
    (hpush : s.stack.push f = .ok stack) (hm : m { s with stack } = (.error h, v)) :
    inScope f m s = (.error h, popped v) := by
  unfold inScope ensuring
  rw [hpush]
  dsimp only
  rw [hm]
  rfl

theorem captured_of_error {m : Render Unit}
    (hm : m { s with sink := .buffer, chunks := [] } = (.error h, v)) :
    captured m s = (.error h, { v with sink := s.sink, chunks := s.chunks }) := by
  unfold captured
  rw [hm]
  rfl

/-- Where a loop comes to its body and this halts, the loop does, at the same place. -/
theorem RoundAt.halts {running : Template} {body : Render Unit} {l : Loop} {i remaining : Nat}
    (hround : RoundAt running body l i remaining s t) (hbody : body t = (.error h, v)) :
    ∃ w, iterate running body l i remaining s = (.error h, w) ∧ w.place = v.place := by
  induction hround with
  | now hpush =>
    refine ⟨popped v, ?_, rfl⟩
    rw [iterate]
    exact bind_of_error (inScope_of_error hpush (bind_of_error hbody))
  | later hround hsignal _ ih =>
    obtain ⟨w, hw, hplace⟩ := ih hbody
    refine ⟨w, ?_, hplace⟩
    rw [iterate]
    refine (bind_of_done hround).trans ((bind_of_done rfl).trans ?_)
    rw [if_neg hsignal]
    exact hw

/-- Where a statement begins a body and this halts, the statement does, at the same place. -/
theorem Begins.halts {n : Node} {body : List Node} (hn : Begins links setting n s body t)
    (hbody : execAll links setting body t = (.error h, v)) :
    ∃ w, exec links setting n s = (.error h, w) ∧ w.place = v.place := by
  induction hn with
  | chosen hv htrue =>
    refine ⟨v, ?_, rfl⟩
    rw [exec]
    refine (bind_of_done hv).trans ?_
    rw [if_pos htrue]
    exact hbody
  | other hv hfalse _ ih =>
    obtain ⟨w, hw, hplace⟩ := ih hbody
    refine ⟨w, ?_, hplace⟩
    rw [exec_branch_cons]
    refine (bind_of_done hv).trans ?_
    rw [if_neg (by simp [hfalse])]
    exact hw
  | otherwise hv hfalse =>
    refine ⟨v, ?_, rfl⟩
    rw [exec_branch_nil]
    refine (bind_of_done hv).trans ?_
    rw [if_neg (by simp [hfalse])]
    exact hbody
  | empty hkept =>
    refine ⟨v, ?_, rfl⟩
    rw [exec_loop]
    exact (bind_of_done hkept).trans hbody
  | @round p target iter body empty key condition s running kept t u hkept hround =>
    obtain ⟨w, hw, hplace⟩ := hround.halts hbody
    refine ⟨w, ?_, hplace⟩
    -- a round is at one of the pairs that are kept, so there is one
    have hsome : kept.isEmpty = false := by
      cases kept with
      | nil => cases hround
      | cons => rfl
    rw [exec_loop]
    refine (bind_of_done hkept).trans ?_
    simp only [hsome]
    exact hw
  | @filtered p name body args named s =>
    refine ⟨{ v with sink := s.sink, chunks := s.chunks }, ?_, rfl⟩
    rw [exec_filterBlock]
    exact bind_of_error (captured_of_error hbody)

/-! ### What fails in a statement is its own or a body's -/

/-- A scope of a round halts only where what runs in it does. -/
theorem inScope_eq_error {α : Type} {running : Template} {l : Loop} {m : Render α}
    (hscope : inScope (.iteration l running) m s = (.error h, t)) : ∃ stack v,
      s.stack.push (.iteration l running) = .ok stack ∧ m { s with stack } = (.error h, v) ∧
        t = popped v := by
  have hpush : s.stack.push (.iteration l running) =
      .ok { s.stack with frames := .iteration l running :: s.stack.frames } := by
    unfold CallStack.push
    rw [if_neg (by simp [Frame.iteration, FrameKind.isCall])]
  unfold inScope ensuring at hscope
  rw [hpush] at hscope
  dsimp only at hscope
  obtain ⟨hm, rfl⟩ := Prod.mk.inj hscope
  exact ⟨_, _, hpush, Prod.ext hm rfl, rfl⟩

theorem captured_eq_error {m : Render Unit} (hcaptured : captured m s = (.error h, t)) :
    ∃ v, m { s with sink := .buffer, chunks := [] } = (.error h, v) ∧ v.place = t.place := by
  unfold captured at hcaptured
  cases hm : m { s with sink := .buffer, chunks := [] } with
  | mk r v =>
    rw [hm] at hcaptured
    cases r with
    | ok _ => cases hcaptured
    | error k =>
      cases hcaptured
      exact ⟨v, rfl, rfl⟩

/-- A sequence that halts does so in its first part or after a result of it. -/
theorem bind_eq_error {α β : Type} {m : Render α} {f : α → Render β}
    (hbind : (m >>= f) s = (.error h, t)) : m s = (.error h, t) ∨
      ∃ a u, m s = (.ok a, u) ∧ f a u = (.error h, t) := by
  change andThen m f s = _ at hbind
  unfold andThen at hbind
  cases hm : m s with
  | mk r u =>
    rw [hm] at hbind
    cases r with
    | ok a => exact .inr ⟨a, u, rfl, hbind⟩
    | error k =>
      cases hbind
      exact .inl rfl

/-- A loop that halts in its rounds has come to its body, which halts. -/
theorem exists_roundAt {running : Template} {body : Render Unit} {l : Loop} :
    ∀ {remaining i : Nat} {s : RenderState},
      iterate running body l i remaining s = (.error h, t) → ∃ u v,
        RoundAt running body l i remaining s u ∧ body u = (.error h, v) ∧ v.place = t.place
  | 0, i, s, hi => by cases hi
  | remaining + 1, i, s, hi => by
    rw [iterate] at hi
    obtain hscope | ⟨signal, u, hround, hi⟩ := bind_eq_error hi
    · obtain ⟨stack, v, hpush, hm, rfl⟩ := inScope_eq_error hscope
      obtain hbody | ⟨_, w, -, hrequested⟩ := bind_eq_error hm
      · exact ⟨_, v, .now hpush, hbody, rfl⟩
      · cases hrequested
    · obtain hchange | ⟨_, w, hchange, hi⟩ := bind_eq_error hi
      · cases hchange
      · cases hchange
        split at hi
        · cases hi
        · rename_i hsignal
          obtain ⟨x, v, hx, hbody, hplace⟩ := exists_roundAt hi
          exact ⟨x, v, .later hround hsignal hx, hbody, hplace⟩

theorem execAll_nil_ne_error : execAll links setting [] s ≠ (.error h, t) := by
  rw [execAll]
  intro h
  cases h

theorem exec_of_hollow_branch {p : Pos} {otherwise : List Node} :
    ∀ {others : List (Node × List Node)} {condition : Node} {body : List Node} {s : RenderState},
      exec links setting (Node.branch p condition body others otherwise).hollow s =
        (.error h, t) →
      exec links setting (.branch p condition body others otherwise) s = (.error h, t)
  | [], condition, body, s, hfails => by
    change exec links setting (.branch p condition [] [] []) s = _ at hfails
    rw [exec_branch_nil] at hfails ⊢
    obtain hcondition | ⟨v, u, -, hempty⟩ := bind_eq_error hfails
    · exact bind_of_error hcondition
    · split at hempty <;> exact absurd hempty execAll_nil_ne_error
  | (condition', body') :: others, condition, body, s, hfails => by
    change exec links setting (.branch p condition []
      ((condition', []) :: others.map fun b => (b.1, [])) []) s = _ at hfails
    rw [exec_branch_cons] at hfails ⊢
    obtain hcondition | ⟨v, u, hv, hrest⟩ := bind_eq_error hfails
    · exact bind_of_error hcondition
    · refine (bind_of_done hv).trans ?_
      split at hrest
      · exact absurd hrest execAll_nil_ne_error
      · rename_i hfalse
        rw [if_neg hfalse]
        exact exec_of_hollow_branch hrest

/-- What a loop evaluates by itself ends before its rounds. -/
theorem selection_eq_error {p : Pos} {target : String} {iter : Node} {body empty : List Node}
    {key : Option String} {condition : Option Node}
    (hfails : exec links setting (Node.loop p target iter body empty key condition).hollow s =
      (.error h, t)) :
    selection links setting target iter key condition s = (.error h, t) := by
  change exec links setting (.loop p target iter [] [] key condition) s = _ at hfails
  rw [exec_loop] at hfails
  obtain hselection | ⟨⟨running, kept⟩, u, -, hrounds⟩ := bind_eq_error hfails
  · exact hselection
  · dsimp only at hrounds
    split at hrounds
    · exact absurd hrounds execAll_nil_ne_error
    · obtain ⟨w, v, -, hbody, -⟩ := exists_roundAt hrounds
      exact absurd hbody execAll_nil_ne_error

/-- A statement that halts by what it evaluates itself halts. -/
theorem Fails.exec {n : Node} (hn : Fails links setting n s h t) :
    Render.exec links setting n s = (.error h, t) := by
  cases hn with
  | alone hn hfails =>
    cases n with
    | branch => exact exec_of_hollow_branch hfails
    | loop =>
      rw [exec_loop]
      exact bind_of_error (selection_eq_error hfails)
    | filterBlock => cases hn
    | _ => exact hfails
  | filter hbody hfails =>
    rw [exec_filterBlock]
    exact (bind_of_done hbody).trans hfails

/-- A statement halts by what it evaluates itself or by a body that it has begun. -/
theorem exec_branch_eq_error {p : Pos} {otherwise : List Node} :
    ∀ {others : List (Node × List Node)} {condition : Node} {body : List Node} {s : RenderState},
      exec links setting (.branch p condition body others otherwise) s = (.error h, t) →
      Fails links setting (.branch p condition body others otherwise) s h t ∨
        ∃ inner u, Begins links setting (.branch p condition body others otherwise) s inner u ∧
          execAll links setting inner u = (.error h, t)
  | [], condition, body, s, hfails => by
    rw [exec_branch_nil] at hfails
    obtain hcondition | ⟨v, u, hv, hbody⟩ := bind_eq_error hfails
    · refine .inl (.alone rfl ?_)
      change exec links setting (.branch p condition [] [] []) s = _
      rw [exec_branch_nil]
      exact bind_of_error hcondition
    · split at hbody
      · rename_i htrue
        exact .inr ⟨body, u, .chosen hv htrue, hbody⟩
      · rename_i hfalse
        exact .inr ⟨otherwise, u, .otherwise hv (Bool.eq_false_iff.2 hfalse), hbody⟩
  | (condition', body') :: others, condition, body, s, hfails => by
    have hhollow : exec links setting
        (Node.branch p condition body ((condition', body') :: others) otherwise).hollow = _ :=
      exec_branch_cons p condition condition' [] [] (others.map fun b => (b.1, [])) []
    rw [exec_branch_cons] at hfails
    obtain hcondition | ⟨v, u, hv, hrest⟩ := bind_eq_error hfails
    · -- the hollow statement has the same conditions, so it fails alike
      refine .inl (.alone rfl ?_)
      rw [hhollow]
      exact bind_of_error hcondition
    · split at hrest
      · rename_i htrue
        exact .inr ⟨body, u, .chosen hv htrue, hrest⟩
      · rename_i hfalse
        obtain hfails | ⟨inner, w, hbegins, hbody⟩ := exec_branch_eq_error hrest
        · cases hfails with
          | alone _ hfails =>
            refine .inl (.alone rfl ?_)
            rw [hhollow]
            refine (bind_of_done hv).trans ?_
            rw [if_neg hfalse]
            exact hfails
        · exact .inr ⟨inner, w, .other hv (Bool.eq_false_iff.2 hfalse) hbegins, hbody⟩

theorem exec_eq_error {n : Node} (hn : exec links setting n s = (.error h, t)) :
    Fails links setting n s h t ∨ ∃ body u v, Begins links setting n s body u ∧
      execAll links setting body u = (.error h, v) ∧ v.place = t.place := by
  cases n with
  | branch p condition body others otherwise =>
    obtain hfails | ⟨inner, u, hbegins, hbody⟩ := exec_branch_eq_error hn
    · exact .inl hfails
    · exact .inr ⟨inner, u, t, hbegins, hbody, rfl⟩
  | loop p target iter body empty key condition =>
    rw [exec_loop] at hn
    obtain hselection | ⟨⟨running, kept⟩, u, hkept, hrounds⟩ := bind_eq_error hn
    · -- the pairs are found and kept before any body begins, so the hollow loop fails alike
      refine .inl (.alone rfl ?_)
      change exec links setting (.loop p target iter [] [] key condition) s = _
      rw [exec_loop]
      exact bind_of_error hselection
    · dsimp only at hrounds
      split at hrounds
      · rename_i hempty
        obtain rfl := List.isEmpty_iff.1 hempty
        exact .inr ⟨empty, u, t, .empty hkept, hrounds, rfl⟩
      · obtain ⟨w, v, hround, hbody, hplace⟩ := exists_roundAt hrounds
        exact .inr ⟨body, w, v, .round hkept hround, hbody, hplace⟩
  | filterBlock p name body args named =>
    rw [exec_filterBlock] at hn
    obtain hcaptured | ⟨text, u, hbody, happly⟩ := bind_eq_error hn
    · obtain ⟨v, hbody, hplace⟩ := captured_eq_error hcaptured
      exact .inr ⟨body, _, v, .filtered, hbody, hplace⟩
    · exact .inl (.filter hbody happly)
  | _ => exact .inl (.alone rfl hn)

/-! ### Bodies halt by a statement that they come to -/

theorem Begins.sizeOf_lt {n : Node} {body : List Node} (hn : Begins links setting n s body t) :
    sizeOf body < sizeOf n := by
  induction hn with
  | chosen | otherwise =>
    rw [Node.branch.sizeOf_spec]
    omega
  | other _ _ _ ih =>
    rw [Node.branch.sizeOf_spec] at ih ⊢
    rw [List.cons.sizeOf_spec, Prod.mk.sizeOf_spec]
    omega
  | empty | round =>
    rw [Node.loop.sizeOf_spec]
    omega
  | filtered =>
    rw [Node.filterBlock.sizeOf_spec]
    omega

/-- The statements of a body after the first are executed where no request waits. -/
theorem execAll_next {n : Node} {rest : List Node}
    (hn : exec links setting n (lined n s) = (.ok (), t)) :
    execAll links setting (n :: rest) s =
      if t.pending then (.ok (), t) else execAll links setting rest t := by
  rw [execAll]
  refine (bind_of_done (atLine_eq n s)).trans ((bind_of_done hn).trans ?_)
  refine (bind_of_done rfl).trans ?_
  cases t.pending <;> rfl

/-- A body that comes to a statement which fails halts, at the same place. -/
theorem Comes.halts {body : List Node} {n : Node} {u : RenderState}
    (hcomes : Comes links setting body s n u) (hfails : Fails links setting n u h v) :
    ∃ t, execAll links setting body s = (.error h, t) ∧ t.place = v.place := by
  induction hcomes with
  | here =>
    refine ⟨v, ?_, rfl⟩
    rw [execAll]
    exact (bind_of_done (atLine_eq _ _)).trans (bind_of_error hfails.exec)
  | next hn ht _ ih =>
    obtain ⟨w, hw, hplace⟩ := ih hfails
    refine ⟨w, ?_, hplace⟩
    rw [execAll_next hn, if_neg (by simp [ht]), hw]
  | inside hn _ ih =>
    obtain ⟨w, hw, hplace⟩ := ih hfails
    obtain ⟨x, hx, hsame⟩ := hn.halts hw
    refine ⟨x, ?_, hsame.trans hplace⟩
    rw [execAll]
    exact (bind_of_done (atLine_eq _ _)).trans (bind_of_error hx)

/-- A body that halts has come to a statement which fails. -/
theorem exists_comes : ∀ {body : List Node} {s t : RenderState},
    execAll links setting body s = (.error h, t) →
      ∃ n u v, Comes links setting body s n u ∧ Fails links setting n u h v
  | [], s, t, hbody => absurd hbody execAll_nil_ne_error
  | n :: rest, s, t, hbody => by
    have hall := hbody
    rw [execAll] at hall
    obtain hline | ⟨_, u, hline, hrest⟩ := bind_eq_error hall
    · rw [atLine_eq] at hline
      cases hline
    · rw [atLine_eq] at hline
      cases hline
      obtain hn | ⟨_, u, hn, -⟩ := bind_eq_error hrest
      · obtain hfails | ⟨inner, w, v, hbegins, hinner, -⟩ := exec_eq_error hn
        · exact ⟨n, _, t, .here, hfails⟩
        · -- the body that was begun is a smaller one, inside of the statement
          have hsize := hbegins.sizeOf_lt
          obtain ⟨m, x, y, hcomes, hfails⟩ := exists_comes hinner
          exact ⟨m, x, y, .inside hbegins hcomes, hfails⟩
      · rw [execAll_next hn] at hbody
        split at hbody
        · cases hbody
        · rename_i hpending
          obtain ⟨m, x, y, hcomes, hfails⟩ := exists_comes hbody
          exact ⟨m, x, y, .next hn (Bool.eq_false_iff.2 hpending) hcomes, hfails⟩
termination_by body => sizeOf body
decreasing_by
  · rw [List.cons.sizeOf_spec]
    omega
  · rw [List.cons.sizeOf_spec]
    omega

/-- A body halts iff it comes to a statement that fails by itself. -/
theorem halts_iff_comes {body : List Node} :
    (∃ t, execAll links setting body s = (.error h, t)) ↔
      ∃ n u v, Comes links setting body s n u ∧ Fails links setting n u h v := by
  constructor
  · rintro ⟨t, hbody⟩
    exact exists_comes hbody
  · rintro ⟨n, u, v, hcomes, hfails⟩
    obtain ⟨t, hbody, -⟩ := hcomes.halts hfails
    exact ⟨t, hbody⟩

end Render

end Stencil
