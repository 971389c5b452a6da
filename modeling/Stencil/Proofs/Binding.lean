import Stencil.Proofs.Hygiene
import Stencil.Proofs.Isolation
import Stencil.Proofs.Loops
import Stencil.Proofs.Table

/-! The arguments of a macro call are bound in three steps: those by position, then the keywords,
    then the parameters from left to right with their defaults. The first two depend on the values
    alone, so that a call may give its last positional arguments by name; the third is a relation
    between states, since a default is evaluated in the scope of the call, where it sees the
    parameters before it and nothing else. -/

namespace Stencil

namespace Render

open CallStack

/-! ### Values under names -/

/-- A keyword names no parameter, or one that has a value by position. -/
def Misplaced (names : List String) (vs : List Value) (key : String) : Prop :=
  key ∉ names ∨ key ∈ names.take vs.length

instance (names : List String) (vs : List Value) (key : String) :
    Decidable (Misplaced names vs key) :=
  inferInstanceAs (Decidable (key ∉ names ∨ key ∈ names.take vs.length))

/-- What is wrong with a keyword that is misplaced. -/
def misplacedError (fullName : String) (names : List String) (key : String) : RuntimeError :=
  if key ∉ names then .macroArgument fullName s!"unknown argument '{key}'" (some key)
  else .macroArgument fullName s!"argument '{key}' given twice" (some key)

variable {fullName : String} {names : List String} {vs : List Value}

theorem map_fst_zip (names : List String) (vs : List Value) :
    (names.zip vs).map Prod.fst = names.take vs.length := by
  induction names generalizing vs with
  | nil => simp
  | cons n names ih =>
    cases vs with
    | nil => simp
    | cons v vs => simp [ih]

/-- Keywords are taken up to the first that is misplaced. -/
theorem bindNamed_eq : ∀ {ns bound : List (String × Value)},
    (ns.map Prod.fst).Nodup →
    (∀ a ∈ ns, (bound.lookup a.1).isSome = true ↔ a.1 ∈ names.take vs.length) →
    bindNamed fullName names bound ns =
      (ns.find? fun a => Misplaced names vs a.1).elim (.ok (ns.reverse ++ bound))
        fun a => .error (misplacedError fullName names a.1)
  | [], bound, _, _ => rfl
  | (key, v) :: rest, bound, hkeys, hbound => by
    rw [List.map_cons, List.nodup_cons] at hkeys
    have hkey : (bound.lookup key).isSome = true ↔ key ∈ names.take vs.length :=
      hbound (key, v) (List.mem_cons_self ..)
    rw [bindNamed]
    by_cases hknown : key ∈ names
    · by_cases htaken : key ∈ names.take vs.length
      · simp [hknown, hkey.2 htaken, Misplaced, htaken, misplacedError]
      · have hfree : (bound.lookup key).isSome = false := by
          rw [← Bool.not_eq_true, hkey]
          exact htaken
        -- keywords have distinct names, so binding this one misplaces no later one
        have hrest : ∀ a ∈ rest, (((key, v) :: bound).lookup a.1).isSome = true ↔
            a.1 ∈ names.take vs.length := by
          intro a ha
          have hne : a.1 ≠ key := fun h => hkeys.1 (List.mem_map.2 ⟨a, ha, h⟩)
          rw [List.lookup_cons, show (a.1 == key) = false from by simpa using hne]
          exact hbound a (List.mem_cons_of_mem _ ha)
        have hfits : ¬Misplaced names vs key := by simp [Misplaced, hknown, htaken]
        simp [hknown, hfree, hfits, bindNamed_eq hkeys.2 hrest]
    · simp [hknown, Misplaced, misplacedError]

/-- The arguments of a call are bound to the parameters, unless there are too many of them or there
    is a misplaced one among the keywords. -/
theorem bindArguments_eq {params : List Param} {ns : List (String × Value)}
    (hnames : params.map Param.name = names) (hkeys : (ns.map Prod.fst).Nodup) :
    bindArguments fullName params vs ns =
      if names.length < vs.length then
        .error (.macroArgument fullName
          s!"takes {names.length} arguments but {vs.length} were given" none)
      else
        (ns.find? fun a => Misplaced names vs a.1).elim
          (.ok (ns.reverse ++ (names.zip vs).reverse))
          fun a => .error (misplacedError fullName names a.1) := by
  have hlength : params.length = names.length := by rw [← hnames, List.length_map]
  rw [bindArguments, hlength, hnames]
  split
  · rfl
  · refine bindNamed_eq hkeys fun a _ => ?_
    rw [List.lookup_isSome_iff, ← map_fst_zip names vs, List.mem_map]
    constructor
    · rintro ⟨b, hb, h⟩
      exact ⟨b, List.mem_reverse.1 hb, (beq_iff_eq.1 h).symm⟩
    · rintro ⟨b, hb, h⟩
      exact ⟨b, List.mem_reverse.2 hb, beq_iff_eq.2 h.symm⟩

/-- What the arguments of a call give to a parameter: its value by position, else that of its
    keyword. -/
def givenFor (names : List String) (vs : List Value) (ns : List (String × Value)) (name : String) :
    Option Value :=
  ((names.zip vs).lookup name).or (ns.lookup name)

/-- Arguments of which none is too many and none is misplaced are bound as they are given. -/
theorem exists_bindArguments (fullName : String) {params : List Param} {ns : List (String × Value)}
    (hnames : params.map Param.name = names) (hdistinct : names.Nodup)
    (hkeys : (ns.map Prod.fst).Nodup) (hlength : vs.length ≤ names.length)
    (hfits : ∀ a ∈ ns, ¬Misplaced names vs a.1) :
    ∃ bound, bindArguments fullName params vs ns = .ok bound ∧
      ∀ name, bound.lookup name = givenFor names vs ns name := by
  have hnone : ns.find? (fun a => Misplaced names vs a.1) = none := by simpa using hfits
  have hbound : bindArguments fullName params vs ns =
      .ok (ns.reverse ++ (names.zip vs).reverse) := by
    rw [bindArguments_eq hnames hkeys, if_neg (by omega), hnone, Option.elim_none]
  refine ⟨_, hbound, fun name => ?_⟩
  rw [givenFor, ← List.lookup_append]
  -- the arguments are bound in another order than they are given, but no name occurs twice
  refine (Table.lookup_perm ?_ ?_ name).symm
  · exact List.perm_append_comm.trans
      ((List.reverse_perm _).symm.append (List.reverse_perm _).symm)
  · rw [List.map_append, map_fst_zip]
    refine List.nodup_append.2 ⟨hdistinct.sublist (List.take_sublist _ _), hkeys, ?_⟩
    rintro key htaken _ hkey rfl
    obtain ⟨a, ha, rfl⟩ := List.mem_map.1 hkey
    exact hfits a ha (.inr htaken)

/-! ### Positional arguments under names -/

section

variable {front back : List Value} {ns ks : List (String × Value)}

theorem zip_append_back (hlength : front.length ≤ names.length) :
    names.zip (front ++ back) = names.zip front ++ (names.drop front.length).zip back := by
  have htake : (names.take front.length).length = front.length := List.length_take_of_le hlength
  have hfront : names.zip front = (names.take front.length).zip front := by
    conv_lhs => rw [← List.take_append_drop front.length names, ← List.append_nil front]
    rw [List.append_nil front, ← List.append_nil front, List.zip_append (by simpa using htake)]
    simp
  conv_lhs => rw [← List.take_append_drop front.length names]
  rw [List.zip_append htake, hfront]

/-- Keywords for the last positional arguments are not misplaced, and the others are as before. -/
theorem misplaced_append_back (hdistinct : names.Nodup)
    (hkeys : ((ns ++ (names.drop front.length).zip back).map Prod.fst).Nodup) :
    (∀ a ∈ ns, Misplaced names front a.1 ↔ Misplaced names (front ++ back) a.1) ∧
      ∀ a ∈ (names.drop front.length).zip back, ¬Misplaced names front a.1 := by
  rw [List.map_append, map_fst_zip] at hkeys
  have htake : names.take (front ++ back).length =
      names.take front.length ++ (names.drop front.length).take back.length := by
    rw [List.length_append, List.take_add]
  constructor
  · intro a ha
    have hfree : a.1 ∉ (names.drop front.length).take back.length := fun h =>
      (List.nodup_append.1 hkeys).2.2 a.1 (List.mem_map_of_mem ha) a.1 h rfl
    rw [Misplaced, Misplaced, htake, List.mem_append, or_iff_left hfree]
  · intro a ha
    have hdrop : a.1 ∈ names.drop front.length := (List.of_mem_zip ha).1
    rintro (h | h)
    · exact h (List.mem_of_mem_drop hdrop)
    · exact List.disjoint_take_drop hdistinct (Nat.le_refl _) h hdrop

/-- Whether the keywords keep their order or none of them is misplaced, the first that is misplaced
    is the same when the last positional arguments are given by name. -/
theorem find?_misplaced (hdistinct : names.Nodup)
    (horder : ns.Sublist ks ∨ ∀ a ∈ ns, ¬Misplaced names (front ++ back) a.1)
    (hperm : ks.Perm (ns ++ (names.drop front.length).zip back))
    (hkeys : (ks.map Prod.fst).Nodup) :
    (ks.find? fun a => Misplaced names front a.1) =
      ns.find? fun a => Misplaced names (front ++ back) a.1 := by
  obtain ⟨hold, hnew⟩ := misplaced_append_back hdistinct ((hperm.map Prod.fst).nodup_iff.1 hkeys)
  -- either the order of the misplaced keywords is the same, or no keyword is misplaced
  rcases horder with hsub | hfits
  · have hnone :
        ((names.drop front.length).zip back).filter (fun a => Misplaced names front a.1) = [] :=
      List.filter_eq_nil_iff.2 fun a ha => by simpa using hnew a ha
    have hfilter : ks.filter (fun a => Misplaced names front a.1) =
        ns.filter fun a => Misplaced names front a.1 := by
      refine ((hsub.filter _).eq_of_length ?_).symm
      rw [(hperm.filter _).length_eq, List.filter_append, hnone, List.append_nil]
    rw [← List.head?_filter, ← List.head?_filter, hfilter]
    exact congrArg List.head? (List.filter_congr fun a ha => by simp [hold a ha])
  · have hks : ∀ a ∈ ks, ¬Misplaced names front a.1 := by
      intro a ha
      rcases List.mem_append.1 (hperm.subset ha) with ha | ha
      · exact fun h => hfits a ha ((hold a ha).1 h)
      · exact hnew a ha
    rw [List.find?_eq_none.2 (by simpa using hks), List.find?_eq_none.2 (by simpa using hfits)]

/-- Parameters have the same values when the last positional arguments are given by name. -/
theorem givenFor_append_back (hlength : front.length ≤ names.length)
    (hperm : ks.Perm (ns ++ (names.drop front.length).zip back))
    (hkeys : (ks.map Prod.fst).Nodup) (name : String) :
    givenFor names front ks name = givenFor names (front ++ back) ns name := by
  have hks : ks.lookup name = ((names.drop front.length).zip back ++ ns).lookup name :=
    Table.lookup_perm (hperm.trans List.perm_append_comm) hkeys name
  rw [givenFor, givenFor, hks, zip_append_back hlength, List.lookup_append, List.lookup_append,
    Option.or_assoc]

/-- A call whose last positional arguments are given by name binds the same values to the same
    names, or is refused with the same error. -/
theorem bindArguments_append_back (fullName : String) {params : List Param}
    (hnames : params.map Param.name = names) (hdistinct : names.Nodup)
    (hlength : (front ++ back).length ≤ names.length)
    (horder : ns.Sublist ks ∨ ∀ a ∈ ns, ¬Misplaced names (front ++ back) a.1)
    (hperm : ks.Perm (ns ++ (names.drop front.length).zip back))
    (hkeys : (ks.map Prod.fst).Nodup) :
    (∃ e, bindArguments fullName params front ks = .error e ∧
      bindArguments fullName params (front ++ back) ns = .error e) ∨
    ∃ b c, bindArguments fullName params front ks = .ok b ∧
      bindArguments fullName params (front ++ back) ns = .ok c ∧
      ∀ name, b.lookup name = c.lookup name := by
  have hfront : front.length ≤ names.length := by simp at hlength; omega
  have hkeysOld : (ns.map Prod.fst).Nodup := by
    have hboth := (hperm.map Prod.fst).nodup_iff.1 hkeys
    rw [List.map_append] at hboth
    exact (List.nodup_append.1 hboth).1
  have hmisplaced := find?_misplaced hdistinct horder hperm hkeys
  -- both calls are decided by the first misplaced keyword, which they share
  cases hfind : ns.find? fun a => Misplaced names (front ++ back) a.1 with
  | some a =>
    refine .inl ⟨misplacedError fullName names a.1, ?_, ?_⟩
    · rw [bindArguments_eq hnames hkeys, if_neg (by omega), hmisplaced, hfind,
        Option.elim_some]
    · rw [bindArguments_eq hnames hkeysOld, if_neg (by omega), hfind, Option.elim_some]
  | none =>
    obtain ⟨b, hb, hbgiven⟩ := exists_bindArguments fullName hnames hdistinct hkeys hfront
      (by simpa using hmisplaced.trans hfind)
    obtain ⟨c, hc, hcgiven⟩ := exists_bindArguments fullName hnames hdistinct hkeysOld hlength
      (by simpa using hfind)
    refine .inr ⟨b, c, hb, hc, fun name => ?_⟩
    rw [hbgiven, hcgiven, givenFor_append_back hfront hperm hkeys]

end

/-! ### The scope of a call -/

/-- The names that a call has bound so far are in its frame, and nothing else is visible. -/
structure Scoped (owner : Template) (m : Macro) (known : List (String × Value)) (s : RenderState) :
    Prop where
  frame : ∃ locals lower, locals.entries = known ∧
    s.stack.frames = { Frame.call m.name owner with locals } :: lower
  find : ∀ name, s.stack.find name = (known.lookup name).getD .undefined
  names : s.stack.visibleNames = known.map Prod.fst

variable {owner : Template} {m : Macro} {known : List (String × Value)} {s t u w : RenderState}

/-- The frame of a call is the boundary of what is visible. -/
theorem Scoped.of_frame {locals : Table Value} {lower : List Frame}
    (hframes : s.stack.frames = { Frame.call m.name owner with locals } :: lower) :
    Scoped owner m locals.entries s where
  frame := ⟨locals, lower, rfl, hframes⟩
  find name := by
    have hlocal : Frame.find { Frame.call m.name owner with locals } name =
        (locals.entries.lookup name).getD .undefined := by
      rw [← Table.lookupIn_eq_lookup]
      rfl
    rw [CallStack.find, hframes, findIn, hlocal]
    cases hv : (locals.entries.lookup name).getD .undefined <;> rfl
  names := by
    simp [visibleNames, hframes, CallStack.inScope, Frame.call, FrameKind.isCall, Frame.names,
      FrameKind.loop?, Table.names]

/-- A call may bind a new name, which is then visible. -/
theorem Scoped.assign (h : Scoped owner m known s) {name : String}
    (hnew : name ∉ known.map Prod.fst) (v : Value) : ∃ t, Render.assign name v s = (.ok (), t) ∧
      Scoped owner m (known ++ [(name, v)]) t := by
  obtain ⟨locals, lower, rfl, hframes⟩ := h.frame
  refine ⟨_, assign_eq_done hframes, ?_⟩
  have hentries : (locals.insert name v).entries = locals.entries ++ [(name, v)] :=
    Table.bindIn_of_not_mem hnew
  rw [← hentries]
  exact .of_frame rfl

/-- A frame of a call with locals is the only one with its outline and its locals. -/
theorem frame_of_bare {f g : Frame} (hbare : f.bare = g.bare) (hlocals : f.locals = g.locals)
    (hcall : f.kind = .call) : f = g := by
  have hkind : g.kind = .call := by
    have h : f.kind.settled = g.kind.settled := congrArg Frame.kind hbare
    rw [hcall] at h
    cases hk : g.kind <;> simp_all [FrameKind.settled]
  obtain ⟨kind, name, template, locals⟩ := f
  obtain ⟨kind', name', template', locals'⟩ := g
  simp only [Frame.bare, Frame.mk.injEq] at *
  exact ⟨hcall.trans hkind.symm, hbare.2.1, hbare.2.2.1, hlocals⟩

/-- The evaluation of a default leaves the scope as it is, however it ends. -/
theorem Scoped.value (h : Scoped owner m known s) (setting : Setting) (depth : Nat) (n : Node) :
    Scoped owner m known ((calls depth setting).value n s).2 := by
  obtain ⟨locals, lower, rfl, hframes⟩ := h.frame
  cases depth with
  | zero => exact h
  | succ depth =>
    have hsame := (scope_hygiene setting depth s).2.2.2.2.2 false n
    rw [hframes] at hsame
    obtain ⟨g, rest, hg, -⟩ := hsame.cons
    have hbare := hsame.frames
    have hlocals := hsame.locals 0 id
    rw [hg] at hbare hlocals
    simp only [List.map_cons, List.cons.injEq, List.getElem?_cons_zero, Option.map_some,
      Option.some.injEq] at hbare hlocals
    rw [← frame_of_bare hbare.1 hlocals rfl] at hg
    exact .of_frame hg

/-! ### Parameters from left to right -/

/-- How the binding of parameters ends: all have values, or one has neither a value nor a default,
    or a default has halted. -/
inductive Ending where
  | bound (values : List (String × Value))
  | lacking (p : Param)
  | halted (h : Halt)

/-- The error that a parameter has neither a value nor a default. -/
def missingError (fullName : String) (p : Param) : RuntimeError :=
  .macroArgument fullName s!"missing required argument '{p.name}'" (some p.name)

/-- What runs once the binding has ended. The body does so where all parameters are bound. -/
def Ending.run (fullName : String) (body : Render Unit) : Ending → Render Unit
  | .bound _ => body
  | .lacking p => raise (missingError fullName p)
  | .halted h => halt h

/-- How the parameters of a macro are bound from left to right. One that is given a value is bound
    to it, and any other to what its default evaluates to where the parameters before it, and
    nothing else, are visible. -/
inductive Binds (calls : Calls) (owner : Template) (m : Macro) (given : String → Option Value) :
    List Param → List (String × Value) → RenderState → Ending → RenderState → Prop
  | done {known : List (String × Value)} {s : RenderState} (hs : Scoped owner m known s) :
    Binds calls owner m given [] known s (.bound known) s
  | given {p : Param} {ps : List Param} {known : List (String × Value)} {s t w : RenderState}
      {v : Value} {ending : Ending} (hs : Scoped owner m known s) (hv : given p.name = some v)
      (hassign : assign p.name v s = (.ok (), t))
      (hrest : Binds calls owner m given ps (known ++ [(p.name, v)]) t ending w) :
    Binds calls owner m given (p :: ps) known s ending w
  | default {p : Param} {ps : List Param} {known : List (String × Value)} {s t u w : RenderState}
      {n : Node} {v : Value} {ending : Ending} (hs : Scoped owner m known s)
      (hnone : given p.name = none) (hdefault : p.default = some n)
      (hvalue : calls.value n s = (.ok v, t)) (hassign : assign p.name v t = (.ok (), u))
      (hrest : Binds calls owner m given ps (known ++ [(p.name, v)]) u ending w) :
    Binds calls owner m given (p :: ps) known s ending w
  | halted {p : Param} {ps : List Param} {known : List (String × Value)} {s t : RenderState}
      {n : Node} {h : Halt} (hs : Scoped owner m known s) (hnone : given p.name = none)
      (hdefault : p.default = some n) (hvalue : calls.value n s = (.error h, t)) :
    Binds calls owner m given (p :: ps) known s (.halted h) t
  | lacking {p : Param} {ps : List Param} {known : List (String × Value)} {s : RenderState}
      (hs : Scoped owner m known s) (hnone : given p.name = none) (hdefault : p.default = none) :
    Binds calls owner m given (p :: ps) known s (.lacking p) s

section

variable {setting : Setting} {depth : Nat} {given : String → Option Value}

/-- Parameters of distinct names are bound in one of these ways. -/
theorem exists_binds : ∀ {ps : List Param} {known : List (String × Value)} {s : RenderState},
    (known.map Prod.fst ++ ps.map Param.name).Nodup → Scoped owner m known s →
    ∃ ending w, Binds (calls depth setting) owner m given ps known s ending w
  | [], known, s, _, hs => ⟨_, _, .done hs⟩
  | p :: ps, known, s, hnames, hs => by
    have hnew : p.name ∉ known.map Prod.fst := fun h =>
      (List.nodup_append.1 hnames).2.2 _ h _ (List.mem_cons_self ..) rfl
    have hrest (v : Value) :
        ((known ++ [(p.name, v)]).map Prod.fst ++ ps.map Param.name).Nodup := by
      simpa using hnames
    cases hv : given p.name with
    | some v =>
      obtain ⟨t, hassign, ht⟩ := hs.assign hnew v
      obtain ⟨ending, w, h⟩ := exists_binds (hrest v) ht
      exact ⟨ending, w, .given hs hv hassign h⟩
    | none =>
      cases hdefault : p.default with
      | none => exact ⟨_, _, .lacking hs hv hdefault⟩
      | some n =>
        have ht := hs.value setting depth n
        cases hvalue : (calls depth setting).value n s with
        | mk r t =>
          rw [hvalue] at ht
          cases r with
          | error h => exact ⟨_, _, .halted hs hv hdefault hvalue⟩
          | ok v =>
            obtain ⟨u, hassign, hu⟩ := ht.assign hnew v
            obtain ⟨ending, w, h⟩ := exists_binds (hrest v) hu
            exact ⟨ending, w, .default hs hv hdefault hvalue hassign h⟩

/-- When all parameters are bound, their names, and nothing else, are visible. -/
theorem Binds.scoped {calls : Calls} {ps : List Param} {ending : Ending}
    (h : Binds calls owner m given ps known s ending w) {values : List (String × Value)}
    (hbound : ending = .bound values) :
    values.map Prod.fst = known.map Prod.fst ++ ps.map Param.name ∧ Scoped owner m values w := by
  induction h with
  | done hs =>
    cases hbound
    exact ⟨by simp, hs⟩
  | given _ _ _ _ ih | default _ _ _ _ _ _ ih =>
    obtain ⟨hnames, hw⟩ := ih hbound
    exact ⟨by simpa using hnames, hw⟩
  | halted | lacking => cases hbound

/-- The binding of parameters ends as described. -/
theorem assignParams_of_binds {calls : Calls} {bound : List (String × Value)}
    (hgiven : ∀ name, bound.lookup name = given name) {ps : List Param} {ending : Ending}
    (h : Binds calls owner m given ps known s ending w) :
    assignParams calls fullName bound ps s = ending.run fullName (done ()) w := by
  induction h with
  | done _ => rfl
  | given _ hv hassign _ ih =>
    rw [assignParams, hgiven, hv]
    exact (bind_of_done hassign).trans ih
  | default _ hnone hdefault hvalue hassign _ ih =>
    rw [assignParams, hgiven, hnone, hdefault]
    exact (bind_of_done hvalue).trans ((bind_of_done hassign).trans ih)
  | halted _ hnone hdefault hvalue =>
    rw [assignParams, hgiven, hnone, hdefault]
    exact bind_of_error hvalue
  | lacking _ hnone hdefault =>
    rw [assignParams, hgiven, hnone, hdefault]
    rfl

theorem assignParams_bind_of_binds {calls : Calls} {bound : List (String × Value)}
    (hgiven : ∀ name, bound.lookup name = given name) {ps : List Param} {ending : Ending}
    (h : Binds calls owner m given ps known s ending w) (body : Render Unit) :
    (assignParams calls fullName bound ps >>= fun _ => body) s = ending.run fullName body w := by
  have hparams : assignParams calls fullName bound ps s = ending.run fullName (done ()) w :=
    assignParams_of_binds hgiven h
  cases ending with
  | bound _ => exact bind_of_done hparams
  | lacking _ | halted _ => exact bind_of_error hparams

/-- The binding of parameters ends on the level on which it began. -/
theorem Binds.level {bound : List (String × Value)}
    (hgiven : ∀ name, bound.lookup name = given name) {ps : List Param} {ending : Ending}
    (h : Binds (calls depth setting) owner m given ps known s ending w) : w.level = s.level := by
  have hkept : (assignParams (calls depth setting) "" bound ps s).2.level = s.level := by
    obtain ⟨-, hvalue⟩ := (Levels.kept.simulation setting).calls depth
    exact level_of_rel ((Levels.kept.simulation setting).assignParams
      (Levels.kept.simulation setting).assign (fun _ _ => trivial) ps
      fun _ _ n _ => hvalue n fun _ _ => trivial) s
  rw [assignParams_of_binds hgiven h] at hkept
  cases ending <;> exact hkept

end

/-! ### The code of a call -/

/-- The state in which the code of a call begins. -/
def begunCall (owner : Template) (m : Macro) (outer : Location) (s : RenderState) : RenderState :=
  { s with
    stack := { s.stack with
      frames := .call m.name owner :: s.stack.frames
      macroDepth := s.stack.macroDepth + 1 }
    place := some (outer.enter owner.name)
    sink := .buffer
    chunks := [] }

/-- The scope, the place and the buffer of a call are left with what its code has ended with. -/
def returning (owner : Template) (m : Macro) (code : Except Halt Unit × RenderState) :
    Render Value := do
  let text ← inScope (.call m.name owner) (inTemplate owner.name (captured fun _ => code))
  return .markup text

theorem scoped_begunCall (owner : Template) (m : Macro) (outer : Location) (s : RenderState) :
    Scoped owner m [] (begunCall owner m outer s) :=
  @Scoped.of_frame owner m _ .empty s.stack.frames rfl

theorem push_call (hlimit : (s.stack.macroDepth : Int) < s.stack.limit) :
    s.stack.push (.call m.name owner) = .ok { s.stack with
      frames := .call m.name owner :: s.stack.frames
      macroDepth := s.stack.macroDepth + 1 } := by
  have hroom : ¬s.stack.limit ≤ (s.stack.macroDepth : Int) := by omega
  simp [CallStack.push, Frame.call, FrameKind.isCall, hroom]

/-- Below the limit, the code of a call runs in a scope without any names. -/
theorem runMacro_eq_returning {calls : Calls} {bound : List (String × Value)} {outer : Location}
    (hlimit : (s.stack.macroDepth : Int) < s.stack.limit) (hplace : s.place = some outer) :
    runMacro calls owner m fullName bound s =
      returning owner m ((assignParams calls fullName bound m.params >>= fun _ => calls.body m.body)
        (begunCall owner m outer s)) s := by
  have htext : inScope (.call m.name owner) (inTemplate owner.name (captured (do
        assignParams calls fullName bound m.params
        calls.body m.body))) s =
      inScope (.call m.name owner) (inTemplate owner.name (captured fun _ =>
        (assignParams calls fullName bound m.params >>= fun _ => calls.body m.body)
          (begunCall owner m outer s))) s := by
    simp only [Render.inScope, push_call hlimit, ensuring, inTemplate, hplace, captured]
    rfl
  change andThen _ _ s = andThen _ _ s
  unfold andThen
  rw [htext]

/-- An error of the code of a call gets the place at which it was raised. -/
theorem returning_error {outer here : Location} {h : Halt}
    (hlimit : (s.stack.macroDepth : Int) < s.stack.limit) (hplace : s.place = some outer)
    (hhere : w.place = some here) :
    (returning owner m (.error h, w) s).1 = .error (located here h) := by
  have htext : (inScope (.call m.name owner)
      (inTemplate owner.name (captured fun _ => (.error h, w))) s).1 = .error (located here h) := by
    simp only [Render.inScope, push_call hlimit, ensuring, inTemplate, hplace, captured, hhere]
    rfl
  exact congrArg Prod.fst (bind_of_error (Prod.ext htext rfl))

/-- Outside of a render no code of a call runs. -/
theorem runMacro_of_no_place {calls : Calls} {bound : List (String × Value)}
    (hlimit : (s.stack.macroDepth : Int) < s.stack.limit) (hplace : s.place = none) :
    runMacro calls owner m fullName bound s = (.error (.runtime outside), s) := by
  refine bind_of_error ?_
  simp only [Render.inScope, push_call hlimit, ensuring, inTemplate, hplace]
  rw [← hplace]
  rfl

/-! ### Arguments where no request waits -/

section

variable {setting : Setting} {depth : Nat}

/-- What an expression evaluates to. -/
def valueIn (setting : Setting) (depth : Nat) (s : RenderState) (n : Node) : Value :=
  (eval (linked (calls depth setting) setting) setting false n s).1.toOption.getD .undefined

/-- An expression that evaluates, and leaves the state as it was. -/
def Evaluates (setting : Setting) (depth : Nat) (s : RenderState) (n : Node) : Prop :=
  eval (linked (calls depth setting) setting) setting false n s =
    (.ok (valueIn setting depth s n), s)

theorem evaluates_of_eq_done {n : Node} {v : Value} (hs : s.pending = false)
    (h : eval (linked (calls depth setting) setting) setting false n s = (.ok v, t)) :
    s = t ∧ v = valueIn setting depth s n ∧ Evaluates setting depth s n := by
  have hpure := eval_pure hs (congrArg Prod.fst h)
  have hv : valueIn setting depth s n = v := by
    rw [valueIn, h]
    rfl
  exact ⟨(Prod.mk.inj (hpure.symm.trans h)).2, hv.symm, hpure.trans (by rw [hv])⟩

theorem all_eq_done (hs : s.pending = false) : ∀ {ns : List Node} {vs : List Value}
    {t : RenderState},
    all (evalEach (linked (calls depth setting) setting) setting false ns) s = (.ok vs, t) →
    s = t ∧ vs = ns.map (valueIn setting depth s) ∧ ∀ n ∈ ns, Evaluates setting depth s n
  | [], vs, _, h => by
    cases h
    exact ⟨rfl, rfl, by simp⟩
  | n :: rest, vs, _, h => by
    rw [evalEach, all] at h
    obtain ⟨v, u, hv, h⟩ := bind_eq_done h
    obtain ⟨rfl, rfl, hn⟩ := evaluates_of_eq_done hs hv
    obtain ⟨more, w, hmore, h⟩ := bind_eq_done h
    obtain ⟨rfl, rfl, hrest⟩ := all_eq_done hs hmore
    cases h
    exact ⟨rfl, rfl, List.forall_mem_cons.2 ⟨hn, hrest⟩⟩

theorem all_of_evaluates : ∀ {ns : List Node}, (∀ n ∈ ns, Evaluates setting depth s n) →
    all (evalEach (linked (calls depth setting) setting) setting false ns) s =
      (.ok (ns.map (valueIn setting depth s)), s)
  | [], _ => rfl
  | n :: rest, h => by
    rw [List.forall_mem_cons] at h
    rw [evalEach, all, bind_of_done h.1, bind_of_done (all_of_evaluates h.2)]
    rfl

theorem allNamed_eq_done (hs : s.pending = false) : ∀ {named : List (String × Node)}
    {ns : List (String × Value)} {t : RenderState},
    allNamed (evalNamed (linked (calls depth setting) setting) setting named) s = (.ok ns, t) →
    s = t ∧ ns = named.map (Prod.map id (valueIn setting depth s)) ∧
      ∀ a ∈ named, Evaluates setting depth s a.2
  | [], ns, _, h => by
    cases h
    exact ⟨rfl, rfl, by simp⟩
  | (name, n) :: rest, ns, _, h => by
    rw [evalNamed, allNamed] at h
    obtain ⟨v, u, hv, h⟩ := bind_eq_done h
    obtain ⟨rfl, rfl, hn⟩ := evaluates_of_eq_done hs hv
    obtain ⟨more, w, hmore, h⟩ := bind_eq_done h
    obtain ⟨rfl, rfl, hrest⟩ := allNamed_eq_done hs hmore
    cases h
    exact ⟨rfl, rfl, List.forall_mem_cons.2 ⟨hn, hrest⟩⟩

theorem allNamed_of_evaluates : ∀ {named : List (String × Node)},
    (∀ a ∈ named, Evaluates setting depth s a.2) →
    allNamed (evalNamed (linked (calls depth setting) setting) setting named) s =
      (.ok (named.map (Prod.map id (valueIn setting depth s))), s)
  | [], _ => rfl
  | (name, n) :: rest, h => by
    rw [List.forall_mem_cons] at h
    rw [evalNamed, allNamed, bind_of_done h.1, bind_of_done (allNamed_of_evaluates h.2)]
    rfl

/-- Where no request waits, a call leaves the state as it was until its macro runs. -/
theorem callee_eq_done {space name : String} {args : List Node} {named : List (String × Node)}
    {found : Template × Macro} {vs : List Value} {ns : List (String × Value)}
    (hs : s.pending = false)
    (h : callee (linked (calls depth setting) setting) setting space name args named s =
      (.ok (found, vs, ns), t)) :
    s = t ∧ findMacro setting space name s = (.ok found, s) ∧
      vs = args.map (valueIn setting depth s) ∧
      ns = named.map (Prod.map id (valueIn setting depth s)) ∧
      (∀ n ∈ args, Evaluates setting depth s n) ∧ ∀ a ∈ named, Evaluates setting depth s a.2 := by
  obtain ⟨_, u, hfind, h⟩ := bind_eq_done h
  obtain ⟨_, u', hargs, h⟩ := bind_eq_done h
  obtain ⟨_, u'', hnamed, h⟩ := bind_eq_done h
  cases h
  have hpure : findMacro setting space name s = (.ok found, s) :=
    Resting.eq_done ((Resting.lookups setting).findMacro space name) hs (congrArg Prod.fst hfind)
  obtain rfl : s = u := (Prod.mk.inj (hpure.symm.trans hfind)).2
  obtain ⟨rfl, rfl, hall⟩ := all_eq_done hs hargs
  obtain ⟨rfl, rfl, hallNamed⟩ := allNamed_eq_done hs hnamed
  exact ⟨rfl, hpure, rfl, rfl, hall, hallNamed⟩

theorem callee_of_evaluates {space name : String} {args : List Node} {named : List (String × Node)}
    {found : Template × Macro} (hfind : findMacro setting space name s = (.ok found, s))
    (hargs : ∀ n ∈ args, Evaluates setting depth s n)
    (hnamed : ∀ a ∈ named, Evaluates setting depth s a.2) :
    callee (linked (calls depth setting) setting) setting space name args named s =
      (.ok (found, args.map (valueIn setting depth s),
        named.map (Prod.map id (valueIn setting depth s))), s) := by
  unfold callee
  have hlinked : (linked (calls depth setting) setting).findMacro space name s = (.ok found, s) :=
    hfind
  rw [bind_of_done hlinked, bind_of_done (all_of_evaluates hargs),
    bind_of_done (allNamed_of_evaluates hnamed)]
  rfl

theorem assignParams_congr {calls : Calls} {b c : List (String × Value)}
    (h : ∀ name, b.lookup name = c.lookup name) : ∀ ps : List Param,
    assignParams calls fullName b ps = assignParams calls fullName c ps
  | [] => rfl
  | p :: ps => by rw [assignParams, assignParams, h, assignParams_congr h ps]

/-- A macro runs alike for bindings that give the same values. -/
theorem runMacro_congr {calls : Calls} {b c : List (String × Value)}
    (h : ∀ name, b.lookup name = c.lookup name) :
    runMacro calls owner m fullName b = runMacro calls owner m fullName c := by
  unfold runMacro
  rw [assignParams_congr h]

/-- Where no request waits, the last positional arguments of a call may be given by name. -/
theorem eval_suffix {lenient : Bool} {p : Pos} {space name : String} {front back : List Node}
    {named keys : List (String × Node)} {vs : List Value} {ns : List (String × Value)}
    (hs : s.pending = false)
    (h : callee (linked (calls depth setting) setting) setting space name (front ++ back) named s =
      (.ok ((owner, m), vs, ns), t))
    (hnames : (m.params.map Param.name).Nodup)
    (hlength : (front ++ back).length ≤ (m.params.map Param.name).length)
    (horder : named.Sublist keys ∨ ∀ a ∈ ns, ¬Misplaced (m.params.map Param.name) vs a.1)
    (hperm : keys.Perm (named ++ ((m.params.map Param.name).drop front.length).zip back))
    (hkeys : (keys.map Prod.fst).Nodup) :
    eval (linked (calls depth setting) setting) setting lenient
        (.macroCall p space name front keys) s =
      eval (linked (calls depth setting) setting) setting lenient
        (.macroCall p space name (front ++ back) named) s := by
  obtain ⟨rfl, hfind, rfl, rfl, hargs, hnamed⟩ := callee_eq_done hs h
  have hkeyed : ∀ a ∈ keys, Evaluates setting depth s a.2 := by
    intro a ha
    rcases List.mem_append.1 (hperm.subset ha) with ha | ha
    · exact hnamed a ha
    · exact hargs a.2 (List.mem_append_right _ (List.of_mem_zip ha).2)
  have h' := callee_of_evaluates hfind (fun n hn => hargs n (List.mem_append_left _ hn)) hkeyed
  rw [eval_macroCall h', eval_macroCall h, List.map_append]
  have hperm' : (keys.map (Prod.map id (valueIn setting depth s))).Perm
      (named.map (Prod.map id (valueIn setting depth s)) ++
        ((m.params.map Param.name).drop (front.map (valueIn setting depth s)).length).zip
          (back.map (valueIn setting depth s))) := by
    rw [List.length_map, List.zip_map_right, ← List.map_append]
    exact hperm.map _
  have horder' := horder.imp_left (List.Sublist.map (Prod.map id (valueIn setting depth s)))
  rw [List.map_append] at horder'
  rcases bindArguments_append_back (space ++ "::" ++ name) rfl hnames (by simpa using hlength)
      horder' hperm' (by simpa [Function.comp_def] using hkeys) with
    ⟨e, he, he'⟩ | ⟨b, c, hb, hc, hbc⟩
  · rw [he, he']
  · rw [hb, hc]
    exact congrFun (runMacro_congr hbc) s

end

/-! ### Calls -/

theorem allNamed_names {α : Type} : ∀ {ms : List (String × Render α)} {vs : List (String × α)}
    {s t : RenderState}, allNamed ms s = (.ok vs, t) → vs.map Prod.fst = ms.map Prod.fst
  | [], _, _, _, h => by
    cases h
    rfl
  | (name, m) :: rest, _, _, _, h => by
    obtain ⟨v, u, -, h⟩ := bind_eq_done h
    obtain ⟨more, w, hmore, h⟩ := bind_eq_done h
    cases h
    rw [List.map_cons, List.map_cons, allNamed_names hmore]

theorem evalNamed_names (links : Links) (setting : Setting) : ∀ named : List (String × Node),
    (evalNamed links setting named).map Prod.fst = named.map Prod.fst
  | [] => rfl
  | (name, n) :: rest => by
    rw [evalNamed, List.map_cons, List.map_cons, evalNamed_names links setting rest]

/-- The values of the keywords are under their names. -/
theorem callee_names {links : Links} {setting : Setting} {space name : String} {args : List Node}
    {named : List (String × Node)} {found : Template × Macro} {ns : List (String × Value)}
    (h : callee links setting space name args named s = (.ok (found, vs, ns), t)) :
    ns.map Prod.fst = named.map Prod.fst := by
  obtain ⟨_, s₁, -, h⟩ := bind_eq_done h
  obtain ⟨_, s₂, -, h⟩ := bind_eq_done h
  obtain ⟨_, s₃, hnamed, h⟩ := bind_eq_done h
  cases h
  exact (allNamed_names hnamed).trans (evalNamed_names links setting named)

/-- A macro with values for its parameters binds them in a scope of its own, then its body runs. -/
theorem exists_binds_runMacro {setting : Setting} {depth : Nat} {given : String → Option Value}
    {bound : List (String × Value)} {outer : Location} (fullName : String)
    (hgiven : ∀ name, bound.lookup name = given name) (hnames : (m.params.map Param.name).Nodup)
    (hlimit : (s.stack.macroDepth : Int) < s.stack.limit) (hplace : s.place = some outer) :
    ∃ ending w here,
      Binds (calls depth setting) owner m given m.params [] (begunCall owner m outer s) ending w ∧
      w.place = some here ∧ here.unlined = outer.enter owner.name ∧
      runMacro (calls depth setting) owner m fullName bound s =
        returning owner m (ending.run fullName ((calls depth setting).body m.body) w) s := by
  obtain ⟨ending, w, hbinds⟩ : ∃ ending w, Binds (calls depth setting) owner m given m.params []
      (begunCall owner m outer s) ending w :=
    exists_binds (by simpa using hnames) (scoped_begunCall owner m outer s)
  obtain ⟨here, hhere, hunlined⟩ := Option.map_eq_some_iff.1
    (congrArg Level.place (hbinds.level hgiven) : w.place.map _ = some (outer.enter owner.name))
  refine ⟨ending, w, here, hbinds, hhere, hunlined, ?_⟩
  rw [runMacro_eq_returning hlimit hplace, assignParams_bind_of_binds hgiven hbinds]

/-- Arguments are bound exactly. Below the limit, a call whose arguments evaluate is refused where
    there are too many of them, and else for the first keyword that is misplaced. If there is none,
    its parameters are bound from left to right in a scope of their own, and the call is refused for
    the first of them that has neither a value nor a default. Where no request waits, the last
    positional arguments may as well be given by name, in any order. -/
theorem arguments_bound_exactly {setting : Setting} {depth : Nat} {lenient : Bool} {p : Pos}
    {space name : String} {args : List Node} {named : List (String × Node)} {owner : Template}
    {m : Macro} {vs : List Value} {ns : List (String × Value)} {s₀ s : RenderState}
    (hcallee : callee (linked (calls depth setting) setting) setting space name args named s₀ =
      (.ok ((owner, m), vs, ns), s))
    (hnames : (m.params.map Param.name).Nodup) (hkeys : (named.map Prod.fst).Nodup)
    (hlimit : (s.stack.macroDepth : Int) < s.stack.limit) :
    let names := m.params.map Param.name
    let fullName := space ++ "::" ++ name
    let call (args : List Node) (named : List (String × Node)) :=
      eval (linked (calls depth setting) setting) setting lenient
        (.macroCall p space name args named) s₀
    (names.length < vs.length → call args named =
      (.error (.runtime (.macroArgument fullName
        s!"takes {names.length} arguments but {vs.length} were given" none)), s)) ∧
    (vs.length ≤ names.length →
      (∀ a, ns.find? (fun a => Misplaced names vs a.1) = some a →
        call args named = (.error (.runtime (misplacedError fullName names a.1)), s)) ∧
      ((∀ a ∈ ns, ¬Misplaced names vs a.1) →
        (s.place = none → call args named = (.error (.runtime outside), s)) ∧
        ∀ outer, s.place = some outer → ∃ ending w here,
          Binds (calls depth setting) owner m (givenFor names vs ns) m.params []
            (begunCall owner m outer s) ending w ∧
          w.place = some here ∧ here.unlined = outer.enter owner.name ∧
          call args named =
            returning owner m (ending.run fullName ((calls depth setting).body m.body) w) s ∧
          match ending with
          | .bound values => values.map Prod.fst = names ∧ Scoped owner m values w
          | .lacking q => (call args named).1 =
              .error (located here (.runtime (missingError fullName q)))
          | .halted h => (call args named).1 = .error (located here h))) ∧
    (s₀.pending = false → ∀ front back keys, args = front ++ back → args.length ≤ names.length →
      (named.Sublist keys ∨ ∀ a ∈ ns, ¬Misplaced names vs a.1) →
      keys.Perm (named ++ (names.drop front.length).zip back) → (keys.map Prod.fst).Nodup →
      call front keys = call args named) := by
  intro names fullName call
  have hcall : call args named =
      (ofRuntime (bindArguments fullName m.params vs ns) >>= fun bound =>
        runMacro (calls depth setting) owner m fullName bound) s := eval_macroCall hcallee
  have hns : (ns.map Prod.fst).Nodup := by rwa [callee_names hcallee]
  refine ⟨fun hmany => ?_, fun hlength => ⟨fun a ha => ?_, fun hfits => ?_⟩,
    fun hs front back keys hargs hlength horder hperm hkeys => ?_⟩
  · rw [hcall, bindArguments_eq rfl hns, if_pos hmany]
    rfl
  · rw [hcall, bindArguments_eq rfl hns, if_neg (Nat.not_lt.2 hlength), ha]
    rfl
  · obtain ⟨bound, hbound, hgiven⟩ := exists_bindArguments fullName rfl hnames hns hlength hfits
    have hrun : call args named = runMacro (calls depth setting) owner m fullName bound s := by
      rw [hcall, hbound]
      rfl
    refine ⟨fun hplace => hrun.trans (runMacro_of_no_place hlimit hplace), fun outer hplace => ?_⟩
    obtain ⟨ending, w, here, hbinds, hhere, hunlined, hreturns⟩ :=
      exists_binds_runMacro fullName hgiven hnames hlimit hplace
    have hresult := hrun.trans hreturns
    refine ⟨ending, w, here, hbinds, hhere, hunlined, hresult, ?_⟩
    cases ending with
    | bound values => exact hbinds.scoped rfl
    | lacking q | halted h =>
      rw [hresult]
      exact returning_error hlimit hplace hhere
  · subst hargs
    exact eval_suffix hs hcallee hnames hlength horder hperm hkeys

/-- A macro with a default that refers to the parameter before it. -/
def spread : Macro :=
  { name := "spread"
    params := [⟨"x", none⟩, ⟨"y", some (.name {} "x")⟩, ⟨"z", none⟩]
    body := [.output {} (.name {} "x"), .output {} (.name {} "y"), .output {} (.name {} "z")] }

/-- A template with the macro. -/
def spreads : Template :=
  { name := "spread.txt", document := {}, macros := Table.ofList [("spread", spread)] }

/-- A state in which the template runs. -/
def spreading : RenderState :=
  { stack := { frames := [.root spreads] }, targets := [spreads], place := some {} }

/-- A call of the macro from the template. -/
def spreadOver (args : List Value) (named : List (String × Value)) :
    Except Halt Value × RenderState :=
  eval (linked (calls 2 solitary) solitary) solitary false
    (.macroCall {} "self" "spread" (args.map (.const {})) (named.map fun a => (a.1, .const {} a.2)))
    spreading

theorem arguments_bound_exactly_spread :
    (∃ ending w here,
      Binds (calls 2 solitary) spreads spread (givenFor ["x", "y", "z"] [.int 1] [("z", .int 3)])
        spread.params [] (begunCall spreads spread {} spreading) ending w ∧
      w.place = some here ∧ here.unlined = Location.enter {} "spread.txt") ∧
    spreadOver [] [("z", .int 3), ("x", .int 1)] = spreadOver [.int 1] [("z", .int 3)] := by
  have hfind : findMacro solitary "self" "spread" spreading =
    (.ok (spreads, spread), spreading) := rfl
  have hcallee : callee (linked (calls 2 solitary) solitary) solitary "self" "spread"
      [.const {} (.int 1)] [("z", .const {} (.int 3))] spreading =
        (.ok ((spreads, spread), [.int 1], [("z", .int 3)]), spreading) :=
    callee_const hfind {} [.int 1] [("z", .int 3)]
  obtain ⟨-, hfits, hnamed⟩ := @arguments_bound_exactly solitary 2 false {} _ _ _ _ _ _ _ _ _ _
    hcallee (by decide) (by decide) (by decide)
  obtain ⟨ending, w, here, hbinds, hhere, hunlined, -⟩ :=
    ((hfits (by decide)).2 (by decide)).2 {} rfl
  refine ⟨⟨ending, w, here, hbinds, hhere, hunlined⟩, ?_⟩
  exact hnamed rfl [] [.const {} (.int 1)] [("z", .const {} (.int 3)), ("x", .const {} (.int 1))]
    rfl (by decide) (.inl (by simp)) (List.Perm.refl _) (by decide)

example : (spreadOver [.int 1] [("z", .int 3)]).1.toOption.bind Value.text? = some "113" := by
  decide +kernel

end Render

namespace Environment

open Render

/-- A page whose loop puts the text of a macro of two parameters in place of a captured one, and
    then is left. The arguments are texts of two further macros, and only the first of these has a
    loop. -/
def pairing (args : List Node) (named : List (String × Node)) : Environment :=
  let one : Node := .list {} [.const {} (.int 1)]
  (perform (withBuiltins {} {}) (.addTemplate "page.txt"
    { body :=
        [.macroDef {} "f" [.param {} "x" none, .param {} "y" none]
          [.output {} (.name {} "x"), .output {} (.name {} "y")],
         .macroDef {} "a" [] [.loop {} "i" one [.data {} "a"] [] none none],
         .macroDef {} "b" [] [.data {} "1", .data {} "2"],
         .loop {} "i" one
          [.filterBlock {} "replace" [.data {} "z", .leave {}] []
            [("from", .const {} (.text "z")), ("to", .macroCall {} "self" "f" args named)]]
          [] none none] } none)).2

/-- What the page writes. -/
def paired (args : List Node) (named : List (String × Node)) : Option String :=
  ((pairing args named).templates.get? "page.txt").bind fun t =>
    ((pairing args named).render t {}).toOption

/-- While a request waits, it matters which of two arguments is evaluated first: a loop in it takes
    the request, and before that a body stops after its first statement. -/
theorem keywords_not_as_positions :
    paired [.macroCall {} "self" "a" [] [], .macroCall {} "self" "b" [] []] [] = some "a12" ∧
    paired [] [("y", .macroCall {} "self" "b" [] []), ("x", .macroCall {} "self" "a" [] [])] =
      some "a1" := by
  constructor
  · decide +kernel
  · decide +kernel

end Environment

end Stencil
