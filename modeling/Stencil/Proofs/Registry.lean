import Stencil.Proofs.History
import Stencil.Proofs.Passing

/-! Registries. Whatever was registered, and in which of the ways that a host has for it, every entry
    stands under its own name. What is registered singly is looked at first, so that it can be
    called; what comes in a batch is not, and this is the only way for something inert to get in. The
    step lemma says all that an operation can do to a registry; the run lemma is by induction on
    the history. A registration that is refused changes nothing. -/

namespace Stencil.Environment

variable {inert : CapabilityKind → String → Prop} {env next other : Environment}

/-! ### Ways to register -/

/-- A decorator at work: its answer, and the environment that it leaves behind. -/
def decorating (env : Environment) (kind : CapabilityKind) (name : Option String) (offer : Offer)
    (safe : Bool) : Except Fault Unit × Environment :=
  match env.decorate kind name offer safe with
  | .ok next => (.ok (), next)
  | .error f => (.error f, env)

/-- The environments that come about by operations and decorators, beginning without capabilities or
    with the built-in ones. `inert` holds of the names under which a batch had something that
    cannot be called, here or in an environment that is taken over. -/
inductive Equipped (inert : CapabilityKind → String → Prop) : Environment → Prop
  | bare {env : Environment} (h : ∀ kind, env.registry kind = .empty) : Equipped inert env
  | builtin (env : Environment) (host : Host) : Equipped inert (env.withBuiltins host)
  | after {env : Environment} {op : Operation} (h : Equipped inert env)
      (hother : ∀ other, op = .extend other → Equipped inert other)
      (hbatch : ∀ kind entries, op = .update kind entries → ∀ e ∈ entries, e.2 = none →
        inert kind e.1) : Equipped inert (env.perform op).2
  | decorated {env : Environment} (kind : CapabilityKind) (name : Option String) (offer : Offer)
      (safe : Bool) (h : Equipped inert env) :
      Equipped inert (env.decorating kind name offer safe).2

/-- What a registry may hold under a name. -/
structure Entered (inert : CapabilityKind → String → Prop) (kind : CapabilityKind) (name : String)
    (c : Capability) : Prop where
  name_eq : c.name = name
  callable : c.isCallable = true ∨ inert kind name ∧ c.safe = false

/-- All entries of the registries are as they should be. -/
def WellKept (inert : CapabilityKind → String → Prop) (env : Environment) : Prop :=
  ∀ kind name c, (env.registry kind).get? name = some c → Entered inert kind name c

/-! ### One step -/

theorem registry_setRegistry (env : Environment) (kind k : CapabilityKind) (cs : Table Capability) :
    (env.setRegistry kind cs).registry k = if k = kind then cs else env.registry k := by
  cases kind <;> cases k <;> rfl

theorem register_of_callable {kind : CapabilityKind} {c : Capability} (h : c.isCallable = true) :
    env.register kind c =
      .ok (env.setRegistry kind ((env.registry kind).insert c.name c)) := by
  rw [register, if_pos h]

theorem register_of_inert {kind : CapabilityKind} {c : Capability} (h : c.isCallable = false) :
    env.register kind c =
      .error (.misuse (.notCallable (Text.titleFirst kind.name) c.name)) := by
  rw [register, h]
  rfl

theorem register_eq_ok {kind : CapabilityKind} {c : Capability} :
    env.register kind c = .ok next ↔ c.isCallable = true ∧
      next = env.setRegistry kind ((env.registry kind).insert c.name c) := by
  cases hc : c.isCallable with
  | true => rw [register_of_callable hc]; simp [eq_comm]
  | false => rw [register_of_inert hc]; simp

/-- The other environment's entries stay where this one has none of their names. -/
theorem registry_of_extend (h : env.extend other = .ok next) (kind : CapabilityKind) :
    next.registry kind = (other.registry kind).union (env.registry kind) := by
  simp only [extend, commit, bind_eq_ok, pure_eq_ok] at h
  obtain ⟨_, ⟨_, _, rfl⟩, rfl⟩ := h
  cases kind <;> rfl

/-- What an operation that succeeds does to the registries: it registers what can be called, or a
    batch, or takes over those of another environment, or leaves them alone. -/
theorem registry_of_result {op : Operation} {answer : String}
    (h : env.result op = .ok (answer, next)) :
    (∃ kind c, op = .register kind c ∧ c.isCallable = true ∧
      next = env.setRegistry kind ((env.registry kind).insert c.name c)) ∨
    (∃ kind entries, op = .update kind entries ∧ next = env.update kind entries) ∨
    (∃ other, op = .extend other ∧
      ∀ kind, next.registry kind = (other.registry kind).union (env.registry kind)) ∨
    ∀ kind, next.registry kind = env.registry kind := by
  cases op with
  | register kind c =>
    simp only [result, bind_eq_ok, pure_eq_ok, Prod.mk.injEq] at h
    obtain ⟨e, he, -, rfl⟩ := h
    cases hreg : env.register kind c with
    | error f => rw [hreg] at he; cases he
    | ok e' =>
      rw [hreg] at he
      cases he
      obtain ⟨hc, rfl⟩ := register_eq_ok.1 hreg
      exact .inl ⟨kind, c, rfl, hc, rfl⟩
  | update kind entries =>
    cases h
    exact .inr (.inl ⟨kind, entries, rfl, rfl⟩)
  | extend other =>
    simp only [result, bind_eq_ok, pure_eq_ok, Prod.mk.injEq] at h
    obtain ⟨e, he, -, rfl⟩ := h
    exact .inr (.inr (.inl ⟨other, rfl, registry_of_extend he⟩))
  | addTemplate name tree path =>
    simp only [result, addTemplate, commit, bind_eq_ok, pure_eq_ok, Prod.mk.injEq] at h
    obtain ⟨_, ⟨_, _, _, _, rfl⟩, -, rfl⟩ := h
    exact .inr (.inr (.inr fun kind => by cases kind <;> rfl))
  | addTemplates trees =>
    simp only [result, addTemplates, commit, bind_eq_ok, pure_eq_ok, Prod.mk.injEq] at h
    obtain ⟨_, ⟨_, _, _, _, rfl⟩, -, rfl⟩ := h
    exact .inr (.inr (.inr fun kind => by cases kind <;> rfl))
  | rebuild =>
    simp only [result, rebuild, bind_eq_ok, pure_eq_ok, Prod.mk.injEq] at h
    obtain ⟨_, ⟨_, _, rfl⟩, -, rfl⟩ := h
    exact .inr (.inr (.inr fun kind => by cases kind <;> rfl))
  | checkImports =>
    simp only [result, bind_eq_ok, pure_eq_ok, Prod.mk.injEq] at h
    obtain ⟨-, -, -, rfl⟩ := h
    exact .inr (.inr (.inr fun _ => rfl))
  | render name data | renderTree tree data | renderTo name data encoding refuses =>
    simp only [result, bind_eq_ok, pure_eq_ok, Prod.mk.injEq] at h
    obtain ⟨-, -, -, -, -, -, -, rfl⟩ := h
    exact .inr (.inr (.inr fun _ => rfl))

/-! ### What a step keeps -/

theorem entered_of_callable {kind : CapabilityKind} {c : Capability} (h : c.isCallable = true) :
    Entered inert kind c.name c := ⟨rfl, .inl h⟩

/-- Other capabilities of one kind that are as they should be. -/
theorem WellKept.setRegistry (h : WellKept inert env) {kind : CapabilityKind}
    {cs : Table Capability} (hcs : ∀ name c, cs.get? name = some c → Entered inert kind name c) :
    WellKept inert (env.setRegistry kind cs) := by
  intro k name c hc
  rw [registry_setRegistry] at hc
  split at hc
  · rename_i hk
    exact hk ▸ hcs name c hc
  · exact h k name c hc

theorem WellKept.insert (h : WellKept inert env) {kind : CapabilityKind} {c : Capability}
    (hc : Entered inert kind c.name c) :
    WellKept inert (env.setRegistry kind ((env.registry kind).insert c.name c)) := by
  refine h.setRegistry fun name d hd => ?_
  rw [Table.get?_insert] at hd
  split at hd
  · rename_i hname
    cases hd
    exact hname ▸ hc
  · exact h kind name d hd

theorem WellKept.register (h : WellKept inert env) {kind : CapabilityKind} {c : Capability}
    (hreg : env.register kind c = .ok next) : WellKept inert next := by
  obtain ⟨hc, rfl⟩ := register_eq_ok.1 hreg
  exact h.insert (entered_of_callable hc)

/-- A batch is put in one by one, so each of its entries is like one that is registered singly, but
    for what is inert. -/
theorem WellKept.update (h : WellKept inert env) {kind : CapabilityKind}
    {entries : List (String × Option Behaviour)}
    (hbatch : ∀ e ∈ entries, e.2 = none → inert kind e.1) :
    WellKept inert (env.update kind entries) := by
  -- each entry of the batch keeps the registry well kept
  have hfold : ∀ (entries : List (String × Option Behaviour)) (cs : Table Capability),
      (∀ e ∈ entries, e.2 = none → inert kind e.1) →
      (∀ name c, cs.get? name = some c → Entered inert kind name c) → ∀ name c,
      (entries.foldl (fun cs e => cs.insert e.1 { name := e.1, behaviour := e.2 }) cs).get? name =
        some c → Entered inert kind name c := by
    intro entries
    induction entries with
    | nil => exact fun cs _ hcs => hcs
    | cons e rest ih =>
      intro cs hall hcs
      rw [List.forall_mem_cons] at hall
      refine ih _ hall.2 fun name c hc => ?_
      rw [Table.get?_insert] at hc
      split at hc
      · rename_i hname
        cases hc
        refine ⟨hname.symm, ?_⟩
        cases hb : e.2 with
        | none => exact .inr ⟨hname ▸ hall.1 hb, rfl⟩
        | some f => exact .inl rfl
      · exact hcs name c hc
  exact h.setRegistry (hfold entries _ hbatch (h kind))

/-- In a union each entry comes from one of the two sides. -/
theorem WellKept.extend (h : WellKept inert env) (ho : WellKept inert other)
    (hnext : ∀ kind, next.registry kind = (other.registry kind).union (env.registry kind)) :
    WellKept inert next := by
  intro kind name c hc
  rw [hnext, Table.get?_union] at hc
  rcases Option.or_eq_some_iff.1 hc with hc | ⟨-, hc⟩
  · exact h kind name c hc
  · exact ho kind name c hc

theorem WellKept.perform (h : WellKept inert env) {op : Operation}
    (hother : ∀ other, op = .extend other → WellKept inert other)
    (hbatch : ∀ kind entries, op = .update kind entries → ∀ e ∈ entries, e.2 = none →
      inert kind e.1) : WellKept inert (env.perform op).2 := by
  unfold Environment.perform
  split
  · rename_i answer next hok
    rcases registry_of_result hok with
      ⟨kind, c, rfl, hc, rfl⟩ | ⟨kind, entries, rfl, rfl⟩ | ⟨other, rfl, hnext⟩ | hsame
    · exact h.insert (entered_of_callable hc)
    · exact h.update (hbatch kind entries rfl)
    · exact h.extend (hother other rfl) hnext
    · intro kind name c hc
      rw [hsame] at hc
      exact h kind name c hc
  · exact h

theorem WellKept.decorating (h : WellKept inert env) (kind : CapabilityKind) (name : Option String)
    (offer : Offer) (safe : Bool) : WellKept inert (env.decorating kind name offer safe).2 := by
  unfold Environment.decorating
  split
  · rename_i next hok
    unfold decorate at hok
    split at hok
    · exact h.register hok
    · cases hok
  · exact h

/-! ### Histories -/

/-- The built-in capabilities can all be called. -/
theorem wellKept_withBuiltins (env : Environment) (host : Host) :
    WellKept inert (env.withBuiltins host) := by
  have hall {entries : List (String × Behaviour)} {isSafe : String → Bool} {kind : CapabilityKind}
      {name : String} {c : Capability} (hc : (capabilities entries isSafe).get? name = some c) :
      Entered inert kind name c := by
    obtain ⟨f, -, rfl⟩ := Capability.mem_of_capabilities hc
    exact ⟨rfl, .inl rfl⟩
  intro kind name c hc
  cases kind with
  | filter => exact hall hc
  | test =>
    have hget : (capabilities Tester.behaviours fun _ => false).get? name = some c := hc
    exact hall hget
  | function =>
    have hget : (capabilities (Function.behaviours host) fun _ => false).get? name = some c := hc
    exact hall hget

/-- The run: by induction on its history, the registries of every environment are well kept. -/
theorem Equipped.wellKept (h : Equipped inert env) : WellKept inert env := by
  induction h with
  | bare h =>
    intro kind name c hc
    rw [h] at hc
    cases hc
  | builtin env host => exact wellKept_withBuiltins env host
  | after _ _ hbatch ih ihother => exact ih.perform ihother hbatch
  | decorated kind name offer safe _ ih => exact ih.decorating kind name offer safe

/-! ### Answers -/

/-- Something callable is registered under its name, and nothing else changes. -/
theorem perform_register_callable (env : Environment) (kind : CapabilityKind) {c : Capability}
    (hc : c.isCallable = true) : ∃ next, env.perform (.register kind c) = (.ok "", next) ∧
      ∀ k n, (next.registry k).get? n =
        if k = kind ∧ n = c.name then some c else (env.registry k).get? n := by
  refine ⟨_, by rw [perform, result, register_of_callable hc]; rfl, fun k n => ?_⟩
  rw [registry_setRegistry]
  by_cases hk : k = kind
  · subst hk
    simp
  · simp [hk]

/-- Something inert is refused by its type, and nothing changes. -/
theorem perform_register_inert (env : Environment) (kind : CapabilityKind) {c : Capability}
    (hc : c.isCallable = false) : ∃ f : Fault,
      env.perform (.register kind c) = (.error (.fault f), env) ∧ f.className = "TypeError" :=
  ⟨_, by rw [perform, result, register_of_inert hc]; rfl, rfl⟩

/-- A decorator refuses something inert by its type if it comes to know a name for it; where it does
    not, it fails before that. -/
theorem decorating_inert (env : Environment) (kind : CapabilityKind) (name : Option String)
    {offer : Offer} (safe : Bool) (h : offer.behaviour = none) : ∃ f : Fault,
      env.decorating kind name offer safe = (.error f, env) ∧
      f.className = if (offer.nameBy name).isSome then "TypeError" else "AttributeError" := by
  unfold decorating decorate
  cases offer.nameBy name with
  | none => exact ⟨_, rfl, rfl⟩
  | some n =>
    have hc : ({ name := n, behaviour := offer.behaviour, safe } : Capability).isCallable =
        false := by
      rw [h]
      rfl
    dsimp only
    rw [register_of_inert hc]
    exact ⟨_, rfl, rfl⟩

/-- Whatever the history of an environment, every entry of its registries stands under its own name,
    and it can be called unless a batch brought in something inert under that name, which is not
    marked safe; a lookup gives such entries alone. What can be called is registered under its name
    and changes nothing else. What is inert is refused by its type, also by a decorator that has a
    name for it, and changes nothing; a batch is not looked at and never refused. An operation that
    fails leaves the environment as it was. -/
theorem registries_well_kept (h : Equipped inert env) :
    (∀ kind name c, (env.registry kind).get? name = some c →
      c.name = name ∧ (c.isCallable = true ∨ inert kind name ∧ c.safe = false)) ∧
    (∀ kind name c, env.lookup kind name = .ok c → ¬inert kind name →
      c.name = name ∧ ∃ f, c.behaviour = some f) ∧
    (∀ kind c, c.isCallable = true → ∃ next, env.perform (.register kind c) = (.ok "", next) ∧
      ∀ k n, (next.registry k).get? n =
        if k = kind ∧ n = c.name then some c else (env.registry k).get? n) ∧
    (∀ kind c, c.isCallable = false → ∃ f : Fault,
      env.perform (.register kind c) = (.error (.fault f), env) ∧ f.className = "TypeError") ∧
    (∀ kind name offer safe, offer.behaviour = none → ∃ f : Fault,
      env.decorating kind name offer safe = (.error f, env) ∧
      f.className = if (offer.nameBy name).isSome then "TypeError" else "AttributeError") ∧
    (∀ kind entries, (env.perform (.update kind entries)).1 = .ok "") ∧
    ∀ op p, (env.perform op).1 = .error p → (env.perform op).2 = env := by
  refine ⟨fun kind name c hc => ?_, fun kind name c hc hnot => ?_,
    fun kind _ => perform_register_callable env kind, fun kind _ => perform_register_inert env kind,
    fun kind name _ safe => decorating_inert env kind name safe, fun _ _ => rfl,
    fun _ _ => perform_of_error⟩
  · obtain ⟨hname, hcall⟩ := h.wellKept kind name c hc
    exact ⟨hname, hcall⟩
  · obtain ⟨hname, hcall⟩ := h.wellKept kind name c (lookup_eq_ok hc)
    have hsome := hcall.resolve_right fun hinert => hnot hinert.1
    exact ⟨hname, Option.isSome_iff_exists.1 hsome⟩

/-- A capability that shows its operand. -/
def shout : Behaviour := fun inv => .ok (inv.args.headD .null)

/-- The built-in capabilities, with one registered by a decorator and a batch of one inert entry. -/
def bench : Environment :=
  let offer := { ownName := some "shout", behaviour := shout }
  (perform (decorating (withBuiltins {} {}) .filter none offer true).2
    (.update .test [("loud", none)])).2

theorem equipped_bench : Equipped (fun kind name => kind = .test ∧ name = "loud") bench :=
  .after (.decorated _ _ _ _ (.builtin _ _)) (by simp) (by rintro _ _ ⟨⟩ e he -; simp_all)

theorem registries_well_kept_bench :
    Equipped (fun kind name => kind = .test ∧ name = "loud") bench ∧
    (∃ c, bench.lookup .filter "shout" = .ok c ∧ c.safe = true ∧ c.name = "shout" ∧
      ∃ f, c.behaviour = some f) ∧
    ∃ f : Fault, bench.perform (.register .filter { name := "shout", behaviour := none }) =
      (.error (.fault f), bench) ∧ f.className = "TypeError" := by
  obtain ⟨-, hlookup, -, hinert, -⟩ := registries_well_kept equipped_bench
  obtain ⟨c, hc, hsafe⟩ : ∃ c, bench.lookup .filter "shout" = .ok c ∧ c.safe = true :=
    ⟨_, rfl, rfl⟩
  exact ⟨equipped_bench, ⟨c, hc, hsafe, hlookup _ _ _ hc (by simp)⟩, hinert .filter _ rfl⟩

/-- A batch brings something inert into a registry, where it is found. -/
theorem batch_admits_inert : ¬∀ env : Environment, Equipped (fun _ _ => True) env →
    ∀ kind name c, env.lookup kind name = .ok c → c.isCallable = true := by
  intro hall
  have hequipped : Equipped (fun _ _ => True) (perform {} (.update .filter [("bad", none)])).2 :=
    .after (.bare fun kind => by cases kind <;> rfl) (by simp) fun _ _ _ _ _ _ => trivial
  have hc := hall _ hequipped .filter "bad" { name := "bad", behaviour := none } rfl
  cases hc

end Stencil.Environment
