import Stencil.Proofs.Result
import Stencil.Render

/-! Plain problems. What goes wrong in a step of a render is a fault, or a runtime error that does
    not say where it arose: the place is filled in on the way out. Operators, lookups of capabilities,
    the binding of arguments and names, what is printed, and sinks meet no other problems. Where a
    name is looked up or an include is refused, the error tells the place of the render. -/

namespace Stencil

/-- The error does not say where it arose. -/
structure RuntimeError.Unplaced (e : RuntimeError) : Prop where
  template : e.template = none
  line : e.line = none
  trail : e.trail = []

/-- A fault, or a runtime error that does not say where it arose. -/
def Problem.Plain : Problem → Prop
  | .fault _ => True
  | .template (.runtime e) => e.Unplaced
  | .template _ => False

/-- The error tells a place. It may leave the trail out. -/
structure RuntimeError.At (l : Location) (e : RuntimeError) : Prop where
  template : e.template = l.template
  line : e.line = l.knownLine
  trail : e.trail = l.trail ∨ e.trail = []

/-- A problem that a step of a render meets in a state: one that may be met anywhere, or an error
    that tells the place of the render. -/
inductive Problem.Met (may : Problem → Prop) (s : RenderState) : Problem → Prop
  | anywhere {p : Problem} (h : may p) : Met may s p
  | here {e : RuntimeError} {l : Location} (hplace : s.place = some l) (h : e.At l) :
    Met may s (.ofRuntime e)

/-- A result that can meet no other problems than plain ones. -/
def Problem.Plainly (r : Except Problem α) : Prop := ∀ q, r = .error q → q.Plain

/-- A result that can meet no other runtime errors than those that do not say where they arose. -/
def RuntimeError.Plainly (r : Except RuntimeError α) : Prop := ∀ e, r = .error e → e.Unplaced

theorem RuntimeError.Unplaced.ofRuntime {e : RuntimeError} (h : e.Unplaced) :
    (Problem.ofRuntime e).Plain := by
  unfold Problem.ofRuntime
  split
  · exact h
  · trivial

namespace Problem

theorem plainly_ok (a : α) : Plainly (.ok a) := by
  rintro q ⟨⟩

theorem plainly_pure (a : α) : Plainly (pure a) := plainly_ok a

theorem plainly_fault (f : Fault) : Plainly (α := α) (.error (.fault f)) := by
  rintro q ⟨⟩
  trivial

theorem plainly_ofRuntime {e : RuntimeError} (h : e.Unplaced := by exact ⟨rfl, rfl, rfl⟩) :
    Plainly (α := α) (.error (.ofRuntime e)) := by
  rintro q ⟨⟩
  exact h.ofRuntime

theorem plainly_refuse {e : RuntimeError} (h : e.Unplaced := by exact ⟨rfl, rfl, rfl⟩) :
    Plainly (α := α) (Operator.refuse e) := plainly_ofRuntime h

theorem plainly_bind {r : Except Problem α} {f : α → Except Problem β} (h : Plainly r)
    (hf : ∀ a, Plainly (f a)) : Plainly (r >>= f) := by
  cases r with
  | ok a => exact hf a
  | error p =>
    rintro q ⟨⟩
    exact h p rfl

end Problem

open Problem

/-! ### Operators -/

namespace Operator

theorem plainly_mismatch (message construct : String) (values : List (String × Value))
    (suggestion : Option String) :
    Plainly (α := α) (mismatch message construct values suggestion) := plainly_refuse

theorem plainly_operand (op : String) (v : Value) : Plainly (operand op v) := by
  unfold operand
  split
  · exact plainly_ok _
  · exact plainly_mismatch _ _ _ _

theorem plainly_numeric (r : Except NumberFault Number) : Plainly (numeric r) := by
  unfold numeric
  split
  · exact plainly_ok _
  · exact plainly_fault _

theorem plainly_arithmetic (op : String) (a b : Number) : Plainly (arithmetic op a b) := by
  unfold arithmetic
  split
  · exact plainly_refuse
  · split <;> first | exact plainly_numeric _ | exact plainly_refuse

theorem plainly_within (left right : Value) : Plainly (within left right) := by
  unfold within
  split
  · split
    · exact plainly_ok _
    · exact plainly_mismatch _ _ _ _
  · split
    · exact plainly_ok _
    · exact plainly_mismatch _ _ _ _
  · exact plainly_ok _
  · exact plainly_ok _
  · exact plainly_ok _
  · exact plainly_mismatch _ _ _ _

theorem plainly_orderBy (op : String) (lt gt eq : Bool) : Plainly (orderBy op lt gt eq) := by
  unfold orderBy
  split <;> first | exact plainly_ok _ | exact plainly_refuse

theorem plainly_ordered (op : String) (left right : Value) : Plainly (ordered op left right) := by
  unfold ordered
  split
  · exact plainly_orderBy _ _ _ _
  · split
    · exact plainly_orderBy _ _ _ _
    · exact plainly_mismatch _ _ _ _

theorem plainly_compare (op : String) (left right : Value) : Plainly (compare op left right) := by
  unfold compare
  split
  · exact plainly_ok _
  · exact plainly_ok _
  · exact plainly_within _ _
  · exact plainly_bind (plainly_within _ _) fun _ => plainly_pure _
  · exact plainly_ordered _ _ _

end Operator

/-- The error of a value that has no kind does not say where it arose. -/
theorem Value.plainly_kind (v : Value) : RuntimeError.Plainly v.kind := by
  unfold Value.kind
  split
  · rintro e ⟨⟩
  · rintro e ⟨⟩
    exact ⟨rfl, rfl, rfl⟩

theorem Value.plainly_display (v : Value) : Plainly v.display := by
  have scalar (s : String) (b : Bool) :
      Plainly (if b then .ok s else .error (.fault (.failure .badValue))) := by
    split
    · exact plainly_ok _
    · exact plainly_fault _
  unfold Value.display
  split
  · exact plainly_ok _
  · exact plainly_ok _
  · exact plainly_ok _
  · exact plainly_ok _
  · exact plainly_ok _
  · exact scalar _ _
  · exact scalar _ _
  · split
    · rename_i e he
      exact plainly_ofRuntime (v.plainly_kind e he)
    · exact plainly_ofRuntime

/-! ### Sinks -/

/-- A sink that an environment writes to: a buffer, or one that may refuse texts or their bytes. -/
inductive Sink.Offered : Sink → Prop
  | buffer : Offered .buffer
  | guarded (refuses : List Chunk → Option Fault) : Offered (.guarded refuses)
  | encoded (encoding : String) (codec : Codec) (refuses : List Chunk → Option Fault) :
    Offered (.encoded encoding codec refuses)

/-- Sinks meet no other problems than plain ones. -/
theorem Sink.Offered.plainly {sink : Sink} (h : sink.Offered) (chunks : List Chunk)
    (text : String) : Problem.Plainly (sink chunks text) := by
  cases h with
  | buffer => exact plainly_ok _
  | guarded refuses =>
    unfold Sink.guarded
    split
    · exact plainly_fault _
    · exact plainly_ok _
  | encoded encoding codec refuses =>
    refine plainly_bind ?_ fun data => ?_
    · unfold Codec.encode
      split
      · exact plainly_ok _
      · rintro q ⟨⟩
        exact RuntimeError.Unplaced.ofRuntime ⟨rfl, rfl, rfl⟩
      · exact plainly_fault _
    · split
      · exact plainly_fault _
      · exact plainly_pure _

/-! ### Lookups and bindings -/

theorem Environment.plainly_lookup (env : Environment) (kind : CapabilityKind) (name : String) :
    RuntimeError.Plainly (env.lookup kind name) := by
  unfold Environment.lookup
  split
  · rintro e ⟨⟩
  · rintro e ⟨⟩
    exact ⟨rfl, rfl, rfl⟩

namespace CallStack

theorem plainly_activeTemplate (s : CallStack) : RuntimeError.Plainly s.activeTemplate := by
  unfold activeTemplate current
  split
  · rintro e ⟨⟩
    exact ⟨rfl, rfl, rfl⟩
  · rintro e ⟨⟩

theorem plainly_push (s : CallStack) (f : Frame) : RuntimeError.Plainly (s.push f) := by
  unfold push
  split
  · split <;> rintro e ⟨⟩
    exact ⟨rfl, rfl, rfl⟩
  · rintro e ⟨⟩

theorem plainly_assign (s : CallStack) (name : String) (v : Value) :
    RuntimeError.Plainly (s.assign name v) := by
  unfold assign
  split <;> rintro e ⟨⟩
  exact ⟨rfl, rfl, rfl⟩

theorem plainly_assignWide (s : CallStack) (name : String) (v : Value) :
    RuntimeError.Plainly (s.assignWide name v) := by
  unfold assignWide
  split <;> rintro e ⟨⟩
  exact ⟨rfl, rfl, rfl⟩

end CallStack

namespace Render

theorem plainly_bindNamed (fullName : String) (names : List String) :
    ∀ named bound, RuntimeError.Plainly (bindNamed fullName names bound named)
  | [], bound => by rintro e ⟨⟩
  | (key, v) :: rest, bound => by
    rw [bindNamed]
    split
    · rintro e ⟨⟩
      exact ⟨rfl, rfl, rfl⟩
    split
    · rintro e ⟨⟩
      exact ⟨rfl, rfl, rfl⟩
    · exact plainly_bindNamed fullName names rest _

theorem plainly_bindArguments (fullName : String) (params : List Param) (args : List Value)
    (named : List (String × Value)) :
    RuntimeError.Plainly (bindArguments fullName params args named) := by
  unfold bindArguments
  split
  · rintro e ⟨⟩
    exact ⟨rfl, rfl, rfl⟩
  · exact plainly_bindNamed _ _ _ _

theorem plainly_pairs (shown : String) (hasKey : Bool) (container : Value) :
    RuntimeError.Plainly (pairs shown hasKey container) := by
  unfold pairs
  split
  · split <;> rintro e ⟨⟩
    exact ⟨rfl, rfl, rfl⟩
  · split <;> rintro e ⟨⟩
    exact ⟨rfl, rfl, rfl⟩
  · split <;> rintro e ⟨⟩
    exact ⟨rfl, rfl, rfl⟩
  · rintro e ⟨⟩
    exact ⟨rfl, rfl, rfl⟩

theorem unplaced_outside : outside.Unplaced := ⟨rfl, rfl, rfl⟩

/-- The error of a lookup tells the place of the render, if it has one. -/
theorem undefinedAt_met {may : Problem → Prop} (hmay : ∀ {p : Problem}, p.Plain → may p) (n : Node)
    (s : RenderState) : ∃ q, Problem.Met may s q ∧
      ∀ {α : Type}, (undefinedAt n : Render α) s = (.error (.problem q), s) := by
  -- without a place the error stays unplaced, else it has that of the render
  cases hplace : s.place with
  | none =>
    have hplain : (RuntimeError.undefinedName n.describe s.stack.visibleNames).Unplaced :=
      ⟨rfl, rfl, rfl⟩
    refine ⟨_, .anywhere (hmay hplain.ofRuntime), fun {α} => ?_⟩
    unfold undefinedAt
    rw [hplace]
    rfl
  | some l =>
    have hat : RuntimeError.At l { RuntimeError.undefinedName n.describe s.stack.visibleNames with
        template := l.template, line := l.knownLine, trail := l.trail } :=
      ⟨rfl, rfl, Or.inl rfl⟩
    refine ⟨_, .here hplace hat, fun {α} => ?_⟩
    unfold undefinedAt
    rw [hplace]
    rfl

/-- The error of an include that the limit refuses tells the place. -/
theorem at_checkInclude {l : Location} {target : String} {e : RuntimeError}
    (h : l.checkInclude target = .error e) : e.At l := by
  unfold Location.checkInclude at h
  split at h
  · cases h
  · obtain rfl := Except.error.inj h
    exact ⟨rfl, rfl, Or.inr rfl⟩

end Render

end Stencil
