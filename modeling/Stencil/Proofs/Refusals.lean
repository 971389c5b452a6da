import Stencil.Proofs.Passing
import Stencil.Proofs.Plain

/-! Refusals. What goes wrong in a built-in capability is plain: the arguments do not fit, a value is
    of another type than the capability expects, or an operation below it fails, as where items are
    put in order or printed. No built-in capability starts a render, so none of its errors says where
    in a template it arose. -/

namespace Stencil

open Problem

/-! ### Texts and order of values -/

namespace Value

mutual

theorem plainly_stringify : ∀ v : Value, Plainly v.stringify
  | .list xs | .tuple xs => by
    rw [stringify]
    exact plainly_bind (plainly_stringifyAll xs) fun _ => plainly_pure _
  | .object _ => plainly_ok _
  | .null | .undefined | .bool _ | .int _ | .float _ | .text _ | .markup _ | .bytes _ => by
    unfold stringify
    exact plainly_display _

theorem plainly_stringifyAll : ∀ xs : List Value, Plainly (stringifyAll xs)
  | [] => plainly_ok _
  | x :: xs => by
    rw [stringifyAll]
    exact plainly_bind (plainly_stringify x) fun _ =>
      plainly_bind (plainly_stringifyAll xs) fun _ => plainly_pure _

end

theorem plainly_asText (v : Value) : Plainly v.asText := by
  unfold asText
  split
  · exact plainly_ok _
  · exact plainly_bind (plainly_stringify v) fun _ => plainly_pure _

end Value

theorem plainly_keyKind (key : Value) : Plainly (keyKind key) := by
  unfold keyKind
  split
  · rename_i e he
    exact plainly_ofRuntime (key.plainly_kind e he)
  · exact plainly_ok _

theorem plainly_mixedKinds (operation : String) (expected : Kind) (key : Value) :
    Plainly (α := α) (mixedKinds operation expected key) := by
  unfold mixedKinds
  split
  · rename_i e he
    exact plainly_ofRuntime (key.plainly_kind e he)
  · exact plainly_ofRuntime

theorem Sorter.plainly_ofFirst (key : Value) : Plainly (Sorter.ofFirst key) := by
  refine plainly_bind (plainly_keyKind key) fun kind => ?_
  split
  · exact plainly_pure _
  · exact plainly_ofRuntime

theorem Sorter.plainly_add (s : Sorter) (value key : Value) : Plainly (s.add value key) := by
  refine plainly_bind (plainly_keyKind key) fun kind => ?_
  split
  · exact plainly_pure _
  · exact plainly_mixedKinds _ _ _

theorem Distinct.plainly_ofFirst (key : Value) (caseSensitive : Bool) :
    Plainly (Distinct.ofFirst key caseSensitive) := by
  refine plainly_bind (plainly_keyKind key) fun kind => ?_
  split
  · exact plainly_pure _
  · exact plainly_ofRuntime

theorem Distinct.plainly_insert (d : Distinct) (key : Value) : Plainly (d.insert key) := by
  refine plainly_bind (plainly_keyKind key) fun kind => ?_
  split
  · split <;> exact plainly_pure _
  · exact plainly_mixedKinds _ _ _

namespace Value

variable (path : Value)

theorem plainly_orderKey (v : Value) : Plainly (orderKey path v) := by
  unfold orderKey
  split
  · exact plainly_fault _
  · exact plainly_ok _

theorem plainly_requiredKey (v : Value) : Plainly (requiredKey path v) := by
  refine plainly_bind (plainly_orderKey path v) fun found => ?_
  split
  · unfold missingKey
    dsimp only
    split <;> exact plainly_ofRuntime
  · exact plainly_pure _

theorem plainly_addAll : ∀ (s : Sorter) (vs : List Value), Plainly (addAll path s vs)
  | _, [] => plainly_ok _
  | s, v :: rest => by
    rw [addAll]
    exact plainly_bind (plainly_requiredKey path v) fun k =>
      plainly_bind (s.plainly_add v k) fun s => plainly_addAll s rest

theorem plainly_sort (values : List Value) : Plainly (sort values path) := by
  unfold sort
  split
  · exact plainly_ok _
  · rename_i v rest
    exact plainly_bind (plainly_requiredKey path v) fun k =>
      plainly_bind (Sorter.plainly_ofFirst k) fun s =>
        plainly_bind (plainly_addAll path s _) fun _ => plainly_pure _

theorem plainly_keepNew : ∀ (d : Distinct) (vs : List Value), Plainly (keepNew path d vs)
  | _, [] => plainly_ok _
  | d, v :: rest => by
    rw [keepNew]
    refine plainly_bind (plainly_orderKey path v) fun found => ?_
    split
    · exact plainly_keepNew d rest
    · exact plainly_bind (d.plainly_insert _) fun r =>
        plainly_bind (plainly_keepNew r.2 rest) fun _ => plainly_pure _

theorem plainly_distinct (values : List Value) (caseSensitive : Bool) :
    Plainly (distinct values path caseSensitive) := by
  unfold distinct
  split
  · exact plainly_ok _
  · rename_i v rest
    exact plainly_bind (plainly_requiredKey path v) fun k =>
      plainly_bind (Distinct.plainly_ofFirst k caseSensitive) fun d => plainly_keepNew path d _

end Value

/-! ### Calls -/

/-- A behaviour that can meet no other problems than plain ones. -/
def Behaviour.Plainly (f : Behaviour) : Prop :=
  ∀ inv q, f inv = .error (.problem q) → q.Plain

namespace Capability

variable {a b c : Parameter}

theorem plainly_lift {r : Except Problem α} (h : Problem.Plainly r) {q : Problem}
    (hq : lift r = .error (.problem q)) : q.Plain := by
  cases r with
  | ok _ => cases hq
  | error p =>
    cases hq
    exact h _ rfl

theorem plainly_taking {ps : List Parameter} {f : List Value → Except Problem Value}
    (hf : ∀ vs, Problem.Plainly (f vs)) : (taking ps f).Plainly := by
  intro inv q hq
  unfold taking at hq
  split at hq
  · cases hq
    trivial
  · exact plainly_lift (hf _) hq

theorem plainly_unary {f : Value → Except Problem Value} (hf : ∀ v, Problem.Plainly (f v)) :
    (unary a f).Plainly := by
  refine plainly_taking fun vs => ?_
  split
  · exact hf _
  · exact plainly_fault _

theorem plainly_binary {f : Value → Value → Except Problem Value}
    (hf : ∀ v x, Problem.Plainly (f v x)) : (binary a b f).Plainly := by
  refine plainly_taking fun vs => ?_
  split
  · exact hf _ _
  · exact plainly_fault _

theorem plainly_ternary {f : Value → Value → Value → Except Problem Value}
    (hf : ∀ v x y, Problem.Plainly (f v x y)) : (ternary a b c f).Plainly := by
  refine plainly_taking fun vs => ?_
  split
  · exact hf _ _ _
  · exact plainly_fault _

theorem plainly_variadic {f : Value → List Value → List (String × Value) → Except Problem Value}
    (hf : ∀ v args named, Problem.Plainly (f v args named)) : (variadic f).Plainly := by
  intro inv q hq
  unfold variadic at hq
  split at hq
  · exact plainly_lift (hf _ _ _) hq
  · exact plainly_lift (hf _ _ _) hq
  · cases hq
    trivial

end Capability

/-! ### Filters -/

namespace Filter

theorem plainly_expectText (filter : String) (v : Value) : Plainly (expectText filter v) := by
  unfold expectText
  split
  · exact plainly_ok _
  · exact plainly_fault _

theorem plainly_expectNumber (filter : String) (v : Value) (argument : String) :
    Plainly (expectNumber filter v argument) := by
  unfold expectNumber
  split
  · exact plainly_ok _
  · exact plainly_fault _

theorem plainly_expectItems (filter : String) (v : Value) : Plainly (expectItems filter v) := by
  unfold expectItems
  split
  · exact plainly_ok _
  · exact plainly_fault _

theorem plainly_numeric (r : Except NumberFault α) : Plainly (numeric r) := by
  cases r with
  | ok _ => exact plainly_ok _
  | error _ => exact plainly_fault _

theorem plainly_expectInteger (filter : String) (v : Value) (argument : String) :
    Plainly (expectInteger filter v argument) :=
  plainly_bind (plainly_expectNumber filter v argument) fun _ => plainly_numeric _

theorem plainly_lookAt (v path : Value) : Plainly (lookAt v path) := by
  unfold lookAt
  split
  · exact plainly_ok _
  · exact plainly_fault _

theorem plainly_plainText (v : Value) : Plainly (plainText v) := by
  unfold plainText
  split
  · exact plainly_ok _
  · exact plainly_fault _

theorem plainly_namedArguments (names : List String) (args : List Value)
    (named : List (String × Value)) : Plainly (namedArguments names args named) := by
  -- whatever the arguments are that are known already
  have go (ns known : List (String × Value)) : Plainly (namedArguments.go names known ns) := by
    induction ns generalizing known with
    | nil => exact plainly_ok _
    | cons a rest ih =>
      rw [namedArguments.go]
      split
      · exact plainly_fault _
      split
      · exact plainly_fault _
      · exact ih _
  unfold namedArguments
  split
  · exact plainly_fault _
  · exact go _ _

/-! ### Filters of texts -/

theorem plainly_onText (filter : String) (f : String → String) (v : Value) :
    Plainly (onText filter f v) :=
  plainly_bind (plainly_expectText filter v) fun _ => plainly_pure _

theorem plainly_urlencode (v : Value) : Plainly (urlencode v) :=
  plainly_bind (plainly_expectText _ v) fun _ => plainly_pure _

theorem plainly_wordcount (v : Value) : Plainly (wordcount v) :=
  plainly_bind (plainly_expectText _ v) fun _ => plainly_pure _

theorem plainly_replace (v : Value) (args : List Value) (named : List (String × Value)) :
    Plainly (replace v args named) := by
  refine plainly_bind (plainly_expectText _ v) fun s =>
    plainly_bind (plainly_namedArguments _ args named) fun given => ?_
  split
  · exact plainly_bind (plainly_plainText _) fun _ =>
      plainly_bind (plainly_plainText _) fun _ => plainly_pure _
  · exact plainly_fault _

theorem plainly_truncate (v length ending : Value) : Plainly (truncate v length ending) := by
  refine plainly_bind (plainly_expectText _ v) fun s =>
    plainly_bind (plainly_expectInteger _ length _) fun n => ?_
  split
  · exact plainly_pure _
  · split
    · exact plainly_pure _
    · exact plainly_fault _

theorem plainly_split (v pattern : Value) : Plainly (split v pattern) := by
  refine plainly_bind (plainly_expectText _ v) fun s =>
    plainly_bind (plainly_expectText _ pattern) fun sep => ?_
  dsimp only
  split
  · exact plainly_fault _
  · split <;> exact plainly_pure _

/-! ### Filters of numbers -/

theorem plainly_integerOf (s : String) (base : Int) : Plainly (integerOf s base) := by
  unfold integerOf
  dsimp only
  split
  · exact plainly_ok _
  split
  · exact plainly_ok _
  split
  · exact plainly_ok _
  split
  · exact plainly_ok _
  · exact plainly_ok _
  · exact plainly_fault _

theorem plainly_int (v default base : Value) : Plainly (int v default base) := by
  unfold int
  split
  · split
    · exact plainly_bind (plainly_integerOf _ _) fun _ => plainly_pure _
    · exact plainly_fault _
  · split
    · exact plainly_bind (plainly_numeric _) fun _ => plainly_pure _
    · exact plainly_fault _

theorem plainly_float (v default : Value) : Plainly (float v default) := by
  unfold float
  split
  · exact plainly_pure _
  · split
    · exact plainly_bind (plainly_numeric _) fun _ => plainly_pure _
    · exact plainly_fault _

theorem plainly_abs (v : Value) : Plainly (abs v) :=
  plainly_bind (plainly_expectNumber _ v _) fun _ => plainly_pure _

theorem plainly_places (v : Value) : Plainly (places v) := by
  unfold places
  split
  · split <;> first | exact plainly_ok _ | exact plainly_fault _
  · split <;> first | exact plainly_ok _ | exact plainly_fault _
  · split
    · split <;> first | exact plainly_ok _ | exact plainly_fault _
    · exact plainly_fault _
  · split
    · exact plainly_numeric _
    · exact plainly_fault _

theorem plainly_round (v method precision : Value) : Plainly (round v method precision) := by
  refine plainly_bind (plainly_expectNumber _ v _) fun n =>
    plainly_bind (plainly_places precision) fun p =>
      plainly_bind (plainly_numeric _) fun scale =>
        plainly_bind (plainly_numeric _) fun product =>
          plainly_bind (plainly_numeric _) fun scaled => ?_
  dsimp only
  split
  · exact plainly_fault _
  · exact plainly_bind (plainly_numeric _) fun _ =>
      plainly_bind (plainly_numeric _) fun _ => plainly_pure _

theorem plainly_pluralize (v singular plural : Value) : Plainly (pluralize v singular plural) :=
  plainly_bind (plainly_expectNumber _ v _) fun _ => plainly_pure _

/-! ### Filters of arrays and objects -/

theorem plainly_length (v : Value) : Plainly (length v) := by
  unfold length
  split <;> first | exact plainly_ok _ | exact plainly_fault _

theorem plainly_reverse (v : Value) : Plainly (reverse v) := by
  unfold reverse
  split <;> first | exact plainly_ok _ | exact plainly_fault _

theorem plainly_first (v : Value) : Plainly (first v) :=
  plainly_bind (plainly_expectItems _ v) fun _ => plainly_pure _

theorem plainly_last (v : Value) : Plainly (last v) :=
  plainly_bind (plainly_expectItems _ v) fun _ => plainly_pure _

theorem plainly_nth (v index : Value) : Plainly (nth v index) := by
  refine plainly_bind (plainly_expectItems _ v) fun xs =>
    plainly_bind (plainly_expectInteger _ index _) fun i => ?_
  split
  · exact plainly_fault _
  · exact plainly_pure _

theorem plainly_join (v sep : Value) : Plainly (join v sep) :=
  plainly_bind (plainly_expectItems _ v) fun xs =>
    plainly_bind (plainly_expectText _ sep) fun _ =>
      plainly_bind (Value.plainly_stringifyAll xs) fun _ => plainly_pure _

theorem plainly_sort (v path : Value) : Plainly (sort v path) :=
  plainly_bind (plainly_expectItems _ v) fun xs =>
    plainly_bind (Value.plainly_sort path xs) fun _ => plainly_pure _

theorem plainly_unique (v path caseSensitive : Value) : Plainly (unique v path caseSensitive) :=
  plainly_bind (plainly_expectItems _ v) fun xs =>
    plainly_bind (Value.plainly_distinct path xs _) fun _ => plainly_pure _

theorem plainly_slice (v start stop : Value) : Plainly (slice v start stop) := by
  refine plainly_bind (plainly_expectItems _ v) fun xs =>
    plainly_bind (plainly_expectInteger _ start _) fun first => ?_
  split
  · exact plainly_pure _
  · exact plainly_bind (plainly_expectInteger _ stop _) fun _ => plainly_pure _

theorem plainly_attribute (path item : Value) : Plainly (attribute? path item) :=
  plainly_bind (plainly_lookAt item path) fun _ => plainly_pure _

theorem plainly_group (path : Value) : ∀ groups items, Plainly (group path groups items)
  | _, [] => plainly_ok _
  | groups, item :: rest => by
    rw [group]
    refine plainly_bind (plainly_attribute path item) fun found => ?_
    split
    · exact plainly_group path groups rest
    · exact plainly_bind (Value.plainly_asText _) fun _ => plainly_group path _ rest

theorem plainly_groupBy (v path : Value) : Plainly (groupBy v path) :=
  plainly_bind (plainly_expectItems _ v) fun items =>
    plainly_bind (plainly_group path [] items) fun _ => plainly_pure _

theorem plainly_select (path wanted : Value) : ∀ items, Plainly (select path wanted items)
  | [] => plainly_ok _
  | item :: rest => by
    rw [select]
    exact plainly_bind (plainly_attribute path item) fun _ =>
      plainly_bind (plainly_select path wanted rest) fun _ => plainly_pure _

theorem plainly_filter (v path wanted : Value) : Plainly (filter v path wanted) :=
  plainly_bind (plainly_expectItems _ v) fun items =>
    plainly_bind (plainly_select path wanted items) fun _ => plainly_pure _

theorem plainly_pluck (path : Value) : ∀ items, Plainly (pluck path items)
  | [] => plainly_ok _
  | item :: rest => by
    rw [pluck]
    exact plainly_bind (plainly_attribute path item) fun _ =>
      plainly_bind (plainly_pluck path rest) fun _ => plainly_pure _

theorem plainly_map (v path : Value) : Plainly (map v path) :=
  plainly_bind (plainly_expectItems _ v) fun items =>
    plainly_bind (plainly_pluck path items) fun _ => plainly_pure _

theorem plainly_concat (v : Value) (args : List Value) (named : List (String × Value)) :
    Plainly (concat v args named) := by
  refine plainly_bind (plainly_expectItems _ v) fun xs =>
    plainly_bind (plainly_namedArguments _ args named) fun given => ?_
  split
  · exact plainly_fault _
  · exact plainly_pure _

theorem plainly_get (v key default : Value) : Plainly (get v key default) := by
  unfold get
  split
  · split
    · exact plainly_fault _
    split
    · exact plainly_ok _
    split
    · exact plainly_fault _
    · exact plainly_ok _
  · exact plainly_fault _

/-! ### Filters of any value -/

theorem plainly_jsonEncode (v pretty : Value) : Plainly (jsonEncode v pretty) := by
  unfold jsonEncode
  split
  · exact plainly_ok _
  · exact plainly_fault _

theorem plainly_safe (v : Value) : Plainly (safe v) :=
  plainly_bind v.plainly_display fun _ => plainly_pure _

theorem plainly_escapeWith (f : String → String) (v : Value) : Plainly (escapeWith f v) := by
  unfold escapeWith
  split
  · exact plainly_ok _
  · exact plainly_bind (Value.plainly_display _) fun _ => plainly_pure _

/-! ### The tables -/

open Capability

theorem plainly_ofTexts : ∀ e ∈ ofTexts, e.2.Plainly := by
  simp only [ofTexts, List.forall_mem_cons, List.not_mem_nil, false_implies, implies_true, and_true]
  exact ⟨plainly_unary (plainly_onText _ _), plainly_unary (plainly_onText _ _),
    plainly_unary (plainly_onText _ _), plainly_unary (plainly_onText _ _),
    plainly_unary (plainly_onText _ _), plainly_variadic plainly_replace,
    plainly_ternary plainly_truncate, plainly_unary plainly_wordcount,
    plainly_unary (plainly_onText _ _), plainly_binary plainly_split,
    plainly_unary plainly_urlencode⟩

theorem plainly_ofNumbers : ∀ e ∈ ofNumbers, e.2.Plainly := by
  simp only [ofNumbers, List.forall_mem_cons, List.not_mem_nil, false_implies, implies_true,
    and_true]
  exact ⟨plainly_ternary plainly_int, plainly_binary plainly_float, plainly_unary plainly_abs,
    plainly_ternary plainly_round, plainly_ternary plainly_pluralize⟩

theorem plainly_ofArrays : ∀ e ∈ ofArrays, e.2.Plainly := by
  simp only [ofArrays, List.forall_mem_cons, List.not_mem_nil, false_implies, implies_true,
    and_true]
  exact ⟨plainly_unary plainly_length, plainly_unary plainly_reverse, plainly_unary plainly_first,
    plainly_unary plainly_last, plainly_binary plainly_nth, plainly_binary plainly_join,
    plainly_binary plainly_sort, plainly_ternary plainly_unique, plainly_ternary plainly_slice,
    plainly_binary plainly_groupBy, plainly_ternary plainly_filter, plainly_binary plainly_map,
    plainly_variadic plainly_concat, plainly_ternary plainly_get⟩

theorem plainly_ofValues : ∀ e ∈ ofValues, e.2.Plainly := by
  simp only [ofValues, List.forall_mem_cons, List.not_mem_nil, false_implies, implies_true,
    and_true]
  exact ⟨plainly_binary plainly_jsonEncode, plainly_unary Value.plainly_asText,
    plainly_ternary fun _ _ _ => plainly_ok _, plainly_unary plainly_safe,
    plainly_unary (plainly_escapeWith _), plainly_unary (plainly_escapeWith _)⟩

end Filter

/-! ### Testers -/

namespace Tester

open Capability

theorem plainly_requireDefined (tester : String) (v : Value) :
    Plainly (requireDefined tester v) := by
  unfold requireDefined
  split
  · exact plainly_fault _
  · exact plainly_ok _

theorem plainly_requireNumber (tester part : String) (v : Value) :
    Plainly (requireNumber tester part v) := by
  unfold requireNumber
  split
  · exact plainly_ok _
  · exact plainly_fault _

theorem plainly_requireText (tester part : String) (v : Value) :
    Plainly (requireText tester part v) := by
  unfold requireText
  split
  · exact plainly_ok _
  · exact plainly_fault _

theorem plainly_ofProperty (tester : String) (p : Value → Bool) (v : Value) :
    Plainly (ofProperty tester p v) :=
  plainly_bind (plainly_requireDefined tester v) fun _ => plainly_pure _

theorem plainly_divides (divisor n : Number) : Plainly (divides divisor n) := by
  refine plainly_bind ?_ fun _ => plainly_pure _
  unfold remainder
  split
  · exact plainly_ok _
  · exact plainly_fault _

theorem plainly_odd (v : Value) : Plainly (odd v) :=
  plainly_bind (plainly_requireDefined _ v) fun _ =>
    plainly_bind (plainly_requireNumber _ _ v) fun n =>
      plainly_bind (plainly_divides _ n) fun _ => plainly_pure _

theorem plainly_even (v : Value) : Plainly (even v) :=
  plainly_bind (plainly_requireDefined _ v) fun _ =>
    plainly_bind (plainly_requireNumber _ _ v) fun n =>
      plainly_bind (plainly_divides _ n) fun _ => plainly_pure _

theorem plainly_divisibleBy (v divisor : Value) : Plainly (divisibleBy v divisor) :=
  plainly_bind (plainly_requireDefined _ v) fun _ =>
    plainly_bind (plainly_requireNumber _ _ v) fun n =>
      plainly_bind (plainly_requireNumber _ _ divisor) fun d =>
        plainly_bind (plainly_divides d n) fun _ => plainly_pure _

theorem plainly_ofTexts (tester : String) (p : String → String → Bool) (v other : Value) :
    Plainly (ofTexts tester p v other) :=
  plainly_bind (plainly_requireDefined tester v) fun _ =>
    plainly_bind (plainly_requireText _ _ v) fun _ =>
      plainly_bind (plainly_requireText _ _ other) fun _ => plainly_pure _

theorem plainly_containing (v needle : Value) : Plainly (containing v needle) := by
  refine plainly_bind (plainly_requireDefined _ v) fun _ => ?_
  split
  · exact plainly_bind (plainly_requireText _ _ needle) fun _ => plainly_pure _
  · exact plainly_bind (plainly_requireText _ _ needle) fun _ => plainly_pure _
  · exact plainly_pure _
  · exact plainly_pure _
  · exact plainly_bind (plainly_requireText _ _ needle) fun _ => plainly_pure _
  · exact plainly_fault _

theorem plainly_matching (v pattern : Value) : Plainly (matching v pattern) := by
  refine plainly_bind (plainly_requireDefined _ v) fun _ =>
    plainly_bind (plainly_requireText _ _ v) fun s =>
      plainly_bind (plainly_requireText _ _ pattern) fun p => ?_
  split
  · exact plainly_pure _
  · exact plainly_fault _
  · exact plainly_fault _

theorem plainly_behaviours : ∀ e ∈ behaviours, e.2.Plainly := by
  simp only [behaviours, List.forall_mem_cons, List.not_mem_nil, false_implies, implies_true,
    and_true]
  exact ⟨plainly_unary fun _ => plainly_ok _, plainly_unary fun _ => plainly_ok _,
    plainly_unary (plainly_ofProperty _ _), plainly_unary (plainly_ofProperty _ _),
    plainly_unary plainly_odd, plainly_unary plainly_even, plainly_binary plainly_divisibleBy,
    plainly_unary (plainly_ofProperty _ _), plainly_unary (plainly_ofProperty _ _),
    plainly_binary (plainly_ofTexts _ _), plainly_binary (plainly_ofTexts _ _),
    plainly_binary plainly_containing, plainly_binary plainly_matching⟩

end Tester

/-! ### Functions -/

namespace Function

open Capability

theorem plainly_count (argument : String) (v : Value) : Plainly (count argument v) := by
  unfold count
  split
  · exact plainly_fault _
  split
  · exact plainly_fault _
  split
  · exact plainly_fault _
  split
  · exact plainly_ok _
  · exact plainly_fault _

/-- A computation that is refused under a condition and goes on otherwise. -/
theorem plainly_unless {condition : Prop} [Decidable condition] {f : Fault}
    {onward : Unit → Except Problem α} (h : Plainly (onward ())) :
    Plainly (if condition then .error (.fault f) >>= onward else onward ()) := by
  split
  · exact plainly_fault _
  · exact h

theorem plainly_range (stop start step : Value) : Plainly (range stop start step) :=
  plainly_bind (plainly_count _ stop) fun _ =>
    plainly_bind (plainly_count _ start) fun _ =>
      plainly_bind (plainly_count _ step) fun _ =>
        plainly_unless (plainly_unless (plainly_unless (plainly_unless (plainly_pure _))))

theorem plainly_now (host : Host) (timestamp utc : Value) : Plainly (now host timestamp utc) := by
  unfold now
  dsimp only
  split <;> exact plainly_ok _

theorem plainly_getEnv (host : Host) (name default : Value) :
    Plainly (getEnv host name default) := by
  unfold getEnv
  split
  · exact plainly_fault _
  split
  · exact plainly_ok _
  split
  · exact plainly_fault _
  · exact plainly_ok _

theorem plainly_throw (message : Value) : Plainly (throw message) := by
  unfold throw
  split <;> exact plainly_fault _

theorem plainly_behaviours (host : Host) : ∀ e ∈ behaviours host, e.2.Plainly := by
  simp only [behaviours, List.forall_mem_cons, List.not_mem_nil, false_implies, implies_true,
    and_true]
  exact ⟨plainly_ternary plainly_range, plainly_binary (plainly_now host),
    plainly_binary (plainly_getEnv host), plainly_unary plainly_throw⟩

end Function

/-! ### Registered capabilities -/

namespace Environment

/-- Built-in capabilities meet no other problems than plain ones. -/
theorem plainly_withBuiltins (env : Environment) (host : Host) {kind : CapabilityKind}
    {name : String} {c : Capability}
    (hregistered : ((env.withBuiltins host).registry kind).get? name = some c) {inv : Invocation}
    {q : Problem} (hq : c.call inv = .error (.problem q)) : q.Plain := by
  cases kind with
  | filter =>
    change Filter.all.get? name = some c at hregistered
    obtain ⟨f, hf, rfl⟩ := Capability.mem_of_capabilities hregistered
    simp only [List.mem_append] at hf
    rcases hf with ((hf | hf) | hf) | hf
    · exact Filter.plainly_ofTexts _ hf _ _ hq
    · exact Filter.plainly_ofNumbers _ hf _ _ hq
    · exact Filter.plainly_ofArrays _ hf _ _ hq
    · exact Filter.plainly_ofValues _ hf _ _ hq
  | test =>
    change Tester.all.get? name = some c at hregistered
    obtain ⟨f, hf, rfl⟩ := Capability.mem_of_capabilities hregistered
    exact Tester.plainly_behaviours _ hf _ _ hq
  | function =>
    change (Function.all host).get? name = some c at hregistered
    obtain ⟨f, hf, rfl⟩ := Capability.mem_of_capabilities hregistered
    exact Function.plainly_behaviours host _ hf _ _ hq

end Environment

end Stencil
