import Stencil.Filter
import Stencil.Function
import Stencil.Proofs.Result
import Stencil.Proofs.RunSort
import Stencil.Proofs.Simulation.Eval
import Stencil.Proofs.Table

/-! What the built-in capabilities make of their arguments. Let a property of values be hereditary:
    scalars have it, and containers have it with their items. Capabilities bind their arguments to
    parameters, and then a filter makes a value of its own, or picks values out of its arguments, or
    marks a text as safe; but for what is marked, values with the property are made of values with
    it. A lookup that finds nothing is no such value, and none comes out where none goes in. -/

namespace Stencil

namespace Value.Hereditary

variable {p : Value → Prop} {v w : Value}

/-! ### Paths -/

theorem step (hp : Hereditary p) {s : Segment} (h : p v) (hw : v.step s = .ok w) : Found p w := by
  cases s with
  | name s => exact hp.getAttr h hw
  | index n =>
    rw [← Except.ok.inj hw]
    exact hp.itemAt h n

theorem walk (hp : Hereditary p) {segments : List Segment} : ∀ {v w : Value}, p v →
    v.walk segments = .ok w → Found p w := by
  induction segments with
  | nil =>
    intro v w h hw
    rw [← Except.ok.inj hw]
    exact Or.inl h
  | cons s rest ih =>
    intro v w h hw
    simp only [Value.walk, bind_eq_ok] at hw
    obtain ⟨x, hx, hw⟩ := hw
    split at hw
    · rw [← Except.ok.inj hw]
      exact Or.inr rfl
    · rename_i hne
      exact ih ((hp.step h hx).resolve_right hne) hw

theorem resolveBy (hp : Hereditary p) {path : Value} (h : p v) (hw : v.resolveBy path = .ok w) :
    Found p w := by
  unfold Value.resolveBy at hw
  split at hw
  · unfold Value.resolve at hw
    split at hw
    · rw [← Except.ok.inj hw]
      exact Or.inl h
    · simp only [bind_eq_ok] at hw
      obtain ⟨o, -, hw⟩ := hw
      split at hw
      · rw [← Except.ok.inj hw]
        exact Or.inr rfl
      · exact hp.walk h hw
  · split at hw
    · cases hw
    · rw [← Except.ok.inj hw]
      exact Or.inl h

/-- The text of a value, which a text is itself. -/
theorem asText (hp : Hereditary p) (h : p v) (hw : v.asText = .ok w) :
    p w ∧ w.text?.isSome = true := by
  unfold Value.asText at hw
  split at hw
  · rename_i s hs
    rw [← Except.ok.inj hw]
    exact ⟨h, by rw [hs]; rfl⟩
  · simp only [bind_eq_ok] at hw
    obtain ⟨s, -, hw⟩ := hw
    cases hw
    exact ⟨hp.text s, rfl⟩

end Value.Hereditary

/-! ### Calls -/

/-- The first argument of a call by position has a property, and all others have another one. -/
structure Invocation.Given (operand p : Value → Prop) (inv : Invocation) : Prop where
  operand : ∀ v ∈ inv.args.head?, operand v
  rest : ∀ v ∈ inv.args.tail, p v
  named : ∀ a ∈ inv.named, p a.2

/-- What a capability makes of arguments with a property has a property. -/
def Behaviour.Gives (operand p Q : Value → Prop) (f : Behaviour) : Prop :=
  ∀ inv v, inv.Given operand p → f inv = .ok v → Q v

namespace Invocation

variable {operand p q : Value → Prop} {inv : Invocation}

theorem Given.mono (h : inv.Given operand p) (ho : ∀ v, operand v → q v) (hp : ∀ v, p v → q v) :
    inv.Given q q :=
  ⟨fun v hv => ho v (h.operand v hv), fun v hv => hp v (h.rest v hv),
    fun a ha => hp _ (h.named a ha)⟩

theorem given_of_args (hargs : ∀ v ∈ inv.args, p v) (hnamed : ∀ a ∈ inv.named, p a.2) :
    inv.Given p p :=
  ⟨fun v hv => hargs v (List.mem_of_mem_head? hv), fun v hv => hargs v (List.mem_of_mem_tail hv),
    hnamed⟩

theorem Given.args (h : inv.Given p p) : ∀ v ∈ inv.args, p v := by
  intro v hv
  cases hargs : inv.args with
  | nil => simp [hargs] at hv
  | cons a rest =>
    rw [hargs] at hv
    rcases List.mem_cons.1 hv with rfl | hv
    · exact h.operand v (by rw [hargs]; rfl)
    · exact h.rest v (by rwa [hargs])

end Invocation

namespace Capability

variable {operand p Q : Value → Prop} {a b c : Parameter}

theorem lift_eq_ok {x : Except Problem α} {r : α} : lift x = .ok r ↔ x = .ok r := by
  cases x <;> simp [lift]

/-- The default of a parameter, if it has one, has a property. -/
def Default (p : Value → Prop) (a : Parameter) : Prop := ∀ d, a.default = some d → p d

theorem default_none (h : a.default = none) : Default p a := by
  intro d hd
  rw [h] at hd
  cases hd

theorem default_optional (name : String) {d : Value} (h : p d) : Default p (.optional name d) := by
  intro e he
  cases he
  exact h

theorem of_lookup {ns : List (String × Value)} {name : String} {v : Value}
    (h : ∀ n ∈ ns, p n.2) (hv : ns.lookup name = some v) : p v := by
  obtain ⟨before, after, rfl, -⟩ := List.lookup_eq_some_iff.1 hv
  exact h (name, v) (by simp)

theorem of_argument {inv : Invocation} (h : ∀ n ∈ inv.named, p n.2) (ha : Default p a) {v : Value}
    (hv : inv.argument a = .ok v) : p v := by
  unfold Invocation.argument at hv
  split at hv
  · rename_i w hw
    rw [← Except.ok.inj hv]
    rcases Option.or_eq_some_iff.1 hw with hw | ⟨-, hw⟩
    · exact of_lookup h hw
    · exact ha w hw
  · cases hv

theorem of_mapM {inv : Invocation} (h : ∀ n ∈ inv.named, p n.2) :
    ∀ {ps : List Parameter} {vs : List Value}, (∀ a ∈ ps, Default p a) →
      ps.mapM inv.argument = .ok vs → ∀ v ∈ vs, p v
  | [], vs, _, hvs => by
    rw [List.mapM_nil, pure_eq_ok] at hvs
    subst hvs
    simp
  | a :: ps, vs, hps, hvs => by
    rw [List.forall_mem_cons] at hps
    simp only [List.mapM_cons, bind_eq_ok, pure_eq_ok] at hvs
    obtain ⟨v, hv, rest, hrest, rfl⟩ := hvs
    exact List.forall_mem_cons.2 ⟨of_argument h hps.1 hv, of_mapM h hps.2 hrest⟩

/-- Arguments keep their property when they are bound to parameters whose defaults have it. -/
theorem gives_taking {ps : List Parameter} {f : List Value → Except Problem Value}
    (ho : ∀ v, p v → operand v) (hps : ∀ a ∈ ps, Default p a)
    (hf : ∀ vs w, (∀ v ∈ vs.head?, operand v) → (∀ v ∈ vs.tail, p v) → f vs = .ok w → Q w) :
    (taking ps f).Gives operand p Q := by
  intro inv w h hw
  unfold taking at hw
  split at hw
  · cases hw
  · rename_i vs hvs
    unfold Invocation.arguments at hvs
    split at hvs
    · simp only [bind_eq_ok, pure_eq_ok] at hvs
      obtain ⟨rest, hrest, rfl⟩ := hvs
      -- a parameter that is not given positionally takes its keyword or its default
      have hdefault := of_mapM h.named (fun a ha => hps a (List.mem_of_mem_drop ha)) hrest
      refine hf _ w ?_ ?_ (lift_eq_ok.1 hw)
      · intro v hv
        rw [List.head?_append] at hv
        rcases Option.or_eq_some_iff.1 hv with hv | ⟨-, hv⟩
        · exact h.operand v hv
        · exact ho v (hdefault v (List.mem_of_mem_head? hv))
      · intro v hv
        -- without a positional argument the operand itself comes from the defaults
        cases hargs : inv.args with
        | nil =>
          rw [hargs, List.nil_append] at hv
          exact hdefault v (List.mem_of_mem_tail hv)
        | cons x xs =>
          rw [hargs, List.cons_append, List.tail_cons] at hv
          rcases List.mem_append.1 hv with hv | hv
          · exact h.rest v (by rwa [hargs])
          · exact hdefault v hv
    · cases hvs

theorem gives_unary {f : Value → Except Problem Value} (ha : Default p a)
    (hf : ∀ v w, p v → f v = .ok w → Q w) : (unary a f).Gives p p Q := by
  refine gives_taking (fun _ h => h) (List.forall_mem_singleton.2 ha) fun vs w hhead _ hw => ?_
  split at hw
  · exact hf _ w (hhead _ rfl) hw
  · cases hw

theorem gives_binary {f : Value → Value → Except Problem Value} (ha : Default p a)
    (hb : Default p b) (hf : ∀ v x w, p v → p x → f v x = .ok w → Q w) :
    (binary a b f).Gives p p Q := by
  refine gives_taking (fun _ h => h) ?_ fun vs w hhead htail hw => ?_
  · rw [List.forall_mem_cons]
    exact ⟨ha, List.forall_mem_singleton.2 hb⟩
  · split at hw
    · exact hf _ _ w (hhead _ rfl) (htail _ (by simp)) hw
    · cases hw

/-- The first parameter may be given something that the others are not. -/
theorem gives_ternary {f : Value → Value → Value → Except Problem Value}
    (ho : ∀ v, p v → operand v) (ha : Default p a) (hb : Default p b) (hc : Default p c)
    (hf : ∀ v x y w, operand v → p x → p y → f v x y = .ok w → Q w) :
    (ternary a b c f).Gives operand p Q := by
  refine gives_taking ho ?_ fun vs w hhead htail hw => ?_
  · rw [List.forall_mem_cons, List.forall_mem_cons]
    exact ⟨ha, hb, List.forall_mem_singleton.2 hc⟩
  · split at hw
    · exact hf _ _ _ w (hhead _ rfl) (htail _ (by simp)) (htail _ (by simp)) hw
    · cases hw

theorem gives_variadic {f : Value → List Value → List (String × Value) → Except Problem Value}
    (hf : ∀ v args named w, p v → (∀ x ∈ args, p x) → (∀ n ∈ named, p n.2) →
      f v args named = .ok w → Q w) : (variadic f).Gives p p Q := by
  intro inv w h hw
  unfold variadic at hw
  split at hw
  · rename_i v rest hargs _
    have hall := h.args
    rw [hargs, List.forall_mem_cons] at hall
    exact hf v rest inv.named w hall.1 hall.2 h.named (lift_eq_ok.1 hw)
  · rename_i v _ hv
    refine hf v [] _ w (of_lookup h.named hv) (by simp) (fun n hn => ?_) (lift_eq_ok.1 hw)
    exact h.named n (List.mem_filter.1 hn).1
  · cases hw

end Capability

/-! ### Filters -/

namespace Filter

variable {p : Value → Prop} {v w : Value}

/-- What a filter may be given to work on: nothing found as well, if it supplies a default. -/
def Operand (p : Value → Prop) (name : String) (v : Value) : Prop :=
  p v ∨ (isLenient name = true ∧ v = .undefined)

variable (hp : Value.Hereditary p)
include hp

/-- The items that a filter takes from a value. -/
theorem of_expectItems {name : String} {xs : List Value} (h : p v)
    (hxs : expectItems name v = .ok xs) : ∀ x ∈ xs, p x := by
  unfold expectItems at hxs
  split at hxs
  · rename_i ys hys
    rw [← Except.ok.inj hxs]
    exact hp.items h hys
  · cases hxs

theorem of_lookAt {path : Value} (h : p v) (hw : lookAt v path = .ok w) : Value.Found p w := by
  unfold lookAt at hw
  split at hw
  · rename_i found hfound
    rw [← Except.ok.inj hw]
    exact hp.resolveBy h hfound
  · cases hw

omit hp in
theorem of_namedArguments {names : List String} {args : List Value}
    {named given : List (String × Value)} (hargs : ∀ a ∈ args, p a) (hnamed : ∀ a ∈ named, p a.2)
    (h : namedArguments names args named = .ok given) : ∀ a ∈ given, p a.2 := by
  -- the arguments that are known already are the invariant of the recursion over the keywords
  have hgo : ∀ (ns known : List (String × Value)), (∀ a ∈ known, p a.2) → (∀ a ∈ ns, p a.2) →
      namedArguments.go names known ns = .ok given → ∀ a ∈ given, p a.2 := by
    intro ns
    induction ns with
    | nil =>
      intro known hknown _ h
      rw [namedArguments.go] at h
      rw [← Except.ok.inj h]
      exact hknown
    | cons a rest ih =>
      intro known hknown hns h
      rw [List.forall_mem_cons] at hns
      rw [namedArguments.go] at h
      split at h
      · cases h
      split at h
      · cases h
      refine ih _ (fun b hb => ?_) hns.2 h
      rcases List.mem_append.1 hb with hb | hb
      · exact hknown b hb
      · rw [List.mem_singleton.1 hb]
        exact hns.1
  unfold namedArguments at h
  split at h
  · cases h
  · exact hgo named _ (fun a ha => hargs _ (List.of_mem_zip ha).2) hnamed h

/-! ### Filters of texts -/

theorem of_onText {name : String} {f : String → String} (hw : onText name f v = .ok w) : p w := by
  simp only [onText, bind_eq_ok, pure_eq_ok] at hw
  obtain ⟨s, -, rfl⟩ := hw
  exact hp.text _

theorem of_urlencode (h : p v) (hw : urlencode v = .ok w) : p w := by
  simp only [urlencode, bind_eq_ok, pure_eq_ok] at hw
  obtain ⟨s, -, rfl⟩ := hw
  split
  · exact h
  · exact hp.text _

theorem of_wordcount (hw : wordcount v = .ok w) : p w := by
  simp only [wordcount, bind_eq_ok, pure_eq_ok] at hw
  obtain ⟨s, -, rfl⟩ := hw
  exact hp.number (.int _)

theorem of_replace {args : List Value} {named : List (String × Value)}
    (hw : replace v args named = .ok w) : p w := by
  simp only [replace, bind_eq_ok] at hw
  obtain ⟨s, -, given, -, hw⟩ := hw
  split at hw
  · simp only [bind_eq_ok, pure_eq_ok] at hw
    obtain ⟨old, -, new, -, rfl⟩ := hw
    exact hp.text _
  · cases hw

theorem of_truncate {length ending : Value} (h : p v) (hw : truncate v length ending = .ok w) :
    p w := by
  simp only [truncate, bind_eq_ok] at hw
  obtain ⟨s, -, n, -, hw⟩ := hw
  split at hw
  · rw [← Except.ok.inj hw]
    exact h
  · split at hw
    · rw [← Except.ok.inj hw]
      exact hp.text _
    · cases hw

theorem of_split {pattern : Value} (h : p v) (hw : split v pattern = .ok w) : p w := by
  simp only [split, bind_eq_ok] at hw
  obtain ⟨s, -, sep, -, hw⟩ := hw
  split_ifs at hw
  · cases hw
  · rw [← Except.ok.inj hw]
    exact hp.list (List.forall_mem_singleton.2 h)
  · rw [← Except.ok.inj hw]
    refine hp.list fun x hx => ?_
    obtain ⟨piece, -, rfl⟩ := List.mem_map.1 hx
    exact hp.text _

/-! ### Filters of numbers -/

omit hp in
theorem of_elim {o : Option α} {default : Value} {f : α → Value} (h : p default)
    (hf : ∀ a, p (f a)) : p (o.elim default f) := by
  cases o with
  | none => exact h
  | some a => exact hf a

theorem of_int {default base : Value} (h : p default) (hw : int v default base = .ok w) : p w := by
  unfold int at hw
  split at hw
  · split at hw
    · simp only [bind_eq_ok, pure_eq_ok] at hw
      obtain ⟨n, -, rfl⟩ := hw
      exact of_elim h fun n => hp.number (.int n)
    · cases hw
  · split at hw
    · simp only [bind_eq_ok, pure_eq_ok] at hw
      obtain ⟨n, -, rfl⟩ := hw
      exact hp.number (.int _)
    · cases hw

theorem of_float {default : Value} (h : p default) (hw : float v default = .ok w) : p w := by
  unfold float at hw
  split at hw
  · rw [← Except.ok.inj hw]
    exact of_elim h fun x => hp.number (.float x)
  · split at hw
    · simp only [bind_eq_ok, pure_eq_ok] at hw
      obtain ⟨n, -, rfl⟩ := hw
      exact hp.number (.float _)
    · cases hw

theorem of_abs (hw : abs v = .ok w) : p w := by
  simp only [abs, bind_eq_ok, pure_eq_ok] at hw
  obtain ⟨n, -, rfl⟩ := hw
  exact hp.number _

theorem of_round {method precision : Value} (hw : round v method precision = .ok w) : p w := by
  simp only [round, bind_eq_ok] at hw
  obtain ⟨n, -, q, -, scale, -, x, -, scaled, -, hw⟩ := hw
  split at hw
  · cases hw
  · simp only [bind_eq_ok, pure_eq_ok] at hw
    obtain ⟨a, -, b, -, rfl⟩ := hw
    exact hp.number _

omit hp in
theorem of_pluralize {singular plural : Value} (hs : p singular) (hpl : p plural)
    (hw : pluralize v singular plural = .ok w) : p w := by
  simp only [pluralize, bind_eq_ok, pure_eq_ok] at hw
  obtain ⟨n, -, rfl⟩ := hw
  split
  · exact hs
  · exact hpl

/-! ### Filters of arrays and objects -/

theorem of_length (hw : length v = .ok w) : p w := by
  unfold length at hw
  split at hw <;> cases hw <;> exact hp.number (.int _)

theorem of_reverse (h : p v) (hw : reverse v = .ok w) : p w := by
  cases v <;> simp only [reverse, refuse, Except.ok.injEq, reduceCtorEq] at hw
  case text | markup => exact hw ▸ hp.text _
  case list xs | tuple xs =>
    exact hw ▸ hp.list fun x hx => hp.items h rfl x (List.mem_reverse.1 hx)

/-- An item that is picked out of others, or an empty text. -/
theorem of_getD {o : Option Value} (h : ∀ x, o = some x → p x) : p (o.getD (.text "")) := by
  cases o with
  | none => exact hp.text ""
  | some x => exact h x rfl

theorem of_first (h : p v) (hw : first v = .ok w) : p w := by
  simp only [first, bind_eq_ok, pure_eq_ok] at hw
  obtain ⟨xs, hxs, rfl⟩ := hw
  exact of_getD hp fun x hx => of_expectItems hp h hxs x (List.mem_of_mem_head? hx)

theorem of_last (h : p v) (hw : last v = .ok w) : p w := by
  simp only [last, bind_eq_ok, pure_eq_ok] at hw
  obtain ⟨xs, hxs, rfl⟩ := hw
  exact of_getD hp fun x hx => of_expectItems hp h hxs x (List.mem_of_getLast? hx)

theorem of_nth {index : Value} (h : p v) (hw : nth v index = .ok w) : p w := by
  simp only [nth, bind_eq_ok] at hw
  obtain ⟨xs, hxs, i, -, hw⟩ := hw
  split at hw
  · cases hw
  · rw [← Except.ok.inj hw]
    exact of_getD hp fun x hx => of_expectItems hp h hxs x (List.mem_of_getElem? hx)

theorem of_join {sep : Value} (hw : join v sep = .ok w) : p w := by
  simp only [join, bind_eq_ok, pure_eq_ok] at hw
  obtain ⟨xs, -, s, -, texts, -, rfl⟩ := hw
  exact hp.text _

omit hp in
/-- The values that wait to be sorted are those that were added. -/
theorem of_mem_addAll {path : Value} : ∀ {vs : List Value} {s t : Sorter},
    Value.addAll path s vs = .ok t → (∀ e ∈ s.pairs, p e.1) → (∀ x ∈ vs, p x) →
      ∀ e ∈ t.pairs, p e.1
  | [], s, t, h, hs, _ => by
    rw [Value.addAll] at h
    rw [← Except.ok.inj h]
    exact hs
  | x :: rest, s, t, h, hs, hx => by
    rw [List.forall_mem_cons] at hx
    simp only [Value.addAll, Sorter.add, bind_eq_ok] at h
    obtain ⟨key, -, s', ⟨kind, -, hadd⟩, h⟩ := h
    refine of_mem_addAll h ?_ hx.2
    split at hadd
    · rw [← Except.ok.inj hadd]
      exact List.forall_mem_cons.2 ⟨hx.1, hs⟩
    · unfold mixedKinds at hadd
      split at hadd <;> cases hadd

omit hp in
/-- Sorting gives no values but those that wait. -/
theorem mem_sorted {s : Sorter} {x : Value} (h : x ∈ s.sorted) : ∃ e ∈ s.pairs, e.1 = x := by
  unfold Sorter.sorted at h
  dsimp only at h
  split at h
  · obtain ⟨e, he, rfl⟩ := List.mem_map.1 h
    exact ⟨e, List.mem_reverse.1 (RunSort.mem_of_mem_sort he), rfl⟩
  · obtain ⟨e, he, rfl⟩ := List.mem_map.1 h
    exact ⟨e, List.mem_reverse.1 (List.mem_mergeSort.1 he), rfl⟩

omit hp in
theorem mem_of_mem_sort {path x : Value} {xs ys : List Value} (h : Value.sort xs path = .ok ys)
    (hx : x ∈ ys) : x ∈ xs := by
  unfold Value.sort at h
  split at h
  · rw [← Except.ok.inj h] at hx
    exact hx
  · simp only [Value.sortLike, bind_eq_ok, pure_eq_ok] at h
    obtain ⟨key, -, s, hs, t, ht, rfl⟩ := h
    have hempty : s.pairs = [] := by
      simp only [Sorter.ofFirst, bind_eq_ok] at hs
      obtain ⟨kind, -, hs⟩ := hs
      split at hs
      · rw [← Except.ok.inj hs]
      · cases hs
    obtain ⟨e, he, rfl⟩ := mem_sorted hx
    exact of_mem_addAll ht (by simp [hempty]) (fun x hx => hx) e he

theorem of_sort {path : Value} (h : p v) (hw : sort v path = .ok w) : p w := by
  simp only [sort, bind_eq_ok, pure_eq_ok] at hw
  obtain ⟨xs, hxs, ys, hys, rfl⟩ := hw
  exact hp.list fun x hx => of_expectItems hp h hxs x (mem_of_mem_sort hys hx)

omit hp in
theorem mem_of_mem_keepNew {path x : Value} : ∀ {xs ys : List Value} {d : Distinct},
    Value.keepNew path d xs = .ok ys → x ∈ ys → x ∈ xs
  | [], ys, d, h, hx => by
    rw [Value.keepNew] at h
    rw [← Except.ok.inj h] at hx
    exact hx
  | y :: rest, ys, d, h, hx => by
    simp only [Value.keepNew, bind_eq_ok] at h
    obtain ⟨key, -, h⟩ := h
    split at h
    · exact List.mem_cons_of_mem _ (mem_of_mem_keepNew h hx)
    · simp only [bind_eq_ok, pure_eq_ok] at h
      obtain ⟨⟨isNew, d'⟩, -, kept, hkept, rfl⟩ := h
      split at hx
      · rcases List.mem_cons.1 hx with rfl | hx
        · exact List.mem_cons_self ..
        · exact List.mem_cons_of_mem _ (mem_of_mem_keepNew hkept hx)
      · exact List.mem_cons_of_mem _ (mem_of_mem_keepNew hkept hx)

theorem of_unique {path caseSensitive : Value} (h : p v)
    (hw : unique v path caseSensitive = .ok w) : p w := by
  simp only [unique, bind_eq_ok, pure_eq_ok] at hw
  obtain ⟨xs, hxs, ys, hys, rfl⟩ := hw
  refine hp.list fun x hx => of_expectItems hp h hxs x ?_
  unfold Value.distinct at hys
  split at hys
  · rw [← Except.ok.inj hys] at hx
    exact hx
  · simp only [Value.distinctLike, bind_eq_ok] at hys
    obtain ⟨key, -, d, -, hys⟩ := hys
    exact mem_of_mem_keepNew hys hx

theorem of_slice {start stop : Value} (h : p v) (hw : slice v start stop = .ok w) : p w := by
  have hrun {xs : List Value} (hxs : ∀ x ∈ xs, p x) (i j : Nat) : p (.list (run xs i j)) :=
    hp.list fun x hx => hxs x (List.mem_of_mem_drop (List.mem_of_mem_take hx))
  simp only [slice, bind_eq_ok] at hw
  obtain ⟨xs, hxs, i, -, hw⟩ := hw
  split at hw
  · rw [← Except.ok.inj hw]
    exact hrun (of_expectItems hp h hxs) _ _
  · simp only [bind_eq_ok, pure_eq_ok] at hw
    obtain ⟨j, -, rfl⟩ := hw
    exact hrun (of_expectItems hp h hxs) _ _

theorem of_attribute? {path item : Value} {o : Option Value} (h : p item)
    (ho : attribute? path item = .ok o) : ∀ x, o = some x → p x := by
  simp only [attribute?, bind_eq_ok, pure_eq_ok] at ho
  obtain ⟨found, hfound, rfl⟩ := ho
  intro x hx
  split at hx
  · cases hx
  · rename_i hset
    cases hx
    refine (of_lookAt hp h hfound).resolve_right fun hu => hset ?_
    rw [hu]
    rfl

/-- The keys and items of groups have a property, and the keys are texts. -/
def Grouped (p : Value → Prop) (groups : List (Value × List Value)) : Prop :=
  ∀ g ∈ groups, g.1.text?.isSome = true ∧ p g.1 ∧ ∀ x ∈ g.2, p x

omit hp in
theorem grouped_addTo {key item : Value} (htext : key.text?.isSome = true) (hk : p key)
    (hi : p item) : ∀ {groups : List (Value × List Value)}, Grouped p groups →
      Grouped p (addTo groups key item)
  | [], _ => List.forall_mem_singleton.2 ⟨htext, hk, List.forall_mem_singleton.2 hi⟩
  | (k, items) :: rest, h => by
    unfold Grouped at h
    rw [List.forall_mem_cons] at h
    rw [addTo]
    split
    · refine List.forall_mem_cons.2 ⟨⟨h.1.1, h.1.2.1, fun x hx => ?_⟩, h.2⟩
      rcases List.mem_append.1 hx with hx | hx
      · exact h.1.2.2 x hx
      · rw [List.mem_singleton.1 hx]
        exact hi
    · exact List.forall_mem_cons.2 ⟨h.1, grouped_addTo htext hk hi h.2⟩

theorem grouped_group {path : Value} : ∀ {xs : List Value}
    {groups out : List (Value × List Value)}, (∀ x ∈ xs, p x) → Grouped p groups →
      group path groups xs = .ok out → Grouped p out
  | [], groups, out, _, hg, h => by
    rw [group] at h
    rw [← Except.ok.inj h]
    exact hg
  | x :: rest, groups, out, hxs, hg, h => by
    rw [List.forall_mem_cons] at hxs
    simp only [group, bind_eq_ok] at h
    obtain ⟨o, ho, h⟩ := h
    split at h
    · exact grouped_group hxs.2 hg h
    · rename_i found
      simp only [bind_eq_ok] at h
      obtain ⟨key, hkey, h⟩ := h
      obtain ⟨hk, htext⟩ := hp.asText (of_attribute? hp hxs.1 ho found rfl) hkey
      exact grouped_group hxs.2 (grouped_addTo htext hk hxs.1 hg) h

theorem of_groupBy {path : Value} (h : p v) (hw : groupBy v path = .ok w) : p w := by
  simp only [groupBy, bind_eq_ok, pure_eq_ok] at hw
  obtain ⟨xs, hxs, groups, hgroups, rfl⟩ := hw
  have hall := grouped_group hp (of_expectItems hp h hxs) (by simp [Grouped]) hgroups
  refine hp.object fun e he => ?_
  obtain ⟨g, hg, rfl⟩ := List.mem_map.1 he
  obtain ⟨htext, hk, hitems⟩ := hall g hg
  exact ⟨htext, hk, hp.list hitems⟩

omit hp in
theorem mem_of_mem_select {path wanted x : Value} : ∀ {xs ys : List Value},
    select path wanted xs = .ok ys → x ∈ ys → x ∈ xs
  | [], ys, h, hx => by
    rw [select] at h
    rw [← Except.ok.inj h] at hx
    exact hx
  | y :: rest, ys, h, hx => by
    simp only [select, bind_eq_ok, pure_eq_ok] at h
    obtain ⟨o, -, kept, hkept, rfl⟩ := h
    split at hx
    · rcases List.mem_cons.1 hx with rfl | hx
      · exact List.mem_cons_self ..
      · exact List.mem_cons_of_mem _ (mem_of_mem_select hkept hx)
    · exact List.mem_cons_of_mem _ (mem_of_mem_select hkept hx)

theorem of_filter {path wanted : Value} (h : p v) (hw : filter v path wanted = .ok w) : p w := by
  simp only [filter, bind_eq_ok, pure_eq_ok] at hw
  obtain ⟨xs, hxs, ys, hys, rfl⟩ := hw
  exact hp.list fun x hx => of_expectItems hp h hxs x (mem_of_mem_select hys hx)

theorem of_pluck {path : Value} : ∀ {xs ys : List Value}, (∀ x ∈ xs, p x) →
    pluck path xs = .ok ys → ∀ y ∈ ys, p y
  | [], ys, _, h => by
    rw [pluck] at h
    rw [← Except.ok.inj h]
    simp
  | x :: rest, ys, hxs, h => by
    rw [List.forall_mem_cons] at hxs
    simp only [pluck, bind_eq_ok, pure_eq_ok] at h
    obtain ⟨o, ho, plucked, hplucked, rfl⟩ := h
    intro y hy
    rcases List.mem_append.1 hy with hy | hy
    · exact of_attribute? hp hxs.1 ho y (Option.mem_toList.1 hy)
    · exact of_pluck hxs.2 hplucked y hy

theorem of_map {path : Value} (h : p v) (hw : map v path = .ok w) : p w := by
  simp only [map, bind_eq_ok, pure_eq_ok] at hw
  obtain ⟨xs, hxs, ys, hys, rfl⟩ := hw
  exact hp.list (of_pluck hp (of_expectItems hp h hxs) hys)

theorem of_concat {args : List Value} {named : List (String × Value)} (h : p v)
    (hargs : ∀ a ∈ args, p a) (hnamed : ∀ a ∈ named, p a.2)
    (hw : concat v args named = .ok w) : p w := by
  simp only [concat, bind_eq_ok] at hw
  obtain ⟨xs, hxs, given, hgiven, hw⟩ := hw
  split at hw
  · cases hw
  · rename_i other hother
    have hp' := Capability.of_lookup (of_namedArguments hargs hnamed hgiven) hother
    rw [← Except.ok.inj hw]
    refine hp.list fun x hx => ?_
    rcases List.mem_append.1 hx with hx | hx
    · exact of_expectItems hp h hxs x hx
    · cases hitems : other.items? with
      | none =>
        rw [hitems] at hx
        rw [List.mem_singleton.1 hx]
        exact hp'
      | some ys =>
        rw [hitems] at hx
        exact hp.items hp' hitems x hx

omit hp in
/-- What is neither nothing nor refused has been found. -/
theorem of_found (h : Value.Found p v) (hv : ¬v.isUndefined = true) : p v :=
  h.resolve_right fun hu => hv (by rw [hu]; rfl)

/-- A key that is missing is refused where no default is given for it. -/
theorem of_get {key default : Value} (h : Value.Found p v) (hd : Value.Found p default)
    (hw : get v key default = .ok w) : p w := by
  unfold get at hw
  split at hw
  · rename_i es
    have hes : p (.object es) := h.resolve_right (by simp)
    split at hw
    · cases hw
    split at hw
    · rename_i e he
      rw [← Except.ok.inj hw]
      exact (hp.entries hes e (List.mem_of_find?_eq_some he)).2
    · split at hw
      · cases hw
      · rename_i hset
        rw [← Except.ok.inj hw]
        exact of_found hd hset
  · cases hw

/-! ### Filters of any value -/

theorem of_jsonEncode {pretty : Value} (hw : jsonEncode v pretty = .ok w) : p w := by
  unfold jsonEncode at hw
  split at hw
  · rw [← Except.ok.inj hw]
    exact hp.text _
  · cases hw

omit hp in
/-- A default stands in for what has not been found. -/
theorem of_default {value boolean : Value} (h : Value.Found p v) (hd : p value)
    (hw : default v value boolean = .ok w) : p w := by
  unfold default orDefault at hw
  rw [← Except.ok.inj hw]
  split_ifs with hu
  · exact hd
  all_goals first | exact hd | exact of_found h hu

omit hp in
theorem markup_escapeWith {f : String → String} (hw : escapeWith f v = .ok w) :
    ∃ s, w = .markup s := by
  unfold escapeWith at hw
  split at hw
  · exact ⟨_, (Except.ok.inj hw).symm⟩
  · simp only [bind_eq_ok, pure_eq_ok] at hw
    obtain ⟨s, -, rfl⟩ := hw
    exact ⟨f s, rfl⟩

omit hp in
theorem markup_safe (hw : safe v = .ok w) : ∃ s, w = .markup s := by
  simp only [safe, bind_eq_ok, pure_eq_ok] at hw
  obtain ⟨s, -, rfl⟩ := hw
  exact ⟨s, rfl⟩

/-! ### The tables -/

open Capability Parameter

theorem gives_ofTexts : ∀ e ∈ ofTexts, e.2.Gives p p p := by
  have onText {name : String} {f : String → String} : (unary value (onText name f)).Gives p p p :=
    gives_unary (default_none rfl) fun _ _ _ hw => of_onText hp hw
  simp only [ofTexts, List.forall_mem_cons, List.not_mem_nil, false_implies, implies_true, and_true]
  refine ⟨onText, onText, onText, onText, onText, ?_, ?_, ?_, onText, ?_, ?_⟩
  · exact gives_variadic fun _ _ _ _ _ _ _ hw => of_replace hp hw
  · exact gives_ternary (fun _ h => h) (default_none rfl) (default_optional _ (hp.number (.int _)))
      (default_optional _ (hp.text _)) fun _ _ _ _ h _ _ hw => of_truncate hp h hw
  · exact gives_unary (default_none rfl) fun _ _ _ hw => of_wordcount hp hw
  · exact gives_binary (default_none rfl) (default_none rfl) fun _ _ _ h _ hw => of_split hp h hw
  · exact gives_unary (default_none rfl) fun _ _ h hw => of_urlencode hp h hw

theorem gives_ofNumbers : ∀ e ∈ ofNumbers, e.2.Gives p p p := by
  simp only [ofNumbers, List.forall_mem_cons, List.not_mem_nil, false_implies, implies_true,
    and_true]
  refine ⟨?_, ?_, ?_, ?_, ?_⟩
  · exact gives_ternary (fun _ h => h) (default_none rfl) (default_optional _ (hp.number (.int _)))
      (default_optional _ (hp.number (.int _))) fun _ _ _ _ _ h _ hw => of_int hp h hw
  · exact gives_binary (default_none rfl) (default_optional _ (hp.number (.float _)))
      fun _ _ _ _ h hw => of_float hp h hw
  · exact gives_unary (default_none rfl) fun _ _ _ hw => of_abs hp hw
  · exact gives_ternary (fun _ h => h) (default_none rfl) (default_optional _ (hp.text _))
      (default_optional _ (hp.number (.int _))) fun _ _ _ _ _ _ _ hw => of_round hp hw
  · exact gives_ternary (fun _ h => h) (default_none rfl) (default_optional _ (hp.text _))
      (default_optional _ (hp.text _)) fun _ _ _ _ _ hs hl hw => of_pluralize hs hl hw

theorem gives_ofArrays : ∀ e ∈ ofArrays, e.2.Gives p p p := by
  simp only [ofArrays, List.forall_mem_cons, List.not_mem_nil, false_implies, implies_true,
    and_true]
  refine ⟨?_, ?_, ?_, ?_, ?_, ?_, ?_, ?_, ?_, ?_, ?_, ?_, ?_, ?_⟩
  · exact gives_unary (default_none rfl) fun _ _ _ hw => of_length hp hw
  · exact gives_unary (default_none rfl) fun _ _ h hw => of_reverse hp h hw
  · exact gives_unary (default_none rfl) fun _ _ h hw => of_first hp h hw
  · exact gives_unary (default_none rfl) fun _ _ h hw => of_last hp h hw
  · exact gives_binary (default_none rfl) (default_none rfl) fun _ _ _ h _ hw => of_nth hp h hw
  · exact gives_binary (default_none rfl) (default_optional _ (hp.text _))
      fun _ _ _ _ _ hw => of_join hp hw
  · exact gives_binary (default_none rfl) (default_optional _ (hp.text _))
      fun _ _ _ h _ hw => of_sort hp h hw
  · exact gives_ternary (fun _ h => h) (default_none rfl) (default_optional _ (hp.text _))
      (default_optional _ (hp.bool _)) fun _ _ _ _ h _ _ hw => of_unique hp h hw
  · exact gives_ternary (fun _ h => h) (default_none rfl) (default_optional _ (hp.number (.int _)))
      (default_optional _ hp.null) fun _ _ _ _ h _ _ hw => of_slice hp h hw
  · exact gives_binary (default_none rfl) (default_none rfl) fun _ _ _ h _ hw => of_groupBy hp h hw
  · exact gives_ternary (fun _ h => h) (default_none rfl) (default_none rfl)
      (default_optional _ hp.null) fun _ _ _ _ h _ _ hw => of_filter hp h hw
  · exact gives_binary (default_none rfl) (default_none rfl) fun _ _ _ h _ hw => of_map hp h hw
  · exact gives_variadic fun _ _ _ _ h hargs hnamed hw => of_concat hp h hargs hnamed hw
  · -- The default of the last parameter is nothing at all.
    intro inv w h hw
    refine gives_ternary (p := Value.Found p) (fun _ h => h) (default_none rfl) (default_none rfl)
      (default_optional _ (Or.inr rfl)) (fun _ _ _ _ h _ hd hw => of_get hp h hd hw) inv w ?_ hw
    exact h.mono (fun _ h => Or.inl h) fun _ h => Or.inl h

omit hp in
/-- No filter of texts, numbers or arrays is safe or takes what has not been found. -/
theorem plain_names : ∀ e ∈ ofTexts ++ ofNumbers ++ ofArrays,
    isSafe e.1 = false ∧ isLenient e.1 = false := by
  decide

omit hp in
/-- A filter that supplies no default is given values alone. -/
theorem gives_strict {Q : Value → Prop} {name : String} {f : Behaviour}
    (hname : isLenient name = false) (hf : f.Gives p p Q) : f.Gives (Operand p name) p Q :=
  fun inv w h hw =>
    hf inv w (h.mono (fun _ hv => hv.resolve_right (by simp [hname])) fun _ h => h) hw

/-- Of the filters of any value, the safe ones mark texts, and the others make values. -/
theorem gives_ofValues : ∀ e ∈ ofValues,
    (isSafe e.1 = true ∧ e.2.Gives (Operand p e.1) p fun w => ∃ s, w = .markup s) ∨
    (isSafe e.1 = false ∧ e.2.Gives (Operand p e.1) p p) := by
  simp only [ofValues, List.forall_mem_cons, List.not_mem_nil, false_implies, implies_true,
    and_true]
  refine ⟨?_, ?_, ?_, ?_, ?_, ?_⟩
  · refine Or.inr ⟨by decide, gives_strict (by decide) ?_⟩
    exact gives_binary (default_none rfl) (default_optional _ (hp.bool _))
      fun _ _ _ _ _ hw => of_jsonEncode hp hw
  · refine Or.inr ⟨by decide, gives_strict (by decide) ?_⟩
    exact gives_unary (default_none rfl) fun _ _ h hw => (hp.asText h hw).1
  · refine Or.inr ⟨by decide, ?_⟩
    exact gives_ternary (fun _ h => Or.inl h) (default_none rfl) (default_optional _ (hp.text _))
      (default_optional _ (hp.bool _))
      fun _ _ _ _ h hd _ hw => of_default (h.imp_right And.right) hd hw
  · refine Or.inl ⟨by decide, gives_strict (by decide) ?_⟩
    exact gives_unary (default_none rfl) fun _ _ _ hw => markup_safe hw
  · refine Or.inl ⟨by decide, gives_strict (by decide) ?_⟩
    exact gives_unary (default_none rfl) fun _ _ _ hw => markup_escapeWith hw
  · refine Or.inl ⟨by decide, gives_strict (by decide) ?_⟩
    exact gives_unary (default_none rfl) fun _ _ _ hw => markup_escapeWith hw

end Filter

/-! ### Functions -/

namespace Function

open Capability Parameter

variable {p : Value → Prop} (hp : Value.Hereditary p) {host : Host}
include hp

theorem of_range {stop start step w : Value} (hw : range stop start step = .ok w) : p w := by
  simp only [range, bind_eq_ok] at hw
  obtain ⟨last, -, first, -, stride, -, hw⟩ := hw
  split at hw
  · cases hw
  split at hw
  · cases hw
  split at hw
  · cases hw
  split at hw
  · cases hw
  cases hw
  refine hp.list fun x hx => ?_
  obtain ⟨n, -, rfl⟩ := List.mem_map.1 hx
  exact hp.number (.int _)

theorem of_now {timestamp utc w : Value} (hw : now host timestamp utc = .ok w) : p w := by
  unfold now at hw
  dsimp only at hw
  split at hw <;> cases hw
  · exact hp.number (.int _)
  · exact hp.text _

/-- A variable that is not set is refused where no default is given for it. -/
theorem of_getEnv {name default w : Value} (h : Value.Found p default)
    (hw : getEnv host name default = .ok w) : p w := by
  unfold getEnv at hw
  split at hw
  · cases hw
  split at hw
  · cases hw
    exact hp.text _
  · split at hw
    · cases hw
    · rename_i hset
      cases hw
      exact Filter.of_found h hset

theorem gives_behaviours : ∀ e ∈ behaviours host, e.2.Gives p p p := by
  simp only [behaviours, List.forall_mem_cons, List.not_mem_nil, false_implies, implies_true,
    and_true]
  refine ⟨?_, ?_, ?_, ?_⟩
  · exact gives_ternary (fun _ h => h) (default_none rfl) (default_optional _ (hp.number (.int _)))
      (default_optional _ (hp.number (.int _))) fun _ _ _ _ _ _ _ hw => of_range hp hw
  · exact gives_binary (default_optional _ (hp.bool _)) (default_optional _ (hp.bool _))
      fun _ _ _ _ _ hw => of_now hp hw
  · intro inv w h hw
    refine gives_binary (p := Value.Found p) (default_none rfl) (default_optional _ (Or.inr rfl))
      (fun _ _ _ _ hd hw => of_getEnv hp hd hw) inv w ?_ hw
    exact h.mono (fun _ h => Or.inl h) fun _ h => Or.inl h
  · refine gives_unary (default_none rfl) fun _ _ _ hw => ?_
    unfold throw at hw
    split at hw <;> cases hw

end Function

/-! ### Registered capabilities -/

namespace Capability

variable {p : Value → Prop}

/-- A capability that is not safe marks no text itself. -/
theorem of_demoted (hp : Value.Hereditary p) {c : Capability} {v : Value} (hc : c.safe = false)
    (h : p v) : p (Render.demoted c v) := by
  unfold Render.demoted
  rw [hc]
  split
  · exact hp.text _
  · exact hp.text _
  · exact h

/-- A registered one of some capabilities with its behaviour. -/
theorem mem_of_capabilities {entries : List (String × Behaviour)} {isSafe : String → Bool}
    {name : String} {c : Capability} (h : (capabilities entries isSafe).get? name = some c) :
    ∃ f, (name, f) ∈ entries ∧ c = { name, behaviour := some f, safe := isSafe name } := by
  unfold capabilities at h
  rw [Table.get?_map] at h
  obtain ⟨f, hf, rfl⟩ := Option.map_eq_some_iff.1 h
  rcases Table.get?_foldl_insert_cases entries .empty hf with hf | hf
  · exact ⟨f, hf, rfl⟩
  · cases hf

end Capability

/-- A built-in filter is one of texts, numbers or arrays, or one of any value. -/
theorem Filter.mem_of_get? {name : String} {c : Capability} (h : Filter.all.get? name = some c) :
    ∃ f, c = { name, behaviour := some f, safe := isSafe name } ∧
      ((name, f) ∈ ofTexts ++ ofNumbers ++ ofArrays ∨ (name, f) ∈ ofValues) := by
  obtain ⟨f, hf, rfl⟩ := Capability.mem_of_capabilities h
  exact ⟨f, rfl, List.mem_append.1 hf⟩

/-- The filters of texts, numbers and arrays make values of values, and none of them is safe. -/
theorem Filter.gives_plain {p : Value → Prop} (hp : Value.Hereditary p) :
    ∀ e ∈ ofTexts ++ ofNumbers ++ ofArrays,
      isSafe e.1 = false ∧ e.2.Gives (Operand p e.1) p p := by
  intro e he
  obtain ⟨hsafe, hlenient⟩ := plain_names e he
  refine ⟨hsafe, gives_strict hlenient ?_⟩
  rw [List.mem_append, List.mem_append] at he
  rcases he with (he | he) | he
  · exact gives_ofTexts hp e he
  · exact gives_ofNumbers hp e he
  · exact gives_ofArrays hp e he

end Stencil
