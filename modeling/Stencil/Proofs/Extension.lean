import Stencil.Proofs.History

/-! Resolution that succeeds. A climb along a walk that meets no name twice gets to its end, so a set
    of built templates whose walks are of this kind, and whose imports are registered, resolves.
    A resolved set *within* a larger one resolves there to what it is already: walks from
    its templates never leave it, hence they see the same ancestors and the same blocks. -/

namespace Stencil.Lineage

variable {ts us : Table Template}

/-- Every template has a walk on which no name comes up twice, and its own name not at all. -/
def Climbs (ts : Table Template) : Prop :=
  ∀ n t, ts.get? n = some t → ∃ names, Walk ts t names ∧ (n :: names).Nodup

/-- The templates of the first set are templates of the second one. -/
def Within (ts us : Table Template) : Prop := ∀ n t, ts.get? n = some t → us.get? n = some t

/-! ### Climbs that succeed -/

/-- A climb along a walk gets to its end if the walk meets only new names and no name twice. -/
theorem climb_of_walk {origin : String} {t : Template} {names : List String}
    (h : Walk ts t names) (ho : origin ∉ names) (hd : names.Nodup) {met : List String}
    (hmet : ∀ n ∈ names, n ∉ met) : climb ts origin met t = .ok (met ++ names) := by
  induction h generalizing met with
  | root hp => rw [climb, hp]; simp
  | @up t q p names hp hq _ ih =>
    obtain ⟨hne, ho⟩ := List.ne_and_not_mem_of_not_mem_cons ho
    obtain ⟨hfresh, hd⟩ := List.nodup_cons.1 hd
    rw [climb_registered hp hne.symm hq, if_neg (hmet p (List.mem_cons_self ..)), ih ho hd,
      List.append_assoc]
    · rfl
    · intro n hn hin
      rcases List.mem_append.1 hin with hin | hin
      · exact hmet n (List.mem_cons_of_mem _ hn) hin
      · rw [List.mem_singleton] at hin
        exact hfresh (hin ▸ hn)

theorem ancestors_of_walk {t : Template} {names : List String} (h : Walk ts t names)
    (hd : (t.name :: names).Nodup) : ancestors ts t = .ok names := by
  obtain ⟨ho, hd⟩ := List.nodup_cons.1 hd
  rw [ancestors, climb_of_walk h ho hd (by simp), List.nil_append]

/-- Resolution records the walk of a template and the blocks of its lineage. -/
theorem resolveOne_of_walk {t : Template} {names : List String}
    (hp : isPlain t = true → t.parents = [] ∧ t.chains = .empty) (h : Walk ts t names)
    (hd : (t.name :: names).Nodup) : resolveOne ts t =
      .ok { t with parents := names, chains := definitions (t :: names.filterMap ts.get?) } := by
  cases hplain : isPlain t with
  | false =>
    rw [resolveOne, hplain, ancestors_of_walk h hd]
    rfl
  | true =>
    obtain ⟨hparents, hchains⟩ := hp hplain
    rw [resolveOne, if_pos hplain]
    simp only [isPlain, Bool.and_eq_true, Option.isNone_iff_eq_none, List.isEmpty_iff] at hplain
    have hnames : names = [] := h.unique (.root hplain.1)
    have hnone : definitions [t] = .empty := by simp [definitions, addOwner, hplain.2]
    subst hnames
    rw [List.filterMap_nil, hnone, ← hparents, ← hchains]

/-! ### Sets that resolve -/

theorem exists_resolveAll : ∀ (es : List (String × Template)) (resolved : Table Template),
    (∀ e ∈ es, ∃ r, resolveOne ts e.2 = .ok r) → ∃ rs, resolveAll ts resolved es = .ok rs
  | [], resolved, _ => ⟨resolved, rfl⟩
  | (n, t) :: rest, resolved, h => by
    obtain ⟨r, hr⟩ := h (n, t) (List.mem_cons_self ..)
    obtain ⟨rs, hrs⟩ := exists_resolveAll rest (resolved.insert n r) fun e he =>
      h e (List.mem_cons_of_mem _ he)
    exact ⟨rs, by rw [resolveAll, hr]; exact hrs⟩

/-- A filed set whose templates have walks without repetition resolves. -/
theorem exists_resolve (hf : Filed ts) (hc : Climbs ts) : ∃ rs, resolve ts = .ok rs := by
  refine exists_resolveAll ts.entries .empty fun e he => ?_
  have ht : ts.get? e.1 = some e.2 := Table.mem_entries_iff.1 he
  obtain ⟨names, hw, hd⟩ := hc e.1 e.2 ht
  rw [← (hf.built e.1 e.2 ht).name_eq] at hd
  exact ⟨_, resolveOne_of_walk (hf.plain e.1 e.2 ht) hw hd⟩

/-- A value with text can be a key. -/
theorem isKey_of_text? {v : Value} {m : String} (h : v.text? = some m) : v.isKey = true := by
  cases v <;> first | rfl | simp [Value.text?] at h

theorem checkImports_of_imported {owner : String} : ∀ {imports : List (Value × String)},
    (∀ i ∈ imports, ∃ m, i.1.text? = some m ∧ ts.contains m = true) →
      checkImports ts owner imports = .ok ()
  | [], _ => rfl
  | (target, space) :: rest, h => by
    obtain ⟨m, hm, hc⟩ := h (target, space) (List.mem_cons_self ..)
    have hkey : target.isKey = true := isKey_of_text? hm
    have hfound : (target.text?.map ts.contains).getD false = true := by simp [hm, hc]
    rw [checkImports, hkey, if_neg (by simp), if_pos hfound]
    exact checkImports_of_imported fun i hi => h i (List.mem_cons_of_mem _ hi)

theorem checkAll_of_imported : ∀ {es : List (String × Template)},
    (∀ e ∈ es, ∀ i ∈ e.2.imports, ∃ m, i.1.text? = some m ∧ ts.contains m = true) →
      checkAll ts es = .ok ()
  | [], _ => rfl
  | (n, t) :: rest, h => by
    rw [checkAll, checkImports_of_imported (h (n, t) (List.mem_cons_self ..))]
    exact checkAll_of_imported fun e he => h e (List.mem_cons_of_mem _ he)

/-- What a template of a filed set becomes when the set is resolved. -/
theorem get?_resolve_of_walk {rs : Table Template} (hf : Filed ts) (h : resolve ts = .ok rs)
    {n : String} {t : Template} (ht : ts.get? n = some t) {names : List String}
    (hw : Walk ts t names) (hd : (n :: names).Nodup) : rs.get? n = some
      { t with parents := names, chains := definitions (t :: names.filterMap ts.get?) } := by
  rw [← (hf.built n t ht).name_eq] at hd
  have hone := resolveOne_of_walk (hf.plain n t ht) hw hd
  have hn := get?_resolve h n
  rw [ht] at hn
  obtain ⟨r, hr, hget⟩ := hn
  rw [hone] at hr
  rw [hget, ← Except.ok.inj hr]

/-! ### Sets within others -/

theorem Within.contains (h : Within ts us) {n : String} (hn : ts.contains n = true) :
    us.contains n = true := by
  obtain ⟨t, ht⟩ := Table.contains_iff.1 hn
  exact Table.contains_iff.2 ⟨t, h n t ht⟩

/-- A walk through a set is a walk through one around it. -/
theorem Within.walk (h : Within ts us) {t : Template} {names : List String} (hw : Walk ts t names) :
    Walk us t names :=
  hw.transfer rfl fun n q hq => ⟨q, h n q hq, rfl⟩

/-- Both sets have the same members under the names of a walk. -/
theorem Within.members (h : Within ts us) : ∀ {names : List String},
    (∀ n ∈ names, ∃ q, ts.get? n = some q) → names.filterMap us.get? = names.filterMap ts.get?
  | [], _ => rfl
  | n :: rest, hreg => by
    obtain ⟨q, hq⟩ := hreg n (List.mem_cons_self ..)
    rw [List.filterMap_cons, List.filterMap_cons, hq, h n q hq,
      h.members fun m hm => hreg m (List.mem_cons_of_mem _ hm)]

/-- A template of a resolved set keeps its whole record when the set around it is resolved. -/
theorem Within.get?_resolve {rs : Table Template} (h : Within ts us) (hr : Resolved ts)
    (hf : Filed us) (hres : resolve us = .ok rs) : Within ts rs := by
  intro n t ht
  have hw := hr.walk n t ht
  rw [get?_resolve_of_walk hf hres (h n t ht) (h.walk hw) (hr.apart n t ht),
    h.members hw.registered]
  have hrecorded : definitions (t :: t.parents.filterMap ts.get?) = t.chains :=
    (hr.recorded n t ht).symm
  rw [hrecorded]

end Stencil.Lineage

namespace Stencil.Environment

open Lineage

/-- A filed set with walks of this kind resolves if its imports are registered in it. -/
theorem exists_resolve {ts : Table Template} (hf : Filed ts) (hc : Climbs ts)
    (hi : ∀ n t, ts.get? n = some t → ∀ i ∈ t.imports,
      ∃ m, i.1.text? = some m ∧ ts.contains m = true) : ∃ rs, resolve ts = .ok rs := by
  obtain ⟨rs, hrs⟩ := Lineage.exists_resolve hf hc
  have hcheck : Lineage.checkMacroImports rs = .ok () := by
    refine checkAll_of_imported fun e he i hmem => ?_
    have hr : rs.get? e.1 = some e.2 := Table.mem_entries_iff.1 he
    obtain ⟨t, ht, hone⟩ := resolved_of_get? hrs hr
    rw [(resolveOne_spec (hf.plain e.1 t ht) hone).1] at hmem
    obtain ⟨m, hm, hreg⟩ := hi e.1 t ht i hmem
    obtain ⟨q, hq⟩ := Table.contains_iff.1 hreg
    have hres := get?_resolve hrs m
    rw [hq] at hres
    obtain ⟨p, -, hp⟩ := hres
    exact ⟨m, hm, Table.contains_iff.2 ⟨p, hp⟩⟩
  refine ⟨rs, ?_⟩
  rw [resolve, hrs]
  simp only [ofConstruction, bind, Except.bind, hcheck, pure, Except.pure]

/-- The resolved form of a set that passes. -/
theorem resolve_of_resolve {ts rs : Table Template} (h : resolve ts = .ok rs) :
    Lineage.resolve ts = .ok rs := by
  simp only [resolve, bind_eq_ok, ofConstruction_eq_ok, pure_eq_ok] at h
  obtain ⟨us, hus, -, -, rfl⟩ := h
  exact hus

end Stencil.Environment
