import Mathlib.Data.List.Nodup
import Stencil.Proofs.Lineage

/-! How following parents ends. From a template of a set one comes to a template without a parent,
    to a name that is not registered, or to a name that was met before. In the last case the names
    from there on are a cycle, which need not go through the template that the walk began at; going
    round it ends, because the walk has shown that it comes back to where it starts. -/

namespace Stencil.Lineage

/-- Following parents leads from a template over some registered names to another template. -/
inductive Leads (ts : Table Template) : Template → List String → Template → Prop
  | here {t : Template} : Leads ts t [] t
  | up {t q u : Template} {p : String} {names : List String} (h : t.parent = some p)
      (hq : ts.get? p = some q) (hrest : Leads ts q names u) : Leads ts t (p :: names) u

/-- The first name that comes up again when parents are followed from a template. -/
def Recurs (ts : Table Template) (t : Template) (name : String) : Prop :=
  ∃ names u, Leads ts t names u ∧ (t.name :: names).Nodup ∧ u.parent = some name ∧
    name ∈ t.name :: names

/-- Following parents from the template of a name gives these names, each once, and the name
    last. -/
def IsCycle (ts : Table Template) (start : String) (names : List String) : Prop :=
  ∃ t, ts.get? start = some t ∧ Leads ts t names t ∧ names.Nodup ∧ names.getLast? = some start

/-- A template is an ancestor of itself. -/
def OnCycle (ts : Table Template) (t : Template) : Prop := ∃ names, names ≠ [] ∧ Leads ts t names t

/-- What following parents from a template comes to. -/
inductive Ends (ts : Table Template) (t : Template) : Except ConstructionError (List String) → Prop
  | root {names : List String} (h : Walk ts t names) : Ends ts t (.ok names)
  | missing {names : List String} {u : Template} {p : String} (h : Leads ts t names u)
      (hp : u.parent = some p) (hget : ts.get? p = none) :
      Ends ts t (.error (.missingParent u.name p))
  | circular {start : String} {names : List String} (h : Recurs ts t start)
      (hcycle : IsCycle ts start names) : Ends ts t (.error (.circular start names))

/-- Going round from a template until a name comes back, with nothing to stop at but that name and a
    template without a parent. -/
inductive GoesRound (ts : Table Template) (start : String) : Template → List String → Prop
  | root {t : Template} (h : t.parent = none) : GoesRound ts start t []
  | back {t : Template} (h : t.parent = some start) : GoesRound ts start t [start]
  | on {t q : Template} {p : String} {names : List String} (h : t.parent = some p)
      (hne : p ≠ start) (hq : ts.get? p = some q) (hrest : GoesRound ts start q names) :
      GoesRound ts start t (p :: names)

variable {ts : Table Template} {t u v q : Template} {p start : String} {names more : List String}

/-! ### Paths of parents -/

namespace Leads

theorem trans (h : Leads ts t names u) (h' : Leads ts u more v) : Leads ts t (names ++ more) v := by
  induction h with
  | here => exact h'
  | up hp hq _ ih => exact .up hp hq (ih h')

theorem snoc (h : Leads ts t names u) (hp : u.parent = some p) (hq : ts.get? p = some q) :
    Leads ts t (names ++ [p]) q :=
  h.trans (.up hp hq .here)

/-- From a name on the way it goes on. -/
theorem split (h : Leads ts t names u) (hp : p ∈ names) :
    ∃ front back q, names = front ++ p :: back ∧ ts.get? p = some q ∧ Leads ts q back u := by
  induction h with
  | here => cases hp
  | @up t q u n names hn hq hrest ih =>
    by_cases hpn : p = n
    · subst hpn
      exact ⟨[], names, q, rfl, hq, hrest⟩
    · have hp : p ∈ names := (List.mem_cons.1 hp).resolve_left hpn
      obtain ⟨front, back, r, rfl, hr, hback⟩ := ih hp
      exact ⟨n :: front, back, r, rfl, hr, hback⟩

/-- The parent of where a path begins is the next name on it. -/
theorem parent_eq_head (h : Leads ts t names u) (hp : u.parent = some p) :
    t.parent = (names ++ [p]).head? := by
  cases h with
  | here => exact hp
  | up h _ _ => exact h

/-- Two paths that cannot be continued are the same. -/
theorem unique_of_stuck {us : List String} (h : Leads ts t names u) (h' : Leads ts t us v)
    (hu : u.parent.bind ts.get? = none) (hv : v.parent.bind ts.get? = none) : names = us := by
  induction h generalizing us with
  | here =>
    cases h' with
    | here => rfl
    | up hp hq _ => simp [hp, hq] at hu
  | up hp hq _ ih =>
    cases h' with
    | here => simp [hp, hq] at hv
    | up hp' hq' h' =>
      cases hp.symm.trans hp'
      cases hq.symm.trans hq'
      rw [ih h' hu]

/-- A path that cannot be continued meets no name twice. -/
theorem nodup_of_stuck (hnames : ∀ n u, ts.get? n = some u → u.name = n)
    (ht : ts.get? t.name = some t) (h : Leads ts t names u)
    (hu : u.parent.bind ts.get? = none) : (t.name :: names).Nodup := by
  induction h with
  | here => exact List.nodup_singleton _
  | @up t q u p names hp hq hrest ih =>
    have hqname : q.name = p := hnames p q hq
    have hd : (p :: names).Nodup := hqname ▸ ih (hqname ▸ hq) hu
    refine List.nodup_cons.2 ⟨fun hmem => ?_, hd⟩
    -- a part of the path would lead from its start to its end, as the whole path does
    obtain ⟨front, back, r, hsplit, hr, hback⟩ := (Leads.up hp hq hrest).split hmem
    cases ht.symm.trans hr
    have hsame : back = p :: names := hback.unique_of_stuck (.up hp hq hrest) hu hu
    have hlength := congrArg List.length hsplit
    simp only [hsame, List.length_append, List.length_cons] at hlength
    omega

end Leads

theorem walk_iff_leads : Walk ts t names ↔ ∃ u, Leads ts t names u ∧ u.parent = none := by
  constructor
  · intro h
    induction h with
    | root h => exact ⟨_, .here, h⟩
    | up hp hq _ ih =>
      obtain ⟨u, hu, hroot⟩ := ih
      exact ⟨u, .up hp hq hu, hroot⟩
  · rintro ⟨u, h, hroot⟩
    induction h with
    | here => exact .root hroot
    | up hp hq _ ih => exact .up hp hq (ih hroot)

/-- Parents of what is met do not lead away from what is met, once a name comes up again. -/
theorem Leads.subset_of_again (h : Leads ts t names u) (hp : u.parent = some start)
    (hmem : start ∈ names) (h' : Leads ts q more v)
    (hq : q = t ∨ ∃ n ∈ names, ts.get? n = some q) : more ⊆ names := by
  induction h' with
  | here => exact List.nil_subset _
  | @up q r v n more hn hr _ ih =>
    have hnext : n ∈ names := by
      -- the parent of a template that has been met is the next name that was met, or the start
      have hlast {front back : List String} (hsplit : names = front ++ back)
          (hback : Leads ts q back u) : n ∈ names := by
        have hhead : n ∈ back ++ [start] :=
          List.mem_of_head? ((hback.parent_eq_head hp).symm.trans hn)
        rcases List.mem_append.1 hhead with hn | hn
        · rw [hsplit]
          exact List.mem_append_right _ hn
        · rwa [List.mem_singleton.1 hn]
      rcases hq with rfl | ⟨m, hm, hget⟩
      · exact @hlast [] names rfl h
      · obtain ⟨front, back, r, hsplit, hr, hback⟩ := h.split hm
        cases hget.symm.trans hr
        exact @hlast (front ++ [m]) back (by simp [hsplit]) hback
    exact List.cons_subset.2 ⟨hnext, ih (.inr ⟨n, hnext, hr⟩)⟩

/-- A name that a path leads to is the last one on it. -/
theorem Leads.name_mem (hnames : ∀ n u, ts.get? n = some u → u.name = n) (h : Leads ts t names u)
    (hne : names ≠ []) : u.name ∈ names := by
  induction h with
  | here => exact absurd rfl hne
  | @up t q u p names _ hq hrest ih =>
    by_cases hnil : names = []
    · subst hnil
      cases hrest
      rw [hnames p q hq]
      exact List.mem_cons_self ..
    · exact List.mem_cons_of_mem _ (ih hnil)

/-- The first name that comes up again is that of a template itself iff it is on a cycle. -/
theorem Recurs.onCycle_iff (hnames : ∀ n u, ts.get? n = some u → u.name = n)
    (ht : ts.get? t.name = some t) (h : Recurs ts t start) : OnCycle ts t ↔ start = t.name := by
  obtain ⟨names, u, hleads, hd, hp, hmem⟩ := h
  constructor
  · rintro ⟨more, hne, hround⟩
    by_contra hstart
    have hmem : start ∈ names := (List.mem_cons.1 hmem).resolve_left hstart
    have hself : t.name ∈ names :=
      hleads.subset_of_again hp hmem hround (.inl rfl) (hround.name_mem hnames hne)
    exact (List.nodup_cons.1 hd).1 hself
  · rintro rfl
    exact ⟨names ++ [t.name], by simp, hleads.snoc hp ht⟩

/-! ### Cycles -/

/-- Going round needs no other stop if no name comes up twice. -/
theorem GoesRound.cycleFrom_eq {met : List String} (h : GoesRound ts start t names)
    (hd : (met ++ names).Nodup) : cycleFrom ts start met t = .ok (met ++ names) := by
  induction h generalizing met with
  | root hp => simp [cycleFrom, hp]
  | back hp => simp [cycleFrom, hp]
  | @on t q p names hp hne hq _ ih =>
    have hmet : ¬met.contains p = true := by
      have hdisjoint := (List.nodup_append.1 hd).2.2
      simpa using fun hmem => hdisjoint p hmem p (List.mem_cons_self ..) rfl
    rw [cycleFrom, hp]
    simp only [if_neg hne]
    split
    · rename_i hnone
      simp [hq] at hnone
    · rename_i r hr
      cases hq.symm.trans hr
      rw [dif_neg hmet, ih (by simpa using hd)]
      simp

theorem isCycle_of_leads (hq : ts.get? p = some q) (h : Leads ts q names u)
    (hp : u.parent = some p) (hd : (p :: names).Nodup) : IsCycle ts p (names ++ [p]) :=
  ⟨q, hq, h.snoc hp hq, (List.perm_append_singleton p names).nodup_iff.2 hd,
    List.getLast?_concat⟩

theorem goesRound_of_leads (h : Leads ts q (names ++ [start]) u) (hstart : start ∉ names) :
    GoesRound ts start q (names ++ [start]) := by
  induction names generalizing q with
  | nil =>
    cases h with
    | up hp _ _ => exact .back hp
  | cons n names ih =>
    rw [List.mem_cons, not_or] at hstart
    cases h with
    | up hp hq hrest => exact .on hp (Ne.symm hstart.1) hq (ih hrest hstart.2)

/-- The names from one that comes up again are a cycle. -/
theorem isCycle_of_again (h : Leads ts t names u) (hd : names.Nodup) (hp : u.parent = some p)
    (hmem : p ∈ names) : ∃ back, IsCycle ts p (back ++ [p]) := by
  obtain ⟨front, back, q, rfl, hq, hback⟩ := h.split hmem
  exact ⟨back, isCycle_of_leads hq hback hp hd.of_append_right⟩

/-- A cycle can be gone round from its start. -/
theorem IsCycle.goesRound (h : IsCycle ts start names) :
    ∃ q, ts.get? start = some q ∧ GoesRound ts start q names := by
  obtain ⟨q, hq, hleads, hd, hlast⟩ := h
  obtain ⟨back, rfl⟩ := List.getLast?_eq_some_iff.1 hlast
  rw [(List.perm_append_singleton start back).nodup_iff, List.nodup_cons] at hd
  exact ⟨q, hq, goesRound_of_leads hleads hd.1⟩

/-- There is one cycle from a name, and it is what the search for it finds. -/
theorem IsCycle.cycle_eq (h : IsCycle ts start names)
    (hnames : ∀ n u, ts.get? n = some u → u.name = n) (hq : ts.get? start = some q) :
    cycle ts q = .ok names := by
  obtain ⟨r, hr, hround⟩ := h.goesRound
  cases hq.symm.trans hr
  obtain ⟨-, -, -, hd, -⟩ := h
  rw [cycle, hnames start q hq, hround.cycleFrom_eq (by simpa using hd), List.nil_append]

/-! ### The climb -/

/-- What a climb comes to, from anywhere on a path that has met no name twice. -/
theorem ends_climb (hnames : ∀ n u, ts.get? n = some u → u.name = n)
    (ht : ts.get? t.name = some t) {met : List String} (h : Leads ts t met u)
    (hd : (t.name :: met).Nodup) : Ends ts t (climb ts t.name met u) := by
  induction met, u using climb.induct ts t.name with
  | case1 met u hroot =>
    rw [climb_root hroot]
    exact .root (walk_iff_leads.2 ⟨u, h, hroot⟩)
  | case2 met u hp =>
    rw [climb_origin hp]
    exact .circular ⟨met, u, h, hd, hp, List.mem_cons_self ..⟩ (isCycle_of_leads ht h hp hd)
  | case3 met u p hp hne hget =>
    rw [climb_missing hp hne hget]
    exact .missing h hp hget
  | case4 met u p hp hne q hq hmet =>
    have hmem : p ∈ met := by simpa using hmet
    obtain ⟨back, hcycle⟩ := isCycle_of_again h (List.nodup_cons.1 hd).2 hp hmem
    rw [climb_registered hp hne hq, if_pos hmem, hcycle.cycle_eq hnames hq]
    exact .circular ⟨met, u, h, hd, hp, List.mem_cons_of_mem _ hmem⟩ hcycle
  | case5 met u p hp hne q hq hmet ih =>
    have hmem : p ∉ met := by simpa using hmet
    rw [climb_registered hp hne hq, if_neg hmem]
    refine ih (h.snoc hp hq) ?_
    -- the new name is neither the one of the template nor one that has been met
    rw [← List.cons_append]
    refine (List.perm_append_singleton p _).nodup_iff.2 (List.nodup_cons.2 ⟨?_, hd⟩)
    simp [hne, hmem]

/-- A climb goes on along a path that meets no name twice. -/
theorem climb_of_leads {origin : String} {met : List String} (h : Leads ts t names u)
    (hd : (origin :: (met ++ names)).Nodup) :
    climb ts origin met t = climb ts origin (met ++ names) u := by
  induction h generalizing met with
  | here => rw [List.append_nil]
  | @up t q u p names hp hq _ ih =>
    have hne : p ≠ origin := by
      rintro rfl
      simp at hd
    have hmet : p ∉ met := by
      rw [List.nodup_cons, List.nodup_append] at hd
      exact fun hmem => hd.2.2.2 p hmem p (List.mem_cons_self ..) rfl
    rw [climb_registered hp hne hq, if_neg hmet, ih (by simpa using hd), List.append_assoc]
    rfl

/-- What following parents comes to is what the ancestors are found to be. -/
theorem ancestors_of_ends (hnames : ∀ n u, ts.get? n = some u → u.name = n)
    (ht : ts.get? t.name = some t) {r : Except ConstructionError (List String)}
    (h : Ends ts t r) : ancestors ts t = r := by
  have along {names : List String} {u : Template} (hleads : Leads ts t names u)
      (hd : (t.name :: names).Nodup) : ancestors ts t = climb ts t.name names u :=
    climb_of_leads hleads (by simpa using hd)
  cases h with
  | root h =>
    obtain ⟨u, hleads, hroot⟩ := walk_iff_leads.1 h
    rw [along hleads (hleads.nodup_of_stuck hnames ht (by simp [hroot])), climb_root hroot]
  | @missing names u p hleads hp hget =>
    have hd := hleads.nodup_of_stuck hnames ht (by simp [hp, hget])
    have hne : p ≠ t.name := by
      rintro rfl
      cases ht.symm.trans hget
    rw [along hleads hd, climb_missing hp hne hget]
  | @circular start names h hcycle =>
    obtain ⟨met, u, hleads, hd, hp, hmem⟩ := h
    rw [along hleads hd]
    -- the climb stops at its own name before it looks a parent up
    by_cases hstart : start = t.name
    · subst hstart
      have hsame : cycle ts t = .ok (met ++ [t.name]) :=
        (isCycle_of_leads ht hleads hp hd).cycle_eq hnames ht
      rw [hcycle.cycle_eq hnames ht] at hsame
      cases hsame
      exact climb_origin hp
    · obtain ⟨q, hq⟩ : ∃ q, ts.get? start = some q := hcycle.imp fun _ h => h.1
      have hmem : start ∈ met := (List.mem_cons.1 hmem).resolve_left hstart
      rw [climb_registered hp hstart hq, if_pos hmem, hcycle.cycle_eq hnames hq]
      rfl

/-- The ancestors of a template, in a set in which every template stands under its own name. What is
    found is what following parents comes to, which is exactly one of three things: the walk to a
    template without a parent, on which no name comes up twice; the parent that is not registered,
    with the template that names it; or the first name that comes up again, with the cycle from
    there. That name is the one of the template itself iff it is on a cycle, and going round from
    it ends with the cycle, though nothing but the name stops it. -/
theorem ancestors_outcome (hnames : ∀ n u, ts.get? n = some u → u.name = n)
    (ht : ts.get? t.name = some t) :
    (∃! r, Ends ts t r) ∧ Ends ts t (ancestors ts t) ∧
    (∀ names, Walk ts t names → (t.name :: names).Nodup) ∧
    ∀ start, Recurs ts t start → (OnCycle ts t ↔ start = t.name) ∧
      ∃ q names, ts.get? start = some q ∧ IsCycle ts start names ∧ GoesRound ts start q names ∧
        cycle ts q = .ok names := by
  have hends : Ends ts t (ancestors ts t) :=
    ends_climb hnames ht .here (List.nodup_singleton _)
  refine ⟨⟨_, hends, fun r hr => (ancestors_of_ends hnames ht hr).symm⟩, hends,
    fun names hwalk => ?_, fun start hstart => ⟨hstart.onCycle_iff hnames ht, ?_⟩⟩
  · obtain ⟨u, hleads, hroot⟩ := walk_iff_leads.1 hwalk
    exact hleads.nodup_of_stuck hnames ht (by simp [hroot])
  · obtain ⟨names, hcycle⟩ : ∃ names, IsCycle ts start names := by
      obtain ⟨met, u, hleads, hd, hp, hmem⟩ := hstart
      rcases List.mem_cons.1 hmem with rfl | hmem
      · exact ⟨_, isCycle_of_leads ht hleads hp hd⟩
      · obtain ⟨back, hback⟩ := isCycle_of_again hleads (List.nodup_cons.1 hd).2 hp hmem
        exact ⟨_, hback⟩
    obtain ⟨q, hq, hround⟩ := hcycle.goesRound
    exact ⟨q, names, hq, hcycle, hround, hcycle.cycle_eq hnames hq⟩

/-- A template that has nothing but a parent. -/
def heir (name parent : String) : Template := { name, document := {}, parent := some parent }

/-- A page below two templates that name each other as their parents. -/
def knot : Table Template :=
  ⟨[("page", heir "page" "left"), ("left", heir "left" "right"), ("right", heir "right" "left")],
    by decide⟩

/-- The cycle above the page is reported from the name that comes up again. -/
theorem ancestors_outcome_knot :
    ancestors knot (heir "page" "left") = .error (.circular "left" ["right", "left"]) ∧
    ¬OnCycle knot (heir "page" "left") := by
  have hnames : ∀ n u, knot.get? n = some u → u.name = n := fun n u h =>
    (by decide : ∀ e ∈ knot.entries, e.2.name = e.1) (n, u) (Table.mem_of_lookupIn h)
  obtain ⟨⟨r, -, hunique⟩, hends, -, hround⟩ :=
    ancestors_outcome (t := heir "page" "left") hnames rfl
  have hrecurs : Recurs knot (heir "page" "left") "left" :=
    ⟨["left", "right"], _, .up rfl rfl (.up rfl rfl .here), by decide, rfl, by decide⟩
  have hcycle : IsCycle knot "left" ["right", "left"] :=
    ⟨_, rfl, .up rfl rfl (.up rfl rfl .here), by decide, rfl⟩
  constructor
  · exact (hunique _ hends).trans (hunique _ (.circular hrecurs hcycle)).symm
  · rw [(hround "left" hrecurs).1]
    decide

end Stencil.Lineage
