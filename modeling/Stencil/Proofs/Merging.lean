import Stencil.Proofs.Extension

/-! Taking over another environment. The merged set has the templates of the one that takes over and,
    under the names it lacks, those of the other one. It resolves whatever the two histories were:
    a walk from a template that is taken over goes on as in the other set until it meets a name that
    was there before, and from there it is the walk recorded for that name, which meets no name that
    was taken over. Hence no name comes up twice. What was there before is part of the merged set
    and keeps its record. -/

namespace Stencil.Environment

open Lineage

variable {ts other : Table Template}

/-! ### The merged set -/

theorem get?_merged_of_some {n : String} {t : Template} (h : ts.get? n = some t) :
    (merged ts other).get? n = some t := by
  rw [get?_merged_eq, h]
  rfl

theorem get?_merged_of_none {n : String} (h : ts.get? n = none) :
    (merged ts other).get? n = (other.get? n).map fun u => { u with merged := true } := by
  rw [get?_merged_eq, h]
  rfl

/-- What was there before is part of the merged set. -/
theorem within_merged (ts other : Table Template) : Within ts (merged ts other) :=
  fun _ _ h => get?_merged_of_some h

theorem contains_merged_of_other {n : String} (h : other.contains n = true) :
    (merged ts other).contains n = true := by
  obtain ⟨u, hu⟩ := Table.contains_iff.1 h
  rw [Table.contains, get?_merged_eq, hu]
  cases ts.get? n <;> rfl

/-- A walk of the other set leads through the merged one along names of its own until it meets a name
    that was there before. -/
theorem exists_walk_merged (hr : Resolved ts) {t : Template} {names : List String}
    (hw : Walk other t names) (hd : names.Nodup) : ∃ out, Walk (merged ts other) t out ∧
      out.Nodup ∧ ∀ n ∈ out, n ∈ names ∨ ts.contains n = true := by
  induction hw with
  | root hp => exact ⟨[], .root hp, List.nodup_nil, by simp⟩
  | @up t q p names hp hq _ ih =>
    obtain ⟨hfresh, hd⟩ := List.nodup_cons.1 hd
    -- a name that was there before leads into the old set, where the recorded walk is known
    cases hts : ts.get? p with
    | some r =>
      have hback : Walk (merged ts other) r r.parents :=
        (within_merged ts other).walk (hr.walk p r hts)
      refine ⟨p :: r.parents, .up hp (get?_merged_of_some hts) hback, hr.apart p r hts, ?_⟩
      intro n hn
      right
      rcases List.mem_cons.1 hn with rfl | hn
      · exact Table.contains_iff.2 ⟨r, hts⟩
      · exact Table.contains_iff.2 ((hr.walk p r hts).registered n hn)
    | none =>
      have hget : (merged ts other).get? p = some { q with merged := true } := by
        rw [get?_merged_of_none hts, hq]
        rfl
      obtain ⟨out, hout, hnodup, hmem⟩ := ih hd
      have hon : Walk (merged ts other) { q with merged := true } out :=
        hout.transfer rfl fun n r hr => ⟨r, hr, rfl⟩
      refine ⟨p :: out, .up hp hget hon, List.nodup_cons.2 ⟨?_, hnodup⟩, ?_⟩
      · intro hp
        rcases hmem p hp with hold | hreg
        · exact hfresh hold
        · simp [Table.contains, hts] at hreg
      · intro n hn
        rcases List.mem_cons.1 hn with rfl | hn
        · exact .inl (List.mem_cons_self ..)
        · exact (hmem n hn).imp_left (List.mem_cons_of_mem _)

/-- No template of the merged set has a walk on which a name comes up twice. -/
theorem climbs_merged (hr : Resolved ts) (ho : Resolved other) : Climbs (merged ts other) := by
  intro n t ht
  rw [get?_merged_eq] at ht
  cases hts : ts.get? n with
  | some r =>
    rw [hts] at ht
    obtain rfl : r = t := Option.some.inj ht
    exact ⟨r.parents, (within_merged ts other).walk (hr.walk n r hts), hr.apart n r hts⟩
  | none =>
    rw [hts] at ht
    obtain ⟨u, hu, rfl⟩ := Option.map_eq_some_iff.1 ht
    obtain ⟨hself, hd⟩ := List.nodup_cons.1 (ho.apart n u hu)
    obtain ⟨out, hout, hnodup, hmem⟩ := exists_walk_merged hr (ho.walk n u hu) hd
    refine ⟨out, hout.transfer rfl fun m r hr => ⟨r, hr, rfl⟩, List.nodup_cons.2 ⟨?_, hnodup⟩⟩
    intro hn
    rcases hmem n hn with hold | hreg
    · exact hself hold
    · simp [Table.contains, hts] at hreg

/-- What is imported is registered on the one side or the other. -/
theorem imported_merged (hs : Settled ts) (ho : Settled other) {n : String} {t : Template}
    (ht : (merged ts other).get? n = some t) :
    ∀ i ∈ t.imports, ∃ m, i.1.text? = some m ∧ (merged ts other).contains m = true := by
  intro i hi
  rcases get?_merged ht with ht | ⟨u, hu, rfl⟩
  · obtain ⟨m, hm, hc⟩ := hs.imported n t ht i hi
    exact ⟨m, hm, (within_merged ts other).contains hc⟩
  · obtain ⟨m, hm, hc⟩ := ho.imported n u hu i hi
    exact ⟨m, hm, contains_merged_of_other hc⟩

/-- Two settled sets merge into one that resolves. -/
theorem exists_resolve_merged (hs : Settled ts) (ho : Settled other) :
    ∃ rs, resolve (merged ts other) = .ok rs :=
  exists_resolve (filed_merged hs.filed ho.filed) (climbs_merged hs.toResolved ho.toResolved)
    fun _ _ => imported_merged hs ho

/-- A template that is taken over keeps everything but what is recorded in the merged set. -/
theorem get?_resolve_merged {rs : Table Template} (hs : Settled ts) (ho : Settled other)
    (h : resolve (merged ts other) = .ok rs) {n : String} {u : Template}
    (hts : ts.get? n = none) (hu : other.get? n = some u) :
    ∃ parents chains, rs.get? n = some { u with merged := true, parents, chains } := by
  have hget : (merged ts other).get? n = some { u with merged := true } := by
    rw [get?_merged_of_none hts, hu]
    rfl
  obtain ⟨names, hw, hd⟩ := climbs_merged hs.toResolved ho.toResolved n _ hget
  exact ⟨_, _, get?_resolve_of_walk (filed_merged hs.filed ho.filed) (resolve_of_resolve h) hget
    hw hd⟩

/-! ### Taking over -/

/-- Whatever the histories of two environments, the one can take over the other. Each of its
    templates then keeps its whole record: tree, parent, ancestors, chains and mark. Added are the
    templates whose names it lacked, marked and with what the merged set records for them, and
    nothing else; in that set each template stands under its name, its ancestors are its walk, its
    blocks are defined by its lineage and its imports are registered. A capability is the one it had
    already, else the other one's. Everything else stays. -/
theorem extend_total {env other : Environment} (he : Reachable env) (ho : Reachable other) :
    ∃ next, env.extend other = .ok next ∧
      (∀ n t, env.templates.get? n = some t → next.templates.get? n = some t) ∧
      (∀ n, env.templates.get? n = none →
        match other.templates.get? n with
        | some u => ∃ parents chains,
          next.templates.get? n = some { u with merged := true, parents, chains }
        | none => next.templates.get? n = none) ∧
      (∀ n t, next.templates.get? n = some t →
        t.name = n ∧ Walk next.templates t t.parents ∧ (n :: t.parents).Nodup ∧
        (∀ block, t.chain block = definitionsOf (lineageOf next.templates t) block) ∧
        ∀ i ∈ t.imports, ∃ m, i.1.text? = some m ∧ next.templates.contains m = true) ∧
      (∀ kind n, (next.registry kind).get? n =
        ((env.registry kind).get? n).or ((other.registry kind).get? n)) ∧
      next = { env with
        templates := next.templates
        filters := next.filters
        testers := next.testers
        functions := next.functions } := by
  have hs := he.settled
  have hso := ho.settled
  have hfiled := filed_merged hs.filed hso.filed
  obtain ⟨rs, hrs⟩ := exists_resolve_merged hs hso
  have hset : Settled rs := settled_of_resolve hfiled hrs
  refine ⟨_, by rw [extend, commit, hrs]; rfl, ?_, ?_, ?_, ?_, rfl⟩
  · exact (within_merged _ _).get?_resolve hs.toResolved hfiled (resolve_of_resolve hrs)
  · intro n hn
    cases hu : other.templates.get? n with
    | some u => exact get?_resolve_merged hs hso hrs hn hu
    | none =>
      have hget := get?_resolve (resolve_of_resolve hrs) n
      rw [get?_merged_of_none hn, hu] at hget
      exact hget
  · intro n t ht
    refine ⟨(hset.built n t ht).name_eq, hset.walk n t ht, hset.apart n t ht, fun block => ?_,
      hset.imported n t ht⟩
    rw [Template.chain, hset.get?_chains ht]
    cases definitionsOf (lineageOf rs t) block <;> rfl
  · intro kind n
    cases kind <;> exact Table.get?_union _ _ n

/-- An environment whose page is the root of its base, with a tree that extends that base. -/
def album : Environment :=
  (perform {} (.addTemplates [("base.html", { baseTree with parent := some ({}, .text "page.html") }),
    ("page.html", baseTree),
    ("note.html", { body := [], parent := some ({}, .text "base.html") })])).2

theorem reachable_album : Reachable album := .after (.fresh rfl) (by simp)

/-- The page of the one is the root of the other one's base, yet there is no cycle: the note has the
    base of the environment that takes over as its only ancestor. -/
theorem extend_total_site : Reachable site ∧ Reachable album ∧
    (album.templates.get? "note.html").map Template.parents = some ["base.html", "page.html"] ∧
    ∃ next, site.extend album = .ok next ∧
      (∀ n t, site.templates.get? n = some t → next.templates.get? n = some t) ∧
      (next.templates.get? "note.html").map (fun t => (t.merged, t.parents)) =
        some (true, ["base.html"]) := by
  refine ⟨reachable_site, reachable_album, by decide +kernel, ?_⟩
  obtain ⟨next, hnext, hkept, -⟩ := extend_total reachable_site reachable_album
  have hnote : (site.extend album).toOption.bind (fun next =>
      (next.templates.get? "note.html").map fun t => (t.merged, t.parents)) =
        some (true, ["base.html"]) := by decide +kernel
  rw [hnext] at hnote
  exact ⟨next, hnext, hkept, hnote⟩

end Stencil.Environment
