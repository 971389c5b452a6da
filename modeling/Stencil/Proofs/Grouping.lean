import Stencil.Filter.Array
import Stencil.Proofs.Sorting

/-! Items by an attribute. Filtering, mapping and grouping decide alike which items have an
    attribute: those where the path leads to something that is not null. The groups are a partition
    of these items by the texts that they have there. What an item does to the groups is said once,
    the run over all items is by induction. Only a text with an integer of too many digits in it
    cannot be had, and then there are no groups. -/

namespace Stencil

namespace Value

variable {v : Value}

/-! ### Texts of template values -/

/-- An integer of too many digits, or a list in which one is shown. -/
inductive Overlong : Value → Prop
  | int {n : Int} (h : unwritable ≤ n.natAbs) : Overlong (.int n)
  | item {xs : List Value} {x : Value} (hx : x ∈ xs) (h : Overlong x) : Overlong (.list xs)

theorem overlong_int {n : Int} : Overlong (.int n) ↔ (Value.int n).isWritable = false := by
  have hwritable : (Value.int n).isWritable = decide (n.natAbs < unwritable) := rfl
  rw [hwritable, decide_eq_false_iff_not, not_lt]
  constructor
  · rintro ⟨h⟩
    exact h
  · exact .int

theorem overlong_list {xs : List Value} : Overlong (.list xs) ↔ ∃ x ∈ xs, Overlong x := by
  constructor
  · rintro (_ | ⟨hx, h⟩)
    exact ⟨_, hx, h⟩
  · rintro ⟨x, hx, h⟩
    exact .item hx h

/-- The outcome of a text: it is had, or it is too long. -/
def Texted (fails : Prop) (outcome : Except Problem α) : Prop :=
  (¬fails ∧ ∃ s, outcome = .ok s) ∨ (fails ∧ outcome = .error (.fault (.failure .badValue)))

theorem texted_of_ok {fails : Prop} {s : α} (h : ¬fails) :
    Texted fails (.ok s : Except Problem α) := .inl ⟨h, s, rfl⟩

/-- The texts of a list are had one after the other. -/
theorem stringifyAll_texted : ∀ {xs : List Value},
    (∀ x ∈ xs, Texted x.Overlong x.stringify) →
    Texted (∃ x ∈ xs, Overlong x) (stringifyAll xs)
  | [], _ => texted_of_ok (by simp)
  | x :: xs, h => by
    rw [List.forall_mem_cons] at h
    simp only [stringifyAll, List.mem_cons, exists_eq_or_imp]
    rcases h.1 with ⟨hx, s, hs⟩ | ⟨hx, hs⟩
    · rcases stringifyAll_texted h.2 with ⟨hxs, rest, hrest⟩ | ⟨hxs, hrest⟩
      · exact .inl ⟨not_or.2 ⟨hx, hxs⟩, s :: rest, by rw [hs, hrest]; rfl⟩
      · exact .inr ⟨.inr hxs, by rw [hs, hrest]; rfl⟩
    · exact .inr ⟨.inl hx, by rw [hs]; rfl⟩

/-- A template value has a text unless this shows an integer of too many digits. -/
theorem Proper.stringify_texted (h : v.Proper) : Texted v.Overlong v.stringify := by
  induction h with
  | null | bool b | float x | text s | markup s => exact texted_of_ok (by rintro ⟨⟩)
  | int n =>
    have hdisplay : (Value.int n).stringify = if (Value.int n).isWritable then
        .ok (Value.int n).inspect else .error (.fault (.failure .badValue)) := rfl
    rw [hdisplay, overlong_int]
    cases (Value.int n).isWritable with
    | true => exact texted_of_ok (by simp)
    | false => exact .inr ⟨rfl, rfl⟩
  | @list xs _ ih =>
    rw [overlong_list]
    have hlist : (Value.list xs).stringify =
        stringifyAll xs >>= fun ss => return enclose "[" "]" ss := rfl
    rw [hlist]
    rcases stringifyAll_texted ih with ⟨hxs, ss, hss⟩ | ⟨hxs, hss⟩
    · exact .inl ⟨hxs, _, by rw [hss]; rfl⟩
    · exact .inr ⟨hxs, by rw [hss]; rfl⟩
  | object _ _ _ => exact texted_of_ok (by rintro ⟨⟩)

/-- The value that stands for a text has this text. -/
theorem asText_of_stringify {s : String} (h : v.stringify = .ok s) :
    ∃ key, v.asText = .ok key ∧ key.text? = some s := by
  unfold asText
  cases htext : v.text? with
  | none => exact ⟨.text s, by simp only [h]; rfl, rfl⟩
  | some t =>
    have hshown : v.stringify = .ok t := by cases v <;> cases htext <;> rfl
    exact ⟨v, rfl, htext.trans (congrArg some (Except.ok.inj (hshown.symm.trans h)))⟩

theorem asText_of_error {problem : Problem} (h : v.stringify = .error problem) :
    v.asText = .error problem := by
  unfold asText
  cases htext : v.text? with
  | none => simp only [h]; rfl
  | some t =>
    have hshown : v.stringify = .ok t := by cases v <;> cases htext <;> rfl
    cases hshown.symm.trans h

end Value

namespace Filter

open Value

variable {path : Value} {p : String} {x : Value} {xs seen : List Value}
  {groups : List (Value × List Value)}

/-! ### Items that have the attribute -/

/-- The path leads to something that is not null. -/
def carries (p : String) (x : Value) : Bool := !(x.keyAt p).isUndefined && !(x.keyAt p).isNull

/-- The items that have the attribute. -/
def carriers (p : String) (xs : List Value) : List Value := xs.filter (carries p)

theorem carries_iff : carries p x = true ↔ x.keyAt p ≠ .undefined ∧ x.keyAt p ≠ .null := by
  unfold carries
  cases x.keyAt p <;> simp [isUndefined, isNull]

section

variable (hp : path.text? = some p)

include hp in
/-- The attribute that the filters see. -/
theorem attribute?_eq (hx : x.resolve p = .ok (x.keyAt p)) :
    attribute? path x = .ok (if carries p x then some (x.keyAt p) else none) := by
  have hby : x.resolveBy path = .ok (x.keyAt p) := by simp only [resolveBy, hp, hx]
  simp only [attribute?, lookAt, hby, carries, ← Bool.not_or, Bool.not_eq_true', ← Bool.not_eq_true,
    ite_not]
  rfl

include hp in
theorem select_eq : ∀ {xs : List Value}, (∀ x ∈ xs, x.resolve p = .ok (x.keyAt p)) →
    select path .null xs = .ok (carriers p xs)
  | [], _ => rfl
  | x :: xs, h => by
    rw [List.forall_mem_cons] at h
    rw [select, attribute?_eq hp h.1, carriers, List.filter_cons]
    simp only [select_eq h.2]
    cases carries p x <;> rfl

include hp in
theorem pluck_eq : ∀ {xs : List Value}, (∀ x ∈ xs, x.resolve p = .ok (x.keyAt p)) →
    pluck path xs = .ok ((carriers p xs).map (keyAt p))
  | [], _ => rfl
  | x :: xs, h => by
    rw [List.forall_mem_cons] at h
    rw [pluck, attribute?_eq hp h.1, carriers, List.filter_cons]
    simp only [pluck_eq h.2]
    cases carries p x <;> rfl

end

/-! ### Groups -/

/-- The text of what an item has at a path. -/
def labelAt (p : String) (x : Value) : Option String := (x.keyAt p).stringify.toOption

/-- The texts of the keys of groups. -/
def labels (groups : List (Value × List Value)) : List (Option String) :=
  groups.map fun g => g.1.text?

/-- A partition of items by the texts of what they have at a path. -/
structure Partitions (p : String) (items : List Value) (groups : List (Value × List Value)) :
    Prop where
  /-- The keys are the texts in order of their first appearance. -/
  ordered : labels groups = (items.map (labelAt p)).eraseDups
  distinct : (labels groups).Nodup
  /-- A key is spelled as the first item of its group has it. -/
  spelled : ∀ g ∈ groups, ∃ first, g.2.head? = some first ∧ (first.keyAt p).asText = .ok g.1
  /-- The group of a key is made of the items with its text. -/
  exact : ∀ g ∈ groups, g.2 = items.filter fun x => labelAt p x = g.1.text?
  perm : (groups.flatMap Prod.snd).Perm items

theorem partitions_nil (p : String) : Partitions p [] [] where
  ordered := rfl
  distinct := .nil
  spelled := by simp
  exact := by simp
  perm := .nil

/-- A further element is a first appearance or leaves the others as they are. -/
theorem eraseDups_concat [BEq α] [LawfulBEq α] [DecidableEq α] (l : List α) (a : α) :
    (l ++ [a]).eraseDups = if a ∈ l then l.eraseDups else l.eraseDups ++ [a] := by
  by_cases h : a ∈ l <;> simp [List.eraseDups_append, List.removeAll, List.eraseDups_cons, h]

theorem labels_addTo (groups : List (Value × List Value)) (key item : Value) :
    labels (addTo groups key item) =
      if key.text? ∈ labels groups then labels groups else labels groups ++ [key.text?] := by
  induction groups with
  | nil => rfl
  | cons g rest ih =>
    by_cases h : g.1.text? = key.text?
    · simp [addTo, labels, h]
    · have hne : ¬key.text? = g.1.text? := fun h' => h h'.symm
      have hadd : addTo (g :: rest) key item = g :: addTo rest key item := by
        simp [addTo, h]
      have hcons (gs : List (Value × List Value)) : labels (g :: gs) = g.1.text? :: labels gs := rfl
      rw [hadd, hcons, hcons, ih]
      by_cases hmem : key.text? ∈ labels rest <;> simp [hmem, hne]

/-- A group after an addition is an old one of another key, or that of the key with the item behind
    what it had. -/
theorem mem_addTo {key item : Value} {g : Value × List Value} (hdistinct : (labels groups).Nodup)
    (hg : g ∈ addTo groups key item) :
    (g ∈ groups ∧ g.1.text? ≠ key.text?) ∨
    (∃ items, (g.1, items) ∈ groups ∧ g.1.text? = key.text? ∧ g.2 = items ++ [item]) ∨
    (key.text? ∉ labels groups ∧ g = (key, [item])) := by
  induction groups with
  | nil => exact .inr (.inr ⟨by simp [labels], by simpa [addTo] using hg⟩)
  | cons e rest ih =>
    have hcons : labels (e :: rest) = e.1.text? :: labels rest := rfl
    rw [hcons, List.nodup_cons] at hdistinct
    by_cases h : e.1.text? = key.text?
    · have hadd : addTo (e :: rest) key item = (e.1, e.2 ++ [item]) :: rest := by simp [addTo, h]
      rw [hadd, List.mem_cons] at hg
      rcases hg with rfl | hg
      · exact .inr (.inl ⟨e.2, List.mem_cons_self .., h, rfl⟩)
      · -- no later group has the key
        refine .inl ⟨List.mem_cons_of_mem _ hg, fun hkey => hdistinct.1 ?_⟩
        rw [h, ← hkey]
        exact List.mem_map_of_mem hg
    · have hadd : addTo (e :: rest) key item = e :: addTo rest key item := by simp [addTo, h]
      rw [hadd, List.mem_cons] at hg
      rcases hg with rfl | hg
      · exact .inl ⟨List.mem_cons_self .., h⟩
      · rcases ih hdistinct.2 hg with ⟨hg, hne⟩ | ⟨items, hmem, hkey, hitems⟩ | ⟨hnew, rfl⟩
        · exact .inl ⟨List.mem_cons_of_mem _ hg, hne⟩
        · exact .inr (.inl ⟨items, List.mem_cons_of_mem _ hmem, hkey, hitems⟩)
        · refine .inr (.inr ⟨?_, rfl⟩)
          rw [hcons, List.mem_cons, not_or]
          exact ⟨fun h' => h h'.symm, hnew⟩

/-- An addition adds the item to what all groups have together. -/
theorem perm_addTo (groups : List (Value × List Value)) (key item : Value) :
    ((addTo groups key item).flatMap Prod.snd).Perm (groups.flatMap Prod.snd ++ [item]) := by
  induction groups with
  | nil => exact .refl _
  | cons e rest ih =>
    rw [addTo]
    split
    · simp only [List.flatMap_cons, List.append_assoc]
      exact (List.perm_append_comm).append_left _
    · simp only [List.flatMap_cons, List.append_assoc]
      exact ih.append_left _

/-- The step: an item put under its text keeps a partition. -/
theorem Partitions.add {key : Value} (h : Partitions p seen groups)
    (hkey : (x.keyAt p).asText = .ok key) (hlabel : labelAt p x = key.text?) :
    Partitions p (seen ++ [x]) (addTo groups key x) where
  ordered := by
    rw [labels_addTo, h.ordered, List.map_append, List.map_singleton, hlabel, eraseDups_concat]
    simp only [List.mem_eraseDups]
  distinct := by
    rw [labels_addTo]
    split
    · exact h.distinct
    · rename_i hnew
      exact h.distinct.append (by simp) (by simpa using hnew)
  spelled := by
    intro g hg
    rcases mem_addTo h.distinct hg with ⟨hg, -⟩ | ⟨items, hmem, -, hitems⟩ | ⟨-, rfl⟩
    · exact h.spelled g hg
    · obtain ⟨first, hfirst, hspelled⟩ := h.spelled _ hmem
      refine ⟨first, ?_, hspelled⟩
      have hfirst : items.head? = some first := hfirst
      rw [hitems, List.head?_append, hfirst]
      rfl
    · exact ⟨x, rfl, hkey⟩
  exact := by
    intro g hg
    rw [List.filter_append]
    rcases mem_addTo h.distinct hg with ⟨hg, hne⟩ | ⟨items, hmem, heq, hitems⟩ | ⟨hnew, rfl⟩
    · have hnot : ¬labelAt p x = g.1.text? := fun hx => hne (hx.symm.trans hlabel)
      rw [List.filter_singleton, decide_eq_false hnot, cond_false, List.append_nil]
      exact h.exact g hg
    · have hitem : labelAt p x = g.1.text? := hlabel.trans heq.symm
      rw [List.filter_singleton, decide_eq_true hitem, cond_true, hitems]
      exact congrArg (· ++ [x]) (h.exact _ hmem)
    · -- no item before has the text of a new key
      have hnone : seen.filter (fun y => labelAt p y = key.text?) = [] := by
        refine List.filter_eq_nil_iff.2 fun y hy hsame => hnew ?_
        rw [h.ordered, List.mem_eraseDups, List.mem_map]
        exact ⟨y, hy, by simpa using hsame⟩
      rw [hnone, List.filter_singleton, decide_eq_true hlabel]
      rfl
  perm := (perm_addTo groups key x).trans (h.perm.append_right [x])

section

variable (hp : path.text? = some p)

include hp in
/-- The run: the items that have the attribute are added one by one, unless one of them has no text
    for it. -/
theorem group_outcome : ∀ {xs seen : List Value} {groups : List (Value × List Value)},
    Partitions p seen groups →
    (∀ x ∈ xs, x.resolve p = .ok (x.keyAt p)) →
    (∀ x ∈ carriers p xs, Texted (x.keyAt p).Overlong (x.keyAt p).stringify) →
    (¬(∃ x ∈ carriers p xs, (x.keyAt p).Overlong) ∧
      ∃ all, group path groups xs = .ok all ∧ Partitions p (seen ++ carriers p xs) all) ∨
    ((∃ x ∈ carriers p xs, (x.keyAt p).Overlong) ∧
      group path groups xs = .error (.fault (.failure .badValue)))
  | [], seen, groups, h, _, _ => .inl ⟨by simp [carriers], groups, rfl, by simpa [carriers] using h⟩
  | x :: xs, seen, groups, h, hfound, htexted => by
    rw [List.forall_mem_cons] at hfound
    have hattribute := attribute?_eq hp hfound.1
    -- an item without the attribute is passed over; another one needs a text to find its group
    cases hcarries : carries p x with
    | false =>
      have hdrop : carriers p (x :: xs) = carriers p xs := by simp [carriers, hcarries]
      have hgroup : group path groups (x :: xs) = group path groups xs := by
        rw [group, hattribute, hcarries]
        rfl
      rw [hdrop] at htexted
      rw [hdrop, hgroup]
      exact group_outcome h hfound.2 htexted
    | true =>
      have hkeep : carriers p (x :: xs) = x :: carriers p xs := by simp [carriers, hcarries]
      have hgroup : group path groups (x :: xs) =
          (x.keyAt p).asText >>= fun key => group path (addTo groups key x) xs := by
        rw [group, hattribute, hcarries]
        rfl
      rw [hkeep, List.forall_mem_cons] at htexted
      simp only [hkeep, hgroup, List.mem_cons, exists_eq_or_imp]
      rcases htexted.1 with ⟨hshort, s, hs⟩ | ⟨hlong, hs⟩
      · obtain ⟨key, hkey, htext⟩ := asText_of_stringify hs
        have hlabel : labelAt p x = key.text? := by rw [labelAt, hs, htext]; rfl
        rw [hkey]
        rcases group_outcome (h.add hkey hlabel) hfound.2 htexted.2 with
          ⟨hrest, all, hall, hpart⟩ | ⟨hrest, herror⟩
        · refine .inl ⟨not_or.2 ⟨hshort, hrest⟩, all, hall, ?_⟩
          rwa [List.append_assoc] at hpart
        · exact .inr ⟨.inr hrest, herror⟩
      · exact .inr ⟨.inl hlong, by rw [asText_of_error hs]; rfl⟩

include hp in
/-- Grouping partitions the items that have the attribute, or fails at a text that cannot be had. -/
theorem groupBy_outcome (hproper : ∀ x ∈ xs, x.Proper)
    (hfound : ∀ x ∈ xs, x.resolve p = .ok (x.keyAt p)) :
    (¬(∃ x ∈ carriers p xs, (x.keyAt p).Overlong) ∧ ∃ groups,
      groupBy (.list xs) path = .ok (.object (groups.map fun g => (g.1, .list g.2))) ∧
      Partitions p (carriers p xs) groups) ∨
    ((∃ x ∈ carriers p xs, (x.keyAt p).Overlong) ∧
      groupBy (.list xs) path = .error (.fault (.failure .badValue))) := by
  have htexted : ∀ x ∈ carriers p xs, Texted (x.keyAt p).Overlong (x.keyAt p).stringify := by
    intro x hx
    obtain ⟨hx, hcarries⟩ := List.mem_filter.1 hx
    have hby : x.resolveBy (.text p) = .ok (x.keyAt p) := hfound x hx
    have hkey : (x.keyAt p).Proper :=
      (Proper.hereditary.resolveBy (hproper x hx) hby).resolve_right (carries_iff.1 hcarries).1
    exact hkey.stringify_texted
  have hgroupBy : groupBy (.list xs) path =
      group path [] xs >>= fun gs => return .object (gs.map fun g => (g.1, .list g.2)) := rfl
  rw [hgroupBy]
  rcases group_outcome hp (partitions_nil p) hfound htexted with
    ⟨hshort, groups, hgroups, hpart⟩ | ⟨hlong, herror⟩
  · exact .inl ⟨hshort, groups, by rw [hgroups]; rfl, hpart⟩
  · exact .inr ⟨hlong, by rw [herror]; rfl⟩

include hp in
/-- Filtering, mapping and grouping by an attribute, with a path that fails at none of the items,
    agree on the items that have it: these are the ones where the path leads to something that is
    not null. They are kept in their order, map to what they have, and are partitioned into groups
    by the texts of it, in order of first appearance. There are groups unless one of these texts
    would show an integer of too many digits. -/
theorem attribute_filters_agree (hproper : ∀ x ∈ xs, x.Proper)
    (hfound : ∀ x ∈ xs, ∃ found, x.resolve p = .ok found) :
    (∀ x, x ∈ carriers p xs ↔ x ∈ xs ∧ x.keyAt p ≠ .undefined ∧ x.keyAt p ≠ .null) ∧
    (carriers p xs).Sublist xs ∧
    filter (.list xs) path .null = .ok (.list (carriers p xs)) ∧
    map (.list xs) path = .ok (.list ((carriers p xs).map (keyAt p))) ∧
    ((∀ x ∈ carriers p xs, ¬(x.keyAt p).Overlong) → ∃ groups,
      groupBy (.list xs) path = .ok (.object (groups.map fun g => (g.1, .list g.2))) ∧
      Partitions p (carriers p xs) groups) ∧
    ((∃ x ∈ carriers p xs, (x.keyAt p).Overlong) →
      groupBy (.list xs) path = .error (.fault (.failure .badValue))) := by
  have hfound : ∀ x ∈ xs, x.resolve p = .ok (x.keyAt p) := fun x hx => by
    obtain ⟨found, h⟩ := hfound x hx
    rw [h, keyAt_of_resolve h]
  have hfilter : filter (.list xs) path .null =
      select path .null xs >>= fun kept => return .list kept := rfl
  have hmap : map (.list xs) path = pluck path xs >>= fun plucked => return .list plucked := rfl
  refine ⟨fun x => ?_, List.filter_sublist, ?_, ?_, fun hshort => ?_, fun hlong => ?_⟩
  · rw [carriers, List.mem_filter, carries_iff]
  · rw [hfilter, select_eq hp hfound]
    rfl
  · rw [hmap, pluck_eq hp hfound]
    rfl
  · rcases groupBy_outcome hp hproper hfound with ⟨-, hgroups⟩ | ⟨⟨x, hx, hlong⟩, -⟩
    · exact hgroups
    · exact absurd hlong (hshort x hx)
  · rcases groupBy_outcome hp hproper hfound with ⟨hshort, -⟩ | ⟨-, herror⟩
    · exact absurd hlong hshort
    · exact herror

end

theorem keyAt_priced (price : Value) : (priced price).keyAt "price" = price :=
  keyAt_of_resolve (resolve_priced price)

theorem proper_priced {price : Value} (h : price.Proper) : (priced price).Proper :=
  .object (by simp [text?]) (by simpa using h)

/-- Goods of one price, one without a price between them. -/
def stall : List Value := [priced (.int 2), priced .null, priced (.int 2)]

/-- The goods with a price come into one group. -/
theorem attribute_filters_agree_stall :
    (∀ x ∈ stall, x.Proper) ∧ (∀ x ∈ stall, ∃ found, x.resolve "price" = .ok found) ∧
    filter (.list stall) (.text "price") .null =
      .ok (.list [priced (.int 2), priced (.int 2)]) ∧
    ∃ groups, groupBy (.list stall) (.text "price") =
        .ok (.object (groups.map fun g => (g.1, .list g.2))) ∧
      Partitions "price" [priced (.int 2), priced (.int 2)] groups := by
  have hproper : ∀ x ∈ stall, x.Proper := by
    simp [stall, proper_priced (.int 2), proper_priced .null]
  have hfound : ∀ x ∈ stall, ∃ found, x.resolve "price" = .ok found := by
    simp [stall, resolve_priced]
  have hcarriers : carriers "price" stall = [priced (.int 2), priced (.int 2)] := by
    simp [stall, carriers, carries, keyAt_priced, isUndefined, isNull]
  have hshort : ¬(Value.int 2).Overlong := by
    rw [overlong_int]
    decide +kernel
  obtain ⟨-, -, hfilter, -, hgroups, -⟩ :=
    @attribute_filters_agree (.text "price") "price" stall rfl hproper hfound
  rw [hcarriers] at hfilter hgroups
  exact ⟨hproper, hfound, hfilter, hgroups (by simpa [keyAt_priced] using hshort)⟩

/-- There are no groups where an attribute is an integer of too many digits. -/
theorem groupBy_overlong : ¬∀ xs : List Value, (∀ x ∈ xs, x.Proper) →
    (∀ x ∈ xs, ∃ found, x.resolve "price" = .ok found) →
    ∃ groups, groupBy (.list xs) (.text "price") = .ok groups := by
  intro h
  have hproper : ∀ x ∈ [priced (.int unwritable)], x.Proper :=
    List.forall_mem_singleton.2 (proper_priced (.int _))
  obtain ⟨groups, hgroups⟩ := h _ hproper
    (List.forall_mem_singleton.2 ⟨_, resolve_priced _⟩)
  have hcarriers (n : Int) : carriers "price" [priced (.int n)] = [priced (.int n)] := by
    simp [carriers, carries, keyAt_priced, isUndefined, isNull]
  have hlong : (Value.int unwritable).Overlong := .int (Int.natAbs_natCast _).ge
  have houtcome := @groupBy_outcome (.text "price") "price" _ rfl hproper
    (List.forall_mem_singleton.2 (by rw [resolve_priced, keyAt_priced]))
  rw [hcarriers] at houtcome
  rcases houtcome with ⟨hshort, -⟩ | ⟨-, herror⟩
  · exact hshort ⟨_, List.mem_singleton_self _, (keyAt_priced _).symm ▸ hlong⟩
  · cases hgroups.symm.trans herror

end Filter

end Stencil
