import Mathlib.Data.List.Basic
import Stencil.RunSort

/-! Sorting by runs makes nothing up: whatever the comparison answers, every element of the result
    is one of the list. The steps that move elements keep a property of all of them, from which it
    follows for the merges by recursion on their fuel. -/

namespace Stencil.RunSort

variable {α : Type} {P : α → Prop} {lt : α → α → Bool}

/-- All elements of an array have a property. -/
def Holds (P : α → Prop) (a : Array α) : Prop := ∀ x ∈ a, P x

/-- All elements of a list have a property. -/
def Listed (P : α → Prop) (xs : List α) : Prop := ∀ x ∈ xs, P x

theorem holds_append {a b : Array α} (ha : Holds P a) (hb : Holds P b) : Holds P (a ++ b) := by
  intro x hx
  rcases Array.mem_append.1 hx with hx | hx
  · exact ha x hx
  · exact hb x hx

theorem holds_extract {a : Array α} (ha : Holds P a) (i j : Nat) : Holds P (a.extract i j) := by
  intro x hx
  obtain ⟨k, hk, rfl⟩ := Array.mem_extract_iff_getElem.1 hx
  exact ha _ (Array.getElem_mem _)

theorem listed_append {xs ys : List α} (hxs : Listed P xs) (hys : Listed P ys) :
    Listed P (xs ++ ys) := by
  intro x hx
  rcases List.mem_append.1 hx with hx | hx
  · exact hxs x hx
  · exact hys x hx

theorem listed_item {a : Array α} (ha : Holds P a) (i : Nat) : Listed P a[i]?.toList := by
  intro x hx
  rw [Option.mem_toList] at hx
  exact ha x (Array.mem_of_getElem? hx)

theorem listed_toList {a : Array α} (ha : Holds P a) : Listed P a.toList := by
  intro x hx
  exact ha x (Array.mem_toList_iff.1 hx)

theorem holds_toArray {xs : List α} (h : Listed P xs) : Holds P xs.toArray := by
  intro x hx
  exact h x (List.mem_toArray.1 hx)

theorem holds_appendList {a : Array α} {xs : List α} (ha : Holds P a) (hxs : Listed P xs) :
    Holds P (a ++ xs) := by
  intro x hx
  rw [← Array.mem_toList_iff, Array.toList_appendList] at hx
  exact listed_append (listed_toList ha) hxs x hx

/-! ### Merging -/

/-- Both ways to merge put together parts of the two runs. -/
theorem holds_front {a b : Array α} (ha : Holds P a) (hb : Holds P b) (fuel : Nat) (pace : Pace)
    (limit i j : Nat) (out : Array α) (hout : Holds P out) :
    Holds P (front lt a b fuel pace limit i j out).2 := by
  fun_induction front lt a b fuel pace limit i j out
  all_goals grind [holds_append, holds_extract, listed_item, holds_appendList]

theorem listed_back {a b : Array α} (ha : Holds P a) (hb : Holds P b) (fuel : Nat) (pace : Pace)
    (limit m n : Nat) (out : List α) (hout : Listed P out) :
    Listed P (back lt a b fuel pace limit m n out).2 := by
  fun_induction back lt a b fuel pace limit m n out
  all_goals grind [listed_append, holds_extract, listed_item, listed_toList]

theorem holds_mergeCore {a b : Array α} (limit : Nat) (ha : Holds P a) (hb : Holds P b) :
    Holds P (mergeCore lt limit a b).2 := by
  unfold mergeCore
  split_ifs
  · exact holds_append hb ha
  · exact holds_append hb ha
  · exact holds_front ha hb _ _ _ _ _ _ (holds_extract hb _ _)
  · exact holds_append hb ha
  · exact holds_append hb ha
  · exact holds_toArray (listed_back ha hb _ _ _ _ _ _ (listed_toList (holds_extract ha _ _)))

theorem holds_merge {a b : Array α} (limit : Nat) (ha : Holds P a) (hb : Holds P b) :
    Holds P (merge lt limit a b).2 := by
  unfold merge
  dsimp only
  split_ifs
  · exact holds_append ha hb
  · exact holds_append (holds_append (holds_extract ha _ _) (holds_extract ha _ _))
      (holds_extract hb _ _)
  · refine holds_append (holds_append (holds_extract ha _ _) ?_) (holds_extract hb _ _)
    exact holds_mergeCore _ (holds_extract ha _ _) (holds_extract hb _ _)

/-! ### Runs -/

theorem holds_insert {run : Array α} {x : α} (hrun : Holds P run) (hx : P x) :
    Holds P (insert lt run x) := by
  refine holds_append (holds_append (holds_extract hrun _ _) ?_) (holds_extract hrun _ _)
  exact holds_toArray (List.forall_mem_singleton.2 hx)

theorem holds_lengthen {xs : List α} {run : Array α} (hxs : Listed P xs) (hrun : Holds P run) :
    Holds P (xs.foldl (insert lt) run) := by
  induction xs generalizing run with
  | nil => exact hrun
  | cons x rest ih =>
    exact ih (fun y hy => hxs y (List.mem_cons_of_mem _ hy))
      (holds_insert hrun (hxs x (List.mem_cons_self ..)))

theorem mem_firstRun {xs : List α} {x : α} (h : x ∈ firstRun lt xs) : x ∈ xs := by
  cases xs with
  | nil => exact h
  | cons y rest =>
    rw [firstRun] at h
    split at h
    · exact (List.cons_subset_cons y (List.take_subset _ rest)) h
    · exact (List.cons_subset_cons y (List.take_subset _ rest)) (List.mem_reverse.1 h)

/-- All elements of the runs that wait have a property. -/
def Pending.Holds (P : α → Prop) (p : Pending α) : Prop := ∀ r ∈ p.runs, RunSort.Holds P r.items

namespace Pending

variable {p : Pending α}

theorem holds_mergeTop (h : Holds P p) : Holds P (p.mergeTop lt) := by
  unfold mergeTop
  split
  · rename_i b a rest hruns
    unfold Holds at h ⊢
    rw [hruns, List.forall_mem_cons, List.forall_mem_cons] at h
    exact List.forall_mem_cons.2 ⟨holds_merge _ h.2.1 h.1, h.2.2⟩
  · exact h

theorem holds_mergeBelow (h : Holds P p) : Holds P (p.mergeBelow lt) := by
  unfold mergeBelow
  split
  · rename_i c rest hruns
    unfold Holds at h
    rw [hruns, List.forall_mem_cons] at h
    exact List.forall_mem_cons.2 ⟨h.1, holds_mergeTop h.2⟩
  · exact h

theorem holds_settle {bound : Nat} (fuel : Nat) (h : Holds P p) :
    Holds P (p.settle lt bound fuel) := by
  induction fuel generalizing p with
  | zero => exact h
  | succ fuel ih =>
    rw [settle]
    split
    · split_ifs
      · exact ih (holds_mergeTop h)
      · exact h
    · exact h

theorem holds_push {n start : Nat} {items : Array α} (h : Holds P p)
    (hitems : RunSort.Holds P items) : Holds P (p.push lt n start items) := by
  have one : ∀ r ∈ [({ start, items } : Run α)], RunSort.Holds P r.items :=
    List.forall_mem_singleton.2 hitems
  unfold push
  split
  · exact one
  · dsimp only
    split
    · exact one
    · rename_i last rest _ _ last' rest' hruns
      -- settling merges runs, and what all elements satisfy holds of the merged ones
      have hsettled : ∀ r ∈ last' :: rest', RunSort.Holds P r.items := by
        rw [← hruns]
        exact holds_settle p.runs.length h
      rw [List.forall_mem_cons] at hsettled
      exact List.forall_mem_cons.2 ⟨hitems, List.forall_mem_cons.2 hsettled⟩

theorem holds_collapse (fuel : Nat) (h : Holds P p) : RunSort.Holds P (p.collapse lt fuel) := by
  induction fuel generalizing p with
  | zero =>
    rw [collapse]
    cases hruns : p.runs with
    | nil => exact fun x hx => absurd hx (Array.not_mem_empty x)
    | cons r rest => exact h r (hruns ▸ List.mem_cons_self ..)
  | succ fuel ih =>
    rw [collapse]
    split
    · split_ifs
      · exact ih (holds_mergeBelow h)
      · exact ih (holds_mergeTop h)
    · exact ih (holds_mergeTop h)

end Pending

theorem holds_cut {n least : Nat} (fuel start : Nat) {xs : List α} {p : Pending α}
    (hxs : Listed P xs) (hp : p.Holds P) : (cut lt n least fuel start xs p).Holds P := by
  induction fuel generalizing start xs p with
  | zero => exact hp
  | succ fuel ih =>
    cases xs with
    | nil => exact hp
    | cons x rest =>
      unfold cut
      refine ih _ (fun y hy => hxs y (List.mem_of_mem_drop hy)) (Pending.holds_push hp ?_)
      refine holds_lengthen (fun y hy => ?_) (holds_toArray fun y hy => hxs y (mem_firstRun hy))
      exact hxs y (List.mem_of_mem_take (List.mem_of_mem_drop hy))

/-- Every element of a sorted list is one of the list. -/
theorem mem_of_mem_sort {xs : List α} {x : α} (h : x ∈ sort lt xs) : x ∈ xs := by
  have hp : (({} : Pending α)).Holds (· ∈ xs) := by
    intro r hr
    cases hr
  exact listed_toList (Pending.holds_collapse _ (holds_cut _ _ (fun _ hy => hy) hp)) x h

end Stencil.RunSort
