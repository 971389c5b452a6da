import Mathlib.Data.Set.Finite.List
import Mathlib.Order.WellFounded
import Stencil.Proofs.Standpoint

/-! Definitions of blocks that lead to others. In the code of a definition there may be blocks,
    which run the definitions that come first in the lineage in effect, and `super`, which runs the
    one that comes next. A lineage has finitely many definitions: where none of them leads back to
    itself, no way from one to the next is endless. -/

namespace Stencil.Lineage

/-- A definition of a block by a template, with the rest of the lineage it was found in. -/
structure Definition where
  block : String
  owner : Template
  body : List Node
  rest : List Template

/-- The definition of a block that comes first in a lineage. -/
def definition? (block : String) (lineage : List Template) : Option Definition :=
  (definer? block lineage).map fun (owner, b, rest) => { block, owner, body := b.body, rest }

/-- The definitions that a definition leads to where a lineage is in effect. -/
def Definition.leads (lineage : List Template) (d : Definition) : List Definition :=
  (d.body.flatMap Node.preorder).filterMap fun
    | .block _ name _ => definition? name lineage
    | .super _ => definition? d.block d.rest
    | _ => none

/-- The definition that code starts whatever happens, if it is a text that is followed by a block or
    `super`. -/
def opens (lineage : List Template) (next : Option Definition) : List Node → Option Definition
  | .data .. :: rest | .raw .. :: rest => opens lineage next rest
  | .block _ name _ :: _ => definition? name lineage
  | .super _ :: _ => next
  | _ => none

/-- The definition that a definition starts whatever happens. -/
def Definition.opens (lineage : List Template) (d : Definition) : Option Definition :=
  Lineage.opens lineage (definition? d.block d.rest) d.body

/-- The definitions of all blocks in a lineage. -/
def allDefinitions (lineage : List Template) : List Definition :=
  lineage.flatMap fun t => t.blocks.names.flatMap fun name =>
    lineage.tails.filterMap (definition? name)

/-- No definition leads back to itself, over whatever other ones. -/
def Acyclic (lineage : List Template) : Prop :=
  ∀ d ∈ allDefinitions lineage, ¬Relation.TransGen (fun d e => e ∈ d.leads lineage) d d

variable {lineage : List Template} {block : String} {d e : Definition}

/-- What is found in a lineage belongs to one of its templates, and what is left of the lineage
    comes after that. -/
theorem definer?_eq_some : ∀ {lineage : List Template} {t : Template} {b : Block}
    {rest : List Template}, definer? block lineage = some (t, b, rest) →
      t.blocks.get? block = some b ∧ t :: rest <:+ lineage
  | u :: more, t, b, rest, h => by
    rw [definer?] at h
    cases hu : u.blocks.get? block with
    | some c =>
      rw [hu] at h
      cases h
      exact ⟨hu, List.suffix_refl _⟩
    | none =>
      rw [hu] at h
      obtain ⟨hb, hrest⟩ := definer?_eq_some h
      exact ⟨hb, hrest.trans (List.suffix_cons u more)⟩

theorem definition?_eq_some (h : definition? block lineage = some d) :
    d.block = block ∧ d.owner.blocks.contains block = true ∧ d.owner :: d.rest <:+ lineage := by
  obtain ⟨⟨owner, b, rest⟩, hfound, rfl⟩ := Option.map_eq_some_iff.1 h
  obtain ⟨hb, hrest⟩ := definer?_eq_some hfound
  exact ⟨rfl, Table.contains_iff.2 ⟨b, hb⟩, hrest⟩

theorem mem_leads_iff : e ∈ d.leads lineage ↔
    (∃ p name body, .block p name body ∈ d.body.flatMap Node.preorder ∧
      definition? name lineage = some e) ∨
    ∃ p, .super p ∈ d.body.flatMap Node.preorder ∧ definition? d.block d.rest = some e := by
  unfold Definition.leads
  rw [List.mem_filterMap]
  constructor
  · rintro ⟨n, hn, he⟩
    split at he
    · exact Or.inl ⟨_, _, _, hn, he⟩
    · exact Or.inr ⟨_, hn, he⟩
    · cases he
  · rintro (⟨p, name, body, hn, he⟩ | ⟨p, hn, he⟩)
    · exact ⟨_, hn, he⟩
    · exact ⟨_, hn, he⟩

/-- What code starts is the definition of a block or what `super` goes on with. -/
theorem mem_of_opens {next : Option Definition} : ∀ {ns : List Node},
    opens lineage next ns = some e →
      (∃ p name body, .block p name body ∈ ns ∧ definition? name lineage = some e) ∨
        ∃ p, .super p ∈ ns ∧ next = some e
  | n :: rest, h => by
    have later (h : opens lineage next rest = some e) :
        (∃ p name body, .block p name body ∈ n :: rest ∧ definition? name lineage = some e) ∨
          ∃ p, .super p ∈ n :: rest ∧ next = some e := by
      rcases mem_of_opens h with ⟨p, name, body, hmem, he⟩ | ⟨p, hmem, he⟩
      · exact Or.inl ⟨p, name, body, List.mem_cons_of_mem _ hmem, he⟩
      · exact Or.inr ⟨p, List.mem_cons_of_mem _ hmem, he⟩
    cases n <;> simp only [opens, reduceCtorEq] at h
    case data | raw => exact later h
    case block p name body => exact Or.inl ⟨p, name, body, List.mem_cons_self .., h⟩
    case super p => exact Or.inr ⟨p, List.mem_cons_self .., h⟩

theorem mem_leads_of_opens (h : d.opens lineage = some e) : e ∈ d.leads lineage := by
  have below {n : Node} (hn : n ∈ d.body) : n ∈ d.body.flatMap Node.preorder :=
    List.mem_flatMap.2 ⟨n, hn, by rw [Node.preorder_eq]; exact List.mem_cons_self ..⟩
  rcases mem_of_opens h with ⟨p, name, body, hmem, he⟩ | ⟨p, hmem, he⟩
  · exact mem_leads_iff.2 (Or.inl ⟨p, name, body, below hmem, he⟩)
  · exact mem_leads_iff.2 (Or.inr ⟨p, below hmem, he⟩)

/-- A definition that is found in a part of a lineage is one of the lineage. -/
theorem mem_allDefinitions {part : List Template} (hpart : part <:+ lineage)
    (h : definition? block part = some d) : d ∈ allDefinitions lineage := by
  obtain ⟨-, hb, hrest⟩ := definition?_eq_some h
  have howner : d.owner ∈ lineage := (hrest.trans hpart).subset (List.mem_cons_self ..)
  refine List.mem_flatMap.2 ⟨d.owner, howner, List.mem_flatMap.2 ⟨block, ?_, ?_⟩⟩
  · obtain ⟨b, hb⟩ := Table.contains_iff.1 hb
    exact List.mem_map.2 ⟨(block, b), Table.mem_entries_iff.2 hb, rfl⟩
  · exact List.mem_filterMap.2 ⟨part, (List.mem_tails _ _).2 hpart, h⟩

theorem suffix_of_mem_allDefinitions (h : d ∈ allDefinitions lineage) :
    d.owner :: d.rest <:+ lineage := by
  obtain ⟨t, -, h⟩ := List.mem_flatMap.1 h
  obtain ⟨name, -, h⟩ := List.mem_flatMap.1 h
  obtain ⟨part, hpart, h⟩ := List.mem_filterMap.1 h
  exact (definition?_eq_some h).2.2.trans ((List.mem_tails _ _).1 hpart)

/-- The definitions of a lineage lead to such only. -/
theorem leads_closed (hd : d ∈ allDefinitions lineage) (he : e ∈ d.leads lineage) :
    e ∈ allDefinitions lineage := by
  rcases mem_leads_iff.1 he with ⟨-, name, -, -, he⟩ | ⟨-, -, he⟩
  · exact mem_allDefinitions (List.suffix_refl _) he
  · exact mem_allDefinitions
      ((List.suffix_cons _ _).trans (suffix_of_mem_allDefinitions hd)) he

/-- Where the definitions of a lineage can be ranked so that they lead to lower ones, none of them
    leads back to itself. -/
theorem acyclic_of_rank (rank : Definition → Nat)
    (h : ∀ d ∈ allDefinitions lineage, ∀ e ∈ d.leads lineage, rank e < rank d) :
    Acyclic lineage := by
  have lower : ∀ d e, Relation.TransGen (fun d e => e ∈ d.leads lineage) d e →
      d ∈ allDefinitions lineage → rank e < rank d := by
    intro d e hde
    induction hde using Relation.TransGen.head_induction_on with
    | single hde => exact fun hd => h _ hd _ hde
    | head hdc _ ih => exact fun hd => (ih (leads_closed hd hdc)).trans (h _ hd _ hdc)
  exact fun d hd hdd => Nat.lt_irrefl _ (lower d d hdd hd)

/-- Where no definition of a lineage leads back to itself, no definition leads on endlessly; one of
    another lineage gets to those of this one or over its own ones to its end. -/
theorem Acyclic.wellFounded (h : Acyclic lineage) :
    WellFounded fun e d : Definition => e ∈ d.leads lineage := by
  have inside : ∀ d ∈ allDefinitions lineage,
      Acc (fun e d : Definition => e ∈ d.leads lineage) d := by
    -- a lineage has finitely many definitions; among them reaching is transitive and irreflexive
    let reaches : {d // d ∈ allDefinitions lineage} → {d // d ∈ allDefinitions lineage} → Prop :=
      fun e d => Relation.TransGen (fun d e => e ∈ d.leads lineage) d.1 e.1
    have : Finite {d // d ∈ allDefinitions lineage} := (List.finite_toSet _).to_subtype
    have : IsTrans _ reaches := ⟨fun _ _ _ hab hbc => hbc.trans hab⟩
    have : Std.Irrefl reaches := ⟨fun d => h d.1 d.2⟩
    have hwf := Finite.wellFounded_of_trans_of_irrefl reaches
    intro d hd
    generalize hx : (⟨d, hd⟩ : {d // d ∈ allDefinitions lineage}) = x
    induction x using hwf.induction generalizing d with
    | _ x ih =>
      subst hx
      exact Acc.intro d fun e he => ih ⟨e, leads_closed hd he⟩ (.single he) e _ rfl
  refine ⟨fun d => ?_⟩
  -- a definition of another lineage follows its own chain, which gets shorter, until it gets inside
  induction hn : d.rest.length using Nat.strong_induction_on generalizing d with
  | _ n ih =>
    refine Acc.intro d fun e he => ?_
    rcases mem_leads_iff.1 he with ⟨-, name, -, -, he⟩ | ⟨-, -, he⟩
    · exact inside e (mem_allDefinitions (List.suffix_refl _) he)
    · have hlength := (definition?_eq_some he).2.2.length_le
      rw [List.length_cons] at hlength
      exact ih e.rest.length (by omega) e rfl

end Stencil.Lineage
