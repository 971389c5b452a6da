import Stencil.Template
import Stencil.Value.Equality

/-! Inheritance in a set of templates. The *lineage* of a template is the template and its ancestors,
    found by following parents; a block is defined by every template of the lineage that has it.
    Following parents ends, since every step adds a registered name that was not met before. -/

namespace Stencil.Lineage

/-- Fewer elements satisfy a stronger condition that one of them fails. -/
theorem length_filter_lt {α : Type} {p q : α → Bool} {l : List α} {x : α} (hx : x ∈ l)
    (hp : p x = true) (hq : q x = false) (hqp : ∀ y, q y = true → p y = true) :
    (l.filter q).length < (l.filter p).length := by
  have hle : ∀ l : List α, (l.filter q).length ≤ (l.filter p).length := fun l => by
    simp only [← List.countP_eq_length_filter]
    exact List.countP_mono_left fun y _ hy => hqp y hy
  induction l with
  | nil => simp at hx
  | cons y rest ih =>
    simp only [List.filter_cons]
    rcases List.mem_cons.1 hx with rfl | hx
    · have := hle rest
      simp only [hp, hq]; simp; omega
    · have := ih hx
      have := hqp y
      grind

/-- The registered names that are not met yet. -/
def unmet (ts : Table Template) (met : List String) : List String :=
  ts.names.filter fun n => !met.contains n

theorem unmet_lt {ts : Table Template} {met : List String} {name : String} {t : Template}
    (h : ts.get? name = some t) (hm : met.contains name = false) :
    (unmet ts (met ++ [name])).length < (unmet ts met).length := by
  refine length_filter_lt (Table.mem_names_of_get? h) (by simpa using hm) (by simp) fun y hy => ?_
  simp only [List.contains_append, Bool.not_or, Bool.and_eq_true] at hy
  exact hy.1

/-- The parents met from a template until a name comes up that was met before or is the start. An
    unregistered name on the way is an error. -/
def cycleFrom (ts : Table Template) (start : String) (met : List String) (current : Template) :
    Except Failure (List String) :=
  match current.parent with
  | none => .ok met
  | some p =>
    if p = start then .ok (met ++ [p])
    else
      match _h : ts.get? p with
      | none => .error .missingKey
      | some t => if _hm : met.contains p then .ok met else cycleFrom ts start (met ++ [p]) t
termination_by (unmet ts met).length
decreasing_by exact unmet_lt _h (by simpa using _hm)

/-- The names on the cycle through a template, the template itself last. -/
def cycle (ts : Table Template) (start : Template) : Except Failure (List String) :=
  cycleFrom ts start.name [] start

/-- Follows parents from a template of a lineage that has met the given names. A cycle is reported
    from the first template if it lies on it, else from the name that comes up again. -/
def climb (ts : Table Template) (origin : String) (met : List String) (current : Template) :
    Except ConstructionError (List String) :=
  match current.parent with
  | none => .ok met
  | some p =>
    if p = origin then .error (.circular origin (met ++ [p]))
    else
      match _h : ts.get? p with
      | none => .error (.missingParent current.name p)
      | some t =>
        -- the cycle lies ahead, and the first template is not on it
        if _hm : met.contains p then .error (.circular p ((cycle ts t).toOption.getD []))
        else climb ts origin (met ++ [p]) t
termination_by (unmet ts met).length
decreasing_by exact unmet_lt _h (by simpa using _hm)

/-- The ancestors of a template, the closest first. -/
def ancestors (ts : Table Template) (t : Template) : Except ConstructionError (List String) :=
  climb ts t.name [] t

/-- Adds the blocks of an owner to the chains of the templates derived from it. -/
def addOwner (chains : Table BlockChain) (owner : Template) : Table BlockChain :=
  owner.blocks.entries.foldl
    (fun cs b => cs.insert b.1 ((cs.get? b.1).getD [] ++ [(owner.name, b.2)])) chains

/-- The definition chains of the blocks of a lineage. -/
def definitions (lineage : List Template) : Table BlockChain := lineage.foldl addOwner .empty

/-- The templates of some names, all of which have to be registered. -/
def members (ts : Table Template) : List String → Except Failure (List Template)
  | [] => .ok []
  | n :: rest =>
    match ts.get? n with
    | none => .error .missingKey
    | some t => do
      let more ← members ts rest
      return t :: more

/-- A template that has nothing to resolve: it names no parent and defines no block. -/
def isPlain (t : Template) : Bool := t.parent.isNone && t.blocks.entries.isEmpty

/-- The template with its ancestors and definition chains in a set. -/
def resolveOne (ts : Table Template) (t : Template) : Except ConstructionError Template :=
  if isPlain t then .ok t
  else do
    let parents ← ancestors ts t
    let lineage := t :: parents.filterMap ts.get?
    return { t with parents, chains := definitions lineage }

/-- Resolves the templates of a list in a set and puts them into the result. -/
def resolveAll (ts resolved : Table Template) :
    List (String × Template) → Except ConstructionError (Table Template)
  | [] => .ok resolved
  | (name, t) :: rest => do
    let t ← resolveOne ts t
    resolveAll ts (resolved.insert name t) rest

/-- The set with every template resolved in it. -/
def resolve (ts : Table Template) : Except ConstructionError (Table Template) :=
  resolveAll ts .empty ts.entries

/-- Every imported template has to be registered; a value that cannot be a key is no name. -/
def checkImports (ts : Table Template) (owner : String) :
    List (Value × String) → Except Problem Unit
  | [] => .ok ()
  | (target, _) :: rest =>
    if !target.isKey then .error (.fault (.failure .wrongType))
    else if (target.text?.map ts.contains).getD false then checkImports ts owner rest
    else .error (.template (.construction (.missingImport owner target)))

/-- Checks the imports of every template of a list. -/
def checkAll (ts : Table Template) : List (String × Template) → Except Problem Unit
  | [] => .ok ()
  | (_, t) :: rest => do
    checkImports ts t.name t.imports
    checkAll ts rest

/-- Every template that another one imports is registered. -/
def checkMacroImports (ts : Table Template) : Except Problem Unit := checkAll ts ts.entries

end Stencil.Lineage
