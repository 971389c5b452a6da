import Stencil.Proofs.Lineage
import Stencil.Render

/-! What lineages prescribe. A prescribed render knows at every node from which *standpoint* its
    code is run: the lineage of the innermost template that is rendered or included, the template
    that owns the code, and the block definition in which the code stands. Which definition a block
    or `super` runs, which body a template runs and which macros `self` has is read off the
    standpoint alone, and neither off the frames of the call stack nor off the chains that templates
    record. Of those a prescribed render only takes note in the frames that it enters. -/

namespace Stencil

/-- A definition of a block that runs. Its lineage begins with the template that owns it and goes on
    with those whose definitions it overrides; its place in a chain is noted in its frame. -/
structure Running where
  block : String
  lineage : List Template
  position : Nat
  chain : BlockChain

/-- Whence code is run. -/
structure Standpoint where
  lineage : List Template
  owner : Template
  running : Option Running

/-- The first template of a lineage that defines a block, with its definition and the templates
    after it. -/
def Lineage.definer? (block : String) : List Template → Option (Template × Block × List Template)
  | [] => none
  | t :: rest =>
    match t.blocks.get? block with
    | some b => some (t, b, rest)
    | none => definer? block rest

namespace Standpoint

open Lineage Render

variable (calls : Standpoint → Calls) (σ : Standpoint)

/-- Runs a definition of a block as code of the template that owns it. -/
def enter (r : Running) (owner : Template) (b : Block) : Render Unit :=
  inTemplate owner.name (inScope (.block r.block r.position r.chain owner)
    ((calls { σ with owner, running := some r }).body b.body))

/-- Runs the definition of the first template of the lineage that has one. A block that the lineage
    does not know is its own definition, which overrides none. -/
def runBlock (name : String) (body : List Node) : Render Unit :=
  match definer? name σ.lineage with
  | some (owner, b, rest) =>
    σ.enter calls
      { block := name
        lineage := owner :: rest
        position := 0
        chain := definitionsOf σ.lineage name } owner b
  | none =>
    σ.enter calls
      { block := name
        lineage := [σ.owner]
        position := 0
        chain := [(σ.owner.name, ⟨name, body⟩)] } σ.owner ⟨name, body⟩

/-- Runs the definition of the next template, after the one that owns the definition that runs, that
    has one. -/
def runSuper : Render Unit :=
  match σ.running with
  | none => raise { RuntimeError.general "super() called outside of a block" with
      construct := some "super" }
  | some r =>
    match definer? r.block r.lineage.tail with
    | some (owner, b, rest) =>
      σ.enter calls { r with lineage := owner :: rest, position := r.position + 1 } owner b
    | none => raise (noParent r.block)

/-- Runs the body of the last template of a lineage. -/
def runRoot (running : Option Running) (lineage : List Template) : Render Unit :=
  match lineage.getLast? with
  | none => done ()
  | some root =>
    inTemplate root.name (inScope (.root root)
      ((calls { lineage, owner := root, running }).body root.document.body))

/-- The macro of a name; those of `self` are the owner's. -/
def findMacro (setting : Setting) (space name : String) : Render (Template × Macro) :=
  if space = "self" then
    match σ.owner.macros.get? name with
    | some m => done (σ.owner, m)
    | none => raise (.capabilityNotFound "macro" ("self::" ++ name) none)
  else Render.findMacro setting space name

/-- What nodes refer to, found from a standpoint. -/
def links (setting : Setting) : Links :=
  { findMacro := σ.findMacro setting
    runMacro := fun owner m => Render.runMacro (calls { σ with owner, running := none }) owner m
    runBlock := σ.runBlock calls
    runSuper := σ.runSuper calls
    runInclude := Render.runInclude
      (fun t => runRoot calls σ.running (lineageOf setting.templates t)) setting
    render := (calls σ).render }

end Standpoint

namespace Render

open Lineage

/-- What nodes may start from a standpoint, nested at most so deep. -/
def prescribed : Nat → Setting → Standpoint → Calls
  | 0, _, _ =>
    { body := fun _ => halt .exhausted
      value := fun _ => halt .exhausted
      render := fun _ => .error .exhausted }
  | depth + 1, s, σ =>
    { body := execAll (σ.links (prescribed depth s) s) s
      value := eval (σ.links (prescribed depth s) s) s false
      render := named
        (fun s t => Standpoint.runRoot (prescribed depth s) none (lineageOf s.templates t)) s.env }

/-- The render of a template that its lineage prescribes. -/
def prescribedRun (s : Setting) (t : Template) (context : Context) (sink : Sink := .buffer) :
    Outcome :=
  outcome
    (whole s (Standpoint.runRoot (prescribed maxDepth s) none (lineageOf s.templates t)))
    (initial s t context sink)

end Render

end Stencil
