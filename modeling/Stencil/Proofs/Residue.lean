import Stencil.Proofs.Discipline
import Stencil.Proofs.Interruption
import Stencil.Proofs.Settling

/-! What a render leaves behind. However it ends, the call stack is empty, the place is left, and
    the rendered template is the only target. No request to a loop is left waiting by a render that
    succeeds, and in calm code by no render at all, so that another render from the state it leaves
    does what it would do from the start. In other code a render that halts in a filter block with a
    request in its body leaves the request, which then cuts the next render short. -/

namespace Stencil

open Render

/-- The data of a render stay what they are. -/
theorem Visits.context_eq {start : RenderState} {K : List Section} {s : RenderState}
    (h : Visits start K s) : s.stack.context = start.stack.context := by
  induction h with
  | start => rfl
  | push _ hpush ih =>
    obtain ⟨rfl, -⟩ := CallStack.push_eq_ok hpush
    exact ih
  | @pop _ s _ _ ih =>
    unfold popped CallStack.pop
    cases s.stack.frames <;> exact ih
  | @leave _ s _ _ _ ih =>
    unfold left
    split <;> exact ih
  | _ => assumption

namespace Render

section

variable (setting : Setting) (t : Template) (context : Context) (sink : Sink)

/-- A whole render ends in a visited state where all sections are closed. -/
theorem visits_end : Visits (begun setting t context sink) []
    (runTemplate (calls maxDepth setting) setting t (begun setting t context sink)).2 :=
  Visiting.visits ((Visiting.kept.simulation setting).runTemplate
    (fun ns _ => Visiting.kept.body setting maxDepth ns) trivial) .start

/-- The state that a render leaves is that outside of a render, but for the output and a request
    that may wait. -/
structure Cleared (s : RenderState) : Prop where
  stack : s.stack = { context, limit := setting.env.macroLimit }
  targets : s.targets = [t]
  place : s.place = none

theorem cleared_run : Cleared setting t context (run setting t context sink).final := by
  have hend := visits_end setting t context sink
  have hcontext := hend.context_eq
  have hlevel := hend.level_eq.1
  simp only [Section.level, RenderState.level, Level.mk.injEq] at hlevel
  obtain ⟨-, -, hlimit, htargets, -⟩ := hlevel
  exact ⟨congrArg₂ (fun context limit => ({ context, limit } : CallStack)) hcontext hlimit,
    htargets, rfl⟩

/-- A request that waits after a render waits where its template has run. -/
theorem pending_run : (run setting t context sink).final.pending =
    (runTemplate (calls maxDepth setting) setting t (begun setting t context sink)).2.pending := rfl

/-- No request waits after a render that succeeds. -/
theorem pending_of_ok (hok : (run setting t context sink).result = .ok ()) :
    (run setting t context sink).final.pending = false := by
  change Except.mapError problemOf (runTemplate (calls maxDepth setting) setting t
    (begun setting t context sink)).1 = .ok () at hok
  rw [pending_run]
  cases hrun : runTemplate (calls maxDepth setting) setting t (begun setting t context sink) with
  | mk r u =>
    rw [hrun] at hok
    cases r with
    | error h => cases hok
    | ok _ =>
      have hcode := (tidy setting maxDepth).runTemplate t
      exact Unlooped.pending_eq hcode hrun Bool.false_ne_true rfl

/-- Nor does one after a render of calm code. -/
theorem pending_of_calm {crossing : Bool}
    (hset : ∀ name u, setting.templates.get? name = some u → u.Calm crossing)
    (ht : t.Calm crossing) : (run setting t context sink).final.pending = false := by
  have hbegun : AllCalm crossing (begun setting t context sink) :=
    ⟨by simp [begun, initial], trivial, List.forall_mem_singleton.2 ht⟩
  have hsettled := (calming hset maxDepth).runTemplate ht _ hbegun rfl
  cases hresult : (run setting t context sink).result with
  | ok _ => exact pending_of_ok setting t context sink hresult
  | error p =>
    change Except.mapError problemOf (runTemplate (calls maxDepth setting) setting t
      (begun setting t context sink)).1 = .error p at hresult
    rw [pending_run]
    generalize runTemplate _ _ _ _ = x at hsettled hresult ⊢
    cases hsettled with
    | done => cases hresult
    | halt hnone => exact hnone

/-- A render from the state that another one has left, with an output of its own. -/
def again (setting : Setting) (t : Template) (left : RenderState) (sink : Sink) : Outcome :=
  outcome (whole setting (runTemplate (calls maxDepth setting) setting t))
    { left with sink, chunks := [] }

/-- A render from a cleared state in which no request waits is one from the start. -/
theorem again_eq {s : RenderState} (h : Cleared setting t context s) (hs : s.pending = false) :
    again setting t s sink = run setting t context sink := by
  unfold again
  rw [h.stack, h.targets, h.place, hs]
  rfl

/-- However a render ends, its state is the one that it was started in but for the output and a
    request that may wait: the call stack is empty, no macro call counts, the template is the only
    target, and there is no place. No request waits after a render that succeeds, and where none
    does, another render from the state does all that the first one would do. -/
theorem render_residue :
    let o := run setting t context sink
    o.final.stack = { context, limit := setting.env.macroLimit } ∧ o.final.targets = [t] ∧
    o.final.place = none ∧ (o.result = .ok () → o.final.pending = false) ∧
    (o.final.pending = false →
      ∀ sink', again setting t o.final sink' = run setting t context sink') := by
  intro o
  have hcleared := cleared_run setting t context sink
  exact ⟨hcleared.stack, hcleared.targets, hcleared.place, pending_of_ok setting t context sink,
    fun hpending sink' => again_eq setting t context sink' hcleared hpending⟩

end

/-- A page whose loop is left in a filter block with an argument that is not bound. -/
def abandoned : Template :=
  let here : Pos := ⟨1, 0⟩
  { name := "page.txt"
    document := { body :=
      [.data here "a", .data here "b", .loop here "x" (.list here [.const here (.int 1)])
        [.filterBlock here "upper" [.leave here] [.name here "y"] []] [] none none] } }

/-- A render that fails may leave a request, and then another render from the state that it leaves
    is cut short: it ends with the first statement. -/
theorem request_left :
    let o := run solitary abandoned {} .buffer
    o.final.pending = true ∧ o.result.toBool = false ∧ o.chunks.map Chunk.plain = ["a", "b"] ∧
    (again solitary abandoned o.final .buffer).result.toBool = true ∧
    (again solitary abandoned o.final .buffer).chunks.map Chunk.plain = ["a"] := by
  decide +kernel

end Render

namespace Environment

/-- In calm code a render leaves nothing behind: however it ends, another render from the state
    that it leaves does all that it would do from the start. Code is calm if no filter block has a
    request in its body, where either no body of a block or a template makes requests of loops
    around it, or blocks and includes count as requests. -/
theorem calm_render_again {env : Environment} {t : Template} {setting : Setting}
    (hr : Reachable env) (h : env.Renders t setting) (crossing : Bool)
    (hset : ∀ name u, setting.templates.get? name = some u → CalmBody crossing u.document.body)
    (context : Context) (sink sink' : Sink) :
    again setting t (run setting t context sink).final sink' = run setting t context sink' := by
  obtain ⟨rfl, hsettled, name, ht⟩ := h.settled hr
  have hcalm (n : String) (u : Template) (hu : setting.templates.get? n = some u) :=
    hsettled.toResolved.calm hset hu
  exact again_eq setting t context sink' (cleared_run setting t context sink)
    (pending_of_calm setting t context sink hcalm (hcalm name t ht))

/-- A tree with a request in a loop, beside a filter block, that fails in the loop. -/
def strandedTree : Document :=
  { body := [.loop {} "i" (upTo 2)
      [.filterBlock {} "wrap" [.data {} "a"] [] [], .branch {} (isNumber "i" 1) [.next {}] [] [],
        .output {} (.name {} "x")] [] none none] }

theorem calm_render_again_stranded : ∃ t,
    (wrapping strandedTree).templates.get? "p.html" = some t ∧
    let setting := Render.setting (wrapping strandedTree) t
    (run setting t {} .buffer).result.toBool = false ∧
    (run setting t {} .buffer).chunks.map Chunk.plain = ["a", "a"] ∧
    again setting t (run setting t {} .buffer).final .buffer = run setting t {} .buffer := by
  have hcalm : ((wrapping strandedTree).templates.entries.all fun e =>
      decide (CalmBody false e.2.document.body)) = true := by decide +kernel
  have hfails : ((wrapping strandedTree).templates.get? "p.html").map (fun t =>
      let o := run (Render.setting (wrapping strandedTree) t) t {} .buffer
      (o.result.toBool, o.chunks.map Chunk.plain)) = some (false, ["a", "a"]) := by
    decide +kernel
  obtain ⟨t, ht, hfails⟩ := Option.map_eq_some_iff.1 hfails
  obtain ⟨hresult, hchunks⟩ := Prod.mk.inj hfails
  refine ⟨t, ht, hresult, hchunks, calm_render_again (reachable_wrapping strandedTree)
    (.registered ht) false (fun name u hu => ?_) {} .buffer .buffer⟩
  exact of_decide_eq_true (List.all_eq_true.1 hcalm (name, u) (Table.mem_entries_iff.2 hu))

end Environment

end Stencil
