import Stencil.Proofs.Clean
import Stencil.Proofs.Code
import Stencil.Proofs.History
import Stencil.Proofs.Reach

/-! Escaping cannot be bypassed by data. Where the trees themselves bring in no delimiters and
    nothing but the escape filters marks texts as safe, what a render writes has no delimiters,
    whatever its data. The invariant is that every value that the render can reach is clean: those
    of its data, of the locals and loops of all frames, and of the trees. What is printed is then a
    clean marked text or has been escaped, and a macro marks no text but one that was written so. -/

namespace Stencil

/-- A node that brings no delimiter into the output and marks no text as safe. -/
def Node.Harmless : Node → Prop
  | .data _ s | .raw _ s => Text.Clean s
  | .const _ v => v.Clean
  | .filter _ _ called _ _ => called ≠ "safe"
  | .filterBlock .. => False
  | _ => True

/-- A capability of the host that is not safe and returns clean values for clean arguments, such as
    values without any marked text. -/
structure Capability.Unmarked (c : Capability) : Prop where
  safe : c.safe = false
  clean : ∀ inv v, inv.Clean → c.call inv = .ok v → v.Clean

/-- The environment escapes texts as HTML does, and apart from the filter that marks any text its
    capabilities are built in or do not mark texts. -/
structure Environment.Escaping (env : Environment) : Prop where
  escape : ∀ s, env.escape s = .ok (Text.escapeHtml s)
  filters : ∀ name c, env.filters.get? name = some c → name ≠ "safe" →
    (∃ builtIn, builtIn ≠ "safe" ∧ Filter.all.get? builtIn = some c) ∨ c.Unmarked
  functions : ∀ name c, env.functions.get? name = some c →
    (∃ host builtIn, (Function.all host).get? builtIn = some c) ∨ c.Unmarked

/-- A chunk that a sink has made of a clean text. -/
def Sink.Passed (sink : Sink) (c : Chunk) : Prop :=
  ∃ held text, Text.Clean text ∧ sink held text = .ok c

namespace Capability

theorem Unmarked.demoted {c : Capability} (h : c.Unmarked) : c.Clean :=
  fun inv v hinv hv => clean_demoted h.safe (h.clean inv v hinv hv)

end Capability

namespace Environment

variable {env : Environment} {name : String} {c : Capability}

theorem Escaping.clean_filter (h : env.Escaping) (hc : env.lookup .filter name = .ok c)
    (hname : name ≠ "safe") : c.Clean := by
  rcases h.filters name c (lookup_eq_ok hc) hname with ⟨builtIn, hne, hb⟩ | hu
  · exact Filter.clean_of_get? hb hne
  · exact hu.demoted

theorem Escaping.clean_function (h : env.Escaping) (hc : env.lookup .function name = .ok c) :
    c.Clean := by
  rcases h.functions name c (lookup_eq_ok hc) with ⟨host, builtIn, hb⟩ | hu
  · exact Function.clean_of_get? hb
  · exact hu.demoted

end Environment

/-! ### The invariant -/

/-- Whatever a render can reach in a state is clean, and so is what it has written to its sink. -/
structure Guarded (ts : Table Template) (sink : Sink) (s : RenderState) : Prop extends
    s.Admitted (Registered ts) Value.Clean (BlockChain.Every Node.Harmless) where
  output : s.sink = sink
  chunks : ∀ c ∈ s.chunks, sink.Passed c

namespace Text

theorem clean_append {a b : String} (ha : Clean a) (hb : Clean b) : Clean (a ++ b) := by
  unfold Clean
  rw [String.toList_append]
  intro c hc
  rcases List.mem_append.1 hc with hc | hc
  · exact ha c hc
  · exact hb c hc

theorem clean_join : ∀ {texts : List String}, (∀ s ∈ texts, Clean s) → Clean (String.join texts)
  | [], _ => by decide
  | s :: rest, h => by
    rw [List.forall_mem_cons] at h
    rw [String.join_cons]
    exact clean_append h.1 (clean_join h.2)

end Text

/-- A buffer that has taken clean texts holds a clean text. -/
theorem Sink.clean_contents {chunks : List Chunk} (h : ∀ c ∈ chunks, Sink.buffer.Passed c) :
    Text.Clean (contents chunks) := by
  refine Text.clean_join fun s hs => ?_
  obtain ⟨c, hc, rfl⟩ := List.mem_map.1 hs
  obtain ⟨held, text, htext, rfl⟩ : ∃ held text, Text.Clean text ∧ .text text = c := by
    obtain ⟨held, text, htext, hpassed⟩ := h c (List.mem_reverse.1 hc)
    exact ⟨held, text, htext, Except.ok.inj hpassed⟩
  exact htext

namespace Render

/-- Renders that keep their states guarded; what has been written stays clean where they halt. -/
def guards (ts : Table Template) : Invariant Sink where
  holds := Guarded ts
  remains sink _ s := ∀ c ∈ s.chunks, sink.Passed c
  remains_of_holds _ h := h.chunks
  waiting _ h := { h with }

namespace Escaping

variable {ts : Table Template} {α : Type} {V : α → α → Prop} {m n : Render α}

theorem placeless : (guards ts).Placeless where
  moved _ h := { h with }
  left _ h := h
  located _ h := h

theorem reaching : (guards ts).Reaching (Registered ts) Value.Clean
    (BlockChain.Every Node.Harmless) where
  admitted h := h.toAdmitted
  altered _ _ h hs := { hs with output := h.output, chunks := h.chunks }
  abandoned _ _ h _ := h

theorem write {text : String} (h : Text.Clean text) :
    (guards ts).runs.congruence.rel Eq (Render.write text) (Render.write text) := by
  refine (guards ts).write fun sink s c hs hc => { hs with chunks := ?_ }
  rw [hs.output] at hc
  exact List.forall_mem_cons.2 ⟨⟨s.chunks, text, h, hc⟩, hs.chunks⟩

/-- What has been captured is clean, as all that a buffer takes is. -/
theorem captured {m n : Render Unit} (h : (guards ts).runs.congruence.rel Eq m n) :
    (guards ts).runs.congruence.rel (Same Text.Clean) (Render.captured m) (Render.captured n) := by
  refine (guards ts).captured (fun sink s hs => ⟨.buffer, ?_, fun u hu => ?_, fun _ _ _ => ?_⟩) h
  · exact { hs with output := rfl, chunks := by simp }
  · exact ⟨Sink.clean_contents hu.chunks, { hu with output := hs.output, chunks := hs.chunks }⟩
  · exact hs.chunks

/-- The values that a render can reach are guarded in settings that escape. -/
def simulation {setting : Setting} (hset : Lineage.Resolved setting.templates)
    (henv : setting.env.Escaping) (hescaping : setting.escaping = true)
    (htrees : ∀ name t, setting.templates.get? name = some t →
      ∀ n ∈ t.document.body, n.Every Node.Harmless) : Simulation setting where
  toCongruence := (guards setting.templates).runs.congruence
  node := Node.Harmless
  chain := BlockChain.Every Node.Harmless
  value := Value.Clean
  text := Text.Clean
  template := Registered setting.templates
  agree := fun s t => ∃ sink, (guards setting.templates).runs.states sink s t
  hereditary := Value.Clean.hereditary
  markup := ⟨fun h => by cases h; assumption, .markup⟩
  escaped := fun {s r} h => by
    rw [henv.escape s] at h
    cases h
    exact Text.clean_escapeHtml s
  unescaped := fun h => by
    rw [hescaping] at h
    cases h
  const := fun h => h
  data := fun h => h
  raw := fun h => h
  function := fun _ hc hargs hnamed hv => henv.clean_function hc _ _ ⟨hargs, hnamed⟩ hv
  filter := fun hnode hc hv hargs hnamed hw => by
    refine henv.clean_filter hc hnode _ _ ⟨List.forall_mem_cons.2 ⟨?_, hargs⟩, hnamed⟩ hw
    rcases hv with hv | ⟨-, rfl⟩
    · exact hv
    · exact .undefined
  filterBlock := fun h => h.elim
  registered := setting.registered
  code := hset.every htrees
  code_of_chain := fun h => h
  recorded := fun h => (hset.every htrees h).chain
  defined := fun _ h => List.forall_mem_singleton.2 h
  state := (guards setting.templates).runs.state
  pending := fun ⟨_, h, _⟩ => congrArg RenderState.pending h
  target := reaching.target
  loop := fun ⟨_, h, _⟩ => by rw [h]
  block := reaching.block
  find := reaching.find Value.Clean.hereditary
  undefinedAt := (guards setting.templates).undefinedAt
  exhausted := (guards setting.templates).exhausted fun hs => hs.chunks
  active := reaching.active
  requested := (guards setting.templates).requested
  atLine := placeless.atLine
  proceed := (guards setting.templates).proceed
  interrupt := reaching.interrupt
  write := write
  assign := reaching.assign
  assignWide := reaching.assignWide
  inScope := reaching.inScope
  inTemplate := placeless.inTemplate
  captured := captured
  allowing := reaching.allowing placeless

end Escaping

/-- In settings that escape, a render has passed clean texts alone to its sink when it ends, whether
    or not it succeeds. -/
theorem passed_of_run {setting : Setting} {t : Template} {context : Context} {sink : Sink}
    (hset : Lineage.Resolved setting.templates) (henv : setting.env.Escaping)
    (hescaping : setting.escaping = true)
    (htrees : ∀ name u, setting.templates.get? name = some u →
      ∀ n ∈ u.document.body, n.Every Node.Harmless)
    (ht : Registered setting.templates t) (hdata : context.root.Clean) :
    ∀ c ∈ (run setting t context sink).chunks, sink.Passed c := by
  -- nothing is written yet, and the data is clean
  have begin : Guarded setting.templates sink (begun setting t context sink) :=
    { frames := by simp [begun, initial]
      context := hdata
      targets := List.forall_mem_singleton.2 ht
      output := rfl
      chunks := by simp [begun, initial] }
  have ends := (Escaping.simulation hset henv hescaping htrees).runTemplate
    ((Escaping.simulation hset henv hescaping htrees).calls maxDepth).1 ht sink _ _ ⟨rfl, begin⟩
  intro c hc
  rw [chunks_run, List.mem_reverse] at hc
  generalize runTemplate _ _ _ _ = x at ends hc
  cases ends with
  | done _ hu => exact hu.2.chunks c hc
  | halt hu => exact hu.2.2 c hc

end Render

namespace Environment

open Render

/-- Data cannot bypass escaping. In an environment that escapes as HTML does and where nothing but
    the escape filters marks texts as safe, let the trees bring in no delimiters, no uses of the
    filter that marks any text and no filter blocks, and let the data be without marked texts or
    have clean ones. Then all that a render with escaping writes, whatever it calls, includes or
    computes on the way and however it ends, are texts without delimiters. -/
theorem escaping_not_bypassed {env : Environment} {t : Template} {setting : Setting}
    {context : Context} {sink : Sink} (hr : Reachable env) (h : env.Renders t setting)
    (henv : env.Escaping) (hescaping : setting.escaping = true)
    (htrees : ∀ name u, setting.templates.get? name = some u →
      ∀ n ∈ u.document.body, n.Every Node.Harmless)
    (hdata : context.root.Clean) :
    ∀ c ∈ (run setting t context sink).chunks, sink.Passed c := by
  obtain ⟨rfl, hset, hreg⟩ := h.settled hr
  exact passed_of_run hset.toResolved henv hescaping htrees hreg hdata

/-- With the built-in capabilities alone nothing else marks texts. -/
theorem escaping_withBuiltins {env : Environment} {host : Host}
    (h : ∀ s, env.escape s = .ok (Text.escapeHtml s)) : (env.withBuiltins host).Escaping where
  escape := h
  filters name _ hc hname := Or.inl ⟨name, hname, hc⟩
  functions name _ hc := Or.inl ⟨host, name, hc⟩

/-- A tree that prints a name by way of a filter, a variable and a macro. -/
def greeting : Document :=
  { body :=
      [.macroDef {} "starred" [.param {} "x" none]
         [.data {} "*", .output {} (.name {} "x"), .data {} "*"],
       .assign {} "who" (.filter {} (.name {} "name") "default" [] []) false,
       .output {} (.macroCall {} "self" "starred" [.name {} "who"] [])] }

/-- A name that is a tag. -/
def visitor : Context := ⟨[(.text "name", .text "<b>")]⟩

/-- The environment of a render of one tree whose output is escaped. -/
def greeter : Environment := forOneOff {} true

theorem escaping_not_bypassed_greeting : ∃ t templates,
    greeter.resolveOneOff greeting = .ok (t, templates) ∧
    ∀ c ∈ (run { env := greeter, templates, escaping := true } t visitor .buffer).chunks,
      Sink.buffer.Passed c := by
  obtain ⟨t, templates, h, hrenders, htrees⟩ :=
    exists_oneOff {} true true greeting (by decide +kernel)
  refine ⟨t, templates, h, escaping_not_bypassed (.fresh rfl) hrenders
    (escaping_withBuiltins fun _ => rfl) rfl (fun name u hu => ?_) ?_⟩
  · rw [htrees name u hu]
    simp [greeting, Node.Every, Node.preorder, Node.preorderAll, Node.preorderNamed, Node.Harmless]
    decide
  · exact .object (by simp [visitor, Value.Clean.text]) (by simp [visitor, Value.Clean.text])

example : ((greeter.resolveOneOff greeting).toOption.bind fun r =>
    (greeter.renderOneOff r.1 r.2 visitor).toOption) = some "*&lt;b&gt;*" := by
  decide +kernel

end Environment

end Stencil
