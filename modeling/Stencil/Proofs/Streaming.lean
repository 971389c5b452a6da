import Stencil.Proofs.Places

/-! Streaming. A sink does not see more of a render than the texts that are written to it, and a
    render does not see what its sink makes of them. A render to any sink is therefore the render to
    a buffer as long as the sink takes all texts; it ends with the first text that the sink refuses,
    while the other one goes on and writes more. So a render to a buffer is followed by one to the
    sink either all the way or up to a text that is refused, and in both cases the sink holds what
    it makes of the texts of the buffer one by one. -/

namespace Stencil

namespace Sink

/-- The texts in a buffer, in their order. -/
def texts (chunks : List Chunk) : List String := chunks.reverse.map Chunk.plain

/-- Passes texts to a sink one by one until it refuses one; what it holds then, the latest first, and
    the problem of the text that it has refused. -/
def feed (sink : Sink) (held : List Chunk) : List String → List Chunk × Option Problem
  | [] => (held, none)
  | s :: rest =>
    match sink held s with
    | .ok c => feed sink (c :: held) rest
    | .error p => (held, some p)

variable {sink : Sink} {held taken : List Chunk}

theorem feed_cons (sink : Sink) (held : List Chunk) (s : String) (rest : List String) :
    sink.feed held (s :: rest) =
      match sink held s with
      | .ok c => sink.feed (c :: held) rest
      | .error p => (held, some p) := rfl

/-- A sink that has taken all texts may be passed others. -/
theorem feed_append {xs : List String} (h : sink.feed held xs = (taken, none)) (ys : List String) :
    sink.feed held (xs ++ ys) = sink.feed taken ys := by
  induction xs generalizing held with
  | nil =>
    cases h
    rfl
  | cons s rest ih =>
    rw [List.cons_append, feed_cons]
    rw [feed_cons] at h
    cases hs : sink held s with
    | ok c =>
      rw [hs] at h
      exact ih h
    | error p =>
      rw [hs] at h
      cases h

/-- What comes after a text that is refused does not matter. -/
theorem feed_refused {xs : List String} {p : Problem} (h : sink.feed held xs = (taken, some p))
    (ys : List String) : sink.feed held (xs ++ ys) = (taken, some p) := by
  induction xs generalizing held with
  | nil => cases h
  | cons s rest ih =>
    rw [List.cons_append, feed_cons]
    rw [feed_cons] at h
    cases hs : sink held s with
    | ok c =>
      rw [hs] at h
      exact ih h
    | error p =>
      rw [hs] at h
      exact h

theorem feed_buffer (held : List Chunk) (xs : List String) :
    buffer.feed held xs = ((xs.map Chunk.text).reverse ++ held, none) := by
  induction xs generalizing held with
  | nil => rfl
  | cons s rest ih =>
    unfold feed
    rw [show buffer held s = .ok (.text s) from rfl]
    simp only [ih, List.map_cons, List.reverse_cons, List.append_assoc, List.singleton_append]

/-- A buffer holds texts as they are. -/
theorem feed_buffer_texts {chunks : List Chunk} (h : ∀ c ∈ chunks, c = .text c.plain) :
    buffer.feed [] (texts chunks) = (chunks, none) := by
  have hsame : chunks.map (fun c => Chunk.text c.plain) = chunks := by
    conv_rhs => rw [← List.map_id chunks]
    exact List.map_congr_left fun c hc => (h c hc).symm
  rw [feed_buffer, texts, List.map_map, ← List.map_reverse, List.reverse_reverse, List.append_nil]
  simpa [Function.comp_def] using hsame

end Sink

/-- A problem as it is met after it may have passed code of templates: an error of a render with a
    place filled in, and a fault of other code as such an error. -/
inductive Problem.Passes : Problem → Problem → Prop
  | same {p} : Passes p p
  | placed {e} (template line trail) : Passes (.template (.runtime e))
    (.template (.runtime { e with template, line, trail }))
  | wrapped {f} (template line trail) : Passes (.fault f)
    (.template (.runtime
      { RuntimeError.general (f.className ++ ": " ++ f.text) with template, line, trail }))

open Render

theorem Problem.Passes.located {p q : Problem} (h : p.Passes q) (here : Location) :
    ∃ q', Render.located here (.problem q) = .problem q' ∧ p.Passes q' := by
  cases h with
  | same =>
    unfold Render.located
    split
    · rename_i e he
      cases he
      exact ⟨_, rfl, .placed _ _ _⟩
    · rename_i f hf
      cases hf
      exact ⟨_, rfl, .wrapped _ _ _⟩
    · exact ⟨p, rfl, .same⟩
  | placed => exact ⟨_, rfl, .placed _ _ _⟩
  | wrapped => exact ⟨_, rfl, .wrapped _ _ _⟩

/-- A render writes to a buffer, which holds still what it has held before. -/
structure Buffered (before : List Chunk) (s : RenderState) : Prop where
  buffer : s.sink = .buffer
  texts : ∀ c ∈ s.chunks, c = .text c.plain
  kept : before <:+ s.chunks

/-- Two renders do the same, one with a buffer and one with a sink that has taken all texts so far. -/
structure Streams (sink : Sink) (before : List Chunk) (s t : RenderState) : Prop extends
    Buffered before s where
  same : t = { s with sink, chunks := t.chunks }
  fed : sink.feed [] (Sink.texts s.chunks) = (t.chunks, none)

/-- How the computation of a render to a sink has ended, compared with that of the render to a
    buffer: alike, or with a text that the sink has refused. -/
inductive Streamed (sink : Sink) (before : List Chunk) (V : α → α → Prop) :
    Except Halt α × RenderState → Except Halt α × RenderState → Prop
  | done {a b s t} (hab : V a b) (h : Streams sink before s t) :
    Streamed sink before V (.ok a, s) (.ok b, t)
  | halt {k s t} (h : Streams sink before s t) :
    Streamed sink before V (.error k, s) (.error k, t)
  | refused {r s p q t} (h : Buffered before s)
    (hfed : sink.feed [] (Sink.texts s.chunks) = (t.chunks, some p)) (hpasses : p.Passes q) :
    Streamed sink before V (r, s) (.error (.problem q), t)

theorem Sink.texts_append (more chunks : List Chunk) :
    texts (more ++ chunks) = texts chunks ++ texts more := by
  simp [texts]

theorem Buffered.streams {before : List Chunk} {s : RenderState} (h : Buffered before s) :
    Streams .buffer before s s where
  toBuffered := h
  same := by rw [← h.buffer]
  fed := Sink.feed_buffer_texts h.texts

namespace Streamed

variable {α β : Type} {sink : Sink} {before : List Chunk} {V : α → α → Prop} {W : β → β → Prop}
  {x y : Except Halt α × RenderState}

theorem buffered (h : Streamed sink before V x y) : Buffered before x.2 := by
  cases h with
  | done _ h => exact h.toBuffered
  | halt h => exact h.toBuffered
  | refused h => exact h

/-- A buffer refuses nothing. -/
theorem not_refused {chunks taken : List Chunk} {p : Problem} :
    Sink.buffer.feed [] (Sink.texts chunks) ≠ (taken, some p) := by
  rw [Sink.feed_buffer]
  simp

/-- When a text has been refused, what the other render goes on with does not matter. -/
theorem onward {r : Except Halt β} {s u t : RenderState} {p q : Problem} (h : Buffered before s)
    (hu : Buffered s.chunks u) (hfed : sink.feed [] (Sink.texts s.chunks) = (t.chunks, some p))
    (hpasses : p.Passes q) : Streamed sink before W (r, u) (.error (.problem q), t) := by
  obtain ⟨more, hmore⟩ := hu.kept
  refine .refused { hu with kept := h.kept.trans hu.kept } ?_ hpasses
  rw [← hmore, Sink.texts_append, Sink.feed_refused hfed]

end Streamed

namespace Render

variable {α β : Type} {V : α → α → Prop} {m n : Render α}

/-- Computations of which one writes to a buffer and one to a sink. -/
def streaming : Congruence where
  rel V m n := ∀ sink before s t, Streams sink before s t →
    Streamed sink before V (m s) (n t)
  done hab _ _ _ _ h := .done hab h
  halted _ _ _ _ _ h := .halt h
  bind := by
    intro α β V W m n f g hm hf sink before s t h
    change Streamed sink before W (andThen m f s) (andThen n g t)
    have ends := hm sink before s t h
    have alone := hm .buffer before s s h.toBuffered.streams
    unfold andThen
    generalize m s = x, n t = y, n s = z at ends alone ⊢
    cases ends with
    | done hab h => exact hf _ _ hab sink before _ _ h
    | halt h => exact .halt h
    | @refused r s' _ _ _ h hfed hpasses =>
      cases r with
      | error _ => exact .refused h hfed hpasses
      | ok a =>
        cases alone with
        | @done _ b _ _ hab _ =>
          have hs' : Buffered s'.chunks s' := { h with kept := List.suffix_refl _ }
          exact Streamed.onward h (hf a b hab .buffer _ s' s' hs'.streams).buffered hfed hpasses
        | refused _ hfed' _ => exact absurd hfed' Streamed.not_refused

/-- The output has no part in what a computation does. -/
def Silent (m : Render α) : Prop :=
  ∀ s sink chunks, m { s with sink, chunks } = ((m s).1, { (m s).2 with sink, chunks })

namespace Streaming

theorem silent (hm : Silent m) (hV : ∀ s a, (m s).1 = .ok a → V a a) : streaming.rel V m m := by
  intro sink before s t h
  have hs : m s = ((m s).1, { (m s).2 with sink := s.sink, chunks := s.chunks }) :=
    hm s s.sink s.chunks
  have ht : m t = ((m s).1, { (m s).2 with sink, chunks := t.chunks }) := by
    rw [h.same]
    exact hm s sink t.chunks
  have hstreams : Streams sink before { (m s).2 with sink := s.sink, chunks := s.chunks }
      { (m s).2 with sink, chunks := t.chunks } :=
    { buffer := h.buffer, texts := h.texts, kept := h.kept, same := rfl, fed := h.fed }
  rw [ht, hs]
  cases hr : (m s).1 with
  | ok a => exact .done (hV s a hr) hstreams
  | error k => exact .halt hstreams

theorem write (text : String) : streaming.rel Eq (Render.write text) (Render.write text) := by
  intro sink before s t h
  have hbuffer : Render.write text s = (.ok (), { s with chunks := .text text :: s.chunks }) := by
    unfold Render.write
    rw [h.buffer]
    rfl
  have hnext : Buffered before { s with chunks := .text text :: s.chunks } :=
    { buffer := h.buffer
      texts := List.forall_mem_cons.2 ⟨rfl, h.texts⟩
      kept := h.kept.trans (List.suffix_cons _ _) }
  have htexts : Sink.texts (.text text :: s.chunks) = Sink.texts s.chunks ++ [text] :=
    Sink.texts_append [.text text] s.chunks
  have hsink : t.sink = sink := by rw [h.same]
  rw [hbuffer]
  unfold Render.write
  rw [hsink]
  -- the buffer takes every text; what the sink holds is fed with one more
  cases hc : sink t.chunks text with
  | ok c =>
    refine .done rfl { hnext with same := ?_, fed := ?_ }
    · rw [h.same]
    · rw [htexts, Sink.feed_append h.fed]
      unfold Sink.feed
      rw [hc]
      rfl
  | error p =>
    refine .refused hnext ?_ .same
    rw [htexts, Sink.feed_append h.fed]
    unfold Sink.feed
    rw [hc]

/-! ### Steps -/

theorem undefinedAt (n : Node) :
    streaming.rel V (Render.undefinedAt n) (Render.undefinedAt n) :=
  silent (fun _ _ _ => rfl) fun _ _ h => nomatch h

theorem exhausted : streaming.rel V (Render.halt .exhausted) (Render.halt .exhausted) :=
  fun _ _ _ _ h => .halt h

theorem change {f : RenderState → RenderState}
    (hf : ∀ s sink chunks, f { s with sink, chunks } = { f s with sink, chunks }) :
    streaming.rel Eq (Render.change f) (Render.change f) :=
  silent (fun s sink chunks => congrArg (Prod.mk _) (hf s sink chunks)) fun _ _ _ => rfl

theorem state : streaming.rel (fun s t => ∃ sink before, Streams sink before s t) Render.state
    Render.state :=
  fun sink before _ _ h => .done ⟨sink, before, h⟩ h

theorem find (name : String) :
    streaming.rel (Same fun _ => True) (Render.find name) (Render.find name) :=
  silent (fun _ _ _ => rfl) fun _ _ _ => ⟨rfl, trivial⟩

theorem requested : streaming.rel Eq Render.requested Render.requested :=
  silent (fun _ _ _ => rfl) fun _ _ _ => rfl

/-- What the stack decides does not depend on the output. -/
theorem silent_of_stack {f : CallStack → Except RuntimeError β} {g : β → Render α}
    (hm : ∀ s, m s = (Render.ofRuntime (f s.stack) >>= g) s) (hg : ∀ b, Silent (g b)) :
    Silent m := by
  intro s sink chunks
  rw [hm, hm]
  dsimp only
  cases f s.stack with
  | ok b => exact hg b s sink chunks
  | error e => rfl

theorem active : streaming.rel (Same fun _ => True) Render.active Render.active := by
  refine silent (silent_of_stack (f := CallStack.activeTemplate) (g := Render.done) (fun s => ?_)
    fun _ _ _ _ => rfl) fun _ _ _ => ⟨rfl, trivial⟩
  rw [bind_done]
  rfl

theorem atLine (line : Int) : streaming.rel Eq (Render.atLine line) (Render.atLine line) := by
  unfold Render.atLine
  exact streaming.ite (fun _ => streaming.done rfl) fun _ => change fun _ _ _ => rfl

theorem assign (name : String) (v : Value) :
    streaming.rel Eq (Render.assign name v) (Render.assign name v) :=
  silent (silent_of_stack (f := fun stack => stack.assign name v)
    (g := fun stack => Render.change fun s => { s with stack }) (fun _ => rfl)
    fun _ _ _ _ => rfl) fun _ _ _ => rfl

theorem assignWide (name : String) (v : Value) :
    streaming.rel Eq (Render.assignWide name v) (Render.assignWide name v) :=
  silent (silent_of_stack (f := fun stack => stack.assignWide name v)
    (g := fun stack => Render.change fun s => { s with stack }) (fun _ => rfl)
    fun _ _ _ _ => rfl) fun _ _ _ => rfl

/-! ### Scopes, places, buffers and includes -/

/-- What is done in the end does not see the output. -/
theorem after {sink : Sink} {before : List Chunk} {x y : Except Halt α × RenderState}
    {f : RenderState → RenderState}
    (hf : ∀ s sink chunks, f { s with sink, chunks } = { f s with sink, chunks })
    (h : Streamed sink before V x y) : Streamed sink before V (x.1, f x.2) (y.1, f y.2) := by
  -- the output may be replaced before or behind `f`
  have same (s : RenderState) : f s = { f s with sink := s.sink, chunks := s.chunks } :=
    hf s s.sink s.chunks
  have buffered {s : RenderState} (h : Buffered before s) :
      Buffered before (f s) ∧ (f s).chunks = s.chunks := by
    rw [same]
    exact ⟨⟨h.buffer, h.texts, h.kept⟩, rfl⟩
  have streams {s t : RenderState} (h : Streams sink before s t) :
      Streams sink before (f s) (f t) := by
    obtain ⟨hbuffered, hchunks⟩ := buffered h.toBuffered
    have ht : f t = { f s with sink, chunks := t.chunks } := by
      conv_lhs => rw [h.same]
      exact hf s sink t.chunks
    refine { hbuffered with same := ?_, fed := ?_ }
    · rw [ht]
    · rw [hchunks, ht]
      exact h.fed
  cases h with
  | done hab h => exact .done hab (streams h)
  | halt h => exact .halt (streams h)
  | refused h hfed hpasses =>
    obtain ⟨hbuffered, hchunks⟩ := buffered h
    refine .refused hbuffered ?_ hpasses
    rw [hchunks, same]
    exact hfed

theorem inScope {f : Frame} (h : streaming.rel V m n) :
    streaming.rel V (Render.inScope f m) (Render.inScope f n) := by
  intro sink before s t hst
  have hstack : t.stack = s.stack := by rw [hst.same]
  unfold Render.inScope
  rw [hstack]
  cases s.stack.push f with
  | error e => exact .halt hst
  | ok stack =>
    have hnext : Streams sink before { s with stack } { t with stack } :=
      { hst with same := by rw [hst.same] }
    exact after (f := popped) (fun _ _ _ => rfl) (h sink before _ _ hnext)

/-- Places are filled in alike, also in the problem of a text that is refused. -/
theorem relocate {sink : Sink} {before : List Chunk} {x y : Except Halt α × RenderState}
    (h : Streamed sink before V x y) :
    Streamed sink before V (x.1.mapError (relocated x.2), x.2)
      (y.1.mapError (relocated y.2), y.2) := by
  cases h with
  | done hab h => exact .done hab h
  | @halt k s t h =>
    have hplace : relocated t k = relocated s k := by
      unfold relocated
      rw [h.same]
    dsimp only [Except.mapError]
    rw [hplace]
    exact .halt h
  | @refused r s p q t h hfed hpasses =>
    obtain ⟨q', hq', hpasses'⟩ : ∃ q', relocated t (.problem q) = .problem q' ∧ p.Passes q' := by
      unfold relocated
      cases t.place with
      | none => exact ⟨q, rfl, hpasses⟩
      | some here => exact hpasses.located here
    dsimp only [Except.mapError]
    rw [hq']
    exact .refused h hfed hpasses'

theorem inTemplate {name : String} (h : streaming.rel V m n) :
    streaming.rel V (Render.inTemplate name m) (Render.inTemplate name n) := by
  intro sink before s t hst
  have hplace : t.place = s.place := by rw [hst.same]
  cases hs : s.place with
  | none =>
    rw [inTemplate_of_none hs, inTemplate_of_none (hplace.trans hs)]
    exact .halt hst
  | some outer =>
    rw [inTemplate_of_place hs, inTemplate_of_place (hplace.trans hs)]
    have hnext : Streams sink before { s with place := some (outer.enter name) }
        { t with place := some (outer.enter name) } :=
      { hst with same := by rw [hst.same] }
    refine after (f := left outer) (fun s sink chunks => ?_) (relocate (h sink before _ _ hnext))
    obtain ⟨_, _, _, place, _, _⟩ := s
    cases place <;> rfl

/-- What is captured is written to a buffer in both renders. -/
theorem captured {m n : Render Unit} (h : streaming.rel Eq m n) :
    streaming.rel (Same fun _ => True) (Render.captured m) (Render.captured n) := by
  intro sink before s t hst
  have hempty : Buffered [] { s with sink := .buffer, chunks := [] } :=
    ⟨rfl, by simp, List.suffix_refl _⟩
  have hinner : { t with sink := .buffer, chunks := [] } =
      { s with sink := .buffer, chunks := [] } := by rw [hst.same]
  have hsink : t.sink = sink := by rw [hst.same]
  have outside {u v : RenderState} (huv : Streams .buffer [] u v) :
      Streams sink before { u with sink := s.sink, chunks := s.chunks }
        { v with sink := t.sink, chunks := t.chunks } :=
    { buffer := hst.buffer
      texts := hst.texts
      kept := hst.kept
      same := by rw [hsink, huv.same]
      fed := hst.fed }
  have ends := h .buffer [] _ _ hempty.streams
  unfold Render.captured
  rw [hinner]
  generalize m _ = x, n _ = y at ends ⊢
  cases ends with
  | @done _ _ u v _ huv =>
    -- inside both sinks are buffers, which hold the same texts
    have hchunks : u.chunks = v.chunks :=
      congrArg Prod.fst ((Sink.feed_buffer_texts huv.texts).symm.trans huv.fed)
    dsimp only [Except.map]
    rw [hchunks]
    exact .done ⟨rfl, trivial⟩ (outside huv)
  | halt huv => exact .halt (outside huv)
  | refused _ hfed _ => exact absurd hfed Streamed.not_refused

theorem allowing {t : Template} (h : streaming.rel V m n) :
    streaming.rel V (Render.allowing t m) (Render.allowing t n) := by
  have hplace : Silent Render.place := by
    rintro ⟨_, _, _, place, _, _⟩ _ _
    cases place <;> rfl
  refine streaming.allowing (silent hplace fun _ _ _ _ => rfl) ?_
  intro sink before s u hsu
  have hnext : Streams sink before { s with targets := t :: s.targets, place := deeper 1 s.place }
      { u with targets := t :: u.targets, place := deeper 1 u.place } :=
    { hsu with same := by rw [hsu.same] }
  exact after (f := fun u => { u with targets := u.targets.drop 1, place := deeper (-1) u.place })
    (fun _ _ _ => rfl) (h sink before _ _ hnext)

/-- Everything that runs in a setting is streamed. -/
def simulation (setting : Setting) : Simulation setting where
  toCongruence := streaming
  template := fun _ => True
  agree := fun s t => ∃ sink before, Streams sink before s t
  registered := fun _ => trivial
  state := state
  target := fun ⟨_, _, h⟩ => ⟨by rw [h.same], fun _ _ => trivial⟩
  active := active
  node := fun _ => True
  chain := fun _ => True
  value := fun _ => True
  text := fun _ => True
  hereditary := Value.Hereditary.trivial
  markup := Iff.rfl
  escaped := fun _ => trivial
  unescaped := fun _ _ => trivial
  const := fun _ => trivial
  data := fun _ => trivial
  raw := fun _ => trivial
  function := fun _ _ _ _ _ => trivial
  filter := fun _ _ _ _ _ _ => trivial
  filterBlock := fun _ _ => trivial
  code := fun _ => Template.every_true _
  code_of_chain := fun _ _ _ _ _ _ _ => trivial
  recorded := fun _ _ => trivial
  defined := fun _ _ => trivial
  pending := fun ⟨_, _, h⟩ => by rw [h.same]
  loop := fun ⟨_, _, h⟩ => by rw [h.same]
  block := fun ⟨_, _, h⟩ => ⟨by rw [h.same], fun _ _ _ _ => trivial⟩
  find := fun name => streaming.mono (find name) fun _ _ h => ⟨h.1, Or.inl trivial⟩
  undefinedAt := undefinedAt
  exhausted := exhausted
  requested := requested
  atLine := atLine
  proceed := change fun _ _ _ => rfl
  interrupt := fun _ => change fun _ _ _ => rfl
  write := fun _ => write _
  assign := fun _ => assign _ _
  assignWide := fun _ => assignWide _ _
  inScope := fun _ => inScope
  inTemplate := inTemplate
  captured := captured
  allowing := fun _ => allowing

end Streaming

/-! ### Whole renders -/

/-- A render to a sink is streamed. -/
theorem streamed_begun (depth : Nat) (setting : Setting) (t : Template) (context : Context)
    (sink : Sink) : Streamed sink [] Eq
      (runTemplate (calls depth setting) setting t (begun setting t context .buffer))
      (runTemplate (calls depth setting) setting t (begun setting t context sink)) := by
  let S := Streaming.simulation setting
  exact S.runTemplate (S.calls depth).1 trivial sink [] _ _
    { buffer := rfl
      texts := by simp [begun, initial]
      kept := List.nil_suffix
      same := rfl
      fed := rfl }

end Render

/-- A halt that has left a render: the nesting was too deep, or it is an error of the language that
    names a template if it is one of a render. -/
inductive Halt.Escaped : Halt → Prop
  | exhausted : Escaped .exhausted
  | runtime {e : RuntimeError} (h : e.template ≠ none) : Escaped (.problem (.template (.runtime e)))
  | other {e : TemplateError} (h : ∀ r, e ≠ .runtime r) : Escaped (.problem (.template e))

namespace Render

/-- What has left code of a template names one. -/
theorem escaped_located {here : Location} (hname : here.template ≠ none) (k : Halt) :
    (located here k).Escaped := by
  unfold located
  split
  · refine .runtime ?_
    simp [RuntimeError.locate, hname]
  · exact .runtime hname
  · rename_i hruntime hfault
    cases k with
    | exhausted => exact .exhausted
    | problem q =>
      cases q with
      | fault f => exact absurd rfl (hfault f)
      | template e => exact .other fun r hr => hruntime r (by rw [hr])

theorem escaped_inTemplate {m : Render Unit} {name : String} {s u : RenderState} {outer : Location}
    {k : Halt} (hm : (levels (fun _ => True) True).runs.congruence.rel Eq m m)
    (hplace : s.place = some outer) (h : inTemplate name m s = (.error k, u)) : k.Escaped := by
  rw [inTemplate_of_place hplace] at h
  have ends := hm _ { s with place := some (outer.enter name) } _ ⟨rfl, rfl, trivial⟩
  generalize m _ = x at h ends
  cases ends with
  | done => cases h
  | @halt _ _ v _ hh =>
    obtain ⟨-, -, hlevel, -⟩ := hh
    obtain ⟨here, hhere, hsame⟩ := Option.map_eq_some_iff.1 (congrArg Level.place hlevel)
    have hname : here.template = some name := congrArg Location.template hsame
    have hk := Except.error.inj (congrArg Prod.fst h)
    unfold relocated at hk
    rw [hhere] at hk
    rw [← hk]
    exact escaped_located (by simp [hname]) _

/-- Whatever stops a render, what leaves it is an error of the language that names a template. -/
theorem escaped_runTemplate {depth : Nat} {setting : Setting} {t : Template} {s u : RenderState}
    {outer : Location} {k : Halt} (hplace : s.place = some outer)
    (h : runTemplate (calls depth setting) setting t s = (.error k, u)) : k.Escaped := by
  have hbody (entry : Template) : (levels (fun _ => True) True).runs.congruence.rel Eq
      (inScope (.root entry) ((calls depth setting).body entry.document.body))
      (inScope (.root entry) ((calls depth setting).body entry.document.body)) :=
    Levels.inScope (fun _ _ _ => trivial) (Levels.kept.body setting depth _)
  unfold runTemplate at h
  cases hparent : t.parents.getLast? with
  | none =>
    rw [hparent] at h
    exact escaped_inTemplate (hbody t) hplace h
  | some name =>
    rw [hparent] at h
    dsimp only at h
    cases hentry : setting.template name with
    | ok entry =>
      rw [hentry] at h
      exact escaped_inTemplate (hbody entry) hplace h
    | error e =>
      rw [hentry] at h
      cases h
      refine .other fun r hr => ?_
      unfold Setting.template at hentry
      split at hentry <;> cases hentry
      cases hr

/-- The texts that a render to a buffer has written. -/
def Outcome.texts (o : Outcome) : List String := o.chunks.map Chunk.plain

/-- A render stops with a problem that its sink has refused a text with. -/
def Outcome.Stops (o : Outcome) (p : Problem) : Prop :=
  ∃ e, o.result = .error (.template e) ∧ p.Passes (.template e) ∧
    ∀ r, e = .runtime r → r.template ≠ none

/-- A render to a sink is the render to a buffer up to the first text that the sink refuses. -/
theorem run_fed (setting : Setting) (t : Template) (context : Context) (sink : Sink) :
    let whole := run setting t context
    let o := run setting t context sink
    whole.chunks = whole.texts.map .text ∧
    ∃ refused, sink.feed [] whole.texts = (o.chunks.reverse, refused) ∧
      (refused = none → o.result = whole.result) ∧ ∀ p, refused = some p → o.Stops p := by
  have hrun (sink : Sink) : (run setting t context sink).result =
      (runTemplate (calls maxDepth setting) setting t
        (begun setting t context sink)).1.mapError problemOf := rfl
  have h := streamed_begun maxDepth setting t context sink
  unfold Outcome.Stops Outcome.texts
  dsimp only
  rw [chunks_run, chunks_run, hrun, hrun, List.reverse_reverse]
  generalize hx : runTemplate _ _ _ (begun setting t context .buffer) = x at h ⊢
  generalize hy : runTemplate _ _ _ (begun setting t context sink) = y at h ⊢
  refine ⟨?_, ?_⟩
  · -- a buffer holds the texts themselves
    rw [List.map_map]
    conv_lhs => rw [← List.map_id x.2.chunks.reverse]
    exact List.map_congr_left fun c hc => h.buffered.texts c (List.mem_reverse.1 hc)
  cases h with
  | done _ h => exact ⟨none, h.fed, fun _ => rfl, by rintro _ ⟨⟩⟩
  | halt h => exact ⟨none, h.fed, fun _ => rfl, by rintro _ ⟨⟩⟩
  | @refused _ _ p q _ _ hfed hpasses =>
    refine ⟨some p, hfed, by rintro ⟨⟩, ?_⟩
    rintro _ ⟨⟩
    cases escaped_runTemplate rfl hy with
    | runtime hname => exact ⟨_, rfl, hpasses, by rintro r ⟨⟩; exact hname⟩
    | other hother => exact ⟨_, rfl, hpasses, fun r hr => absurd hr (hother r)⟩

end Render

namespace Sink

/-- What a sink makes of texts up to the first one that it refuses. -/
theorem feed_cases {sink : Sink} {P : String → Chunk → Prop} {Q : List Chunk → Prop}
    (h : ∀ held s c, Q held → sink held s = .ok c → P s c ∧ Q (c :: held)) :
    ∀ (held : List Chunk) (xs : List String), Q held →
      ∃ before rest chunks, xs = before ++ rest ∧ List.Forall₂ P before chunks ∧
        (sink.feed held xs).1 = chunks.reverse ++ held ∧ Q (chunks.reverse ++ held) ∧
        ((rest = [] ∧ (sink.feed held xs).2 = none) ∨
          ∃ s more p, rest = s :: more ∧ sink (chunks.reverse ++ held) s = .error p ∧
            (sink.feed held xs).2 = some p)
  | held, [], hQ => ⟨[], [], [], rfl, .nil, rfl, hQ, Or.inl ⟨rfl, rfl⟩⟩
  | held, s :: xs, hQ => by
    rw [feed_cons]
    cases hs : sink held s with
    | error p => exact ⟨[], s :: xs, [], rfl, .nil, rfl, hQ, Or.inr ⟨s, xs, p, rfl, hs, rfl⟩⟩
    | ok c =>
      obtain ⟨hc, hnext⟩ := h held s c hQ hs
      obtain ⟨before, rest, chunks, rfl, hall, hfed, hQ', hend⟩ := feed_cases h (c :: held) xs hnext
      refine ⟨s :: before, rest, c :: chunks, rfl, .cons hc hall, ?_, ?_, ?_⟩
      · rw [List.reverse_cons, List.append_assoc]
        exact hfed
      · rw [List.reverse_cons, List.append_assoc]
        exact hQ'
      · rw [List.reverse_cons, List.append_assoc]
        exact hend

/-- A sink refuses once it holds a number of chunks. -/
def full (k : Nat) (f : Fault) (held : List Chunk) : Option Fault :=
  if k ≤ held.length then some f else none

/-- A sink that takes texts as they are holds as many of them as fit in. -/
theorem feed_guarded {k : Nat} {f : Fault} : ∀ (held : List Chunk) (xs : List String),
    held.length ≤ k → (guarded (full k f)).feed held xs =
      (((xs.take (k - held.length)).map .text).reverse ++ held,
        if held.length + xs.length ≤ k then none else some (.fault f))
  | held, [], hk => by
    rw [List.take_nil, List.length_nil, Nat.add_zero, if_pos hk]
    rfl
  | held, s :: rest, hk => by
    rw [feed_cons, List.length_cons]
    by_cases hfull : k ≤ held.length
    · have hrefused : guarded (full k f) held s = .error (.fault f) := by
        unfold guarded full
        rw [if_pos hfull]
      rw [hrefused, Nat.sub_eq_zero_of_le hfull, if_neg (by omega)]
      rfl
    · have htaken : guarded (full k f) held s = .ok (.text s) := by
        unfold guarded full
        rw [if_neg hfull]
      have hrest := feed_guarded (k := k) (f := f) (.text s :: held) rest
        (by rw [List.length_cons]; omega)
      -- with room for one more text, what is left of the room bounds the rest
      obtain ⟨room, hroom⟩ : ∃ room, k - held.length = room + 1 := ⟨k - held.length - 1, by omega⟩
      have hleft : k - (held.length + 1) = room := by omega
      rw [List.length_cons, hleft] at hrest
      rw [htaken]
      dsimp only
      rw [hrest, hroom, List.take_succ_cons, List.map_cons, List.reverse_cons, List.append_assoc,
        Nat.add_right_comm, Nat.add_assoc]
      rfl

section

variable {encoding : String} {codec : Codec} {k : Nat} {f : Fault} {held : List Chunk} {s : String}

theorem encoded_ok {c : Chunk} (h : encoded encoding codec (full k f) held s = .ok c) :
    (∃ d, c = .bytes d ∧ codec.bytes s.toList = .ok d) ∧ held.length < k := by
  simp only [encoded, bind_eq_ok] at h
  obtain ⟨d, hd, h⟩ := h
  unfold Codec.encode at hd
  unfold full at h
  split at hd
  · rename_i data hbytes
    cases hd
    split_ifs at h with hfull
    cases h
    exact ⟨⟨_, rfl, hbytes⟩, by omega⟩
  · cases hd
  · cases hd

theorem encoded_error {p : Problem} (h : encoded encoding codec (full k f) held s = .error p) :
    match codec.bytes s.toList with
    | .error (.lost characters reason) =>
      p = .template (.runtime (Codec.lost encoding characters reason))
    | .error (.failure failure) => p = .fault (.failure failure)
    | .ok _ => k ≤ held.length ∧ p = .fault f := by
  unfold encoded Codec.encode at h
  split at h
  · rename_i hbytes
    rw [hbytes]
    dsimp only [bind, Except.bind] at h
    unfold full at h
    split_ifs at h with hfull
    · cases h
      exact ⟨hfull, rfl⟩
    · cases h
  · rename_i hbytes
    rw [hbytes]
    cases h
    rfl
  · rename_i hbytes
    rw [hbytes]
    cases h
    rfl

end

/-- A sink that takes the bytes of texts holds those of the texts up to the first one that has none
    or does not fit in. -/
theorem feed_encoded (encoding : String) (codec : Codec) (k : Nat) (f : Fault)
    (xs : List String) :
    ∃ before rest data, xs = before ++ rest ∧
      List.Forall₂ (fun s d => codec.bytes s.toList = .ok d) before data ∧ before.length ≤ k ∧
      ((encoded encoding codec (full k f)).feed [] xs).1 = (data.map .bytes).reverse ∧
      ((rest = [] ∧ ((encoded encoding codec (full k f)).feed [] xs).2 = none) ∨
        ∃ s more p, rest = s :: more ∧
          ((encoded encoding codec (full k f)).feed [] xs).2 = some p ∧
          match codec.bytes s.toList with
          | .error (.lost characters reason) =>
            p = .template (.runtime (Codec.lost encoding characters reason))
          | .error (.failure failure) => p = .fault (.failure failure)
          | .ok _ => before.length = k ∧ p = .fault f) := by
  have htaken : ∀ held s c, held.length ≤ k → encoded encoding codec (full k f) held s = .ok c →
      (∃ d, c = .bytes d ∧ codec.bytes s.toList = .ok d) ∧ (c :: held).length ≤ k :=
    fun _ _ _ _ hc => ⟨(encoded_ok hc).1, (encoded_ok hc).2⟩
  obtain ⟨before, rest, chunks, rfl, hall, hheld, hlength, hend⟩ :=
    feed_cases (Q := fun held => held.length ≤ k) htaken [] xs (Nat.zero_le k)
  -- each chunk is the bytes of its text, so the chunks are data that is known
  obtain ⟨data, rfl, hdata⟩ : ∃ data, chunks = data.map .bytes ∧
      List.Forall₂ (fun s d => codec.bytes s.toList = .ok d) before data := by
    clear hheld hlength hend
    induction hall with
    | nil => exact ⟨[], rfl, .nil⟩
    | cons h _ ih =>
      obtain ⟨d, rfl, hd⟩ := h
      obtain ⟨data, rfl, hdata⟩ := ih
      exact ⟨d :: data, rfl, .cons hd hdata⟩
  have hsize : before.length = data.length := hdata.length_eq
  simp only [List.append_nil, List.length_reverse, List.length_map] at hheld hlength hend
  refine ⟨before, rest, data, rfl, hdata, hsize ▸ hlength, hheld, hend.imp_right ?_⟩
  rintro ⟨s, more, p, rfl, hp, hrefused⟩
  refine ⟨s, more, p, rfl, hrefused, ?_⟩
  have hp := encoded_error hp
  split at hp
  · exact hp
  · exact hp
  · obtain ⟨hfull, rfl⟩ := hp
    rw [List.length_reverse, List.length_map] at hfull
    exact ⟨by omega, rfl⟩

end Sink

namespace Render

variable {o : Outcome}

/-- A fault that stops a render is told as an error of the render. -/
theorem Outcome.Stops.fault {f : Fault} (h : o.Stops (.fault f)) :
    ∃ e, o.result = .error (.template (.runtime e)) ∧ e.template ≠ none ∧ e.kind = .general ∧
      e.message = f.className ++ ": " ++ f.text := by
  obtain ⟨e, he, hpasses, hname⟩ := h
  cases hpasses with
  | wrapped => exact ⟨_, he, hname _ rfl, rfl, rfl⟩

/-- An error that stops a render keeps its kind and its message. -/
theorem Outcome.Stops.runtime {r : RuntimeError} (h : o.Stops (.template (.runtime r))) :
    ∃ e, o.result = .error (.template (.runtime e)) ∧ e.template ≠ none ∧ e.kind = r.kind ∧
      e.message = r.message := by
  obtain ⟨e, he, hpasses, hname⟩ := h
  cases hpasses with
  | same => exact ⟨_, he, hname _ rfl, rfl, rfl⟩
  | placed => exact ⟨_, he, hname _ rfl, rfl, rfl⟩

/-- A sink that is full after a number of chunks holds so many of those of the whole render. -/
theorem run_full (setting : Setting) (t : Template) (context : Context) (k : Nat) (f : Fault) :
    let whole := run setting t context
    let o := run setting t context (.guarded (Sink.full k f))
    o.chunks = (whole.texts.take k).map .text ∧ (whole.texts.length ≤ k → o.result = whole.result) ∧
      (k < whole.texts.length → o.Stops (.fault f)) := by
  intro whole o
  obtain ⟨-, refused, hheld, hall, hstops⟩ :=
    run_fed setting t context (.guarded (Sink.full k f))
  rw [Sink.feed_guarded _ _ (Nat.zero_le k)] at hheld
  obtain ⟨hchunks, hrefused⟩ := Prod.mk.inj hheld
  simp only [List.length_nil, Nat.sub_zero, List.append_nil, List.reverse_inj, Nat.zero_add]
    at hchunks hrefused
  refine ⟨hchunks.symm, fun hfits => hall ?_, fun hmore => hstops (.fault f) ?_⟩
  · rw [← hrefused]
    exact if_pos hfits
  · rw [← hrefused]
    exact if_neg (Nat.not_le.2 hmore)

/-- A sink that takes bytes holds those of the texts of the whole render up to the first one that has
    none or does not fit in. -/
theorem run_encoded (setting : Setting) (t : Template) (context : Context) (encoding : String)
    (codec : Codec) (k : Nat) (f : Fault) :
    let whole := run setting t context
    let o := run setting t context (.encoded encoding codec (Sink.full k f))
    ∃ before rest data, whole.texts = before ++ rest ∧
      List.Forall₂ (fun s d => codec.bytes s.toList = .ok d) before data ∧ before.length ≤ k ∧
      o.chunks = data.map .bytes ∧ (rest = [] → o.result = whole.result) ∧
      ∀ s more, rest = s :: more →
        match codec.bytes s.toList with
        | .error (.lost characters reason) =>
          o.Stops (.template (.runtime (Codec.lost encoding characters reason)))
        | .error (.failure failure) => o.Stops (.fault (.failure failure))
        | .ok _ => before.length = k ∧ o.Stops (.fault f) := by
  intro whole o
  obtain ⟨-, refused, hheld, hall, hstops⟩ :=
    run_fed setting t context (.encoded encoding codec (Sink.full k f))
  obtain ⟨before, rest, data, htexts, hdata, hlength, hchunks, hend⟩ :=
    Sink.feed_encoded encoding codec k f whole.texts
  rw [hheld] at hchunks hend
  refine ⟨before, rest, data, htexts, hdata, hlength, List.reverse_injective hchunks, ?_, ?_⟩
  · rintro rfl
    rcases hend with ⟨-, hnone⟩ | ⟨_, _, _, hrest, -⟩
    · exact hall hnone
    · cases hrest
  · rintro s more rfl
    rcases hend with ⟨hrest, -⟩ | ⟨_, _, p, hrest, hp, hwhy⟩
    · cases hrest
    · cases hrest
      have hstopped := hstops p hp
      split at hwhy
      · exact hwhy ▸ hstopped
      · exact hwhy ▸ hstopped
      · exact ⟨hwhy.1, hwhy.2 ▸ hstopped⟩

/-- Whatever stops a render, the problem is an error of the language that names a template, if the
    nesting was not too deep. -/
theorem run_escapes {setting : Setting} {t : Template} {context : Context} {sink : Sink}
    {q : Problem} (h : (run setting t context sink).result = .error q) :
    q = problemOf .exhausted ∨ ∃ e, q = .template e ∧ ∀ r, e = .runtime r → r.template ≠ none := by
  change (runTemplate (calls maxDepth setting) setting t
    (begun setting t context sink)).1.mapError problemOf = .error q at h
  generalize hx : runTemplate _ _ _ (begun setting t context sink) = x at h
  obtain ⟨r, u⟩ := x
  cases r with
  | ok _ => cases h
  | error k =>
    cases h
    cases escaped_runTemplate rfl hx with
    | exhausted => exact Or.inl rfl
    | runtime hname => exact Or.inr ⟨_, rfl, by rintro r ⟨⟩; exact hname⟩
    | other hother => exact Or.inr ⟨_, rfl, fun r hr => absurd hr (hother r)⟩

end Render

namespace Environment

open Render

/-- Streaming agrees with rendering. Let a render be streamed to a sink that takes all texts. A
    render to a text gives these texts joined, or ends with the same problem. Any other sink is
    passed the same texts up to the first one that it refuses; it holds what it has made of those
    before, and if it refuses none, the render ends as the first one does. A sink that is full after a
    number of chunks holds so many of them, and one that takes bytes those of the texts up to the
    first that has none or does not fit in. The error is one of encoding if the codec tells which
    characters it cannot represent; a codec may fail for other reasons, and then the error is one of
    the general kind, as for any fault of a sink. What stops a render, wherever it arises, becomes
    an error of the language, and it names a template if it is one of a render; but for a nesting
    that is too deep. -/
theorem streaming_agrees (env : Environment) (t : Template) (context : Context) :
    let whole := env.renderTo t context none fun _ => none
    let texts := whole.2.map Chunk.plain
    whole.2 = texts.map .text ∧
    env.render t context = whole.1.map (fun _ => String.join texts) ∧
    (∀ k f, let o := env.renderTo t context none (Sink.full k f)
      o.2 = (texts.take k).map .text ∧ (texts.length ≤ k → o.1 = whole.1) ∧
        (k < texts.length → ∃ e, o.1 = .error (.template (.runtime e)) ∧ e.template ≠ none ∧
          e.kind = .general ∧ e.message = f.className ++ ": " ++ f.text)) ∧
    (∀ encoding codec k f, Codec.ofName? encoding = .ok (some codec) →
      let o := env.renderTo t context (some encoding) (Sink.full k f)
      ∃ before rest data, texts = before ++ rest ∧
        List.Forall₂ (fun s d => codec.bytes s.toList = .ok d) before data ∧ before.length ≤ k ∧
        o.2 = data.map .bytes ∧ (rest = [] → o.1 = whole.1) ∧
        ∀ s more, rest = s :: more →
          ∃ e, o.1 = .error (.template (.runtime e)) ∧ e.template ≠ none ∧
            match codec.bytes s.toList with
            | .error (.lost _ reason) => e.kind = .outputEncoding ∧
              e.message = "Output could not be encoded as " ++ encoding ++ ": " ++ reason
            | .error (.failure failure) => e.kind = .general ∧
              e.message = (Fault.failure failure).className ++ ": " ++ (Fault.failure failure).text
            | .ok _ => before.length = k ∧ e.kind = .general ∧
              e.message = f.className ++ ": " ++ f.text) ∧
    ∀ sink : Sink, let o := run (Render.setting env t) t context sink
      (∃ refused, sink.feed [] texts = (o.chunks.reverse, refused) ∧
        (refused = none → o.result = whole.1) ∧ ∀ p, refused = some p → o.Stops p) ∧
      ∀ q, o.result = .error q → q = problemOf .exhausted ∨
        ∃ e, q = .template e ∧ ∀ r, e = .runtime r → r.template ≠ none := by
  refine ⟨(run_fed _ t context .buffer).1, rfl, fun k f => ?_, fun encoding codec k f hcodec => ?_,
    fun sink => ⟨(run_fed _ t context sink).2, fun q => run_escapes⟩⟩
  · obtain ⟨hchunks, hfits, hmore⟩ := run_full (Render.setting env t) t context k f
    exact ⟨hchunks, hfits, fun h => (hmore h).fault⟩
  · have hrun : env.renderTo t context (some encoding) (Sink.full k f) =
        ((run (Render.setting env t) t context (.encoded encoding codec (Sink.full k f))).result,
          (run (Render.setting env t) t context (.encoded encoding codec (Sink.full k f))).chunks) := by
      unfold renderTo
      dsimp only
      rw [hcodec]
    rw [hrun]
    obtain ⟨before, rest, data, htexts, hdata, hlength, hchunks, hall, hstops⟩ :=
      run_encoded (Render.setting env t) t context encoding codec k f
    refine ⟨before, rest, data, htexts, hdata, hlength, hchunks, hall, fun s more hrest => ?_⟩
    have hstopped := hstops s more hrest
    split at hstopped
    · obtain ⟨e, he, hname, hkind, hmessage⟩ := hstopped.runtime
      exact ⟨e, he, hname, hkind, hmessage⟩
    · exact hstopped.fault
    · obtain ⟨e, he, hname, hkind, hmessage⟩ := hstopped.2.fault
      exact ⟨e, he, hname, hstopped.1, hkind, hmessage⟩

/-- The message of an error of a render that is of the general kind. -/
def generalMessage : Except Problem Unit → Option String
  | .error (.template (.runtime e)) =>
    match e.kind with
    | .general => some e.message
    | _ => none
  | _ => none

theorem eq_of_generalMessage {r : Except Problem Unit} {message : String}
    (h : generalMessage r = some message) :
    ∃ e, r = .error (.template (.runtime e)) ∧ e.kind = .general ∧ e.message = message := by
  unfold generalMessage at h
  split at h
  · split at h
    · rename_i hkind
      cases h
      exact ⟨_, rfl, hkind, rfl⟩
    · cases h
  · cases h

theorem eq_ok_of_toOption {r : Except ε α} {a : α} (h : r.toOption = some a) : r = .ok a := by
  cases r with
  | ok _ => exact congrArg Except.ok (Option.some.inj h)
  | error _ => cases h

/-- A page of two texts, of which the second one has an empty label. -/
def labelled : Environment :=
  holding [("page.txt", { body := [.data ⟨1, 0⟩ "ok", .data ⟨2, 0⟩ "a..b"] })]

/-- A text that the codec cannot represent need not end a render with an error of encoding. The codec
    of domains has no bytes for a text with an empty label, and it tells so as a fault of its own. -/
theorem fault_of_codec : ∃ t codec e, labelled.templates.get? "page.txt" = some t ∧
    Codec.ofName? "idna" = .ok (some codec) ∧
    (labelled.renderTo t {} none fun _ => none) = (.ok (), [.text "ok", .text "a..b"]) ∧
    (∀ data, codec.bytes "a..b".toList ≠ .ok data) ∧
    (labelled.renderTo t {} (some "idna") fun _ => none) =
      (.error (.template (.runtime e)), [.bytes [0x6f, 0x6b]]) ∧ e.kind ≠ .outputEncoding := by
  have hcodec : (Codec.ofName? "idna").toOption.join.map
      (fun codec => (codec.bytes "a..b".toList).toOption.isSome) = some false := by decide +kernel
  have h : (labelled.templates.get? "page.txt").map (fun t =>
      ((labelled.renderTo t {} none fun _ => none).1.toOption,
        (labelled.renderTo t {} none fun _ => none).2,
        generalMessage (labelled.renderTo t {} (some "idna") fun _ => none).1,
        (labelled.renderTo t {} (some "idna") fun _ => none).2)) =
      some (some (), [.text "ok", .text "a..b"], some "UnicodeError: <UnicodeError>",
        [.bytes [0x6f, 0x6b]]) := by decide +kernel
  obtain ⟨codec, hname, hbytes⟩ := Option.map_eq_some_iff.1 hcodec
  obtain ⟨t, ht, h⟩ := Option.map_eq_some_iff.1 h
  simp only [Prod.mk.injEq] at h
  obtain ⟨hwhole, htexts, hmessage, hchunks⟩ := h
  obtain ⟨e, he, hkind, -⟩ := eq_of_generalMessage hmessage
  refine ⟨t, codec, e, ht, eq_ok_of_toOption (Option.join_eq_some_iff.1 hname),
    Prod.ext (eq_ok_of_toOption hwhole) htexts, fun data hdata => ?_, Prod.ext he hchunks, ?_⟩
  · rw [hdata] at hbytes
    cases hbytes
  · rw [hkind]
    nofun

end Environment

end Stencil
