import Mathlib.Logic.Relation
import Stencil.Proofs.Discipline
import Stencil.Proofs.History
import Stencil.Proofs.Purity

/-! Loops. A loop offers the pairs of its container in their order. The condition judges each pair in
    the state before the loop, in a scope of its own in which the loop is at that pair among all
    that are offered. Then the body runs in a round for each pair that is kept, in a scope in which
    the loop is at that pair among those that are kept, up to the first round that ends with a
    request to leave. A round begins with no names of its own, and when it is over, the frames
    around it are those before it, except for what was bound widely. -/

namespace Stencil

/-- A loop that is at one of some pairs. -/
def Loop.over (target : String) (key : Option String) (pairs : List (Value × Value))
    (index : Nat) : Loop :=
  { valueName := target, keyName := key, items := pairs.toArray, index }

namespace CallStack

/-- Frames in which nothing has changed but for what was bound widely. -/
def Widened : List Frame → List Frame → Prop :=
  Relation.ReflTransGen fun a b => ∃ name v, assignWideIn name v a = some b

/-- The frames in a round of a loop that was started in other frames. -/
def InRound (l : Loop) (around frames : List Frame) : Prop :=
  ∃ g outer signal, frames = g :: outer ∧ g.kind = .iteration (l.request signal) ∧
    Widened around outer

/-- What happens in a round leaves the frame of the loop at its pair, and the frames around as they
    are but for what is bound widely. -/
theorem firm_inRound (l : Loop) (around : List Frame) : Firm (InRound l around) where
  assign := by
    rintro f rest name v ⟨g, outer, signal, hg, hkind, hwide⟩
    obtain ⟨rfl, rfl⟩ := List.cons.inj hg
    exact ⟨f.assign name v, rest, signal, rfl, hkind, hwide⟩
  assignWide := by
    rintro _ b name v ⟨g, outer, signal, rfl, hkind, hwide⟩ h
    rw [assignWideIn, hkind, if_neg (by simp [FrameKind.isWide])] at h
    obtain ⟨outer', houter, rfl⟩ := Option.map_eq_some_iff.1 h
    exact ⟨g, outer', signal, rfl, hkind, hwide.tail ⟨name, v, houter⟩⟩
  request := by
    rintro _ signal ⟨g, outer, _, rfl, hkind, hwide⟩
    rw [changeLoopIn, hkind]
    exact ⟨_, outer, signal, rfl, rfl, hwide⟩

end CallStack

open CallStack

namespace RenderState

/-- A round of a loop is under way: the innermost frame is that of the loop, of which a request may
    have been made. -/
def AtPair (l : Loop) (signal : Signal) (s : RenderState) : Prop :=
  ∃ g outer, s.stack.frames = g :: outer ∧ g.kind = .iteration (l.request signal)

/-- The state at the beginning of a round, in a frame without names of its own. -/
def entered (l : Loop) (t : Template) (s : RenderState) : RenderState :=
  { s with stack := { s.stack with frames := .iteration l t :: s.stack.frames } }

theorem atPair_entered (s : RenderState) (l : Loop) (t : Template) :
    (s.entered l t).AtPair l l.signal := ⟨_, _, rfl, rfl⟩

/-- The state when a round is over: its frame is left, and no request waits. -/
def resumed (s : RenderState) : RenderState := { Render.popped s with pending := false }

end RenderState

namespace Render

variable {running : Template} {target : String} {key : Option String}
  {ps found kept : List (Value × Value)} {body empty : Render Unit} {s t u : RenderState}

/-! ### Pairs -/

/-- The pairs that a container offers to a loop, with a name for keys or without one. -/
inductive Offers : Bool → Value → List (Value × Value) → Prop where
  | list (xs : List Value) : Offers false (.list xs) (xs.map (Value.null, ·))
  | tuple (xs : List Value) : Offers false (.tuple xs) (xs.map (Value.null, ·))
  | object (es : List (Value × Value)) : Offers true (.object es) es

theorem pairs_of_offers {shown : String} {hasKey : Bool} {container : Value}
    (h : Offers hasKey container found) : pairs shown hasKey container = .ok found := by
  cases h <;> rfl

/-- A container of a shape that does not fit is a type error, which shows the container unless it
    is an object. -/
theorem pairs_of_not_offers {hasKey : Bool} {container : Value}
    (h : ∀ found, ¬Offers hasKey container found) (shown : String) :
    ∃ e : RuntimeError, pairs shown hasKey container = .error e ∧ e.kind = .typeMismatch ∧
      ((∃ es, container = .object es) ∧ e.values = [] ∨
        (∀ es, container ≠ .object es) ∧ e.values = [(shown, container)]) := by
  cases container with
  | list xs =>
    cases hasKey with
    | false => exact absurd (.list xs) (h _)
    | true => exact ⟨_, rfl, rfl, Or.inr ⟨by simp, rfl⟩⟩
  | tuple xs =>
    cases hasKey with
    | false => exact absurd (.tuple xs) (h _)
    | true => exact ⟨_, rfl, rfl, Or.inr ⟨by simp, rfl⟩⟩
  | object es =>
    cases hasKey with
    | false => exact ⟨_, rfl, rfl, Or.inl ⟨⟨es, rfl⟩, rfl⟩⟩
    | true => exact absurd (.object es) (h _)
  | _ => exact ⟨_, rfl, rfl, Or.inr ⟨by simp, rfl⟩⟩

/-- The problem of a container of a shape that does not fit is a type error, unless the error would
    have to show a number with too many digits to be written. -/
inductive Misfit (container : Value) : Problem → Prop where
  | typeError {e : RuntimeError} : e.kind = .typeMismatch →
      ((∃ es, container = .object es) ∨ container.isWritable = true) →
      Misfit container (.template (.runtime e))
  | unwritable : (∀ es, container ≠ .object es) → container.isWritable = false →
      Misfit container (.fault (.failure .badValue))

theorem misfit_of_not_offers {hasKey : Bool} {container : Value}
    (h : ∀ found, ¬Offers hasKey container found) (shown : String) :
    ∃ e, pairs shown hasKey container = .error e ∧ Misfit container (.ofRuntime e) := by
  obtain ⟨e, he, hkind, ⟨hobject, hvalues⟩ | ⟨hobject, hvalues⟩⟩ := pairs_of_not_offers h shown
  · refine ⟨e, he, ?_⟩
    have hwritable : e.isWritable = true := by
      unfold RuntimeError.isWritable
      rw [hvalues]
      rfl
    rw [Problem.ofRuntime, if_pos hwritable]
    exact .typeError hkind (Or.inl hobject)
  · refine ⟨e, he, ?_⟩
    have hwritable : e.isWritable = container.isWritable := by
      unfold RuntimeError.isWritable
      rw [hvalues]
      exact Bool.and_true _
    rw [Problem.ofRuntime, hwritable]
    split
    · rename_i hc
      exact .typeError hkind (Or.inr hc)
    · rename_i hc
      exact .unwritable hobject (Bool.eq_false_iff.2 hc)

/-! ### The condition -/

/-- The pairs whose verdict is truthy, in their order; verdicts are given for places from an index
    on. -/
def keptBy (verdict : Nat → Value) (index : Nat) (ps : List (Value × Value)) :
    List (Value × Value) :=
  ((ps.zipIdx index).filter fun e => (verdict e.2).isTruthy).map Prod.fst

theorem keptBy_cons (verdict : Nat → Value) (index : Nat) (e : Value × Value)
    (ps : List (Value × Value)) :
    keptBy verdict index (e :: ps) =
      if (verdict index).isTruthy then e :: keptBy verdict (index + 1) ps
      else keptBy verdict (index + 1) ps := by
  unfold keptBy
  rw [List.zipIdx_cons, List.filter_cons]
  split <;> rfl

/-- Without a condition every pair is kept. -/
theorem keptBy_of_truthy {verdict : Nat → Value} (index : Nat)
    (h : ∀ i < ps.length, (verdict (index + i)).isTruthy = true) : keptBy verdict index ps = ps := by
  induction ps generalizing index with
  | nil => rfl
  | cons e ps ih =>
    have hfirst : (verdict index).isTruthy = true := h 0 (by simp)
    have hrest := ih (index + 1) fun i hi => by
      rw [Nat.add_right_comm]
      exact h (i + 1) (by simpa using hi)
    rw [keptBy_cons, if_pos hfirst, hrest]

theorem inScope_iteration {α : Type} (m : Render α) (l : Loop) (s : RenderState) :
    inScope (.iteration l running) m s =
      ((m (s.entered l running)).1, popped (m (s.entered l running)).2) := rfl

/-- Conditions that leave the state as it was judge all pairs in the same state. -/
theorem filterPairs_eq {condition : Render Value} {p : Value → Prop} {l : Loop}
    (h : resting.congruence.rel (Same p) condition condition) (hs : s.pending = false)
    {verdict : Nat → Value} (index : Nat)
    (hverdict : ∀ i < ps.length,
      (condition (s.entered { l with index := index + i } running)).1 = .ok (verdict (index + i))) :
    filterPairs running condition l index ps s = (.ok (keptBy verdict index ps), s) := by
  induction ps generalizing index with
  | nil => rfl
  | cons e ps ih =>
    have hfirst := hverdict 0 (by simp)
    have hrest := ih (index + 1) fun i hi => by
      rw [Nat.add_right_comm]
      exact hverdict (i + 1) (by simpa using hi)
    have hstate : condition (s.entered { l with index } running) =
        (.ok (verdict index), s.entered { l with index } running) := Resting.eq_done h hs hfirst
    have hscope : inScope (.iteration { l with index } running) condition s =
        (.ok (verdict index), s) := by
      rw [inScope_iteration, hstate]
      rfl
    rw [filterPairs, bind_of_done hscope, bind_of_done hrest, keptBy_cons]
    rfl

/-! ### Rounds -/

/-- A round that ends with a request, if any. The body runs once, in a scope of its own in which the
    loop is at its pair, and ends with the request to the loop; then the scope is left and the
    request is taken. Around it nothing has changed but for what was bound widely. -/
structure Round (running : Template) (body : Render Unit) (l : Loop) (s : RenderState)
    (signal : Signal) (t : RenderState) : Prop where
  runs : ∃ u, body (s.entered l running) = (.ok (), u) ∧ u.AtPair l signal ∧ t = u.resumed
  around : Widened s.stack.frames t.stack.frames
  level : t.level = s.level
  pending : t.pending = false

/-- The rounds of a loop over pairs from an index on: they end after the last pair, with the first
    round that ends with a request to leave, or where the body halts. -/
inductive Rounds (running : Template) (body : Render Unit) (target : String)
    (key : Option String) (ps : List (Value × Value)) :
    Nat → RenderState → Except Halt Unit × RenderState → Prop where
  | finished {s : RenderState} : Rounds running body target key ps ps.length s (.ok (), s)
  | left {i : Nat} {s t : RenderState} : i < ps.length →
      Round running body (.over target key ps i) s .leave t →
      Rounds running body target key ps i s (.ok (), t)
  | next {i : Nat} {s t : RenderState} {signal : Signal} {r : Except Halt Unit × RenderState} :
      i < ps.length →
      Round running body (.over target key ps i) s signal t → signal ≠ .leave →
      Rounds running body target key ps (i + 1) t r → Rounds running body target key ps i s r
  | halted {i : Nat} {s u : RenderState} {h : Halt} : i < ps.length →
      body (s.entered (.over target key ps i) running) = (.error h, u) →
      Rounds running body target key ps i s (.error h, popped u)

/-- After the last round, nothing has changed around the loop but for what was bound widely. -/
theorem Rounds.around {i : Nat} {r : Except Halt Unit × RenderState}
    (h : Rounds running body target key ps i s r) (hr : r.1 = .ok ()) :
    Widened s.stack.frames r.2.stack.frames := by
  induction h with
  | finished => exact .refl
  | left _ hround => exact hround.around
  | next _ hround _ _ ih => exact hround.around.trans (ih hr)
  | halted _ _ => cases hr

theorem requested_of_atPair {l : Loop} {signal : Signal} (h : u.AtPair l signal) :
    requested u = (.ok signal, u) := by
  obtain ⟨g, outer, hframes, hkind⟩ := h
  change (Except.ok (((u.stack.frames.head?.bind (·.kind.loop?)).map (·.signal)).getD .none), u) = _
  rw [hframes, List.head?_cons, Option.bind_some, hkind]
  rfl

/-- Bodies that leave what is below and the level as they were run in rounds. -/
theorem exists_round {l : Loop} (hlevel : leveled.runs.congruence.rel Eq body body)
    (hbelow : ∀ context around, (above context (InRound l around)).runs.congruence.rel Eq body body)
    (h : body (s.entered l running) = (.ok (), u)) :
    ∃ signal, u.AtPair l signal ∧ Round running body l s signal u.resumed := by
  have hstart : (above s.stack.context (InRound l s.stack.frames)).holds 0
      (s.entered l running) :=
    ⟨rfl, [], _, rfl, rfl, _, _, l.signal, rfl, rfl, .refl⟩
  obtain ⟨-, upper, lower, hframes, hlength, g, outer, signal, rfl, hkind, hwide⟩ :=
    (above _ _).holds_of_ok (hbelow _ _) hstart h
  obtain rfl := List.length_eq_zero_iff.1 hlength
  have hat : u.AtPair l signal := ⟨g, outer, hframes, hkind⟩
  have hu : u.level = s.level.inScope (.iteration l running) :=
    (leveled.holds_of_ok hlevel ⟨rfl, trivial⟩ h).1
  have hpopped : (popped u).stack.frames = outer := by
    unfold popped CallStack.pop
    rw [hframes]
    rfl
  exact ⟨signal, hat, ⟨u, h, hat, rfl⟩, hpopped.symm ▸ hwide, Level.level_popped hu, rfl⟩

/-- The first of the rounds that remain, and those after it. -/
theorem iterate_succ (i remaining : Nat) :
    iterate running body (.over target key ps 0) i (remaining + 1) =
      inScope (.iteration (.over target key ps i) running) (body >>= fun _ => requested) >>=
        fun signal => change (fun s => { s with pending := false }) >>= fun _ =>
          if signal = .leave then done ()
          else iterate running body (.over target key ps 0) (i + 1) remaining := rfl

/-- A loop over some pairs runs in rounds. -/
theorem rounds_iterate (hlevel : leveled.runs.congruence.rel Eq body body)
    (hbelow : ∀ l context around,
      (above context (InRound l around)).runs.congruence.rel Eq body body) :
    ∀ (remaining i : Nat) (s : RenderState), i + remaining = ps.length →
      Rounds running body target key ps i s
        (iterate running body (.over target key ps 0) i remaining s)
  | 0, i, s, hi => by
    obtain rfl : i = ps.length := hi
    exact .finished
  | remaining + 1, i, s, hi => by
    have hlt : i < ps.length := by omega
    -- the body halts in the frame of the round, or it leaves its request in this frame
    cases hbody : body (s.entered (.over target key ps i) running) with
    | mk r u =>
      cases r with
      | error h =>
        have hscope : inScope (.iteration (.over target key ps i) running)
            (body >>= fun _ => requested) s = (.error h, popped u) := by
          rw [inScope_iteration, bind_of_error hbody]
        rw [iterate_succ, bind_of_error hscope]
        exact .halted hlt hbody
      | ok a =>
        obtain ⟨signal, hat, hround⟩ := exists_round hlevel (hbelow _) hbody
        have hscope : inScope (.iteration (.over target key ps i) running)
            (body >>= fun _ => requested) s = (.ok signal, popped u) := by
          rw [inScope_iteration, bind_of_done hbody, requested_of_atPair hat]
        rw [iterate_succ, bind_of_done hscope, bind_of_done (m := change _) rfl]
        split
        · rename_i hleave
          exact .left hlt (hleave ▸ hround)
        · rename_i hstay
          exact .next hlt hround hstay (rounds_iterate hlevel hbelow remaining (i + 1) _ (by omega))

/-! ### Inside of a round -/

section

variable {i : Nat} {signal : Signal} {l : Loop}

/-- In a round, what the loop binds hides all other names. -/
theorem find_of_atPair {name : String} {v : Value} (hu : u.AtPair l signal)
    (hbinding : l.binding? name = some v) (hv : v ≠ .undefined) : u.stack.find name = v := by
  obtain ⟨g, outer, hframes, hkind⟩ := hu
  have hg : g.find name = v := by
    have hrequest : (l.request signal).binding? name = some v := hbinding
    unfold Frame.find
    rw [hkind]
    dsimp only [FrameKind.loop?, Option.bind_some]
    rw [hrequest]
  unfold CallStack.find
  rw [hframes, findIn, hg]
  split
  · exact absurd rfl hv
  · rfl

theorem current_over (hi : i < ps.length) : (Loop.over target key ps i).current = ps[i] := by
  unfold Loop.current Loop.over
  simp [hi]

/-- What the names of a loop stand for in a round: the item and the key of the pair, if they are
    values, and the loop with its position among the pairs. -/
structure Named (target : String) (key : Option String) (ps : List (Value × Value)) (i : Nat)
    (u : RenderState) : Prop where
  value : ∀ h : i < ps.length, ps[i].2 ≠ .undefined → u.stack.find target = ps[i].2
  itsKey : ∀ (h : i < ps.length) (name : String), key = some name → name ≠ target →
    ps[i].1 ≠ .undefined → u.stack.find name = ps[i].1
  position : target ≠ "loop" → key ≠ some "loop" → u.stack.find "loop" = .ofFields
    [("index", .int (i + 1)), ("index0", .int i), ("first", .bool (i = 0)),
      ("last", .bool (i = ps.length - 1)), ("length", .int ps.length),
      ("revindex", .int (ps.length - i)), ("revindex0", .int (ps.length - i - 1))]

theorem named_of_atPair (hi : i < ps.length) (hu : u.AtPair (.over target key ps i) signal) :
    Named target key ps i u where
  value _ hv := by
    refine find_of_atPair hu ?_ hv
    unfold Loop.binding?
    rw [current_over hi]
    exact if_pos rfl
  itsKey _ name hkey hname hv := by
    refine find_of_atPair hu ?_ hv
    unfold Loop.binding?
    rw [current_over hi]
    exact (if_neg hname).trans (if_pos hkey.symm)
  position htarget hkey := by
    -- the metadata compare with the number of pairs from the other side
    have hlast : decide (i + 1 = ps.length) = decide (i = ps.length - 1) := by
      rw [decide_eq_decide]
      omega
    have hmetadata : (Loop.over target key ps i).metadata = .ofFields
        [("index", .int (i + 1)), ("index0", .int i), ("first", .bool (i = 0)),
          ("last", .bool (i = ps.length - 1)), ("length", .int ps.length),
          ("revindex", .int (ps.length - i)), ("revindex0", .int (ps.length - i - 1))] := by
      unfold Loop.metadata Loop.counters
      rw [← hlast]
      rfl
    refine find_of_atPair hu ?_ (by simp [Value.ofFields])
    unfold Loop.binding?
    rw [hmetadata]
    exact (if_neg htarget.symm).trans ((if_neg hkey.symm).trans (if_pos rfl))

theorem atLine_eq_done (line : Int) (u : RenderState) :
    ∃ v, atLine line u = (.ok (), v) ∧ v.stack = u.stack := by
  unfold atLine
  split
  · exact ⟨u, rfl, rfl⟩
  · exact ⟨_, rfl, rfl⟩

/-- A statement that makes a request ends the body of a round with this request. -/
theorem execAll_request {links : Links} {setting : Setting} {n : Node} {before : Signal}
    (hn : exec links setting n = request signal) (hu : u.AtPair l before) (rest : List Node) :
    ∃ v, execAll links setting (n :: rest) u = (.ok (), v) ∧ v.AtPair l signal ∧
      v.pending = true := by
  obtain ⟨lined, hline, hstack⟩ := atLine_eq_done n.pos.line u
  obtain ⟨g, outer, hframes, hkind⟩ := hu
  rw [← hstack] at hframes
  -- the innermost frame is that of a round, so there is a loop to ask
  have hloop : lined.stack.currentLoop.isNone = false := by
    unfold currentLoop
    rw [hframes, CallStack.inScope, hkind]
    simp [FrameKind.isCall, hkind, FrameKind.loop?]
  let v : RenderState :=
    { lined with stack := lined.stack.changeLoop (·.request signal), pending := true }
  have hrequest : request signal lined = (.ok (), v) := by
    unfold request
    rw [bind_of_done (m := Render.state) rfl, hloop]
    rfl
  have hat : v.AtPair l signal := by
    refine ⟨{ g with kind := .iteration (l.request signal) }, outer, ?_, rfl⟩
    change changeLoopIn _ lined.stack.frames = _
    rw [hframes, changeLoopIn, hkind]
    rfl
  refine ⟨v, ?_, hat, rfl⟩
  rw [execAll, bind_of_done hline, hn, bind_of_done hrequest, bind_of_done (m := Render.state) rfl]
  rfl

/-- A name is bound in the frame of the round. -/
theorem assign_eq_done {name : String} {w : Value} {g : Frame} {outer : List Frame}
    (hframes : u.stack.frames = g :: outer) :
    assign name w u =
      (.ok (), { u with stack := { u.stack with frames := g.assign name w :: outer } }) := by
  have assigned : assign name w u = andThen (ofRuntime (u.stack.assign name w)) _ u := rfl
  rw [assigned]
  unfold CallStack.assign
  rw [hframes]
  rfl

/-- What holds of a round of a loop while it is under way. Its names stand for its pair and its
    position, whatever has been bound in the round; a name that is not bound widely is bound in
    the frame of the round and nowhere else; and a request ends the body. -/
structure InPair (links : Links) (setting : Setting) (target : String) (key : Option String)
    (ps : List (Value × Value)) (i : Nat) (u : RenderState) : Prop where
  named : Named target key ps i u
  stays : ∀ n v, exec links setting n u = (.ok (), v) →
    ∃ signal, v.AtPair (.over target key ps i) signal
  assigns : ∀ p name n v, u.pending = false →
    exec links setting (.assign p name n false) u = (.ok (), v) → ∃ g outer w,
      u.stack.frames = g :: outer ∧
        v = { u with stack := { u.stack with frames := g.assign name w :: outer } }
  leaves : ∀ p rest, ∃ v, execAll links setting (.leave p :: rest) u = (.ok (), v) ∧
    v.AtPair (.over target key ps i) .leave ∧ v.pending = true
  goesOn : ∀ p rest, ∃ v, execAll links setting (.next p :: rest) u = (.ok (), v) ∧
    v.AtPair (.over target key ps i) .next ∧ v.pending = true

theorem inPair_of_atPair (setting : Setting) (depth : Nat) (hi : i < ps.length)
    (hu : u.AtPair (.over target key ps i) signal) :
    InPair (linked (calls depth setting) setting) setting target key ps i u where
  named := named_of_atPair hi hu
  stays n v hv := by
    obtain ⟨g, outer, hframes, hkind⟩ := hu
    have hstart : (above u.stack.context (InRound (.over target key ps i) outer)).holds 0 u :=
      ⟨rfl, [], _, hframes, rfl, g, outer, signal, rfl, hkind, .refl⟩
    obtain ⟨-, upper, lower, hv, hlength, h, outer', signal', rfl, hkind', -⟩ :=
      (above _ _).holds_of_ok ((Above.kept (firm_inRound _ outer)).exec setting depth n) hstart hv
    obtain rfl := List.length_eq_zero_iff.1 hlength
    exact ⟨signal', h, outer', hv, hkind'⟩
  assigns p name n v hpending hv := by
    obtain ⟨g, outer, hframes, -⟩ := hu
    rw [exec] at hv
    obtain ⟨w, t, hw, hassign⟩ := bind_eq_done hv
    have ht := hw.symm.trans (eval_pure hpending (congrArg Prod.fst hw))
    obtain ⟨-, rfl⟩ := Prod.mk.inj ht
    rw [if_neg (by simp), assign_eq_done hframes] at hassign
    exact ⟨g, outer, w, hframes, (congrArg Prod.snd hassign).symm⟩
  leaves p rest := execAll_request rfl hu rest
  goesOn p rest := execAll_request rfl hu rest

end

/-! ### Loops -/

/-- The verdict of a condition in a state; without a condition it is positive. -/
def Judges (links : Links) (setting : Setting) (condition : Option Node) (s : RenderState)
    (verdict : Value) : Prop :=
  match condition with
  | none => verdict = .bool true
  | some c => (eval links setting true c s).1 = .ok verdict

theorem active_eq {f : Frame} {rest : List Frame} (h : s.stack.frames = f :: rest) :
    active s = (.ok f.template, s) := by
  change ofRuntime s.stack.activeTemplate s = _
  unfold CallStack.activeTemplate CallStack.current
  rw [h]
  rfl

/-- A loop goes on with the pairs that are kept, in the state before the loop. -/
theorem runLoop_eq {setting : Setting} {depth : Nat} {f : Frame} {rest : List Frame}
    (hframes : s.stack.frames = f :: rest) (hpending : s.pending = false) {condition : Option Node}
    {verdict : Nat → Value} (hverdict : ∀ i < found.length,
      Judges (linked (calls depth setting) setting) setting condition
        (s.entered (.over target key found i) f.template) (verdict i)) :
    runLoop target key found
        (condition.map fun c => eval (linked (calls depth setting) setting) setting true c)
        body empty s =
      if (keptBy verdict 0 found).isEmpty then empty s
      else iterate f.template body (.over target key (keptBy verdict 0 found) 0) 0
        (keptBy verdict 0 found).length s := by
  have onward (kept : List (Value × Value)) :
      (if kept.isEmpty then empty
        else iterate f.template body (.over target key kept 0) 0 kept.length : Render Unit) s =
        if kept.isEmpty then empty s
        else iterate f.template body (.over target key kept 0) 0 kept.length s := by
    split <;> rfl
  unfold runLoop
  rw [bind_of_done (active_eq hframes)]
  cases condition with
  | none =>
    -- without a condition every pair is kept
    have hall : keptBy verdict 0 found = found := keptBy_of_truthy 0 fun i hi => by
      rw [Nat.zero_add, show verdict i = .bool true from hverdict i hi]
      rfl
    rw [hall]
    exact onward found
  | some c =>
    have hfilter : filterPairs f.template
        (eval (linked (calls depth setting) setting) setting true c) (.over target key found 0) 0
        found s = (.ok (keptBy verdict 0 found), s) :=
      filterPairs_eq ((tidy setting depth).eval true c) hpending 0 fun i hi => by
        rw [Nat.zero_add]
        exact hverdict i hi
    exact (bind_of_done hfilter).trans (onward _)

/-- How loops run, in a state in which no request waits. A container of a shape that does not fit
    the names of the loop is a type error and nothing is written; the error is another one only if
    it would have to show a number with too many digits. The pairs of any other container are
    judged by the condition in the state before the loop, each in a frame of its own in which the
    loop is at that pair among all of them. If none is kept, what stands for no pair runs in that
    state; otherwise the body runs in rounds, one for each pair that is kept, up to the first
    that ends with a request to leave, and what has changed around the loop afterwards was bound
    widely. A round begins at its pair, and while it is there, the names of the loop stand for the
    pair and for the position among the pairs, other names are bound in the frame of the round and
    nowhere else, and a request ends the round. -/
theorem loop_semantics (setting : Setting) (depth : Nat) {f : Frame} {rest : List Frame}
    (hframes : s.stack.frames = f :: rest) (hpending : s.pending = false) :
    let links := linked (calls depth setting) setting
    (∀ p target iter body empty key condition container,
      (eval links setting false iter s).1 = .ok container →
      let looped := exec links setting (.loop p target iter body empty key condition) s
      ((∀ found, ¬Offers key.isSome container found) →
        ∃ q, Misfit container q ∧ looped = (.error (.problem q), s)) ∧
      ∀ found verdict, Offers key.isSome container found →
        (∀ i < found.length, Judges links setting condition
          (s.entered (.over target key found i) f.template) (verdict i)) →
        (keptBy verdict 0 found = [] → looped = execAll links setting empty s) ∧
        (keptBy verdict 0 found ≠ [] →
          Rounds f.template (execAll links setting body) target key (keptBy verdict 0 found) 0 s
            looped ∧
          (looped.1 = .ok () → Widened s.stack.frames looped.2.stack.frames))) ∧
    ∀ target key ps i, i < ps.length →
      (∀ running u, (RenderState.entered (.over target key ps i) running u).AtPair
        (.over target key ps i) .none) ∧
      ∀ signal u, RenderState.AtPair (.over target key ps i) signal u →
        InPair links setting target key ps i u := by
  intro links
  refine ⟨fun p target iter body empty key condition container hcontainer => ?_,
    fun target key ps i hi => ⟨fun running u => u.atPair_entered _ running,
      fun signal u hu => inPair_of_atPair setting depth hi hu⟩⟩
  intro looped
  have hstart : looped = (ofRuntime (pairs iter.describe key.isSome container) >>= fun found =>
      runLoop target key found (condition.map fun c => eval links setting true c)
        (execAll links setting body) (execAll links setting empty)) s := by
    change exec links setting _ s = _
    rw [exec, bind_of_done (eval_pure hpending hcontainer)]
  refine ⟨fun hmisfit => ?_, fun found verdict hoffers hverdict => ?_⟩
  · obtain ⟨e, he, hq⟩ := misfit_of_not_offers hmisfit iter.describe
    refine ⟨.ofRuntime e, hq, ?_⟩
    rw [hstart, he]
    rfl
  · rw [pairs_of_offers hoffers] at hstart
    have hloop := hstart.trans (runLoop_eq hframes hpending hverdict)
    refine ⟨fun hnone => ?_, fun hsome => ?_⟩
    · rw [hloop, hnone]
      rfl
    · have hkept : (keptBy verdict 0 found).isEmpty = false := by simpa using hsome
      have hrounds : Rounds f.template (execAll links setting body) target key
          (keptBy verdict 0 found) 0 s looped := by
        rw [hloop, hkept]
        exact rounds_iterate (Levels.kept.execAll setting depth body)
          (fun l _ around => (Above.kept (firm_inRound l around)).execAll setting depth body) _ 0 s
          (Nat.zero_add _)
      exact ⟨hrounds, hrounds.around⟩

/-- The state in which the body of a template is begun. -/
def opened : RenderState :=
  { stack := { frames := [.root leaflet] }, targets := [leaflet] }

/-- A list of three numbers. -/
def threeNumbers : Node :=
  .list {} [.const {} (.int 1), .const {} (.int 2), .const {} (.int 3)]

/-- A number is greater than one. -/
def exceedsOne : Node := .compare {} (.name {} "v") [">"] [.const {} (.int 1)]

/-- A loop over the numbers greater than one, which is left after the first of them. -/
def firstGreater : Node :=
  .loop {} "v" threeNumbers [.output {} (.name {} "v"), .leave {}] [] none (some exceedsOne)

theorem loop_semantics_numbers :
    Rounds leaflet (execAll (linked (calls 0 solitary) solitary) solitary
        [.output {} (.name {} "v"), .leave {}]) "v" none [(.null, .int 2), (.null, .int 3)] 0 opened
      (exec (linked (calls 0 solitary) solitary) solitary firstGreater opened) ∧
    (exec (linked (calls 0 solitary) solitary) solitary firstGreater opened).2.chunks =
      [.text "2"] := by
  have hcontainer : (eval (linked (calls 0 solitary) solitary) solitary false threeNumbers
      opened).1 = .ok (.list [.int 1, .int 2, .int 3]) := rfl
  obtain ⟨hloops, -⟩ := loop_semantics (s := opened) solitary 0 rfl rfl
  obtain ⟨-, hfits⟩ := hloops {} "v" threeNumbers _ [] none (some exceedsOne) _ hcontainer
  obtain ⟨-, hsome⟩ := hfits _ (fun i => .bool (i != 0)) (.list _) fun
    | 0, _ => rfl
    | 1, _ => rfl
    | 2, _ => rfl
  exact ⟨(hsome (List.cons_ne_nil _ _)).1, by decide +kernel⟩

end Render

namespace Environment

open Render

/-- A page with a loop whose body puts the text of a macro in place of a captured one. The macro has
    a loop of its own, over two numbers, each followed by a mark. -/
def replacing (captured : List Node) : Environment :=
  (perform (withBuiltins {} {}) (.addTemplate "page.txt"
    { body :=
        [.loop {} "i" threeNumbers
          [.filterBlock {} "replace" captured []
            [("from", .const {} (.text "a")), ("to", .macroCall {} "self" "m" [] [])]]
          [] none none,
         .macroDef {} "m" []
          [.loop {} "j" (.list {} [.const {} (.int 1), .const {} (.int 2)])
            [.output {} (.name {} "j"), .data {} "x"] [] none none]] } none)).2

/-- What the page writes. -/
def replaced (captured : List Node) : Option String :=
  ((replacing captured).templates.get? "page.txt").bind fun t =>
    ((replacing captured).render t {}).toOption

/-- A loop that runs while a request to another loop waits need not run its body as a whole for each
    pair: the first round ends after its first statement, although nothing in it makes a request. -/
theorem round_cut_short : replaced [.data {} "a"] = some "1x2x1x2x1x2x" ∧
    replaced [.data {} "a", .leave {}] = some "12x" := by
  constructor
  · decide +kernel
  · decide +kernel

end Environment

end Stencil
