import Stencil.Error.Record
import Stencil.Proofs.Bare
import Stencil.Proofs.Result

/-! Colours in errors. The report of an error is joined of texts without the escape character, some
    of which are styled, so that it decorates what it would be without colours. Only the message of
    a failed capability may be decorated itself, since it shows the reason of the cause. Records may
    therefore be *twins*: they differ in the message, which in one of them is decorated, and in
    nothing else. What twins tell is the same but for decoration, and relocated they are twins. -/

namespace Stencil

open Text (Decorates)

/-! ### Parts of reports -/

namespace Report

open Text

theorem bare_place {template : String} {line column : Option String} (ht : Bare template)
    (hl : ∀ s ∈ line, Bare s) (hc : ∀ s ∈ column, Bare s) : Bare (place template line column) := by
  have hname : Bare (if template.isEmpty then "<template>" else template) := by
    split
    · decide
    · exact ht
  have hcolon : Bare ":" := by decide
  unfold place
  dsimp only
  split
  · exact hname
  · exact bare_append.2 ⟨bare_append.2 ⟨hname, hcolon⟩, hl _ rfl⟩
  · exact bare_append.2 ⟨bare_append.2 ⟨bare_append.2 ⟨bare_append.2 ⟨hname, hcolon⟩, hl _ rfl⟩,
      hcolon⟩, hc _ rfl⟩

theorem bare_labelled {label text : String} (hlabel : Bare label) (h : Bare text) :
    ∀ s ∈ labelled label text, Bare s := by
  unfold labelled
  split
  · simp
  · simp +decide [hlabel, h]

theorem bare_describeValue {name : String} (h : Bare name) (v : Value) :
    Bare (describeValue name v) := by
  have hinspect := v.bare_inspect
  have hshown : Bare (if maxShown < v.inspect.length then
      String.ofList (v.inspect.toList.take (maxShown - 3)) ++ "..." else v.inspect) := by
    split
    · exact bare_append.2 ⟨bare_ofList.2 fun hc => hinspect (List.mem_of_mem_take hc), by decide⟩
    · exact hinspect
  simp +decide [describeValue, h, hshown, v.bare_typeName]

theorem decorates_trail {places : List String} (h : ∀ p ∈ places, Bare p) :
    Decorates (trail true places) (trail false places) := by
  unfold trail
  split
  · exact .of_bare (by decide)
  · have htitle : Bare "Template stack:" := by decide
    have hbullet : Bare "  • " := by decide
    refine Decorates.joinTexts (by decide) (.cons (.styled_of_bare htitle true "dim") ?_)
    rw [List.forall₂_map_left_iff, List.forall₂_map_right_iff, List.forall₂_same]
    exact fun p hp => (Decorates.of_bare hbullet).append (.styled_of_bare (h p hp) true "location")

theorem decorates_header {code s t : String} (hcode : Bare code) (h : Decorates s t) :
    Decorates (header true code s) (header false code t) := by
  have hcolon : Bare ": " := by decide
  unfold header
  split
  · exact h
  · exact ((Decorates.styled_of_bare hcode true "error_code").append (.of_bare hcolon)).append h

end Report

/-! ### Reports -/

namespace Facts

open Text Report

/-- The texts of some facts, but for the message, are without the escape character. -/
structure Bare (f : Facts) : Prop where
  code : Text.Bare f.code
  place : Text.Bare f.place
  trail : ∀ p ∈ f.trail, Text.Bare p
  construct : Text.Bare f.construct
  expression : Text.Bare f.expression
  values : ∀ v ∈ f.values, Text.Bare v.1
  suggestion : Text.Bare f.suggestion
  guess : ∀ s ∈ f.guess, Text.Bare s

variable {f : Facts} {s t : String}

/-- The same facts with a message in colours and without. -/
def withMessage (f : Facts) (message : String) : Facts := { f with message }

theorem decorates_place (hf : f.Bare) (s t : String) :
    Decorates ((f.withMessage s).styledPlace true) ((f.withMessage t).styledPlace false) :=
  .styled_of_bare hf.place true "location"

/-- A hint after a label. -/
theorem decorates_advice (hf : f.Bare) {indent label : String} (hindent : Text.Bare indent)
    (hlabel : Text.Bare label) :
    Decorates (indent ++ styled true "hint" label ++ " " ++ f.suggestion)
      (indent ++ styled false "hint" label ++ " " ++ f.suggestion) := by
  have hspace : Text.Bare " " := by decide
  exact (((Decorates.of_bare hindent).append (.styled_of_bare hlabel true "hint")).append
    (.of_bare hspace)).append (.of_bare hf.suggestion)

/-- The trail as a part of a report that has it only if it is not empty. -/
theorem decorates_steps (hf : f.Bare) {front : List String} (hfront : ∀ s ∈ front, Text.Bare s) :
    List.Forall₂ Decorates
      (if f.trail.isEmpty then [] else front ++ [Report.trail true f.trail])
      (if f.trail.isEmpty then [] else front ++ [Report.trail false f.trail]) := by
  split
  · exact .nil
  · exact List.rel_append (Decorates.lines_of_bare hfront)
      (.cons (decorates_trail hf.trail) .nil)

/-- The first line of the report of an undefined name, up to the guess. -/
theorem decorates_guess (hf : f.Bare) (h : Decorates s t) :
    ∀ guess ∈ f.guess, Decorates
      (s ++ (". Did you mean '" ++ styled true "suggestion" guess ++ "'?"))
      (t ++ (". Did you mean '" ++ styled false "suggestion" guess ++ "'?")) := by
  intro guess hguess
  have hfront : Text.Bare ". Did you mean '" := by decide
  have hback : Text.Bare "'?" := by decide
  have hstyled := Decorates.styled_of_bare (hf.guess guess hguess) true "suggestion"
  exact h.append (((Decorates.of_bare hfront).append hstyled).append (.of_bare hback))

theorem undefinedReport_decorates (hf : f.Bare) (h : Decorates s t) :
    Decorates ((f.withMessage s).undefinedReport true)
      ((f.withMessage t).undefinedReport false) := by
  have hliteral {s : String} (h : Text.Bare s) : Decorates s s := .of_bare h
  have hin : Text.Bare " in " := by decide
  have hplace := (h.append (hliteral hin)).append (decorates_place hf s t)
  have hsteps : Decorates (if f.trail.isEmpty then "" else "\n\n" ++ Report.trail true f.trail)
      (if f.trail.isEmpty then "" else "\n\n" ++ Report.trail false f.trail) := by
    split
    · exact hliteral (by decide)
    · exact (hliteral (by decide)).append (decorates_trail hf.trail)
  have hhint : Decorates (styled true "hint" "Hint:") (styled false "hint" "Hint:") :=
    .styled_of_bare (by decide) true "hint"
  have hrest {s t : String} (h : Decorates s t) := (((((h.append hsteps).append
    (hliteral (by decide : Text.Bare "\n  "))).append hhint).append
    (hliteral (by decide : Text.Bare " "))).append (hliteral hf.suggestion))
  unfold undefinedReport
  cases hguess : f.guess with
  | none =>
    have hempty : Text.Bare "" := by decide
    simpa only [withMessage, hguess] using hrest (hplace.append (hliteral hempty))
  | some guess =>
    simpa only [withMessage, hguess] using hrest (decorates_guess hf hplace guess hguess)

theorem report_decorates (hf : f.Bare) (h : Decorates s t) :
    Decorates ((f.withMessage s).report true) ((f.withMessage t).report false) := by
  have hfirst : Decorates ("Runtime Error: " ++ s) ("Runtime Error: " ++ t) :=
    (Decorates.of_bare (by decide)).append h
  have hlocated : List.Forall₂ Decorates
      (if f.isLocated then ["  Location: " ++ (f.withMessage s).styledPlace true] else [])
      (if f.isLocated then ["  Location: " ++ (f.withMessage t).styledPlace false] else []) := by
    split
    · exact .cons ((Decorates.of_bare (by decide)).append (decorates_place hf s t)) .nil
    · exact .nil
  have hsteps := decorates_steps hf (List.forall_mem_singleton.2 (by decide : Text.Bare ""))
  have hconstruct := Decorates.lines_of_bare
    (bare_labelled (by decide : Text.Bare "Construct") hf.construct)
  have hexpression := Decorates.lines_of_bare
    (bare_labelled (by decide : Text.Bare "Expression") hf.expression)
  have hvalues : List.Forall₂ Decorates
      (if f.values.isEmpty then [] else
        "  Values:" :: f.values.map fun v => describeValue v.1 v.2)
      (if f.values.isEmpty then [] else
        "  Values:" :: f.values.map fun v => describeValue v.1 v.2) := by
    refine Decorates.lines_of_bare ?_
    split
    · simp
    · refine List.forall_mem_cons.2 ⟨by decide, fun line hline => ?_⟩
      obtain ⟨v, hv, rfl⟩ := List.mem_map.1 hline
      exact bare_describeValue (hf.values v hv) v.2
  have hadvice : List.Forall₂ Decorates
      (if f.suggestion.isEmpty then []
        else ["\n  " ++ styled true "hint" "Suggestion:" ++ " " ++ f.suggestion])
      (if f.suggestion.isEmpty then []
        else ["\n  " ++ styled false "hint" "Suggestion:" ++ " " ++ f.suggestion]) := by
    split
    · exact .nil
    · exact .cons (decorates_advice hf (by decide) (by decide)) .nil
  refine Decorates.joinTexts (by decide) ?_
  exact List.rel_append (List.rel_append (List.rel_append (List.rel_append (List.rel_append
    (List.rel_append (.cons hfirst .nil) hlocated) hsteps) hconstruct) hexpression) hvalues) hadvice

theorem compact_decorates (hf : f.Bare) (h : Decorates s t) :
    Decorates ((f.withMessage s).compact true) ((f.withMessage t).compact false) := by
  have hlocation : Decorates ("  Location: " ++ (f.withMessage s).styledPlace true)
      ("  Location: " ++ (f.withMessage t).styledPlace false) :=
    (Decorates.of_bare (by decide)).append (decorates_place hf s t)
  have hsteps := decorates_steps hf (List.forall_mem_nil Text.Bare)
  have hexpression := Decorates.lines_of_bare
    (bare_labelled (by decide : Text.Bare "Expression") hf.expression)
  have hadvice : List.Forall₂ Decorates
      (if f.suggestion.isEmpty then []
        else ["  " ++ styled true "hint" "Hint:" ++ " " ++ f.suggestion])
      (if f.suggestion.isEmpty then []
        else ["  " ++ styled false "hint" "Hint:" ++ " " ++ f.suggestion]) := by
    split
    · exact .nil
    · exact .cons (decorates_advice hf (by decide) (by decide)) .nil
  refine Decorates.joinTexts (by decide) ?_
  exact List.rel_append (List.rel_append (List.rel_append
    (.cons (decorates_header hf.code h) (.cons hlocation .nil)) hsteps) hexpression) hadvice

theorem joinTexts_cons_isEmpty {sep first : String} {parts : List String}
    (h : first.isEmpty = false) : (joinTexts sep (first :: parts)).isEmpty = false := by
  cases parts with
  | nil => simpa [joinTexts] using h
  | cons part parts =>
    simp only [joinTexts, String.intercalate_cons_cons]
    simp_all

theorem report_isEmpty (f : Facts) (color : Bool) : (f.report color).isEmpty = false :=
  joinTexts_cons_isEmpty (by simp)

theorem undefinedReport_isEmpty (f : Facts) (color : Bool) :
    (f.undefinedReport color).isEmpty = false := by
  simp [undefinedReport]

end Facts

theorem Report.bare_withCode (c : ErrorClass) {s : String} (h : Text.Bare s) :
    Text.Bare (withCode c.code? s) := by
  have hcode (code : ErrorCode) : Text.Bare code.text := by cases code <;> decide
  unfold withCode
  split
  · exact h
  · split
    · exact h
    · exact Text.bare_append.2 ⟨Text.bare_append.2 ⟨hcode _, by decide⟩, h⟩

/-! ### Results with and without colours -/

/-- Two computations fail alike, or their results are related. -/
inductive Alike {ε α β : Type} (R : α → β → Prop) : Except ε α → Except ε β → Prop where
  | ok {a b} (h : R a b) : Alike R (.ok a) (.ok b)
  | error (e) : Alike R (.error e) (.error e)

namespace Alike

variable {ε α β γ δ : Type} {R : α → β → Prop} {S : γ → δ → Prop}

theorem bind {x : Except ε α} {y : Except ε β} {f : α → Except ε γ} {g : β → Except ε δ}
    (h : Alike R x y) (hnext : ∀ a b, R a b → Alike S (f a) (g b)) :
    Alike S (x >>= f) (y >>= g) := by
  cases h with
  | ok h => exact hnext _ _ h
  | error e => exact .error e

/-- A step that is the same on both sides. -/
theorem same {x : Except ε α} {f : α → Except ε γ} {g : α → Except ε δ}
    (hnext : ∀ a, x = .ok a → Alike S (f a) (g a)) : Alike S (x >>= f) (x >>= g) := by
  cases x with
  | ok a => exact hnext a rfl
  | error e => exact .error e

theorem mono {x : Except ε α} {y : Except ε β} {R' : α → β → Prop} (h : Alike R x y)
    (hmono : ∀ a b, R a b → R' a b) : Alike R' x y := by
  cases h with
  | ok h => exact .ok (hmono _ _ h)
  | error e => exact .error e

/-- Where the results decorate each other, stripping makes the outcomes equal. -/
theorem strip_eq {x y : Except ε String} (h : Alike Decorates x y) :
    x.map Text.stripColors = y := by
  cases h with
  | ok h => exact congrArg Except.ok h.stripColors_eq
  | error e => rfl

end Alike

/-! ### What records tell -/

theorem ErrorClass.bare_code (c : ErrorClass) :
    Text.Bare ((c.code?.map ErrorCode.text).getD "") := by
  cases c <;> decide

namespace Trail

theorem bare_place {template line : Value} {column : Option String} (ht : template.Bare)
    (hl : line.Bare) (hc : ∀ s ∈ column, Text.Bare s) : Text.Bare (place template line column) := by
  refine Report.bare_place ?_ (fun s hs => ?_) hc
  · split
    · exact ht.plain
    · decide
  · split at hs
    · cases hs
      exact hl.plain
    · cases hs

/-- The two values of a pair are its members. -/
theorem members_of_pair {v a b : Value} (h : pair v = .ok (a, b)) : v.members? = some [a, b] := by
  unfold pair at h
  split at h <;> cases h
  assumption

theorem bare_places {v : Value} (hv : v.Bare) {places : List String}
    (h : Trail.places v = .ok places) : ∀ p ∈ places, Text.Bare p := by
  unfold Trail.places at h
  split at h
  · cases h
    simp
  split at h
  · cases h
  rename_i steps hsteps
  intro p hp
  obtain ⟨step, hstep, hplace⟩ := exists_of_mapM_eq_ok h p hp
  simp only [bind_eq_ok, pure_eq_ok] at hplace
  obtain ⟨⟨template, line⟩, hpair, rfl⟩ := hplace
  have hall := (hv.members hsteps step hstep).members (members_of_pair hpair)
  exact bare_place (hall _ (by simp)) (hall _ (by simp)) (by simp)

end Trail

namespace ErrorRecord

variable {r r' : ErrorRecord}

theorem bare_of_lookup {fields : List (String × Value)} (h : ∀ f ∈ fields, f.2.Bare)
    {name : String} {v : Value} (hv : fields.lookup name = some v) : v.Bare := by
  obtain ⟨front, back, hfields, -⟩ := List.lookup_eq_some_iff.1 hv
  exact h (name, v) (by simp [hfields])

/-- All values that a record keeps besides its subject are without the escape character. -/
structure Bare (r : ErrorRecord) : Prop where
  fields : ∀ f ∈ r.fields, f.2.Bare
  visible : r.visible.Bare

/-- The same record with another message and subject. -/
def withMessage (r : ErrorRecord) (message : String) (subject : Value) : ErrorRecord :=
  { r with message, subject }

theorem Bare.get (h : r.Bare) (name : String) : (r.get name).Bare := by
  unfold ErrorRecord.get
  cases hlookup : r.fields.lookup name with
  | none => exact .null
  | some v => exact bare_of_lookup h.fields hlookup

theorem Bare.text (h : r.Bare) (name : String) : Text.Bare (r.text name) := by
  unfold ErrorRecord.text
  split
  · exact (h.get name).plain
  · decide

theorem Bare.set (h : r.Bare) {v : Value} (hv : v.Bare) (name : String) : (r.set name v).Bare where
  fields := by
    intro f hf
    obtain ⟨g, hg, rfl⟩ := List.mem_map.1 hf
    split
    · exact hv
    · exact h.fields g hg
  visible := h.visible

/-- The message has no part in what else a record tells. -/
theorem facts_withMessage (r : ErrorRecord) (message : String) (subject : Value) :
    (r.withMessage message subject).facts = r.facts.map (·.withMessage message) := by
  have hguess : (r.withMessage message subject).guess = r.guess := rfl
  have hget (name : String) : (r.withMessage message subject).get name = r.get name := rfl
  unfold facts
  rw [hguess, hget, hget]
  cases r.guess with
  | error e => rfl
  | ok guess =>
    cases Trail.places (r.get "template_stack") with
    | error e => rfl
    | ok places =>
      cases named (r.get "values") with
      | error e => rfl
      | ok values => rfl

theorem bare_named {v : Value} (hv : v.Bare) {values : List (String × Value)}
    (h : named v = .ok values) : ∀ e ∈ values, Text.Bare e.1 := by
  unfold named at h
  split at h
  · cases h
    simp
  split at h
  · rename_i es
    cases h
    cases hv with
    | object hk _ =>
      intro e he
      obtain ⟨f, hf, rfl⟩ := List.mem_map.1 he
      exact (hk f hf).plain
  · cases h

/-- A guess is one of the visible names. -/
theorem Bare.guess (h : r.Bare) {guess : Option String} (hguess : r.guess = .ok guess) :
    ∀ s ∈ guess, Text.Bare s := by
  -- the closest name is one of the visible ones, wherever the name to compare it with comes from
  have hclosest {name : String} {names : List String} (hnames : namesOf r.visible = .ok names) :
      ∀ s ∈ RuntimeError.closestName name names, Text.Bare s := by
    intro s hs
    have hmem := Text.mem_of_closest (Option.mem_filter_iff.1 hs).1
    unfold namesOf at hnames
    split at hnames
    · cases hnames
    rename_i vs hvs
    obtain ⟨v, hv, hvtext⟩ := exists_of_mapM_eq_ok hnames s hmem
    have hbare := h.visible.members hvs v hv
    cases htext : v.text? with
    | none => simp [htext] at hvtext
    | some u =>
      simp only [htext, Except.ok.injEq] at hvtext
      exact hvtext ▸ hbare.of_text htext
  unfold ErrorRecord.guess at hguess
  split at hguess
  · cases hguess
    simp
  split at hguess
  · simp only [bind_eq_ok, pure_eq_ok] at hguess
    obtain ⟨names, hnames, rfl⟩ := hguess
    exact hclosest hnames
  · simp only [bind_eq_ok, pure_eq_ok] at hguess
    obtain ⟨names, hnames, rfl⟩ := hguess
    exact hclosest hnames
  · cases hguess
  · cases hguess

theorem Bare.facts (h : r.Bare) {f : Facts} (hf : r.facts = .ok f) : f.Bare := by
  simp only [ErrorRecord.facts, bind_eq_ok, pure_eq_ok] at hf
  obtain ⟨guess, hguess, trail, htrail, values, hvalues, rfl⟩ := hf
  exact {
    code := r.cls.bare_code
    place := Trail.bare_place (h.get _) (h.get _) (by simp)
    trail := Trail.bare_places (h.get _) htrail
    construct := h.text _
    expression := h.text _
    values := bare_named (h.get _) hvalues
    suggestion := h.text _
    guess := h.guess hguess }

/-! ### Twins -/

/-- Two records are the same but for the message, which in the first one may be decorated, and for
    the subject, which stands for it; outside of a render they are the same altogether. -/
inductive Twin : ErrorRecord → ErrorRecord → Prop where
  | mk {r : ErrorRecord} {m n : String} {s t : Value} (hr : r.Bare) (hmessage : Decorates m n)
      (hset : s.isSet = t.isSet) (hsubject : Decorates s.plain t.plain)
      (houter : r.cls.isRuntime = false → m = n ∧ s = t) :
      Twin (r.withMessage m s) (r.withMessage n t)

/-- A record without the escape character is its own twin. -/
theorem Twin.self (h : r.Bare) (hmessage : Text.Bare r.message) (hsubject : r.subject.Bare) :
    Twin r r :=
  .mk (r := r) h (.of_bare hmessage) rfl (.of_bare hsubject.plain) fun _ => ⟨rfl, rfl⟩

theorem Twin.report (h : Twin r r') :
    Alike (fun s t => Decorates s t ∧ s.isEmpty = t.isEmpty) (r.report true) (r'.report false) := by
  obtain ⟨hr, hmessage, -, -, houter⟩ := h
  rename_i r m n s t
  cases hruntime : r.cls.isRuntime with
  | false =>
    have hreport (color : Bool) (m : String) (s : Value) :
        (r.withMessage m s).report color = .ok m := if_pos (by simp [withMessage, hruntime])
    obtain ⟨rfl, -⟩ := houter hruntime
    -- the message is only shown in the report, so the facts are those of both records
    rw [hreport, hreport]
    exact .ok ⟨hmessage, rfl⟩
  | true =>
    have hreport (color : Bool) (m : String) (s : Value) :
        (r.withMessage m s).report color = r.facts >>= fun f =>
          .ok (if r.cls = .undefinedName then (f.withMessage m).undefinedReport color
            else (f.withMessage m).report color) := by
      rw [ErrorRecord.report, facts_withMessage, if_neg (by simp [withMessage, hruntime])]
      cases r.facts <;> rfl
    rw [hreport, hreport]
    refine .same fun f hf => .ok ?_
    have hbare := hr.facts hf
    split
    · exact ⟨Facts.undefinedReport_decorates hbare hmessage, by
        rw [Facts.undefinedReport_isEmpty, Facts.undefinedReport_isEmpty]⟩
    · exact ⟨Facts.report_decorates hbare hmessage, by
        rw [Facts.report_isEmpty, Facts.report_isEmpty]⟩

theorem Twin.compact (h : Twin r r') :
    Alike Decorates (r.compact true) (r'.compact false) := by
  obtain ⟨hr, hmessage, -, -, houter⟩ := h
  rename_i r m n s t
  cases hruntime : r.cls.isRuntime with
  | false =>
    have hcompact (color : Bool) (m : String) (s : Value) :
        (r.withMessage m s).compact color = .ok (Report.withCode r.cls.code? m) :=
      if_neg (by simp [withMessage, hruntime])
    obtain ⟨rfl, -⟩ := houter hruntime
    rw [hcompact, hcompact]
    exact .ok (.of_bare (Report.bare_withCode r.cls hmessage.bare))
  | true =>
    have hcompact (color : Bool) (m : String) (s : Value) :
        (r.withMessage m s).compact color =
          r.facts >>= fun f => .ok ((f.withMessage m).compact color) := by
      rw [ErrorRecord.compact, facts_withMessage, if_pos (by simp [withMessage, hruntime])]
      cases r.facts <;> rfl
    rw [hcompact, hcompact]
    exact .same fun f hf => .ok (Facts.compact_decorates (hr.facts hf) hmessage)

theorem Twin.reason (h : Twin r r') : Alike Decorates (r.reason true) (r'.reason false) := by
  have hreport := h.report
  obtain ⟨hr, hmessage, hset, hsubject, houter⟩ := h
  rename_i r m n s t
  have hreason (color : Bool) (m : String) (s : Value) : (r.withMessage m s).reason color =
      if s.isSet then .ok s.plain else (r.withMessage m s).report color >>= fun u =>
        .ok (if u.isEmpty then r.cls.name else u) := by
    unfold ErrorRecord.reason
    cases hs : s.isSet with
    | true => simp [withMessage, hs]
    | false =>
      simp [withMessage, hs]
      rfl
  rw [hreason, hreason, hset]
  split
  · exact .ok hsubject
  · refine hreport.bind fun u v ⟨huv, hempty⟩ => .ok ?_
    rw [hempty]
    split
    · exact .of_bare (by cases r.cls <;> decide)
    · exact huv

/-! ### Relocation -/

/-- The record with a value in a field that is still empty. -/
def fill (r : ErrorRecord) (isEmpty : Value → Bool) (name : String) (v : Value) : ErrorRecord :=
  if isEmpty (r.get name) then r.set name v else r

theorem fill_withMessage (r : ErrorRecord) (m : String) (s : Value) (isEmpty : Value → Bool)
    (name : String) (v : Value) :
    (r.withMessage m s).fill isEmpty name v = (r.fill isEmpty name v).withMessage m s := by
  have hget : (r.withMessage m s).get name = r.get name := rfl
  rw [fill, fill, hget]
  split <;> rfl

theorem Bare.fill (h : r.Bare) (isEmpty : Value → Bool) (name : String) {v : Value} (hv : v.Bare) :
    (r.fill isEmpty name v).Bare := by
  unfold ErrorRecord.fill
  split
  · exact h.set hv name
  · exact h

theorem cls_fill (r : ErrorRecord) (isEmpty : Value → Bool) (name : String) (v : Value) :
    (r.fill isEmpty name v).cls = r.cls := by
  unfold fill
  split <;> rfl

/-- The fields of the place are filled in one after the other. -/
theorem relocate_eq (r : ErrorRecord) (template line trail : Value) :
    r.relocate template line trail =
      if !r.cls.isRuntime then .error .missingAttribute
      else
        let q :=
          (r.fill Value.isNull "template_name" template).fill (fun v => !v.isSet) "lineno" line
        if !trail.isSet || (q.get "template_stack").isSet then .ok q
        else match trail.members? with
          | some steps => .ok (q.set "template_stack" (.list steps))
          | none => .error .wrongType := by
  have hline (q : ErrorRecord) : (if (q.get "lineno").isSet then q else q.set "lineno" line) =
      q.fill (fun v => !v.isSet) "lineno" line := by
    cases h : (q.get "lineno").isSet <;> simp [fill, h]
  unfold relocate
  dsimp only
  rw [hline]
  cases r.cls.isRuntime <;> rfl

theorem relocate_withMessage (r : ErrorRecord) (m : String) (s template line trail : Value) :
    (r.withMessage m s).relocate template line trail =
      (r.relocate template line trail).map (·.withMessage m s) := by
  rw [relocate_eq, relocate_eq, fill_withMessage, fill_withMessage]
  generalize (r.fill Value.isNull "template_name" template).fill
    (fun v => !v.isSet) "lineno" line = q
  have hcls : (r.withMessage m s).cls = r.cls := rfl
  have hget : (q.withMessage m s).get "template_stack" = q.get "template_stack" := rfl
  simp only [hcls, hget]
  split
  · rfl
  split
  · rfl
  cases trail.members? <;> rfl

theorem Bare.relocate {q : ErrorRecord} {template line trail : Value} (h : r.Bare)
    (htemplate : template.Bare) (hline : line.Bare) (htrail : trail.Bare)
    (hq : r.relocate template line trail = .ok q) :
    q.Bare ∧ q.cls = r.cls ∧ r.cls.isRuntime = true := by
  have hnamed := h.fill Value.isNull "template_name" htemplate
  have hfilled := hnamed.fill (fun v => !v.isSet) "lineno" hline
  have hcls := (cls_fill (r.fill Value.isNull "template_name" template) (fun v => !v.isSet) "lineno"
    line).trans (cls_fill r _ _ _)
  rw [relocate_eq] at hq
  -- from here on only that the filled record is bare and of the same class matters
  generalize (r.fill Value.isNull "template_name" template).fill
    (fun v => !v.isSet) "lineno" line = p at hfilled hcls hq
  split at hq
  · cases hq
  rename_i hruntime
  have hruntime : r.cls.isRuntime = true := by simpa using hruntime
  dsimp only at hq
  split at hq
  · cases hq
    exact ⟨hfilled, hcls, hruntime⟩
  split at hq
  · rename_i steps hsteps
    cases hq
    exact ⟨hfilled.set (.list (htrail.members hsteps)) _, hcls, hruntime⟩
  · cases hq

theorem Twin.relocate {template line trail : Value} (h : Twin r r') (htemplate : template.Bare)
    (hline : line.Bare) (htrail : trail.Bare) :
    Alike Twin (r.relocate template line trail) (r'.relocate template line trail) := by
  obtain ⟨hr, hmessage, hset, hsubject, houter⟩ := h
  rename_i r m n s t
  rw [relocate_withMessage, relocate_withMessage]
  cases hq : r.relocate template line trail with
  | error e => exact .error e
  | ok q =>
    obtain ⟨hbare, hcls, hruntime⟩ := hr.relocate htemplate hline htrail hq
    exact .ok (.mk hbare hmessage hset hsubject fun h => by simp [hcls, hruntime] at h)

end ErrorRecord

/-! ### Errors of a render -/

namespace RuntimeError

/-- The texts that an error carries, but for the values that it shows, have no escape character. -/
structure Bare (e : RuntimeError) : Prop where
  message : Text.Bare e.message
  construct : ∀ s ∈ e.construct, Text.Bare s
  expression : ∀ s ∈ e.expression, Text.Bare s
  values : ∀ v ∈ e.values, Text.Bare v.1
  template : ∀ s ∈ e.template, Text.Bare s
  suggestion : ∀ s ∈ e.suggestion, Text.Bare s
  trail : ∀ step ∈ e.trail, ∀ s ∈ step.1, Text.Bare s
  visible : ∀ name visible, e.kind = .undefinedName name visible → ∀ s ∈ visible, Text.Bare s

variable {e : RuntimeError}

theorem Bare.locate (h : e.Bare) {template : Option String} {line : Option Int} {trail : List Step}
    (htemplate : ∀ s ∈ template, Text.Bare s) (htrail : ∀ step ∈ trail, ∀ s ∈ step.1, Text.Bare s) :
    (e.locate template line trail).Bare :=
  { h with
    template := by
      intro s hs
      unfold RuntimeError.locate at hs
      cases hown : e.template with
      | none => exact htemplate s (by simpa [hown] using hs)
      | some t => exact h.template s (by simpa [hown] using hs)
    trail := by
      unfold RuntimeError.locate
      dsimp only
      split
      · exact htrail
      · exact h.trail }

/-- An error that is moved to some places one after the other. -/
def moved (e : RuntimeError) (moves : List (Option String × Option Int × List Step)) :
    RuntimeError :=
  moves.foldl (fun e m => e.locate m.1 m.2.1 m.2.2) e

theorem Bare.moved {moves : List (Option String × Option Int × List Step)} (h : e.Bare)
    (hmoves : ∀ m ∈ moves, (∀ s ∈ m.1, Text.Bare s) ∧
      ∀ step ∈ m.2.2, ∀ s ∈ step.1, Text.Bare s) : (e.moved moves).Bare := by
  induction moves generalizing e with
  | nil => exact h
  | cons m moves ih =>
    obtain ⟨⟨htemplate, htrail⟩, hmoves⟩ := List.forall_mem_cons.1 hmoves
    exact ih (h.locate htemplate htrail) hmoves

theorem bare_getD {s : Option String} (h : ∀ t ∈ s, Text.Bare t) : Text.Bare (s.getD "") := by
  cases s with
  | none => decide
  | some t => exact h t rfl

theorem bare_lineText (line : Option Int) : ∀ s ∈ Report.lineText line, Text.Bare s := by
  intro s hs
  unfold Report.lineText at hs
  split at hs
  · cases hs
  · cases hs
    exact Text.bare_int _

theorem Bare.facts (h : e.Bare) : e.facts.Bare where
  code := e.errorClass.bare_code
  place := Report.bare_place (bare_getD h.template) (bare_lineText _) (by simp)
  trail := by
    intro p hp
    obtain ⟨step, hstep, rfl⟩ := List.mem_map.1 hp
    exact Report.bare_place (bare_getD (h.trail step hstep)) (bare_lineText _) (by simp)
  construct := bare_getD h.construct
  expression := bare_getD h.expression
  values := h.values
  suggestion := bare_getD h.suggestion
  guess := by
    intro s hs
    unfold RuntimeError.facts at hs
    dsimp only at hs
    split at hs
    · rename_i name visible hkind
      exact h.visible name visible hkind s (Text.mem_of_closest (Option.mem_filter_iff.1 hs).1)
    · cases hs

theorem Bare.report_decorates (h : e.Bare) : Decorates (e.report true) (e.report false) := by
  have hmessage := Decorates.of_bare h.message
  have hundefined := Facts.undefinedReport_decorates h.facts hmessage
  have hreport := Facts.report_decorates h.facts hmessage
  unfold RuntimeError.report
  split
  · exact hundefined
  · exact hreport

theorem Bare.compact_decorates (h : e.Bare) : Decorates (e.compact true) (e.compact false) := by
  have hcompact := Facts.compact_decorates h.facts (Decorates.of_bare h.message)
  exact hcompact

end RuntimeError

end Stencil
