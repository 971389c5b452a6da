import Stencil.Proofs.Decoration
import Stencil.Proofs.Simulation.Eval
import Stencil.Toolkit

/-! Colouring is nothing but decoration. A text in colours gives the text back once its escape
    sequences are dropped, whatever the text and the colours are. An error may show the reason of
    its cause, which is an error itself, made and moved with colours as well, so that the records
    made of the same arguments with and without colours are twins by induction on the chain of
    causes; hence whatever they tell is the same but for decoration. -/

namespace Stencil

open Text (Decorates)

namespace ErrorRecord

/-! ### Making records -/

/-- No text that is given for an argument has the escape character. -/
def BareCall (inv : Invocation) : Prop := (∀ v ∈ inv.args, v.Bare) ∧ ∀ a ∈ inv.named, a.2.Bare

variable {given : List (String × Value)}

theorem bare_bind {leading : List (String × Bool)} {others : List String} {inv : Invocation}
    (hinv : BareCall inv) (h : bind leading others inv = .ok given) : ∀ a ∈ given, a.2.Bare := by
  have hplaced : given = (leading.map Prod.fst).zip inv.args ++ inv.named := by
    unfold bind at h
    dsimp only at h
    split at h
    · cases h
    split at h
    · cases h
    split at h
    · cases h
    · cases h
      rfl
  rw [hplaced]
  intro a ha
  rcases List.mem_append.1 ha with ha | ha
  · exact hinv.1 a.2 (List.of_mem_zip ha).2
  · exact hinv.2 a ha

theorem bare_argument (hgiven : ∀ a ∈ given, a.2.Bare) (name : String) {default : Value}
    (hdefault : default.Bare) : (argument given name default).Bare := by
  unfold argument
  cases hlookup : given.lookup name with
  | none => exact hdefault
  | some v => exact bare_of_lookup hgiven hlookup

theorem bare_orElse {v default : Value} (hv : v.Bare) (hdefault : default.Bare) :
    (orElse v default).Bare := by
  unfold orElse
  split
  · exact hv
  · exact hdefault

theorem bare_entries_bind {es : List (Value × Value)} {key v : Value}
    (hes : ∀ e ∈ es, e.1.Bare ∧ e.2.Bare) (hkey : key.Bare) (hv : v.Bare) :
    ∀ e ∈ Value.bind es key v, e.1.Bare ∧ e.2.Bare := by
  refine Value.forall_mem_bind hes fun k hk => ⟨?_, hv⟩
  rcases hk with rfl | ⟨e, he, rfl⟩
  · exact hkey
  · exact (hes e he).1

theorem bare_without {names : List String} (hgiven : ∀ a ∈ given, a.2.Bare) :
    ∀ a ∈ without names given, a.2.Bare := fun a ha => hgiven a (List.mem_filter.1 ha).1

theorem bare_titled {kind : Value} (hkind : kind.Bare) {title : String}
    (h : titled kind = .ok title) : Text.Bare title := by
  cases hkind with
  | text hs | markup hs =>
    cases h
    exact Text.bare_titleFirst hs
  | bytes data =>
    cases h
    exact Value.bare_inspect _
  | _ => cases h

/-- The record of a runtime error before it is looked at whether it can be worded. -/
def draft (cls : ErrorClass) (own defaults given : List (String × Value)) : ErrorRecord :=
  let detail (name : String) : Value := argument given name (argument defaults name)
  { cls
    message := ""
    fields := own ++ details.map fun name =>
      match name with
      | "values" => (name, orElse (detail name) (.object []))
      | "template_stack" => (name, orElse (detail name) (.list []))
      | _ => (name, detail name) }

theorem bare_draft {cls : ErrorClass} {own defaults : List (String × Value)}
    (hown : ∀ a ∈ own, a.2.Bare) (hdefaults : ∀ a ∈ defaults, a.2.Bare)
    (hgiven : ∀ a ∈ given, a.2.Bare) : (draft cls own defaults given).Bare := by
  have hdetail (name : String) : (argument given name (argument defaults name)).Bare :=
    bare_argument hgiven name (bare_argument hdefaults name .null)
  refine ⟨fun f hf => ?_, .null⟩
  rcases List.mem_append.1 hf with hf | hf
  · exact hown f hf
  · obtain ⟨name, -, rfl⟩ := List.mem_map.1 hf
    split
    · exact bare_orElse (hdetail _) (.object (by simp) (by simp))
    · exact bare_orElse (hdetail _) (.list (by simp))
    · exact hdetail _

theorem runtime_eq (cls : ErrorClass) (s : Value) (own defaults given : List (String × Value)) :
    runtime cls s own defaults given = (draft cls own defaults given).facts >>= fun _ =>
      .ok ((draft cls own defaults given).withMessage s.plain s) := by
  have hruntime : runtime cls s own defaults given =
      ((draft cls own defaults given).withMessage s.plain s).facts >>= fun _ =>
        .ok ((draft cls own defaults given).withMessage s.plain s) := rfl
  rw [hruntime, facts_withMessage]
  cases (draft cls own defaults given).facts <;> rfl

/-- Runtime errors of the same arguments are twins, whose messages may be decorated. -/
theorem runtime_alike {cls : ErrorClass} {s t : Value} {own defaults : List (String × Value)}
    (hruntime : cls.isRuntime = true) (hset : s.isSet = t.isSet)
    (hsubject : Decorates s.plain t.plain)
    (hown : ∀ a ∈ own, a.2.Bare) (hdefaults : ∀ a ∈ defaults, a.2.Bare)
    (hgiven : ∀ a ∈ given, a.2.Bare) :
    Alike Twin (runtime cls s own defaults given) (runtime cls t own defaults given) := by
  rw [runtime_eq, runtime_eq]
  refine .same fun _ _ => .ok (.mk (bare_draft hown hdefaults hgiven) hsubject hset hsubject ?_)
  intro houter
  cases hruntime.symm.trans houter

/-- An error outside of a render is its own twin. -/
theorem plain_alike {cls : ErrorClass} {message : String} {fields : List (String × Value)}
    {subject : Value} (hmessage : Text.Bare message) (hfields : ∀ f ∈ fields, f.2.Bare)
    (hsubject : subject.Bare) :
    Alike Twin (plain cls message fields subject) (plain cls message fields subject) :=
  .ok (.self ⟨hfields, .null⟩ hmessage hsubject)

theorem bare_argumentText {args : List Value} (h : ∀ v ∈ args, v.Bare) :
    Text.Bare (argumentText args) := by
  unfold argumentText
  split
  · decide
  · exact (h _ (by simp)).plain
  · exact Value.bare_inspect _

/-- A runtime error of the same subject on both sides. -/
theorem runtime_self {cls : ErrorClass} {s : Value} {own defaults : List (String × Value)}
    (hruntime : cls.isRuntime = true) (hs : s.Bare) (hown : ∀ a ∈ own, a.2.Bare)
    (hdefaults : ∀ a ∈ defaults, a.2.Bare) (hgiven : ∀ a ∈ given, a.2.Bare) :
    Alike Twin (runtime cls s own defaults given) (runtime cls s own defaults given) :=
  runtime_alike hruntime rfl (.of_bare hs.plain) hown hdefaults hgiven

variable {inv : Invocation}

theorem capabilityNotFound_alike (hinv : BareCall inv) :
    Alike Twin (capabilityNotFound inv) (capabilityNotFound inv) := by
  refine .same fun given hgiven => .same fun title htitle => .same fun _ _ => ?_
  have hgiven := bare_bind hinv hgiven
  have hkind := bare_argument hgiven "kind" .null
  have hname := bare_argument hgiven "name" .null
  refine runtime_self rfl (.text ?_) (by simp [hkind, hname]) (by simp [hkind])
    (bare_without hgiven)
  simp +decide [bare_titled hkind htitle, hname.plain]

theorem macroArgument_alike (hinv : BareCall inv) :
    Alike Twin (macroArgument inv) (macroArgument inv) := by
  refine .same fun given hgiven => .same fun _ _ => ?_
  have hgiven := bare_bind hinv hgiven
  have hname := bare_argument hgiven "macro_name" .null
  have hcomplaint := bare_argument hgiven "message" .null
  refine runtime_self rfl (.text ?_) (by simp [hname]) ?_ (bare_without hgiven)
  · simp +decide [hname.plain, hcomplaint.plain]
  · simpa using Value.Bare.text (by decide)

theorem recursionLimit_alike (hinv : BareCall inv) :
    Alike Twin (recursionLimit inv) (recursionLimit inv) := by
  refine .same fun given hgiven => .same fun _ _ => ?_
  have hgiven := bare_bind hinv hgiven
  have hlimit := bare_argument hgiven "limit" .null
  have htarget := bare_argument hgiven "target" .null
  have hconstruct := bare_argument hgiven "construct" (.text (by decide : Text.Bare "macro"))
  refine runtime_self rfl (.text ?_) (by simp [hlimit, htarget]) ?_ (bare_without hgiven)
  · simp +decide [hlimit.plain, htarget.plain, hconstruct.plain]
  · simpa [hconstruct] using Value.Bare.text (by decide)

theorem ordering_alike (hinv : BareCall inv) : Alike Twin (ordering inv) (ordering inv) := by
  refine .same fun given hgiven => .same fun _ _ => ?_
  have hgiven := bare_bind hinv hgiven
  have hpath := bare_argument hgiven "attribute" .null
  refine runtime_self rfl (bare_argument hgiven "message" .null) (by simp [hpath]) ?_
    (bare_without hgiven)
  simp only [List.mem_cons, List.not_mem_nil, or_false, forall_eq_or_imp, forall_eq]
  refine ⟨.text (by decide), ?_⟩
  split
  · exact hpath
  · exact .null

theorem simple_alike {cls : ErrorClass} (hruntime : cls.isRuntime = true) (hinv : BareCall inv) :
    Alike Twin (simple cls inv) (simple cls inv) := by
  refine .same fun given hgiven => ?_
  have hgiven := bare_bind hinv hgiven
  exact runtime_self hruntime (bare_argument hgiven "message" .null) (by simp) (by simp)
    (bare_without hgiven)

theorem bare_texts : ∀ {vs : List Value} {names : List String}, (∀ v ∈ vs, v.Bare) →
    vs.mapM Value.text? = some names → ∀ s ∈ names, Text.Bare s
  | [], names, _, h => by
    rw [List.mapM_nil] at h
    cases h
    simp
  | v :: vs, names, hvs, h => by
    rw [List.forall_mem_cons] at hvs
    simp only [List.mapM_cons, Option.bind_eq_bind, Option.bind_eq_some_iff, Option.pure_def,
      Option.some.injEq] at h
    obtain ⟨s, hs, rest, hrest, rfl⟩ := h
    exact List.forall_mem_cons.2 ⟨hvs.1.of_text hs, bare_texts hvs.2 hrest⟩

theorem circular_alike (hinv : BareCall inv) : Alike Twin (circular inv) (circular inv) := by
  refine .same fun given hgiven => ?_
  have hgiven := bare_bind hinv hgiven
  have hname := bare_argument hgiven "template_name" .null
  have hcycle := bare_argument hgiven "cycle" .null
  dsimp only
  split
  · exact .error _
  rename_i cycle hmembers
  have hall := hcycle.members hmembers
  split
  · exact .error _
  rename_i names hnames
  have htrail : Text.Bare (Text.joinTexts " -> " names) :=
    Text.bare_joinTexts (by decide) (bare_texts (List.forall_mem_cons.2 ⟨hname, hall⟩) hnames)
  refine plain_alike ?_ ?_ .undefined
  · simp +decide [hname.plain, htrail]
  · simpa [hname] using Value.Bare.tuple hall

/-- A record that was changed is looked at again whether it can be worded. -/
theorem Twin.checked (h : Twin r r') :
    Alike Twin (r.facts >>= fun _ => .ok r) (r'.facts >>= fun _ => .ok r') := by
  obtain ⟨hr, hmessage, hset, hsubject, houter⟩ := h
  rename_i r m n s t
  rw [facts_withMessage, facts_withMessage]
  cases r.facts with
  | error e => exact .error e
  | ok f => exact .ok (.mk hr hmessage hset hsubject houter)

/-- The visible names and the trail are put into a record that is made already. -/
theorem Twin.withScope (h : Twin r r') {visible trail : Value} (hvisible : visible.Bare)
    (htrail : trail.Bare) :
    Twin ({ r with visible }.set "template_stack" trail)
      ({ r' with visible }.set "template_stack" trail) := by
  obtain ⟨hr, hmessage, hset, hsubject, houter⟩ := h
  rename_i r m n s t
  have hbare : ({ r with visible } : ErrorRecord).Bare := ⟨hr.fields, hvisible⟩
  exact .mk (hbare.set htrail "template_stack") hmessage hset hsubject houter

theorem undefinedName_alike (hinv : BareCall inv) :
    Alike Twin (undefinedName inv) (undefinedName inv) := by
  refine .same fun given hgiven => ?_
  have hgiven := bare_bind hinv hgiven
  have hname := bare_argument hgiven "name" .null
  dsimp only
  refine (runtime_self rfl (.text ?_) (by simp [hname]) ?_ (by simp)).bind fun r r' htwin => ?_
  · simp +decide [hname.plain]
  · have hconstruct : (Value.text "variable").Bare := .text (by decide)
    have htemplate := bare_argument hgiven "template" .null
    have hline := bare_argument hgiven "lineno" .null
    have hadvice : Value.Bare (.text ("Use \x7b\x7b " ++ (argument given "name").plain ++
        " | default(value='') \x7d\x7d for optional variables")) :=
      .text (Text.bare_append.2 ⟨Text.bare_append.2 ⟨by decide, hname.plain⟩, by decide⟩)
    simp [hname, hconstruct, htemplate, hline, hadvice]
  · have htrail : (orElse (argument given "template_stack") (.list [])).Bare :=
      bare_orElse (bare_argument hgiven "template_stack" .null) (.list (by simp))
    exact (htwin.withScope (bare_argument hgiven "available_names" .null) htrail).checked

theorem bare_foldl_bind {named es : List (Value × Value)}
    (hnamed : ∀ e ∈ named, e.1.Bare ∧ e.2.Bare) (hes : ∀ e ∈ es, e.1.Bare ∧ e.2.Bare) :
    ∀ e ∈ named.foldl (fun es e => Value.bind es e.1 e.2) es, e.1.Bare ∧ e.2.Bare := by
  induction named generalizing es with
  | nil => exact hes
  | cons e rest ih =>
    obtain ⟨⟨hkey, hvalue⟩, hrest⟩ := List.forall_mem_cons.1 hnamed
    exact ih hrest (bare_entries_bind hes hkey hvalue)

/-- The values of a failed call are those that it was given. -/
theorem bare_callValues {args : List Value} {named : List (Value × Value)}
    (hargs : ∀ v ∈ args, v.Bare) (hnamed : ∀ e ∈ named, e.1.Bare ∧ e.2.Bare) :
    (callValues args named).Bare := by
  have hpositional : ∀ e ∈ args.zipIdx.map fun p => (Value.text s!"arg{p.2}", p.1),
      e.1.Bare ∧ e.2.Bare := by
    intro e he
    obtain ⟨p, hp, rfl⟩ := List.mem_map.1 he
    refine ⟨.text ?_, hargs p.1 (List.fst_mem_of_mem_zipIdx hp)⟩
    exact Text.bare_append.2 ⟨by decide, Text.bare_nat p.2⟩
  have hall := bare_foldl_bind hnamed hpositional
  exact .object (fun e he => (hall e he).1) fun e he => (hall e he).2

theorem bare_entriesOf {v : Value} (hv : v.Bare) {es : List (Value × Value)}
    (h : entriesOf v = .ok es) : ∀ e ∈ es, e.1.Bare ∧ e.2.Bare := by
  unfold entriesOf at h
  split at h
  · cases h
    simp
  split at h
  · cases h
    cases hv with
    | object hk hv => exact fun e he => ⟨hk e he, hv e he⟩
  split at h
  · cases h
  rename_i items hitems
  -- the entries collected so far are bare: the invariant of the fold over the pairs
  refine of_foldlM_eq_ok (P := fun es => ∀ e ∈ es, e.1.Bare ∧ e.2.Bare) ?_ (by simp) h
  intro item hitem es es' hes hstep
  simp only [bind_eq_ok] at hstep
  obtain ⟨⟨k, w⟩, hpair, hstep⟩ := hstep
  have hall := (hv.members hitems item hitem).members (Trail.members_of_pair hpair)
  split at hstep
  · cases hstep
    exact bare_entries_bind hes (hall k (by simp)) (hall w (by simp))
  · cases hstep

/-- The reason of a failed capability is the one text of a message that may be decorated. -/
theorem capabilityFailed_alike {reason reason' : Value → Except Failure String}
    (hreason : ∀ v, Alike Decorates (reason v) (reason' v)) (hinv : BareCall inv) :
    Alike Twin (capabilityFailed reason inv) (capabilityFailed reason' inv) := by
  refine .same fun given hgiven => (hreason _).bind fun cause cause' hcause => ?_
  have hgiven := bare_bind hinv hgiven
  have hkind := bare_argument hgiven "kind" .null
  have hname := bare_argument hgiven "name" .null
  have hcall : (argument given "call_args" (.tuple [])).Bare :=
    bare_argument hgiven _ (.tuple (by simp))
  dsimp only
  cases hmembers : (argument given "call_args" (.tuple [])).members? with
  | none => exact .error _
  | some args =>
  refine .same fun _ hsame => .same fun named hnamed => ?_
  refine .same fun title htitle => .same fun _ _ => ?_
  cases hsame
  have htitle := bare_titled hkind htitle
  have hargs := hcall.members hmembers
  have hnamed := bare_entriesOf (bare_argument hgiven "call_kwargs" .null) hnamed
  have hfront {shown : String} (h : Text.Bare shown) :
      Text.Bare s!"{title} '{shown}' failed: " := by
    simp +decide [htitle, h]
  have hset (shown cause : String) :
      (Value.text s!"{title} '{shown}' failed: {cause}").isSet = true := by
    simp +decide [Value.isSet, Value.isTruthy]
  have hown : ((Value.tuple args).Bare ∧ (Value.object named).Bare) :=
    ⟨.tuple hargs, .object (fun e he => (hnamed e he).1) fun e he => (hnamed e he).2⟩
  refine runtime_alike rfl ((hset _ cause).trans (hset _ cause').symm)
    ((Decorates.of_bare (hfront hname.plain)).append hcause) ?_ ?_ (bare_without hgiven)
  · simp [hkind, hname, hown]
  · simp [hkind, bare_callValues hargs hnamed]

/-- Records that are made of the same arguments are twins, if the reasons that they show are. -/
theorem make_alike {reason reason' : Value → Except Failure String} (cls : ErrorClass)
    (hreason : ∀ v, Alike Decorates (reason v) (reason' v)) (hinv : BareCall inv) :
    Alike Twin (make reason cls inv) (make reason' cls inv) := by
  cases cls with
  | general =>
    unfold make
    dsimp only
    split
    · exact plain_alike (bare_argumentText hinv.1) (by simp) .undefined
    · exact .error _
  | notFound =>
    refine .same fun given hgiven => ?_
    have hgiven := bare_bind hinv hgiven
    have hname := bare_argument hgiven "name" .null
    have hmessage := bare_argument hgiven "message" .null
    refine plain_alike ?_ (by simp [hname]) .undefined
    split
    · exact hmessage.plain
    · simp +decide [hname.plain]
  | syntaxError =>
    refine .same fun given hgiven => ?_
    have hgiven := bare_bind hinv hgiven
    have hmessage := bare_argument hgiven "message" .null
    have hline := bare_argument hgiven "lineno" .null
    have hname := bare_argument hgiven "name" .null
    have hcolumn := bare_argument hgiven "col_offset" .null
    have hplace : Text.Bare (Trail.place (argument given "name") (argument given "lineno")
        (if (argument given "col_offset").isNull then none
          else some (argument given "col_offset").plain)) := by
      refine Trail.bare_place hname hline fun s hs => ?_
      split at hs
      · cases hs
      · cases hs
        exact hcolumn.plain
    refine plain_alike ?_ (by simp [hline, hname, hcolumn]) hmessage
    simp +decide [hmessage.plain, hplace]
  | construction =>
    refine .same fun given hgiven => ?_
    have hgiven := bare_bind hinv hgiven
    have hmessage := bare_argument hgiven "message" .null
    exact plain_alike hmessage.plain (by simp [bare_argument hgiven "template_name" .null]) hmessage
  | missingParent =>
    refine .same fun given hgiven => ?_
    have hgiven := bare_bind hinv hgiven
    have hname := bare_argument hgiven "template_name" .null
    have hparent := bare_argument hgiven "parent" .null
    refine plain_alike ?_ (by simp [hname, hparent]) .undefined
    simp +decide [hname.plain, hparent.plain]
  | circular => exact circular_alike hinv
  | missingImport =>
    refine .same fun given hgiven => ?_
    have hgiven := bare_bind hinv hgiven
    have hname := bare_argument hgiven "template_name" .null
    have hfile := bare_argument hgiven "macro_file" .null
    refine plain_alike ?_ (by simp [hname, hfile]) .undefined
    simp +decide [hname.plain, hfile.plain]
  | runtime | typeMismatch | outputEncoding => exact simple_alike rfl hinv
  | undefinedName => exact undefinedName_alike hinv
  | capabilityNotFound => exact capabilityNotFound_alike hinv
  | capabilityFailed => exact capabilityFailed_alike hreason hinv
  | macroArgument => exact macroArgument_alike hinv
  | recursionLimit => exact recursionLimit_alike hinv
  | ordering => exact ordering_alike hinv

/-! ### Causes -/

/-- Where an error is moved to: a template, a line and a trail. -/
abbrev Move := Value × Value × Value

/-- The record that a class makes of some arguments, moved to some places one after the other. -/
def built (reason : Except Failure String) (cls : ErrorClass) (inv : Invocation)
    (moves : List Move) : Except Failure ErrorRecord := do
  moves.foldlM (fun r m => r.relocate m.1 m.2.1 m.2.2) (← make (fun _ => reason) cls inv)

/-- What a capability failed with: an exception of the host, or an error made by hand and moved. -/
inductive Cause where
  | host (className text : String)
  | made (cls : ErrorClass) (inv : Invocation) (moves : List Move) (cause : Cause)

/-- The reason that a failed capability shows, which an error tells with colours or without. -/
def Cause.reason (color : Bool) : Cause → Except Failure String
  | .host className text => .ok (if text.isEmpty then className else text)
  | .made cls inv moves cause => do (← built (cause.reason color) cls inv moves).reason color

/-- No text of a place has the escape character. -/
def BareMoves (moves : List Move) : Prop := ∀ m ∈ moves, m.1.Bare ∧ m.2.1.Bare ∧ m.2.2.Bare

/-- No text that a cause is made of has the escape character. -/
inductive Cause.Bare : Cause → Prop where
  | host {className text : String} (hclass : Text.Bare className) (htext : Text.Bare text) :
      Cause.Bare (.host className text)
  | made {cls : ErrorClass} {inv : Invocation} {moves : List Move} {cause : Cause}
      (hinv : BareCall inv) (hmoves : BareMoves moves) (hcause : cause.Bare) :
      Cause.Bare (.made cls inv moves cause)

variable {moves : List Move}

theorem moved_alike (hmoves : BareMoves moves) {r r' : ErrorRecord} (h : Twin r r') :
    Alike Twin (moves.foldlM (fun r m => r.relocate m.1 m.2.1 m.2.2) r)
      (moves.foldlM (fun r m => r.relocate m.1 m.2.1 m.2.2) r') := by
  induction moves generalizing r r' with
  | nil => exact .ok h
  | cons m moves ih =>
    obtain ⟨⟨htemplate, hline, htrail⟩, hmoves⟩ := List.forall_mem_cons.1 hmoves
    rw [List.foldlM_cons, List.foldlM_cons]
    exact (h.relocate htemplate hline htrail).bind fun _ _ h => ih hmoves h

theorem built_alike {reason reason' : Except Failure String}
    (hreason : Alike Decorates reason reason') (cls : ErrorClass) (hinv : BareCall inv)
    (hmoves : BareMoves moves) :
    Alike Twin (built reason cls inv moves) (built reason' cls inv moves) :=
  (make_alike cls (fun _ => hreason) hinv).bind fun _ _ h => moved_alike hmoves h

theorem Cause.Bare.reason_alike {cause : Cause} (h : cause.Bare) :
    Alike Decorates (cause.reason true) (cause.reason false) := by
  induction h with
  | host hclass htext =>
    refine .ok (.of_bare ?_)
    split
    · exact hclass
    · exact htext
  | made hinv hmoves hcause ih =>
    exact (built_alike ih _ hinv hmoves).bind fun _ _ h => h.reason

end ErrorRecord

/-! ### Coloured texts -/

namespace Toolkit

/-- What the function of a name answers to some arguments, if there is one. -/
def answer (color : Bool) (name : String) (args : List Value) : Option (Except Halt Value) :=
  (find? color name).map fun run => run { args }

/-- The function of a name answers a text that, stripped of its colours, is some other one so
    stripped. -/
def Paints (color : Bool) (name : String) (args : List Value) (s : String) : Prop :=
  ∃ t, answer color name args = some (.ok (.text t)) ∧
    answer color "strip_colors" [.text t] = answer color "strip_colors" [.text s]

theorem answer_strip (color : Bool) (s : String) :
    answer color "strip_colors" [.text s] = some (.ok (.text (Text.stripColors s))) := rfl

theorem paint_text (color : Bool) (colors : List String) (s : String) :
    paint color colors (.text s) = .ok (.text (Text.colorize color s colors)) := by
  unfold paint
  cases color with
  | false => rfl
  | true =>
    cases hcodes : colors.filterMap Text.colorCode? with
    | nil => simp [Text.colorize, hcodes]
    | cons code codes => rfl

/-- A function that answers a text in some colours paints it. -/
theorem paints_of_answer {color : Bool} {name : String} {args : List Value} {s : String}
    {colors : List String}
    (h : answer color name args = some (.ok (.text (Text.colorize color s colors)))) :
    Paints color name args s := by
  refine ⟨_, h, ?_⟩
  rw [answer_strip, answer_strip, Text.stripColors_colorize]

theorem paints_colorize (color : Bool) (s : String) (colors : List String) :
    Paints color "colorize" (.text s :: colors.map .text) s := by
  have hkeys : (colors.map Value.text).all Value.isKey = true := by simp [Value.isKey]
  have htexts : (colors.map Value.text).filterMap Value.text? = colors := by
    simp [List.filterMap_map, Function.comp_def, Value.text?]
  apply paints_of_answer
  have hanswer : answer color "colorize" (.text s :: colors.map .text) =
      some (colorize color { args := .text s :: colors.map .text }) := rfl
  rw [hanswer, colorize]
  simp only [hkeys, htexts, Bool.not_true, Bool.and_false, Bool.false_eq_true, if_false]
  rw [paint_text]
  rfl

theorem paints_styled (color : Bool) (role s : String) :
    Paints color "styled" [.text role, .text s] s := by
  apply paints_of_answer
  have hanswer : answer color "styled" [.text role, .text s] =
      some (Capability.lift (paint color (Text.roleColors role) (.text s))) := rfl
  rw [hanswer, paint_text]
  rfl

/-- The functions that paint a text in the colours of a role, by their names. -/
def painters : List String := ["error_code", "location", "hint", "suggestion", "dim_text"]

theorem paints_role (color : Bool) (s : String) :
    ∀ name ∈ painters, Paints color name [.text s] s := by
  have hanswer (role : String) :
      Capability.unary (required "text") (paint color (Text.roleColors role))
        { args := [.text s] } = .ok (.text (Text.styled color role s)) := by
    have hcall : Capability.unary (required "text") (paint color (Text.roleColors role))
        { args := [.text s] } =
          Capability.lift (paint color (Text.roleColors role) (.text s)) := rfl
    rw [hcall, paint_text]
    rfl
  simp only [painters, List.forall_mem_cons, List.not_mem_nil, false_imp_iff, implies_true,
    and_true]
  exact ⟨paints_of_answer (congrArg some (hanswer "error_code")),
    paints_of_answer (congrArg some (hanswer "location")),
    paints_of_answer (congrArg some (hanswer "hint")),
    paints_of_answer (congrArg some (hanswer "suggestion")),
    paints_of_answer (congrArg some (hanswer "dim"))⟩

end Toolkit

namespace ErrorRecord

/-- Whatever is told of an error that is made of some arguments, moved and caused by some other. -/
def told (text : Bool → ErrorRecord → Except Failure String) (color : Bool) (cls : ErrorClass)
    (inv : Invocation) (moves : List Move) (cause : Cause) : Except Failure String := do
  text color (← built (cause.reason color) cls inv moves)

/-- **Colouring is pure decoration.** A text in any colours, or in those of a role, and the text as
    it is are the same once stripped, with colours on or off, whatever the text is: so it is for the
    functions of the host as well. For every class of errors, the report and the short text of an
    error made of texts without the escape character, whatever its cause and wherever it is moved
    to, are with colours and stripped what they are without; so it is for an error of a render. -/
theorem colouring_is_decoration :
    (∀ on s colors, Text.stripColors (Text.colorize on s colors) = Text.stripColors s) ∧
    (∀ on role s, Text.stripColors (Text.styled on role s) = Text.stripColors s) ∧
    (∀ on s (colors : List String), Toolkit.Paints on "colorize" (.text s :: colors.map .text) s) ∧
    (∀ on role s, Toolkit.Paints on "styled" [.text role, .text s] s) ∧
    (∀ on s, ∀ name ∈ Toolkit.painters, Toolkit.Paints on name [.text s] s) ∧
    (∀ cls inv moves cause, BareCall inv → BareMoves moves → cause.Bare →
      (told report true cls inv moves cause).map Text.stripColors =
          told report false cls inv moves cause ∧
        (told compact true cls inv moves cause).map Text.stripColors =
          told compact false cls inv moves cause) ∧
    (∀ (e : RuntimeError) (moves : List (Option String × Option Int × List Step)), e.Bare →
      (∀ m ∈ moves, (∀ s ∈ m.1, Text.Bare s) ∧ ∀ step ∈ m.2.2, ∀ s ∈ step.1, Text.Bare s) →
      Text.stripColors ((e.moved moves).report true) = (e.moved moves).report false ∧
        Text.stripColors ((e.moved moves).compact true) = (e.moved moves).compact false) := by
  refine ⟨Text.stripColors_colorize, fun on role s => Text.stripColors_colorize on s _,
    Toolkit.paints_colorize, Toolkit.paints_styled, Toolkit.paints_role, ?_, ?_⟩
  · intro cls inv moves cause hinv hmoves hcause
    have hbuilt := built_alike hcause.reason_alike cls hinv hmoves
    have hreport : Alike Decorates (told report true cls inv moves cause)
        (told report false cls inv moves cause) :=
      hbuilt.bind fun _ _ h => h.report.mono fun _ _ h => h.1
    have hcompact : Alike Decorates (told compact true cls inv moves cause)
        (told compact false cls inv moves cause) := hbuilt.bind fun _ _ h => h.compact
    exact ⟨hreport.strip_eq, hcompact.strip_eq⟩
  · intro e moves he hmoves
    have hmoved := he.moved hmoves
    exact ⟨hmoved.report_decorates.stripColors_eq, hmoved.compact_decorates.stripColors_eq⟩

/-- A hint that ends within an escape sequence, a filter that failed with an error without a
    message, so that it shows the coloured report of that error in its own, and a misspelt name. -/
theorem colouring_is_decoration_nested :
    let cause := Cause.made .runtime { args := [.text ""] } [(.text "row.html", .int 2, .null)]
      (.host "" "")
    let inv := { args := [.text "filter", .text "total", .null] }
    let moves := [(.text "page.html", .int 7, .list [.tuple [.text "base.html", .int 1]])]
    let misspelt :=
      (RuntimeError.undefinedName "totl" ["total"]).moved [(some "page.html", some 7, [])]
    Toolkit.Paints true "hint" [.text "see \x1b[3"] "see \x1b[3" ∧
      (BareCall inv ∧ BareMoves moves ∧ cause.Bare) ∧
      told report true .capabilityFailed inv moves cause = .ok
        ("Runtime Error: Filter 'total' failed: Runtime Error: \n" ++
          "  Location: \x1b[36mrow.html:2\x1b[0m\n" ++
          "  Location: \x1b[36mpage.html:7\x1b[0m\n\n" ++
          "\x1b[2mTemplate stack:\x1b[0m\n  • \x1b[36mbase.html:1\x1b[0m\n" ++
          "  Construct: filter") ∧
      (told report true .capabilityFailed inv moves cause).map Text.stripColors =
        told report false .capabilityFailed inv moves cause ∧
      misspelt.report true ≠ misspelt.report false ∧
      Text.stripColors (misspelt.report true) = misspelt.report false := by
  intro cause inv moves misspelt
  have hcall {args : List Value} (h : ∀ v ∈ args, v.Bare) : BareCall { args } := ⟨h, by simp⟩
  have hinv : BareCall inv := hcall (by simp +decide [Value.Bare.text, Value.Bare.null])
  have hcause : cause.Bare := by
    refine .made (hcall ?_) ?_ (.host (by decide) (by decide))
    · simp +decide [Value.Bare.text]
    · simp +decide [BareMoves, Value.Bare.text, Value.Bare.int, Value.Bare.null]
  have htrail : (Value.list [.tuple [.text "base.html", .int 1]]).Bare := by
    refine .list (List.forall_mem_singleton.2 (.tuple ?_))
    simp +decide [Value.Bare.text, Value.Bare.int]
  have hmoves : BareMoves moves := by
    simp +decide [BareMoves, moves, Value.Bare.text, Value.Bare.int, htrail]
  have hmisspelt : (RuntimeError.undefinedName "totl" ["total"]).Bare := by
    constructor
    case visible =>
      rintro _ _ ⟨⟩
      simp +decide
    all_goals simp +decide
  obtain ⟨-, -, -, -, hroles, hmade, hmet⟩ := colouring_is_decoration
  refine ⟨hroles true _ "hint" (by decide), ⟨hinv, hmoves, hcause⟩, by decide +kernel,
    (hmade .capabilityFailed inv moves cause hinv hmoves hcause).1, by decide +kernel,
    (hmet _ [(some "page.html", some 7, [])] hmisspelt ?_).1⟩
  simp +decide

end ErrorRecord

end Stencil
