import Stencil.Proofs.Keyed
import Stencil.Proofs.Membership
import Stencil.Proofs.Proper
import Stencil.Proofs.Table

/-! Contexts as maps. A context binds names to template values, in the order in which they came, and
    none of them twice. Each operation is said once by what it does to the names and to their
    lookups; that the values are normalised and the names distinct is an invariant of all
    histories, those with failures included. Host data is refused for something in it that no
    template value stands for, by its type unless an integer of too many digits has to be shown. -/

namespace Stencil

/-! ### Normalisation -/

namespace Value

variable {v : Value}

/-- Something in host data that no template value stands for, at any depth, with the objection to
    it. -/
inductive Offends : Misuse → Value → Prop where
  | undefined : Offends (.notAValue .undefined) .undefined
  | bytes {data} : Offends (.notAValue (.bytes data)) (.bytes data)
  | list {m x xs} (hx : x ∈ xs) (h : Offends m x) : Offends m (.list xs)
  | tuple {m x xs} (hx : x ∈ xs) (h : Offends m x) : Offends m (.tuple xs)
  | key {e es} (he : e ∈ es) (hkey : e.1.text? = none) : Offends (.objectKey e.1) (.object es)
  | value {m e es} (he : e ∈ es) (h : Offends m e.2) : Offends m (.object es)

/-- A result is had if there are no objections; otherwise it is refused for one of them. -/
def Checked (objections : Misuse → Prop) (result : Except Fault α) : Prop :=
  ((∀ m, ¬objections m) ∧ ∃ a, result = .ok a) ∨
  ∃ m, objections m ∧ result = .error (.ofMisuse m)

namespace Checked

variable {A B : Misuse → Prop}

theorem ok {a : α} (h : ∀ m, ¬A m) : Checked A (.ok a) := .inl ⟨h, a, rfl⟩

theorem error {m : Misuse} (h : A m) : Checked A (.error (.ofMisuse m) : Except Fault α) :=
  .inr ⟨m, h, rfl⟩

theorem congr {result : Except Fault α} (h : Checked A result) (hiff : ∀ m, A m ↔ B m) :
    Checked B result := by
  rwa [funext fun m => propext (hiff m)] at h

/-- What comes later is only looked at if there are no objections before. -/
theorem bind {result : Except Fault α} {next : α → Except Fault β} (h : Checked A result)
    (hnext : ∀ a, Checked B (next a)) : Checked (fun m => A m ∨ B m) (result >>= next) := by
  rcases h with ⟨hno, a, rfl⟩ | ⟨m, hm, rfl⟩
  · exact (hnext a).congr fun m => (or_iff_right (hno m)).symm
  · exact error (.inl hm)

theorem map {result : Except Fault α} (h : Checked A result) (f : α → β) :
    Checked A (result >>= fun a => pure (f a)) := by
  have hnext (a : α) : Checked (fun _ => False) (pure (f a) : Except Fault β) := ok fun _ => id
  exact (h.bind hnext).congr fun m => iff_of_eq (or_false _)

end Checked

mutual

/-- Data is normalised unless something in it offends. -/
theorem normalize_checked : ∀ v : Value, Checked (Offends · v) v.normalize
  | .null | .bool _ | .int _ | .float _ | .text _ | .markup _ => by
    rw [normalize]
    · exact .ok (by rintro m ⟨⟩)
    all_goals simp
  | .undefined => by
    rw [normalize]
    exact .inr ⟨_, .undefined, rfl⟩
  | .bytes _ => by
    rw [normalize]
    exact .inr ⟨_, .bytes, rfl⟩
  | .list xs => by
    rw [normalize]
    -- a list offends where an item does, so the message of the first bad item is passed on
    refine ((normalizeAll_checked xs).map _).congr fun m => ⟨fun ⟨x, hx, h⟩ => .list hx h, ?_⟩
    rintro (_ | _ | ⟨hx, h⟩)
    exact ⟨_, hx, h⟩
  | .tuple xs => by
    rw [normalize]
    refine ((normalizeAll_checked xs).map _).congr fun m => ⟨fun ⟨x, hx, h⟩ => .tuple hx h, ?_⟩
    rintro (_ | _ | _ | ⟨hx, h⟩)
    exact ⟨_, hx, h⟩
  | .object es => by
    rw [normalize]
    refine ((normalizeEntries_checked es).map _).congr fun m => ⟨?_, ?_⟩
    · rintro ⟨e, he, ⟨hkey, rfl⟩ | h⟩
      · exact .key he hkey
      · exact .value he h
    · rintro (_ | _ | _ | _ | ⟨he, hkey⟩ | ⟨he, h⟩)
      · exact ⟨_, he, .inl ⟨hkey, rfl⟩⟩
      · exact ⟨_, he, .inr h⟩

theorem normalizeAll_checked : ∀ xs : List Value,
    Checked (fun m => ∃ x ∈ xs, Offends m x) (normalizeAll xs)
  | [] => .ok (by simp)
  | x :: xs => by
    rw [normalizeAll]
    exact ((normalize_checked x).bind fun y => (normalizeAll_checked xs).map _).congr
      fun m => by simp only [List.mem_cons, exists_eq_or_imp]

theorem normalizeEntries_checked : ∀ es : List (Value × Value),
    Checked (fun m => ∃ e ∈ es, e.1.text? = none ∧ m = .objectKey e.1 ∨ Offends m e.2)
      (normalizeEntries es)
  | [] => .ok (by simp)
  | (k, v) :: rest => by
    rw [normalizeEntries]
    cases hk : k.text? with
    | none => exact .error ⟨_, List.mem_cons_self .., .inl ⟨hk, rfl⟩⟩
    | some s =>
      exact ((normalize_checked v).bind fun w => (normalizeEntries_checked rest).map _).congr
        fun m => by simp [hk]

end

theorem normalizeAll_of_normal : ∀ {xs : List Value}, (∀ x ∈ xs, x.normalize = .ok x) →
    normalizeAll xs = .ok xs
  | [], _ => rfl
  | x :: xs, h => by
    rw [List.forall_mem_cons] at h
    rw [normalizeAll, h.1, normalizeAll_of_normal h.2]
    rfl

theorem normalizeEntries_of_normal : ∀ {es : List (Value × Value)},
    (∀ e ∈ es, e.1.text?.isSome = true) → (∀ e ∈ es, e.2.normalize = .ok e.2) →
    normalizeEntries es = .ok es
  | [], _, _ => rfl
  | (k, v) :: rest, hkeys, h => by
    rw [List.forall_mem_cons] at hkeys h
    obtain ⟨s, hs⟩ := Option.isSome_iff_exists.1 hkeys.1
    have hv : v.normalize = .ok v := h.1
    rw [normalizeEntries, hs, hv, normalizeEntries_of_normal hkeys.2 h.2]
    rfl

/-- A template value is normalised already. -/
theorem Proper.normalize_eq (h : v.Proper) : v.normalize = .ok v := by
  induction h with
  | null | bool b | int n | float x | text s | markup s => simp [normalize]
  | list _ ih =>
    rw [normalize, normalizeAll_of_normal ih]
    rfl
  | object hkeys _ ih =>
    rw [normalize, normalizeEntries_of_normal hkeys ih]
    rfl

end Value

namespace Context

open Value (field hostEquals_text forall_mem_bind)
open Table (bindIn lookupIn)

variable {c d : Context} {key value : Value} {s : String} {es fs : List (Value × Value)}

/-! ### Names and what they are bound to -/

/-- The names that entries bind, with their values. -/
def bindingsIn (es : List (Value × Value)) : List (String × Value) :=
  es.filterMap fun e => e.1.text?.map fun name => (name, e.2)

theorem bindingsIn_cons {k v : Value} {rest : List (Value × Value)} (hk : k.text? = some s) :
    bindingsIn ((k, v) :: rest) = (s, v) :: bindingsIn rest := by
  simp [bindingsIn, hk]

theorem names_eq (c : Context) : c.names = (bindingsIn c.entries).map Prod.fst := by
  simp only [names, bindingsIn, List.map_filterMap]
  congr 1
  funext e
  cases e.1.text? <;> rfl

theorem lookup_eq (c : Context) (name : String) :
    c.lookup name = (lookupIn name (bindingsIn c.entries)).getD .undefined := by
  rw [lookup]
  induction c.entries with
  | nil => rfl
  | cons e rest ih =>
    obtain ⟨k, v⟩ := e
    rw [field]
    cases hk : k.text? with
    | none => simpa [bindingsIn, hk] using ih
    | some s =>
      rw [bindingsIn_cons hk, lookupIn]
      by_cases hs : s = name
      · simp [hs]
      · simpa [hs] using ih

/-- Binding a text binds its name. -/
theorem bindingsIn_bind (hes : ∀ e ∈ es, e.1.text?.isSome = true) (hkey : key.text? = some s)
    (value : Value) : bindingsIn (Value.bind es key value) = bindIn s value (bindingsIn es) := by
  induction es with
  | nil => simp [Value.bind, bindingsIn, bindIn, hkey]
  | cons e rest ih =>
    obtain ⟨k, v⟩ := e
    rw [List.forall_mem_cons] at hes
    obtain ⟨n, hn⟩ := Option.isSome_iff_exists.1 hes.1
    have hn : k.text? = some n := hn
    have heq : k.hostEquals key = true ↔ n = s := by
      rw [hostEquals_text (by rw [hn]; rfl) (by rw [hkey]; rfl), hn, hkey, Option.some.injEq]
    rw [Value.bind, bindingsIn_cons hn, bindIn]
    by_cases h : n = s
    · rw [if_pos (heq.2 h), if_pos h, bindingsIn_cons hn]
    · rw [if_neg (mt heq.1 h), if_neg h, bindingsIn_cons hn, ih hes.2]

/-- Entries that are taken over bind their names one by one. -/
theorem bindingsIn_foldl_bind : ∀ {fs es : List (Value × Value)},
    (∀ e ∈ es, e.1.text?.isSome = true) → (∀ e ∈ fs, e.1.text?.isSome = true) →
    bindingsIn (fs.foldl (fun es e => Value.bind es e.1 e.2) es) =
      (bindingsIn fs).foldl (fun bs b => bindIn b.1 b.2 bs) (bindingsIn es)
  | [], _, _, _ => rfl
  | (k, v) :: rest, es, hes, hfs => by
    rw [List.forall_mem_cons] at hfs
    obtain ⟨s, hs⟩ := Option.isSome_iff_exists.1 hfs.1
    have hs : k.text? = some s := hs
    have hbind : ∀ e ∈ Value.bind es k v, e.1.text?.isSome = true := by
      refine forall_mem_bind hes fun l hl => ?_
      rcases hl with rfl | ⟨e, he, rfl⟩
      · exact hfs.1
      · exact hes e he
    rw [List.foldl_cons, bindingsIn_foldl_bind hbind hfs.2, bindingsIn_bind hes hs,
      bindingsIn_cons hs, List.foldl_cons]

/-- Entries without a name bind the other names. -/
theorem bindingsIn_filter (hes : ∀ e ∈ es, e.1.text?.isSome = true) (hkey : key.text? = some s) :
    bindingsIn (es.filter fun e => !e.1.hostEquals key) =
      (bindingsIn es).filter fun b => b.1 ≠ s := by
  induction es with
  | nil => rfl
  | cons e rest ih =>
    obtain ⟨k, v⟩ := e
    rw [List.forall_mem_cons] at hes
    obtain ⟨n, hn⟩ := Option.isSome_iff_exists.1 hes.1
    have hn : k.text? = some n := hn
    have heq : k.hostEquals key = decide (n = s) := by
      rw [Bool.eq_iff_iff, decide_eq_true_iff, hostEquals_text (by rw [hn]; rfl)
        (by rw [hkey]; rfl), hn, hkey, Option.some.injEq]
    rw [bindingsIn_cons hn, List.filter_cons, List.filter_cons, heq]
    by_cases h : n = s
    · simpa [h] using ih hes.2
    · simpa [h, bindingsIn_cons hn] using ih hes.2

end Context

namespace Table

variable {α : Type}

/-- A name that is bound anew keeps its place, and a new one goes to the end. -/
theorem names_bindIn (s : String) (v : α) (bs : List (String × α)) :
    (bindIn s v bs).map Prod.fst =
      if s ∈ bs.map Prod.fst then bs.map Prod.fst else bs.map Prod.fst ++ [s] := by
  induction bs with
  | nil => rfl
  | cons b rest ih =>
    rw [bindIn]
    by_cases h : b.1 = s
    · simp [h]
    · have hne : ¬s = b.1 := fun h' => h h'.symm
      rw [if_neg h, List.map_cons, List.map_cons, ih]
      by_cases hmem : s ∈ rest.map Prod.fst <;> simp [hmem, hne]

/-- The names of a union are those of the first map, and behind them those that it does not have. -/
theorem names_union (t other : Table α) :
    (t.union other).names = t.names ++ other.names.filter (· ∉ t.names) := by
  have hfold : ∀ (es : List (String × α)) (t : Table α), (es.map Prod.fst).Nodup →
      (es.foldl (fun t b => t.insert b.1 b.2) t).names =
        t.names ++ (es.map Prod.fst).filter (· ∉ t.names) := by
    intro es
    induction es with
    | nil => simp
    | cons e rest ih =>
      intro t hd
      rw [List.map_cons, List.nodup_cons] at hd
      have hinsert : (t.insert e.1 e.2).names =
          if e.1 ∈ t.names then t.names else t.names ++ [e.1] := names_bindIn e.1 e.2 t.entries
      rw [List.foldl_cons, ih _ hd.2, hinsert, List.map_cons, List.filter_cons]
      by_cases hmem : e.1 ∈ t.names
      · simp [hmem]
      · -- the new name is none of the later ones
        have hrest : (rest.map Prod.fst).filter (· ∉ t.names ++ [e.1]) =
            (rest.map Prod.fst).filter (· ∉ t.names) := by
          refine List.filter_congr fun n hn => ?_
          have hne : n ≠ e.1 := fun h => hd.1 (h ▸ hn)
          simp [hne]
        simp only [hmem, if_false, not_false_eq_true, decide_true, if_true, hrest,
          List.append_assoc, List.singleton_append]
  exact hfold other.entries t other.distinct

end Table

namespace Context

open Value (field hostEquals_text Offends)
open Table (bindIn lookupIn)

variable {c d : Context} {key value : Value} {s : String} {es : List (Value × Value)}

/-! ### Contexts and tables -/

/-- The bindings of a context are an ordered map of template values. -/
structure Ordered (c : Context) : Prop where
  proper : c.root.Proper
  distinct : c.names.Nodup

/-- The map of a context. -/
def table (c : Context) (h : Ordered c) : Table Value :=
  ⟨bindingsIn c.entries, names_eq c ▸ h.distinct⟩

/-- The bindings of a context are those of a table. -/
def Holds (c : Context) (t : Table Value) : Prop := bindingsIn c.entries = t.entries

theorem holds_table (h : Ordered c) : Holds c (c.table h) := rfl

namespace Holds

variable {t : Table Value}

theorem names (h : Holds c t) : c.names = t.names := by
  rw [names_eq, h]
  rfl

theorem lookup (h : Holds c t) (name : String) :
    c.lookup name = (t.get? name).getD .undefined := by
  rw [lookup_eq, h]
  rfl

theorem ordered (h : Holds c t) (hproper : c.root.Proper) : Ordered c :=
  ⟨hproper, h.names ▸ t.distinct⟩

end Holds

/-- A name that is bound has something to look up. -/
theorem get?_eq_none_iff (h : Ordered c) (name : String) :
    (c.table h).get? name = none ↔ name ∉ c.names := by
  have hcontains : (c.table h).contains name = false ↔ name ∉ (c.table h).names :=
    Table.contains_eq_false_iff
  rw [(holds_table h).names, ← hcontains, Table.contains, ← Option.isNone_iff_eq_none]
  simp

/-! ### What an operation does -/

/-- The context with a name bound to a template value. -/
def bound (c : Context) (key v : Value) : Context := ⟨Value.bind c.entries key v⟩

theorem insert_of_normalize (hkey : key.text? = some s) {v : Value} (hv : value.normalize = .ok v) :
    c.insert key value = .ok (c.bound key v) := by
  rw [insert, hkey]
  simp only [hv]
  rfl

theorem holds_bound (h : Ordered c) (hkey : key.text? = some s) (v : Value) :
    Holds (c.bound key v) ((c.table h).insert s v) :=
  bindingsIn_bind h.proper.keys hkey v

theorem holds_extend (hc : Ordered c) (hd : Ordered d) :
    Holds (c.extend d) ((c.table hc).union (d.table hd)) := by
  have hfold : ∀ (bs : List (String × Value)) (t : Table Value),
      bs.foldl (fun bs b => bindIn b.1 b.2 bs) t.entries =
        (bs.foldl (fun t b => t.insert b.1 b.2) t).entries :=
    fun _ _ => List.foldl_hom Table.entries fun _ _ => rfl
  exact (bindingsIn_foldl_bind hc.proper.keys hd.proper.keys).trans (hfold _ (c.table hc))

/-- A lookup finds the first entry of the name. -/
theorem field_eq_find? (hes : ∀ e ∈ es, e.1.text?.isSome = true) (hkey : key.text? = some s) :
    field es s = ((es.find? fun e => e.1.hostEquals key).map Prod.snd).getD .undefined := by
  induction es with
  | nil => rfl
  | cons e rest ih =>
    obtain ⟨k, v⟩ := e
    rw [List.forall_mem_cons] at hes
    have heq : k.hostEquals key = (k.text? == some s) := by
      rw [Bool.eq_iff_iff, beq_iff_eq, ← hkey, hostEquals_text hes.1 (by rw [hkey]; rfl)]
    rw [field, List.find?_cons, heq]
    cases k.text? == some s with
    | true => rfl
    | false => exact ih hes.2

/-- A text removes the entry of its name. -/
theorem remove_of_text (h : Ordered c) (hkey : key.text? = some s) :
    c.remove key = .ok (c.lookup s, ⟨c.entries.filter fun e => !e.1.hostEquals key⟩) := by
  have hisKey : key.isKey = true := by cases key <;> cases hkey <;> rfl
  rw [remove, lookup, field_eq_find? h.proper.keys hkey, hisKey]
  obtain ⟨es⟩ := c
  cases hempty : es.isEmpty with
  | true =>
    rw [List.isEmpty_iff] at hempty
    subst hempty
    rfl
  | false =>
    cases hfind : es.find? fun e => e.1.hostEquals key with
    | some e => rfl
    | none =>
      rw [List.find?_eq_none] at hfind
      have hall : es.filter (fun e => !e.1.hostEquals key) = es :=
        List.filter_eq_self.2 fun e he => by simpa using hfind e he
      rw [hall]
      rfl

/-- Something that is no text removes nothing. -/
theorem remove_of_not_text (h : Ordered c) (hkey : key.text? = none) :
    c.remove key = .ok (.undefined, c) ∨ c.remove key = .error .wrongType := by
  have hne : ∀ k : Value, k.text?.isSome = true → k.hostEquals key = false := by
    intro k hk
    cases k <;> cases hk <;> cases key <;> cases hkey <;> rfl
  have hnone : (c.entries.find? fun e => e.1.hostEquals key) = none :=
    List.find?_eq_none.2 fun e he => by simp [hne e.1 (h.proper.keys e he)]
  rw [remove, hnone]
  split
  · exact .inl rfl
  split
  · exact .inr rfl
  · exact .inl rfl

theorem names_remove (h : Ordered c) (hkey : key.text? = some s) :
    (Context.mk (c.entries.filter fun e => !e.1.hostEquals key)).names =
      c.names.filter (· ≠ s) := by
  rw [names_eq, names_eq, bindingsIn_filter h.proper.keys hkey, List.filter_map]
  rfl

theorem lookup_remove (h : Ordered c) (hkey : key.text? = some s) (name : String) :
    (Context.mk (c.entries.filter fun e => !e.1.hostEquals key)).lookup name =
      if name = s then .undefined else c.lookup name := by
  rw [lookup_eq, lookup_eq, bindingsIn_filter h.proper.keys hkey]
  generalize bindingsIn c.entries = bs
  induction bs with
  | nil => simp [lookupIn]
  | cons b rest ih =>
    obtain ⟨n, v⟩ := b
    rw [List.filter_cons]
    by_cases hn : n = s <;> grind [lookupIn]

/-! ### Refusals -/

/-- An insertion is checked: the key has to be a text and nothing in the value may offend. -/
theorem insert_refused (c : Context) (h : key.text? = none ∨ ∃ m, Offends m value) :
    ∃ m, (m = .contextKey key ∨ Offends m value) ∧ c.insert key value = .error (.ofMisuse m) := by
  rw [insert]
  cases hkey : key.text? with
  | none => exact ⟨_, .inl rfl, rfl⟩
  | some s =>
    obtain ⟨m, hm⟩ : ∃ m, Offends m value := h.resolve_left (by simp [hkey])
    rcases Value.normalize_checked value with ⟨hno, -⟩ | ⟨m, hm, herror⟩
    · exact absurd hm (hno m)
    · exact ⟨m, .inr hm, by simp only [herror]; rfl⟩

/-- A refusal is by the type, unless the text of a key cannot be shown. -/
theorem class_of_refusal {m : Misuse} (h : m = .contextKey key ∨ Offends m value) :
    (Fault.ofMisuse m).className = "TypeError" ∨
      Fault.ofMisuse m = .failure .badValue ∧
        ∃ k, Offends (.objectKey k) value ∧ k.isWritable = false := by
  have hkind : (∃ k, m = .objectKey k) ∨ (Fault.ofMisuse m).className = "TypeError" := by
    rcases h with rfl | h
    · exact .inr rfl
    · induction h with
      | undefined | bytes => exact .inr rfl
      | key he hkey => exact .inl ⟨_, rfl⟩
      | list _ _ ih | tuple _ _ ih | value _ _ ih => exact ih
  rcases hkind with ⟨k, rfl⟩ | hclass
  · have hshown : Value.allWritable (Misuse.objectKey k).shown = k.isWritable := by
      simp [Misuse.shown, Value.allWritable]
    rw [Fault.ofMisuse, hshown]
    cases hk : k.isWritable with
    | true => exact .inl rfl
    | false => exact .inr ⟨rfl, k, h.resolve_left (by simp), hk⟩
  · exact .inl hclass

/-! ### Histories -/

/-- What a host can ask of a context that changes it. -/
inductive Operation where
  | insert (key value : Value)
  | extend (other : Context)
  | remove (key : Value)

/-- An operation with its answer and the context that it leaves behind. -/
def perform (c : Context) : Operation → Except Fault Value × Context
  | .insert key value =>
    match c.insert key value with
    | .ok d => (.ok .null, d)
    | .error f => (.error f, c)
  | .extend other => (.ok .null, c.extend other)
  | .remove key =>
    match c.remove key with
    | .ok (v, d) => (.ok v, d)
    | .error f => (.error (.failure f), c)

/-- The contexts that come about by operations, beginning with host data. -/
inductive Held : Context → Prop where
  | start {data : Value} {c : Context} (h : ofData data = .ok c) : Held c
  | after {c : Context} (h : Held c) (op : Operation) (hother : ∀ d, op = .extend d → Held d) :
    Held (c.perform op).2

theorem Ordered.bound (h : Ordered c) (hkey : key.text? = some s) {v : Value} (hv : v.Proper) :
    Ordered (c.bound key v) :=
  (holds_bound h hkey v).ordered (h.proper.bind (by rw [hkey]; rfl) hv)

theorem Ordered.insert (h : Ordered c) (hd : c.insert key value = .ok d) : Ordered d := by
  cases hkey : key.text? with
  | none =>
    rw [Context.insert, hkey] at hd
    cases hd
  | some s =>
    obtain ⟨v, hv⟩ : ∃ v, value.normalize = .ok v := by
      simp only [Context.insert, hkey, bind_eq_ok] at hd
      obtain ⟨v, hv, -⟩ := hd
      exact ⟨v, hv⟩
    rw [insert_of_normalize hkey hv] at hd
    cases hd
    exact h.bound hkey (Value.proper_of_normalize hv)

theorem Ordered.insertAll : ∀ {es : List (Value × Value)} {c : Context}, Ordered c →
    c.insertAll es = .ok d → Ordered d
  | [], c, h, hd => by
    cases hd
    exact h
  | (k, v) :: rest, c, h, hd => by
    rw [Context.insertAll] at hd
    simp only [bind_eq_ok] at hd
    obtain ⟨b, hb, hd⟩ := hd
    exact (h.insert hb).insertAll hd

theorem ordered_ofData {data : Value} (h : ofData data = .ok c) : Ordered c := by
  have hempty : Ordered {} := ⟨.object (by simp) (by simp), .nil⟩
  unfold ofData at h
  split at h
  · cases h
    exact hempty
  · split at h
    · exact hempty.insertAll h
    · cases h

theorem Ordered.extend (hc : Ordered c) (hd : Ordered d) : Ordered (c.extend d) :=
  (holds_extend hc hd).ordered (proper_extend hc.proper hd.proper)

theorem Ordered.remove {v : Value} (h : Ordered c) (hd : c.remove key = .ok (v, d)) :
    Ordered d := by
  refine ⟨proper_remove h.proper hd, ?_⟩
  cases hkey : key.text? with
  | none =>
    rcases remove_of_not_text h hkey with hr | hr
    · cases hr.symm.trans hd
      exact h.distinct
    · cases hr.symm.trans hd
  | some s =>
    cases (remove_of_text h hkey).symm.trans hd
    rw [names_remove h hkey]
    exact h.distinct.filter _

/-- The step: every operation keeps the bindings an ordered map, also one that fails. -/
theorem Ordered.perform (h : Ordered c) {op : Operation}
    (hother : ∀ d, op = .extend d → Ordered d) : Ordered (c.perform op).2 := by
  cases op with
  | insert key value =>
    rw [Context.perform]
    split
    · rename_i d hd
      exact h.insert hd
    · exact h
  | extend d => exact h.extend (hother d rfl)
  | remove key =>
    rw [Context.perform]
    split
    · rename_i v d hd
      exact h.remove hd
    · exact h

/-- The run: by induction on its history, the bindings of every context are an ordered map. -/
theorem Held.ordered (h : Held c) : Ordered c := by
  induction h with
  | start h => exact ordered_ofData h
  | after _ _ _ ih ihother => exact ih.perform ihother

/-! ### The laws of the map -/

theorem perform_insert (h : Ordered c) (hkey : key.text? = some s) (hno : ∀ m, ¬Offends m value) :
    ∃ v d, value.normalize = .ok v ∧ c.perform (.insert key value) = (.ok .null, d) ∧
      d.names = (if s ∈ c.names then c.names else c.names ++ [s]) ∧
      ∀ name, d.lookup name = if name = s then v else c.lookup name := by
  obtain ⟨v, hv⟩ : ∃ v, value.normalize = .ok v := by
    rcases Value.normalize_checked value with ⟨-, hv⟩ | ⟨m, hm, -⟩
    · exact hv
    · exact absurd hm (hno m)
  have hholds := holds_bound h hkey v
  refine ⟨v, c.bound key v, hv, by rw [perform, insert_of_normalize hkey hv], ?_, fun name => ?_⟩
  · rw [hholds.names, (holds_table h).names]
    exact Table.names_bindIn s v _
  · rw [hholds.lookup, Table.get?_insert, (holds_table h).lookup]
    split <;> rfl

theorem perform_insert_refused (c : Context) (h : key.text? = none ∨ ∃ m, Offends m value) :
    ∃ f, c.perform (.insert key value) = (.error f, c) ∧ (f.className = "TypeError" ∨
      f = .failure .badValue ∧ ∃ k, Offends (.objectKey k) value ∧ k.isWritable = false) := by
  obtain ⟨m, hm, herror⟩ := c.insert_refused h
  exact ⟨.ofMisuse m, by rw [perform, herror], class_of_refusal hm⟩

theorem perform_extend (hc : Ordered c) (hd : Ordered d) :
    ∃ e, c.perform (.extend d) = (.ok .null, e) ∧
      e.names = c.names ++ d.names.filter (· ∉ c.names) ∧
      ∀ name, e.lookup name = if name ∈ d.names then d.lookup name else c.lookup name := by
  have hholds := holds_extend hc hd
  refine ⟨c.extend d, rfl, ?_, fun name => ?_⟩
  · rw [hholds.names, Table.names_union, (holds_table hc).names, (holds_table hd).names]
  · rw [hholds.lookup, Table.get?_union, (holds_table hc).lookup, (holds_table hd).lookup]
    by_cases hmem : name ∈ d.names
    · have hne := mt (get?_eq_none_iff hd name).1 (not_not.2 hmem)
      obtain ⟨v, hv⟩ := Option.ne_none_iff_exists'.1 hne
      simp [hmem, hv]
    · simp [hmem, (get?_eq_none_iff hd name).2 hmem]

theorem perform_remove (h : Ordered c) (hkey : key.text? = some s) :
    ∃ d, c.perform (.remove key) = (.ok (c.lookup s), d) ∧ d.names = c.names.filter (· ≠ s) ∧
      ∀ name, d.lookup name = if name = s then .undefined else c.lookup name :=
  ⟨_, by rw [perform, remove_of_text h hkey], names_remove h hkey, lookup_remove h hkey⟩

theorem perform_remove_of_not_text (h : Ordered c) (hkey : key.text? = none) :
    (c.perform (.remove key)).2 = c := by
  rcases remove_of_not_text h hkey with hr | hr <;> rw [perform, hr]

theorem contains_of_get {path : String} {v : Value} (h : c.get path = .ok v) :
    ∃ b, c.contains path = .ok b ∧ (b = true ↔ v ≠ .undefined) := by
  refine ⟨!v.isUndefined, by rw [contains, h]; rfl, ?_⟩
  cases v <;> simp [Value.isUndefined]

/-- Whatever the history of a context, failures included, it is an ordered map of template values
    that are normalised. An insertion binds one name to the normalised value, in its place or at the
    end; an extension is the union that prefers what is taken over; a removal gives and deletes one
    binding; a path is contained where it leads to something. An insertion under something that is
    no text, or of a value with something in it that no template value stands for, changes nothing
    and is refused by the type, unless a key with an integer of too many digits has to be shown. -/
theorem ordered_map_laws (h : Held c) :
    ((∀ e ∈ c.entries, e.1.text?.isSome = true ∧ e.2.Proper ∧ e.2.normalize = .ok e.2) ∧
      c.names.Nodup) ∧
    (∀ key s value, key.text? = some s → (∀ m, ¬Offends m value) → ∃ v d,
      value.normalize = .ok v ∧ c.perform (.insert key value) = (.ok .null, d) ∧
      d.names = (if s ∈ c.names then c.names else c.names ++ [s]) ∧
      ∀ name, d.lookup name = if name = s then v else c.lookup name) ∧
    (∀ key value, (key.text? = none ∨ ∃ m, Offends m value) → ∃ f,
      c.perform (.insert key value) = (.error f, c) ∧ (f.className = "TypeError" ∨
        f = .failure .badValue ∧ ∃ k, Offends (.objectKey k) value ∧ k.isWritable = false)) ∧
    (∀ d, Held d → ∃ e, c.perform (.extend d) = (.ok .null, e) ∧
      e.names = c.names ++ d.names.filter (· ∉ c.names) ∧
      ∀ name, e.lookup name = if name ∈ d.names then d.lookup name else c.lookup name) ∧
    (∀ key s, key.text? = some s → ∃ d, c.perform (.remove key) = (.ok (c.lookup s), d) ∧
      d.names = c.names.filter (· ≠ s) ∧
      ∀ name, d.lookup name = if name = s then .undefined else c.lookup name) ∧
    (∀ key, key.text? = none → (c.perform (.remove key)).2 = c) ∧
    ∀ path v, c.get path = .ok v → ∃ b, c.contains path = .ok b ∧ (b = true ↔ v ≠ .undefined) := by
  have hc := h.ordered
  refine ⟨⟨fun e he => ?_, hc.distinct⟩, fun _ _ _ => perform_insert hc,
    fun _ _ => c.perform_insert_refused, fun _ hd => perform_extend hc hd.ordered,
    fun _ _ => perform_remove hc, fun _ => perform_remove_of_not_text hc,
    fun _ _ => contains_of_get⟩
  have hv := (hc.proper.entries e he).2
  exact ⟨hc.proper.keys e he, hv, hv.normalize_eq⟩

/-- A context that was made of data with a tuple in it. -/
def basket : Context := ⟨[(.text "a", .list [.int 1])]⟩

theorem ofData_basket : ofData (.object [(.text "a", .tuple [.int 1])]) = .ok basket := by
  simp [ofData, Value.isSet, insertAll, Context.insert, Value.text?, Value.normalize,
    Value.normalizeAll, Value.bind, basket]
  rfl

theorem ordered_map_laws_basket : Held basket ∧
    (∃ d, basket.perform (.insert (.markup "b") (.tuple [])) = (.ok .null, d) ∧
      d.names = ["a", "b"] ∧ d.lookup "b" = .list []) ∧
    ∃ d, basket.perform (.remove (.text "a")) = (.ok (.list [.int 1]), d) ∧ d.names = [] := by
  have hheld : Held basket := .start ofData_basket
  obtain ⟨-, hinsert, -, -, hremove, -⟩ := ordered_map_laws hheld
  obtain ⟨v, d, hv, hd, hnames, hlookup⟩ := hinsert (.markup "b") "b" (.tuple []) rfl
    (by rintro m (_ | _ | _ | ⟨hx, -⟩); cases hx)
  obtain ⟨e, he, hrest, -⟩ := hremove (.text "a") "a" rfl
  cases hv
  exact ⟨hheld, ⟨d, hd, hnames, by simpa using hlookup "b"⟩, e, he, hrest⟩

/-- An object is refused by its first key, if that is no text; where this has an integer of too many
    digits, the refusal cannot be worded. -/
theorem insert_unworded (c : Context) (hkey : key.text? = some s) {k : Value} (hk : k.text? = none)
    (hlong : k.isWritable = false) (v : Value) (rest : List (Value × Value)) :
    c.insert key (.object ((k, v) :: rest)) = .error (.failure .badValue) := by
  have hmisuse : Fault.ofMisuse (.objectKey k) = .failure .badValue := by
    simp [Fault.ofMisuse, Misuse.shown, Value.allWritable, hlong]
  rw [insert, hkey]
  simp only [Value.normalize, Value.normalizeEntries, hk, hmisuse]
  rfl

/-- An insertion of an object with an integer of too many digits as a key is not refused by the
    type. -/
theorem insert_long_key : ¬∀ c : Context, Held c → ∀ key value : Value, ∀ m,
    key.text?.isSome = true → Offends m value →
    ∃ f, c.perform (.insert key value) = (.error f, c) ∧ f.className = "TypeError" := by
  intro hall
  have hlong : (Value.int Value.unwritable).isWritable = false := by
    rw [Value.isWritable, Int.natAbs_natCast]
    exact decide_eq_false (Nat.lt_irrefl _)
  generalize hk : Value.int Value.unwritable = k at hlong
  have htext : k.text? = none := hk ▸ rfl
  obtain ⟨f, hf, hclass⟩ :=
    hall {} (@Held.start .null {} rfl) (.text "a") (.object [(k, .null)]) _ rfl
    (.key (List.mem_singleton_self _) htext)
  rw [perform, insert_unworded {} rfl htext hlong] at hf
  cases hf
  exact absurd hclass (by decide)

end Context

end Stencil
