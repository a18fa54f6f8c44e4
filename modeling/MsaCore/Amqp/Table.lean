import Mathlib.Data.Finmap

/-!
# AMQP field tables and the trace carrier

`amqp.Table` is a Go `map[string]interface{}`: unordered, one value per key, each value one
of the field types the wire protocol carries. We model it as a `Finmap` keyed by `String`,
so equality of tables is equality of their lookups, as for Go maps.

`AMQPCarrier` (package `models`) wraps a possibly nil header table and adapts it to the
text-map interface of a trace propagator. A nil Go map is `none`; `Keys` returns its keys in
Go's unspecified map order, which we model as a `Multiset`. Both branches of `Keys` return a
non-nil slice (`[]string{}` for a nil table), so the model has no nil result to tell apart.
-/

namespace MsaCore
namespace Amqp

/-- The field values an `amqp.Table` holds. `null` is a key present with a nil value. -/
inductive FieldValue where
  | null
  | bool (b : Bool)
  | int (n : Int)
  | byte (n : UInt8)
  | str (s : String)
  | bytes (b : List UInt8)
  deriving DecidableEq, Repr

/-- `amqp.Table`. -/
abbrev Table := Finmap fun _ : String => FieldValue

/-- Storing under a key the value it already holds changes nothing. -/
theorem insert_self_of_lookup {β : Type} {m : Finmap fun _ : String => β} {k : String} {v : β}
    (h : m.lookup k = some v) : m.insert k v = m :=
  Finmap.ext_lookup fun n => by
    by_cases hn : n = k
    · subst hn; simp [h]
    · simp [Finmap.lookup_insert_of_ne _ hn]

/-- A lookup through an insert made only when `c` holds. -/
theorem lookup_ite_insert {β : Type} {m : Finmap fun _ : String => β} {c : Prop} [Decidable c]
    {k key : String} {v : β} :
    (if c then m.insert k v else m).lookup key = if c ∧ key = k then some v else m.lookup key := by
  by_cases hc : c <;> by_cases hk : key = k
  · subst hk; simp [hc]
  all_goals simp [hc, hk, Finmap.lookup_insert_of_ne]

/-- A lookup through two inserts made only when `c` holds. -/
theorem lookup_ite_insert_insert {β : Type} {m : Finmap fun _ : String => β} {c : Prop}
    [Decidable c] {k1 k2 key : String} {v1 v2 : β} :
    (if c then (m.insert k1 v1).insert k2 v2 else m).lookup key =
      if c ∧ key = k2 then some v2 else if c ∧ key = k1 then some v1 else m.lookup key := by
  rw [← lookup_ite_insert, ← lookup_ite_insert]
  by_cases hc : c <;> simp [hc]

/-- Inserting under another key, or not at all, leaves a lookup unchanged. -/
theorem lookup_ite_insert_of_ne {β : Type} {m : Finmap fun _ : String => β} {c : Prop} [Decidable c]
    {k key : String} {v : β} (h : key ≠ k) :
    (if c then m.insert k v else m).lookup key = m.lookup key := by
  split_ifs <;> simp [Finmap.lookup_insert_of_ne _ h]

/-! ## AMQPCarrier -/

/-- `models.AMQPCarrier`: a header table that may be nil. -/
structure AMQPCarrier where
  headers : Option Table
  deriving DecidableEq

namespace AMQPCarrier

/-- `Get`: the header as a string when it is present and string-typed, else `""`. -/
def get (c : AMQPCarrier) (key : String) : String :=
  match c.headers.bind (·.lookup key) with
  | some (.str s) => s
  | _ => ""

/-- `Set`: allocate the table when it is nil, then store the string. -/
def set (c : AMQPCarrier) (key val : String) : AMQPCarrier :=
  ⟨some ((c.headers.getD ∅).insert key (.str val))⟩

/-- `Keys`: every key of the table, none when it is nil. -/
def keys (c : AMQPCarrier) : Multiset String :=
  match c.headers with
  | none => 0
  | some h => h.keys.val

@[simp] theorem get_set_self (c : AMQPCarrier) (key val : String) :
    (c.set key val).get key = val := by
  simp [get, set]

@[simp] theorem get_set_of_ne (c : AMQPCarrier) {key key' : String} (val : String)
    (h : key' ≠ key) : (c.set key val).get key' = c.get key' := by
  cases hc : c.headers <;> simp [get, set, hc, Finmap.lookup_insert_of_ne _ h]

/-! ## Runs of `Set`

A propagator sets one key after another on the same carrier. `setAll c sets` is the carrier
after `Set(key, value)` for each pair of `sets`, in order, from any initial table: nil, or
holding values of any field type. The run lemma says what each key holds afterwards; `Get`
and `Keys` are read off it.
-/

/-- The header under `key`, of whatever field type; a nil table holds none. -/
def header (c : AMQPCarrier) (key : String) : Option FieldValue :=
  c.headers.bind (·.lookup key)

/-- The carrier after `Set` of each (key, value) of `sets`, in order. -/
def setAll (c : AMQPCarrier) (sets : List (String × String)) : AMQPCarrier :=
  sets.foldl (fun c kv => c.set kv.1 kv.2) c

/-- `Get` reads the header: its string, or `""` when it is absent or of another type. -/
theorem get_eq_header (c : AMQPCarrier) (key : String) :
    c.get key = match c.header key with
      | some (.str s) => s
      | _ => "" := rfl

@[simp] theorem header_set (c : AMQPCarrier) (key val k : String) :
    (c.set key val).header k = if k = key then some (.str val) else c.header k := by
  by_cases hk : k = key
  · subst hk; simp [header, set]
  · cases hc : c.headers <;> simp [header, set, hc, hk, Finmap.lookup_insert_of_ne _ hk]

@[simp] theorem setAll_nil (c : AMQPCarrier) : c.setAll [] = c := rfl

theorem setAll_append_single (c : AMQPCarrier) (sets : List (String × String))
    (kv : String × String) : c.setAll (sets ++ [kv]) = (c.setAll sets).set kv.1 kv.2 :=
  List.foldl_append _ _ _ _

/-- The keys are those of the table, each once. -/
theorem mem_keys_iff (c : AMQPCarrier) (k : String) : k ∈ c.keys ↔ (c.header k).isSome := by
  cases hc : c.headers with
  | none => simp [keys, header, hc]
  | some t => simp [keys, header, hc, Finmap.lookup_isSome, Finmap.mem_keys]

theorem keys_nodup (c : AMQPCarrier) : c.keys.Nodup := by
  unfold keys
  split
  · exact Multiset.nodup_zero
  · exact Finset.nodup _

theorem lookup_cons_ite {β : Type} (k a : String) (b : β) (l : List (String × β)) :
    ((a, b) :: l).lookup k = if k = a then some b else l.lookup k := by
  simp only [List.lookup_cons, beq_iff_eq]
  split <;> simp_all

/-- A key has a last `Set` exactly when some `Set` names it. -/
theorem lookup_reverse_isSome (sets : List (String × String)) (k : String) :
    (sets.reverse.lookup k).isSome ↔ k ∈ sets.map Prod.fst := by
  induction sets using List.reverseRecOn with
  | nil => simp
  | append_singleton sets kv ih =>
    by_cases hk : k = kv.1 <;> simp [lookup_cons_ite, hk, ih]

/-- The run lemma: after a run of `Set`s a key holds the string of its last `Set`, and a key
no `Set` names holds what it held before. -/
theorem header_setAll (c : AMQPCarrier) (sets : List (String × String)) (k : String) :
    (c.setAll sets).header k = ((sets.reverse.lookup k).map .str).or (c.header k) := by
  induction sets using List.reverseRecOn with
  | nil => simp
  | append_singleton sets kv ih =>
    obtain ⟨a, b⟩ := kv
    rw [setAll_append_single, header_set, ih]
    by_cases hk : k = a <;> simp [lookup_cons_ite, hk]

/-- The table stays nil exactly as long as no `Set` has run on a nil table. -/
theorem setAll_headers_eq_none (c : AMQPCarrier) (sets : List (String × String)) :
    (c.setAll sets).headers = none ↔ c.headers = none ∧ sets = [] := by
  rcases List.eq_nil_or_concat sets with rfl | ⟨sets, kv, rfl⟩
  · simp
  · simp [List.concat_eq_append, setAll_append_single, set]

/-- Over any initial table and any run of `Set`s: `Get` returns the last string set under
the key, and otherwise what it returned before (the string held there, or `""`); `Keys`
lists every key of the resulting table once, the keys before and the keys set; the table
is nil only when it was and nothing was set; and a key no `Set` names keeps its value. -/
theorem setAll_get_keys_frame (c : AMQPCarrier) (sets : List (String × String)) :
    (∀ k, (c.setAll sets).get k = (sets.reverse.lookup k).getD (c.get k)) ∧
    (c.setAll sets).keys.Nodup ∧
    (∀ k, k ∈ (c.setAll sets).keys ↔ ((c.setAll sets).header k).isSome) ∧
    (∀ k, k ∈ (c.setAll sets).keys ↔ k ∈ c.keys ∨ k ∈ sets.map Prod.fst) ∧
    ((c.setAll sets).headers = none ↔ c.headers = none ∧ sets = []) ∧
    ∀ k, k ∉ sets.map Prod.fst → (c.setAll sets).header k = c.header k := by
  have hnone : ∀ k, k ∉ sets.map Prod.fst → sets.reverse.lookup k = none := fun k hk =>
    Option.not_isSome_iff_eq_none.mp fun h => hk ((lookup_reverse_isSome sets k).mp h)
  refine ⟨fun k => ?_, keys_nodup _, mem_keys_iff _, fun k => ?_, setAll_headers_eq_none c sets,
    fun k hk => by rw [header_setAll, hnone k hk]; rfl⟩
  · rw [get_eq_header, get_eq_header, header_setAll]
    cases sets.reverse.lookup k <;> rfl
  · rw [mem_keys_iff, mem_keys_iff, header_setAll, Option.isSome_or, Bool.or_eq_true,
      Option.isSome_map', lookup_reverse_isSome, or_comm]

/-- A carrier whose table holds `retry` as an integer. -/
def retryCarrier : AMQPCarrier := ⟨some ((∅ : Table).insert "retry" (.int 3))⟩

/-- Setting `traceparent` twice on it: `Get` returns the second value, and `retry`, which no
`Set` names, keeps its integer, which `Get` reads as `""`. -/
theorem setAll_get_keys_frame_retry :
    (retryCarrier.setAll [("traceparent", "a"), ("traceparent", "b")]).get "traceparent" = "b" ∧
    (retryCarrier.setAll [("traceparent", "a"), ("traceparent", "b")]).header "retry" =
      some (.int 3) ∧
    (retryCarrier.setAll [("traceparent", "a"), ("traceparent", "b")]).get "retry" = "" :=
  have h := setAll_get_keys_frame retryCarrier [("traceparent", "a"), ("traceparent", "b")]
  ⟨(h.1 "traceparent").trans rfl, (h.2.2.2.2.2 "retry" (by decide)).trans rfl,
    (h.1 "retry").trans rfl⟩

end AMQPCarrier

end Amqp
end MsaCore
