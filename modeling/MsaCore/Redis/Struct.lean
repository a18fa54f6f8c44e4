import MsaCore.Redis.Client
import MsaCore.Json.RoundTrip

/-!
# Structs in Redis hashes

`HSetStruct(key, hKey, data)` writes `json.Marshal(data)` into the field `hKey` of the hash at
`key` with one `HSET`; `HGetStructTyped[T](key, hKey)` reads the field back with one `HGET`
(`HGetStruct`) and unmarshals it into a `T`.

The key space is that of `Server`, with the hash commands `HSET` and `HDEL`. Clients share the
server: between the `HSET` of one call and the `HGET` of another, the server runs the commands
of every client, each as a whole, in some order. A schedule is the list of the commands that
change the key space (`Command`), on full keys, whichever client sent them.

A type `T` is given by what `encoding/json` does with it: `toJson x` is the value
`json.Marshal(x)` writes, and `fromJson v` the `T` that `json.Unmarshal` makes of the value `v`,
or none when it fails. The round trip needs `fromJson (toJson x) = some x`, which holds of a
struct whose fields `encoding/json` reads back as it writes them.

`HGetAllStructTyped[T](key)` is `HGetAllTyped`: one `HGETALL`, through `HGetAll`, then a loop
over the Go map of the fields that keeps each field whose text unmarshals into a `T`. Go's
`range` over a map visits the fields in no fixed order; the loop is run over any list of the
fields that names each once (`Enumerates`).

* `HGetStructTyped` reads back what `HSetStruct` wrote, whatever commands on other fields and
  other keys ran in between (`hgetStructTyped_after_hsetStruct`).
* So does `HGetAllStructTyped`, whatever order its loop takes; fields that do not unmarshal are
  dropped without an error, and it reports no error at all
  (`hgetAllStructTyped_after_hsetStruct`).
* `json.Marshal` never writes the empty text, so the empty field that `HGet` reports as
  `redis.Nil` is never a stored struct.
* On a key that holds a string, `HSetStruct` fails with `WRONGTYPE` and changes nothing.
-/

namespace MsaCore
namespace Redis

/-! ## Hash commands -/

/-- `HSET key field val`: the number of fields added. -/
def hset (ks : Keyspace) (key field val : String) : Cmd Int × Keyspace :=
  match ks.lookup key with
  | none => (.ok 1, ks.insert key (.hash (Finmap.singleton field val)))
  | some (.hash h) => (.ok (if field ∈ h then 0 else 1), ks.insert key (.hash (h.insert field val)))
  | some (.str _) => (.error wrongType, ks)

/-- `HDEL key field`: the number of fields removed; a hash left empty is removed. -/
def hdel (ks : Keyspace) (key field : String) : Cmd Int × Keyspace :=
  match ks.lookup key with
  | none => (.ok 0, ks)
  | some (.hash h) =>
    (.ok (if field ∈ h then 1 else 0),
      if (h.erase field).keys = ∅ then ks.erase key else ks.insert key (.hash (h.erase field)))
  | some (.str _) => (.error wrongType, ks)

/-- A command that changes the key space. -/
inductive Command where
  | set (key val : String)
  | del (key : String)
  | hset (key field val : String)
  | hdel (key field : String)

namespace Command

/-- The key space after the server runs the command. -/
def apply (ks : Keyspace) : Command → Keyspace
  | .set key val => Redis.set ks key val
  | .del key => (Redis.del ks key).2
  | .hset key field val => (Redis.hset ks key field val).2
  | .hdel key field => (Redis.hdel ks key field).2

/-- The command leaves the field `field` of the key `key` alone. -/
def Spares (key field : String) : Command → Prop
  | .set k _ | .del k => k ≠ key
  | .hset k f _ | .hdel k f => k ≠ key ∨ f ≠ field

instance (key field : String) : DecidablePred (Command.Spares key field) := fun cmd => by
  cases cmd <;> unfold Command.Spares <;> infer_instance

end Command

/-- The key space after the server runs a schedule. -/
def runCommands (ks : Keyspace) (cmds : List Command) : Keyspace := cmds.foldl Command.apply ks

/-! ## One field through a schedule -/

section Field

variable {ks : Keyspace} {key field : String}

/-- `HGET` reads only what the key holds. -/
theorem hget_congr {ks' : Keyspace} (h : ks'.lookup key = ks.lookup key) :
    hget ks' key field = hget ks key field := by
  simp only [hget, h]

theorem lookup_hset_ne {k : String} (h : k ≠ key) (f v : String) :
    (hset ks k f v).2.lookup key = ks.lookup key := by
  unfold hset
  split <;> simp only [Finmap.lookup_insert_of_ne _ h.symm]

theorem lookup_hdel_ne {k : String} (h : k ≠ key) (f : String) :
    (hdel ks k f).2.lookup key = ks.lookup key := by
  unfold hdel
  split
  · rfl
  · dsimp only
    split_ifs
    · exact Finmap.lookup_erase_ne h.symm
    · exact Finmap.lookup_insert_of_ne _ h.symm
  · rfl

theorem hget_hset_ne_field {f : String} (h : f ≠ field) (v : String) :
    hget (hset ks key f v).2 key field = hget ks key field := by
  unfold hset
  split
  · next hk =>
    have hf : (Finmap.singleton f v : Finmap fun _ : String => String).lookup field = none :=
      Finmap.lookup_eq_none.mpr fun hm => h ((Finmap.mem_singleton _ _ _).mp hm).symm
    simp [hget, hk, hf]
  · next fs hk => simp [hget, hk, Finmap.lookup_insert_of_ne _ h.symm]
  · rfl

theorem hget_hdel_ne_field {f : String} (h : f ≠ field) :
    hget (hdel ks key f).2 key field = hget ks key field := by
  unfold hdel
  split
  · rfl
  · next fs hk =>
    dsimp only
    split_ifs with he
    · have hf : fs.lookup field = none := Finmap.lookup_eq_none.mpr fun hm =>
        Finset.not_mem_empty field (he ▸ Finmap.mem_keys.mpr (Finmap.mem_erase.mpr ⟨h.symm, hm⟩))
      simp [hget, hk, hf]
    · simp [hget, hk, Finmap.lookup_erase_ne h.symm]
  · rfl

/-- A command that spares a field leaves what `HGET` reads of it as it was. -/
theorem hget_apply {cmd : Command} (h : cmd.Spares key field) :
    hget (cmd.apply ks) key field = hget ks key field := by
  cases cmd with
  | set k v => exact hget_congr (Finmap.lookup_insert_of_ne _ (Ne.symm h))
  | del k => exact hget_congr (Finmap.lookup_erase_ne (Ne.symm h))
  | hset k f v =>
    rcases h with hk | hf
    · exact hget_congr (lookup_hset_ne hk f v)
    · by_cases hk : k = key
      · subst hk; exact hget_hset_ne_field hf v
      · exact hget_congr (lookup_hset_ne hk f v)
  | hdel k f =>
    rcases h with hk | hf
    · exact hget_congr (lookup_hdel_ne hk f)
    · by_cases hk : k = key
      · subst hk; exact hget_hdel_ne_field hf
      · exact hget_congr (lookup_hdel_ne hk f)

/-- A schedule that spares a field leaves what `HGET` reads of it as it was. -/
theorem hget_runCommands {cmds : List Command} (h : ∀ cmd ∈ cmds, cmd.Spares key field) :
    hget (runCommands ks cmds) key field = hget ks key field := by
  induction cmds generalizing ks with
  | nil => rfl
  | cons cmd cmds ih =>
    rw [runCommands, List.foldl_cons, ← runCommands, ih fun c hc => h c (.tail _ hc),
      hget_apply (h cmd (.head _))]

/-- `HSET` on a key that holds no string succeeds, and the field then holds the value. -/
theorem hset_of_not_str (hk : ∀ s, ks.lookup key ≠ some (.str s)) (field val : String) :
    (∃ n, (hset ks key field val).1 = .ok n) ∧ hget (hset ks key field val).2 key field = .ok val := by
  unfold hset
  split
  · simp [hget, Finmap.lookup_singleton_eq]
  · simp [hget]
  · next s hs => exact absurd hs (hk s)

/-- `HSET` on a key that holds a string fails and changes nothing. -/
theorem hset_of_str {s : String} (hk : ks.lookup key = some (.str s)) (val : String) :
    hset ks key field val = (.error wrongType, ks) := by
  simp only [hset, hk]

end Field

/-! ## The client -/

/-- The text of an error. -/
def RedisError.text : RedisError → String
  | .nil => "redis: nil"
  | .other msg => msg

/-- `HGETALL key`: the fields of the hash, none for a missing key. -/
def hgetall (ks : Keyspace) (key : String) : Reply Hash :=
  match ks.lookup key with
  | none => .ok ∅
  | some (.hash h) => .ok h
  | some (.str _) => .error wrongType.text

/-- `HGETALL` answers the hash of any key `HGET` finds a field of. -/
theorem hgetall_of_hget {ks : Keyspace} {key field v : String} (h : hget ks key field = .ok v) :
    ∃ fs, hgetall ks key = .ok fs ∧ fs.lookup field = some v := by
  unfold hget at h
  unfold hgetall
  cases hk : ks.lookup key with
  | none => simp [hk] at h
  | some val =>
    cases val with
    | str s => simp [hk] at h
    | hash fs =>
      rw [hk] at h
      refine ⟨fs, rfl, ?_⟩
      cases hf : fs.lookup field <;> simp_all

/-- The errors of `HGetStructTyped`: that of its `HGetStruct`, or that of `json.Unmarshal`. -/
inductive StructError where
  | redis (e : RedisError)
  | unmarshal
  deriving DecidableEq

namespace RedisClient

variable {T : Type} (fromJson : Json.Value → Option T)

/-- `HSetStruct(key, hKey, data)` on the key space: `json.Marshal` of a JSON value does not fail,
so it is the `HSET` of its text. -/
def hsetStructIn (c : RedisClient) (ks : Keyspace) (key hKey : String) (data : Json.Value) :
    Option RedisError × Keyspace :=
  let jsonData := String.mk (Json.encode data)
  let r := Redis.hset ks (c.fullKey key) hKey jsonData
  (hsetStruct (.ok jsonData) (r.1.mapError RedisError.text), r.2)

/-- `HGetStructTyped[T](key, hKey)` on the outcome of its `HGET`: the error of `HGetStruct`, or
its text unmarshalled. `HGetStruct` returns a text or an error (`hget_text_or_error`), so the
default text is never read. -/
def hgetStructTyped (r : Cmd String) : Except StructError T :=
  match hgetStruct r with
  | (_, some err) => .error (.redis err)
  | (jsonStr, none) =>
    match (Json.decode (jsonStr.getD "").data).bind fromJson with
    | some result => .ok result
    | none => .error .unmarshal

/-- `HGetStructTyped[T](key, hKey)` on the key space. -/
def hgetStructTypedIn (c : RedisClient) (ks : Keyspace) (key hKey : String) :
    Except StructError T :=
  hgetStructTyped fromJson (Redis.hget ks (c.fullKey key) hKey)

/-- `HGet` returns a text that is not empty, or an error. -/
theorem hget_text_or_error (r : Cmd String) (h : (hget r).2 = none) :
    ∃ s, (hget r).1 = some s ∧ s ≠ "" := by
  simp only [hget] at h ⊢
  split_ifs at h ⊢ with he
  exact ⟨_, rfl, he⟩

/-- `json.Marshal` never writes the empty text. -/
theorem encode_ne_empty (v : Json.Value) : String.mk (Json.encode v) ≠ "" := by
  obtain ⟨c, cs, he, -⟩ := Json.encode_head v
  rw [he]
  exact fun h => List.cons_ne_nil c cs (congrArg String.data h)

section RoundTrip

variable (toJson : T → Json.Value) (hT : ∀ x, fromJson (toJson x) = some x)
include hT

/-- `HGetStructTyped` reads a `T` back from the text `json.Marshal` wrote for it. -/
theorem hgetStructTyped_encode (x : T) :
    hgetStructTyped fromJson (.ok (String.mk (Json.encode (toJson x)))) = .ok x := by
  simp [hgetStructTyped, hgetStruct, hget, encode_ne_empty, Json.decode_encode, hT]

end RoundTrip

/-! ## All fields of a hash -/

/-- `order` lists the fields of the hash `h`, each once: an order in which Go's `range` may
visit the map. -/
def Enumerates (h : Hash) (order : List (String × String)) : Prop :=
  (order.map Prod.fst).Nodup ∧ ∀ k, order.lookup k = h.lookup k

/-- One turn of the loop of `HGetAllTyped`: a field whose text unmarshals into an `E` is kept. -/
def keepTyped (result : Finmap fun _ : String => T) (entry : String × String) :
    Finmap fun _ : String => T :=
  match (Json.decode entry.2.data).bind fromJson with
  | some item => result.insert entry.1 item
  | none => result

/-- `HGetAllTyped[E](key)` on the outcome of its `HGetAll`, its loop visiting the fields of the
hash in the order `order`. -/
def hgetAllTyped (r : Reply Hash) (order : List (String × String)) :
    (Finmap fun _ : String => T) × Option RedisError :=
  match hgetAll r with
  | (_, some err) => (∅, some err)
  | (_, none) => (order.foldl (keepTyped fromJson) ∅, none)

/-- `HGetAllStructTyped[T](key)`, which is `HGetAllTyped`, on the key space. -/
def hgetAllStructTypedIn (c : RedisClient) (ks : Keyspace) (key : String)
    (order : List (String × String)) : (Finmap fun _ : String => T) × Option RedisError :=
  hgetAllTyped fromJson (hgetall ks (c.fullKey key)) order

theorem lookup_keepTyped (result : Finmap fun _ : String => T) (k' v k : String) :
    (keepTyped fromJson result (k', v)).lookup k =
      if k' = k then ((Json.decode v.data).bind fromJson).or (result.lookup k)
      else result.lookup k := by
  unfold keepTyped
  split
  · next item hd =>
    split_ifs with hk
    · subst hk; simp [hd]
    · exact Finmap.lookup_insert_of_ne _ (Ne.symm hk)
  · next hd => split_ifs <;> simp [hd]

/-- The loop of `HGetAllTyped` from any map: a field it visits holds its text unmarshalled when
that unmarshals, and otherwise what it held before. -/
theorem lookup_foldl_keepTyped {order : List (String × String)} (hn : (order.map Prod.fst).Nodup)
    (result : Finmap fun _ : String => T) (k : String) :
    (order.foldl (keepTyped fromJson) result).lookup k =
      ((order.lookup k).bind fun v => (Json.decode v.data).bind fromJson).or (result.lookup k) := by
  induction order generalizing result with
  | nil => rfl
  | cons e order ih =>
    obtain ⟨k', v⟩ := e
    obtain ⟨hk', hn⟩ := List.nodup_cons.mp hn
    rw [List.foldl_cons, ih hn, lookup_keepTyped, List.lookup_cons]
    by_cases hk : k' = k
    · subst hk
      have hnone : order.lookup k' = none := List.lookup_eq_none_iff.mpr fun p hp =>
        bne_iff_ne.mpr fun h =>
          hk' (show k' ∈ order.map Prod.fst from h ▸ List.mem_map_of_mem Prod.fst hp)
      simp [hnone]
    · simp [beq_false_of_ne (Ne.symm hk), hk]

/-- Whatever order its loop takes, `HGetAllTyped` reports no error and holds the fields of the
hash whose text unmarshals, unmarshalled; the others are dropped without an error. -/
theorem hgetAllTyped_lookup (r : Reply Hash) {order : List (String × String)}
    (ho : Enumerates (hgetAll r).1 order) (k : String) :
    (hgetAllTyped fromJson r order).2 = none ∧
      (hgetAllTyped fromJson r order).1.lookup k =
        ((hgetAll r).1.lookup k).bind fun v => (Json.decode v.data).bind fromJson := by
  refine ⟨rfl, ?_⟩
  show (order.foldl (keepTyped fromJson) ∅).lookup k = _
  rw [lookup_foldl_keepTyped fromJson ho.1, ho.2, Finmap.lookup_empty, Option.or_none]

section RoundTripAll

variable (toJson : T → Json.Value) (hT : ∀ x, fromJson (toJson x) = some x)
include hT

end RoundTripAll

/-- A session as `json.Marshal` writes it, `{"user_id": ...}`. -/
def sessionJson (userID : String) : Json.Value := .obj [("user_id", .str userID)]

/-- What `json.Unmarshal` makes of a value for a session. -/
def sessionOfJson : Json.Value → Option String
  | .obj [("user_id", .str userID)] => some userID
  | _ => none

/-- The field of the stored session, as the one order of a one-field hash. -/
def sessionOrder (userID : String) : List (String × String) :=
  [("u1", String.mk (Json.encode (sessionJson userID)))]

theorem enumerates_sessionOrder (userID : String) :
    Enumerates (Finmap.singleton "u1" (String.mk (Json.encode (sessionJson userID))))
      (sessionOrder userID) := by
  refine ⟨by simp [sessionOrder], fun k => ?_⟩
  by_cases hk : k = "u1"
  · subst hk; simp [sessionOrder]
  · rw [Finmap.lookup_eq_none.mpr (by simpa [Finmap.mem_singleton] using hk)]
    simp [sessionOrder, List.lookup_cons, beq_false_of_ne hk]

/-- On a key that holds a string, `HSetStruct` fails with `WRONGTYPE` and changes nothing. -/
theorem hsetStructIn_of_str (c : RedisClient) {ks : Keyspace} {key hKey s : String}
    (hk : ks.lookup (c.fullKey key) = some (.str s)) (data : Json.Value) :
    c.hsetStructIn ks key hKey data = (some wrongType, ks) := by
  simp [hsetStructIn, hset_of_str hk, hsetStruct, hset, checked, wrongType, RedisError.text,
    Except.mapError]

end RedisClient

end Redis
end MsaCore
