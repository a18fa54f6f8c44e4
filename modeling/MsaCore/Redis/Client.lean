import MsaCore.Redis.Server

/-!
# The Redis client

`redisClient` sends every command through one go-redis client, a cluster client or a
single-instance one, for the key `prefix + key`. Each operation checks the outcome of its
command and returns the reply or the error.

Most operations share one check, `checked`: the error with the zero value, or the reply with
no error. `Get` and `GetDel` do the same with the outcome of a command that answers `nil`
for a missing key, so they return `redis.Nil` exactly then. `HMGet` returns `redis.Nil` for a
missing field. `HGet` and `HGetAll` read the reply with `Val()`, which drops the error: a
failed `HGET` reads as an empty field and is reported as `redis.Nil`, a present empty field
too, and a failed `HGETALL` reads as an empty hash and is reported as success.

`GetAllKeyByPrefix` scans for `prefix + ":*"`, a pattern that does not carry the prefix of
the client: it searches the key space as stored, not the prefixed key space that `Set` and
`Get` write and read.
-/

namespace MsaCore
namespace Redis

/-- The go-redis client `NewRedisClient` set up: a cluster client, a single-instance
client, or none when it was given no address. -/
inductive Mode where
  | cluster
  | single
  | none
  deriving DecidableEq

/-- `redisClient`: its go-redis client and the prefix it puts before every key. -/
structure RedisClient where
  mode : Mode
  keyPrefix : String

/-- The prefix `NewRedisClient` keeps: the given one and a colon, or nothing. -/
def newRedisClient (mode : Mode) (p : String) : RedisClient :=
  ⟨mode, if p.length > 0 then p ++ ":" else ""⟩

/-- A hash as `HGETALL` returns it. -/
abbrev Hash := Finmap fun _ : String => String

/-- The outcome of a command whose reply is never nil: the reply, or the error of an error
reply or of a transport failure. -/
abbrev Reply (α : Type) := Except String α

namespace RedisClient

/-- The key a command is sent for. -/
def fullKey (c : RedisClient) (key : String) : String := c.keyPrefix ++ key

/-! ## What each operation does with the outcome of its command -/

/-- `result, err := cmd.Result(); if err != nil { return zero, err }; return f(result), nil`. -/
def checked {ε α β : Type} (toError : ε → RedisError) (zero : β) (f : α → β) :
    Except ε α → β × Option RedisError
  | .ok v => (f v, none)
  | .error e => (zero, some (toError e))

/-- `Set`. -/
def set (r : Reply Unit) : Option RedisError := (checked .other () id r).2

/-- `Get`: `redis.Nil` for a missing key, like every other error, with `""`. -/
def get (r : Cmd String) : String × Option RedisError := checked id "" id r

/-- `GetDel` on a cluster client: `GET`, then `DEL` when the `GET` found the key. -/
def getDelCluster (g : Cmd String) (d : Reply Int) : String × Option RedisError :=
  match g with
  | .error e => ("", some e)
  | .ok v =>
    match d with
    | .error e => ("", some (.other e))
    | .ok _ => (v, none)

/-- `GetDel` on a single-instance client: one `GETDEL`. -/
def getDelSingle (r : Cmd String) : String × Option RedisError := checked id "" id r

/-- `Del`. -/
def del (r : Reply Int) : Option RedisError := (checked .other () (fun _ => ()) r).2

/-- `HMSet`. -/
def hmset (r : Reply Bool) : Option RedisError := (checked .other () (fun _ => ()) r).2

/-- `HMGet` of one field: `redis.Nil` when the reply holds no value for it. -/
def hmget (r : Reply (Option String)) : Option String × Option RedisError :=
  match r with
  | .error e => (none, some (.other e))
  | .ok none => (none, some .nil)
  | .ok (some v) => (some v, none)

/-- `HSet`. -/
def hset (r : Reply Int) : Option RedisError := (checked .other () (fun _ => ()) r).2

/-- `HGet`: `Val()` is the reply, or `""` on any error; `""` is reported as `redis.Nil`. -/
def hget (r : Cmd String) : Option String × Option RedisError :=
  let value := match r with
    | .ok v => v
    | .error _ => ""
  if value = "" then (none, some .nil) else (some value, none)

/-- `HGetAll`: `Val()` is the reply, or the empty hash on any error; no error is returned. -/
def hgetAll (r : Reply Hash) : Hash × Option RedisError :=
  let value := match r with
    | .ok h => h
    | .error _ => ∅
  (value, none)

/-- `HDel`. -/
def hdel (r : Reply Int) : Option RedisError := (checked .other () (fun _ => ()) r).2

/-- `Incr`. -/
def incr (r : Reply Int) : Int × Option RedisError := checked .other 0 id r

/-- `SetNX`. -/
def setNX (r : Reply Bool) : Bool × Option RedisError := checked .other false id r

/-- `Expire`. -/
def expire (r : Reply Bool) : Option RedisError := (checked .other () (fun _ => ()) r).2

/-- `ExpireNX`: it sends `EXPIRE`, without the `NX` flag. -/
def expireNX (r : Reply Bool) : Bool × Option RedisError := checked .other false id r

/-- `HExists`. -/
def hexists (r : Reply Bool) : Bool × Option RedisError := checked .other false id r

/-- `HKeys`. -/
def hkeys (r : Reply (List String)) : List String × Option RedisError := checked .other [] id r

/-- `HValues`. -/
def hvalues (r : Reply (List String)) : List String × Option RedisError := checked .other [] id r

/-- `HLen`. -/
def hlen (r : Reply Int) : Int × Option RedisError := checked .other 0 id r

/-- `HSetNX`. -/
def hsetNX (r : Reply Bool) : Bool × Option RedisError := checked .other false id r

/-- `HIncrBy`. -/
def hincrBy (r : Reply Int) : Int × Option RedisError := checked .other 0 id r

/-- `HIncrByFloat`. -/
def hincrByFloat (r : Reply Float) : Float × Option RedisError := checked .other 0 id r

/-- `Exists`: whether the count is positive. -/
def «exists» (r : Reply Int) : Bool × Option RedisError := checked .other false (· > 0) r

/-- `HSetStruct`: the marshalling error, or `HSet` of the JSON text. -/
def hsetStruct (m : Except String String) (r : Reply Int) : Option RedisError :=
  match m with
  | .error e => some (.other e)
  | .ok _ => hset r

/-- `HGetStruct`: `HGet`. -/
def hgetStruct (r : Cmd String) : Option String × Option RedisError := hget r

/-- `HMSetStruct`: values that do not marshal are stored as they are, so only `HMSet` can fail. -/
def hmsetStruct (r : Reply Bool) : Option RedisError := hmset r

/-- `HGetAllStruct`: `HGetAll`. -/
def hgetAllStruct (r : Reply Hash) : Hash × Option RedisError := hgetAll r

end RedisClient

/-! ## The error law over every operation -/

/-- The operations of `RedisClient` that talk to the server (`GetDel` in either mode). -/
inductive Operation where
  | set | get | getDel (cluster : Bool) | del | hmset | hmget | hset | hget | hgetAll | hdel
  | incr | setNX | expire | expireNX | hexists | hkeys | hvalues | hlen | hsetNX | hincrBy
  | hincrByFloat | «exists» | hsetStruct | hgetStruct | hmsetStruct | hgetAllStruct
  deriving DecidableEq

namespace Operation

/-- The outcomes an operation reads: of its command, of both commands of a cluster
`GetDel`, of the marshalling and the command of `HSetStruct`. -/
abbrev Outcomes : Operation → Type
  | .getDel true => Cmd String × Reply Int
  | .get | .getDel false | .hget | .hgetStruct => Cmd String
  | .set => Reply Unit
  | .del | .hset | .hdel | .incr | .hlen | .hincrBy | .«exists» => Reply Int
  | .hmset | .setNX | .expire | .expireNX | .hexists | .hsetNX | .hmsetStruct => Reply Bool
  | .hmget => Reply (Option String)
  | .hgetAll | .hgetAllStruct => Reply Hash
  | .hkeys | .hvalues => Reply (List String)
  | .hincrByFloat => Reply Float
  | .hsetStruct => Except String String × Reply Int

/-- The error an operation returns. -/
def error : (op : Operation) → op.Outcomes → Option RedisError
  | .set, r => RedisClient.set r
  | .get, r => (RedisClient.get r).2
  | .getDel true, r => (RedisClient.getDelCluster r.1 r.2).2
  | .getDel false, r => (RedisClient.getDelSingle r).2
  | .del, r => RedisClient.del r
  | .hmset, r => RedisClient.hmset r
  | .hmget, r => (RedisClient.hmget r).2
  | .hset, r => RedisClient.hset r
  | .hget, r => (RedisClient.hget r).2
  | .hgetAll, r => (RedisClient.hgetAll r).2
  | .hdel, r => RedisClient.hdel r
  | .incr, r => (RedisClient.incr r).2
  | .setNX, r => (RedisClient.setNX r).2
  | .expire, r => RedisClient.expire r
  | .expireNX, r => (RedisClient.expireNX r).2
  | .hexists, r => (RedisClient.hexists r).2
  | .hkeys, r => (RedisClient.hkeys r).2
  | .hvalues, r => (RedisClient.hvalues r).2
  | .hlen, r => (RedisClient.hlen r).2
  | .hsetNX, r => (RedisClient.hsetNX r).2
  | .hincrBy, r => (RedisClient.hincrBy r).2
  | .hincrByFloat, r => (RedisClient.hincrByFloat r).2
  | .«exists», r => (RedisClient.«exists» r).2
  | .hsetStruct, r => RedisClient.hsetStruct r.1 r.2
  | .hgetStruct, r => (RedisClient.hgetStruct r).2
  | .hmsetStruct, r => RedisClient.hmsetStruct r
  | .hgetAllStruct, r => (RedisClient.hgetAllStruct r).2

/-- A command failed: an error reply or a transport failure (not a nil reply). -/
def Failed {α : Type} : Cmd α → Prop
  | .error (.other _) => True
  | _ => False

/-- Something the operation relies on failed: one of its commands, or the marshalling. -/
def failed : (op : Operation) → op.Outcomes → Prop
  | .getDel true, r => Failed r.1 ∨ ((∃ v, r.1 = .ok v) ∧ ∃ e, r.2 = .error e)
  | .get, r | .getDel false, r | .hget, r | .hgetStruct, r => Failed r
  | .set, r => ∃ e, r = .error e
  | .del, r | .hset, r | .hdel, r | .incr, r | .hlen, r | .hincrBy, r | .«exists», r =>
    ∃ e, r = .error e
  | .hmset, r | .setNX, r | .expire, r | .expireNX, r | .hexists, r | .hsetNX, r
  | .hmsetStruct, r => ∃ e, r = .error e
  | .hmget, r => ∃ e, r = .error e
  | .hgetAll, r | .hgetAllStruct, r => ∃ e, r = .error e
  | .hkeys, r | .hvalues, r => ∃ e, r = .error e
  | .hincrByFloat, r => ∃ e, r = .error e
  | .hsetStruct, r => (∃ e, r.1 = .error e) ∨ ((∃ j, r.1 = .ok j) ∧ ∃ e, r.2 = .error e)

/-- The server answered that the key or field is not there: a nil reply, a nil value for
the field, or the empty hash of a missing key. -/
def absent : (op : Operation) → op.Outcomes → Prop
  | .getDel true, r => r.1 = .error .nil
  | .get, r | .getDel false, r | .hget, r | .hgetStruct, r => r = .error .nil
  | .hmget, r => r = .ok none
  | .hgetAll, r | .hgetAllStruct, r => r = .ok ∅
  | _, _ => False

/-- The error law: a failure is returned as an error other than `redis.Nil`, and
`redis.Nil` only when the key or field is absent. -/
def Faithful (op : Operation) : Prop :=
  ∀ r : op.Outcomes, (op.failed r → ∃ m, op.error r = some (.other m)) ∧
    (op.error r = some .nil → op.absent r)

end Operation

/-! ### The law, operation by operation -/

/-- The shared check returns the error of a reply that is never nil as it is, and never
`redis.Nil`. -/
theorem checked_other_law {α β : Type} (zero : β) (f : α → β) (r : Reply α) :
    ((∃ e, r = .error e) → ∃ m, (RedisClient.checked .other zero f r).2 = some (.other m)) ∧
      ((RedisClient.checked .other zero f r).2 = some .nil → False) := by
  cases r <;> simp [RedisClient.checked]

/-- The shared check on a command that answers nil returns `redis.Nil` exactly for a nil
reply. -/
theorem checked_id_law {β : Type} (zero : β) (r : Cmd β) :
    (Operation.Failed r → ∃ m, (RedisClient.checked id zero id r).2 = some (.other m)) ∧
      ((RedisClient.checked id zero id r).2 = some .nil → r = .error .nil) := by
  rcases r with (_ | m) | v <;> simp [RedisClient.checked, Operation.Failed]

theorem getDelCluster_law (g : Cmd String) (d : Reply Int) :
    (Operation.Failed g ∨ ((∃ v, g = .ok v) ∧ ∃ e, d = .error e) →
        ∃ m, (RedisClient.getDelCluster g d).2 = some (.other m)) ∧
      ((RedisClient.getDelCluster g d).2 = some .nil → g = .error .nil) := by
  rcases g with (_ | m) | v <;> rcases d with e | n <;>
    simp [RedisClient.getDelCluster, Operation.Failed]

theorem hmget_law (r : Reply (Option String)) :
    ((∃ e, r = .error e) → ∃ m, (RedisClient.hmget r).2 = some (.other m)) ∧
      ((RedisClient.hmget r).2 = some .nil → r = .ok none) := by
  rcases r with e | _ | v <;> simp [RedisClient.hmget]

theorem hsetStruct_law (m : Except String String) (r : Reply Int) :
    ((∃ e, m = .error e) ∨ ((∃ j, m = .ok j) ∧ ∃ e, r = .error e) →
        ∃ e, RedisClient.hsetStruct m r = some (.other e)) ∧
      (RedisClient.hsetStruct m r = some .nil → False) := by
  rcases m with e | j
  · exact ⟨fun _ => ⟨e, rfl⟩, nofun⟩
  · exact ⟨fun h => (checked_other_law () (fun _ => ()) r).1 (by simpa using h),
      (checked_other_law () (fun _ => ()) r).2⟩

/-- Every operation keeps the error law except `HGet`, `HGetAll` and the struct helpers built
on them: a failed `HGET` is reported as `redis.Nil`, and a failed `HGETALL` as success. -/
theorem operation_faithful_iff (op : Operation) :
    op.Faithful ↔ op ∉ [.hget, .hgetAll, .hgetStruct, .hgetAllStruct] := by
  cases op
  case hget | hgetStruct =>
    refine iff_of_false (fun h => ?_) (by decide)
    obtain ⟨m, hm⟩ := (h (.error (.other ""))).1 trivial
    cases hm
  case hgetAll | hgetAllStruct =>
    refine iff_of_false (fun h => ?_) (by decide)
    obtain ⟨m, hm⟩ := (h (.error "")).1 ⟨_, rfl⟩
    cases hm
  case get => exact iff_of_true (fun r => checked_id_law "" r) (by decide)
  case getDel cluster =>
    cases cluster
    · exact iff_of_true (fun r => checked_id_law "" r) (by decide)
    · exact iff_of_true (fun r => getDelCluster_law r.1 r.2) (by decide)
  case hmget => exact iff_of_true hmget_law (by decide)
  case hsetStruct => exact iff_of_true (fun r => hsetStruct_law r.1 r.2) (by decide)
  all_goals exact iff_of_true (fun r => checked_other_law _ _ r) (by decide)

/-- A `HGET` that times out reads as a missing field, and so does a present empty field; a
`HGETALL` that times out reads as an empty hash with no error. -/
theorem hget_timeout_reported_missing :
    RedisClient.hget (.error (.other "i/o timeout")) = (none, some .nil) ∧
      RedisClient.hget (.ok "") = (none, some .nil) ∧
      RedisClient.hgetAll (.error "i/o timeout") = (∅, none) ∧
      ¬ Operation.hget.Faithful ∧ ¬ Operation.hgetAll.Faithful :=
  ⟨rfl, rfl, rfl, fun h => (operation_faithful_iff .hget).mp h (by decide),
    fun h => (operation_faithful_iff .hgetAll).mp h (by decide)⟩

/-! ## Keys and the client prefix -/

namespace RedisClient

/-- `Set` on the key space. -/
def setIn (c : RedisClient) (ks : Keyspace) (key val : String) : Keyspace :=
  Redis.set ks (c.fullKey key) val

/-- `Get` on the key space. -/
def getIn (c : RedisClient) (ks : Keyspace) (key : String) : String × Option RedisError :=
  get (Redis.get ks (c.fullKey key))

/-- `GetAllKeyByPrefix`: the keys a scan for `p + ":*"` finds, on the single instance or on
every master of the cluster, whose key spaces together make up `ks`. -/
def getAllKeyByPrefix (c : RedisClient) (ks : Keyspace) (p : String) :
    Except String (Multiset String) :=
  match c.mode with
  | .none => .error "redis is not initialized"
  | _ => .ok (scan ks (p ++ ":*").toList)

/-- For a prefix free of glob syntax, `GetAllKeyByPrefix` returns the stored keys that start
with it and a colon. -/
theorem getAllKeyByPrefix_literal {c : RedisClient} (hm : c.mode ≠ .none) {q : String}
    (hq : ∀ ch ∈ q.toList, globMeta ch = false) (ks : Keyspace) :
    c.getAllKeyByPrefix ks q =
      .ok (ks.keys.val.filter fun k => (q ++ ":").toList.isPrefixOf k.toList) := by
  have hl : (q ++ ":*").toList = (q ++ ":").toList ++ ['*'] := by
    show (q ++ ":*").data = (q ++ ":").data ++ ['*']
    simp
  have hs := stringMatch_literal_star (l := (q ++ ":").toList) (by simp [String.toList])
    (by
      intro ch hch
      simp only [String.toList, String.data_append, List.mem_append] at hch
      rcases hch with h | h
      · exact hq ch h
      · simp at h; subst h; rfl)
  unfold getAllKeyByPrefix
  split
  · contradiction
  · simp only [scan, hl, hs]

end RedisClient

open RedisClient in
/-- `GetAllKeyByPrefix(q)` scans the stored key space, not the prefixed one. With no client
prefix, after `Set(q:s, v)` it finds a key whose `Get` is `v`. With a client prefix, after
`Set(q:s, v)` on an empty server, every key it returns reads as missing: the stored key carries
the client prefix, and `Get` adds the prefix once more. -/
theorem getAllKeyByPrefix_scans_stored_keys {mode : Mode} (hm : mode ≠ .none) (p q s v : String)
    (hq : ∀ ch ∈ q.toList, globMeta ch = false) :
    (∀ ks : Keyspace, (newRedisClient mode p).getAllKeyByPrefix ks q =
        .ok (ks.keys.val.filter fun k => (q ++ ":").toList.isPrefixOf k.toList)) ∧
    (p = "" → ∀ ks : Keyspace, ∃ keys,
        (newRedisClient mode p).getAllKeyByPrefix
          ((newRedisClient mode p).setIn ks (q ++ ":" ++ s) v) q = .ok keys ∧
        ∃ k2 ∈ keys, (newRedisClient mode p).getIn
          ((newRedisClient mode p).setIn ks (q ++ ":" ++ s) v) k2 = (v, none)) ∧
    (p ≠ "" → ∃ keys,
        (newRedisClient mode p).getAllKeyByPrefix
          ((newRedisClient mode p).setIn ∅ (q ++ ":" ++ s) v) q = .ok keys ∧
        ∀ k2 ∈ keys, (newRedisClient mode p).getIn
          ((newRedisClient mode p).setIn ∅ (q ++ ":" ++ s) v) k2 = ("", some .nil)) := by
  have hall := fun ks => getAllKeyByPrefix_literal (c := newRedisClient mode p) hm hq ks
  have hpre : (q ++ ":").toList.isPrefixOf (q ++ ":" ++ s).toList := by
    rw [List.isPrefixOf_iff_prefix]
    exact ⟨s.toList, by simp [String.toList]⟩
  refine ⟨hall, fun hp ks => ⟨_, hall _, q ++ ":" ++ s, ?_, ?_⟩, fun hp => ⟨_, hall _, fun k2 hk2 => ?_⟩⟩
  · subst hp
    simp [Multiset.mem_filter, setIn, fullKey, newRedisClient, Redis.set, hpre, Finmap.mem_keys]
  · subst hp
    simp [getIn, setIn, fullKey, newRedisClient, RedisClient.get, RedisClient.checked]
  · have hlen : 0 < p.length := by
      rcases p with ⟨_ | ⟨_, _⟩⟩
      · exact absurd rfl hp
      · simp [String.length]
    have hk : (newRedisClient mode p).keyPrefix = p ++ ":" := by
      simp [newRedisClient, hlen]
    simp only [setIn, fullKey, hk, Redis.set, Multiset.mem_filter, Finset.mem_val,
      Finmap.mem_keys, Finmap.mem_insert, Finmap.not_mem_empty, or_false] at hk2
    obtain ⟨rfl, -⟩ := hk2
    have hne : p ++ ":" ++ (p ++ ":" ++ (q ++ ":" ++ s)) ≠ p ++ ":" ++ (q ++ ":" ++ s) := by
      intro h
      have := congrArg String.length h
      simp only [String.length_append] at this
      omega
    simp only [getIn, setIn, fullKey, hk, Redis.set]
    rw [Redis.get, Finmap.lookup_insert_of_ne _ hne]
    rfl

open RedisClient in
theorem getAllKeyByPrefix_scans_stored_keys_app :
    (Mode.single ≠ .none ∧ ∀ ch ∈ "orders".toList, globMeta ch = false) ∧
    (∀ ks : Keyspace, (newRedisClient .single "app").getAllKeyByPrefix ks "orders" =
        .ok (ks.keys.val.filter fun k => ("orders" ++ ":").toList.isPrefixOf k.toList)) ∧
    ("app" = "" → ∀ ks : Keyspace, ∃ keys,
        (newRedisClient .single "app").getAllKeyByPrefix
          ((newRedisClient .single "app").setIn ks ("orders" ++ ":" ++ "1") "paid") "orders" =
            .ok keys ∧
        ∃ k2 ∈ keys, (newRedisClient .single "app").getIn
          ((newRedisClient .single "app").setIn ks ("orders" ++ ":" ++ "1") "paid") k2 =
            ("paid", none)) ∧
    ("app" ≠ "" → ∃ keys,
        (newRedisClient .single "app").getAllKeyByPrefix
          ((newRedisClient .single "app").setIn ∅ ("orders" ++ ":" ++ "1") "paid") "orders" =
            .ok keys ∧
        ∀ k2 ∈ keys, (newRedisClient .single "app").getIn
          ((newRedisClient .single "app").setIn ∅ ("orders" ++ ":" ++ "1") "paid") k2 =
            ("", some .nil)) :=
  have h : _ ∧ _ := ⟨by decide, by decide⟩
  ⟨h, getAllKeyByPrefix_scans_stored_keys h.1 "app" "orders" "1" "paid" h.2⟩

end Redis
end MsaCore
