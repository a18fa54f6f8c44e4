import MsaCore.Redis.Client

/-!
# `GetDel` against concurrent `Set` calls

On a single-instance client `GetDel(key)` sends one `GETDEL`, which the server runs as one
command. On a cluster client it sends `GET` and then, when the `GET` found the key, `DEL`: two
commands, and the server runs the commands of other clients between them. `Set(key, val)`
sends one `SET` in both modes.

The model is the key space of the server, the `GetDel` calls made so far (each about to send
its first command, between its `GET` and its `DEL`, or returned), and a record kept for the
proofs only. `Set`s are numbered in the order the server runs them; each key remembers the
`Set` that wrote the value it holds, each `GetDel` that returns a value adds the `Set` that
wrote it to `returned`, and a `DEL` that removes the value of another `Set` than the one its
`GET` read adds that `Set` to `clobbered`.

A schedule is any list of actions: a `Set`, the start of a `GetDel`, or the next command of a
call in progress. Every interleaving of the calls' commands at the server is a schedule.

* On a single-instance client no run returns the value of one `Set` twice, and no `GetDel`
  removes a value other than the one it returns (`Atomic.run`).
* On a cluster client two `GetDel`s whose `GET`s both run before either `DEL` return the same
  value (`run_twoGetDels`), and the `DEL` of a `GetDel` removes the value of a `Set` that ran
  after its `GET`, a value no `GetDel` returns (`run_setBetween`).
-/

namespace MsaCore
namespace Redis

/-- Where a `GetDel` call is. -/
inductive Pc where
  /-- About to send its first command. -/
  | start
  /-- A cluster call whose `GET` returned `val`, written by `Set` number `read`; about to send
  `DEL`. -/
  | got (val : String) (read : Option Nat)
  /-- Returned `result`. -/
  | done (result : String × Option RedisError)
  deriving DecidableEq

/-- A `GetDel(key)` call. -/
structure GetDelCall where
  key : String
  pc : Pc
  deriving DecidableEq

/-- The server, the `GetDel` calls made so far, and the record of which `Set` wrote what. -/
structure World where
  store : Keyspace
  /-- The `Set` that wrote the value each key holds. -/
  origin : Finmap fun _ : String => Nat
  /-- The number of `Set`s run so far. -/
  writes : Nat
  calls : List GetDelCall
  /-- The `Set`s whose values `GetDel`s returned, the latest first. -/
  returned : List Nat
  /-- The `Set`s whose values a `DEL` removed in place of the value its `GET` read. -/
  clobbered : List Nat

/-- A server holding `ks`, before any call. -/
def World.init (ks : Keyspace) : World := ⟨ks, ∅, 0, [], [], []⟩

/-- One step of a schedule. -/
inductive Action where
  /-- A `Set(key, val)` call, one `SET`. -/
  | set (key val : String)
  /-- A `GetDel(key)` call starts. -/
  | getDel (key : String)
  /-- The `i`-th `GetDel` call sends its next command. -/
  | next (i : Nat)

namespace World

variable (w : World)

/-- `SET key val`, run by the server as `Set` number `w.writes`. -/
def set (key val : String) : World :=
  { w with store := Redis.set w.store key val, origin := w.origin.insert key w.writes,
           writes := w.writes + 1 }

/-- The record of a `GetDel` that returns the value of `Set` `read` and removes `key`. -/
def taken (key : String) (read : Option Nat) : World :=
  { w with origin := w.origin.erase key, returned := read.toList ++ w.returned }

/-- `GETDEL key`, the one command of call `i` on a single-instance client. -/
def sendGetDel (i : Nat) (key : String) : World :=
  let r := Redis.getDel w.store key
  let w' := { w with store := r.2, calls := w.calls.set i ⟨key, .done (RedisClient.getDelSingle r.1)⟩ }
  match r.1 with
  | .ok _ => w'.taken key (w.origin.lookup key)
  | .error _ => w'

/-- `GET key`, the first command of call `i` on a cluster client: an error, `redis.Nil`
included, is returned at once. -/
def sendGet (i : Nat) (key : String) : World :=
  match Redis.get w.store key with
  | .ok val => { w with calls := w.calls.set i ⟨key, .got val (w.origin.lookup key)⟩ }
  | .error e => { w with calls := w.calls.set i ⟨key, .done ("", some e)⟩ }

/-- `DEL key`, the second command of call `i` on a cluster client, whose `GET` returned `val`
written by `Set` `read`. It removes whatever the key holds by now. -/
def sendDel (i : Nat) (key val : String) (read : Option Nat) : World :=
  let r := Redis.del w.store key
  { w with store := r.2,
           calls := w.calls.set i ⟨key, .done (RedisClient.getDelCluster (.ok val) (.ok r.1))⟩,
           clobbered := (if w.origin.lookup key = read then [] else (w.origin.lookup key).toList) ++
             w.clobbered }.taken key read

/-- One step on a cluster client (`cluster`) or a single-instance one. An action that is not
enabled changes nothing. -/
def step (cluster : Bool) : Action → World
  | .set key val => w.set key val
  | .getDel key => { w with calls := w.calls ++ [⟨key, .start⟩] }
  | .next i =>
    match w.calls[i]? with
    | some ⟨key, .start⟩ => if cluster then w.sendGet i key else w.sendGetDel i key
    | some ⟨key, .got val read⟩ => w.sendDel i key val read
    | _ => w

end World

/-- A schedule run from `w`. -/
def World.run (w : World) (cluster : Bool) : List Action → World
  | [] => w
  | a :: as => (w.step cluster a).run cluster as

/-! ## What a step does -/

theorem lookup_insert_eq_some {β : Type} {m : Finmap fun _ : String => β} {key k : String}
    {v b : β} : (m.insert key v).lookup k = some b ↔ k = key ∧ v = b ∨ k ≠ key ∧ m.lookup k = some b := by
  by_cases hk : k = key
  · subst hk; simp
  · simp [hk, Finmap.lookup_insert_of_ne _ hk]

theorem lookup_erase_eq_some {β : Type} {m : Finmap fun _ : String => β} {key k : String} {b : β} :
    (m.erase key).lookup k = some b ↔ k ≠ key ∧ m.lookup k = some b := by
  by_cases hk : k = key
  · subst hk; simp [Finmap.lookup_erase]
  · simp [hk, Finmap.lookup_erase_ne hk]

namespace World

section Steps

variable {w : World} {i : Nat} {key val : String} {read : Option Nat}

theorem step_next_start (cluster : Bool) (h : w.calls[i]? = some ⟨key, .start⟩) :
    w.step cluster (.next i) = if cluster then w.sendGet i key else w.sendGetDel i key := by
  simp [step, h]

theorem step_next_got (cluster : Bool) (h : w.calls[i]? = some ⟨key, .got val read⟩) :
    w.step cluster (.next i) = w.sendDel i key val read := by
  simp [step, h]

/-- Only a `Set` adds to the record of which `Set` wrote what; every other step keeps the
count and forgets keys at most. -/
theorem step_origin (cluster : Bool) (a : Action) :
    (∃ key val, a = .set key val) ∨
      ((w.step cluster a).writes = w.writes ∧
        ∀ k n, (w.step cluster a).origin.lookup k = some n → w.origin.lookup k = some n) := by
  have herase : ∀ key k n, (w.origin.erase key).lookup k = some n → w.origin.lookup k = some n :=
    fun _ _ _ h => (lookup_erase_eq_some.mp h).2
  cases a with
  | set key val => exact .inl ⟨key, val, rfl⟩
  | getDel key => exact .inr ⟨rfl, fun _ _ => id⟩
  | next i =>
    refine .inr ?_
    simp only [step]
    split
    · cases cluster
      · simp only [Bool.false_eq_true, if_false, sendGetDel]
        split
        · exact ⟨rfl, herase _⟩
        · exact ⟨rfl, fun _ _ => id⟩
      · simp only [if_true, sendGet]
        split <;> exact ⟨rfl, fun _ _ => id⟩
    · exact ⟨rfl, herase _⟩
    · exact ⟨rfl, fun _ _ => id⟩

end Steps

end World

/-- Every key holds the value of a `Set` that has run. -/
def Fresh (w : World) : Prop := ∀ k n, w.origin.lookup k = some n → n < w.writes

theorem Fresh.step {w : World} (h : Fresh w) (cluster : Bool) (a : Action) :
    Fresh (w.step cluster a) := by
  rcases World.step_origin (w := w) cluster a with ⟨key, val, rfl⟩ | ⟨hw, ho⟩
  · intro k n hk
    rcases lookup_insert_eq_some.mp hk with ⟨-, rfl⟩ | ⟨-, hk⟩
    · exact Nat.lt_succ_self _
    · exact Nat.lt_succ_of_lt (h k n hk)
  · exact fun k n hk => hw ▸ h k n (ho k n hk)

theorem Fresh.run {w : World} (h : Fresh w) (cluster : Bool) (sched : List Action) :
    Fresh (w.run cluster sched) := by
  induction sched generalizing w with
  | nil => exact h
  | cons a sched ih => exact ih (h.step cluster a)

theorem fresh_init (ks : Keyspace) : Fresh (World.init ks) := by
  simp [Fresh, World.init]

/-! ## A single-instance client: `GetDel` is atomic -/

/-- The record shows no broken `GetDel`: the keys hold values of distinct `Set`s that ran and
that no `GetDel` returned; no `Set`'s value was returned twice; no `DEL` removed a value other
than the one its `GET` read; and no call is between a `GET` and a `DEL`. -/
structure Atomic (w : World) : Prop where
  fresh : Fresh w
  returned_lt : ∀ n ∈ w.returned, n < w.writes
  live : ∀ k n, w.origin.lookup k = some n → n ∉ w.returned
  origin_inj : ∀ k k' n, w.origin.lookup k = some n → w.origin.lookup k' = some n → k = k'
  nodup : w.returned.Nodup
  clean : w.clobbered = []
  no_got : ∀ c ∈ w.calls, ∀ val read, c.pc ≠ .got val read

namespace Atomic

variable {w : World}

theorem init (ks : Keyspace) : Atomic (World.init ks) :=
  ⟨fresh_init ks, nofun, by simp [World.init], by simp [World.init], List.nodup_nil, rfl, nofun⟩

/-- The server and the calls may change freely, as long as no call is left between a `GET`
and a `DEL`. -/
theorem update (h : Atomic w) {store : Keyspace} {calls : List GetDelCall}
    (hc : ∀ c ∈ calls, ∀ val read, c.pc ≠ .got val read) :
    Atomic { w with store := store, calls := calls } :=
  ⟨h.fresh, h.returned_lt, h.live, h.origin_inj, h.nodup, h.clean, hc⟩

theorem no_got_set (h : Atomic w) (i : Nat) (key : String) {pc : Pc}
    (hpc : ∀ val read, pc ≠ .got val read) :
    ∀ c ∈ w.calls.set i ⟨key, pc⟩, ∀ val read, c.pc ≠ .got val read := fun c hc =>
  (List.mem_or_eq_of_mem_set hc).elim (h.no_got c) (· ▸ hpc)

theorem set (h : Atomic w) (key val : String) : Atomic (w.set key val) where
  fresh := h.fresh.step false (.set key val)
  returned_lt n hn := Nat.lt_succ_of_lt (h.returned_lt n hn)
  live k n hk := by
    rcases lookup_insert_eq_some.mp hk with ⟨-, rfl⟩ | ⟨-, hk⟩
    · exact fun hn => lt_irrefl _ (h.returned_lt _ hn)
    · exact h.live k n hk
  origin_inj k k' n hk hk' := by
    rcases lookup_insert_eq_some.mp hk with ⟨rfl, rfl⟩ | ⟨-, h1⟩ <;>
      rcases lookup_insert_eq_some.mp hk' with ⟨rfl, hn⟩ | ⟨-, h2⟩
    · rfl
    · exact absurd (h.fresh k' _ h2) (lt_irrefl _)
    · exact absurd (h.fresh k n h1) (by omega)
    · exact h.origin_inj k k' n h1 h2
  nodup := h.nodup
  clean := h.clean
  no_got := h.no_got

/-- Returning the value a key holds and forgetting the key keeps the record. -/
theorem taken (h : Atomic w) (key : String) : Atomic (w.taken key (w.origin.lookup key)) where
  fresh k n hk := h.fresh k n (lookup_erase_eq_some.mp hk).2
  returned_lt n hn := by
    rcases List.mem_append.mp hn with hn | hn
    · exact h.fresh key n (Option.mem_toList.mp hn)
    · exact h.returned_lt n hn
  live k n hk hn := by
    obtain ⟨hne, hk⟩ := lookup_erase_eq_some.mp hk
    rcases List.mem_append.mp hn with hn | hn
    · exact hne (h.origin_inj k key n hk (Option.mem_toList.mp hn))
    · exact h.live k n hk hn
  origin_inj k k' n hk hk' :=
    h.origin_inj k k' n (lookup_erase_eq_some.mp hk).2 (lookup_erase_eq_some.mp hk').2
  nodup := by
    cases hk : w.origin.lookup key with
    | none => exact h.nodup
    | some n => exact List.nodup_cons.mpr ⟨h.live key n hk, h.nodup⟩
  clean := h.clean
  no_got := h.no_got

theorem sendGetDel (h : Atomic w) (i : Nat) (key : String) : Atomic (w.sendGetDel i key) := by
  have hu : Atomic
      { w with store := (Redis.getDel w.store key).2,
               calls := w.calls.set i ⟨key, .done (RedisClient.getDelSingle (Redis.getDel w.store key).1)⟩ } :=
    h.update (h.no_got_set i key fun _ _ => nofun)
  dsimp only [World.sendGetDel]
  split
  · exact hu.taken key
  · exact hu

/-- A step of a single-instance client keeps the record. -/
theorem step (h : Atomic w) (a : Action) : Atomic (w.step false a) := by
  cases a with
  | set key val => exact h.set key val
  | getDel key =>
    refine h.update fun c hc => ?_
    rcases List.mem_append.mp hc with hc | hc
    · exact h.no_got c hc
    · rw [List.mem_singleton.mp hc]; exact fun _ _ => nofun
  | next i =>
    simp only [World.step]
    split
    · exact h.sendGetDel i _
    · rename_i key val read hi
      exact absurd rfl (h.no_got _ (List.getElem?_mem hi) val read)
    · exact h

theorem run (h : Atomic w) (sched : List Action) : Atomic (w.run false sched) := by
  induction sched generalizing w with
  | nil => exact h
  | cons a sched ih => exact ih (h.step a)

end Atomic

/-! ## A cluster client: `GET` and `DEL` are two commands -/

section Cluster

variable {w : World} {i j : Nat} {key val : String}

/-- Two `GetDel(key)` calls whose `GET`s both run before either `DEL` both return the value
the key held, and the record counts that `Set` twice. -/
theorem run_twoGetDels (hij : i ≠ j) (hi : w.calls[i]? = some ⟨key, .start⟩)
    (hj : w.calls[j]? = some ⟨key, .start⟩) (hv : Redis.get w.store key = .ok val) :
    (w.run true [.next i, .next j, .next i, .next j]).calls[i]? = some ⟨key, .done (val, none)⟩ ∧
      (w.run true [.next i, .next j, .next i, .next j]).calls[j]? =
        some ⟨key, .done (val, none)⟩ ∧
      (w.run true [.next i, .next j, .next i, .next j]).returned =
        (w.origin.lookup key).toList ++ (w.origin.lookup key).toList ++ w.returned := by
  obtain ⟨hil, hi⟩ := List.getElem?_eq_some.mp hi
  obtain ⟨hjl, hj⟩ := List.getElem?_eq_some.mp hj
  simp [World.run, World.step, World.sendGet, World.sendDel, World.taken, List.getElem?_set,
    List.getElem_set, hi, hj, hij, hij.symm, hil, hjl, hv, RedisClient.getDelCluster]

/-- A `Set(key, val2)` that runs between the `GET` and the `DEL` of a `GetDel(key)`: the call
returns the value its `GET` read, and its `DEL` removes the value of that `Set`, which no
`GetDel` returns and no `Get` finds. -/
theorem run_setBetween (hf : Fresh w) (hi : w.calls[i]? = some ⟨key, .start⟩)
    (hv : Redis.get w.store key = .ok val) (val2 : String) :
    (w.run true [.next i, .set key val2, .next i]).calls[i]? = some ⟨key, .done (val, none)⟩ ∧
      (w.run true [.next i, .set key val2, .next i]).returned =
        (w.origin.lookup key).toList ++ w.returned ∧
      (w.run true [.next i, .set key val2, .next i]).clobbered = w.writes :: w.clobbered ∧
      Redis.get (w.run true [.next i, .set key val2, .next i]).store key = .error .nil := by
  obtain ⟨hil, hi⟩ := List.getElem?_eq_some.mp hi
  have hne : some w.writes ≠ w.origin.lookup key := fun h => lt_irrefl _ (hf key _ h.symm)
  simp [World.run, World.step, World.sendGet, World.sendDel, World.taken, World.set,
    List.getElem?_set, List.getElem_set, hi, hil, hv, hne, RedisClient.getDelCluster, Redis.del]

end Cluster

/-- `GetDel` is an atomic get-and-delete on a single-instance client and not on a cluster
client. On a single-instance client, in every run from any key space, no `Set`'s value is
returned twice and no `GetDel` removes a value other than the one it returns. On a cluster
client, two `GetDel`s of a key whose `GET`s both run before either `DEL` both return the
value of one `Set`; and a `Set` that runs between the `GET` and the `DEL` of a `GetDel` has
its value removed by that `DEL`, while the `GetDel` returns the older value. -/
theorem getDel_atomic_only_single :
    (∀ (ks : Keyspace) (sched : List Action),
      ((World.init ks).run false sched).returned.Nodup ∧
        ((World.init ks).run false sched).clobbered = []) ∧
    (∀ (w : World) (i j : Nat) (key val : String), i ≠ j →
      w.calls[i]? = some ⟨key, .start⟩ → w.calls[j]? = some ⟨key, .start⟩ →
      Redis.get w.store key = .ok val →
        (w.run true [.next i, .next j, .next i, .next j]).calls[i]? =
            some ⟨key, .done (val, none)⟩ ∧
          (w.run true [.next i, .next j, .next i, .next j]).calls[j]? =
            some ⟨key, .done (val, none)⟩ ∧
          (w.run true [.next i, .next j, .next i, .next j]).returned =
            (w.origin.lookup key).toList ++ (w.origin.lookup key).toList ++ w.returned) ∧
    (∀ (w : World) (i : Nat) (key val val2 : String), Fresh w →
      w.calls[i]? = some ⟨key, .start⟩ → Redis.get w.store key = .ok val →
        (w.run true [.next i, .set key val2, .next i]).calls[i]? =
            some ⟨key, .done (val, none)⟩ ∧
          (w.run true [.next i, .set key val2, .next i]).returned =
            (w.origin.lookup key).toList ++ w.returned ∧
          (w.run true [.next i, .set key val2, .next i]).clobbered = w.writes :: w.clobbered ∧
          Redis.get (w.run true [.next i, .set key val2, .next i]).store key = .error .nil) :=
  ⟨fun ks sched => have h := (Atomic.init ks).run sched; ⟨h.nodup, h.clean⟩,
    fun _ _ _ _ _ hij hi hj hv => run_twoGetDels hij hi hj hv,
    fun _ _ _ _ val2 hf hi hv => run_setBetween hf hi hv val2⟩

/-- After `Set("order:1", "paid")`, two `GetDel("order:1")` calls on a cluster client. -/
theorem getDel_atomic_only_single_orders :
    let w := (World.init ∅).run true [.set "order:1" "paid", .getDel "order:1", .getDel "order:1"]
    ((0 ≠ 1 ∧ w.calls[0]? = some ⟨"order:1", .start⟩ ∧ w.calls[1]? = some ⟨"order:1", .start⟩ ∧
        Redis.get w.store "order:1" = .ok "paid") ∧
      (w.run true [.next 0, .next 1, .next 0, .next 1]).calls[0]? =
          some ⟨"order:1", .done ("paid", none)⟩ ∧
        (w.run true [.next 0, .next 1, .next 0, .next 1]).calls[1]? =
          some ⟨"order:1", .done ("paid", none)⟩ ∧
        (w.run true [.next 0, .next 1, .next 0, .next 1]).returned =
          (w.origin.lookup "order:1").toList ++ (w.origin.lookup "order:1").toList ++ w.returned) ∧
    ((Fresh w ∧ w.calls[0]? = some ⟨"order:1", .start⟩ ∧
        Redis.get w.store "order:1" = .ok "paid") ∧
      (w.run true [.next 0, .set "order:1" "shipped", .next 0]).calls[0]? =
          some ⟨"order:1", .done ("paid", none)⟩ ∧
        (w.run true [.next 0, .set "order:1" "shipped", .next 0]).returned =
          (w.origin.lookup "order:1").toList ++ w.returned ∧
        (w.run true [.next 0, .set "order:1" "shipped", .next 0]).clobbered =
          w.writes :: w.clobbered ∧
        Redis.get (w.run true [.next 0, .set "order:1" "shipped", .next 0]).store "order:1" =
          .error .nil) :=
  have h : _ ∧ _ ∧ _ ∧ _ := ⟨by decide, rfl, rfl, rfl⟩
  have hf : Fresh _ := (fresh_init ∅).run true _
  ⟨⟨h, getDel_atomic_only_single.2.1 _ 0 1 "order:1" "paid" h.1 h.2.1 h.2.2.1 h.2.2.2⟩,
    ⟨⟨hf, h.2.1, h.2.2.2⟩, getDel_atomic_only_single.2.2 _ 0 "order:1" "paid" "shipped" hf h.2.1 h.2.2.2⟩⟩

end Redis
end MsaCore
