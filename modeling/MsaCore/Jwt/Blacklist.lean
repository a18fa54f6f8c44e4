import Mathlib.Data.Finmap

/-!
# The token blacklist

`blacklistedTokens` is a process-wide `sync.Map` from token to expiry time. `BlacklistToken`
stores one entry; `IsTokenBlacklisted` loads the entry and, when it has expired (or is not a
time), deletes the token in a second, separate operation. Calls run concurrently, so other
calls can run between the load and the delete of one `IsTokenBlacklisted`.

The model is the map, a monotone clock, and the `IsTokenBlacklisted` calls in progress, each
at its load, at its delete, or returned. A schedule is any list of actions: the clock
advancing, a `BlacklistToken`, the start of an `IsTokenBlacklisted`, or one atomic step of a
call in progress. Every interleaving of the calls is a schedule.

The delete removes the token whatever the map holds by then: a cleanup decided on an
expired entry erases a `BlacklistToken` of the same token made after the load, and the token
is reported as not blacklisted while that blacklisting is still in force. A blacklisting made
while no cleanup of its token is pending does stay in force until it expires.
-/

namespace MsaCore
namespace Jwt

/-- A value of the map: the `time.Time` `BlacklistToken` stores, or a value of another type. -/
inductive Entry where
  | time (expiresAt : Int)
  | other
  deriving DecidableEq

/-- Where an `IsTokenBlacklisted` call is. -/
inductive Pc where
  /-- About to load the entry. -/
  | load
  /-- Found an expired or malformed entry; about to delete the token. -/
  | delete
  /-- Returned its result. -/
  | done (result : Bool)
  deriving DecidableEq

/-- An `IsTokenBlacklisted` call: its token, the time it started, and where it is. -/
structure CheckCall where
  token : String
  started : Int
  pc : Pc
  deriving DecidableEq

/-- The blacklist, the clock, and the `IsTokenBlacklisted` calls made so far. -/
structure World where
  clock : Int
  store : Finmap fun _ : String => Entry
  checks : List CheckCall

/-- An empty blacklist at time `now`, before any call. -/
def World.init (now : Int) : World := ⟨now, ∅, []⟩

/-- One step of a schedule. -/
inductive Action where
  /-- The clock advances. -/
  | tick (n : Nat)
  /-- A `BlacklistToken(token, expiry)` call, one atomic store. -/
  | blacklistToken (token : String) (expiry : Int)
  /-- An `IsTokenBlacklisted(token)` call starts. -/
  | call (token : String)
  /-- The `i`-th call loads the entry. -/
  | load (i : Nat)
  /-- The `i`-th call deletes the token. -/
  | delete (i : Nat)

/-- `BlacklistToken`: the token is stored with expiry `now + expiry`. -/
def blacklistToken (w : World) (token : String) (expiry : Int) : Except String World :=
  if token = "" then .error "empty token"
  else .ok { w with store := w.store.insert token (.time (w.clock + expiry)) }

/-- Where the load of `IsTokenBlacklisted(token)` at time `now` leads: true for an entry still
in force, the delete for an expired or malformed one, false for none. -/
def loadStep (store : Finmap fun _ : String => Entry) (now : Int) (token : String) : Pc :=
  if token = "" then .done false
  else
    match store.lookup token with
    | some (.time exp) => if now < exp then .done true else .delete
    | some .other => .delete
    | none => .done false

/-- One step. An action that is not enabled changes nothing. -/
def step (w : World) : Action → World
  | .tick n => { w with clock := w.clock + n }
  | .blacklistToken token expiry =>
    match blacklistToken w token expiry with
    | .ok w' => w'
    | .error _ => w
  | .call token => { w with checks := w.checks ++ [⟨token, w.clock, .load⟩] }
  | .load i =>
    match w.checks[i]? with
    | some ⟨token, started, .load⟩ =>
      { w with checks := w.checks.set i ⟨token, started, loadStep w.store w.clock token⟩ }
    | _ => w
  | .delete i =>
    match w.checks[i]? with
    | some ⟨token, started, .delete⟩ =>
      { w with store := w.store.erase token, checks := w.checks.set i ⟨token, started, .done false⟩ }
    | _ => w

/-- A schedule run from `w`. -/
def run (w : World) : List Action → World
  | [] => w
  | a :: as => run (step w a) as

/-! ## Steps -/

section Steps

variable {w : World} {i : Nat} {token : String} {started : Int}

@[simp] theorem store_step_call : (step w (.call token)).store = w.store := rfl

@[simp] theorem store_step_load : (step w (.load i)).store = w.store := by
  simp only [step]; split <;> rfl

theorem step_load (h : w.checks[i]? = some ⟨token, started, .load⟩) :
    step w (.load i) =
      { w with checks := w.checks.set i ⟨token, started, loadStep w.store w.clock token⟩ } := by
  simp [step, h]

theorem step_delete (h : w.checks[i]? = some ⟨token, started, .delete⟩) :
    step w (.delete i) =
      { w with store := w.store.erase token, checks := w.checks.set i ⟨token, started, .done false⟩ } := by
  simp [step, h]

/-- The clock never goes back. -/
theorem clock_le_step (w : World) (a : Action) : w.clock ≤ (step w a).clock := by
  cases a with
  | tick n => show w.clock ≤ w.clock + n; omega
  | blacklistToken t d => simp only [step, blacklistToken]; split_ifs <;> simp
  | call => exact le_rfl
  | load i => simp only [step]; split <;> exact le_rfl
  | delete i => simp only [step]; split <;> exact le_rfl

/-- A call started now and loaded at once returns what the map holds now. -/
theorem run_call_load (token : String) :
    (run w [.call token, .load w.checks.length]).checks[w.checks.length]? =
      some ⟨token, w.clock, loadStep w.store w.clock token⟩ := by
  have hc : (step w (.call token)).checks[w.checks.length]? = some ⟨token, w.clock, .load⟩ := by
    simp [step]
  simp [run, step_load hc, step]

end Steps

/-! ## A cleanup races a new blacklisting -/

/-- A call of `IsTokenBlacklisted(t)` about to delete `t` while the map holds an entry for
`t` still in force: a check of `t` started now would return true, but once the delete has
run, the entry is gone and a check of `t` started at the same time returns false. -/
theorem cleanup_erases_live_blacklisting {w : World} {i : Nat} {token : String} {started e : Int}
    (hc : w.checks[i]? = some ⟨token, started, .delete⟩) (hne : token ≠ "")
    (he : w.store.lookup token = some (.time e)) (hlive : w.clock < e) :
    (run w [.call token, .load w.checks.length]).checks[w.checks.length]? =
        some ⟨token, w.clock, .done true⟩ ∧
      let w' := run w [.delete i, .call token, .load w.checks.length]
      w'.store.lookup token = none ∧
        w'.checks[w.checks.length]? = some ⟨token, w.clock, .done false⟩ := by
  refine ⟨by simp [run_call_load, loadStep, hne, he, hlive], ?_⟩
  have h1 := step_delete hc
  have key := run_call_load (w := step w (.delete i)) token
  rw [h1] at key
  refine ⟨by simp [run, h1], ?_⟩
  simpa [run, h1, loadStep] using key

/-- `tok` is blacklisted for 10 s at time 0; at time 10 a check loads the expired entry and,
before its delete, `tok` is blacklisted again for 100 s. -/
def raceSchedule : List Action :=
  [.blacklistToken "tok" 10, .tick 10, .call "tok", .load 0, .blacklistToken "tok" 100]

theorem cleanup_erases_live_blacklisting_race :
    let w := run (World.init 0) raceSchedule
    (w.checks[0]? = some ⟨"tok", 10, .delete⟩ ∧ "tok" ≠ "" ∧
      w.store.lookup "tok" = some (.time 110) ∧ w.clock < 110) ∧
    (run w [.call "tok", .load w.checks.length]).checks[w.checks.length]? =
        some ⟨"tok", w.clock, .done true⟩ ∧
      let w' := run w [.delete 0, .call "tok", .load w.checks.length]
      w'.store.lookup "tok" = none ∧
        w'.checks[w.checks.length]? = some ⟨"tok", w.clock, .done false⟩ :=
  have h : _ ∧ _ ∧ _ ∧ _ := ⟨by decide, by decide, by decide, by decide⟩
  ⟨h, cleanup_erases_live_blacklisting h.1 h.2.1 h.2.2.1 h.2.2.2⟩

/-! ## A blacklisting made with no cleanup pending -/

/-- No call of `IsTokenBlacklisted(t)` is between its load and its delete. -/
def NoPendingCleanup (t : String) (w : World) : Prop :=
  ∀ c ∈ w.checks, c.token = t → c.pc ≠ .delete

/-- Until time `e`, the map holds `t` with expiry `e` and no cleanup of `t` is pending. -/
def InForce (t : String) (e : Int) (w : World) : Prop :=
  w.clock < e → w.store.lookup t = some (.time e) ∧ NoPendingCleanup t w

section InForce

variable {t : String} {e : Int} {w : World}

theorem NoPendingCleanup.set {i : Nat} {c : CheckCall} (h : NoPendingCleanup t w)
    (hc : c.token = t → c.pc ≠ .delete) : NoPendingCleanup t { w with checks := w.checks.set i c } :=
  fun c' hc' => (List.mem_or_eq_of_mem_set hc').elim (h c') (· ▸ hc)

/-- One step other than a new blacklisting of `t` keeps the blacklisting of `t` in force. -/
theorem step_inForce (ht : t ≠ "") {a : Action} (ha : ∀ d, a ≠ .blacklistToken t d)
    (h : InForce t e w) : InForce t e (step w a) := by
  intro hc
  have hc0 : w.clock < e := lt_of_le_of_lt (clock_le_step w a) hc
  obtain ⟨hl, hn⟩ := h hc0
  cases a with
  | tick n => exact ⟨hl, hn⟩
  | blacklistToken t' d =>
    have : t ≠ t' := fun h => ha d (by rw [h])
    simp only [step, blacklistToken]
    split_ifs
    · exact ⟨hl, hn⟩
    · exact ⟨by simpa [Finmap.lookup_insert_of_ne _ this] using hl, hn⟩
  | call t' =>
    refine ⟨hl, fun c hc' => ?_⟩
    rcases List.mem_append.mp hc' with hc' | hc'
    · exact hn c hc'
    · simp at hc'; subst hc'; simp
  | load i =>
    simp only [step]
    split
    · exact ⟨hl, hn.set fun h' => by simp only at h'; subst h'; simp [loadStep, ht, hl, hc0]⟩
    · exact ⟨hl, hn⟩
  | delete i =>
    simp only [step]
    split
    · rename_i t' st hget
      have : t ≠ t' := fun h' => hn _ (List.getElem?_mem hget) h'.symm rfl
      exact ⟨by simpa [Finmap.lookup_erase_ne this] using hl, hn.set fun _ => nofun⟩
    · exact ⟨hl, hn⟩

/-- A schedule with no new blacklisting of `t` keeps the blacklisting of `t` in force. -/
theorem run_inForce (ht : t ≠ "") {sched : List Action} (hs : ∀ d, .blacklistToken t d ∉ sched)
    (h : InForce t e w) : InForce t e (run w sched) := by
  induction sched generalizing w with
  | nil => exact h
  | cons a sched ih =>
    exact ih (fun d hd => hs d (List.mem_cons_of_mem _ hd))
      (step_inForce ht (fun d had => hs d (had ▸ List.mem_cons_self _ _)) h)

end InForce

/-- A `BlacklistToken(t, d)` made when no call of `IsTokenBlacklisted(t)` is between its load
and its delete stays in force until it expires, in every schedule with no later
`BlacklistToken(t, _)`: until then the map holds it, and every load of `t` returns true. -/
theorem blacklisting_in_force {t : String} {d : Int} {w : World} (ht : t ≠ "")
    (hp : NoPendingCleanup t w) {sched : List Action} (hs : ∀ d', .blacklistToken t d' ∉ sched) :
    let w' := run (step w (.blacklistToken t d)) sched
    InForce t (w.clock + d) w' ∧
      (w'.clock < w.clock + d → ∀ i started, w'.checks[i]? = some ⟨t, started, .load⟩ →
        (step w' (.load i)).checks[i]? = some ⟨t, started, .done true⟩) := by
  have h0 : InForce t (w.clock + d) (step w (.blacklistToken t d)) := fun _ => by
    simp [step, blacklistToken, ht]; exact hp
  have hw := run_inForce ht hs h0
  refine ⟨hw, fun hc i started hi => ?_⟩
  obtain ⟨hl, -⟩ := hw hc
  rw [step_load hi, List.getElem?_set_self']
  simp [hi, loadStep, ht, hl, hc]

/-- A call `IsTokenBlacklisted(tok)` started ten seconds after a one-minute blacklisting. -/
def checkSchedule : List Action := [.call "tok", .tick 10]

theorem blacklisting_in_force_check :
    ("tok" ≠ "" ∧ NoPendingCleanup "tok" (World.init 0) ∧
      ∀ d', Action.blacklistToken "tok" d' ∉ checkSchedule) ∧
    let w' := run (step (World.init 0) (.blacklistToken "tok" 60)) checkSchedule
    InForce "tok" ((World.init 0).clock + 60) w' ∧
      (w'.clock < (World.init 0).clock + 60 → ∀ i started,
        w'.checks[i]? = some ⟨"tok", started, .load⟩ →
          (step w' (.load i)).checks[i]? = some ⟨"tok", started, .done true⟩) :=
  have h : "tok" ≠ "" ∧ NoPendingCleanup "tok" (World.init 0) ∧
      ∀ d', Action.blacklistToken "tok" d' ∉ checkSchedule :=
    ⟨by decide, by simp [NoPendingCleanup, World.init], by simp [checkSchedule]⟩
  ⟨h, blacklisting_in_force h.1 h.2.1 h.2.2⟩

end Jwt
end MsaCore
