import MsaCore.Common.Response

/-!
# The global manager under concurrent requests

Echo serves each request on a goroutine of its own, and the handlers of `BaseController` share
the global `I18nManager` with no lock. A request reaches the manager in one of three ways:

* `Error` calls `SetLocale` with the request's locale, which writes the manager's locale, loads
  the file and writes its messages; then it translates its message key with `T`, which reads
  the messages;
* `Success` and `SuccessWithMessage` translate with `TWithContext`: they read the manager's
  locale, translate with a manager of their own when it differs from the request's and the
  request's locale loads, and read the global messages otherwise;
* `SuccessWithPagination`, `ErrorWithDetails`, the handlers built on it and the validators
  translate with `T` alone: they read the global messages.

Each step of a request is one read or one write of the manager; loading a file touches nothing
shared and is part of the step that writes the messages. A schedule is a list of requests to
step, and every interleaving of the goroutines is a schedule. The runs start from an
initialised global manager.

* Run alone, a request answers what its handler computes (`run_solo`).
* Served one after another, each request answers from the file of its locale: `Error` and
  `Success` from their request's, a handler that translates with `T` alone from that of the
  last `Error` served before it, whatever its own request asked for
  (`serve_answers_in_locales`).
* The manager always holds the messages of one locale file, or its first messages, and every
  answer is a translation with such messages or with the request's own locale file.
* Between the `SetLocale` of an `Error` and its `T`, the `SetLocale` of another request
  replaces the messages, and the `Error` answers in the other request's locale. Between the
  write of the locale and the write of the messages, a `Success` in the new locale trusts the
  locale and reads the old messages.
-/

namespace MsaCore
namespace Common

/-- What a request does with the global manager. -/
inductive Call where
  /-- `Error`: `SetLocale(locale)`, then `T(key)`; no `T` for an error sent as it is. -/
  | error (locale : String) (key : Option String)
  /-- `TWithContext(key)` in the request's locale. -/
  | success (locale : String) (key : String)
  /-- `T(key)`. -/
  | global (key : String)

/-- Where a request is. -/
inductive Pc where
  /-- About to take its first step. -/
  | start
  /-- (`Error`) Its locale written; about to load the file and store the messages. -/
  | store
  /-- About to read the messages and translate. -/
  | translate
  /-- Answered with this message. -/
  | done (message : String)
  deriving DecidableEq

/-- A request: what it does and where it is. -/
structure Request where
  call : Call
  pc : Pc

/-- The global manager and the requests. -/
structure World where
  manager : I18nManager
  requests : List Request

/-- The key a request translates at its last step. -/
def Call.key : Call → Option String
  | .error _ key => key
  | .success _ key => some key
  | .global key => some key

/-- A request's translation with the messages of `m`; for an `Error` that translates nothing,
the error's own message, which is empty. -/
def Call.answer (c : Call) (m : I18nManager) : String := (c.key.map m.getMessage).getD ""

/-- What a call answers, and the manager it leaves, run alone on the manager `m`. -/
def Call.solo (env : Env) (c : Call) (m : I18nManager) : String × I18nManager :=
  match c with
  | .error locale _ => (c.answer (m.setLocale env locale).1, (m.setLocale env locale).1)
  | .success locale key => (tWithContext env (some m) (some locale) key, m)
  | .global _ => (c.answer m, m)

namespace World

variable (env : Env)

/-- Request `i` is `c`, now at `pc`. -/
def move (w : World) (i : Nat) (c : Call) (pc : Pc) : World :=
  { w with requests := w.requests.set i ⟨c, pc⟩ }

/-- One step of request `i`. A request that is done, or an index with no request, changes
nothing. -/
def step (w : World) (i : Nat) : World :=
  match w.requests[i]? with
  | none => w
  | some ⟨c, pc⟩ =>
    match c, pc with
    | .error locale _, .start =>
      { w.move i c .store with manager := { w.manager with locale := locale } }
    | .error locale key, .store =>
      let next := if key.isSome then Pc.translate else .done ""
      match loadMessages env locale with
      | some messages =>
        { w.move i c next with manager := { w.manager with messages := messages } }
      | none => w.move i c next
    | .success locale key, .start =>
      if locale ≠ w.manager.locale then
        match newI18nManager env locale with
        | some m => w.move i c (.done (m.getMessage key))
        | none => w.move i c .translate
      else w.move i c .translate
    | .global _, .start => w.move i c (.done (c.answer w.manager))
    | _, .translate => w.move i c (.done (c.answer w.manager))
    | _, _ => w

/-- A schedule run from `w`. -/
def run (w : World) : List Nat → World
  | [] => w
  | i :: is => run (step env w i) is

end World

/-! ## The requests of the handlers -/

section Handlers

variable {env : Env}

/-- The key `Error(c, err, v)` translates last: the error's message, or for an error without
one the default key of its code; none for an error sent as it is. -/
def errorKey (err : ErrorResponse) (hasData : Bool) : Option String :=
  if hasData ∨ err.message ≠ "" then some err.message
  else if err.code = ResponseCode.validationError then some "response.error.validation"
  else if err.code = ResponseCode.notFound then some "response.error.not_found"
  else if err.code = ResponseCode.unauthorized then some "response.error.unauthorized"
  else if err.code = ResponseCode.internalError then some "response.error.internal"
  else if err.code = ResponseCode.conflict then some "response.error.conflict"
  else none

theorem solo_error (m : I18nManager) (acceptLanguage : String) (err : ErrorResponse)
    (hasData : Bool) :
    (Call.error (getLocaleFromHeader acceptLanguage) (errorKey err hasData)).solo env m =
      ((BaseController.error env m acceptLanguage err hasData).1.2.message,
        (BaseController.error env m acceptLanguage err hasData).2) := by
  simp only [Call.solo, BaseController.error, Prod.mk.injEq, and_true]
  cases hasData
  · by_cases hm : err.message = ""
    · simp only [errorKey, hm, Bool.false_eq_true, ne_eq, not_true_eq_false, or_self, if_false]
      split_ifs
      all_goals first | rfl | exact hm.symm
    · simp only [errorKey, hm, ne_eq, not_false_eq_true, or_true, if_true, Bool.false_eq_true,
        if_false]
      rfl
  · rfl

theorem solo_success {α : Type} (m : I18nManager) (acceptLanguage : String) (v : α) (key : String) :
    (Call.success (getLocaleFromHeader acceptLanguage) key).solo env m =
      ((BaseController.successWithMessage env m acceptLanguage v key).2.message, m) := rfl

theorem solo_global (m : I18nManager) (code : ResponseCode) (key : String)
    (details : List ErrorDetail) :
    (Call.global key).solo env m = ((BaseController.errorWithDetails env m code key details).2.message, m) :=
  rfl

end Handlers

namespace World

variable {env : Env} {w : World} {i j k : Nat} {c : Call}

/-! ## Steps -/

@[simp] theorem move_manager (pc : Pc) : (w.move i c pc).manager = w.manager := rfl

theorem move_self {r : Request} (h : w.requests[i]? = some r) (pc : Pc) :
    (w.move i c pc).requests[i]? = some ⟨c, pc⟩ :=
  List.getElem?_set_self (List.getElem?_eq_some_iff.mp h).1

theorem move_other (h : j ≠ i) (pc : Pc) : (w.move i c pc).requests[j]? = w.requests[j]? :=
  List.getElem?_set_ne (Ne.symm h)

theorem step_error_start (env : Env) {locale : String} {key : Option String}
    (h : w.requests[i]? = some ⟨.error locale key, .start⟩) :
    step env w i =
      { w.move i (.error locale key) .store with manager := { w.manager with locale := locale } } := by
  simp [step, h]

theorem step_error_store_loaded {locale : String} {key : Option String} {messages : Fields}
    (h : w.requests[i]? = some ⟨.error locale key, .store⟩)
    (hl : loadMessages env locale = some messages) :
    step env w i =
      { w.move i (.error locale key) (if key.isSome then .translate else .done "") with
        manager := { w.manager with messages := messages } } := by
  simp [step, h, hl]

theorem step_error_store_failed {locale : String} {key : Option String}
    (h : w.requests[i]? = some ⟨.error locale key, .store⟩) (hl : loadMessages env locale = none) :
    step env w i = w.move i (.error locale key) (if key.isSome then .translate else .done "") := by
  simp [step, h, hl]

theorem step_success_own (env : Env) {locale key : String} {m : I18nManager}
    (h : w.requests[i]? = some ⟨.success locale key, .start⟩) (hne : locale ≠ w.manager.locale)
    (hm : newI18nManager env locale = some m) :
    step env w i = w.move i (.success locale key) (.done (m.getMessage key)) := by
  simp [step, h, hne, hm]

theorem step_success_global (env : Env) {locale key : String}
    (h : w.requests[i]? = some ⟨.success locale key, .start⟩)
    (hg : locale = w.manager.locale ∨ newI18nManager env locale = none) :
    step env w i = w.move i (.success locale key) .translate := by
  rcases hg with hg | hg <;> simp [step, h, hg]

theorem step_global_start {key : String} (h : w.requests[i]? = some ⟨.global key, .start⟩) :
    step env w i = w.move i (.global key) (.done (w.manager.getMessage key)) := by
  simp [step, h, Call.answer, Call.key]

theorem step_translate (h : w.requests[i]? = some ⟨c, .translate⟩) :
    step env w i = w.move i c (.done (c.answer w.manager)) := by
  cases c <;> simp [step, h]

theorem step_done {msg : String} (h : w.requests[i]? = some ⟨c, .done msg⟩) : step env w i = w := by
  cases c <;> simp [step, h]

/-! ## Runs -/

theorem run_append (w : World) (s t : List Nat) : run env w (s ++ t) = run env (run env w s) t := by
  induction s generalizing w with
  | nil => rfl
  | cons i s ih => exact ih _

/-- A step of one request leaves the others where they are. -/
theorem step_other (h : j ≠ i) : (step env w i).requests[j]? = w.requests[j]? := by
  unfold step
  split
  · rfl
  · split <;> (try split) <;> (try split) <;> first | rfl | exact move_other h _

/-- The first two steps of an `Error` are its `SetLocale`. -/
theorem run_error_setLocale (env : Env) {locale : String} {key : Option String}
    (h : w.requests[i]? = some ⟨.error locale key, .start⟩) :
    (run env w [i, i]).manager = (w.manager.setLocale env locale).1 ∧
      (run env w [i, i]).requests[i]? =
        some ⟨.error locale key, if key.isSome then .translate else .done ""⟩ ∧
      ∀ j, j ≠ i → (run env w [i, i]).requests[j]? = w.requests[j]? := by
  have h1 : (step env w i).requests[i]? = some ⟨.error locale key, .store⟩ := by
    rw [step_error_start _ h]; exact move_self h _
  cases hl : loadMessages env locale with
  | none =>
    refine ⟨?_, ?_, fun j hj => ?_⟩ <;>
      simp only [run, step_error_store_failed h1 hl, I18nManager.setLocale, hl]
    · rw [step_error_start _ h]; rfl
    · exact move_self h1 _
    · rw [move_other hj, step_other hj]
  | some messages =>
    refine ⟨?_, ?_, fun j hj => ?_⟩ <;>
      simp only [run, step_error_store_loaded h1 hl, I18nManager.setLocale, hl]
    · rw [step_error_start _ h]
    · exact move_self h1 _
    · rw [move_other hj, step_other hj]

/-- A step of a request that is done changes nothing, and so does a run of such steps. -/
theorem run_done {msg : String} (h : w.requests[i]? = some ⟨c, .done msg⟩) (n : Nat) :
    run env w (List.replicate n i) = w := by
  induction n with
  | zero => rfl
  | succ n ih => rw [List.replicate_succ, run, step_done h, ih]

/-- Run alone for three steps, a request answers what its call computes on the manager, and
leaves the manager as its call does. -/
theorem run_solo (env : Env) (h : w.requests[i]? = some ⟨c, .start⟩) :
    (run env w [i, i, i]).requests[i]? = some ⟨c, .done (c.solo env w.manager).1⟩ ∧
      (run env w [i, i, i]).manager = (c.solo env w.manager).2 := by
  rw [show [i, i, i] = [i, i] ++ [i] from rfl, run_append]
  cases c with
  | error locale key =>
    obtain ⟨hm, hi, -⟩ := run_error_setLocale env h
    generalize run env w [i, i] = w₂ at hm hi
    simp only [Call.solo, run, hm.symm]
    cases key with
    | none =>
      simp only [Option.isSome_none, Bool.false_eq_true, if_false] at hi
      simp only [step_done hi]
      exact ⟨hi, trivial⟩
    | some k =>
      simp only [Option.isSome_some, if_true] at hi
      simp only [step_translate hi, move_manager]
      exact ⟨move_self hi _, trivial⟩
  | success locale key =>
    simp only [Call.solo, tWithContext_some, run]
    by_cases hg : locale = w.manager.locale ∨ newI18nManager env locale = none
    · have h1 := step_success_global env h hg
      have h1i : (step env w i).requests[i]? = some ⟨.success locale key, .translate⟩ := by
        rw [h1]; exact move_self h _
      have h2i := move_self (c := .success locale key) h1i
        (.done ((Call.success locale key).answer (step env w i).manager))
      rw [step_translate h1i, step_done h2i, move_manager, h1, move_manager]
      refine ⟨?_, rfl⟩
      rw [h1, move_manager] at h2i
      rcases hg with hg | hg
      · simpa [hg] using h2i
      · by_cases hne : locale = w.manager.locale
        · simpa [hne] using h2i
        · simpa [hne, hg] using h2i
    · obtain ⟨hne, m, hm⟩ : locale ≠ w.manager.locale ∧ ∃ m, newI18nManager env locale = some m := by
        simpa [not_or, Option.ne_none_iff_exists'] using hg
      have h1 := step_success_own env h hne hm
      have h1i : (step env w i).requests[i]? =
          some ⟨.success locale key, .done (m.getMessage key)⟩ := by
        rw [h1]; exact move_self h _
      rw [step_done h1i, step_done h1i, h1, move_manager]
      refine ⟨?_, rfl⟩
      simpa [hne, hm] using move_self (c := .success locale key) h (.done (m.getMessage key))
  | global key =>
    have h1i : (step env w i).requests[i]? = some ⟨.global key, .done (w.manager.getMessage key)⟩ := by
      rw [step_global_start h]; exact move_self h _
    simp only [run, step_done h1i, Call.solo]
    exact ⟨h1i, by rw [step_global_start h]; rfl⟩

/-! ## Two locale files -/

/-- `response.error.internal` in English. -/
def enMessages : Fields :=
  [("response", .obj [("error", .obj [("internal", .str "Internal error")])])]

/-- `response.error.internal` in Vietnamese. -/
def vnMessages : Fields :=
  [("response", .obj [("error", .obj [("internal", .str "Lỗi hệ thống")])])]

/-- `en.json` and `vn.json` in `src/i18n`, as `json.Marshal` writes them. -/
def twoLocales : Env :=
  ⟨["src/i18n"], fun _ name =>
    if name = "en.json" then .text (Json.encode (.obj enMessages))
    else if name = "vn.json" then .text (Json.encode (.obj vnMessages))
    else .missing⟩

theorem loadMessages_twoLocales :
    loadMessages twoLocales "en" = some enMessages ∧
      loadMessages twoLocales "vn" = some vnMessages := by
  simp [loadMessages, loadFrom, twoLocales, unmarshalMap, Json.decode_encode]

/-- The global manager, in English. -/
def enManager : I18nManager := ⟨enMessages, "en"⟩

/-! ## Handlers run alone -/

/-- Run alone, the request of each handler answers what the handler computes: `Error` the
message of its response, leaving the manager as its `SetLocale` leaves it; `SuccessWithMessage`
and `ErrorWithDetails` the message of theirs, leaving the manager as it was. -/
theorem handlers_run_alone (env : Env) :
    (∀ (w : World) (i : Nat) (acceptLanguage : String) (err : ErrorResponse) (hasData : Bool),
      w.requests[i]? =
          some ⟨.error (getLocaleFromHeader acceptLanguage) (errorKey err hasData), .start⟩ →
        (run env w [i, i, i]).requests[i]? =
            some ⟨.error (getLocaleFromHeader acceptLanguage) (errorKey err hasData),
              .done (BaseController.error env w.manager acceptLanguage err hasData).1.2.message⟩ ∧
          (run env w [i, i, i]).manager =
            (BaseController.error env w.manager acceptLanguage err hasData).2) ∧
    (∀ (w : World) (i : Nat) (α : Type) (v : α) (acceptLanguage key : String),
      w.requests[i]? = some ⟨.success (getLocaleFromHeader acceptLanguage) key, .start⟩ →
        (run env w [i, i, i]).requests[i]? =
            some ⟨.success (getLocaleFromHeader acceptLanguage) key,
              .done (BaseController.successWithMessage env w.manager acceptLanguage v key).2.message⟩ ∧
          (run env w [i, i, i]).manager = w.manager) ∧
    (∀ (w : World) (i : Nat) (code : ResponseCode) (key : String) (details : List ErrorDetail),
      w.requests[i]? = some ⟨.global key, .start⟩ →
        (run env w [i, i, i]).requests[i]? =
            some ⟨.global key,
              .done (BaseController.errorWithDetails env w.manager code key details).2.message⟩ ∧
          (run env w [i, i, i]).manager = w.manager) := by
  refine ⟨fun w i acceptLanguage err hasData h => ?_, fun w i α v acceptLanguage key h => ?_,
    fun w i code key details h => ?_⟩
  · have h := run_solo env h
    rw [solo_error] at h
    exact h
  · exact run_solo _ h
  · exact run_solo _ h

/-- An internal error without a message, for a client that prefers Vietnamese. -/
def aloneError : World :=
  ⟨enManager, [⟨.error (getLocaleFromHeader "vi") (errorKey ⟨500, "", [], 0⟩ false), .start⟩]⟩

/-- A `SuccessWithMessage` for a client that prefers Vietnamese. -/
def aloneSuccess : World :=
  ⟨enManager, [⟨.success (getLocaleFromHeader "vi") "response.error.internal", .start⟩]⟩

/-- An `ErrorWithDetails`. -/
def aloneGlobal : World := ⟨enManager, [⟨.global "response.error.internal", .start⟩]⟩

theorem handlers_run_alone_vi :
    (aloneError.requests[0]? =
        some ⟨.error (getLocaleFromHeader "vi") (errorKey ⟨500, "", [], 0⟩ false), .start⟩ ∧
      (run twoLocales aloneError [0, 0, 0]).requests[0]? =
          some ⟨.error (getLocaleFromHeader "vi") (errorKey ⟨500, "", [], 0⟩ false),
            .done (BaseController.error twoLocales enManager "vi" ⟨500, "", [], 0⟩ false).1.2.message⟩ ∧
        (run twoLocales aloneError [0, 0, 0]).manager =
          (BaseController.error twoLocales enManager "vi" ⟨500, "", [], 0⟩ false).2) ∧
    (aloneSuccess.requests[0]? =
        some ⟨.success (getLocaleFromHeader "vi") "response.error.internal", .start⟩ ∧
      (run twoLocales aloneSuccess [0, 0, 0]).requests[0]? =
          some ⟨.success (getLocaleFromHeader "vi") "response.error.internal",
            .done (BaseController.successWithMessage twoLocales enManager "vi" ()
              "response.error.internal").2.message⟩ ∧
        (run twoLocales aloneSuccess [0, 0, 0]).manager = enManager) ∧
    (aloneGlobal.requests[0]? = some ⟨.global "response.error.internal", .start⟩ ∧
      (run twoLocales aloneGlobal [0, 0, 0]).requests[0]? =
          some ⟨.global "response.error.internal",
            .done (BaseController.errorWithDetails twoLocales enManager 500
              "response.error.internal" []).2.message⟩ ∧
        (run twoLocales aloneGlobal [0, 0, 0]).manager = enManager) :=
  ⟨⟨rfl, (handlers_run_alone twoLocales).1 _ 0 "vi" ⟨500, "", [], 0⟩ false rfl⟩,
    ⟨rfl, (handlers_run_alone twoLocales).2.1 _ 0 Unit () "vi" "response.error.internal" rfl⟩,
    ⟨rfl, (handlers_run_alone twoLocales).2.2 _ 0 500 "response.error.internal" [] rfl⟩⟩

/-! ## Interleaved requests -/

/-- The `T` of an `Error` reads whatever the manager holds by then. Alone, an `Error` in a
locale that loads answers in that locale; when the `SetLocale` of another `Error` runs between
its `SetLocale` and its `T`, it answers in the other request's locale. -/
theorem error_answers_in_interleaved_locale {la lb ka : String} {kb : Option String}
    {msb : Fields} (hij : i ≠ j) (hi : w.requests[i]? = some ⟨.error la (some ka), .start⟩)
    (hj : w.requests[j]? = some ⟨.error lb kb, .start⟩) (hb : loadMessages env lb = some msb) :
    (∀ msa, loadMessages env la = some msa →
      (run env w [i, i, i]).requests[i]? =
        some ⟨.error la (some ka), .done (I18nManager.getMessage ⟨msa, la⟩ ka)⟩) ∧
    (run env w [i, i, j, j, i]).requests[i]? =
      some ⟨.error la (some ka), .done (I18nManager.getMessage ⟨msb, lb⟩ ka)⟩ := by
  refine ⟨fun msa ha => ?_, ?_⟩
  · have h := (run_solo env hi).1
    simpa [Call.solo, I18nManager.setLocale, ha, Call.answer, Call.key] using h
  rw [show [i, i, j, j, i] = [i, i] ++ [j, j] ++ [i] from rfl, run_append, run_append]
  obtain ⟨-, hi₂, hother₂⟩ := run_error_setLocale env hi
  generalize run env w [i, i] = w₂ at hi₂ hother₂
  obtain ⟨hm₄, -, hother₄⟩ := run_error_setLocale env ((hother₂ j (Ne.symm hij)).trans hj)
  have hi₄ := (hother₄ i hij).trans hi₂
  generalize run env w₂ [j, j] = w₄ at hm₄ hi₄
  simp only [Option.isSome_some, if_true] at hi₄
  simp only [run, step_translate hi₄]
  rw [move_self hi₄, hm₄]
  simp [I18nManager.setLocale, hb, Call.answer, Call.key]

/-- Two `Error`s, in English and in Vietnamese, the manager in English. -/
def twoErrors : World :=
  ⟨enManager, [⟨.error "en" (some "response.error.internal"), .start⟩, ⟨.error "vn" none, .start⟩]⟩

/-- The English `Error` answers in English alone, and in Vietnamese when the Vietnamese
`SetLocale` runs between its own `SetLocale` and its `T`. -/
theorem error_answers_in_interleaved_locale_en_vn :
    (0 ≠ 1 ∧ twoErrors.requests[0]? = some ⟨.error "en" (some "response.error.internal"), .start⟩ ∧
      twoErrors.requests[1]? = some ⟨.error "vn" none, .start⟩ ∧
      loadMessages twoLocales "vn" = some vnMessages) ∧
    ((∀ msa, loadMessages twoLocales "en" = some msa →
      (run twoLocales twoErrors [0, 0, 0]).requests[0]? =
        some ⟨.error "en" (some "response.error.internal"),
          .done (I18nManager.getMessage ⟨msa, "en"⟩ "response.error.internal")⟩) ∧
      (run twoLocales twoErrors [0, 0, 1, 1, 0]).requests[0]? =
        some ⟨.error "en" (some "response.error.internal"),
          .done (I18nManager.getMessage ⟨vnMessages, "vn"⟩ "response.error.internal")⟩) ∧
    I18nManager.getMessage ⟨enMessages, "en"⟩ "response.error.internal" = "Internal error" ∧
    I18nManager.getMessage ⟨vnMessages, "vn"⟩ "response.error.internal" = "Lỗi hệ thống" :=
  ⟨⟨by decide, rfl, rfl, loadMessages_twoLocales.2⟩,
    error_answers_in_interleaved_locale (by decide) rfl rfl loadMessages_twoLocales.2, rfl, rfl⟩

/-- `TWithContext` trusts the manager's locale. Alone, a `Success` in a locale other than the
manager's, whose file loads, answers with that file; when it reads the locale after an `Error`
in its locale wrote it, and before that `Error` stored the messages, it answers with the
manager's old messages. -/
theorem success_reads_stale_messages {la key : String} {ka : Option String} (hik : i ≠ k)
    (hi : w.requests[i]? = some ⟨.error la ka, .start⟩)
    (hk : w.requests[k]? = some ⟨.success la key, .start⟩) :
    (∀ m, la ≠ w.manager.locale → newI18nManager env la = some m →
      (run env w [k, k, k]).requests[k]? = some ⟨.success la key, .done (m.getMessage key)⟩) ∧
    (run env w [i, k, k]).requests[k]? =
      some ⟨.success la key, .done (w.manager.getMessage key)⟩ := by
  refine ⟨fun m hne hm => ?_, ?_⟩
  · have h := (run_solo env hk).1
    simpa [Call.solo, tWithContext_some, hne, hm] using h
  have e1 := step_error_start env hi
  have hk1 : (step env w i).requests[k]? = some ⟨.success la key, .start⟩ :=
    (step_other (Ne.symm hik)).trans hk
  have e2 := step_success_global env hk1 (.inl (by rw [e1]))
  have hk2 : (step env (step env w i) k).requests[k]? = some ⟨.success la key, .translate⟩ := by
    rw [e2]; exact move_self hk1 _
  simp only [run, step_translate hk2]
  rw [move_self hk2, e2, move_manager, e1]
  rfl

/-- A Vietnamese `Error` and a Vietnamese `Success`, the manager in English. -/
def errorAndSuccess : World :=
  ⟨enManager, [⟨.error "vn" none, .start⟩, ⟨.success "vn" "response.error.internal", .start⟩]⟩

/-- Alone, the Vietnamese `Success` answers from `vn.json`; after the `Error` has written the
locale and before it has stored the messages, it answers in English. -/
theorem success_reads_stale_messages_vn :
    (0 ≠ 1 ∧ errorAndSuccess.requests[0]? = some ⟨.error "vn" none, .start⟩ ∧
      errorAndSuccess.requests[1]? = some ⟨.success "vn" "response.error.internal", .start⟩) ∧
    ((∀ m, "vn" ≠ errorAndSuccess.manager.locale → newI18nManager twoLocales "vn" = some m →
      (run twoLocales errorAndSuccess [1, 1, 1]).requests[1]? =
        some ⟨.success "vn" "response.error.internal", .done (m.getMessage "response.error.internal")⟩) ∧
      (run twoLocales errorAndSuccess [0, 1, 1]).requests[1]? =
        some ⟨.success "vn" "response.error.internal",
          .done (errorAndSuccess.manager.getMessage "response.error.internal")⟩) ∧
    newI18nManager twoLocales "vn" = some ⟨vnMessages, "vn"⟩ ∧
    errorAndSuccess.manager.getMessage "response.error.internal" = "Internal error" :=
  ⟨⟨by decide, rfl, rfl⟩, success_reads_stale_messages (by decide) rfl rfl,
    by simp [newI18nManager, loadMessages_twoLocales.2], rfl⟩

/-! ## Every answer comes from a locale file -/

/-- Messages from a locale file, or the first messages `m₀`. -/
def FromFile (env : Env) (m₀ : Fields) (messages : Fields) : Prop :=
  messages = m₀ ∨ ∃ locale, loadMessages env locale = some messages

/-- A request that has answered answered a translation with messages from a file. -/
def Answered (env : Env) (m₀ : Fields) (r : Request) : Prop :=
  ∀ msg, r.pc = .done msg → ∃ m : I18nManager, FromFile env m₀ m.messages ∧ msg = r.call.answer m

/-- The invariant of every run. -/
structure Coherent (env : Env) (m₀ : Fields) (w : World) : Prop where
  manager : FromFile env m₀ w.manager.messages
  answers : ∀ r ∈ w.requests, Answered env m₀ r

theorem answered_move {m₀ : Fields} {pc : Pc} (h : ∀ r ∈ w.requests, Answered env m₀ r)
    (hc : Answered env m₀ ⟨c, pc⟩) : ∀ r ∈ (w.move i c pc).requests, Answered env m₀ r := by
  intro r hr
  rcases List.mem_or_eq_of_mem_set hr with hr | rfl
  · exact h r hr
  · exact hc

theorem answered_of_not_done {m₀ : Fields} {pc : Pc} (h : ∀ msg, pc ≠ .done msg) :
    Answered env m₀ ⟨c, pc⟩ := fun msg hm => absurd hm (h msg)

theorem answered_manager {m₀ : Fields} {m : I18nManager} (hm : FromFile env m₀ m.messages) :
    Answered env m₀ ⟨c, .done (c.answer m)⟩ := fun _ hmsg => ⟨m, hm, (Pc.done.inj hmsg).symm⟩

/-- Every step keeps the invariant. -/
theorem Coherent.step {m₀ : Fields} (h : Coherent env m₀ w) (i : Nat) :
    Coherent env m₀ (step env w i) := by
  rcases hr : w.requests[i]? with _ | ⟨c, pc⟩
  · simpa [World.step, hr] using h
  cases pc with
  | start =>
    cases c with
    | error locale key =>
      rw [step_error_start _ hr]
      exact ⟨h.manager, answered_move h.answers (answered_of_not_done nofun)⟩
    | success locale key =>
      by_cases hg : locale = w.manager.locale ∨ newI18nManager env locale = none
      · rw [step_success_global _ hr hg]
        exact ⟨h.manager, answered_move h.answers (answered_of_not_done nofun)⟩
      · obtain ⟨hne, m, hm⟩ : locale ≠ w.manager.locale ∧ ∃ m, newI18nManager env locale = some m := by
          simpa [not_or, Option.ne_none_iff_exists'] using hg
        rw [step_success_own _ hr hne hm]
        refine ⟨h.manager, answered_move h.answers fun _ hmsg => ⟨m, ?_, ?_⟩⟩
        · obtain ⟨ms, hl, rfl⟩ := Option.map_eq_some'.mp hm
          exact .inr ⟨locale, hl⟩
        · exact (Pc.done.inj hmsg).symm
    | global key =>
      rw [step_global_start hr]
      exact ⟨h.manager, answered_move h.answers (answered_manager (c := .global key) h.manager)⟩
  | store =>
    cases c with
    | error locale key =>
      have hnext : Answered env m₀ ⟨.error locale key, if key.isSome then .translate else .done ""⟩ := by
        cases key
        · exact answered_manager (c := .error locale none) h.manager
        · exact answered_of_not_done nofun
      cases hl : loadMessages env locale with
      | none =>
        rw [step_error_store_failed hr hl]
        exact ⟨h.manager, answered_move h.answers hnext⟩
      | some messages =>
        rw [step_error_store_loaded hr hl]
        exact ⟨.inr ⟨locale, hl⟩, answered_move h.answers hnext⟩
    | success | global => simpa [World.step, hr] using h
  | translate =>
    rw [step_translate hr]
    exact ⟨h.manager, answered_move h.answers (answered_manager h.manager)⟩
  | done msg => rw [step_done hr]; exact h

theorem Coherent.run {m₀ : Fields} (h : Coherent env m₀ w) (s : List Nat) :
    Coherent env m₀ (run env w s) := by
  induction s generalizing w with
  | nil => exact h
  | cons i s ih => exact ih (h.step i)

/-- Over every schedule, from a world whose requests have not started, every answer is the
translation of the request's key with the messages of one locale file, or with the manager's
first messages. -/
theorem answers_from_locale_files (w : World) (hw : ∀ r ∈ w.requests, r.pc = .start)
    (s : List Nat) :
    ∀ r ∈ (run env w s).requests, ∀ msg, r.pc = .done msg →
      ∃ m : I18nManager,
        (m.messages = w.manager.messages ∨ ∃ locale, loadMessages env locale = some m.messages) ∧
          msg = r.call.answer m :=
  (Coherent.run ⟨.inl rfl, fun r hr msg hm => by simp [hw r hr] at hm⟩ s).answers

theorem answers_from_locale_files_en_vn :
    (∀ r ∈ twoErrors.requests, r.pc = .start) ∧
    ∀ r ∈ (run twoLocales twoErrors [0, 0, 1, 1, 0]).requests, ∀ msg, r.pc = .done msg →
      ∃ m : I18nManager,
        (m.messages = twoErrors.manager.messages ∨
          ∃ locale, loadMessages twoLocales locale = some m.messages) ∧
          msg = r.call.answer m :=
  have h : ∀ r ∈ twoErrors.requests, r.pc = .start := by decide
  ⟨h, answers_from_locale_files twoErrors h _⟩

end World

/-! ## Requests served one after another -/

/-- Requests served one after another, each to its end before the next starts, from the
manager `m`: what each answers, in order. -/
def serve (env : Env) : I18nManager → List Call → List String
  | _, [] => []
  | m, c :: cs => (c.solo env m).1 :: serve env (c.solo env m).2 cs

/-- The locale of the manager after a call: the `SetLocale` of an `Error` moves it. -/
def Call.nextLocale (locale : String) : Call → String
  | .error l _ => l
  | _ => locale

/-- The locale a call translates in on a manager in `locale`: its own for `Error` and `Success`,
the manager's for `T` alone. -/
def Call.answerLocale (locale : String) : Call → String
  | .error l _ | .success l _ => l
  | .global _ => locale

/-- The locales the calls translate in, served one after another from a manager in `locale`. -/
def answerLocales (locale : String) : List Call → List String
  | [] => []
  | c :: cs => c.answerLocale locale :: answerLocales (c.nextLocale locale) cs

/-- The manager holds the messages of its locale's file whenever that file loads. -/
def InSync (env : Env) (m : I18nManager) : Prop :=
  ∀ f, loadMessages env m.locale = some f → m.messages = f

section Serve

variable {env : Env} {m : I18nManager}

/-- A call keeps the manager in sync and moves it to its next locale. -/
theorem solo_inSync (hm : InSync env m) (c : Call) :
    InSync env (c.solo env m).2 ∧ (c.solo env m).2.locale = c.nextLocale m.locale := by
  cases c with
  | error l key =>
    simp only [Call.solo, I18nManager.setLocale, Call.nextLocale, InSync]
    split <;> simp_all
  | success | global => exact ⟨hm, rfl⟩

/-- On a manager in sync, a call whose locale loads answers with that locale's messages. -/
theorem solo_answer (hm : InSync env m) (c : Call) {f : Fields}
    (hf : loadMessages env (c.answerLocale m.locale) = some f) :
    (c.solo env m).1 = c.answer ⟨f, c.answerLocale m.locale⟩ := by
  cases c with
  | error l key =>
    simp only [Call.answerLocale] at hf ⊢
    simp only [Call.solo, I18nManager.setLocale, hf]
  | success l key =>
    simp only [Call.answerLocale] at hf ⊢
    simp only [Call.solo, tWithContext_some, newI18nManager, hf, Option.map_some', Call.answer,
      Call.key, Option.getD_some]
    split_ifs with hl
    · rfl
    · simp only [I18nManager.getMessage, hm f (not_not.mp hl ▸ hf)]
  | global key =>
    simp only [Call.answerLocale] at hf ⊢
    simp only [Call.solo, Call.answer, Call.key, Option.map_some', Option.getD_some,
      I18nManager.getMessage, hm f hf]

/-- Served one after another from a manager in sync, each request answers with the messages of
the file of its locale, when the files load: `Error` and `Success` with their request's, and a
handler that translates with `T` alone (`ErrorWithDetails`, the validation errors,
`SuccessWithPagination`) with that of the last `Error` served before it, whatever its own
request asked for. -/
theorem serve_answers_in_locales (hm : InSync env m) (calls : List Call)
    (hl : ∀ l ∈ answerLocales m.locale calls, ∃ f, loadMessages env l = some f) :
    serve env m calls = List.zipWith (fun c l => c.answer ⟨(loadMessages env l).getD [], l⟩)
      calls (answerLocales m.locale calls) := by
  induction calls generalizing m with
  | nil => rfl
  | cons c cs ih =>
    obtain ⟨f, hf⟩ := hl _ (.head _)
    obtain ⟨hs, hloc⟩ := solo_inSync hm c
    rw [serve, solo_answer hm c hf, answerLocales, List.zipWith_cons_cons, hf, Option.getD_some,
      ih hs fun l h => hl l (.tail _ (hloc ▸ h)), hloc]

end Serve

/-- An `Error` in Vietnamese, then an `ErrorWithDetails`. -/
def errorThenGlobal : List Call :=
  [.error "vn" (some "response.error.internal"), .global "response.error.internal"]

/-- Served from the English manager, the `ErrorWithDetails` answers in Vietnamese. -/
theorem serve_answers_in_locales_vn :
    (InSync World.twoLocales World.enManager ∧
      ∀ l ∈ answerLocales World.enManager.locale errorThenGlobal,
        ∃ f, loadMessages World.twoLocales l = some f) ∧
    serve World.twoLocales World.enManager errorThenGlobal =
      List.zipWith (fun c l => c.answer ⟨(loadMessages World.twoLocales l).getD [], l⟩)
        errorThenGlobal (answerLocales World.enManager.locale errorThenGlobal) :=
  have hs : InSync World.twoLocales World.enManager := fun _ hf =>
    Option.some.inj (World.loadMessages_twoLocales.1.symm.trans hf)
  have hl : ∀ l ∈ answerLocales World.enManager.locale errorThenGlobal,
      ∃ f, loadMessages World.twoLocales l = some f := by
    simp [errorThenGlobal, answerLocales, Call.answerLocale, Call.nextLocale,
      World.loadMessages_twoLocales.2]
  ⟨⟨hs, hl⟩, serve_answers_in_locales hs _ hl⟩

example : serve World.twoLocales World.enManager errorThenGlobal = ["Lỗi hệ thống", "Lỗi hệ thống"] := by
  decide

end Common
end MsaCore
