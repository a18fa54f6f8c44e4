import MsaCore.Common.I18n
import MsaCore.Common.Pagination

/-!
# Responses of `BaseController`

The error and success responses of package `common` (`base_response.go`), the checks of
`BaseValidator`, and the handlers of `BaseController` that build responses from them
(`base_controller.go`).

Every message of a response is a message key translated through the i18n manager:

* by `TWithContext` in the request's locale: `Success` and `SuccessWithMessage`;
* by `T` in the locale of the global manager: `SuccessWithPagination`, `ErrorWithDetails` and
  the handlers built on it, and the messages of the validators' errors;
* `Error` first moves the global manager to the request's locale with `SetLocale`, then
  translates with `T`.

Each handler here runs on the global manager, initialised, as it finds it, and `Error` returns
it as it leaves it; `GlobalI18n` runs the handlers of concurrent requests together.

Left out: the timestamps (`time.Now()`), which nothing reads, and the writing of the response
by `c.JSON`: a handler returns the status and the response it writes. The `float64` of
`MinValue` and `MaxValue` is a parameter, with its `<` and its formatting.
-/

namespace MsaCore
namespace Common

/-! ## Responses -/

/-- `ResponseCode`, a Go `int`. -/
abbrev ResponseCode := Int

namespace ResponseCode

/-- `SUCCESS`. -/
def success : ResponseCode := 200
/-- `VALIDATION_ERROR`. -/
def validationError : ResponseCode := 400
/-- `UNAUTHORIZED`. -/
def unauthorized : ResponseCode := 401
/-- `FORBIDDEN`. -/
def forbidden : ResponseCode := 403
/-- `NOT_FOUND`. -/
def notFound : ResponseCode := 404
/-- `CONFLICT`. -/
def conflict : ResponseCode := 409
/-- `INTERNAL_ERROR`. -/
def internalError : ResponseCode := 500
/-- `BAD_REQUEST`. -/
def badRequest : ResponseCode := 400
/-- `METHOD_NOT_ALLOWED`. -/
def methodNotAllowed : ResponseCode := 405
/-- `REQUEST_TIMEOUT`. -/
def requestTimeout : ResponseCode := 408
/-- `TOO_MANY_REQUESTS`. -/
def tooManyRequests : ResponseCode := 429
/-- `SERVICE_UNAVAILABLE`. -/
def serviceUnavailable : ResponseCode := 503

end ResponseCode

/-- `ErrorDetail`. -/
structure ErrorDetail where
  field : String
  message : String
  value : String
  deriving DecidableEq

/-- `ErrorResponse`, without its timestamp. -/
structure ErrorResponse where
  code : ResponseCode
  message : String
  details : List ErrorDetail
  processingTime : Int
  deriving DecidableEq

/-- `BaseResponse`, without its timestamp; `data` is `none` for a nil `Data`. -/
structure BaseResponse (α : Type) where
  code : ResponseCode
  message : String
  data : Option α
  pagination : Option PaginationInfo
  processingTime : Int

/-- `SuccessResponse(data, message)`. -/
def successResponse {α : Type} (data : α) (message : String) : BaseResponse α :=
  ⟨ResponseCode.success, message, some data, none, 0⟩

/-- `SuccessResponseI18n(data, messageKey)` with the global manager. -/
def successResponseI18n {α : Type} (env : Env) (global : I18nManager) (data : α)
    (messageKey : String) : BaseResponse α :=
  ⟨ResponseCode.success, t env (some global) messageKey, some data, none, 0⟩

/-- `SuccessResponseWithPagination(data, message, pagination)`: it does not set `Data`. -/
def successResponseWithPagination {α : Type} (_data : α) (message : String)
    (pagination : PaginationInfo) : BaseResponse α :=
  ⟨ResponseCode.success, message, none, some pagination, 0⟩

/-- `CreateErrorResponse(code, message, details...)`. -/
def createErrorResponse (code : ResponseCode) (message : String) (details : List ErrorDetail) :
    ErrorResponse :=
  ⟨code, message, details, 0⟩

/-- `ValidationError(message, details...)`. -/
def validationError (message : String) (details : List ErrorDetail) : ErrorResponse :=
  createErrorResponse ResponseCode.validationError message details

/-- `NotFoundError(message)`. -/
def notFoundError (message : String) : ErrorResponse :=
  createErrorResponse ResponseCode.notFound message []

/-- `UnauthorizedError(message)`. -/
def unauthorizedError (message : String) : ErrorResponse :=
  createErrorResponse ResponseCode.unauthorized message []

/-- `InternalError(message)`. -/
def internalError (message : String) : ErrorResponse :=
  createErrorResponse ResponseCode.internalError message []

/-- `BadRequestError(message)`. -/
def badRequestError (message : String) : ErrorResponse :=
  createErrorResponse ResponseCode.badRequest message []

/-- `ConflictError(message)`. -/
def conflictError (message : String) : ErrorResponse :=
  createErrorResponse ResponseCode.conflict message []

/-- `CreateErrorResponseI18n(code, messageKey, details...)` with the global manager. -/
def createErrorResponseI18n (env : Env) (global : I18nManager) (code : ResponseCode)
    (messageKey : String) (details : List ErrorDetail) : ErrorResponse :=
  ⟨code, t env (some global) messageKey, details, 0⟩

/-- `ValidationErrorI18n(details...)`. -/
def validationErrorI18n (env : Env) (global : I18nManager) (details : List ErrorDetail) :
    ErrorResponse :=
  createErrorResponseI18n env global ResponseCode.validationError "response.error.validation" details

/-- `NotFoundErrorI18n()`. -/
def notFoundErrorI18n (env : Env) (global : I18nManager) : ErrorResponse :=
  createErrorResponseI18n env global ResponseCode.notFound "response.error.not_found" []

/-- `UnauthorizedErrorI18n()`. -/
def unauthorizedErrorI18n (env : Env) (global : I18nManager) : ErrorResponse :=
  createErrorResponseI18n env global ResponseCode.unauthorized "response.error.unauthorized" []

/-- `InternalErrorI18n()`. -/
def internalErrorI18n (env : Env) (global : I18nManager) : ErrorResponse :=
  createErrorResponseI18n env global ResponseCode.internalError "response.error.internal" []

/-- `BadRequestErrorI18n()`. -/
def badRequestErrorI18n (env : Env) (global : I18nManager) : ErrorResponse :=
  createErrorResponseI18n env global ResponseCode.badRequest "response.error.bad_request" []

/-- `ConflictErrorI18n()`. -/
def conflictErrorI18n (env : Env) (global : I18nManager) : ErrorResponse :=
  createErrorResponseI18n env global ResponseCode.conflict "response.error.conflict" []

/-- `SuccessResponseWithContext(ctx, data, messageKey)`. -/
def successResponseWithContext {α : Type} (env : Env) (global : I18nManager)
    (ctxLocale : Option String) (data : α) (messageKey : String) : BaseResponse α :=
  ⟨ResponseCode.success, tWithContext env (some global) ctxLocale messageKey, some data, none, 0⟩

/-- `SuccessResponseWithPaginationI18n(data, messageKey, pagination)`. -/
def successResponseWithPaginationI18n {α : Type} (env : Env) (global : I18nManager) (data : α)
    (messageKey : String) (pagination : PaginationInfo) : BaseResponse α :=
  ⟨ResponseCode.success, t env (some global) messageKey, some data, some pagination, 0⟩

/-! ## Validators -/

/-- A Go value as `reflect` sees it, by the kinds `isEmpty` tells apart. -/
inductive GoValue where
  | nil
  | string (s : String)
  /-- A slice, a map or an array, with its length. -/
  | collection (typeName : String) (len : Nat)
  /-- A pointer or an interface, nil or not. -/
  | pointer (typeName : String) (isNil : Bool)
  | other (typeName : String)

/-- `isEmpty`. -/
def isEmpty : GoValue → Bool
  | .nil => true
  | .string s => trimSpace s.data = []
  | .collection _ len => len = 0
  | .pointer _ isNil => isNil
  | .other _ => false

/-- `toString`: `reflect.Value.String()` trimmed, which is `<T Value>` for a value of a type
`T` that is not a string. -/
def toString : GoValue → String
  | .nil => ""
  | .string s => String.mk (trimSpace s.data)
  | .collection typeName _ | .pointer typeName _ | .other typeName =>
    String.mk (trimSpace ("<" ++ typeName ++ " Value>").data)

/-- `isValidEmail`: an `@` and a `.` somewhere. -/
def isValidEmail (email : String) : Bool := email.data.contains '@' && email.data.contains '.'

/-- `isValidURL`. -/
def isValidURL (url : String) : Bool :=
  "http://".data.isPrefixOf url.data || "https://".data.isPrefixOf url.data

/-- The shape of every `BaseValidator` check: an error for the field, with the message key
translated by `T` and the value as text, when the value fails; nil otherwise. -/
def check (env : Env) (global : I18nManager) (fails : Bool) (field value messageKey : String) :
    Option ErrorDetail :=
  if fails then some ⟨field, t env (some global) messageKey, value⟩ else none

namespace BaseValidator

variable (env : Env) (global : I18nManager)

/-- `Required`. -/
def required (field : String) (value : GoValue) (messageKey : String) : Option ErrorDetail :=
  check env global (isEmpty value) field (toString value) messageKey

/-- `MinLength`: `len` counts bytes. -/
def minLength (field value : String) (minLength : Int) (messageKey : String) :
    Option ErrorDetail :=
  check env global (decide ((value.utf8ByteSize : Int) < minLength)) field value messageKey

/-- `MaxLength`. -/
def maxLength (field value : String) (maxLength : Int) (messageKey : String) :
    Option ErrorDetail :=
  check env global (decide ((value.utf8ByteSize : Int) > maxLength)) field value messageKey

section Float

/- Go's `float64`, with its `<`, and `strconv.FormatFloat(value, 'f', -1, 64)` as `formatFloat`. -/
variable {F : Type} [LT F] [∀ a b : F, Decidable (a < b)] (formatFloat : F → String)

/-- `MinValue`. -/
def minValue (field : String) (value minValue : F) (messageKey : String) : Option ErrorDetail :=
  check env global (decide (value < minValue)) field (formatFloat value) messageKey

/-- `MaxValue`. -/
def maxValue (field : String) (value maxValue : F) (messageKey : String) : Option ErrorDetail :=
  check env global (decide (value > maxValue)) field (formatFloat value) messageKey

end Float

/-- `Email`. -/
def email (field value messageKey : String) : Option ErrorDetail :=
  check env global (!isValidEmail value) field value messageKey

/-- `URL`. -/
def url (field value messageKey : String) : Option ErrorDetail :=
  check env global (!isValidURL value) field value messageKey

/-- `Custom`. -/
def custom (field : String) (value : GoValue) (validator : GoValue → Bool) (messageKey : String) :
    Option ErrorDetail :=
  check env global (!validator value) field (toString value) messageKey

end BaseValidator

/-- `ValidationResult`. -/
structure ValidationResult where
  isValid : Bool
  errors : List ErrorDetail
  deriving DecidableEq

/-- One turn of the loop of `ValidateMultiple`: a rule that is not nil adds its error and makes
the result invalid. -/
def collectRule (r : ValidationResult) : Option ErrorDetail → ValidationResult
  | some e => ⟨false, r.errors ++ [e]⟩
  | none => r

/-- `ValidateMultiple(rules...)`: the loop over the rules, collecting each error. -/
def validateMultiple (rules : List (Option ErrorDetail)) : ValidationResult :=
  rules.foldl collectRule ⟨true, []⟩

/-! ## Handlers -/

/-- The HTTP status `Error` and `ErrorWithDetails` send for a response code. -/
def statusCodeOf (code : ResponseCode) : Int :=
  if code = 400 then 400
  else if code = ResponseCode.notFound then 404
  else if code = ResponseCode.unauthorized then 401
  else if code = ResponseCode.forbidden then 403
  else if code = ResponseCode.internalError then 500
  else if code = ResponseCode.conflict then 409
  else 500

namespace BaseController

variable (env : Env)

/-- `Error(c, err, v)` on a request with `Accept-Language` `acceptLanguage`: the status and the
response it writes, and the global manager after its `SetLocale`. `hasData` is `v != nil`. -/
def error (global : I18nManager) (acceptLanguage : String) (err : ErrorResponse)
    (hasData : Bool) : (Int × ErrorResponse) × I18nManager :=
  let statusCode := statusCodeOf err.code
  let locale := getLocaleFromHeader acceptLanguage
  let global := (global.setLocale env locale).1
  let errorResponse :=
    if err.message ≠ "" then createErrorResponseI18n env global err.code err.message err.details
    else if err.code = ResponseCode.validationError then validationErrorI18n env global []
    else if err.code = ResponseCode.notFound then notFoundErrorI18n env global
    else if err.code = ResponseCode.unauthorized then unauthorizedErrorI18n env global
    else if err.code = ResponseCode.internalError then internalErrorI18n env global
    else if err.code = ResponseCode.conflict then conflictErrorI18n env global
    else err
  let errorResponse :=
    if hasData then createErrorResponseI18n env global err.code err.message [⟨"", "", ""⟩]
    else errorResponse
  ((statusCode, errorResponse), global)

/-- `ErrorWithDetails(ctx, code, messageKey, details...)`; the request's locale is computed and
not used. -/
def errorWithDetails (global : I18nManager) (code : ResponseCode) (messageKey : String)
    (details : List ErrorDetail) : Int × ErrorResponse :=
  (statusCodeOf code, createErrorResponseI18n env global code messageKey details)

/-- `ValidationError(ctx, details...)`. -/
def validationError (global : I18nManager) (details : List ErrorDetail) : Int × ErrorResponse :=
  errorWithDetails env global ResponseCode.validationError "response.error.validation" details

/-- `ValidationErrorWithMessage(ctx, messageKey, details...)`. -/
def validationErrorWithMessage (global : I18nManager) (messageKey : String)
    (details : List ErrorDetail) : Int × ErrorResponse :=
  errorWithDetails env global ResponseCode.validationError messageKey details

/-- `HandleValidation(ctx, result, messageKey)`: the error it writes for an invalid result. -/
def handleValidation (global : I18nManager) (result : ValidationResult) (messageKey : String) :
    Option (Int × ErrorResponse) :=
  if !result.isValid then
    some (errorWithDetails env global ResponseCode.validationError messageKey result.errors)
  else none

/-- `SuccessWithMessage(c, v, messageKey)`. -/
def successWithMessage {α : Type} (global : I18nManager) (acceptLanguage : String) (v : α)
    (messageKey : String) : Int × BaseResponse α :=
  let locale := getLocaleFromHeader acceptLanguage
  (200, successResponseWithContext env global (some locale) v messageKey)

/-- `Success(c, v)`: `SuccessWithMessage` with `response.success.default`. -/
def success {α : Type} (global : I18nManager) (acceptLanguage : String) (v : α) :
    Int × BaseResponse α :=
  successWithMessage env global acceptLanguage v "response.success.default"

/-- `SuccessWithPagination(c, v, total, page, pageSize, messageKey)`; it panics where
`CalculatePagination` does. -/
def successWithPagination {α : Type} (global : I18nManager) (v : α) (total page pageSize : Int)
    (messageKey : String) : Except String (Int × BaseResponse α) := do
  let pagination ← calculatePagination page pageSize total
  pure (200, successResponseWithPaginationI18n env global v messageKey pagination)

end BaseController

/-! ## Validation, end to end -/

/-- A check gives an error exactly when the value fails it, and the error names the check's
field and value, with its message key translated. -/
theorem check_eq_some {env : Env} {global : I18nManager} {fails : Bool}
    {field value messageKey : String} {e : ErrorDetail} :
    check env global fails field value messageKey = some e ↔
      fails ∧ e = ⟨field, t env (some global) messageKey, value⟩ := by
  cases fails <;> simp [check, eq_comm]

/-- The loop of `ValidateMultiple` from any result: it is still valid when every rule was nil,
and it has the errors of the rules that were not, in order. -/
theorem foldl_collectRule (rules : List (Option ErrorDetail)) (r : ValidationResult) :
    rules.foldl collectRule r = ⟨r.isValid && rules.all Option.isNone, r.errors ++ rules.filterMap id⟩ := by
  induction rules generalizing r with
  | nil => simp
  | cons rule rules ih =>
    cases rule <;> simp [collectRule, ih]

/-- `HandleValidation` of the result of `ValidateMultiple` answers with a validation error
exactly when a rule failed: status 400, the message key translated by `T`, and the errors of
the failed rules, in the order of the rules. -/
theorem handleValidation_validateMultiple (env : Env) (global : I18nManager)
    (rules : List (Option ErrorDetail)) (messageKey : String) :
    BaseController.handleValidation env global (validateMultiple rules) messageKey =
      if rules.all Option.isNone then none
      else some (400, ⟨400, t env (some global) messageKey, rules.filterMap id, 0⟩) := by
  rw [validateMultiple, foldl_collectRule]
  cases rules.all Option.isNone <;> rfl

end Common
end MsaCore
