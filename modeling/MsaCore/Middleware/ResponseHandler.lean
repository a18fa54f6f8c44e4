import MsaCore.Common.Response

/-!
# The response middlewares

`ResponseHandlerMiddleware` wraps the data a handler left in the context (`SetResponseData`,
`ResponseHelper.Success`) into a `BaseResponse` with the time the request took;
`ErrorHandlerMiddleware` turns the error a handler returns into an `ErrorResponse`;
`ValidationErrorHandler` does so for the 400 errors only. `ResponseHelper` writes error
responses itself, with the time since `ResponseHandlerMiddleware` started.

An exchange is what these read and write of an `echo.Context`: the values `startTime`,
`responseData` and `responseMessage`, the response header `X-Processing-Time`, and the JSON
documents `c.JSON` wrote, in order. Echo commits the status of the first write and appends
the body of every later one. A handler returns an error or none, or panics. The clock readings
(`time.Now()`, `time.Since`) are parameters, in milliseconds.

`ErrorHandlerMiddleware` reads the processing time from the `X-Processing-Time` response header,
which nothing in the library sets; `ResponseHelper` computes it from `startTime`.
-/

namespace MsaCore
namespace Middleware

open Common

/-- A JSON document `c.JSON` writes. -/
inductive Document (α : Type) where
  | success (r : BaseResponse α)
  | error (r : ErrorResponse)

/-- What the response middlewares and helpers use of an `echo.Context`. -/
structure Exchange (α : Type) where
  /-- `c.Get("startTime")`. -/
  startTime : Option Int
  /-- `c.Get("responseData")`. -/
  responseData : Option α
  /-- `c.Get("responseMessage")`. -/
  responseMessage : Option String
  /-- `c.Response().Header().Get("X-Processing-Time")`. -/
  processingTimeHeader : String
  /-- The documents written, with their statuses, in order. -/
  written : List (Int × Document α)

namespace Exchange

variable {α : Type}

/-- An exchange before any handler ran. -/
def fresh : Exchange α := ⟨none, none, none, "", []⟩

/-- `c.Response().Status`: the status of the first write, 200 before any. -/
def status (c : Exchange α) : Int := (c.written.head?.map Prod.fst).getD 200

/-- `c.JSON(code, doc)`. -/
def json (c : Exchange α) (code : Int) (doc : Document α) : Exchange α :=
  { c with written := c.written ++ [(code, doc)] }

end Exchange

/-- An error a handler returns: an `*echo.HTTPError` with its code and its message, `none` for
a message that is not a string, or another error. -/
inductive HandlerError where
  | http (code : Int) (message : Option String)
  | other (text : String)

/-- `echo.HandlerFunc`: the error it returns, or its panic. -/
abbrev HandlerFunc (α : Type) := Exchange α → Except String (Option HandlerError × Exchange α)

variable {α : Type}

/-! ## Leaving data for the wrapper -/

/-- `SetResponseData(c, data, message)`. -/
def setResponseData (c : Exchange α) (data : α) (message : String) : Exchange α :=
  { c with responseData := some data, responseMessage := some message }

/-- `SetResponseDataOnly(c, data)`. -/
def setResponseDataOnly (c : Exchange α) (data : α) : Exchange α :=
  { c with responseData := some data }

/-- `GetProcessingTime(c)` at time `now`. -/
def getProcessingTime (now : Int) (c : Exchange α) : Int :=
  match c.startTime with
  | some start => now - start
  | none => 0

namespace ResponseHelper

/-- `Success(c, data, message)`. -/
def success (c : Exchange α) (data : α) (message : String) : Exchange α :=
  setResponseData c data message

/-- `SuccessOnly(c, data)`. -/
def successOnly (c : Exchange α) (data : α) : Exchange α :=
  setResponseData c data "Thành công"

/-- `Error(c, statusCode, errorResp)` at time `now`: the time since `startTime`, when set. -/
def error (now : Int) (c : Exchange α) (statusCode : Int) (errorResp : ErrorResponse) :
    Exchange α :=
  let errorResp := match c.startTime with
    | some start => { errorResp with processingTime := now - start }
    | none => errorResp
  c.json statusCode (.error errorResp)

/-- `ValidationError(c, message, details...)`. -/
def validationError (now : Int) (c : Exchange α) (message : String) (details : List ErrorDetail) :
    Exchange α :=
  error now c 400 (Common.validationError message details)

/-- `InternalError(c, message)`. -/
def internalError (now : Int) (c : Exchange α) (message : String) : Exchange α :=
  error now c 500 (Common.internalError message)

/-- `NotFound(c, message)`. -/
def notFound (now : Int) (c : Exchange α) (message : String) : Exchange α :=
  error now c 404 (Common.notFoundError message)

/-- `Unauthorized(c, message)`. -/
def unauthorized (now : Int) (c : Exchange α) (message : String) : Exchange α :=
  error now c 401 (Common.unauthorizedError message)

/-- `BadRequest(c, message, details...)`. -/
def badRequest (now : Int) (c : Exchange α) (message : String) (details : List ErrorDetail) :
    Exchange α :=
  error now c 400 (Common.validationError message details)

end ResponseHelper

/-! ## The middlewares -/

/-- `ResponseHandlerMiddleware()`, started at `start` and finishing at `finish`. -/
def responseHandlerMiddleware (start finish : Int) (next : HandlerFunc α) : HandlerFunc α :=
  fun c => do
    let (err, c) ← next { c with startTime := some start }
    let processingTime := finish - start
    if err.isSome then return (err, c)
    if c.status ≠ 200 then return (none, c)
    match c.responseData with
    | none => return (none, c)
    | some responseData =>
      let message := c.responseMessage.getD "Thành công"
      let baseResponse := { successResponse responseData message with processingTime }
      return (none, c.json 200 (.success baseResponse))

/-- The panic of the type assertion `e.Message.(string)` on another type. -/
def messageNotString : String := "interface conversion: interface {} is not string"

/-- `ErrorHandlerMiddleware()`. -/
def errorHandlerMiddleware (next : HandlerFunc α) : HandlerFunc α := fun c => do
  let (err, c) ← next c
  match err with
  | none => return (none, c)
  | some e =>
    let processingTimeStr := c.processingTimeHeader
    let processingTime := if processingTimeStr ≠ "" then (atoi processingTimeStr).getD 0 else 0
    match e with
    | .http code (some message) =>
      return (none, c.json code (.error { createErrorResponse code message [] with processingTime }))
    | .http _ none => throw messageNotString
    | .other _ =>
      return (none, c.json 500
        (.error { Common.internalError "Lỗi hệ thống không xác định" with processingTime }))

/-- `ValidationErrorHandler()`. -/
def validationErrorHandler (next : HandlerFunc α) : HandlerFunc α := fun c => do
  let (err, c) ← next c
  match err with
  | some (.http 400 _) =>
    return (none, c.json 400 (.error (Common.validationError "Dữ liệu không hợp lệ" [])))
  | _ => return (err, c)

end Middleware
end MsaCore
