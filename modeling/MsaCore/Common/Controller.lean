import MsaCore.Common.GlobalI18n
import MsaCore.Middleware.ResponseHandler

/-!
# The service handlers of `BaseController`

Most handlers of `BaseController` wrap a service function. They call it, answer its error with
`Error(c, err, nil)`, and answer its value with one of the success handlers. `respond` is that
shape, and each `Response…` handler is `respond` with what it does with the value. The list
handlers answer a map of the data:

* `ResponseList` gives the data and the total;
* `ResponseListWithPagination` also gives the type and the pagination;
* `createPaginationResponse` and its variants give the data, the total, the pagination, the
  sorting for the variants that read it, and the meta (`paginationResponse`, `pageResponse`).

A handler takes what the service returned and returns the status and the document it writes,
with the global manager as it leaves it. As an `echo.HandlerFunc` (`handlerFunc`), it writes the
document and returns nil. Values of `[]*T` and `*T` are the values pointed to, and a nil `v`
gives a response without data.
-/

namespace MsaCore
namespace Common

open Middleware

/-! ## The maps the list handlers answer -/

/-- The map `{"data", "total"}` of `ResponseList`. -/
structure ListResponse (γ : Type) where
  data : List γ
  total : Int

/-- The map of `ResponseListWithPagination`: the data, the total, the type and the pagination. -/
structure PaginatedListResponse (γ : Type) where
  data : List γ
  total : Int
  type : String
  pagination : PaginationInfo

/-- The `meta` map of `createPaginationResponse` and its variants. -/
structure Meta where
  currentPage : Int
  pageSize : Int
  totalPages : Int
  hasNext : Bool
  hasPrev : Bool

/-- The map of `createPaginationResponse` and its variants; `sorting` holds `sort_by` and
`sort_order` for the variants that read them. -/
structure PaginationResponse (γ : Type) where
  data : List γ
  total : Int
  pagination : PaginationInfo
  sorting : Option (String × String)
  meta : Meta

namespace BaseController

variable (env : Env) (global : I18nManager) (acceptLanguage : String) {α β γ : Type}

/-! ## The shape of a service handler -/

/-- The shape of the service handlers: the service's error answered by `Error(c, err, nil)`, its
value by `onValue`, which writes a success or panics. -/
def respond (onValue : β → Except String (Int × BaseResponse α)) :
    Except ErrorResponse β → Except String ((Int × Document α) × I18nManager)
  | .error err =>
    let answer := error env global acceptLanguage err false
    .ok ((answer.1.1, .error answer.1.2), answer.2)
  | .ok body => (onValue body).map fun answer => ((answer.1, .success answer.2), global)

/-- A service handler as the `echo.HandlerFunc` it returns: it writes its answer and returns
nil. The global manager it leaves is `GlobalI18n`'s concern. -/
def handlerFunc (answer : Except String ((Int × Document α) × I18nManager)) : HandlerFunc α :=
  fun c => answer.map fun a => (none, c.json a.1.1 a.1.2)

/-- `Success` or `SuccessWithMessage` of a nil `v`: a response without data. -/
def withoutData (answer : Int × BaseResponse Unit) : Int × BaseResponse Unit :=
  (answer.1, { answer.2 with data := none })

/-! ## The pagination responses -/

/-- The answer of `createPaginationResponse` and its variants for a page of data: the map of
the page's data, the total, its pagination, the sorting and the meta of the page and page size
read, with `MsgSuccessRetrieved`. -/
def pageResponse (page pageSize : Int) (sorting : Option (String × String)) (total : Int)
    (p : Page γ) : Int × BaseResponse (PaginationResponse γ) :=
  successWithMessage env global acceptLanguage
    ⟨p.data, total, p.pagination, sorting,
      ⟨page, pageSize, p.pagination.totalPages, p.pagination.hasNext, p.pagination.hasPrev⟩⟩
    "response.success.retrieved"

/-- The shape of `createPaginationResponse`, `createPaginationResponseWithCustomSize`,
`createPaginationResponseFromDB` and `createPaginationResponseFromDBWithSorting`: the content
as it is, under `CalculatePagination` of the page and page size read. -/
def paginationResponse (page pageSize : Int) (sorting : Option (String × String))
    (content : List γ) (total : Int) : Except String (Int × BaseResponse (PaginationResponse γ)) := do
  let pagination ← calculatePagination page pageSize total
  pure (pageResponse env global acceptLanguage page pageSize sorting total ⟨content, pagination⟩)

/-- `createPaginationResponse(c, content, total)`. -/
def createPaginationResponse (q : Query) (content : List γ) (total : Int) :
    Except String (Int × BaseResponse (PaginationResponse γ)) :=
  paginationResponse env global acceptLanguage (getPageFromQuery q) (getPageSizeFromQuery q) none
    content total

/-- `createPaginationResponseWithCustomSize(c, content, total, defaultPageSize)`. -/
def createPaginationResponseWithCustomSize (q : Query) (content : List γ) (total : Int)
    (defaultPageSize : Int) : Except String (Int × BaseResponse (PaginationResponse γ)) :=
  paginationResponse env global acceptLanguage (getPageFromQuery q)
    (getPageSizeFromQueryWithDefault q defaultPageSize) none content total

/-- `createPaginationResponseFromDB(c, content, total)`. -/
def createPaginationResponseFromDB (q : Query) (content : List γ) (total : Int) :
    Except String (Int × BaseResponse (PaginationResponse γ)) :=
  paginationResponse env global acceptLanguage (getPageFromQuery q) (getPageSizeFromQuery q) none
    content total

/-- `createPaginationResponseFromDBWithSorting(c, content, total)`. -/
def createPaginationResponseFromDBWithSorting (q : Query) (content : List γ) (total : Int) :
    Except String (Int × BaseResponse (PaginationResponse γ)) :=
  paginationResponse env global acceptLanguage (getPageFromQuery q) (getPageSizeFromQuery q)
    (some (getSortingFromQuery q)) content total

/-! ## The handlers -/

/-- `ResponseArray(serviceFunc)`, on what the service returned. -/
def responseArray : Except ErrorResponse (List γ) →
    Except String ((Int × Document (List γ)) × I18nManager) :=
  respond env global acceptLanguage fun body => .ok (success env global acceptLanguage body)

/-- `ResponseList(serviceFunc)`. -/
def responseList : Except ErrorResponse (List γ × Int) →
    Except String ((Int × Document (ListResponse γ)) × I18nManager) :=
  respond env global acceptLanguage fun (body, total) =>
    .ok (success env global acceptLanguage ⟨body, total⟩)

/-- `ResponseListWithMessage(serviceFunc, messageKey)`. -/
def responseListWithMessage (messageKey : String) : Except ErrorResponse (List γ × Int) →
    Except String ((Int × Document (ListResponse γ)) × I18nManager) :=
  respond env global acceptLanguage fun (body, total) =>
    .ok (successWithMessage env global acceptLanguage ⟨body, total⟩ messageKey)

/-- `ResponseListWithPagination(serviceFunc)`: it computes the pagination for its map, and
`SuccessWithPagination` computes it again for the response. -/
def responseListWithPagination (q : Query) : Except ErrorResponse (List γ × Int) →
    Except String ((Int × Document (PaginatedListResponse γ)) × I18nManager) :=
  respond env global acceptLanguage fun (content, total) => do
    let page := getPageFromQuery q
    let pageSize := inlinePageSize q
    let pagination ← calculatePagination page pageSize total
    successWithPagination env global ⟨content, total, "list", pagination⟩ total page pageSize
      "response.success.retrieved"

/-- `ResponseListWithPaginationSimple(serviceFunc)`. -/
def responseListWithPaginationSimple (q : Query) : Except ErrorResponse (List γ × Int) →
    Except String ((Int × Document (PaginationResponse γ)) × I18nManager) :=
  respond env global acceptLanguage fun (content, total) =>
    createPaginationResponse env global acceptLanguage q content total

/-- `ResponseListWithPaginationCustom(serviceFunc, defaultPageSize)`. -/
def responseListWithPaginationCustom (q : Query) (defaultPageSize : Int) :
    Except ErrorResponse (List γ × Int) →
      Except String ((Int × Document (PaginationResponse γ)) × I18nManager) :=
  respond env global acceptLanguage fun (content, total) =>
    createPaginationResponseWithCustomSize env global acceptLanguage q content total defaultPageSize

/-- `ResponseListWithPaginationAuto(serviceFunc)`: the page `createPaginationResponseWithDataSlicing`
cuts out of the content, whose length is the total. -/
def responseListWithPaginationAuto (q : Query) : Except ErrorResponse (List γ) →
    Except String ((Int × Document (PaginationResponse γ)) × I18nManager) :=
  respond env global acceptLanguage fun content =>
    (Common.responseListWithPaginationAuto q content).map
      (pageResponse env global acceptLanguage (getPageFromQuery q) (getPageSizeFromQuery q) none
        content.length)

/-- `ResponseListWithPaginationAutoDB(serviceFunc)`. -/
def responseListWithPaginationAutoDB (q : Query) : Except ErrorResponse (List γ × Int) →
    Except String ((Int × Document (PaginationResponse γ)) × I18nManager) :=
  respond env global acceptLanguage fun (content, total) =>
    createPaginationResponseFromDB env global acceptLanguage q content total

/-- `ResponseListWithPaginationAutoDBAndSorting(serviceFunc)`. -/
def responseListWithPaginationAutoDBAndSorting (q : Query) : Except ErrorResponse (List γ × Int) →
    Except String ((Int × Document (PaginationResponse γ)) × I18nManager) :=
  respond env global acceptLanguage fun (content, total) =>
    createPaginationResponseFromDBWithSorting env global acceptLanguage q content total

/-- `ResponseListWithPaginationAndSorting(serviceFunc)`: the page
`createPaginationResponseWithSortingAndSlicing` cuts out, with its sorting. -/
def responseListWithPaginationAndSorting (q : Query) : Except ErrorResponse (List γ × Int) →
    Except String ((Int × Document (PaginationResponse γ)) × I18nManager) :=
  respond env global acceptLanguage fun (content, total) =>
    (createPaginationResponseWithSortingAndSlicing q content total).map fun p =>
      pageResponse env global acceptLanguage (getPageFromQuery q) (getPageSizeFromQuery q)
        (some (p.sortBy, p.sortOrder)) total p.toPage

/-- `ResponsePage(serviceFunc)`. -/
def responsePage (q : Query) : Except ErrorResponse (List γ × Int) →
    Except String ((Int × Document (List γ)) × I18nManager) :=
  respond env global acceptLanguage fun (content, total) =>
    successWithPagination env global content total (getPageFromQuery q) (inlinePageSize q)
      "response.success.retrieved"

/-- `ResponseObject(serviceFunc)`. -/
def responseObject : Except ErrorResponse γ → Except String ((Int × Document γ) × I18nManager) :=
  respond env global acceptLanguage fun body => .ok (success env global acceptLanguage body)

/-- `ResponsePointer(serviceFunc)`: a nil pointer is `none`, and `Data` holds it. -/
def responsePointer : Except ErrorResponse (Option γ) →
    Except String ((Int × Document (Option γ)) × I18nManager) :=
  respond env global acceptLanguage fun body => .ok (success env global acceptLanguage body)

/-- `ResponseSuccessOnly(serviceFunc)`: `Success(c, nil)`. -/
def responseSuccessOnly : Except ErrorResponse Unit →
    Except String ((Int × Document Unit) × I18nManager) :=
  respond env global acceptLanguage fun _ => .ok (withoutData (success env global acceptLanguage ()))

/-- `ResponseArrayWithMessage(serviceFunc, messageKey)`. -/
def responseArrayWithMessage (messageKey : String) : Except ErrorResponse (List γ) →
    Except String ((Int × Document (List γ)) × I18nManager) :=
  respond env global acceptLanguage fun body =>
    .ok (successWithMessage env global acceptLanguage body messageKey)

/-- `ResponseObjectWithMessage(serviceFunc, messageKey)`. -/
def responseObjectWithMessage (messageKey : String) : Except ErrorResponse γ →
    Except String ((Int × Document γ) × I18nManager) :=
  respond env global acceptLanguage fun body =>
    .ok (successWithMessage env global acceptLanguage body messageKey)

/-- `ResponseCreated(c, v)`. -/
def responseCreated (v : γ) : Int × BaseResponse γ :=
  successWithMessage env global acceptLanguage v "response.success.created"

/-- `ResponseUpdated(c, v)`. -/
def responseUpdated (v : γ) : Int × BaseResponse γ :=
  successWithMessage env global acceptLanguage v "response.success.updated"

/-- `ResponseDeleted(c)`: `SuccessWithMessage(c, nil, …)`. -/
def responseDeleted : Int × BaseResponse Unit :=
  withoutData (successWithMessage env global acceptLanguage () "response.success.deleted")

/-- `ResponseRetrieved(c, v)`. -/
def responseRetrieved (v : γ) : Int × BaseResponse γ :=
  successWithMessage env global acceptLanguage v "response.success.retrieved"

/-- `HandleBindError(ctx, bindErr, messageKey)`: the detail of field `body` holds the message of
an `*echo.HTTPError` when it is a string, and `bindErr.Error()` (`errorText`) otherwise. -/
def handleBindError (bindErr : HandlerError) (errorText messageKey : String) :
    Int × ErrorResponse :=
  let errorDetail : ErrorDetail :=
    match bindErr with
    | .http _ (some msg) => ⟨"body", msg, ""⟩
    | _ => ⟨"body", errorText, ""⟩
  errorWithDetails env global ResponseCode.validationError messageKey [errorDetail]

end BaseController

end Common
end MsaCore
