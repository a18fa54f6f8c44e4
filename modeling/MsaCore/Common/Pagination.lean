import Mathlib.Data.List.Basic

/-!
# Pagination in `BaseController`

`BaseController` reads the `page` and `size` query parameters with `strconv.Atoi`, computes the
pagination of a list response with `CalculatePagination`, and two of its handlers cut the page
out of the content themselves: `createPaginationResponseWithDataSlicing`, behind
`ResponseListWithPaginationAuto`, and `createPaginationResponseWithSortingAndSlicing`, behind
`ResponseListWithPaginationAndSorting`.

Go `int` and `int64` are 64-bit two's complement: a mathematical integer, wrapped after each
operation that can overflow. A slice expression `s[low:high]` panics unless
`0 ≤ low ≤ high ≤ cap(s)`; both handlers bound `high` by the length, so the capacity plays no
part and a slice is its list of elements. A panic is the error of an `Except`.

* Without overflow, `createPaginationResponseWithDataSlicing` panics exactly for a page that
  starts past the end of the content, and otherwise returns the page.
* `createPaginationResponseWithSortingAndSlicing` guards the start of the page but not its end:
  it panics exactly when the start lies past `total` and before the end of the content.
* Both panic when `(page - 1) * size` wraps to a negative start.
* `CalculatePagination` computes `ceil(totalItems / pageSize)` when `totalItems + pageSize - 1`
  does not overflow. A caller's default page size of 0 divides by zero, and an overflow leaves
  `TotalPages` at most 0.
-/

namespace MsaCore
namespace Common

/-! ## Go `int` -/

/-- In the range of a 64-bit `int`. -/
def InInt64 (x : Int) : Prop := -9223372036854775808 ≤ x ∧ x ≤ 9223372036854775807

instance : DecidablePred InInt64 := fun _ => inferInstanceAs (Decidable (_ ∧ _))

/-- Two's-complement wrap onto a 64-bit `int`. -/
def wrap (x : Int) : Int :=
  (x + 9223372036854775808) % 18446744073709551616 - 9223372036854775808

theorem wrap_id {x : Int} (h : InInt64 x) : wrap x = x := by
  unfold InInt64 at h; unfold wrap; omega

/-! ## `strconv.Atoi` -/

/-- The value of a non-empty string of decimal digits. -/
def decimalValue (ds : List Char) : Option Nat :=
  if ds ≠ [] ∧ ds.all Char.isDigit then
    some (ds.foldl (fun n c => 10 * n + (c.toNat - '0'.toNat)) 0)
  else none

/-- The sign `strconv.Atoi` reads: whether the string starts with `-`, and the digits after an
optional sign. -/
def atoiSign : List Char → Bool × List Char
  | '-' :: ds => (true, ds)
  | '+' :: ds => (false, ds)
  | ds => (false, ds)

/-- `strconv.Atoi`: an optional sign and decimal digits, whose value is an `int`. -/
def atoi (s : String) : Option Int :=
  (decimalValue (atoiSign s.toList).2).bind fun n =>
    let v : Int := if (atoiSign s.toList).1 then -n else n
    if InInt64 v then some v else none

theorem atoi_inInt64 {s : String} {v : Int} (h : atoi s = some v) : InInt64 v := by
  have checked : ∀ w : Int, (if InInt64 w then some w else none) = some v → InInt64 v :=
    fun w hw => by
      split_ifs at hw with hi
      cases hw
      exact hi
  obtain ⟨n, -, hv⟩ := Option.bind_eq_some.mp h
  exact checked _ hv

/-! ## Query parameters -/

/-- The query parameters of a request: `c.QueryParam(name)`, `""` when absent. -/
abbrev Query := String → String

/-- A request with the query parameters `page` and `size` and no other. -/
def pageQuery (page size : String) : Query := fun name =>
  if name = "page" then page else if name = "size" then size else ""

/-- How `BaseController` reads a positive `int` parameter: `default` unless the string parses
to a positive `int`, which is capped at `limit` when there is one. -/
def positiveParam (default : Int) (limit : Option Int) (str : String) : Int :=
  if str = "" then default
  else
    match atoi str with
    | some v =>
      if v > 0 then
        match limit with
        | some m => if v > m then m else v
        | none => v
      else default
    | none => default

/-- `getPageFromQuery`: 1 by default. `ResponseListWithPagination` and `ResponsePage` read the
page the same way. -/
def getPageFromQuery (q : Query) : Int := positiveParam 1 none (q "page")

/-- `getPageSizeFromQuery`: 10 by default, at most 100. -/
def getPageSizeFromQuery (q : Query) : Int := positiveParam 10 (some 100) (q "size")

/-- `getPageSizeFromQueryWithDefault`: the caller's default, at most 100. -/
def getPageSizeFromQueryWithDefault (q : Query) (defaultSize : Int) : Int :=
  positiveParam defaultSize (some 100) (q "size")

/-- The page size `ResponseListWithPagination` and `ResponsePage` read inline and pass to
`SuccessWithPagination`: 10 by default, with no cap. -/
def inlinePageSize (q : Query) : Int := positiveParam 10 none (q "size")

/-- A parameter keeps its default, or is a positive `int` capped at the limit. -/
theorem positiveParam_cases (default : Int) (limit : Option Int) (str : String) :
    positiveParam default limit str = default ∨
      ∃ v, InInt64 v ∧ 0 < v ∧
        positiveParam default limit str = limit.elim v fun m => if v > m then m else v := by
  unfold positiveParam
  split_ifs
  · exact .inl rfl
  · split
    · rename_i v hv
      split_ifs with hp
      · split <;> exact .inr ⟨v, atoi_inInt64 hv, hp, rfl⟩
      · exact .inl rfl
    · exact .inl rfl

theorem getPageFromQuery_mem (q : Query) :
    1 ≤ getPageFromQuery q ∧ getPageFromQuery q ≤ 9223372036854775807 := by
  rcases positiveParam_cases 1 none (q "page") with h | ⟨v, ⟨-, hv⟩, hp, h⟩ <;>
    simp only [getPageFromQuery, h, Option.elim_none] <;> omega

theorem getPageSizeFromQuery_mem (q : Query) :
    1 ≤ getPageSizeFromQuery q ∧ getPageSizeFromQuery q ≤ 100 := by
  rcases positiveParam_cases 10 (some 100) (q "size") with h | ⟨v, -, hp, h⟩
  · simp only [getPageSizeFromQuery, h]; omega
  · simp only [getPageSizeFromQuery, h, Option.elim_some]; split_ifs <;> omega

theorem inlinePageSize_mem (q : Query) :
    1 ≤ inlinePageSize q ∧ inlinePageSize q ≤ 9223372036854775807 := by
  rcases positiveParam_cases 10 none (q "size") with h | ⟨v, ⟨-, hv⟩, hp, h⟩ <;>
    simp only [inlinePageSize, h, Option.elim_none] <;> omega

/-! ## `CalculatePagination` -/

/-- `PaginationInfo`. -/
structure PaginationInfo where
  currentPage : Int
  pageSize : Int
  totalPages : Int
  totalItems : Int
  hasNext : Bool
  hasPrev : Bool
  deriving DecidableEq

/-- The panic of an integer division by zero. -/
def integerDivideByZero : String := "runtime error: integer divide by zero"

/-- `CalculatePagination`: `totalItems + int64(pageSize) - 1` wraps at each operation, and `/`
truncates. -/
def calculatePagination (currentPage pageSize totalItems : Int) : Except String PaginationInfo :=
  if pageSize = 0 then .error integerDivideByZero
  else
    let totalPages := wrap ((wrap (wrap (totalItems + pageSize) - 1)).tdiv pageSize)
    .ok ⟨currentPage, pageSize, totalPages, totalItems, currentPage < totalPages, currentPage > 1⟩

theorem calculatePagination_of_ne_zero {currentPage pageSize totalItems : Int}
    (h : pageSize ≠ 0) :
    calculatePagination currentPage pageSize totalItems =
      .ok ⟨currentPage, pageSize,
        wrap ((wrap (wrap (totalItems + pageSize) - 1)).tdiv pageSize), totalItems,
        currentPage < wrap ((wrap (wrap (totalItems + pageSize) - 1)).tdiv pageSize),
        currentPage > 1⟩ :=
  if_neg h

/-! ## Slicing -/

/-- The panic of a slice expression `[low:high]` with `low > high`, or `low < 0`. -/
def sliceBoundsOutOfRange (low high : Int) : String :=
  "runtime error: slice bounds out of range [" ++ toString low ++ ":" ++ toString high ++ "]"

/-- `s[low:high]`, for `high` within the capacity. -/
def slice {α : Type} (s : List α) (low high : Int) : Except String (List α) :=
  if 0 ≤ low ∧ low ≤ high ∧ high ≤ s.length then .ok ((s.drop low.toNat).take (high - low).toNat)
  else .error (sliceBoundsOutOfRange low high)

/-- The elements of `content` whose index `i` satisfies `lo ≤ i < hi` and `i < total`. -/
def window {α : Type} (content : List α) (lo hi total : Int) : List α :=
  (content.enum.filter fun x => lo ≤ x.1 ∧ x.1 < hi ∧ x.1 < total).map Prod.snd

theorem map_filter_enumFrom {α : Type} (l : List α) (a b k : Nat) :
    ((l.enumFrom k).filter fun x => decide (a ≤ x.1 ∧ x.1 < b)).map Prod.snd =
      (l.drop (a - k)).take (b - max a k) := by
  induction l generalizing k with
  | nil => simp
  | cons x l ih =>
    rw [List.enumFrom_cons, List.filter_cons, apply_ite (List.map Prod.snd), List.map_cons, ih]
    by_cases hk : k < a
    · rw [if_neg (by simp; omega), show a - k = a - (k + 1) + 1 by omega, List.drop_succ_cons,
        show max a (k + 1) = max a k by omega]
    · by_cases hb : k < b
      · rw [if_pos (by simp; omega), show a - k = 0 by omega, show a - (k + 1) = 0 by omega,
          show b - max a k = b - max a (k + 1) + 1 by omega]
        rfl
      · rw [if_neg (by simp; omega), show b - max a (k + 1) = 0 by omega,
          show b - max a k = 0 by omega]
        simp

/-- The window from a non-negative start is a slice of the content. -/
theorem window_eq {α : Type} (content : List α) {lo : Int} (h : 0 ≤ lo) (hi total : Int) :
    window content lo hi total = (content.drop lo.toNat).take (min hi total - lo).toNat := by
  have hp : ∀ x : Nat × α, decide (lo ≤ x.1 ∧ (x.1 : Int) < hi ∧ (x.1 : Int) < total) =
      decide (lo.toNat ≤ x.1 ∧ x.1 < (min hi total).toNat) := fun x => by
    simp only [decide_eq_decide]; omega
  rw [window, List.filter_congr fun x _ => hp x, List.enum, map_filter_enumFrom, Nat.max_zero]
  generalize min hi total = Y
  congr 2; omega

/-! ## The slicing handlers -/

/-- The data and the pagination of a list response. -/
structure Page (α : Type) where
  data : List α
  pagination : PaginationInfo

/-- `createPaginationResponseWithDataSlicing`. -/
def createPaginationResponseWithDataSlicing {α : Type} (q : Query) (content : List α)
    (total : Int) : Except String (Page α) := do
  let page := getPageFromQuery q
  let pageSize := getPageSizeFromQuery q
  let start := wrap (wrap (page - 1) * pageSize)
  let «end» := wrap (start + pageSize)
  let «end» := if «end» > total then total else «end»
  let paginatedContent ← slice content start «end»
  let pagination ← calculatePagination page pageSize total
  pure ⟨paginatedContent, pagination⟩

/-- `ResponseListWithPaginationAuto` on the content the service returned, whose length is the
total. -/
def responseListWithPaginationAuto {α : Type} (q : Query) (content : List α) :
    Except String (Page α) :=
  createPaginationResponseWithDataSlicing q content content.length

/-- `getSortingFromQuery`: the sort field, `created_at` by default, and the order: `sort_order`,
else `desc=true` or `desc=false`; `desc` unless that is `asc` or `desc`. -/
def getSortingFromQuery (q : Query) : String × String :=
  let sortBy := q "sort_by"
  let sortOrder := q "sort_order"
  let sortOrder :=
    if sortOrder = "" then
      if q "desc" = "true" then "desc" else if q "desc" = "false" then "asc" else sortOrder
    else sortOrder
  let sortBy := if sortBy = "" then "created_at" else sortBy
  let sortOrder :=
    if sortOrder = "" ∨ (sortOrder ≠ "asc" ∧ sortOrder ≠ "desc") then "desc" else sortOrder
  (sortBy, sortOrder)

/-- `applyBasicSorting`: the content as it is. -/
def applyBasicSorting {α : Type} (content : List α) : List α := content

/-- A list response with its sorting. -/
structure SortedPage (α : Type) extends Page α where
  sortBy : String
  sortOrder : String

/-- `createPaginationResponseWithSortingAndSlicing`, behind
`ResponseListWithPaginationAndSorting`. -/
def createPaginationResponseWithSortingAndSlicing {α : Type} (q : Query) (content : List α)
    (total : Int) : Except String (SortedPage α) := do
  let page := getPageFromQuery q
  let pageSize := getPageSizeFromQuery q
  let (sortBy, sortOrder) := getSortingFromQuery q
  let sortedContent := applyBasicSorting content
  let start := wrap (wrap (page - 1) * pageSize)
  let «end» := wrap (start + pageSize)
  let «end» := if «end» > total then total else «end»
  let paginatedContent ←
    if start ≥ sortedContent.length ∨ sortedContent.length = 0 then pure []
    else
      slice sortedContent start
        (if «end» > sortedContent.length then sortedContent.length else «end»)
  let pagination ← calculatePagination page pageSize total
  pure ⟨⟨paginatedContent, pagination⟩, sortBy, sortOrder⟩

/-! ## Where the page starts and ends -/

section Slicing

variable {α : Type}

theorem slice_error_iff {s : List α} {low high : Int} :
    (∃ msg, slice s low high = .error msg) ↔ ¬ (0 ≤ low ∧ low ≤ high ∧ high ≤ s.length) := by
  unfold slice
  split_ifs with h <;> simp [h]

theorem slice_ok {s d : List α} {low high : Int} (h : slice s low high = .ok d) :
    d = (s.drop low.toNat).take (high - low).toNat := by
  unfold slice at h
  split_ifs at h
  cases h
  rfl

/-- Without overflow the page starts at `(page - 1) * size` and ends at `page * size`. -/
theorem wrap_bounds {p s : Int} (hp : 1 ≤ p) (hs : 1 ≤ s) (h : p * s ≤ 9223372036854775807) :
    wrap (wrap (p - 1) * s) = (p - 1) * s ∧ wrap ((p - 1) * s + s) = p * s ∧
      0 ≤ (p - 1) * s ∧ (p - 1) * s ≤ p * s := by
  have hm : (p - 1) * s = p * s - s := by rw [Int.sub_mul, Int.one_mul]
  have h0 : 0 ≤ (p - 1) * s := Int.mul_nonneg (by omega) (by omega)
  have hp' : p ≤ p * s := by
    have : 0 ≤ p * (s - 1) := Int.mul_nonneg (by omega) (by omega)
    rw [Int.mul_sub, Int.mul_one] at this
    omega
  rw [wrap_id (x := p - 1) (by unfold InInt64; omega), hm]
  exact ⟨wrap_id (by unfold InInt64; omega), by rw [Int.sub_add_cancel, wrap_id (by unfold InInt64; omega)],
    by omega, by omega⟩

/-- The start of the page: `wrap (page - 1) = page - 1`, so only the product can wrap. -/
theorem wrap_start (q : Query) :
    wrap (wrap (getPageFromQuery q - 1) * getPageSizeFromQuery q) =
      wrap ((getPageFromQuery q - 1) * getPageSizeFromQuery q) := by
  have := getPageFromQuery_mem q
  rw [wrap_id (x := getPageFromQuery q - 1) (by unfold InInt64; omega)]

/-- `createPaginationResponseWithDataSlicing` fails exactly when its slice does, and returns
its slice: the pagination of a positive page size cannot fail. -/
theorem createPaginationResponseWithDataSlicing_slice (q : Query) (content : List α) (total : Int)
    {start «end» : Int} (h1 : start = wrap (wrap (getPageFromQuery q - 1) * getPageSizeFromQuery q))
    (h2 : «end» = if wrap (start + getPageSizeFromQuery q) > total then total
      else wrap (start + getPageSizeFromQuery q)) :
    ((∃ msg, createPaginationResponseWithDataSlicing q content total = .error msg) ↔
        ∃ msg, slice content start «end» = .error msg) ∧
      ∀ r, createPaginationResponseWithDataSlicing q content total = .ok r →
        slice content start «end» = .ok r.data := by
  have hs : getPageSizeFromQuery q ≠ 0 := by have := getPageSizeFromQuery_mem q; omega
  subst h1 h2
  dsimp only [createPaginationResponseWithDataSlicing]
  rw [calculatePagination_of_ne_zero hs]
  cases slice content _ _ <;> simp [bind, Except.bind, pure, Except.pure]

/-- `createPaginationResponseWithSortingAndSlicing` returns no data from a start past the end
of the content, and otherwise fails exactly when its slice does. -/
theorem createPaginationResponseWithSortingAndSlicing_slice (q : Query) (content : List α)
    (total : Int) {start «end» : Int}
    (h1 : start = wrap (wrap (getPageFromQuery q - 1) * getPageSizeFromQuery q))
    (h2 : «end» = if wrap (start + getPageSizeFromQuery q) > total then total
      else wrap (start + getPageSizeFromQuery q)) :
    ((∃ msg, createPaginationResponseWithSortingAndSlicing q content total = .error msg) ↔
        ¬ (start ≥ content.length ∨ content.length = 0) ∧
          ∃ msg, slice content start (if «end» > content.length then content.length else «end») = .error msg) ∧
      ∀ r, createPaginationResponseWithSortingAndSlicing q content total = .ok r →
        (if start ≥ content.length ∨ content.length = 0 then .ok []
          else slice content start (if «end» > content.length then content.length else «end»)) = .ok r.data := by
  have hs : getPageSizeFromQuery q ≠ 0 := by have := getPageSizeFromQuery_mem q; omega
  dsimp only [createPaginationResponseWithSortingAndSlicing, applyBasicSorting]
  rw [calculatePagination_of_ne_zero hs, ← h1, ← h2]
  cases getSortingFromQuery q
  by_cases hb : start ≥ content.length ∨ content.length = 0
  · simp only [hb, if_true, not_true, false_and, iff_false]
    simp [bind, Except.bind, pure, Except.pure]
  · simp only [hb, if_false]
    cases slice content _ _ <;> simp [bind, Except.bind, pure, Except.pure, hb]

/-- Go's clamp `if end > n { end = n }` is a minimum. -/
theorem ite_gt_eq_min (b c : Int) : (if b > c then c else b) = min b c := by
  split_ifs <;> omega

/-- With the start `a` and the end `b` of the page exact, the slice of the data handler panics
exactly past the end and is otherwise the window. -/
theorem dataSlice_window (content : List α) {a b : Int} (h0 : 0 ≤ a) (hle : a ≤ b) :
    ((∃ msg, slice content a (if b > content.length then content.length else b) = .error msg) ↔
        (content.length : Int) < a) ∧
      ∀ d, slice content a (if b > content.length then content.length else b) = .ok d →
        d = window content a b content.length := by
  rw [ite_gt_eq_min]
  exact ⟨by rw [slice_error_iff]; omega, fun d hd => by rw [slice_ok hd, window_eq content h0]⟩

/-- With the start `a` and the end `b` of the page exact, the sorting handler panics exactly
when `a` lies past `total` and before the end of the content, and otherwise returns the window. -/
theorem sortingSlice_window (content : List α) (total : Int) {a b : Int} (h0 : 0 ≤ a)
    (hle : a ≤ b) :
    ((¬ (a ≥ content.length ∨ content.length = 0) ∧
        ∃ msg, slice content a (if (if b > total then total else b) > content.length then
          content.length else if b > total then total else b) = .error msg) ↔
        total < a ∧ a < content.length) ∧
      ∀ d, (if a ≥ content.length ∨ content.length = 0 then .ok []
          else slice content a (if (if b > total then total else b) > content.length then
            content.length else if b > total then total else b)) = .ok d →
        d = window content a b total := by
  rw [ite_gt_eq_min, ite_gt_eq_min]
  refine ⟨?_, fun d hd => ?_⟩
  · rw [slice_error_iff, Int.le_min, Int.le_min]
    simp only [Int.min_le_right, and_true]
    omega
  rw [window_eq content h0]
  split_ifs at hd with hb
  · injection hd with hd
    rw [← hd, List.drop_eq_nil_of_le (by omega), List.take_nil]
  · rw [slice_ok hd]
    generalize min b total = Y
    -- the page ends at `Y`, or at the end of the content when `Y` lies past it
    rcases Int.le_total Y content.length with hY | hY
    · rw [Int.min_eq_left hY]
    · have hl : ∀ k : Int, ↑content.length ≤ k →
          (content.drop a.toNat).length ≤ (k - a).toNat := fun k hk => by
        rw [List.length_drop]; omega
      rw [Int.min_eq_right hY, List.take_of_length_le (hl _ (Int.le_refl _)),
        List.take_of_length_le (hl _ hY)]

/-! ## What the slicing handlers return -/

/-- `ResponseListWithPaginationAuto` panics on every page that starts past the end of the
content: without overflow it panics exactly then, and otherwise returns the elements whose index
lies in `[(page - 1) * size, page * size)`. It also panics whenever `(page - 1) * size` wraps to
a negative start. -/
theorem responseListWithPaginationAuto_panics_past_end (q : Query) (content : List α) :
    (getPageFromQuery q * getPageSizeFromQuery q ≤ 9223372036854775807 →
      ((∃ msg, responseListWithPaginationAuto q content = .error msg) ↔
          (content.length : Int) < (getPageFromQuery q - 1) * getPageSizeFromQuery q) ∧
        ∀ r, responseListWithPaginationAuto q content = .ok r →
          r.data = window content ((getPageFromQuery q - 1) * getPageSizeFromQuery q)
            (getPageFromQuery q * getPageSizeFromQuery q) content.length) ∧
    (wrap ((getPageFromQuery q - 1) * getPageSizeFromQuery q) < 0 →
      ∃ msg, responseListWithPaginationAuto q content = .error msg) := by
  obtain ⟨hp1, -⟩ := getPageFromQuery_mem q
  obtain ⟨hs1, -⟩ := getPageSizeFromQuery_mem q
  refine ⟨fun h => ?_, fun h => ?_⟩
  · obtain ⟨e1, e2, h0, hle⟩ := wrap_bounds hp1 hs1 h
    have hsl := createPaginationResponseWithDataSlicing_slice q content content.length e1.symm
      (by rw [e2])
    have hw := dataSlice_window content h0 hle
    exact ⟨hsl.1.trans hw.1, fun r hr => hw.2 _ (hsl.2 r hr)⟩
  · have hsl := createPaginationResponseWithDataSlicing_slice q content content.length
      (wrap_start q).symm rfl
    exact hsl.1.mpr (slice_error_iff.mpr fun ⟨h0, _⟩ => by omega)

/-- Page 2 of ten items over five: the page starts past the end. With size 2, page
`2^62 + 1` starts at `2^63`, which wraps to a negative start. -/
theorem responseListWithPaginationAuto_panics_past_end_page2 :
    (getPageFromQuery (pageQuery "2" "10") * getPageSizeFromQuery (pageQuery "2" "10") ≤
        9223372036854775807 ∧
      ∃ msg, responseListWithPaginationAuto (pageQuery "2" "10") [0, 1, 2, 3, 4] = .error msg) ∧
    (wrap ((getPageFromQuery (pageQuery "4611686018427387905" "2") - 1) *
        getPageSizeFromQuery (pageQuery "4611686018427387905" "2")) < 0 ∧
      ∃ msg, responseListWithPaginationAuto (pageQuery "4611686018427387905" "2")
        ([] : List Nat) = .error msg) :=
  have h1 : getPageFromQuery (pageQuery "2" "10") * getPageSizeFromQuery (pageQuery "2" "10") ≤
      9223372036854775807 := by decide
  have h2 : wrap ((getPageFromQuery (pageQuery "4611686018427387905" "2") - 1) *
      getPageSizeFromQuery (pageQuery "4611686018427387905" "2")) < 0 := by decide
  ⟨⟨h1, (((responseListWithPaginationAuto_panics_past_end (pageQuery "2" "10")
      [0, 1, 2, 3, 4]).1 h1).1).mpr (by decide)⟩,
    ⟨h2, (responseListWithPaginationAuto_panics_past_end _ ([] : List Nat)).2 h2⟩⟩

/-- `ResponseListWithPaginationAndSorting` guards the start of the page but not its end. Without
overflow it panics exactly when the page starts past `total` and before the end of the content,
and otherwise returns the elements whose index `i` lies in `[(page - 1) * size, page * size)`
with `i < total`. On a non-empty content it panics whenever `(page - 1) * size` wraps to a
negative start. -/
theorem createPaginationResponseWithSortingAndSlicing_panics_before_end (q : Query)
    (content : List α) (total : Int) :
    (getPageFromQuery q * getPageSizeFromQuery q ≤ 9223372036854775807 →
      ((∃ msg, createPaginationResponseWithSortingAndSlicing q content total = .error msg) ↔
          total < (getPageFromQuery q - 1) * getPageSizeFromQuery q ∧
            (getPageFromQuery q - 1) * getPageSizeFromQuery q < content.length) ∧
        ∀ r, createPaginationResponseWithSortingAndSlicing q content total = .ok r →
          r.data = window content ((getPageFromQuery q - 1) * getPageSizeFromQuery q)
            (getPageFromQuery q * getPageSizeFromQuery q) total) ∧
    (wrap ((getPageFromQuery q - 1) * getPageSizeFromQuery q) < 0 → content ≠ [] →
      ∃ msg, createPaginationResponseWithSortingAndSlicing q content total = .error msg) := by
  obtain ⟨hp1, -⟩ := getPageFromQuery_mem q
  obtain ⟨hs1, -⟩ := getPageSizeFromQuery_mem q
  refine ⟨fun h => ?_, fun h hc => ?_⟩
  · obtain ⟨e1, e2, h0, hle⟩ := wrap_bounds hp1 hs1 h
    have hsl := createPaginationResponseWithSortingAndSlicing_slice q content total e1.symm
      (by rw [e2])
    have hw := sortingSlice_window content total h0 hle
    exact ⟨hsl.1.trans hw.1, fun r hr => hw.2 _ (hsl.2 r hr)⟩
  · have hsl := createPaginationResponseWithSortingAndSlicing_slice q content total
      (wrap_start q).symm rfl
    have hn : content.length ≠ 0 := fun h0 => hc (List.eq_nil_of_length_eq_zero h0)
    exact hsl.1.mpr ⟨by omega, slice_error_iff.mpr fun ⟨h0, _⟩ => by omega⟩


/-- Twenty items, a total of 5, page 2 of size 10: the page starts past the total and before
the end of the content. With size 2, page `2^62 + 1` wraps to a negative start. -/
theorem createPaginationResponseWithSortingAndSlicing_panics_before_end_page2 :
    (getPageFromQuery (pageQuery "2" "10") * getPageSizeFromQuery (pageQuery "2" "10") ≤
        9223372036854775807 ∧
      ∃ msg, createPaginationResponseWithSortingAndSlicing (pageQuery "2" "10")
        (List.range 20) 5 = .error msg) ∧
    ((wrap ((getPageFromQuery (pageQuery "4611686018427387905" "2") - 1) *
        getPageSizeFromQuery (pageQuery "4611686018427387905" "2")) < 0 ∧ [0] ≠ []) ∧
      ∃ msg, createPaginationResponseWithSortingAndSlicing (pageQuery "4611686018427387905" "2")
        [0] 1 = .error msg) :=
  have h1 : getPageFromQuery (pageQuery "2" "10") * getPageSizeFromQuery (pageQuery "2" "10") ≤
      9223372036854775807 := by decide
  have h2 : wrap ((getPageFromQuery (pageQuery "4611686018427387905" "2") - 1) *
      getPageSizeFromQuery (pageQuery "4611686018427387905" "2")) < 0 := by decide
  ⟨⟨h1, (((createPaginationResponseWithSortingAndSlicing_panics_before_end (pageQuery "2" "10")
      (List.range 20) 5).1 h1).1).mpr (by decide)⟩,
    ⟨⟨h2, List.cons_ne_nil 0 []⟩,
      (createPaginationResponseWithSortingAndSlicing_panics_before_end _ [0] 1).2 h2
        (List.cons_ne_nil 0 [])⟩⟩

end Slicing

/-! ## `CalculatePagination` over the page sizes its callers pass -/

section Calculate

variable {pageSize totalItems : Int}

/-- Without overflow, `TotalPages` is `(totalItems + pageSize - 1) / pageSize`. -/
theorem totalPages_of_le (hs : 0 < pageSize) (ht : 0 ≤ totalItems)
    (h : totalItems + pageSize - 1 ≤ 9223372036854775807) :
    wrap ((wrap (wrap (totalItems + pageSize) - 1)).tdiv pageSize) =
      (totalItems + pageSize - 1) / pageSize := by
  have hn : wrap (wrap (totalItems + pageSize) - 1) = totalItems + pageSize - 1 := by
    unfold wrap; omega
  have hq : (totalItems + pageSize - 1) / pageSize ≤ totalItems + pageSize - 1 :=
    Int.ediv_le_self pageSize (by omega)
  have hq0 : 0 ≤ (totalItems + pageSize - 1) / pageSize := Int.ediv_nonneg (by omega) (Int.le_of_lt hs)
  rw [hn, Int.tdiv_eq_ediv (by omega) (Int.le_of_lt hs), wrap_id (by unfold InInt64; omega)]

/-- Once `totalItems + pageSize - 1` overflows, `TotalPages` is at most 0. -/
theorem totalPages_of_gt (hs : 0 < pageSize) (hs' : pageSize ≤ 9223372036854775807)
    (ht : totalItems ≤ 9223372036854775807)
    (h : 9223372036854775807 < totalItems + pageSize - 1) :
    wrap ((wrap (wrap (totalItems + pageSize) - 1)).tdiv pageSize) ≤ 0 := by
  have hn : wrap (wrap (totalItems + pageSize) - 1) =
      -(18446744073709551617 - totalItems - pageSize) := by
    unfold wrap; omega
  have hq : (18446744073709551617 - totalItems - pageSize) / pageSize ≤
      18446744073709551617 - totalItems - pageSize := Int.ediv_le_self pageSize (by omega)
  have hq0 : 0 ≤ (18446744073709551617 - totalItems - pageSize) / pageSize :=
    Int.ediv_nonneg (by omega) (Int.le_of_lt hs)
  rw [hn, Int.neg_tdiv, Int.tdiv_eq_ediv (by omega) (Int.le_of_lt hs), wrap_id (by unfold InInt64; omega)]
  omega

/-- `(n + s - 1) / s` is the ceiling of `n / s`. -/
theorem ceil_ediv (hs : 0 < pageSize) :
    pageSize * ((totalItems + pageSize - 1) / pageSize - 1) < totalItems ∧
      totalItems ≤ pageSize * ((totalItems + pageSize - 1) / pageSize) := by
  have h1 := Int.ediv_add_emod (totalItems + pageSize - 1) pageSize
  have h2 := Int.emod_nonneg (totalItems + pageSize - 1) (Int.ne_of_gt hs)
  have h3 := Int.emod_lt_of_pos (totalItems + pageSize - 1) hs
  rw [Int.mul_sub, Int.mul_one]
  omega

end Calculate

/-- `CalculatePagination` is right for a positive page size as long as
`totalItems + pageSize - 1` fits in an `int64`: `TotalPages = ceil(totalItems / pageSize)`,
`HasNext` exactly when the page is before the last, `HasPrev` exactly after the first. A caller
that passes its default page size 0 to `getPageSizeFromQueryWithDefault` divides by zero when
the request has no `size`. And for every page size up to the largest `int`, once the sum
overflows, `TotalPages` is at most 0, so the pages do not cover the items. -/
theorem calculatePagination_ceil_or_overflow :
    (∀ page pageSize totalItems : Int, 0 < pageSize → 0 ≤ totalItems →
      totalItems + pageSize - 1 ≤ 9223372036854775807 →
      ∃ info, calculatePagination page pageSize totalItems = .ok info ∧
        pageSize * (info.totalPages - 1) < totalItems ∧
        totalItems ≤ pageSize * info.totalPages ∧
        (info.hasNext ↔ page < info.totalPages) ∧ (info.hasPrev ↔ 1 < page)) ∧
    (∀ (q : Query) (page totalItems : Int), q "size" = "" →
      calculatePagination page (getPageSizeFromQueryWithDefault q 0) totalItems =
        .error integerDivideByZero) ∧
    (∀ page pageSize totalItems : Int, 0 < pageSize → pageSize ≤ 9223372036854775807 →
      totalItems ≤ 9223372036854775807 → 9223372036854775807 < totalItems + pageSize - 1 →
      ∃ info, calculatePagination page pageSize totalItems = .ok info ∧
        info.totalPages ≤ 0 ∧ pageSize * info.totalPages < totalItems) := by
  refine ⟨fun page pageSize totalItems hs ht h => ?_, fun q page totalItems hq => ?_,
    fun page pageSize totalItems hs hs' ht h => ?_⟩
  · rw [calculatePagination_of_ne_zero (Int.ne_of_gt hs), totalPages_of_le hs ht h]
    obtain ⟨h1, h2⟩ : pageSize * ((totalItems + pageSize - 1) / pageSize - 1) < totalItems ∧
        totalItems ≤ pageSize * ((totalItems + pageSize - 1) / pageSize) := ceil_ediv hs
    exact ⟨_, rfl, h1, h2, by simp, by simp⟩
  · simp [getPageSizeFromQueryWithDefault, positiveParam, hq, calculatePagination]
  · have hp := totalPages_of_gt hs hs' ht h
    rw [calculatePagination_of_ne_zero (Int.ne_of_gt hs)]
    refine ⟨_, rfl, hp, ?_⟩
    have := Int.mul_nonpos_of_nonneg_of_nonpos (Int.le_of_lt hs) hp
    dsimp only
    omega

/-- 25 items ten to a page make three pages. A handler with default page size 0 and a request
without `size` divides by zero. `ResponsePage` with `size` the largest `int` and two items, and
`getPageSizeFromQuery` at its cap of 100 with the largest `int64` of items, overflow. -/
theorem calculatePagination_ceil_or_overflow_requests :
    ((0 < (10 : Int) ∧ 0 ≤ (25 : Int) ∧ (25 : Int) + 10 - 1 ≤ 9223372036854775807) ∧
      ∃ info, calculatePagination 1 10 25 = .ok info ∧ 10 * (info.totalPages - 1) < 25 ∧
        25 ≤ 10 * info.totalPages ∧ (info.hasNext ↔ 1 < info.totalPages) ∧
        (info.hasPrev ↔ 1 < (1 : Int))) ∧
    (pageQuery "1" "" "size" = "" ∧
      calculatePagination 1 (getPageSizeFromQueryWithDefault (pageQuery "1" "") 0) 25 =
        .error integerDivideByZero) ∧
    ((0 < inlinePageSize (pageQuery "1" "9223372036854775807") ∧
        inlinePageSize (pageQuery "1" "9223372036854775807") ≤ 9223372036854775807 ∧
        (2 : Int) ≤ 9223372036854775807 ∧
        9223372036854775807 < 2 + inlinePageSize (pageQuery "1" "9223372036854775807") - 1) ∧
      ∃ info, calculatePagination 1 (inlinePageSize (pageQuery "1" "9223372036854775807")) 2 =
          .ok info ∧ info.totalPages ≤ 0 ∧
        inlinePageSize (pageQuery "1" "9223372036854775807") * info.totalPages < 2) ∧
    ((0 < getPageSizeFromQuery (pageQuery "1" "100") ∧
        getPageSizeFromQuery (pageQuery "1" "100") ≤ 9223372036854775807 ∧
        (9223372036854775807 : Int) ≤ 9223372036854775807 ∧
        9223372036854775807 < 9223372036854775807 + getPageSizeFromQuery (pageQuery "1" "100") - 1) ∧
      ∃ info, calculatePagination 1 (getPageSizeFromQuery (pageQuery "1" "100"))
          9223372036854775807 = .ok info ∧ info.totalPages ≤ 0 ∧
        getPageSizeFromQuery (pageQuery "1" "100") * info.totalPages < 9223372036854775807) :=
  have ha : _ ∧ _ ∧ _ := ⟨by decide, by decide, by decide⟩
  have hb : pageQuery "1" "" "size" = "" := rfl
  have hc : _ ∧ _ ∧ _ ∧ _ := ⟨by decide, by decide, by decide, by decide⟩
  have hd : _ ∧ _ ∧ _ ∧ _ := ⟨by decide, by decide, by decide, by decide⟩
  ⟨⟨ha, calculatePagination_ceil_or_overflow.1 1 10 25 ha.1 ha.2.1 ha.2.2⟩,
    ⟨hb, calculatePagination_ceil_or_overflow.2.1 _ 1 25 hb⟩,
    ⟨hc, calculatePagination_ceil_or_overflow.2.2 1 _ 2 hc.1 hc.2.1 hc.2.2.1 hc.2.2.2⟩,
    ⟨hd, calculatePagination_ceil_or_overflow.2.2 1 _ _ hd.1 hd.2.1 hd.2.2.1 hd.2.2.2⟩⟩

end Common
end MsaCore
