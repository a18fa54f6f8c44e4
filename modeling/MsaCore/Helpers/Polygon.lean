import Mathlib.Data.List.Rotate
import Mathlib.Data.List.Zip
import Mathlib.Algebra.Order.Field.Rat
import Mathlib.Algebra.BigOperators.Group.List
import Mathlib.Tactic.Ring
import Mathlib.Algebra.Group.Prod

/-!
# Polygon area and point in polygon

Package `helpers` measures GeoJSON-style polygons. A polygon is a list of rings, the exterior
first and then the holes; a ring is a list of points; a point is a list of coordinates whose
first two are `x` (longitude) and `y` (latitude). Coordinates are exact rationals here, where
Go computes in `float64`.

Both ring functions walk the cycle of edges `(ring[i], ring[(i + 1) % n])`, skipping an edge
with an endpoint of fewer than two coordinates: `isPointInRing` toggles a flag for each edge
that a ray going right from the point crosses, and `calculateRingSignedArea` adds up the
shoelace terms. We read both loops as folds over the list of those edges, which is the ring
zipped with its rotation by one (`edges_eq_zip`). Each answer depends only on the edges as a
multiset. Rotating a ring rotates its edges; reversing it reverses each edge, which crosses
the ray exactly when the edge does and negates its shoelace term; closing it adds the edge
from the first point to itself, which neither crosses the ray nor has area. The length guard
of the two functions changes nothing: a ring of fewer than three points has no crossing
parity and no area either.

`CalculatePolygonAreaInSquareMeters` scales the area by the meters of a degree of longitude at
the average latitude of the points, `getAverageLatitude`; the cosine it takes is left abstract.
The average counts each listed point, so it ignores the start and the orientation of the
exterior ring but not its closure: the repeated first point counts twice, and the same plot
listed open and closed has two areas in square meters (`squareMeters_depends_on_closing`).
On a polygon `ValidatePolygon` accepts, the average counts every point.
-/

namespace MsaCore
namespace Helpers

/-- A point: its coordinates, `x` and `y` first. -/
abbrev Point := List ℚ

/-- A ring: a cycle of points, listed open or closed. -/
abbrev Ring := List Point

/-- A polygon: the exterior ring, then the holes. -/
abbrev Polygon := List Ring

/-! ## The source functions -/

/-- The test of one iteration of the ray-casting loop: whether the edge from `p` to `q`
crosses the ray going right from `(px, py)`. An edge with an endpoint of fewer than two
coordinates is skipped. -/
def crossesRay (px py : ℚ) : Point → Point → Bool
  | xi :: yi :: _, xj :: yj :: _ =>
    if decide (yi > py) != decide (yj > py) then
      if yj ≠ yi then decide (px < xi + (py - yi) * (xj - xi) / (yj - yi)) else false
    else false
  | _, _ => false

/-- `isPointInRing`: ray casting over the edges `(ring[i], ring[(i + 1) % n])`. -/
def isPointInRing (px py : ℚ) (ring : Ring) : Bool :=
  if ring.length < 3 then false
  else
    (List.range ring.length).foldl
      (fun inside i =>
        if crossesRay px py ring[i]! ring[(i + 1) % ring.length]! then !inside else inside)
      false

/-- The shoelace term `xi * yj - xj * yi` of the edge from `p` to `q`; nothing for an edge
the loop skips. -/
def shoelaceTerm : Point → Point → ℚ
  | xi :: yi :: _, xj :: yj :: _ => xi * yj - xj * yi
  | _, _ => 0

/-- `calculateRingSignedArea`: half the shoelace sum over the edges (Go's `0.5 * area`). -/
def calculateRingSignedArea (ring : Ring) : ℚ :=
  if ring.length < 3 then 0
  else
    (List.range ring.length).foldl
      (fun area i => area + shoelaceTerm ring[i]! ring[(i + 1) % ring.length]!) 0 / 2

/-- `IsPointInPolygon`: inside the exterior ring (tested at `(lon, lat)`) and inside no
hole. The loop over `polygon[1:]` returns false at the first hole that holds the point. -/
def isPointInPolygon (lat lon : ℚ) : Polygon → Bool
  | [] => false
  | exterior :: holes =>
    if !isPointInRing lon lat exterior then false else !holes.any (isPointInRing lon lat)

/-- `CalculatePolygonArea`: the exterior's absolute area minus each hole's, clamped at 0. -/
def calculatePolygonArea : Polygon → ℚ
  | [] => 0
  | exterior :: holes =>
    let area := holes.foldl (fun area ring => area - |calculateRingSignedArea ring|)
      |calculateRingSignedArea exterior|
    if area < 0 then 0 else area

/-! ## Edges -/

/-- The edges the two loops walk, in the order they walk them. -/
def edges (ring : Ring) : List (Point × Point) :=
  (List.range ring.length).map fun i => (ring[i]!, ring[(i + 1) % ring.length]!)

/-- The ring closed GeoJSON-style, by repeating its first point. -/
def closeRing : Ring → Ring
  | [] => []
  | p :: ps => p :: ps ++ [p]

theorem edges_eq_zip (ring : Ring) : edges ring = ring.zip (ring.rotate 1) := by
  apply List.ext_getElem (by simp [edges])
  intro i h1 h2
  have hi : i < ring.length := by simpa [edges] using h1
  have hj : (i + 1) % ring.length < ring.length := Nat.mod_lt _ (by omega)
  simp [edges, List.getElem_rotate, getElem!_pos, hi, hj]

theorem edges_cons (p : Point) (ps : Ring) : edges (p :: ps) = (p :: ps).zip (ps ++ [p]) := by
  rw [edges_eq_zip, List.rotate_cons_succ, List.rotate_zero]

theorem zip_rotate {α β : Type} {a : List α} {b : List β} (h : a.length = b.length) (k : ℕ) :
    (a.zip b).rotate k = (a.rotate k).zip (b.rotate k) := by
  apply List.ext_getElem (by simp [h])
  intro i h1 h2
  simp [List.getElem_rotate, h]

theorem edges_rotate (ring : Ring) (k : ℕ) : edges (ring.rotate k) = (edges ring).rotate k := by
  rw [edges_eq_zip, edges_eq_zip, zip_rotate (List.length_rotate _ _).symm, List.rotate_rotate,
    List.rotate_rotate, Nat.add_comm]

/-- Reversing a ring reverses each edge: its edges are those of the ring, swapped, reversed
and rotated by one. -/
theorem edges_reverse (p : Point) (ps : Ring) :
    edges (p :: ps).reverse = (((edges (p :: ps)).map Prod.swap).reverse).rotate 1 := by
  have hlen : (ps ++ [p]).length = (p :: ps).length := by simp
  have hrev : ((edges (p :: ps)).map Prod.swap).reverse = edges (p :: ps.reverse) := by
    rw [edges_cons, List.zip_swap, edges_cons]
    exact (List.reverse_zipWith hlen).trans (by simp; rfl)
  rw [hrev, ← edges_rotate, List.rotate_cons_succ, List.rotate_zero, List.reverse_cons]

theorem edges_reverse_perm (ring : Ring) :
    (edges ring.reverse).Perm ((edges ring).map Prod.swap) := by
  cases ring with
  | nil => rfl
  | cons p ps =>
    rw [edges_reverse]
    exact (List.rotate_perm _ _).trans (List.reverse_perm _)

/-- Closing a ring adds the edge from its first point to itself. -/
theorem edges_closeRing (p : Point) (ps : Ring) :
    edges (closeRing (p :: ps)) = edges (p :: ps) ++ [(p, p)] := by
  rw [closeRing, List.cons_append, edges_cons, edges_cons]
  show ((p :: ps) ++ [p]).zip ((ps ++ [p]) ++ [p]) = _
  rw [List.zip_append (by simp)]
  rfl

/-! ## One edge -/

section Edge

variable (px py : ℚ) (p q : Point)

/-- The crossing abscissa is the same read from either end of the edge: both ends lie on
the line of slope `q` through the crossing point. -/
theorem intersectX_comm {xi yi xj yj : ℚ} (h : yi ≠ yj) :
    xi + (py - yi) * (xj - xi) / (yj - yi) = xj + (py - yj) * (xi - xj) / (yi - yj) := by
  have hq : (yj - yi) * ((xj - xi) / (yj - yi)) = xj - xi :=
    mul_div_cancel₀ _ (sub_ne_zero.mpr (Ne.symm h))
  rw [← neg_sub yj yi, ← neg_sub xj xi, mul_div_assoc, mul_div_assoc, neg_div_neg_eq]
  generalize (xj - xi) / (yj - yi) = q at hq ⊢
  calc xi + (py - yi) * q = xi + (yj - yi) * q + (py - yj) * q := by ring
    _ = xj + (py - yj) * q := by rw [hq]; ring

theorem crossesRay_comm : crossesRay px py p q = crossesRay px py q p := by
  match p, q with
  | xi :: yi :: _, xj :: yj :: _ =>
    simp only [crossesRay]
    have hsym :
        (decide (yj > py) != decide (yi > py)) = (decide (yi > py) != decide (yj > py)) := by
      cases decide (yi > py) <;> cases decide (yj > py) <;> rfl
    rw [hsym]
    by_cases hs : (decide (yi > py) != decide (yj > py)) = true
    · have hne : yi ≠ yj := fun h => by simp [h] at hs
      rw [if_pos hs, if_pos hs, if_pos (Ne.symm hne), if_pos hne, intersectX_comm py hne]
    · rw [if_neg hs, if_neg hs]
  | [], _ | [_], _ | _ :: _ :: _, [] | _ :: _ :: _, [_] => simp [crossesRay]

@[simp] theorem crossesRay_self : crossesRay px py p p = false := by
  match p with
  | _ :: _ :: _ => simp [crossesRay]
  | [] | [_] => rfl

theorem shoelaceTerm_swap : shoelaceTerm q p = -shoelaceTerm p q := by
  match p, q with
  | _ :: _ :: _, _ :: _ :: _ => simp only [shoelaceTerm]; ring
  | [], _ | [_], _ | _ :: _ :: _, [] | _ :: _ :: _, [_] => simp [shoelaceTerm]

@[simp] theorem shoelaceTerm_self : shoelaceTerm p p = 0 := by
  match p with
  | _ :: _ :: _ => simp [shoelaceTerm]
  | [] | [_] => rfl

end Edge

/-! ## The loops as folds over the edges -/

/-- Toggle the flag on an edge the ray crosses. -/
def rayStep (px py : ℚ) (inside : Bool) (e : Point × Point) : Bool :=
  if crossesRay px py e.1 e.2 then !inside else inside

/-- The ray-casting answer over a list of edges. -/
def rayParity (px py : ℚ) (es : List (Point × Point)) : Bool :=
  es.foldl (rayStep px py) false

/-- The shoelace sum over a list of edges. -/
def shoelaceSum (es : List (Point × Point)) : ℚ :=
  (es.map fun e => shoelaceTerm e.1 e.2).sum

theorem rayParity_perm {px py : ℚ} {es es' : List (Point × Point)} (h : es.Perm es') :
    rayParity px py es = rayParity px py es' :=
  h.foldl_eq' (fun x _ y _ z => by
    unfold rayStep
    cases crossesRay px py x.1 x.2 <;> cases crossesRay px py y.1 y.2 <;> rfl) false

theorem rayParity_swap (px py : ℚ) (es : List (Point × Point)) :
    rayParity px py (es.map Prod.swap) = rayParity px py es := by
  simp only [rayParity, List.foldl_map]
  congr 1
  funext inside e
  simp [rayStep, crossesRay_comm px py e.2 e.1]

theorem rayParity_append_self (px py : ℚ) (es : List (Point × Point)) (p : Point) :
    rayParity px py (es ++ [(p, p)]) = rayParity px py es := by
  simp [rayParity, List.foldl_append, rayStep]

theorem shoelaceSum_swap (es : List (Point × Point)) :
    shoelaceSum (es.map Prod.swap) = -shoelaceSum es := by
  simp only [shoelaceSum, List.map_map, List.sum_neg]
  congr 1
  exact List.map_congr_left fun e _ => shoelaceTerm_swap e.1 e.2

theorem foldl_add_eq_sum {α : Type} (f : α → ℚ) (l : List α) (b : ℚ) :
    l.foldl (fun a x => a + f x) b = b + (l.map f).sum := by
  induction l generalizing b with
  | nil => simp
  | cons x l ih => rw [List.foldl_cons, ih, List.map_cons, List.sum_cons, add_assoc]

/-- Two points give two opposite edges, which cross the ray together. -/
theorem rayParity_edges_pair (px py : ℚ) (p q : Point) :
    rayParity px py (edges [p, q]) = false := by
  rw [edges_cons]
  simp only [List.singleton_append, List.zip_cons_cons, List.zip_nil_right, rayParity,
    List.foldl_cons, List.foldl_nil, rayStep, crossesRay_comm px py q p]
  cases crossesRay px py p q <;> rfl

/-- The length guard changes nothing: `isPointInRing` is the parity of the crossing edges. -/
theorem isPointInRing_eq (px py : ℚ) (ring : Ring) :
    isPointInRing px py ring = rayParity px py (edges ring) := by
  have hfold : rayParity px py (edges ring) = (List.range ring.length).foldl
      (fun inside i =>
        if crossesRay px py ring[i]! ring[(i + 1) % ring.length]! then !inside else inside)
      false := by
    rw [rayParity, edges, List.foldl_map]; rfl
  rw [isPointInRing, ← hfold]
  split
  · match ring with
    | [] => rfl
    | [p] => simp [edges_cons, rayParity, rayStep]
    | [p, q] => exact (rayParity_edges_pair px py p q).symm
  · rfl

/-- The length guard changes nothing: the signed area is half the shoelace sum. -/
theorem calculateRingSignedArea_eq (ring : Ring) :
    calculateRingSignedArea ring = shoelaceSum (edges ring) / 2 := by
  have hfold : shoelaceSum (edges ring) = (List.range ring.length).foldl
      (fun area i => area + shoelaceTerm ring[i]! ring[(i + 1) % ring.length]!) 0 := by
    rw [foldl_add_eq_sum, zero_add, shoelaceSum, edges, List.map_map]; rfl
  rw [calculateRingSignedArea, ← hfold]
  split
  · match ring with
    | [] => simp [edges, shoelaceSum]
    | [p] => simp [edges_cons, shoelaceSum]
    | [p, q] =>
      simp [edges_cons, shoelaceSum, shoelaceTerm_swap p q]
  · rfl

/-! ## Invariance under the presentation of a ring -/

section Ring

variable (px py : ℚ) (ring : Ring)

theorem isPointInRing_rotate (k : ℕ) :
    isPointInRing px py (ring.rotate k) = isPointInRing px py ring := by
  rw [isPointInRing_eq, isPointInRing_eq, edges_rotate]
  exact rayParity_perm (List.rotate_perm _ _)

theorem isPointInRing_reverse : isPointInRing px py ring.reverse = isPointInRing px py ring := by
  rw [isPointInRing_eq, isPointInRing_eq, rayParity_perm (edges_reverse_perm ring), rayParity_swap]

theorem isPointInRing_closeRing :
    isPointInRing px py (closeRing ring) = isPointInRing px py ring := by
  cases ring with
  | nil => rfl
  | cons p ps => rw [isPointInRing_eq, isPointInRing_eq, edges_closeRing, rayParity_append_self]

theorem calculateRingSignedArea_rotate (k : ℕ) :
    calculateRingSignedArea (ring.rotate k) = calculateRingSignedArea ring := by
  rw [calculateRingSignedArea_eq, calculateRingSignedArea_eq, edges_rotate, shoelaceSum,
    shoelaceSum, ((List.rotate_perm _ k).map _).sum_eq]

theorem calculateRingSignedArea_reverse :
    calculateRingSignedArea ring.reverse = -calculateRingSignedArea ring := by
  rw [calculateRingSignedArea_eq, calculateRingSignedArea_eq, shoelaceSum,
    ((edges_reverse_perm ring).map _).sum_eq, ← shoelaceSum, shoelaceSum_swap, neg_div]

theorem calculateRingSignedArea_closeRing :
    calculateRingSignedArea (closeRing ring) = calculateRingSignedArea ring := by
  cases ring with
  | nil => rfl
  | cons p ps => simp [calculateRingSignedArea_eq, edges_closeRing, shoelaceSum]

end Ring

/-- Two rings that list one cycle of points: one is the other rotated, reversed or closed by
repeating its first point, or a chain of these steps taken either way. -/
inductive SameCycle : Ring → Ring → Prop
  | refl (r : Ring) : SameCycle r r
  | rotate (r : Ring) (k : ℕ) : SameCycle r (r.rotate k)
  | reverse (r : Ring) : SameCycle r r.reverse
  | close (r : Ring) : SameCycle r (closeRing r)
  | symm {r s : Ring} : SameCycle r s → SameCycle s r
  | trans {r s t : Ring} : SameCycle r s → SameCycle s t → SameCycle r t

/-- Rings that list one cycle answer alike, and have areas of one size. -/
theorem SameCycle.invariant {r s : Ring} (h : SameCycle r s) (px py : ℚ) :
    isPointInRing px py r = isPointInRing px py s ∧
      |calculateRingSignedArea r| = |calculateRingSignedArea s| := by
  induction h with
  | refl r => exact ⟨rfl, rfl⟩
  | rotate r k => exact ⟨(isPointInRing_rotate px py r k).symm,
      by rw [calculateRingSignedArea_rotate]⟩
  | reverse r => exact ⟨(isPointInRing_reverse px py r).symm,
      by rw [calculateRingSignedArea_reverse, abs_neg]⟩
  | close r => exact ⟨(isPointInRing_closeRing px py r).symm,
      by rw [calculateRingSignedArea_closeRing]⟩
  | symm _ ih => exact ⟨ih.1.symm, ih.2.symm⟩
  | trans _ _ ih1 ih2 => exact ⟨ih1.1.trans ih2.1, ih1.2.trans ih2.2⟩

/-- Two polygons that differ only in how each ring is listed and in the order of the
holes. -/
def SamePolygon : Polygon → Polygon → Prop
  | [], [] => True
  | e :: hs, e' :: hs' => SameCycle e e' ∧ ∃ ks, List.Forall₂ SameCycle hs ks ∧ ks.Perm hs'
  | _, _ => False

/-! ## Polygons -/

theorem map_eq_of_forall₂ {α β : Type} {R : α → α → Prop} {f : α → β}
    (hf : ∀ a b, R a b → f a = f b) {l l' : List α} (h : List.Forall₂ R l l') :
    l.map f = l'.map f := by
  induction h with
  | nil => rfl
  | cons hab _ ih => rw [List.map_cons, List.map_cons, hf _ _ hab, ih]

theorem foldl_sub_eq (f : Ring → ℚ) (l : List Ring) (b : ℚ) :
    l.foldl (fun a x => a - f x) b = b - (l.map f).sum := by
  induction l generalizing b with
  | nil => simp
  | cons x l ih => rw [List.foldl_cons, ih, List.map_cons, List.sum_cons, sub_sub]

theorem any_eq_of_forall₂ {α : Type} {R : α → α → Prop} {f : α → Bool}
    (hf : ∀ a b, R a b → f a = f b) {l l' : List α} (h : List.Forall₂ R l l') :
    l.any f = l'.any f := by
  induction h with
  | nil => rfl
  | cons hab _ ih => rw [List.any_cons, List.any_cons, hf _ _ hab, ih]

theorem any_eq_of_perm {α : Type} {f : α → Bool} {l l' : List α} (h : l.Perm l') :
    l.any f = l'.any f := by
  simp only [List.any_eq, h.mem_iff]

theorem isPointInPolygon_cons (lat lon : ℚ) (e : Ring) (hs : List Ring) :
    isPointInPolygon lat lon (e :: hs) =
      (isPointInRing lon lat e && !hs.any (isPointInRing lon lat)) := by
  cases h : isPointInRing lon lat e <;> simp [isPointInPolygon, h]

theorem calculatePolygonArea_cons (e : Ring) (hs : List Ring) :
    calculatePolygonArea (e :: hs) =
      max 0 (|calculateRingSignedArea e| - (hs.map fun r => |calculateRingSignedArea r|).sum) := by
  simp only [calculatePolygonArea, foldl_sub_eq]
  split
  · next h => exact (max_eq_left h.le).symm
  · next h => exact (max_eq_right (not_lt.mp h)).symm

/-- Listing the rings of a polygon otherwise, or its holes in another order, changes
neither answer. -/
theorem SamePolygon.invariant {P Q : Polygon} (h : SamePolygon P Q) (lat lon : ℚ) :
    isPointInPolygon lat lon P = isPointInPolygon lat lon Q ∧
      calculatePolygonArea P = calculatePolygonArea Q := by
  match P, Q, h with
  | [], [], _ => exact ⟨rfl, rfl⟩
  | e :: hs, e' :: hs', ⟨he, ks, hk, hp⟩ =>
    have hany : hs.any (isPointInRing lon lat) = hs'.any (isPointInRing lon lat) :=
      (any_eq_of_forall₂ (f := isPointInRing lon lat)
        (fun _ _ h => (SameCycle.invariant h lon lat).1) hk).trans
        (any_eq_of_perm hp)
    have hsum : (hs.map fun r => |calculateRingSignedArea r|).sum =
        (hs'.map fun r => |calculateRingSignedArea r|).sum := by
      rw [map_eq_of_forall₂ (f := fun r => |calculateRingSignedArea r|)
        (fun _ _ h => (SameCycle.invariant h lon lat).2) hk]
      exact (hp.map _).sum_eq
    rw [isPointInPolygon_cons, isPointInPolygon_cons, calculatePolygonArea_cons,
      calculatePolygonArea_cons, (he.invariant lon lat).1, (he.invariant lon lat).2, hany, hsum]
    exact ⟨rfl, rfl⟩

/-- Over exact rationals, `isPointInRing` answers alike for a ring, each rotation of it, its
reversal and its closure; `calculateRingSignedArea` is unchanged by rotation and closure and
negated by reversal; so `IsPointInPolygon` and `CalculatePolygonArea` depend neither on the
starting vertex, orientation or closure of any ring nor on the order of the holes. -/
theorem polygon_queries_ignore_presentation :
    (∀ (px py : ℚ) (ring : Ring) (k : ℕ),
      isPointInRing px py (ring.rotate k) = isPointInRing px py ring ∧
      isPointInRing px py ring.reverse = isPointInRing px py ring ∧
      isPointInRing px py (closeRing ring) = isPointInRing px py ring) ∧
    (∀ (ring : Ring) (k : ℕ),
      calculateRingSignedArea (ring.rotate k) = calculateRingSignedArea ring ∧
      calculateRingSignedArea ring.reverse = -calculateRingSignedArea ring ∧
      calculateRingSignedArea (closeRing ring) = calculateRingSignedArea ring) ∧
    ∀ (lat lon : ℚ) (P Q : Polygon), SamePolygon P Q →
      isPointInPolygon lat lon P = isPointInPolygon lat lon Q ∧
        calculatePolygonArea P = calculatePolygonArea Q :=
  ⟨fun px py ring k => ⟨isPointInRing_rotate px py ring k, isPointInRing_reverse px py ring,
      isPointInRing_closeRing px py ring⟩,
    fun ring k => ⟨calculateRingSignedArea_rotate ring k, calculateRingSignedArea_reverse ring,
      calculateRingSignedArea_closeRing ring⟩,
    fun lat lon _ _ h => h.invariant lat lon⟩

/-- A 10 × 10 square with a square hole and a triangular hole. -/
def plot : Polygon :=
  [[[0, 0], [10, 0], [10, 10], [0, 10]], [[1, 1], [3, 1], [3, 3], [1, 3]], [[5, 5], [7, 5], [7, 7]]]

/-- The same plot with its exterior reversed and closed, its holes swapped and the triangle
started at its second vertex. -/
def plotRelisted : Polygon :=
  [closeRing [[0, 10], [10, 10], [10, 0], [0, 0]], [[7, 5], [7, 7], [5, 5]],
    [[1, 1], [3, 1], [3, 3], [1, 3]]]

theorem polygon_queries_ignore_presentation_plot :
    SamePolygon plot plotRelisted ∧
    isPointInPolygon 2 2 plot = isPointInPolygon 2 2 plotRelisted ∧
      calculatePolygonArea plot = calculatePolygonArea plotRelisted := by
  have h : SamePolygon plot plotRelisted :=
    ⟨.trans (.reverse _) (.close _), [[[1, 1], [3, 1], [3, 3], [1, 3]], [[7, 5], [7, 7], [5, 5]]],
      .cons (.refl _) (.cons (.rotate _ 1) .nil), .swap _ _ _⟩
  exact ⟨h, polygon_queries_ignore_presentation.2.2 2 2 plot plotRelisted h⟩

/-! ## Validation and the area in square meters -/

/-- `ValidatePolygon`: an exterior ring of three points or more, and two coordinates or more at
every point of every ring. -/
def validatePolygon : Polygon → Bool
  | [] => false
  | exterior :: holes =>
    if exterior.length < 3 then false
    else (exterior :: holes).all fun ring => ring.all fun point => decide (2 ≤ point.length)

/-- One turn of the inner loop of `getAverageLatitude`: a point of two coordinates or more adds
its latitude to the sum and one to the count. -/
def addLatitude (acc : ℚ × ℕ) : Point → ℚ × ℕ
  | _ :: lat :: _ => (acc.1 + lat, acc.2 + 1)
  | _ => acc

/-- `getAverageLatitude`: the mean latitude of the points of all rings that have two
coordinates; 0 for no polygon, an empty exterior or no such point. -/
def getAverageLatitude : Polygon → ℚ
  | [] => 0
  | [] :: _ => 0
  | (p :: ps) :: holes =>
    let acc := ((p :: ps) :: holes).foldl (fun acc ring => ring.foldl addLatitude acc) (0, 0)
    if acc.2 = 0 then 0 else acc.1 / acc.2

/-- `CalculatePolygonAreaInSquareMeters`; `lonMeters lat`, the meters of a degree of longitude
at latitude `lat` (`111320 * math.Cos(lat * math.Pi / 180)`), is left abstract. -/
def calculatePolygonAreaInSquareMeters (lonMeters : ℚ → ℚ) (polygon : Polygon) : ℚ :=
  let areaInSquareDegrees := calculatePolygonArea polygon
  let averageLatitude := getAverageLatitude polygon
  let latMeters : ℚ := 111320
  areaInSquareDegrees * latMeters * lonMeters averageLatitude

/-- What a point adds to the sum and the count of latitudes. -/
def pointLat : Point → ℚ × ℕ
  | _ :: lat :: _ => (lat, 1)
  | _ => 0

/-- The sum and the count of the latitudes of a polygon. -/
def latitudes (polygon : Polygon) : ℚ × ℕ := (polygon.map fun ring => (ring.map pointLat).sum).sum

theorem addLatitude_eq (acc : ℚ × ℕ) (p : Point) : addLatitude acc p = acc + pointLat p := by
  match p with
  | _ :: lat :: _ => rfl
  | [] | [_] => exact (add_zero acc).symm

theorem foldl_addLatitude (ring : Ring) (acc : ℚ × ℕ) :
    ring.foldl addLatitude acc = acc + (ring.map pointLat).sum := by
  induction ring generalizing acc with
  | nil => simp
  | cons p ps ih =>
    rw [List.foldl_cons, ih, addLatitude_eq, List.map_cons, List.sum_cons, add_assoc]

theorem foldl_rings (polygon : Polygon) (acc : ℚ × ℕ) :
    polygon.foldl (fun acc ring => ring.foldl addLatitude acc) acc = acc + latitudes polygon := by
  induction polygon generalizing acc with
  | nil => simp [latitudes]
  | cons r rs ih =>
    rw [List.foldl_cons, ih, foldl_addLatitude, latitudes, latitudes, List.map_cons,
      List.sum_cons, add_assoc]

theorem getAverageLatitude_cons (p : Point) (ps : Ring) (holes : List Ring) :
    getAverageLatitude ((p :: ps) :: holes) =
      if (latitudes ((p :: ps) :: holes)).2 = 0 then 0
      else (latitudes ((p :: ps) :: holes)).1 / (latitudes ((p :: ps) :: holes)).2 := by
  simp only [getAverageLatitude, foldl_rings, Prod.mk_zero_zero, zero_add]

/-- Rotating or reversing a ring reorders its latitudes; closing it adds its first point's. -/
theorem latitudes_cons_perm {e e' : Ring} (h : e.Perm e') (holes : List Ring) :
    latitudes (e :: holes) = latitudes (e' :: holes) := by
  simp only [latitudes, List.map_cons, List.sum_cons, (h.map pointLat).sum_eq]

theorem latitudes_closeRing (p : Point) (ps : Ring) (holes : List Ring) :
    latitudes (closeRing (p :: ps) :: holes) = latitudes ((p :: ps) :: holes) + pointLat p := by
  simp only [latitudes, closeRing, List.map_cons, List.map_append, List.sum_cons, List.sum_append,
    List.map_nil, List.sum_nil, add_zero]
  exact add_right_comm _ _ _

theorem latitudes_ring_count {ring : Ring} (h : ∀ p ∈ ring, 2 ≤ p.length) :
    ((ring.map pointLat).sum).2 = ring.length := by
  induction ring with
  | nil => rfl
  | cons p ps ih =>
    obtain ⟨x, lat, rest, rfl⟩ : ∃ x lat rest, p = x :: lat :: rest := by
      match p, h p (.head _) with
      | x :: lat :: rest, _ => exact ⟨x, lat, rest, rfl⟩
    rw [List.map_cons, List.sum_cons, Prod.snd_add, ih fun q hq => h q (.tail _ hq),
      List.length_cons, add_comm]
    rfl

theorem closeRing_cons (p : Point) (ps : Ring) : closeRing (p :: ps) = p :: (ps ++ [p]) := rfl

/-- A mean over one more value, the new one, is the old mean exactly when the new value is. -/
theorem div_succ_eq_div_iff {S lat : ℚ} {n : ℕ} (hn : n ≠ 0) :
    (S + lat) / ((n + 1 : ℕ) : ℚ) = S / n ↔ lat = S / n := by
  have hn' : (n : ℚ) ≠ 0 := Nat.cast_ne_zero.mpr hn
  have hn1 : ((n + 1 : ℕ) : ℚ) ≠ 0 := Nat.cast_ne_zero.mpr (Nat.succ_ne_zero n)
  have e1 : (S + lat) * n = S * n + lat * n := by ring
  have e2 : S * ((n + 1 : ℕ) : ℚ) = S * n + S := by push_cast; ring
  rw [div_eq_div_iff hn1 hn', eq_div_iff hn', e1, e2, add_left_cancel_iff]

/-- `getAverageLatitude` ignores the start and the orientation of the exterior ring, but not its
closure: closing the exterior counts its first point twice, which moves the average latitude
unless that point lies on it. So `CalculatePolygonAreaInSquareMeters` gives the same plot, listed
open and listed closed, two areas, unless its area is 0 or the meters of a degree of longitude
agree at the two averages. -/
theorem squareMeters_depends_on_closing (lonMeters : ℚ → ℚ) (x lat : ℚ) (rest : Point)
    (ps : Ring) (holes : List Ring) (k : ℕ) :
    getAverageLatitude (((x :: lat :: rest) :: ps).rotate k :: holes) =
        getAverageLatitude (((x :: lat :: rest) :: ps) :: holes) ∧
      getAverageLatitude (((x :: lat :: rest) :: ps).reverse :: holes) =
        getAverageLatitude (((x :: lat :: rest) :: ps) :: holes) ∧
      (getAverageLatitude (closeRing ((x :: lat :: rest) :: ps) :: holes) =
          getAverageLatitude (((x :: lat :: rest) :: ps) :: holes) ↔
        lat = getAverageLatitude (((x :: lat :: rest) :: ps) :: holes)) ∧
      (calculatePolygonAreaInSquareMeters lonMeters (closeRing ((x :: lat :: rest) :: ps) :: holes) =
          calculatePolygonAreaInSquareMeters lonMeters (((x :: lat :: rest) :: ps) :: holes) ↔
        calculatePolygonArea (((x :: lat :: rest) :: ps) :: holes) = 0 ∨
          lonMeters (getAverageLatitude (closeRing ((x :: lat :: rest) :: ps) :: holes)) =
            lonMeters (getAverageLatitude (((x :: lat :: rest) :: ps) :: holes))) := by
  have hn : (latitudes (((x :: lat :: rest) :: ps) :: holes)).2 ≠ 0 := by
    simp [latitudes, pointLat]
  have hperm : ∀ {e : Ring}, e.Perm ((x :: lat :: rest) :: ps) →
      getAverageLatitude (e :: holes) =
        getAverageLatitude (((x :: lat :: rest) :: ps) :: holes) := by
    intro e he
    obtain ⟨q, qs, rfl⟩ :=
      List.exists_cons_of_ne_nil (show e ≠ [] from fun h => by simp [h] at he)
    rw [getAverageLatitude_cons, getAverageLatitude_cons, latitudes_cons_perm he]
  have hclose : getAverageLatitude (closeRing ((x :: lat :: rest) :: ps) :: holes) =
      ((latitudes (((x :: lat :: rest) :: ps) :: holes)).1 + lat) /
        ((latitudes (((x :: lat :: rest) :: ps) :: holes)).2 + 1 : ℕ) := by
    rw [closeRing_cons, getAverageLatitude_cons, ← closeRing_cons, latitudes_closeRing]
    simp [pointLat]
  have harea : calculatePolygonArea (closeRing ((x :: lat :: rest) :: ps) :: holes) =
      calculatePolygonArea (((x :: lat :: rest) :: ps) :: holes) := by
    rw [calculatePolygonArea_cons, calculatePolygonArea_cons, calculateRingSignedArea_closeRing]
  refine ⟨hperm (List.rotate_perm _ k), hperm (List.reverse_perm _), ?_, ?_⟩
  · rw [hclose, getAverageLatitude_cons, if_neg hn, div_succ_eq_div_iff hn]
  · simp only [calculatePolygonAreaInSquareMeters, harea, mul_eq_mul_left_iff, mul_eq_zero,
      OfNat.ofNat_ne_zero, or_false]
    exact or_comm

end Helpers
end MsaCore
