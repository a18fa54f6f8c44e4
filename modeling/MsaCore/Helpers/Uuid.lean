import Mathlib.Data.List.Basic
import Mathlib.Data.String.Basic

/-!
# The UUID check

`IsValidUUID` checks the shape `8-4-4-4-12` and nothing else: `len` counts the bytes of the
UTF-8 encoding, and `strings.Split` cuts at each `-`. It accepts exactly the texts made of five
dash-free groups of 8, 4, 4, 4 and 12 bytes joined by dashes (`isValidUUID_iff`): whatever the
characters of the groups, hexadecimal or not. The check of the total length is implied by those
of the groups.
-/

namespace MsaCore
namespace Helpers

/-- `len` of a Go string: the number of bytes of its UTF-8 encoding. -/
def byteLen (s : List Char) : Nat := (String.mk s).utf8ByteSize

/-- `IsValidUUID(uuid)`. -/
def isValidUUID (uuid : String) : Bool :=
  if uuid.utf8ByteSize ≠ 36 then false
  else
    match uuid.data.splitOn '-' with
    | [p0, p1, p2, p3, p4] =>
      !(byteLen p0 ≠ 8 || byteLen p1 ≠ 4 || byteLen p2 ≠ 4 || byteLen p3 ≠ 4 || byteLen p4 ≠ 12)
    | _ => false

/-! ## The parts of a split -/

/-- No part of a split holds an element the split cuts at. -/
theorem forall_not_of_mem_splitOnP {p : Char → Bool} {xs part : List Char}
    (hp : part ∈ xs.splitOnP p) : ∀ y ∈ part, p y = false := by
  induction xs generalizing part with
  | nil => simp_all [List.splitOnP_nil]
  | cons a as ih =>
    rw [List.splitOnP_cons] at hp
    split_ifs at hp with ha
    · rcases List.mem_cons.mp hp with rfl | hp
      · simp
      · exact ih hp
    · obtain ⟨h, t, ht⟩ := List.exists_cons_of_ne_nil (List.splitOnP_ne_nil p as)
      rw [ht, List.modifyHead_cons] at hp
      rcases List.mem_cons.mp hp with rfl | hp
      · rintro y (_ | ⟨_, hy⟩)
        · simpa using ha
        · exact ih (ht ▸ List.mem_cons_self h t) y hy
      · exact ih (ht ▸ List.mem_cons_of_mem h hp)

theorem not_mem_of_mem_splitOn {x : Char} {xs part : List Char} (hp : part ∈ xs.splitOn x) :
    x ∉ part :=
  fun hx => by simpa using forall_not_of_mem_splitOnP hp x hx

theorem intercalate_dash (p0 p1 p2 p3 p4 : List Char) :
    ['-'].intercalate [p0, p1, p2, p3, p4] =
      p0 ++ '-' :: (p1 ++ '-' :: (p2 ++ '-' :: (p3 ++ '-' :: p4))) := by
  simp [List.intercalate]

/-- `IsValidUUID` accepts exactly the five dash-free groups of 8, 4, 4, 4 and 12 bytes joined by
dashes. -/
theorem isValidUUID_iff (uuid : String) :
    isValidUUID uuid = true ↔ ∃ p0 p1 p2 p3 p4 : List Char,
      ('-' ∉ p0 ∧ '-' ∉ p1 ∧ '-' ∉ p2 ∧ '-' ∉ p3 ∧ '-' ∉ p4) ∧
      uuid.data = p0 ++ '-' :: (p1 ++ '-' :: (p2 ++ '-' :: (p3 ++ '-' :: p4))) ∧
      byteLen p0 = 8 ∧ byteLen p1 = 4 ∧ byteLen p2 = 4 ∧ byteLen p3 = 4 ∧ byteLen p4 = 12 := by
  constructor
  · intro h
    unfold isValidUUID at h
    split_ifs at h
    split at h
    · next p0 p1 p2 p3 p4 hs =>
      have hd : ∀ p ∈ [p0, p1, p2, p3, p4], '-' ∉ p := fun p hp => not_mem_of_mem_splitOn (hs ▸ hp)
      have e : ['-'].intercalate (uuid.data.splitOn '-') = uuid.data := List.intercalate_splitOn uuid.data '-'
      rw [hs, intercalate_dash] at e
      simp only [Bool.not_eq_true', Bool.or_eq_false_iff, decide_eq_false_iff_not, not_not] at h
      obtain ⟨⟨⟨⟨b0, b1⟩, b2⟩, b3⟩, b4⟩ := h
      exact ⟨p0, p1, p2, p3, p4, ⟨hd _ (by simp), hd _ (by simp), hd _ (by simp), hd _ (by simp),
        hd _ (by simp)⟩, e.symm, b0, b1, b2, b3, b4⟩
    · cases h
  · rintro ⟨p0, p1, p2, p3, p4, ⟨h0, h1, h2, h3, h4⟩, hs, b0, b1, b2, b3, b4⟩
    have hsplit : uuid.data.splitOn '-' = [p0, p1, p2, p3, p4] := by
      rw [hs, ← intercalate_dash]
      exact List.splitOn_intercalate _ '-' (by simp [h0, h1, h2, h3, h4]) (by simp)
    have hsize : uuid.utf8ByteSize = 36 := by
      obtain ⟨cs⟩ := uuid
      simp only [byteLen, String.utf8ByteSize_mk] at hs b0 b1 b2 b3 b4 ⊢
      subst hs
      simp only [String.utf8Len_append, String.utf8Len_cons, b0, b1, b2, b3, b4]
      rfl
    simp [isValidUUID, hsize, hsplit, b0, b1, b2, b3, b4]

example : isValidUUID "zzzzzzzz-zzzz-zzzz-zzzz-zzzzzzzzzzzz" = true := by decide

end Helpers
end MsaCore
