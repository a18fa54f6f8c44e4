import Mathlib.Data.List.Nodup

/-!
# Trace states

`trace.TraceState` of the tracing API: at most 32 list-members `key=value` with distinct keys,
each key and value as the W3C `tracestate` grammar has them. A trace state carries these
rules as a field, so that none other can be built.

`TraceState.String` joins the members with `,`. `ParseTraceState` cuts a header at each `,`,
skips the empty pieces, cuts each member at its first `=` and trims the blanks before its key
and after its value; a header that breaks a rule of the grammar, repeats a key or has more
than 32 members reads as the empty trace state. The propagator keeps only what this gives.

The main result, `parseTraceState_render`, is the round trip: a trace state reads back from
the text `String` writes for it.
-/

namespace MsaCore
namespace Tracing

/-! ## Keys and values -/

/-- `lcalpha`. -/
def isLower (c : Char) : Bool := 'a' ≤ c && c ≤ 'z'

/-- `lcalpha / DIGIT`. -/
def isAlphaNum (c : Char) : Bool := isLower c || ('0' ≤ c && c ≤ '9')

/-- What a key holds after the first character of each part:
`lcalpha / DIGIT / "_" / "-" / "*" / "/"`. -/
def isKeyChar (c : Char) : Bool := isAlphaNum c || c = '_' || c = '-' || c = '*' || c = '/'

/-- Part of a key: a first character `first` allows, then at most `n` key characters. -/
def checkKeyPart (first : Char → Bool) (n : Nat) : List Char → Bool
  | [] => false
  | c :: rest => first c && decide (rest.length ≤ n) && rest.all isKeyChar

/-- `strings.Cut(s, sep)`: the text before the first `sep` and the text after it. -/
def cutAt (sep : Char) : List Char → Option (List Char × List Char)
  | [] => none
  | c :: cs => if c = sep then some ([], cs) else (cutAt sep cs).map fun p => (c :: p.1, p.2)

/-- `checkKey`: a `simple-key`, or a `multi-tenant-key` `tenant-id@system-id`. -/
def checkKey (key : List Char) : Bool :=
  match cutAt '@' key with
  | none => checkKeyPart isLower 255 key
  | some (tenant, system) => checkKeyPart isAlphaNum 240 tenant && checkKeyPart isLower 13 system

/-- `chr`: a printable ASCII character other than `,` and `=`, the space included. -/
def isValueChar (c : Char) : Bool := ' ' ≤ c && c ≤ '~' && c ≠ ',' && c ≠ '='

/-- `checkValue`: one to 256 value characters, the last of them not a space. -/
def checkValue (value : List Char) : Bool :=
  match value.getLast? with
  | none => false
  | some last => decide (value.length ≤ 256) && value.all isValueChar && last ≠ ' '

/-- The blanks `strings.TrimLeft` and `strings.TrimRight` cut: space and tab. -/
def isBlank (c : Char) : Bool := c = ' ' || c = '\t'

/-! ## Trace states -/

/-- The rules a trace state keeps: every member's key and value pass their checks, the keys
are distinct, and there are at most 32 members. -/
def WellFormed (members : List (String × String)) : Prop :=
  (∀ m ∈ members, checkKey m.1.data ∧ checkValue m.2.data) ∧ (members.map Prod.fst).Nodup ∧
    members.length ≤ 32

/-- `trace.TraceState`. -/
structure TraceState where
  members : List (String × String)
  wellFormed : WellFormed members
  deriving DecidableEq

theorem WellFormed.nil : WellFormed [] := ⟨by simp, List.nodup_nil, by simp⟩

/-- The empty trace state. -/
def TraceState.empty : TraceState := ⟨[], WellFormed.nil⟩

theorem TraceState.ext {a b : TraceState} (h : a.members = b.members) : a = b := by
  cases a; cases b; cases h; rfl

/-- The text of a list-member. -/
def memberText (m : String × String) : List Char := m.1.data ++ '=' :: m.2.data

/-- `TraceState.String()`: the members joined by `,`. -/
def TraceState.render (ts : TraceState) : String := ⟨[','].intercalate (ts.members.map memberText)⟩

/-- `parseMember`: cut at the first `=`, trim the blanks before the key and after the value,
then check both. -/
def parseMember (m : List Char) : Option (String × String) := do
  let (key, val) ← cutAt '=' m
  let key := key.dropWhile isBlank
  let val := (val.reverse.dropWhile isBlank).reverse
  if checkKey key && checkValue val then some (⟨key⟩, ⟨val⟩) else none

/-- The loop of `ParseTraceState` over the pieces of the header, with the members read so far:
an empty piece is skipped; a member that does not parse, a key read before, or a 33rd member
fails. -/
def parseMembers : List (List Char) → List (String × String) → Option (List (String × String))
  | [], members => some members
  | piece :: pieces, members =>
    if piece = [] then parseMembers pieces members
    else
      match parseMember piece with
      | none => none
      | some m =>
        if m.1 ∈ members.map Prod.fst then none
        else if members.length + 1 > 32 then none
        else parseMembers pieces (members ++ [m])

theorem parseMember_checks {piece : List Char} {m : String × String}
    (h : parseMember piece = some m) : checkKey m.1.data ∧ checkValue m.2.data := by
  simp only [parseMember, bind, Option.bind_eq_some] at h
  obtain ⟨⟨key, val⟩, -, h⟩ := h
  split_ifs at h with hc
  cases h
  simpa using hc

/-- The members `ParseTraceState` reads keep the rules of a trace state. -/
theorem parseMembers_wellFormed {pieces : List (List Char)} {acc out : List (String × String)}
    (h : parseMembers pieces acc = some out) (ha : WellFormed acc) : WellFormed out := by
  induction pieces generalizing acc with
  | nil => cases h; exact ha
  | cons piece pieces ih =>
    unfold parseMembers at h
    by_cases hp : piece = []
    · rw [if_pos hp] at h; exact ih h ha
    · rw [if_neg hp] at h
      cases hm : parseMember piece with
      | none => simp [hm] at h
      | some m =>
        simp only [hm] at h
        split_ifs at h with hk hl
        refine ih h ⟨fun m' hm' => ?_, ?_, by simp; omega⟩
        · rcases List.mem_append.mp hm' with hm' | hm'
          · exact ha.1 m' hm'
          · rw [List.mem_singleton.mp hm']; exact parseMember_checks hm
        · rw [List.map_append, List.nodup_append]
          exact ⟨ha.2.1, by simp, by simpa using hk⟩

/-- `ParseTraceState(ts)`: the trace state the header reads as, the empty one when it breaks a
rule. -/
def parseTraceState (ts : String) : TraceState :=
  match h : parseMembers (ts.data.splitOn ',') [] with
  | some members => ⟨members, parseMembers_wellFormed h WellFormed.nil⟩
  | none => TraceState.empty

/-! ## Reading back what `String` writes -/

theorem cutAt_append {sep : Char} {xs : List Char} (h : sep ∉ xs) (ys : List Char) :
    cutAt sep (xs ++ sep :: ys) = some (xs, ys) := by
  induction xs with
  | nil => simp [cutAt]
  | cons c cs ih =>
    rw [List.mem_cons, not_or] at h
    simp [cutAt, Ne.symm h.1, ih h.2]

theorem cutAt_eq_some {sep : Char} {xs a b : List Char} (h : cutAt sep xs = some (a, b)) :
    xs = a ++ sep :: b := by
  induction xs generalizing a with
  | nil => cases h
  | cons c cs ih =>
    unfold cutAt at h
    split_ifs at h with hc
    · cases h; simp [hc]
    · obtain ⟨⟨a', b'⟩, h', he⟩ := Option.map_eq_some'.mp h
      cases he
      simp [ih h']

/-- A key character is none of the characters a member is cut or trimmed at. -/
theorem isKeyChar_ne {c : Char} (h : isKeyChar c) :
    c ≠ '=' ∧ c ≠ ',' ∧ c ≠ '@' ∧ isBlank c = false := by
  refine ⟨?_, ?_, ?_, ?_⟩
  · rintro rfl; revert h; decide
  · rintro rfl; revert h; decide
  · rintro rfl; revert h; decide
  · cases hb : isBlank c
    · rfl
    · simp only [isBlank, Bool.or_eq_true, decide_eq_true_eq] at hb
      rcases hb with rfl | rfl <;> revert h <;> decide

theorem checkKeyPart_chars {first : Char → Bool} {n : Nat} {part : List Char}
    (h : checkKeyPart first n part) (hf : ∀ c, first c → isKeyChar c) : ∀ c ∈ part, isKeyChar c := by
  cases part with
  | nil => cases h
  | cons c rest =>
    simp only [checkKeyPart, Bool.and_eq_true, decide_eq_true_eq, List.all_eq_true] at h
    rintro d (_ | ⟨_, hd⟩)
    · exact hf c h.1.1
    · exact h.2 d hd

theorem isLower_isKeyChar (c : Char) (h : isLower c) : isKeyChar c := by
  simp [isKeyChar, isAlphaNum, h]

theorem isAlphaNum_isKeyChar (c : Char) (h : isAlphaNum c) : isKeyChar c := by
  simp [isKeyChar, h]

/-- A key holds key characters and at most one `@`, and starts with a character that is not
blank. -/
theorem checkKey_chars {key : List Char} (h : checkKey key) :
    (∀ c ∈ key, c ≠ '=' ∧ c ≠ ',') ∧ ∃ c rest, key = c :: rest ∧ isBlank c = false := by
  unfold checkKey at h
  split at h
  · next hn =>
    have hk := checkKeyPart_chars h isLower_isKeyChar
    refine ⟨fun c hc => ⟨(isKeyChar_ne (hk c hc)).1, (isKeyChar_ne (hk c hc)).2.1⟩, ?_⟩
    obtain _ | ⟨c, rest⟩ := key
    · cases h
    · exact ⟨c, rest, rfl, (isKeyChar_ne (hk c (.head _))).2.2.2⟩
  · next tenant system hs =>
    rw [Bool.and_eq_true] at h
    have ht := checkKeyPart_chars h.1 isAlphaNum_isKeyChar
    have hy := checkKeyPart_chars h.2 isLower_isKeyChar
    rw [cutAt_eq_some hs]
    refine ⟨fun c hc => ?_, ?_⟩
    · rcases List.mem_append.mp hc with hc | hc
      · exact ⟨(isKeyChar_ne (ht c hc)).1, (isKeyChar_ne (ht c hc)).2.1⟩
      · rcases List.mem_cons.mp hc with rfl | hc
        · decide
        · exact ⟨(isKeyChar_ne (hy c hc)).1, (isKeyChar_ne (hy c hc)).2.1⟩
    · obtain _ | ⟨c, rest⟩ := tenant
      · cases h.1
      · exact ⟨c, rest ++ '@' :: system, rfl, (isKeyChar_ne (ht c (.head _))).2.2.2⟩

/-- A value holds no `,`, and ends with a character that is not blank. -/
theorem checkValue_chars {value : List Char} (h : checkValue value) :
    (∀ c ∈ value, c ≠ ',') ∧ ∃ init c, value = init ++ [c] ∧ isBlank c = false := by
  unfold checkValue at h
  split at h
  · cases h
  · next last hl =>
    simp only [Bool.and_eq_true, decide_eq_true_eq, List.all_eq_true, ne_eq] at h
    have hv : ∀ c ∈ value, c ≠ ',' := fun c hc he => by
      have := h.1.2 c hc
      rw [he] at this
      revert this; decide
    refine ⟨hv, value.dropLast, last, (List.dropLast_append_getLast? _ hl).symm, ?_⟩
    have hlv := h.1.2 last (List.mem_of_getLast?_eq_some hl)
    cases hb : isBlank last
    · rfl
    · simp only [isBlank, Bool.or_eq_true, decide_eq_true_eq] at hb
      rcases hb with rfl | rfl
      · exact absurd rfl h.2
      · revert hlv; decide

theorem parseMember_memberText {m : String × String} (hk : checkKey m.1.data)
    (hv : checkValue m.2.data) : parseMember (memberText m) = some m := by
  obtain ⟨hkc, c, rest, hkey, hc⟩ := checkKey_chars hk
  obtain ⟨-, init, d, hval, hd⟩ := checkValue_chars hv
  have hcut : cutAt '=' (memberText m) = some (m.1.data, m.2.data) :=
    cutAt_append (fun h => (hkc '=' h).1 rfl) _
  have htrim : (m.2.data.reverse.dropWhile isBlank).reverse = m.2.data := by
    rw [hval, List.reverse_append]
    simp [List.dropWhile, hd]
  have hkeep : m.1.data.dropWhile isBlank = m.1.data := by rw [hkey]; simp [List.dropWhile, hc]
  simp only [parseMember, hcut, bind, Option.some_bind, htrim, hkeep, hk, hv, Bool.and_self,
    if_true]

/-- A member's text is not empty and holds no `,`. -/
theorem memberText_sep {m : String × String} (hk : checkKey m.1.data) (hv : checkValue m.2.data) :
    memberText m ≠ [] ∧ ',' ∉ memberText m := by
  refine ⟨by simp [memberText], fun h => ?_⟩
  rcases List.mem_append.mp h with h | h
  · exact (checkKey_chars hk).1 ',' h |>.2 rfl
  · rcases List.mem_cons.mp h with h | h
    · cases h
    · exact (checkValue_chars hv).1 ',' h rfl

/-- The loop reads back the texts of members that keep the rules, after those read before. -/
theorem parseMembers_memberText (ms acc : List (String × String)) (h : WellFormed (acc ++ ms)) :
    parseMembers (ms.map memberText) acc = some (acc ++ ms) := by
  induction ms generalizing acc with
  | nil => simp [parseMembers]
  | cons m ms ih =>
    have hm := h.1 m (by simp)
    have hk : m.1 ∉ acc.map Prod.fst := by
      have hn := h.2.1
      rw [List.map_append, List.nodup_append] at hn
      exact fun hm' => hn.2.2 hm' (List.mem_cons_self _ _)
    have hlen : ¬ acc.length + 1 > 32 := by have := h.2.2; simp at this; omega
    simp only [List.map_cons, parseMembers, (memberText_sep hm.1 hm.2).1, if_false,
      parseMember_memberText hm.1 hm.2, hk, hlen]
    rw [ih (acc ++ [m]) (by rw [List.append_assoc]; exact h)]
    simp

/-- A trace state reads back from the text `String` writes for it. -/
theorem parseTraceState_render (ts : TraceState) : parseTraceState ts.render = ts := by
  apply TraceState.ext
  have hsplit : ts.render.data.splitOn ',' = ts.members.map memberText ∨ ts.members = [] := by
    by_cases he : ts.members = []
    · exact .inr he
    · refine .inl (List.splitOn_intercalate _ ',' ?_ (by simpa using he))
      simp only [List.mem_map]
      rintro _ ⟨m, hm, rfl⟩
      exact (memberText_sep (ts.wellFormed.1 m hm).1 (ts.wellFormed.1 m hm).2).2
  unfold parseTraceState
  split
  · next members h =>
    rcases hsplit with hs | he
    · rw [hs, parseMembers_memberText _ [] (by simpa using ts.wellFormed)] at h
      simpa using h.symm
    · simp [TraceState.render, he, parseMembers] at h
      simp [← h, he]
  · next h =>
    rcases hsplit with hs | he
    · rw [hs, parseMembers_memberText _ [] (by simpa using ts.wellFormed)] at h
      cases h
    · simp [TraceState.render, he, parseMembers] at h

end Tracing
end MsaCore
