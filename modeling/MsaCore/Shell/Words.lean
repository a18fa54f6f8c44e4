import Mathlib.Data.List.Basic

/-!
# The words of a shell command

The curl helpers build a command line for a POSIX shell. What the shell runs is the argument
vector it reads from that text: words separated by blanks, after quote removal. This module
is that reading, for a text that is one simple command of literal words:

* outside quotes a blank ends a word, `'` and `"` open quotes, and `\` takes the next
  character literally (a newline after it is removed);
* inside `'...'` every character is literal;
* inside `"..."` a `\` escapes only `$`, `` ` ``, `"`, `\` and the newline.

A text outside that fragment reads as `none`, since its argument vector is not fixed by the
text: an unterminated quote; an unquoted operator (`|&;<>()`) or newline, which end the
command; an expansion (`$` or `` ` ``, also inside `"..."`); a pathname pattern (`*?[`); and
a word starting with `#` (a comment) or `~` (a home directory).

`Reads t ws` says that the text `t` reads as the words `ws` wherever it stands between
blanks. It is closed under joining with a blank, which gives the words of a command from
the words of its parts.
-/

namespace MsaCore
namespace Shell

/-- Word separators outside quotes. -/
def isBlank (c : Char) : Bool := c = ' ' || c = '\t'

/-- Characters that, unquoted, end the simple command or make its words depend on more than
the text. -/
def isSpecial (c : Char) : Bool := "|&;<>()$\x60*?[\n".data.contains c

/-- Characters that, unquoted, stand for themselves wherever they are in a word. -/
def isPlain (c : Char) : Bool :=
  !isBlank c && !isSpecial c && !"'\"\\#~".data.contains c

/-- Where the reader is: between words, in an unquoted part of a word, inside `'...'` or
`"..."`, or after a backslash (outside quotes, in a word or not; or inside `"..."`). -/
inductive Lexer where
  | blank
  | word
  | single
  | double
  | escape (inWord : Bool)
  | doubleEscape
  deriving DecidableEq, Repr

/-- The words of the rest of a text, from lexer state `l` with the current word `cur`. -/
def shellWords : Lexer → List Char → List Char → Option (List String)
  | .blank, _, [] => some []
  | .word, cur, [] => some [String.mk cur]
  | _, _, [] => none
  | .blank, _, c :: cs =>
    if isBlank c then shellWords .blank [] cs
    else if isSpecial c || c = '#' || c = '~' then none
    else if c = '\'' then shellWords .single [] cs
    else if c = '"' then shellWords .double [] cs
    else if c = '\\' then shellWords (.escape false) [] cs
    else shellWords .word [c] cs
  | .word, cur, c :: cs =>
    if isBlank c then (shellWords .blank [] cs).map (String.mk cur :: ·)
    else if isSpecial c then none
    else if c = '\'' then shellWords .single cur cs
    else if c = '"' then shellWords .double cur cs
    else if c = '\\' then shellWords (.escape true) cur cs
    else shellWords .word (cur ++ [c]) cs
  | .single, cur, c :: cs =>
    if c = '\'' then shellWords .word cur cs else shellWords .single (cur ++ [c]) cs
  | .double, cur, c :: cs =>
    if c = '"' then shellWords .word cur cs
    else if c = '\\' then shellWords .doubleEscape cur cs
    else if c = '$' || c = '\x60' then none
    else shellWords .double (cur ++ [c]) cs
  | .escape inWord, cur, c :: cs =>
    if c = '\n' then shellWords (if inWord then .word else .blank) cur cs
    else shellWords .word (cur ++ [c]) cs
  | .doubleEscape, cur, c :: cs =>
    if c = '\n' then shellWords .double cur cs
    else if c = '$' || c = '\x60' || c = '"' || c = '\\' then shellWords .double (cur ++ [c]) cs
    else shellWords .double (cur ++ ['\\', c]) cs

/-- The argument vector of a command line, `none` outside the fragment above. -/
def splitWords (text : String) : Option (List String) :=
  shellWords .blank [] text.data

/-- A word that needs no quoting: not empty, and plain throughout. -/
def plainWord (w : String) : Bool := !w.data.isEmpty && w.data.all isPlain

/-! ## Reading one piece -/

/-- A plain character is none of the characters the reader acts on. -/
theorem isPlain_spec {c : Char} (h : isPlain c = true) :
    isBlank c = false ∧ isSpecial c = false ∧
      c ≠ '\'' ∧ c ≠ '"' ∧ c ≠ '\\' ∧ c ≠ '#' ∧ c ≠ '~' := by
  simp only [isPlain, Bool.and_eq_true, Bool.not_eq_true'] at h
  obtain ⟨⟨hb, hs⟩, hq⟩ := h
  refine ⟨hb, hs, ?_, ?_, ?_, ?_, ?_⟩ <;> rintro rfl <;> simp at hq

theorem shellWords_blank_plain {c : Char} (h : isPlain c = true) (cs : List Char) :
    shellWords .blank [] (c :: cs) = shellWords .word [c] cs := by
  obtain ⟨hb, hs, h1, h2, h3, h4, h5⟩ := isPlain_spec h
  rw [shellWords, if_neg (by simp [hb]), if_neg (by simp [hs, h4, h5]), if_neg h1, if_neg h2,
    if_neg h3]

theorem shellWords_word_plain_cons {c : Char} (h : isPlain c = true) (cur cs : List Char) :
    shellWords .word cur (c :: cs) = shellWords .word (cur ++ [c]) cs := by
  obtain ⟨hb, hs, h1, h2, h3, -⟩ := isPlain_spec h
  rw [shellWords, if_neg (by simp [hb]), if_neg (by simp [hs]), if_neg h1, if_neg h2, if_neg h3]

theorem shellWords_word_plain {cs : List Char} (h : ∀ c ∈ cs, isPlain c = true)
    (cur rest : List Char) :
    shellWords .word cur (cs ++ rest) = shellWords .word (cur ++ cs) rest := by
  induction cs generalizing cur with
  | nil => simp
  | cons c cs ih =>
    rw [List.cons_append, shellWords_word_plain_cons (h c (.head _)),
      ih (fun d hd => h d (.tail _ hd)), List.append_assoc, List.singleton_append]

theorem shellWords_single_quoteFree {cs : List Char} (h : '\'' ∉ cs) (cur rest : List Char) :
    shellWords .single cur (cs ++ rest) = shellWords .single (cur ++ cs) rest := by
  induction cs generalizing cur with
  | nil => simp
  | cons c cs ih =>
    rw [List.mem_cons, not_or] at h
    rw [List.cons_append, shellWords, if_neg (Ne.symm h.1), ih h.2, List.append_assoc,
      List.singleton_append]

/-- The text `t` reads as the words `ws`, alone or followed by a blank and more text. -/
def Reads (t : List Char) (ws : List String) : Prop :=
  shellWords .blank [] t = some ws ∧
    ∀ rest, shellWords .blank [] (t ++ ' ' :: rest) = (shellWords .blank [] rest).map (ws ++ ·)

/-- A word in progress reads as itself followed by what comes after the next blank. -/
theorem reads_of_word {cur : List Char} {t : List Char}
    (h : ∀ X, shellWords .blank [] (t ++ X) = shellWords .word cur X) : Reads t [String.mk cur] :=
  ⟨by rw [← List.append_nil t, h]; rfl, fun rest => by rw [h]; simp [shellWords, isBlank]⟩

theorem reads_nil : Reads [] [] :=
  ⟨rfl, fun rest => by simp [shellWords, isBlank]⟩

theorem reads_plainWord {w : String} (hw : plainWord w = true) : Reads w.data [w] := by
  simp only [plainWord, Bool.and_eq_true, Bool.not_eq_true', List.all_eq_true] at hw
  obtain ⟨hne, hp⟩ := hw
  obtain ⟨c, cs, hcs⟩ : ∃ c cs, w.data = c :: cs :=
    List.exists_cons_of_ne_nil fun h => by simp [h] at hne
  rw [hcs] at hp ⊢
  rw [show w = String.mk (c :: cs) from String.ext hcs]
  refine reads_of_word fun X => ?_
  rw [List.cons_append, shellWords_blank_plain (hp c (.head _)),
    shellWords_word_plain (fun d hd => hp d (.tail _ hd)), List.singleton_append]

/-- `'v'` reads as `v` when `v` has no single quote. -/
theorem reads_quoted {v : String} (hv : '\'' ∉ v.data) :
    Reads ('\'' :: v.data ++ ['\'']) [v] := by
  have hw : v = String.mk v.data := rfl
  rw [hw]
  refine reads_of_word fun X => ?_
  simp only [List.cons_append, List.append_assoc, List.singleton_append]
  rw [shellWords, if_neg (by decide), if_neg (by decide), if_pos rfl,
    shellWords_single_quoteFree hv, shellWords, if_pos rfl, List.nil_append, List.nil_append]

/-- Joining two texts with a blank joins their words. -/
theorem Reads.join {t u : List Char} {ws vs : List String} (ht : Reads t ws) (hu : Reads u vs) :
    Reads (t ++ ' ' :: u) (ws ++ vs) := by
  refine ⟨by rw [ht.2, hu.1]; rfl, fun rest => ?_⟩
  rw [List.append_assoc, List.cons_append, ht.2, hu.2, Option.map_map]
  congr 1
  funext l
  simp

/-! ## Reading a joined command line -/

/-- The text of `strings.Join(l, " ")`. -/
def joined (l : List String) : List Char := (String.intercalate " " l).data

theorem intercalate_go_data (acc : String) (l : List String) :
    (String.intercalate.go acc " " l).data = acc.data ++ l.flatMap fun b => ' ' :: b.data := by
  induction l generalizing acc with
  | nil => simp [String.intercalate.go]
  | cons b l ih =>
    simp only [String.intercalate.go, ih, String.data_append, List.flatMap_cons, List.append_assoc]
    rfl

theorem joined_cons (a : String) (l : List String) :
    joined (a :: l) = a.data ++ l.flatMap fun b => ' ' :: b.data :=
  intercalate_go_data a l

theorem joined_cons_append {a b : String} (l₁ l₂ : List String) :
    joined (a :: l₁ ++ b :: l₂) = joined (a :: l₁) ++ ' ' :: joined (b :: l₂) := by
  simp only [List.cons_append, joined_cons, List.flatMap_append, List.flatMap_cons,
    List.append_assoc]

/-- The words of a joined list of parts are the words of the parts, in order. -/
theorem Reads.joined_append {l₁ l₂ : List String} {ws₁ ws₂ : List String}
    (h₁ : Reads (joined l₁) ws₁) (h₂ : Reads (joined l₂) ws₂) :
    Reads (joined (l₁ ++ l₂)) (ws₁ ++ ws₂) := by
  cases l₁ with
  | nil =>
    have hws : ws₁ = [] := by simpa [joined, String.intercalate, shellWords] using h₁.1.symm
    simpa [hws] using h₂
  | cons a l₁ =>
    cases l₂ with
    | nil =>
      have hws : ws₂ = [] := by simpa [joined, String.intercalate, shellWords] using h₂.1.symm
      simpa [hws] using h₁
    | cons b l₂ => rw [joined_cons_append]; exact h₁.join h₂

theorem reads_joined_single {a : String} {ws : List String} (h : Reads a.data ws) :
    Reads (joined [a]) ws := by
  simpa [joined_cons] using h

/-- A command line built part by part reads as the words of the parts, in order. -/
theorem reads_joined_flatMap {α : Type} {l : List α} {f g : α → List String}
    (h : ∀ x ∈ l, Reads (joined (f x)) (g x)) : Reads (joined (l.flatMap f)) (l.flatMap g) := by
  induction l with
  | nil => exact reads_nil
  | cons x l ih =>
    rw [List.flatMap_cons, List.flatMap_cons]
    exact (h x (.head _)).joined_append (ih fun y hy => h y (.tail _ hy))

/-- The argument vector of a joined command line. -/
theorem splitWords_intercalate {l : List String} {ws : List String} (h : Reads (joined l) ws) :
    splitWords (String.intercalate " " l) = some ws :=
  h.1

end Shell
end MsaCore
