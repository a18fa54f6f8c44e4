import MsaCore.Json.RoundTrip
import Mathlib.Data.List.DropRight

/-!
# Messages by locale

`I18nManager` holds the messages of one locale, read from `<locale>.json`, and looks a message
up by a dotted key path such as `response.success.default`. `GetLocaleFromHeader` picks the
locale of a request from its `Accept-Language` header.

* The messages are the `map[string]any` that `json.Unmarshal` builds from the file: the fields
  of a JSON object, each nested object a map again. The map is built by assigning the fields
  in order, so a repeated key holds its last value (`lookup`). A file holding `null` gives the
  nil map, which has no keys.
* `loadMessages` tries the directories in order, skipping an empty one, and keeps the messages
  of the first whose file exists, reads and parses. The file system is a parameter (`Env`):
  the directories (`I18N_DIR`, the source tree, `/src/i18n`, `src/i18n`) depend on the process
  environment, and the files are data. The error text of a failed load is left out: every
  caller discards it or only tests it against nil.
* `SetLocale` sets the locale before it loads, and keeps the old messages when the load fails.
* `GetGlobalI18n` never returns nil: it falls back to an empty `"en"` manager. The nil tests of
  `T` and `TWithContext` therefore never succeed, and the model leaves those branches out.

`GetLocaleFromHeader` reads the comma-separated entries of the header in order and returns the
locale of the first whose language code (before `;`, cut at a `-` that is not its first
character, lower-cased) is `en`, `vn` or `vi`. `strings.ToLower` is modelled on the characters
whose lower case is ASCII (`A`-`Z`, U+0130 and U+212A); every other character is kept, which
changes no comparison with the three codes, since its lower case is not ASCII either.
-/

namespace MsaCore
namespace Common

open Json

/-! ## Messages -/

/-- A `map[string]any` decoded from JSON: the fields of an object, in the order of the text. -/
abbrev Fields := List (String × Value)

/-- `m[key]` in the map `json.Unmarshal` builds by assigning the fields in order. -/
def lookup (fs : Fields) (key : String) : Option Value :=
  fs.foldl (fun found f => if f.1 = key then some f.2 else found) none

/-- `strings.Split(keyPath, ".")`. -/
def splitKeys (keyPath : String) : List String := (keyPath.data.splitOn '.').map String.mk

/-- The loop of `GetMessage`: a string under the last key, reached through maps under the
others. -/
def lookupPath (current : Fields) : List String → Option String
  | [] => none
  | [key] =>
    match lookup current key with
    | some (.str s) => some s
    | _ => none
  | key :: k :: rest =>
    match lookup current key with
    | some (.obj next) => lookupPath next (k :: rest)
    | _ => none

/-- `I18nManager`: the messages and the locale they are said to be in. -/
structure I18nManager where
  messages : Fields
  locale : String

namespace I18nManager

/-- `GetMessage`: the message at the key path, or the key path itself. -/
def getMessage (i : I18nManager) (keyPath : String) : String :=
  (lookupPath i.messages (splitKeys keyPath)).getD keyPath

/-- `GetMessageWithFallback`: the fallback when `GetMessage` answers with the key path. -/
def getMessageWithFallback (i : I18nManager) (keyPath fallback : String) : String :=
  let message := i.getMessage keyPath
  if message = keyPath then fallback else message

end I18nManager

/-! ## Loading -/

/-- What a path holds: no file, a file that cannot be read, or a text. -/
inductive FileState where
  | missing
  | unreadable
  | text (t : List Char)

/-- Where `loadMessages` looks: the directories it tries, in order, and the file of a given
name in each. -/
structure Env where
  dirs : List String
  file : String → String → FileState

/-- `json.Unmarshal` into a `map[string]any`: an object's fields, or the nil map for `null`. -/
def unmarshalMap (t : List Char) : Option Fields :=
  match decode t with
  | some (.obj fs) => some fs
  | some .null => some []
  | _ => none

/-- The loop of `loadMessages` over the directories left to try. -/
def loadFrom (file : String → String → FileState) (name : String) : List String → Option Fields
  | [] => none
  | dir :: dirs =>
    if dir = "" then loadFrom file name dirs
    else
      match file dir name with
      | .text t =>
        match unmarshalMap t with
        | some messages => some messages
        | none => loadFrom file name dirs
      | _ => loadFrom file name dirs

/-- `loadMessages(locale)`: the messages of `<locale>.json` in the first directory where it
reads and parses. -/
def loadMessages (env : Env) (locale : String) : Option Fields :=
  loadFrom env.file (locale ++ ".json") env.dirs

/-- `NewI18nManager(locale)`. -/
def newI18nManager (env : Env) (locale : String) : Option I18nManager :=
  (loadMessages env locale).map fun messages => ⟨messages, locale⟩

/-- `SetLocale(locale)`: the manager after it, and whether the messages loaded. -/
def I18nManager.setLocale (env : Env) (i : I18nManager) (locale : String) : I18nManager × Bool :=
  let i := { i with locale := locale }
  match loadMessages env locale with
  | some messages => ({ i with messages := messages }, true)
  | none => (i, false)

/-- `GetGlobalI18n()` with the global manager `g`: the manager, after initialising it with
`"en"`, or with an empty `"en"` manager when that fails. -/
def getGlobalI18n (env : Env) : Option I18nManager → I18nManager
  | some g => g
  | none => (newI18nManager env "en").getD ⟨[], "en"⟩

/-- `T(keyPath)`. -/
def t (env : Env) (g : Option I18nManager) (keyPath : String) : String :=
  (getGlobalI18n env g).getMessage keyPath

/-- `TWithFallback(keyPath, fallback)`. -/
def tWithFallback (env : Env) (g : Option I18nManager) (keyPath fallback : String) : String :=
  (getGlobalI18n env g).getMessageWithFallback keyPath fallback

/-- `GetLocaleFromContext`: the locale the context carries, `"vn"` when it carries none. -/
def getLocaleFromContext (locale : Option String) : String := locale.getD "vn"

/-- `TWithContext(ctx, keyPath)`: the message in the context's locale from a manager of its
own, unless the global manager is said to be in that locale or the locale does not load. -/
def tWithContext (env : Env) (g : Option I18nManager) (ctxLocale : Option String)
    (keyPath : String) : String :=
  let locale := getLocaleFromContext ctxLocale
  let global := getGlobalI18n env g
  if locale ≠ global.locale then
    match newI18nManager env locale with
    | some manager => manager.getMessage keyPath
    | none => t env (some global) keyPath
  else t env (some global) keyPath

/-- `TWithContextAndFallback(ctx, keyPath, fallback)`: `TWithContext` with a fallback for a
missing key. -/
def tWithContextAndFallback (env : Env) (g : Option I18nManager) (ctxLocale : Option String)
    (keyPath fallback : String) : String :=
  let locale := getLocaleFromContext ctxLocale
  let global := getGlobalI18n env g
  if locale ≠ global.locale then
    match newI18nManager env locale with
    | some manager => manager.getMessageWithFallback keyPath fallback
    | none => tWithFallback env (some global) keyPath fallback
  else tWithFallback env (some global) keyPath fallback

/-- `TWithContext` on an initialised manager. -/
theorem tWithContext_some (env : Env) (m : I18nManager) (locale key : String) :
    tWithContext env (some m) (some locale) key =
      if locale ≠ m.locale then
        match newI18nManager env locale with
        | some manager => manager.getMessage key
        | none => m.getMessage key
      else m.getMessage key := rfl

/-! ## The locale of a request -/

/-- `unicode.IsSpace`. -/
def isSpace (c : Char) : Bool :=
  c = ' ' || ('\t' ≤ c && c ≤ '\r') || c = '\x85' || c = '\xa0' || c = '\u1680' ||
    ('\u2000' ≤ c && c ≤ '\u200a') || c = '\u2028' || c = '\u2029' || c = '\u202f' ||
    c = '\u205f' || c = '\u3000'

/-- `strings.TrimSpace`. -/
def trimSpace (s : List Char) : List Char := (s.dropWhile isSpace).rdropWhile isSpace

/-- `unicode.ToLower` on the characters whose lower case is ASCII; others are kept. -/
def toLower (c : Char) : Char :=
  if 'A' ≤ c ∧ c ≤ 'Z' then Char.ofNat (c.toNat + 32)
  else if c = '\u0130' then 'i'
  else if c = '\u212a' then 'k'
  else c

/-- The `supportedLocales` map. -/
def supportedLocales : List (String × String) := [("en", "en"), ("vn", "vn"), ("vi", "vn")]

/-- The language code of one entry of the header: before any `;`, trimmed, cut at a `-` that
is not its first character (`strings.Index` and the slice, on the characters), lower-cased. -/
def langCode (lang : List Char) : List Char :=
  let parts := (trimSpace lang).splitOn ';'
  let code := trimSpace (parts.headD [])
  let idx := code.indexOf '-'
  let code := if 0 < idx ∧ idx < code.length then code.take idx else code
  code.map toLower

/-- `GetLocaleFromHeader` on the value of `Accept-Language`. -/
def getLocaleFromHeader (acceptLang : String) : String :=
  if acceptLang = "" then "vn"
  else ((acceptLang.data.splitOn ',').findSome? fun lang =>
    supportedLocales.lookup (String.mk (langCode lang))).getD "vn"

/-! ## Quality values -/

theorem isSpace_semicolon : isSpace ';' = false := by decide

/-- Trimming twice trims once. -/
theorem trimSpace_trimSpace (s : List Char) : trimSpace (trimSpace s) = trimSpace s := by
  unfold trimSpace
  rw [List.dropWhile_eq_self_iff.mpr fun hl => ?_, List.rdropWhile_idempotent]
  have hp := List.rdropWhile_prefix isSpace (s.dropWhile isSpace)
  have h0 := List.dropWhile_get_zero_not isSpace s (by
    have := hp.length_le; simp at hl ⊢; omega)
  simpa [hp.getElem hl] using h0

theorem dropWhile_append_cons {p : Char → Bool} {c : Char} (hc : p c = false) (l r : List Char) :
    (l ++ c :: r).dropWhile p = l.dropWhile p ++ c :: r := by
  rw [List.dropWhile_append]
  split
  · next h => simp [List.isEmpty_iff.mp h, hc]
  · rfl

theorem rdropWhile_append_cons {p : Char → Bool} {c : Char} (hc : p c = false) (l r : List Char) :
    (l ++ c :: r).rdropWhile p = l ++ c :: r.rdropWhile p := by
  simp only [List.rdropWhile, List.reverse_append, List.reverse_cons, List.append_assoc,
    List.singleton_append, dropWhile_append_cons hc, List.reverse_reverse]

/-- The first part of `strings.Split(l, ";")`: `l` up to its first `;`. -/
theorem splitOn_headD_append {a : List Char} (h : ';' ∉ a) (q : List Char) :
    ((a ++ ';' :: q).splitOn ';').headD [] = a := by
  rw [List.splitOn, List.splitOnP_first _ _ (fun x hx => by simpa using ne_of_mem_of_not_mem hx h) _ (by simp)]
  rfl

theorem splitOn_headD_of_not_mem {a : List Char} (h : ';' ∉ a) : (a.splitOn ';').headD [] = a := by
  rw [List.splitOn, List.splitOnP_eq_single _ _ (fun x hx => by simpa using ne_of_mem_of_not_mem hx h)]
  rfl

theorem trimSpace_dropWhile (s : List Char) : trimSpace (s.dropWhile isSpace) = trimSpace s := by
  simp only [trimSpace, List.dropWhile_idempotent]

/-- The trimmed entry `tag;params` is the tag, left-trimmed, then `;` and the right-trimmed
parameters. -/
theorem trimSpace_semicolon (tag params : List Char) :
    trimSpace (tag ++ ';' :: params) =
      tag.dropWhile isSpace ++ ';' :: params.rdropWhile isSpace := by
  rw [trimSpace, dropWhile_append_cons isSpace_semicolon, rdropWhile_append_cons isSpace_semicolon]

theorem not_mem_trimSpace {c : Char} {s : List Char} (h : c ∉ s) : c ∉ trimSpace s := fun hc =>
  h ((List.rdropWhile_prefix isSpace _).subset hc |> (List.dropWhile_suffix isSpace).subset)

/-- The language code of an entry does not depend on its parameters. -/
theorem langCode_params {tag : List Char} (h : ';' ∉ tag) (params : List Char) :
    langCode (tag ++ ';' :: params) = langCode tag := by
  have hd : ';' ∉ tag.dropWhile isSpace := fun hc => h ((List.dropWhile_suffix isSpace).subset hc)
  have h1 : ((trimSpace (tag ++ ';' :: params)).splitOn ';').headD [] = tag.dropWhile isSpace := by
    rw [trimSpace_semicolon, splitOn_headD_append hd]
  have h2 : ((trimSpace tag).splitOn ';').headD [] = trimSpace tag :=
    splitOn_headD_of_not_mem (not_mem_trimSpace h)
  simp only [langCode, h1, h2, trimSpace_dropWhile, trimSpace_trimSpace]

theorem findSome?_congr {α β : Type} {l : List α} {f g : α → Option β} (h : ∀ x ∈ l, f x = g x) :
    l.findSome? f = l.findSome? g := by
  induction l with
  | nil => rfl
  | cons x l ih =>
    simp only [List.findSome?_cons, h x (.head _), ih fun y hy => h y (.tail _ hy)]


/-- `GetLocaleFromHeader` never reads a quality value: for a header of entries `tag;params`,
the locale is that of the first entry whose tag is supported, as if the header listed the tags
alone, whatever weights the parameters give them. -/
theorem getLocaleFromHeader_ignores_quality (entries : List (List Char × List Char)) (hne : entries ≠ [])
    (h : ∀ e ∈ entries, ',' ∉ e.1 ∧ ';' ∉ e.1 ∧ ',' ∉ e.2) :
    getLocaleFromHeader (String.mk ([','].intercalate (entries.map fun e => e.1 ++ ';' :: e.2))) =
      (entries.findSome? fun e => supportedLocales.lookup (String.mk (langCode e.1))).getD "vn" := by
  have hsplit : ([','].intercalate (entries.map fun e => e.1 ++ ';' :: e.2)).splitOn ',' =
      entries.map fun e => e.1 ++ ';' :: e.2 := by
    apply List.splitOn_intercalate
    · simp only [List.mem_map]
      rintro _ ⟨e, he, rfl⟩
      simp [(h e he).1, (h e he).2.2]
    · simpa using hne
  have hempty : String.mk ([','].intercalate (entries.map fun e => e.1 ++ ';' :: e.2)) ≠ "" :=
    fun he => by
      have := hsplit
      rw [show [','].intercalate _ = [] from congrArg String.data he, List.splitOn_nil] at this
      obtain ⟨e, es, rfl⟩ := List.exists_cons_of_ne_nil hne
      simp at this
  rw [getLocaleFromHeader, if_neg hempty]
  show ((List.splitOn ',' _).findSome? _).getD "vn" = _
  rw [hsplit, List.findSome?_map]
  refine congrArg (·.getD "vn") (findSome?_congr fun e he => ?_)
  rw [Function.comp_apply, langCode_params (h e he).2.1]

theorem getLocaleFromHeader_ignores_quality_en_q0 :
    ([("en".data, "q=0".data), ("vi".data, "q=1".data)] ≠ [] ∧
      ∀ e ∈ [("en".data, "q=0".data), ("vi".data, "q=1".data)],
        ',' ∉ e.1 ∧ ';' ∉ e.1 ∧ ',' ∉ e.2) ∧
    getLocaleFromHeader (String.mk ([','].intercalate
        ([("en".data, "q=0".data), ("vi".data, "q=1".data)].map fun e => e.1 ++ ';' :: e.2))) =
      ([("en".data, "q=0".data), ("vi".data, "q=1".data)].findSome? fun e =>
        supportedLocales.lookup (String.mk (langCode e.1))).getD "vn" ∧
    getLocaleFromHeader "en;q=0,vi;q=1" = "en" :=
  have h : _ ∧ _ := ⟨by decide, by decide⟩
  ⟨h, getLocaleFromHeader_ignores_quality _ h.1 h.2, by decide⟩

end Common
end MsaCore
