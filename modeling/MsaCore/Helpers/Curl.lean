import MsaCore.Shell.Words
import MsaCore.Json.Value

/-!
# Curl commands

`GenerateCurlCommand` and `GenerateCurlCommandFromRequest` log a request as a curl command
line: `curl -X <method> '<url>'`, then `-H '<key>: <value>'` per header, then
`-d '<body>'`, joined with blanks. Each value is put between single quotes as it is; the
method is not quoted at all.

Read by a POSIX shell (`Shell.splitWords`), the line gives the argument vector one expects
exactly when no quoted value holds a single quote and the method is a plain word. Otherwise
it does not: a quote in a value ends the quoting early, so that the rest of the value is read
as shell text (a URL `u' -o 'f` adds the arguments `-o` and `f`), and an empty method leaves
no word at all.

A Go map is modelled as the list of its entries in the order its `range` visits them, so
every statement holds for every iteration order. The request body is modelled by what
reading it to the end gives; the helper puts the bytes it read back into the request, which
the model, reading a value, does not need to do.
-/

namespace MsaCore
namespace Helpers

open Shell

/-- `fmt.Sprintf("'%s'", s)`. -/
def singleQuoted (s : String) : String := "'" ++ s ++ "'"

/-- `json.Marshal` on a JSON value, as text. It does not fail there. -/
def jsonText (v : Json.Value) : Except String String := .ok (String.mk (Json.encode v))

/-- `GenerateCurlCommand`, with `marshal` for `json.Marshal` and `headers` the header map
in `range` order. -/
def generateCurlCommand {β : Type} (marshal : β → Except String String) (method url : String)
    (headers : List (String × String)) (body : Option β) : Except String String :=
  let cmd := headers.foldl (fun cmd kv => cmd ++ ["-H", singleQuoted (kv.1 ++ ": " ++ kv.2)])
    ["curl", "-X", method, singleQuoted url]
  match body with
  | none => .ok (String.intercalate " " cmd)
  | some b =>
    match marshal b with
    | .error e => .error ("failed to marshal body: " ++ e)
    | .ok bodyBytes =>
      if method = "GET" then .ok (String.intercalate " " cmd)
      else .ok (String.intercalate " " (cmd ++ ["-d", singleQuoted bodyBytes]))

/-- The parts of an `http.Request` the helper reads: the method, `URL.String()`, the header
map in `range` order, and the body: nil, or what reading it to the end gives. -/
structure Request where
  method : String
  url : String
  header : List (String × List String)
  body : Option (Except String String)

/-- `GenerateCurlCommandFromRequest`. -/
def generateCurlCommandFromRequest (req : Request) : Except String String :=
  let cmd := req.header.foldl
    (fun cmd kv =>
      kv.2.foldl (fun cmd value => cmd ++ ["-H", singleQuoted (kv.1 ++ ": " ++ value)]) cmd)
    ["curl", "-X", req.method, singleQuoted req.url]
  match req.body with
  | none => .ok (String.intercalate " " cmd)
  | some (.error e) => .error ("failed to read request body: " ++ e)
  | some (.ok bodyBytes) =>
    if bodyBytes.length > 0 then
      .ok (String.intercalate " " (cmd ++ ["-d", singleQuoted bodyBytes]))
    else .ok (String.intercalate " " cmd)

/-! ## The argument vectors a reader expects -/

/-- The vector `curl -X method url`, `-H "key: value"` per header, and `-d data` when there
is data. -/
def curlArgv (method url : String) (headers : List (String × String)) (data : Option String) :
    List String :=
  ["curl", "-X", method, url] ++ headers.flatMap (fun kv => ["-H", kv.1 ++ ": " ++ kv.2]) ++
    (data.map fun d => ["-d", d]).getD []

/-- The data `GenerateCurlCommand` is meant to send: the JSON text of a body, except for
`GET`. -/
def curlData (method : String) (body : Option Json.Value) : Option String :=
  if method = "GET" then none else body.map fun v => String.mk (Json.encode v)

/-- The data of a request: its body when it reads and is not empty. -/
def requestData (req : Request) : Option String :=
  match req.body with
  | some (.ok t) => if t = "" then none else some t
  | _ => none

/-- The vector for a request: its method and URL, `-H "key: value"` per header value, and
`-d` with the body when it is not empty. -/
def requestArgv (req : Request) : List String :=
  ["curl", "-X", req.method, req.url] ++
    req.header.flatMap (fun kv => kv.2.flatMap fun v => ["-H", kv.1 ++ ": " ++ v]) ++
    ((requestData req).map fun d => ["-d", d]).getD []

theorem body_of_requestData {req : Request} {t : String} (h : t ∈ requestData req) :
    req.body = some (.ok t) := by
  unfold requestData at h
  split at h
  · next t' hb =>
    split_ifs at h
    · cases h
    · simp only [Option.mem_def, Option.some.injEq] at h
      exact h ▸ hb
  · cases h

/-! ## The command lines as joined parts -/

theorem foldl_append_eq {α : Type} (f : α → List String) (l : List α) (init : List String) :
    l.foldl (fun cmd x => cmd ++ f x) init = init ++ l.flatMap f := by
  induction l generalizing init with
  | nil => simp
  | cons x l ih => rw [List.foldl_cons, ih, List.flatMap_cons, List.append_assoc]

theorem singleQuoted_data (s : String) : (singleQuoted s).data = '\'' :: s.data ++ ['\''] := by
  simp [singleQuoted]

theorem reads_singleQuoted {s : String} (h : '\'' ∉ s.data) :
    Reads (singleQuoted s).data [s] := by
  rw [singleQuoted_data]
  exact reads_quoted h

theorem reads_header {key value : String} (hk : '\'' ∉ key.data) (hv : '\'' ∉ value.data) :
    Reads (joined ["-H", singleQuoted (key ++ ": " ++ value)]) ["-H", key ++ ": " ++ value] :=
  (reads_joined_single (reads_plainWord (w := "-H") (by decide))).joined_append
    (reads_joined_single (reads_singleQuoted (by simp [hk, hv])))

/-- The head of either command: `curl -X method 'url'`. -/
theorem reads_head {method url : String} {ws us : List String} (hm : Reads method.data ws)
    (hu : Reads (singleQuoted url).data us) :
    Reads (joined ["curl", "-X", method, singleQuoted url]) (["curl", "-X"] ++ ws ++ us) := by
  have hc := reads_joined_single (reads_plainWord (w := "curl") (by decide))
  have hx := reads_joined_single (reads_plainWord (w := "-X") (by decide))
  exact ((hc.joined_append hx).joined_append (reads_joined_single hm)).joined_append
    (reads_joined_single hu)

theorem reads_data {d : Option String} (h : ∀ t ∈ d, '\'' ∉ t.data) :
    Reads (joined ((d.map fun t => ["-d", singleQuoted t]).getD []))
      ((d.map fun t => ["-d", t]).getD []) := by
  cases d with
  | none => exact reads_nil
  | some t =>
    exact (reads_joined_single (reads_plainWord (w := "-d") (by decide))).joined_append
      (reads_joined_single (reads_singleQuoted (h t rfl)))

/-- `GenerateCurlCommand` on a JSON body joins the head, the header arguments and the data
argument. -/
theorem generateCurlCommand_eq (method url : String) (headers : List (String × String))
    (body : Option Json.Value) :
    generateCurlCommand jsonText method url headers body =
      .ok (String.intercalate " " (["curl", "-X", method, singleQuoted url] ++
        headers.flatMap (fun kv => ["-H", singleQuoted (kv.1 ++ ": " ++ kv.2)]) ++
        ((curlData method body).map fun d => ["-d", singleQuoted d]).getD [])) := by
  simp only [generateCurlCommand, foldl_append_eq]
  cases body with
  | none => simp [curlData]
  | some v => by_cases hg : method = "GET" <;> simp [jsonText, curlData, hg]

/-- `GenerateCurlCommandFromRequest` on a body that reads joins the head, the header
arguments and the data argument. -/
theorem generateCurlCommandFromRequest_eq {req : Request}
    (h : ∀ e, req.body ≠ some (.error e)) :
    generateCurlCommandFromRequest req =
      .ok (String.intercalate " " (["curl", "-X", req.method, singleQuoted req.url] ++
        req.header.flatMap
          (fun kv => kv.2.flatMap fun v => ["-H", singleQuoted (kv.1 ++ ": " ++ v)]) ++
        ((requestData req).map fun d => ["-d", singleQuoted d]).getD [])) := by
  simp only [generateCurlCommandFromRequest, foldl_append_eq]
  match hb : req.body with
  | none => simp [requestData, hb]
  | some (.error e) => exact absurd hb (h e)
  | some (.ok t) =>
    by_cases ht : t = ""
    · simp [requestData, hb, ht]
    · have hl : t.length > 0 := List.length_pos.mpr fun h => ht (String.ext h)
      simp [requestData, hb, ht, hl]

section Split

variable {headers : List (String × String)} {body : Option Json.Value}

/-- The words of a `GenerateCurlCommand` line whose method reads as `ws` and whose quoted URL
reads as `us`, when no header and no data holds a single quote. -/
theorem splitWords_generateCurlCommand {method url : String} {ws us : List String}
    (hm : Reads method.data ws) (hu : Reads (singleQuoted url).data us)
    (hh : ∀ kv ∈ headers, '\'' ∉ kv.1.data ∧ '\'' ∉ kv.2.data)
    (hd : ∀ d ∈ curlData method body, '\'' ∉ d.data) :
    (generateCurlCommand jsonText method url headers body).map splitWords =
      .ok (some (["curl", "-X"] ++ ws ++ us ++
        headers.flatMap (fun kv => ["-H", kv.1 ++ ": " ++ kv.2]) ++
        ((curlData method body).map fun d => ["-d", d]).getD [])) := by
  rw [generateCurlCommand_eq]
  exact congrArg Except.ok (splitWords_intercalate (((reads_head hm hu).joined_append
    (reads_joined_flatMap fun kv hkv => reads_header (hh kv hkv).1 (hh kv hkv).2)).joined_append
    (reads_data hd)))

end Split

/-- Read by a POSIX shell, the line of `GenerateCurlCommand` is the expected argument vector
when the method is a plain word and no URL, header or JSON body text holds a single quote;
likewise for `GenerateCurlCommandFromRequest`. A URL `a' w 'b` instead gives the three
arguments `a`, `w` and `b`, and an empty method gives no argument. -/
theorem curl_command_words :
    (∀ (method url : String) (headers : List (String × String)) (body : Option Json.Value),
      plainWord method = true → '\'' ∉ url.data →
      (∀ kv ∈ headers, '\'' ∉ kv.1.data ∧ '\'' ∉ kv.2.data) →
      (∀ d ∈ curlData method body, '\'' ∉ d.data) →
      (generateCurlCommand jsonText method url headers body).map splitWords =
        .ok (some (curlArgv method url headers (curlData method body)))) ∧
    (∀ req : Request, plainWord req.method = true → '\'' ∉ req.url.data →
      (∀ kv ∈ req.header, '\'' ∉ kv.1.data ∧ ∀ v ∈ kv.2, '\'' ∉ v.data) →
      (∀ t, req.body = some (.ok t) → '\'' ∉ t.data) →
      (∀ e, req.body ≠ some (.error e)) →
      (generateCurlCommandFromRequest req).map splitWords = .ok (some (requestArgv req))) ∧
    (∀ (method a w b : String) (headers : List (String × String)) (body : Option Json.Value),
      plainWord method = true → '\'' ∉ a.data → plainWord w = true → '\'' ∉ b.data →
      (∀ kv ∈ headers, '\'' ∉ kv.1.data ∧ '\'' ∉ kv.2.data) →
      (∀ d ∈ curlData method body, '\'' ∉ d.data) →
      (generateCurlCommand jsonText method (a ++ "' " ++ w ++ " '" ++ b) headers body).map
          splitWords =
        .ok (some (["curl", "-X", method, a, w, b] ++
          headers.flatMap (fun kv => ["-H", kv.1 ++ ": " ++ kv.2]) ++
          ((curlData method body).map fun d => ["-d", d]).getD []))) ∧
    (∀ (url : String) (headers : List (String × String)) (body : Option Json.Value),
      '\'' ∉ url.data → (∀ kv ∈ headers, '\'' ∉ kv.1.data ∧ '\'' ∉ kv.2.data) →
      (∀ d ∈ curlData "" body, '\'' ∉ d.data) →
      (generateCurlCommand jsonText "" url headers body).map splitWords =
        .ok (some (["curl", "-X", url] ++
          headers.flatMap (fun kv => ["-H", kv.1 ++ ": " ++ kv.2]) ++
          ((curlData "" body).map fun d => ["-d", d]).getD []))) := by
  refine ⟨fun method url headers body hm hu hh hd => ?_, fun req hm hu hh hb he => ?_,
    fun method a w b headers body hm ha hw hb hh hd => ?_, fun url headers body hu hh hd => ?_⟩
  · exact splitWords_generateCurlCommand (reads_plainWord hm) (reads_singleQuoted hu) hh hd
  · rw [generateCurlCommandFromRequest_eq he]
    exact congrArg Except.ok (splitWords_intercalate
      (((reads_head (reads_plainWord hm) (reads_singleQuoted hu)).joined_append
        (reads_joined_flatMap fun kv hkv => reads_joined_flatMap fun v hv =>
          reads_header (hh kv hkv).1 ((hh kv hkv).2 v hv))).joined_append
        (reads_data fun t ht => hb t (body_of_requestData ht))))
  · have hu : Reads (singleQuoted (a ++ "' " ++ w ++ " '" ++ b)).data [a, w, b] := by
      have h := (reads_singleQuoted ha).join ((reads_plainWord hw).join (reads_singleQuoted hb))
      simpa [singleQuoted_data] using h
    exact splitWords_generateCurlCommand (reads_plainWord hm) hu hh hd
  · exact splitWords_generateCurlCommand reads_nil (reads_singleQuoted hu) hh hd

/-- A URL that closes its own quotes makes curl write the response to `/tmp/out`; an empty
method leaves `-X` to take the URL; a JSON body with an apostrophe leaves a quote open. -/
theorem curl_command_words_orders :
    generateCurlCommand jsonText "GET" "https://api.example.com/orders' -o '/tmp/out" [] none =
      .ok "curl -X GET 'https://api.example.com/orders' -o '/tmp/out'" ∧
    (generateCurlCommand jsonText "GET"
        ("https://api.example.com/orders" ++ "' " ++ "-o" ++ " '" ++ "/tmp/out") [] none).map
        splitWords =
      .ok (some ["curl", "-X", "GET", "https://api.example.com/orders", "-o", "/tmp/out"]) ∧
    (generateCurlCommand jsonText "" "https://api.example.com/orders" [] none).map splitWords =
      .ok (some ["curl", "-X", "https://api.example.com/orders"]) ∧
    (generateCurlCommand jsonText "POST" "https://api.example.com/orders" []
        (some (.obj [("note", .str "it's")]))).map splitWords = .ok none :=
  ⟨rfl,
    (curl_command_words.2.2.1 "GET" "https://api.example.com/orders" "-o" "/tmp/out" [] none
      (by decide) (by decide) (by decide) (by decide) (by simp) (by simp [curlData])).trans rfl,
    (curl_command_words.2.2.2 "https://api.example.com/orders" [] none (by decide) (by simp)
      (by simp [curlData])).trans rfl,
    rfl⟩

end Helpers
end MsaCore
