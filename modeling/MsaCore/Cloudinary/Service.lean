import Mathlib.Data.List.Infix
import MsaCore.Helpers.Uuid

/-!
# The Cloudinary service

`cloudinaryService` names an image by its public ID in three places. `UploadFile` sends the
file's name without its extension as the public ID. `GetImageURL` makes the URL
`https://res.cloudinary.com/<cloudName>/image/upload/<publicID>`. `DeleteFile` destroys the
public ID it is given; for a text that contains `cloudinary.com` it destroys the last
`/`-separated part of that text, without its extension.

The calls to the Cloudinary service are parameters: `upload` answers with the secure URL of the
uploaded file or an error, and `destroy` with its error, if any. Left out: the spans and their
attributes, the logger, the fields of the service's results that only go to them, and
`transformations`, which `GetImageURL` only records on its span. `filepath.Ext` and
`strings.TrimSuffix` are modelled on characters: the characters they cut at (`.` and `/`) are
ASCII, so on the UTF-8 bytes of a Go string they cut at the same places.

* `DeleteFile` on the URL that `GetImageURL` makes for a public ID destroys that same ID exactly
  when the ID has no `/` and no `.` (`destroyPublicID_getImageURL`).
* The public ID `UploadFile` sends for a file name without `/` comes back this way exactly when
  the name has at most one `.`: for `archive.tar.gz` it sends `archive.tar` and `DeleteFile`
  destroys `archive` (`upload_publicID_round_trip`).
-/

namespace MsaCore
namespace Cloudinary

/-! ## File names -/

/-- The loop of `filepath.Ext`, walking back from the end of the path: the characters still to
look at, last first, and those walked past. -/
def extFrom : List Char → List Char → List Char
  | [], _ => []
  | c :: rev, seen => if c = '/' then [] else if c = '.' then c :: seen else extFrom rev (c :: seen)

/-- `filepath.Ext(path)`: the suffix from the last `.` of the path's last element, or empty. -/
def ext (path : List Char) : List Char := extFrom path.reverse []

/-- `strings.TrimSuffix(s, suffix)`. -/
def trimSuffix (s suffix : List Char) : List Char :=
  if suffix <:+ s then s.take (s.length - suffix.length) else s

theorem extFrom_suffix (rev seen : List Char) : extFrom rev seen <:+ rev.reverse ++ seen := by
  induction rev generalizing seen with
  | nil => exact List.nil_suffix
  | cons c rev ih =>
    rw [extFrom, List.reverse_cons, List.append_assoc]
    split_ifs
    · exact List.nil_suffix
    · exact List.suffix_append _ _
    · exact ih (c :: seen)

theorem extFrom_of_not_mem {rev : List Char} (hd : '.' ∉ rev) (seen : List Char) :
    extFrom rev seen = [] := by
  induction rev generalizing seen with
  | nil => rfl
  | cons c rev ih =>
    rw [List.mem_cons, not_or] at hd
    simp only [extFrom, Ne.symm hd.1, if_false, ih hd.2, ite_self]

/-- In a path without `/`, the walk stops at the last `.`. -/
theorem extFrom_of_mem {rev : List Char} (hs : '/' ∉ rev) (hd : '.' ∈ rev) (seen : List Char) :
    ∃ r : List Char, '.' ∉ r ∧ extFrom rev seen = '.' :: (r.reverse ++ seen) := by
  induction rev generalizing seen with
  | nil => cases hd
  | cons c rev ih =>
    rw [List.mem_cons, not_or] at hs
    by_cases hc : c = '.'
    · exact ⟨[], List.not_mem_nil _, by simp [extFrom, hc]⟩
    · obtain ⟨r, hr, he⟩ := ih hs.2 ((List.mem_cons.mp hd).resolve_left (Ne.symm hc)) (c :: seen)
      exact ⟨c :: r, by simp [Ne.symm hc, hr], by simp [extFrom, Ne.symm hs.1, hc, he]⟩

theorem trimSuffix_append {s suffix : List Char} (h : suffix <:+ s) :
    trimSuffix s suffix ++ suffix = s := by
  obtain ⟨t, rfl⟩ := h
  simp [trimSuffix]

/-- `TrimSuffix` of `Ext` splits a path into its stem and its extension. -/
theorem trimSuffix_ext_append (path : List Char) : trimSuffix path (ext path) ++ ext path = path :=
  trimSuffix_append (by simpa using extFrom_suffix path.reverse [])

theorem trimSuffix_ext_of_not_mem {path : List Char} (hd : '.' ∉ path) :
    trimSuffix path (ext path) = path := by
  rw [ext, extFrom_of_not_mem (by simpa using hd)]
  simp [trimSuffix]

/-- A name without `/` that holds a `.` is its stem, then `.`, then an extension without `.`. -/
theorem trimSuffix_ext_of_mem {path : List Char} (hs : '/' ∉ path) (hd : '.' ∈ path) :
    ∃ e, '.' ∉ e ∧ path = trimSuffix path (ext path) ++ '.' :: e := by
  obtain ⟨r, hr, he⟩ := extFrom_of_mem (by simpa using hs) (List.mem_reverse.mpr hd) []
  have h := trimSuffix_ext_append path
  rw [ext, he, List.append_nil] at h
  exact ⟨r.reverse, by simpa using hr, by rw [ext, he, List.append_nil, h]⟩

/-- The stem of a name without `/` has no `.` exactly when the name has at most one. -/
theorem not_mem_trimSuffix_ext_iff {path : List Char} (hs : '/' ∉ path) :
    '.' ∉ trimSuffix path (ext path) ↔ path.count '.' ≤ 1 := by
  by_cases hd : '.' ∈ path
  · obtain ⟨e, he, hp⟩ := trimSuffix_ext_of_mem hs hd
    generalize trimSuffix path (ext path) = stem at hp ⊢
    subst hp
    rw [List.count_append, List.count_cons_self, List.count_eq_zero_of_not_mem he,
      ← List.count_eq_zero]
    omega
  · rw [trimSuffix_ext_of_not_mem hd, List.count_eq_zero_of_not_mem hd]
    simpa using hd

theorem trimSuffix_ext_eq_self_iff {path : List Char} (hs : '/' ∉ path) :
    trimSuffix path (ext path) = path ↔ '.' ∉ path := by
  refine ⟨fun h hd => ?_, trimSuffix_ext_of_not_mem⟩
  obtain ⟨e, -, hp⟩ := trimSuffix_ext_of_mem hs hd
  rw [h] at hp
  simp at hp

theorem not_mem_trimSuffix {x : Char} {s : List Char} (hx : x ∉ s) (suffix : List Char) :
    x ∉ trimSuffix s suffix := by
  unfold trimSuffix
  split_ifs
  · exact fun h => hx (List.mem_of_mem_take h)
  · exact hx

/-- Splitting at a separator that joins two lists splits each of them. -/
theorem splitOn_append_cons (a : Char) (xs ys : List Char) :
    (xs ++ a :: ys).splitOn a = xs.splitOn a ++ ys.splitOn a := by
  induction xs with
  | nil => simp [List.splitOn]
  | cons x xs ih =>
    simp only [List.splitOn, List.cons_append, List.splitOnP_cons] at ih ⊢
    split_ifs
    · rw [ih]; rfl
    · obtain ⟨h, t, ht⟩ := List.exists_cons_of_ne_nil (List.splitOnP_ne_nil (· == a) xs)
      rw [ih, ht]
      rfl

/-! ## The service -/

/-- The `UploadParams` `UploadFile` sends. -/
structure UploadParams where
  publicID : String
  folder : String
  resourceType : String
  overwrite : Bool
  invalidate : Bool
  deriving DecidableEq

/-- What `UploadFile` sends for a file: its name without its extension as the public ID, to be
stored in `folder`, overwriting and invalidating. -/
def uploadParams (filename folder : String) : UploadParams :=
  let ext := ext filename.data
  let publicID := String.mk (trimSuffix filename.data ext)
  ⟨publicID, folder, "auto", true, true⟩

/-- `UploadFile(ctx, fileHeader, folder)`, with `openFile` the error of `fileHeader.Open()` and
`upload` the service's answer: the secure URL of the uploaded file, or the error. -/
def uploadFile {ε : Type} (openFile : Option ε) (upload : UploadParams → Except ε String)
    (filename folder : String) : String × Option ε :=
  match openFile with
  | some err => ("", some err)
  | none =>
    match upload (uploadParams filename folder) with
    | .error err => ("", some err)
    | .ok secureURL => (secureURL, none)

/-- The public ID `DeleteFile(ctx, publicID)` destroys. -/
def destroyPublicID (publicID : String) : String :=
  if "cloudinary.com".data <:+: publicID.data then
    match (publicID.data.splitOn '/').getLast? with
    | some lastPart => String.mk (trimSuffix lastPart (ext lastPart))
    | none => publicID
  else publicID

/-- `DeleteFile(ctx, publicID)`, with `destroy` the service's answer: its error, if any. -/
def deleteFile {ε : Type} (destroy : String → Option ε) (publicID : String) : Option ε :=
  destroy (destroyPublicID publicID)

/-- `GetImageURL(publicID, transformations)` of the service of the cloud `cloudName`. -/
def getImageURL (cloudName publicID : String) : String :=
  "https://res.cloudinary.com/" ++ cloudName ++ "/image/upload/" ++ publicID

/-! ## Public IDs -/

/-- A file that opens is uploaded with the parameters `uploadParams` gives, whose public ID and
the name's extension make up the file name; one that does not open is not uploaded. -/
theorem uploadFile_spec {ε : Type} (upload : UploadParams → Except ε String)
    (filename folder : String) :
    uploadFile none upload filename folder =
      (match upload (uploadParams filename folder) with
        | .error err => ("", some err)
        | .ok secureURL => (secureURL, none)) ∧
    (uploadParams filename folder).publicID.data ++ ext filename.data = filename.data ∧
    ∀ err, uploadFile (some err) upload filename folder = ("", some err) :=
  ⟨rfl, trimSuffix_ext_append filename.data, fun _ => rfl⟩

/-- The last part of a split of a text without `/` is the text. -/
theorem getLast?_splitOn_of_not_mem {s : List Char} (hs : '/' ∉ s) :
    (s.splitOn '/').getLast? = some s := by
  rw [List.splitOn, List.splitOnP_eq_single _ _ fun x hx (h : (x == '/') = true) => hs (beq_iff_eq.mp h ▸ hx)]
  rfl

/-- Given a text that contains `cloudinary.com`, `DeleteFile` destroys the last `/`-separated
part of the text without its extension: an ID with no `/`. -/
theorem destroyPublicID_of_url {url : String} (hc : "cloudinary.com".data <:+: url.data)
    {pre rest lastPart : List Char} (hu : url.data = pre ++ '/' :: rest)
    (hl : (rest.splitOn '/').getLast? = some lastPart) :
    destroyPublicID url = String.mk (trimSuffix lastPart (ext lastPart)) ∧
      '/' ∉ (destroyPublicID url).data := by
  have hlast : (url.data.splitOn '/').getLast? = some lastPart := by
    rw [hu, splitOn_append_cons, List.getLast?_append, hl]
    rfl
  have h : destroyPublicID url = String.mk (trimSuffix lastPart (ext lastPart)) := by
    simp only [destroyPublicID, hc, if_true, hlast]
  exact ⟨h, h ▸ not_mem_trimSuffix (Helpers.not_mem_of_mem_splitOn
    (List.mem_of_getLast?_eq_some hl)) _⟩

example :
    destroyPublicID "https://res.cloudinary.com/demo/image/upload/v1/avatars/photo.jpg" = "photo" := by
  decide

/-- The URL `GetImageURL` makes holds `cloudinary.com` and ends in `/` and the public ID. -/
theorem getImageURL_data (cloudName publicID : String) :
    (getImageURL cloudName publicID).data =
      ("https://res.cloudinary.com/" ++ cloudName ++ "/image/upload").data ++ '/' :: publicID.data ∧
    "cloudinary.com".data <:+: (getImageURL cloudName publicID).data := by
  refine ⟨by simp [getImageURL], ?_⟩
  have : (getImageURL cloudName publicID).data =
      "https://res.".data ++ "cloudinary.com".data ++ ("/" ++ cloudName ++ "/image/upload/" ++
        publicID).data := by
    simp [getImageURL]
  rw [this]
  exact List.infix_append _ _ _

/-- `DeleteFile` on the URL `GetImageURL` makes for a public ID destroys that same ID exactly when
the ID has no `/` and no `.`. -/
theorem destroyPublicID_getImageURL (cloudName publicID : String) :
    destroyPublicID (getImageURL cloudName publicID) = publicID ↔
      '/' ∉ publicID.data ∧ '.' ∉ publicID.data := by
  obtain ⟨hu, hc⟩ := getImageURL_data cloudName publicID
  constructor
  · intro h
    obtain ⟨lastPart, hlast⟩ : ∃ l, (publicID.data.splitOn '/').getLast? = some l :=
      Option.isSome_iff_exists.mp (List.getLast?_isSome.mpr (List.splitOnP_ne_nil _ _))
    obtain ⟨hd, hs⟩ := destroyPublicID_of_url hc hu hlast
    rw [h] at hs hd
    rw [getLast?_splitOn_of_not_mem hs, Option.some_inj] at hlast
    subst hlast
    exact ⟨hs, (trimSuffix_ext_eq_self_iff hs).mp (congrArg String.data hd).symm⟩
  · rintro ⟨hs, hd⟩
    rw [(destroyPublicID_of_url hc hu (getLast?_splitOn_of_not_mem hs)).1,
      trimSuffix_ext_of_not_mem hd]

/-- For a file name without `/`, `DeleteFile` on the URL `GetImageURL` makes for the public ID
`UploadFile` sends destroys that same ID exactly when the name has at most one `.`. -/
theorem upload_publicID_round_trip (cloudName folder : String) {filename : String}
    (hs : '/' ∉ filename.data) :
    destroyPublicID (getImageURL cloudName (uploadParams filename folder).publicID) =
      (uploadParams filename folder).publicID ↔ filename.data.count '.' ≤ 1 := by
  rw [destroyPublicID_getImageURL, ← not_mem_trimSuffix_ext_iff hs]
  exact and_iff_right (not_mem_trimSuffix hs _)

theorem upload_publicID_round_trip_archive :
    '/' ∉ "archive.tar.gz".data ∧
      (destroyPublicID (getImageURL "demo" (uploadParams "archive.tar.gz" "").publicID) =
        (uploadParams "archive.tar.gz" "").publicID ↔ "archive.tar.gz".data.count '.' ≤ 1) :=
  have hs : '/' ∉ "archive.tar.gz".data := by decide
  ⟨hs, upload_publicID_round_trip "demo" "" hs⟩

end Cloudinary
end MsaCore
