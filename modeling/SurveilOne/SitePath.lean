import SurveilOne.ImageUrl
import SurveilOne.Login

/-!
# Paths under the directory of a site

`normalizeImageUrl` puts a path under the directory that `buildImageBase` makes of
the site name.  `sitePath` is that path, and `normalizeImageUrl_eq` is all that
is used of the function afterwards.

The directory is made of the site name without the slashes at its ends, while the
prefix that is taken away again has them.
-/

namespace SurveilOne

open Dart

/-! ## The directory of a site -/

/-- No slash at either end. -/
def NoEdgeSlash (s : Text) : Prop := (∀ c ∈ s.head?, c ≠ '/') ∧ ∀ c ∈ s.getLast?, c ≠ '/'

theorem siteDirectory_eq_self_iff {siteName : Text} (h : Text.EdgesClear siteName) :
    siteDirectory siteName = siteName ↔ NoEdgeSlash siteName := by
  rw [siteDirectory, Text.trim_eq_self.mpr h, Text.strip_eq_self, NoEdgeSlash]
  simp only [decide_eq_false_iff_not, ne_eq]

/-- A site name as the login form produces it. -/
structure LoginSite (siteName : Text) : Prop where
  ne_nil : siteName ≠ []
  clear : Text.EdgesClear siteName
  no_lower : ∀ c ∈ siteName, Text.isAsciiLower c = false

theorem LoginPage.siteNameOf_loginSite (K : Casing) (site : Text) :
    LoginSite (siteNameOf K site) := by
  rw [siteNameOf]
  cases h : site.trim with
  | nil =>
    show LoginSite "TEST_SITE".toList
    exact ⟨by decide, Text.trim_eq_self.mp (by decide), Text.forall_mem_of_all (by decide)⟩
  | cons c rest =>
    rw [if_neg (by simp)]
    exact ⟨K.upper_ne_nil _ (by simp), K.edgesClear _ (h ▸ Text.edgesClear_trim site), K.no_lower _⟩

theorem slashes_of_dropWhile (s : Text) :
    ∃ a : Text, s = a ++ s.dropWhile (· = '/') ∧ ∀ c ∈ a, c = '/' := by
  refine ⟨s.takeWhile (· = '/'), (List.takeWhile_append_dropWhile).symm, fun c hc => ?_⟩
  simpa using List.mem_takeWhile_imp hc

theorem slashes_of_rdropWhile (s : Text) :
    ∃ b : Text, s = s.rdropWhile (· = '/') ++ b ∧ ∀ c ∈ b, c = '/' := by
  refine ⟨s.rtakeWhile (· = '/'), (List.rdropWhile_append_rtakeWhile ..).symm, fun c hc => ?_⟩
  simpa using List.mem_rtakeWhile_imp hc

theorem LoginSite.split {siteName : Text} (h : LoginSite siteName) :
    ∃ a b, siteName = a ++ siteDirectory siteName ++ b ∧ (∀ c ∈ a, c = '/') ∧ ∀ c ∈ b, c = '/' := by
  obtain ⟨a, ha, hall⟩ := slashes_of_dropWhile siteName
  obtain ⟨b, hb, hblall⟩ := slashes_of_rdropWhile (siteName.dropWhile (· = '/'))
  refine ⟨a, b, ?_, hall, hblall⟩
  rw [siteDirectory, Text.trim_eq_self.mpr h.clear, List.append_assoc, ← hb]
  exact ha

theorem LoginSite.mem {siteName : Text} (h : LoginSite siteName) {c : Char}
    (hc : c ∈ siteDirectory siteName) : c ∈ siteName := by
  obtain ⟨a, b, hsplit, -, -⟩ := h.split
  rw [hsplit]
  exact List.mem_append_left _ (List.mem_append_right _ hc)

/-- The directory is as long as the name only when it is the name. -/
theorem LoginSite.directory_eq_of_length {siteName : Text} (h : LoginSite siteName)
    (hle : siteName.length ≤ (siteDirectory siteName).length) :
    siteDirectory siteName = siteName := by
  obtain ⟨a, b, hsplit, -, -⟩ := h.split
  have hlen := congrArg List.length hsplit
  rw [List.length_append, List.length_append] at hlen
  have ha : a = [] := List.length_eq_zero_iff.mp (by omega)
  have hb : b = [] := List.length_eq_zero_iff.mp (by omega)
  rw [ha, hb, List.nil_append, List.append_nil] at hsplit
  exact hsplit.symm

theorem stripSite_suffix (siteName after : Text) : stripSite siteName after <:+ after := by
  rw [stripSite]
  split
  · exact List.drop_suffix _ _
  · exact List.suffix_refl _

theorem stripSite_append (siteName rest : Text) :
    stripSite siteName (siteName ++ '/' :: rest) = rest := by
  have happ : siteName ++ '/' :: rest = (siteName ++ ['/']) ++ rest := by simp
  rw [stripSite, happ, if_pos (Text.startsWith_append _ _), Text.substring_append]

/-- What is left of `x/rest` is `rest` only when `x` is the site. -/
theorem eq_of_stripSite_eq {siteName x rest : Text} (h : stripSite siteName (x ++ '/' :: rest) = rest) :
    x = siteName := by
  rw [stripSite] at h
  split at h
  · rename_i hpre
    have hlen := congrArg List.length h
    simp only [Text.substring, List.length_drop, List.length_append, List.length_cons,
      List.length_nil] at hlen
    obtain ⟨t, ht⟩ := Text.startsWith_iff.mp hpre
    rw [List.append_assoc] at ht
    have htlen := congrArg List.length ht
    simp only [List.length_append, List.length_cons, List.length_nil] at htlen
    exact (List.append_inj_left ht (by omega)).symm
  · have hlen := congrArg List.length h
    simp only [List.length_append, List.length_cons] at hlen
    omega

/-! ## The path below the directory -/

/-- The path that `normalizeImageUrl` puts under the site's directory, `none` for
an address outside `/images/`. -/
def sitePath (siteName u : Text) : Option Text :=
  if isAbsolute u then
    (Text.indexOf "/images/".toList u).map fun idx =>
      stripSite siteName (Text.substring u (idx + "/images/".toList.length))
  else if Text.startsWith u "/images/".toList then
    some (stripSite siteName (Text.substring u "/images/".toList.length))
  else some u

theorem normalizeImageUrl_of_trim_nil {raw : Text} (h : raw.trim = []) (imageHost siteName : Text) :
    normalizeImageUrl (some raw) imageHost siteName = none := by
  simp [normalizeImageUrl, h]

theorem normalizeImageUrl_eq {raw : Text} (h : raw.trim ≠ []) (imageHost siteName : Text) :
    normalizeImageUrl (some raw) imageHost siteName =
      match sitePath siteName raw.trim with
      | some rest => some (buildImageBase imageHost siteName ++ rest)
      | none => some raw.trim := by
  have hne : raw.trim.isEmpty = false := by simpa using h
  simp only [normalizeImageUrl, hne, Bool.false_eq_true, if_false, sitePath]
  by_cases habs : isAbsolute raw.trim = true
  · cases hidx : Text.indexOf "/images/".toList raw.trim with
    | none => simp only [habs, if_true, Option.map_none]
    | some idx => simp only [habs, if_true, Option.map_some]
  · by_cases hpre : Text.startsWith raw.trim "/images/".toList = true
    · simp only [habs, hpre, if_true, Bool.false_eq_true, if_false]
    · simp only [habs, hpre, Bool.false_eq_true, if_false]

theorem normalizeImageUrl_eq_none_iff {raw : Option Text} (imageHost siteName : Text) :
    normalizeImageUrl raw imageHost siteName = none ↔ ∀ r, raw = some r → r.trim = [] := by
  cases raw with
  | none => exact iff_of_true rfl fun r hr => (by cases hr)
  | some r =>
    constructor
    · intro h r' hr'
      obtain rfl := Option.some.inj hr'
      by_contra hne
      rw [normalizeImageUrl_eq hne] at h
      split at h <;> cases h
    · exact fun h => normalizeImageUrl_of_trim_nil (h r rfl) imageHost siteName

theorem sitePath_suffix {siteName u rest : Text} (h : sitePath siteName u = some rest) :
    rest <:+ u := by
  rw [sitePath] at h
  split at h
  · obtain ⟨idx, -, rfl⟩ := Option.map_eq_some_iff.mp h
    exact (stripSite_suffix _ _).trans (List.drop_suffix _ _)
  · split at h
    · rw [← Option.some.inj h]
      exact (stripSite_suffix _ _).trans (List.drop_suffix _ _)
    · rw [← Option.some.inj h]

/-- It ends in no white space, since the text does not. -/
theorem sitePath_getLast {siteName raw rest : Text} (h : sitePath siteName raw.trim = some rest) :
    ∀ c ∈ rest.getLast?, Text.isWhitespace c = false := by
  intro c hc
  obtain ⟨pre, hpre⟩ := sitePath_suffix h
  refine (Text.edgesClear_trim raw).2 c ?_
  rw [← hpre, List.getLast?_append, Option.mem_def.mp hc]
  rfl

/-- An absolute address without `/images/`. -/
def Elsewhere (u : Text) : Prop := isAbsolute u = true ∧ ¬ "/images/".toList <:+: u

theorem sitePath_eq_none_iff {siteName u : Text} : sitePath siteName u = none ↔ Elsewhere u := by
  rw [sitePath, Elsewhere]
  by_cases habs : isAbsolute u = true
  · rw [if_pos habs, Option.map_eq_none_iff, Text.indexOf_eq_none_iff]
    simp only [habs, true_and]
  · rw [if_neg habs]
    split <;> simp [habs]

/-- The first `/images/` of an absolute address is where its path is cut. -/
theorem sitePath_of_indexOf {front after : Text} (siteName : Text)
    (habs : isAbsolute (front ++ ("/images/".toList ++ after)) = true)
    (hidx : Text.indexOf "/images/".toList (front ++ ("/images/".toList ++ after)) =
      some front.length) :
    sitePath siteName (front ++ ("/images/".toList ++ after)) = some (stripSite siteName after) := by
  have hcut : Text.substring (front ++ ("/images/".toList ++ after))
      (front.length + "/images/".toList.length) = after := by
    rw [← List.length_append, ← List.append_assoc]
    exact Text.substring_append _ _
  rw [sitePath, if_pos habs, hidx, Option.map_some, hcut]

theorem buildImageBase_default (siteName : Text) :
    buildImageBase kDefaultImageHost siteName =
      "http://35.182.97.114".toList ++ "/images/".toList ++ (siteDirectory siteName ++ ['/']) := by
  have hhost : Text.endsWith kDefaultImageHost ['/'] = false := by decide
  rw [buildImageBase, hhost, if_neg Bool.false_ne_true, ← List.append_assoc]
  rfl

theorem base_append (siteName rest : Text) :
    buildImageBase kDefaultImageHost siteName ++ rest = "http://35.182.97.114".toList ++
      "/images/".toList ++ (siteDirectory siteName ++ '/' :: rest) := by
  rw [buildImageBase_default]
  simp

/-- The function's own address is cut behind `/images/`, in front of the
directory. -/
theorem sitePath_base_append (siteName rest : Text) :
    sitePath siteName (buildImageBase kDefaultImageHost siteName ++ rest) =
      some (stripSite siteName (siteDirectory siteName ++ '/' :: rest)) := by
  rw [base_append, List.append_assoc]
  exact sitePath_of_indexOf siteName rfl rfl

theorem trim_base_append (siteName : Text) {rest : Text}
    (h : ∀ c ∈ rest.getLast?, Text.isWhitespace c = false) :
    Text.trim (buildImageBase kDefaultImageHost siteName ++ rest) =
      buildImageBase kDefaultImageHost siteName ++ rest := by
  rw [Text.trim_eq_self, base_append]
  refine ⟨fun c hc => ?_, fun c hc => ?_⟩
  · obtain rfl : 'h' = c := Option.some.inj hc
    decide
  · rw [List.getLast?_append, List.getLast?_append, List.getLast?_cons] at hc
    cases hr : rest.getLast? with
    | none =>
      rw [hr] at hc
      obtain rfl : '/' = c := Option.some.inj hc
      decide
    | some d =>
      rw [hr] at hc
      obtain rfl : d = c := Option.some.inj hc
      exact h d hr

end SurveilOne
