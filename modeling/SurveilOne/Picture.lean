import SurveilOne.Alerts.Settled
import SurveilOne.Dart.Uri
import SurveilOne.SitePath

/-!
# The picture of an alert

A row carries the address its thumbnail is loaded from.  `MessageDetailPage`
works out an address from the row a second time, with its own reading of it: it
parses the address, takes the last piece of the path behind `/images/`, and falls
back on other fields of the alert.

`AlertsFile.samePicture_iff` says for which alerts the two addresses agree.
-/

namespace SurveilOne

open Dart Uri

namespace MessageDetailPage

/-- `_imageBase`, a copy of `buildImageBase`. -/
def imageBase (imageHost siteName : Text) : Text := buildImageBase imageHost siteName

/-- `_imageUrl` once the field is picked. -/
def imageUrlOf (U : UriSyntax) (imageHost siteName : Text) (raw : Option Text) : Option Text :=
  match raw with
  | none => none
  | some raw =>
    let trimmed := raw.trim
    if trimmed.isEmpty then none
    else if isAbsolute trimmed then
      match U.tryParse trimmed with
      | none => none
      | some uri =>
        if uri.host.isEmpty then none
        else if Text.contains uri.host "your-server".toList then
          let cleanedPath := Text.replaceFirst uri.path "/images/".toList []
          some (imageBase imageHost siteName ++ cleanedPath)
        else if Text.contains uri.path "/images/".toList then
          let after := Text.lastPiece uri.path "/images/".toList
          some (imageBase imageHost siteName ++ stripSite siteName after)
        else some trimmed
    else if Text.startsWith trimmed "/images/".toList then
      let after := Text.substring trimmed "/images/".toList.length
      some (imageBase imageHost siteName ++ stripSite siteName after)
    else some (imageBase imageHost siteName ++ trimmed)

/-- `_imageUrl`. -/
def imageUrl (U : UriSyntax) (imageHost siteName : Text) (a : Fields) : Option Text :=
  imageUrlOf U imageHost siteName
    (Fields.firstOf a ["image_url", "imageUrl", "thumbnail", "image", "img"]).toText?

end MessageDetailPage

/-! ## The detail page on an address under the directory -/

/-- What stands before the first `?` or `#`. -/
def beforeQuery (s : Text) : Text := s.takeWhile fun c => !endsPath c

/-- The path of the address of `rest` under the site's directory, as the parser gives
it. -/
def parsedPath (U : UriSyntax) (siteName rest : Text) : Text :=
  normalizePath U.backslash
    ("/images/".toList ++ beforeQuery (siteDirectory siteName ++ '/' :: rest))

/-- Below `site/`, the text holds no further `/images/`. -/
def NoImagesBelow (rest : Text) : Prop := ¬ "/images/".toList <:+: '/' :: rest

/-- The path below the directory is found again.  Only `below` is what the page is made
for. -/
inductive FoundAgain (U : UriSyntax) (siteName rest : Text) : Prop where
  /-- Dots lead out of `/images/`, and the page takes the address as it is. -/
  | outside (h : ¬ "/images/".toList <:+: parsedPath U siteName rest)
  | below (hsite : siteDirectory siteName = siteName) (hname : NormalPath siteName)
      (hrest : NormalPath rest) (h : NoImagesBelow rest)
  /-- Nothing is left of the directory, as of `.` or of `A/..`. -/
  | gone (hname : ∀ c ∈ siteDirectory siteName, endsPath c = false)
      (h : Text.lastPiece (parsedPath U siteName []) "/images/".toList = [])
      (hrest : NormalPath rest) (hno : ¬ "/images/".toList <:+: rest)
  /-- The parser takes the site's own `?` or `#` for the end of the path. -/
  | cut (hname : ∃ c ∈ siteDirectory siteName, endsPath c = true)
      (h : rest = Text.lastPiece (parsedPath U siteName []) "/images/".toList)

/-- In front of `/rest` no `/images/` begins within a text without lower case. -/
theorem no_match_begins {x : Text} (hx : ∀ c ∈ x, Text.isAsciiLower c = false) (rest : Text) :
    ∀ w, w <:+ x → w ≠ [] → ¬ "/images/".toList <+: w ++ '/' :: rest := by
  intro w hw hne hpre
  cases w with
  | nil => exact hne rfl
  | cons c w =>
    have htail : "images/".toList <+: w ++ '/' :: rest := (List.cons_prefix_cons.mp hpre).2
    cases w with
    | nil => exact absurd (List.cons_prefix_cons.mp htail).1 (by decide)
    | cons d w =>
      have hd : 'i' = d := (List.cons_prefix_cons.mp htail).1
      have := hx d (hw.subset (by simp))
      rw [← hd] at this
      exact absurd this (by decide)

theorem lastPiece_of_noImagesBelow {x rest : Text} (hx : ∀ c ∈ x, Text.isAsciiLower c = false)
    (h : NoImagesBelow rest) :
    Text.lastPiece (x ++ '/' :: rest) "/images/".toList = x ++ '/' :: rest := by
  rw [Text.lastPiece, Text.split, Text.splitGo_append _ _ _ (no_match_begins hx rest),
    Text.splitGo_of_unmatched _ _ h, List.append_nil, List.reverse_reverse]
  rfl

theorem lastPiece_length_of_imagesBelow {x rest : Text}
    (hx : ∀ c ∈ x, Text.isAsciiLower c = false) (h : ¬ NoImagesBelow rest) :
    (Text.lastPiece (x ++ '/' :: rest) "/images/".toList).length < rest.length := by
  rw [Text.lastPiece, Text.split, Text.splitGo_append _ _ _ (no_match_begins hx rest)]
  have hlen := Text.splitGo_getLastD_length_of_matched (by decide)
    ('/' :: rest) (x.reverse ++ []) (not_not.mp h)
  have h8 : "/images/".toList.length = 8 := by decide
  rw [h8, List.length_cons] at hlen
  omega

theorem beforeQuery_eq_self {s : Text} (h : ∀ c ∈ s, endsPath c = false) : beforeQuery s = s :=
  List.takeWhile_eq_self_iff.mpr fun c hc => by rw [h c hc]; rfl

theorem beforeQuery_append {s : Text} (h : ∀ c ∈ s, endsPath c = false) (t : Text) :
    beforeQuery (s ++ '/' :: t) = s ++ '/' :: beforeQuery t := by
  rw [beforeQuery, List.takeWhile_append_of_pos fun c hc => by rw [h c hc]; rfl]
  rfl

theorem beforeQuery_append_of_mem {s : Text} (h : ∃ c ∈ s, endsPath c = true) (t : Text) :
    beforeQuery (s ++ t) = beforeQuery s := by
  obtain ⟨c, hc, hend⟩ := h
  rw [beforeQuery, beforeQuery, List.takeWhile_append, if_neg]
  intro hlen
  have hself : s.takeWhile (fun c => !endsPath c) = s :=
    (List.takeWhile_prefix _).eq_of_length hlen
  have hc' := List.mem_takeWhile_imp (hself.symm ▸ hc)
  rw [hend] at hc'
  cases hc'

section Found

variable {siteName : Text} (hS : LoginSite siteName)

theorem normalPath_of_slashes_append {a t : Text} (ha : ∀ c ∈ a, c = '/')
    (h : NormalPath (a ++ t)) : NormalPath t := by
  induction a with
  | nil => exact h
  | cons c a ih =>
    obtain rfl := ha c (List.mem_cons_self ..)
    have htail : NormalPath ([] ++ '/' :: (a ++ t)) := h
    exact ih (fun c hc => ha c (List.mem_cons_of_mem _ hc)) (normalPath_append_slash.mp htail).2

theorem normalPath_of_append_slashes {t b : Text} (hb : ∀ c ∈ b, c = '/')
    (h : NormalPath (t ++ b)) : NormalPath t := by
  cases b with
  | nil => rwa [List.append_nil] at h
  | cons c b =>
    obtain rfl := hb c (List.mem_cons_self ..)
    exact (normalPath_append_slash.mp h).1

include hS in
theorem LoginSite.normalPath_directory (h : NormalPath siteName) :
    NormalPath (siteDirectory siteName) := by
  obtain ⟨a, b, hsplit, ha, hb⟩ := hS.split
  rw [hsplit, List.append_assoc] at h
  exact normalPath_of_append_slashes hb (normalPath_of_slashes_append ha h)

variable {U : UriSyntax} {rest : Text}

theorem normalPath_parsedPath : NormalPath (parsedPath U siteName rest) :=
  normalPath_normalizePath _

/-- A normal path stays where it is. -/
theorem parsedPath_append (hname : ∀ c ∈ siteDirectory siteName, endsPath c = false)
    (hrest : NormalPath rest) : parsedPath U siteName rest = parsedPath U siteName [] ++ rest := by
  rw [parsedPath, parsedPath, beforeQuery_append hname, beforeQuery_append hname,
    beforeQuery_eq_self fun c hc => hrest.legal.not_endsPath hc, ← List.append_assoc,
    normalizePath_append_slash _ hrest, List.append_assoc]
  rfl

theorem parsedPath_of_normal (h : NormalPath (siteDirectory siteName)) :
    parsedPath U siteName [] = "/images/".toList ++ (siteDirectory siteName ++ ['/']) := by
  have hwhole : NormalPath ("/images".toList ++ '/' :: (siteDirectory siteName ++ '/' :: [])) :=
    normalPath_append_slash.mpr
      ⟨by decide, normalPath_append_slash.mpr ⟨h, normalPath_nil⟩⟩
  rw [parsedPath, beforeQuery_append fun c hc => h.legal.not_endsPath hc]
  exact hwhole.normalizePath_eq

theorem parsedPath_of_query (hname : ∃ c ∈ siteDirectory siteName, endsPath c = true) :
    parsedPath U siteName rest = parsedPath U siteName [] := by
  rw [parsedPath, parsedPath, beforeQuery_append_of_mem hname, beforeQuery_append_of_mem hname]

theorem images_ne_nil : "/images/".toList ≠ [] := by decide

/-- What stands behind `/images/` in the path is normal. -/
theorem normalPath_lastPiece (h : "/images/".toList <:+: parsedPath U siteName rest) :
    NormalPath (Text.lastPiece (parsedPath U siteName rest) "/images/".toList) := by
  obtain ⟨front, hfront⟩ := Text.exists_append_lastPiece images_ne_nil h
  have hnormal : NormalPath (parsedPath U siteName rest) := normalPath_parsedPath
  rw [hfront] at hnormal
  have hslash : front ++ ("/images/".toList ++
      Text.lastPiece (parsedPath U siteName rest) "/images/".toList) =
      (front ++ "/images".toList) ++ '/' ::
        Text.lastPiece (parsedPath U siteName rest) "/images/".toList :=
    (List.append_assoc front "/images".toList _).symm
  rw [hslash] at hnormal
  exact (normalPath_append_slash.mp hnormal).2

include hS

/-- A site with a `?` or `#` is not a part of the path. -/
theorem LoginSite.stripSite_of_query (hname : ∃ c ∈ siteDirectory siteName, endsPath c = true)
    {after : Text} (h : NormalPath after) : stripSite siteName after = after := by
  rw [stripSite, if_neg]
  intro hpre
  obtain ⟨c, hc, hend⟩ := hname
  have hmem : c ∈ after :=
    (Text.startsWith_iff.mp hpre).subset (List.mem_append_left _ (hS.mem hc))
  rw [h.legal.not_endsPath hmem] at hend
  cases hend

theorem LoginSite.directory_no_lower : ∀ c ∈ siteDirectory siteName, Text.isAsciiLower c = false :=
  fun c hc => hS.no_lower c (hS.mem hc)

theorem LoginSite.lastPiece_below (hsite : siteDirectory siteName = siteName)
    (hname : NormalPath siteName) (hrest : NormalPath rest) (h : NoImagesBelow rest) :
    Text.lastPiece (parsedPath U siteName rest) "/images/".toList = siteName ++ '/' :: rest := by
  have hdir : NormalPath (siteDirectory siteName) := hsite.symm ▸ hname
  rw [parsedPath_append (fun c hc => hdir.legal.not_endsPath hc) hrest, parsedPath_of_normal hdir,
    List.append_assoc, Text.lastPiece_append images_ne_nil, hsite, List.append_assoc,
    List.singleton_append, lastPiece_of_noImagesBelow hS.no_lower h]

/-- Something is left of a directory that the parser leaves as it is. -/
theorem LoginSite.lastPiece_ne_nil (h : NormalPath siteName) :
    Text.lastPiece (parsedPath U siteName []) "/images/".toList ≠ [] := by
  have hno : NoImagesBelow [] := by
    intro hin
    exact absurd hin.length_le (by decide)
  rw [parsedPath_of_normal (hS.normalPath_directory h), Text.lastPiece_append images_ne_nil,
    lastPiece_of_noImagesBelow hS.directory_no_lower hno]
  exact List.append_ne_nil_of_right_ne_nil _ (List.cons_ne_nil _ _)

theorem LoginSite.lastPiece_gone (hname : ∀ c ∈ siteDirectory siteName, endsPath c = false)
    (h : Text.lastPiece (parsedPath U siteName []) "/images/".toList = [])
    (hrest : NormalPath rest) (hno : ¬ "/images/".toList <:+: rest) :
    stripSite siteName (Text.lastPiece (parsedPath U siteName rest) "/images/".toList) = rest := by
  rw [parsedPath_append hname hrest, Text.lastPiece_append_of_nil images_ne_nil h,
    Text.lastPiece_of_unmatched hno, stripSite, if_neg]
  intro hpre
  obtain ⟨t, ht⟩ := Text.startsWith_iff.mp hpre
  rw [← ht, List.append_assoc, List.singleton_append] at hrest
  exact hS.lastPiece_ne_nil (normalPath_append_slash.mp hrest).1 h

/-- The site is found in front of the rest only where it is its own directory. -/
theorem LoginSite.below_of_lastPiece (hin : "/images/".toList <:+: parsedPath U siteName rest)
    (h : Text.lastPiece (parsedPath U siteName rest) "/images/".toList = siteName ++ '/' :: rest) :
    FoundAgain U siteName rest := by
  have hlast := normalPath_lastPiece hin
  rw [h] at hlast
  obtain ⟨hname, hrest⟩ := normalPath_append_slash.mp hlast
  have hdir := hS.normalPath_directory hname
  have hpath : parsedPath U siteName rest =
      "/images/".toList ++ (siteDirectory siteName ++ '/' :: rest) := by
    rw [parsedPath_append (fun c hc => hdir.legal.not_endsPath hc) hrest, parsedPath_of_normal hdir,
      List.append_assoc, List.append_assoc, List.singleton_append]
  have hsite : siteDirectory siteName = siteName := by
    obtain ⟨front, hfront⟩ := Text.exists_append_lastPiece images_ne_nil hin
    rw [h, hpath] at hfront
    have hlen := congrArg List.length hfront
    simp only [List.length_append, List.length_cons] at hlen
    exact hS.directory_eq_of_length (by omega)
  refine .below hsite hname hrest fun hbelow => ?_
  have hshort := lastPiece_length_of_imagesBelow hS.no_lower (not_not.mpr hbelow)
  rw [hpath, hsite, Text.lastPiece_append images_ne_nil] at h
  rw [h, List.length_append, List.length_cons] at hshort
  omega

theorem LoginSite.foundAgain_iff :
    ("/images/".toList <:+: parsedPath U siteName rest →
      stripSite siteName (Text.lastPiece (parsedPath U siteName rest) "/images/".toList) = rest) ↔
        FoundAgain U siteName rest := by
  constructor
  · intro h
    by_cases hin : "/images/".toList <:+: parsedPath U siteName rest
    · have hlast := normalPath_lastPiece hin
      have hfound := h hin
      by_cases hq : ∃ c ∈ siteDirectory siteName, endsPath c = true
      · rw [hS.stripSite_of_query hq hlast, parsedPath_of_query hq] at hfound
        exact .cut hq hfound.symm
      · have hname : ∀ c ∈ siteDirectory siteName, endsPath c = false := fun c hc =>
          Bool.eq_false_iff.mpr fun hend => hq ⟨c, hc, hend⟩
        rw [stripSite] at hfound
        split at hfound
        · rename_i hpre
          obtain ⟨t, ht⟩ := Text.startsWith_iff.mp hpre
          rw [← ht, Text.substring_append] at hfound
          subst hfound
          rw [List.append_assoc, List.singleton_append] at ht
          exact hS.below_of_lastPiece hin ht.symm
        · rw [hfound] at hlast
          rw [parsedPath_append hname hlast] at hfound hin
          obtain ⟨hgone, hno⟩ := Text.lastPiece_eq_nil_of_append images_ne_nil hin hfound
          exact .gone hname hgone hlast hno
    · exact .outside hin
  · intro h hin
    cases h with
    | outside hout => exact absurd hin hout
    | below hsite hname hrest hbelow =>
      rw [hS.lastPiece_below hsite hname hrest hbelow, stripSite_append]
    | gone hname hgone hrest hno => exact hS.lastPiece_gone hname hgone hrest hno
    | cut hq hrest =>
      rw [hS.stripSite_of_query hq (normalPath_lastPiece hin), parsedPath_of_query hq]
      exact hrest.symm

end Found

/-! ## The detail page on the row's own address -/

namespace MessageDetailPage

variable (U : UriSyntax) (siteName : Text)

theorem imageUrlOf_absolute {u : Text} (hne : u.trim = u) (habs : isAbsolute u = true) :
    imageUrlOf U kDefaultImageHost siteName (some u) =
      match U.tryParse u with
      | none => none
      | some uri =>
        if uri.host.isEmpty then none
        else if Text.contains uri.host "your-server".toList then
          some (imageBase kDefaultImageHost siteName ++
            Text.replaceFirst uri.path "/images/".toList [])
        else if Text.contains uri.path "/images/".toList then
          some (imageBase kDefaultImageHost siteName ++
            stripSite siteName (Text.lastPiece uri.path "/images/".toList))
        else some u := by
  have hnil : u.isEmpty = false := by
    cases u with
    | nil => cases habs
    | cons c u => rfl
  simp only [imageUrlOf, hne, hnil, habs, Bool.false_eq_true, if_false, if_true]

theorem tryParse_default (rest : Text) :
    U.tryParse (buildImageBase kDefaultImageHost siteName ++ rest) =
      some { host := "35.182.97.114".toList, path := parsedPath U siteName rest } := by
  have haccepts : U.accepts ("http://35.182.97.114".toList ++ "/images/".toList ++
      (siteDirectory siteName ++ '/' :: rest)) = true :=
    U.accepts_address "35.182.97.114".toList ("images/".toList ++ (siteDirectory siteName ++ '/' :: rest))
      (by decide) (Text.forall_mem_of_all (by decide))
  rw [base_append, UriSyntax.tryParse, if_pos haccepts]
  rfl

theorem imageUrlOf_under_iff (hS : LoginSite siteName) {rest : Text}
    (h : ∀ c ∈ rest.getLast?, Text.isWhitespace c = false) :
    imageUrlOf U kDefaultImageHost siteName
        (some (buildImageBase kDefaultImageHost siteName ++ rest)) =
      some (buildImageBase kDefaultImageHost siteName ++ rest) ↔ FoundAgain U siteName rest := by
  have habs : isAbsolute (buildImageBase kDefaultImageHost siteName ++ rest) = true := by
    rw [base_append]
    rfl
  have hserver : Text.contains "35.182.97.114".toList "your-server".toList = false := by decide
  rw [imageUrlOf_absolute U siteName (trim_base_append siteName h) habs, tryParse_default,
    ← hS.foundAgain_iff, ← Text.contains_iff]
  simp only [hserver, Bool.false_eq_true, if_false, imageBase,
    show "35.182.97.114".toList.isEmpty = false from rfl]
  by_cases himages : Text.contains (parsedPath U siteName rest) "/images/".toList = true
  · simp only [himages, if_true, Option.some.injEq, List.append_right_inj, forall_const]
  · simp only [himages, Bool.false_eq_true, if_false, false_implies]

/-- The parser takes the address, finds a host and does not take it for the
placeholder host, and the path it finds has no `/images/` that an escape or a backslash
was hiding. -/
def PlainAddress (u : Text) : Prop :=
  ∃ uri, U.tryParse u = some uri ∧ uri.host ≠ [] ∧ ¬ "your-server".toList <:+: uri.host ∧
    ¬ "/images/".toList <:+: uri.path

theorem imageUrlOf_plain_iff {u : Text} (htrim : u.trim = u) (habs : isAbsolute u = true)
    (hno : ¬ "/images/".toList <:+: u) :
    imageUrlOf U kDefaultImageHost siteName (some u) = some u ↔ PlainAddress U u := by
  -- An address that is moved to the default host has `/images/` in it.
  have hmoved : ∀ path : Text, some (imageBase kDefaultImageHost siteName ++ path) ≠ some u := by
    intro path h
    refine hno ?_
    rw [← Option.some.inj h, imageBase, base_append, List.append_assoc]
    exact List.infix_append' _ _ _
  rw [imageUrlOf_absolute U siteName htrim habs]
  cases hparse : U.tryParse u with
  | none =>
    refine ⟨fun h => (by cases h), fun ⟨uri, huri, _⟩ => ?_⟩
    rw [hparse] at huri
    cases huri
  | some uri =>
    have hplain : PlainAddress U u ↔ uri.host ≠ [] ∧ ¬ "your-server".toList <:+: uri.host ∧
        ¬ "/images/".toList <:+: uri.path := by
      refine ⟨fun ⟨uri', huri, h⟩ => ?_, fun h => ⟨uri, hparse, h⟩⟩
      obtain rfl := Option.some.inj (hparse.symm.trans huri)
      exact h
    rw [hplain, ← Text.contains_iff, ← Text.contains_iff]
    simp only
    by_cases hhost : uri.host = []
    · rw [if_pos (by rw [hhost]; rfl)]
      exact ⟨fun h => (by cases h), fun h => absurd hhost h.1⟩
    · rw [if_neg (by simpa using hhost)]
      by_cases hserver : Text.contains uri.host "your-server".toList = true
      · rw [if_pos hserver]
        exact ⟨fun h => absurd h (hmoved _), fun h => absurd hserver h.2.1⟩
      · rw [if_neg hserver]
        by_cases hpath : Text.contains uri.path "/images/".toList = true
        · rw [if_pos hpath]
          exact ⟨fun h => absurd h (hmoved _), fun h => absurd hpath h.2.2⟩
        · rw [if_neg hpath]
          exact ⟨fun _ => ⟨hhost, hserver, hpath⟩, fun _ => rfl⟩

/-- The text gives no picture: it is blank, or an address the parser rejects or
finds no host in. -/
def Hidden (raw : Option Text) : Prop :=
  ∀ r, raw = some r → r.trim = [] ∨
    (isAbsolute r.trim = true ∧ ∀ uri, U.tryParse r.trim = some uri → uri.host = [])

theorem imageUrlOf_eq_none_iff (raw : Option Text) :
    imageUrlOf U kDefaultImageHost siteName raw = none ↔ Hidden U raw := by
  cases raw with
  | none => exact ⟨fun _ r hr => (by cases hr), fun _ => rfl⟩
  | some raw =>
    have hhidden : Hidden U (some raw) ↔ raw.trim = [] ∨
        (isAbsolute raw.trim = true ∧ ∀ uri, U.tryParse raw.trim = some uri → uri.host = []) :=
      by simp only [Hidden, Option.some.injEq, forall_eq']
    rw [hhidden]
    by_cases hnil : raw.trim = []
    · simp [imageUrlOf, hnil]
    · have hne : raw.trim.isEmpty = false := by simpa using hnil
      by_cases habs : isAbsolute raw.trim = true
      · cases hparse : U.tryParse raw.trim with
        | none => simp [imageUrlOf, hnil, habs, hparse]
        | some uri =>
          by_cases hhost : uri.host = []
          · simp [imageUrlOf, hnil, habs, hparse, hhost]
          · have hsome : imageUrlOf U kDefaultImageHost siteName (some raw) ≠ none := by
              simp only [imageUrlOf, hne, habs, hparse, Bool.false_eq_true, if_false, if_true]
              rw [if_neg (by simpa using hhost)]
              split
              · simp
              · split <;> simp
            simp [hsome, hnil, habs, hhost]
      · have hsome : imageUrlOf U kDefaultImageHost siteName (some raw) ≠ none := by
          simp only [imageUrlOf, hne, habs, Bool.false_eq_true, if_false]
          split <;> simp
        simp [hsome, hnil, habs]

end MessageDetailPage

/-! ## The rows of the two pages -/

/-- The image of a row's thumbnail. -/
def AlertRow.image (row : AlertRow) : Option Text := (row.fields.get "image_url").toText?

/-- The fields `_imageUrl` falls back on. -/
def fallbackImage (alert : Fields) : Option Text :=
  (Fields.firstOf alert ["imageUrl", "thumbnail", "image", "img"]).toText?

section Row

variable {clock : Clock} {siteName : Text} {parseDate : Json → Except Thrown (Option DateTime)}
  {rawImage : Fields → Option Text} {alert : Fields} {row : AlertRow}

theorem buildRow_fields
    (h : buildRow clock siteName parseDate rawImage (.map alert) = .ok row) :
    row.fields.get "image_url" =
        (normalizeImageUrl (rawImage alert) kDefaultImageHost siteName).elim .null .string ∧
      ∀ key ∈ ["imageUrl", "thumbnail", "image", "img"], row.fields.get key = alert.get key := by
  obtain ⟨alert', d, heq, -, rfl⟩ := buildRow_eq_ok_iff.mp h
  cases heq
  refine ⟨rowOf_image .., fun key hkey => rowOf_get _ _ _ _ _ ?_⟩
  revert key
  decide

variable (h : buildRow clock siteName parseDate rawImage (.map alert) = .ok row)

include h

theorem AlertRow.image_eq :
    row.image = normalizeImageUrl (rawImage alert) kDefaultImageHost siteName := by
  rw [image, (buildRow_fields h).1]
  cases normalizeImageUrl (rawImage alert) kDefaultImageHost siteName <;> rfl

theorem firstOf_row :
    (Fields.firstOf row.fields ["image_url", "imageUrl", "thumbnail", "image", "img"]).toText? =
      (normalizeImageUrl (rawImage alert) kDefaultImageHost siteName).or (fallbackImage alert) := by
  obtain ⟨himage, hothers⟩ := buildRow_fields h
  rw [Fields.firstOf, himage]
  cases normalizeImageUrl (rawImage alert) kDefaultImageHost siteName with
  | some v => rfl
  | none =>
    rw [Option.elim_none, Option.none_or, fallbackImage]
    exact congrArg Json.toText? (Fields.firstOf_congr hothers)

end Row

/-- The detail page shows the picture of the row, or none when it has none. -/
def SamePicture (U : UriSyntax) (siteName : Text) (row : AlertRow) : Prop :=
  MessageDetailPage.imageUrl U kDefaultImageHost siteName row.fields = row.image ∧
    (MessageDetailPage.imageUrl U kDefaultImageHost siteName row.fields = none ↔ row.image = none)

/-- Without a picture in the field the page looks at, the fields the detail page
falls back on give none either.  A path under the site's directory is found
again.  Any other address is plain. -/
def PictureAgrees (U : UriSyntax) (siteName : Text) (alert : Fields) (raw : Option Text) : Prop :=
  match raw with
  | none => MessageDetailPage.Hidden U (fallbackImage alert)
  | some raw =>
    if raw.trim = [] then MessageDetailPage.Hidden U (fallbackImage alert)
    else
      match sitePath siteName raw.trim with
      | some rest => FoundAgain U siteName rest
      | none => MessageDetailPage.PlainAddress U raw.trim

theorem samePicture_of_row {U : UriSyntax} {clock : Clock} {siteName : Text}
    {parseDate : Json → Except Thrown (Option DateTime)} {rawImage : Fields → Option Text}
    {alert : Fields} {row : AlertRow} (hS : LoginSite siteName)
    (h : buildRow clock siteName parseDate rawImage (.map alert) = .ok row) :
    SamePicture U siteName row ↔ PictureAgrees U siteName alert (rawImage alert) := by
  have hsame : SamePicture U siteName row ↔
      MessageDetailPage.imageUrl U kDefaultImageHost siteName row.fields = row.image :=
    ⟨And.left, fun he => ⟨he, by rw [he]⟩⟩
  have hnone : normalizeImageUrl (rawImage alert) kDefaultImageHost siteName = none →
      (SamePicture U siteName row ↔ MessageDetailPage.Hidden U (fallbackImage alert)) := by
    intro hn
    rw [hsame, MessageDetailPage.imageUrl, firstOf_row h, AlertRow.image_eq h, hn, Option.none_or]
    exact MessageDetailPage.imageUrlOf_eq_none_iff U siteName _
  have hsome : ∀ v, normalizeImageUrl (rawImage alert) kDefaultImageHost siteName = some v →
      (SamePicture U siteName row ↔
        MessageDetailPage.imageUrlOf U kDefaultImageHost siteName (some v) = some v) := by
    intro v hv
    rw [hsame, MessageDetailPage.imageUrl, firstOf_row h, AlertRow.image_eq h, hv, Option.some_or]
  cases hraw : rawImage alert with
  | none =>
    rw [hraw] at hnone
    exact hnone rfl
  | some raw =>
    rw [hraw] at hnone hsome
    rw [PictureAgrees]
    by_cases hnil : raw.trim = []
    · rw [if_pos hnil]
      exact hnone (normalizeImageUrl_of_trim_nil hnil _ _)
    · rw [if_neg hnil]
      have hnorm := normalizeImageUrl_eq hnil kDefaultImageHost siteName
      cases hpath : sitePath siteName raw.trim with
      | some rest =>
        rw [hpath] at hnorm
        rw [hsome _ hnorm]
        exact MessageDetailPage.imageUrlOf_under_iff U siteName hS (sitePath_getLast hpath)
      | none =>
        rw [hpath] at hnorm
        obtain ⟨habs, hno⟩ := sitePath_eq_none_iff.mp hpath
        rw [hsome _ hnorm]
        exact MessageDetailPage.imageUrlOf_plain_iff U siteName (Text.trim_trim raw) habs hno

namespace AlertsFile

/-- The text the page takes an alert's image from. -/
def rawImage : AlertsFile → Fields → Option Text
  | alerts => AlertsPage.rawImage
  | pushNotifications => PushNotificationsPage.pickRawImageField

/-- The thumbnail and the detail page show the same picture of an alert exactly
when the two readings of its address agree. -/
theorem samePicture_iff (f : AlertsFile) (U : UriSyntax) (clock : Clock) (K : Casing) (site : Text)
    (alert : Fields) (row : AlertRow)
    (h : f.row clock (LoginPage.siteNameOf K site) (.map alert) = .ok row) :
    SamePicture U (LoginPage.siteNameOf K site) row ↔
      PictureAgrees U (LoginPage.siteNameOf K site) alert (f.rawImage alert) := by
  cases f <;> exact samePicture_of_row (LoginPage.siteNameOf_loginSite K site) h

/-- A parser that takes every text. -/
def lenient : UriSyntax where
  accepts _ := true
  backslash := true
  accepts_address _ _ _ _ := rfl

def imageAlert (imageUrl : String) : Fields := [("image_url".toList, .string imageUrl.toList)]

theorem relative_samePicture :
    ∃ row, AlertsFile.alerts.row ⟨fun _ => none, ⟨0⟩⟩ (LoginPage.siteNameOf .ascii [])
        (.map (imageAlert "CAM_001/a.jpg")) = .ok row ∧
      SamePicture lenient (LoginPage.siteNameOf .ascii []) row := by
  obtain ⟨row, hrow⟩ : ∃ row, AlertsFile.alerts.row ⟨fun _ => none, ⟨0⟩⟩
      (LoginPage.siteNameOf .ascii []) (.map (imageAlert "CAM_001/a.jpg")) = .ok row := ⟨_, rfl⟩
  refine ⟨row, hrow, (samePicture_iff .alerts lenient _ .ascii [] _ row hrow).mpr ?_⟩
  show FoundAgain lenient "TEST_SITE".toList "CAM_001/a.jpg".toList
  refine .below (by decide) (by decide +kernel) (by decide +kernel) ?_
  show ¬ _ <:+: _
  decide

/-- Every alert has the same picture in its row and on the detail page. -/
def AlwaysSamePicture (f : AlertsFile) : Prop :=
  ∀ (U : UriSyntax) (clock : Clock) (K : Casing) (site : Text) (alert : Fields) (row : AlertRow),
    f.row clock (LoginPage.siteNameOf K site) (.map alert) = .ok row →
    SamePicture U (LoginPage.siteNameOf K site) row

/-- The detail page drops the query of an address. -/
theorem query_not_samePicture :
    ¬ AlwaysSamePicture .alerts ∧ ¬ AlwaysSamePicture .pushNotifications := by
  constructor <;>
  · intro h
    have hsame := (h lenient ⟨fun _ => none, ⟨0⟩⟩ .ascii [] (imageAlert "CAM_001/a.jpg?x=1") _ rfl).1
    exact absurd hsame (by decide)

end AlertsFile

end SurveilOne
