import SurveilOne.SitePath

/-!
# The spellings of a picture's address

A picture of a site is named by its path in the site's directory, by its path
under `/images/`, or by its address on some host.  `samePlace_iff` says when
`normalizeImageUrl` takes all three to the address on the image host, and
`normalizedAgain_iff` says when it leaves its own results alone.

The first `/images/` is looked for in the whole address, so a host called
`images` is taken for the directory.
-/

namespace SurveilOne

open Dart

/-! ## Addresses -/

inductive Scheme where
  | http
  | https
  deriving DecidableEq, Repr

def Scheme.text : Scheme → Text
  | http => "http://".toList
  | https => "https://".toList

/-- What stands between the scheme and the path. -/
structure Authority where
  text : Text
  ne_nil : text ≠ []
  no_slash : '/' ∉ text

/-- An image host, with or without a slash at its end. -/
structure Origin where
  scheme : Scheme
  authority : Authority
  slash : Bool

namespace Origin

def bare (o : Origin) : Text := o.scheme.text ++ o.authority.text

def text (o : Origin) : Text := if o.slash then o.bare ++ ['/'] else o.bare

end Origin

/-- A site name that is the name of its own directory. -/
structure SiteName where
  text : Text
  ne_nil : text ≠ []
  clear : Text.EdgesClear text
  no_slash : NoEdgeSlash text

/-- The path of a picture in the directory of its site. -/
structure PicturePath where
  text : Text
  ne_nil : text ≠ []
  clear : Text.EdgesClear text
  not_absolute : isAbsolute text = false
  not_rooted : Text.startsWith text "/images/".toList = false

/-- The path from the root of a host. -/
def rootedPath (S : SiteName) (r : PicturePath) : Text :=
  "/images/".toList ++ (S.text ++ '/' :: r.text)

theorem rootedPath_eq (S : SiteName) (r : PicturePath) :
    rootedPath S r = "/images/".toList ++ (S.text ++ '/' :: r.text) := rfl

/-- The relative, the rooted and the absolute spelling. -/
def spellings (S : SiteName) (r : PicturePath) (scheme : Scheme) (h : Authority) : List Text :=
  [r.text, rootedPath S r, scheme.text ++ h.text ++ rootedPath S r]

/-! ## The base -/

theorem Authority.getLast_ne_slash (h : Authority) : ∀ c ∈ h.text.getLast?, c ≠ '/' :=
  fun _ hc => ne_of_mem_of_not_mem (List.mem_of_getLast? hc) h.no_slash

theorem Origin.bare_endsWith (o : Origin) : Text.endsWith o.bare ['/'] = false := by
  rw [Bool.eq_false_iff]
  intro hend
  obtain ⟨front, hfront⟩ := List.isSuffixOf_iff_suffix.mp hend
  have hlast : o.bare.getLast? = some '/' := by rw [← hfront, List.getLast?_concat]
  rw [bare, List.getLast?_append_of_ne_nil _ o.authority.ne_nil] at hlast
  exact o.authority.getLast_ne_slash '/' hlast rfl

/-- The slash at the end of an image host makes no difference, and the directory
is named after the site. -/
theorem buildImageBase_origin (o : Origin) (S : SiteName) :
    buildImageBase o.text S.text = o.bare ++ "/images/".toList ++ S.text ++ ['/'] := by
  have hdir : siteDirectory S.text = S.text := (siteDirectory_eq_self_iff S.clear).mpr S.no_slash
  rw [buildImageBase, hdir, Origin.text]
  cases o.slash with
  | true =>
    have hend : Text.endsWith (o.bare ++ ['/']) ['/'] = true :=
      List.isSuffixOf_iff_suffix.mpr (List.suffix_append _ _)
    simp [hend]
  | false => simp [o.bare_endsWith]

/-! ## Where the first `/images/` stands -/

theorem indexOf_images_append {u : Text} (h : '/' ∉ u) (s : Text) :
    Text.indexOf "/images/".toList (u ++ s) =
      (Text.indexOf "/images/".toList s).map (· + u.length) :=
  Text.indexOf_append_of_notMem h s

theorem indexOf_scheme (scheme : Scheme) (s : Text) :
    Text.indexOf "/images/".toList (scheme.text ++ s) =
      (Text.indexOf "/images/".toList ('/' :: s)).map (· + (scheme.text.length - 1)) := by
  have hslashes : ¬ "/images/".toList <+: '/' :: '/' :: s := fun hpre =>
    absurd (List.cons_prefix_cons.mp (List.cons_prefix_cons.mp hpre).2).1 (by decide)
  have hcolon : ∀ front : Text, '/' ∉ front →
      Text.indexOf "/images/".toList (front ++ '/' :: '/' :: s) =
        (Text.indexOf "/images/".toList ('/' :: s)).map (· + (front.length + 1)) := by
    intro front hfront
    have hshift : ((fun i => i + front.length) ∘ fun i => i + 1) =
        fun i : Nat => i + (front.length + 1) := by
      funext i
      show i + 1 + front.length = i + (front.length + 1)
      omega
    rw [indexOf_images_append hfront, Text.indexOf_cons_of_not_startsWith hslashes, Option.map_map,
      hshift]
  cases scheme with
  | http => exact hcolon "http:".toList (by decide)
  | https => exact hcolon "https:".toList (by decide)

/-- Behind the second slash of the scheme `/images/` begins only in front of a
host of that name. -/
theorem startsWith_authority_iff (h : Authority) (s : Text) :
    "/images/".toList <+: '/' :: (h.text ++ '/' :: s) ↔ h.text = "images".toList := by
  constructor
  · intro hpre
    have himages : "images".toList ++ ['/'] <+: h.text ++ '/' :: s :=
      (List.cons_prefix_cons.mp hpre).2
    exact (Text.eq_of_prefix_separator (by decide) h.no_slash himages).symm
  · intro himages
    rw [himages]
    exact ⟨s, rfl⟩

theorem indexOf_authority {h : Authority} (himages : h.text ≠ "images".toList) (after : Text) :
    Text.indexOf "/images/".toList ('/' :: (h.text ++ ("/images/".toList ++ after))) =
      some (h.text.length + 1) := by
  have hno : ¬ "/images/".toList <+: '/' :: (h.text ++ ("/images/".toList ++ after)) := fun hpre =>
    himages ((startsWith_authority_iff h _).mp hpre)
  rw [Text.indexOf_cons_of_not_startsWith hno]
  have hfirst : Text.indexOf "/images/".toList (h.text ++ ("/images/".toList ++ after)) =
      some h.text.length := by
    rw [indexOf_images_append h.no_slash,
      Text.indexOf_of_startsWith (by decide) (List.prefix_append _ _), Option.map_some, Nat.zero_add]
  rw [hfirst, Option.map_some]

theorem isAbsolute_scheme (scheme : Scheme) (s : Text) : isAbsolute (scheme.text ++ s) = true := by
  cases scheme <;> rfl

section Absolute

variable (siteName : Text) (scheme : Scheme) {h : Authority} (after : Text)

theorem sitePath_absolute (himages : h.text ≠ "images".toList) :
    sitePath siteName (scheme.text ++ h.text ++ ("/images/".toList ++ after)) =
      some (stripSite siteName after) := by
  have habs : isAbsolute (scheme.text ++ h.text ++ ("/images/".toList ++ after)) = true := by
    rw [List.append_assoc]
    exact isAbsolute_scheme scheme _
  refine sitePath_of_indexOf siteName habs ?_
  rw [List.append_assoc, indexOf_scheme, indexOf_authority himages, Option.map_some,
    List.length_append]
  have hpos : 0 < scheme.text.length := by cases scheme <;> decide
  congr 1
  omega

theorem sitePath_imagesHost (himages : h.text = "images".toList) :
    sitePath siteName (scheme.text ++ h.text ++ ("/images/".toList ++ after)) =
      some (stripSite siteName ("images/".toList ++ after)) := by
  obtain ⟨front, hfront⟩ : ∃ front : Text, scheme.text = front ++ ['/'] := by
    cases scheme with
    | http => exact ⟨"http:/".toList, rfl⟩
    | https => exact ⟨"https:/".toList, rfl⟩
  have hcut : scheme.text ++ h.text ++ ("/images/".toList ++ after) =
      front ++ ("/images/".toList ++ ("images/".toList ++ after)) := by
    rw [hfront, himages, List.append_assoc, List.append_assoc]
    rfl
  have habs := isAbsolute_scheme scheme (h.text ++ ("/images/".toList ++ after))
  have hidx := indexOf_scheme scheme (h.text ++ ("/images/".toList ++ after))
  rw [← List.append_assoc, hcut] at habs hidx
  have hstart : "/images/".toList <+: '/' :: (h.text ++ ("/images/".toList ++ after)) :=
    (startsWith_authority_iff h ("images/".toList ++ after)).mpr himages
  rw [hcut]
  refine sitePath_of_indexOf siteName habs ?_
  rw [hidx, Text.indexOf_of_startsWith (by decide) hstart, Option.map_some, hfront]
  simp

end Absolute

/-! ## The three spellings -/

section Spellings

variable (imageHost : Text) (S : SiteName) (r : PicturePath)

/-- A text that ends in the picture's path and begins with no white space is
normalised as it is. -/
theorem normalizeImageUrl_path {u rest : Text} (hend : r.text <:+ u)
    (hhead : ∀ c ∈ u.head?, Text.isWhitespace c = false) (hpath : sitePath S.text u = some rest) :
    normalizeImageUrl (some u) imageHost S.text = some (buildImageBase imageHost S.text ++ rest) := by
  have hne : u ≠ [] := by
    intro hnil
    rw [hnil] at hend
    exact r.ne_nil (List.suffix_nil.mp hend)
  have htrim : u.trim = u := by
    refine Text.trim_eq_self.mpr ⟨hhead, fun c hc => r.clear.2 c ?_⟩
    obtain ⟨front, rfl⟩ := hend
    rwa [List.getLast?_append_of_ne_nil _ r.ne_nil] at hc
  rw [← htrim] at hne
  rw [normalizeImageUrl_eq hne, htrim, hpath]

theorem normalizeImageUrl_relative :
    normalizeImageUrl (some r.text) imageHost S.text =
      some (buildImageBase imageHost S.text ++ r.text) := by
  refine normalizeImageUrl_path imageHost S r (List.suffix_refl _) r.clear.1 ?_
  rw [sitePath, r.not_absolute, r.not_rooted, if_neg Bool.false_ne_true, if_neg Bool.false_ne_true]

theorem suffix_rootedPath (front : Text) : r.text <:+ front ++ rootedPath S r := by
  refine ⟨front ++ "/images/".toList ++ S.text ++ ['/'], ?_⟩
  rw [rootedPath_eq]
  simp only [List.append_assoc, List.singleton_append]

theorem sitePath_rooted : sitePath S.text (rootedPath S r) = some r.text := by
  have habs : isAbsolute (rootedPath S r) = false := rfl
  have hroot : Text.startsWith (rootedPath S r) "/images/".toList = true :=
    Text.startsWith_append _ _
  rw [sitePath, habs, if_neg Bool.false_ne_true, if_pos hroot, rootedPath_eq, Text.substring_append,
    stripSite_append]

theorem normalizeImageUrl_rooted :
    normalizeImageUrl (some (rootedPath S r)) imageHost S.text =
      some (buildImageBase imageHost S.text ++ r.text) := by
  refine normalizeImageUrl_path imageHost S r (suffix_rootedPath S r []) ?_ (sitePath_rooted S r)
  intro c hc
  obtain rfl : '/' = c := Option.some.inj hc
  decide

variable (scheme : Scheme) (h : Authority)

theorem normalizeImageUrl_absolute {rest : Text}
    (hpath : sitePath S.text (scheme.text ++ h.text ++ rootedPath S r) = some rest) :
    normalizeImageUrl (some (scheme.text ++ h.text ++ rootedPath S r)) imageHost S.text =
      some (buildImageBase imageHost S.text ++ rest) := by
  refine normalizeImageUrl_path imageHost S r (suffix_rootedPath S r _) ?_ hpath
  intro c hc
  obtain rfl : 'h' = c := by cases scheme <;> exact Option.some.inj hc
  decide

theorem normalizeImageUrl_absolute_iff :
    normalizeImageUrl (some (scheme.text ++ h.text ++ rootedPath S r)) imageHost S.text =
        some (buildImageBase imageHost S.text ++ r.text) ↔ h.text ≠ "images".toList := by
  by_cases himages : h.text = "images".toList
  · have hpath := sitePath_imagesHost S.text scheme (S.text ++ '/' :: r.text) himages
    rw [← rootedPath_eq] at hpath
    rw [normalizeImageUrl_absolute imageHost S r scheme h hpath]
    refine iff_of_false (fun heq => ?_) fun hne => hne himages
    have hrest := List.append_cancel_left (Option.some.inj heq)
    rw [← List.append_assoc] at hrest
    -- The directory would have to be seven characters longer than the site's name.
    have hlen := congrArg List.length (eq_of_stripSite_eq hrest)
    have h7 : "images/".toList.length = 7 := by decide
    rw [List.length_append] at hlen
    omega
  · have hpath := sitePath_absolute S.text scheme (S.text ++ '/' :: r.text) himages
    rw [← rootedPath_eq, stripSite_append] at hpath
    exact iff_of_true (normalizeImageUrl_absolute imageHost S r scheme h hpath) himages

end Spellings

/-- The three spellings are taken to the picture's address on the image host, in
the one directory named after the site. -/
def SamePlace (o : Origin) (S : SiteName) (r : PicturePath) (scheme : Scheme) (h : Authority) :
    Prop :=
  (∀ u ∈ spellings S r scheme h,
      normalizeImageUrl (some u) o.text S.text = some (buildImageBase o.text S.text ++ r.text)) ∧
    buildImageBase o.text S.text ++ r.text = o.bare ++ rootedPath S r

theorem samePlace_iff (o : Origin) (S : SiteName) (r : PicturePath) (scheme : Scheme)
    (h : Authority) : SamePlace o S r scheme h ↔ h.text ≠ "images".toList := by
  have hbase : buildImageBase o.text S.text ++ r.text = o.bare ++ rootedPath S r := by
    rw [buildImageBase_origin, rootedPath_eq]
    simp only [List.append_assoc, List.singleton_append]
  rw [← normalizeImageUrl_absolute_iff o.text S r scheme h]
  constructor
  · rintro ⟨hall, -⟩
    exact hall _ (by simp [spellings])
  · intro habs
    refine ⟨fun u hu => ?_, hbase⟩
    simp only [spellings, List.mem_cons, List.not_mem_nil, or_false] at hu
    rcases hu with rfl | rfl | rfl
    · exact normalizeImageUrl_relative o.text S r
    · exact normalizeImageUrl_rooted o.text S r
    · exact habs

def defaultOrigin : Origin :=
  { scheme := .http, authority := ⟨"35.182.97.114".toList, by decide, by decide⟩, slash := false }

def testSite : SiteName where
  text := "TEST_SITE".toList
  ne_nil := by decide
  clear := Text.trim_eq_self.mp (by decide)
  no_slash := (siteDirectory_eq_self_iff (Text.trim_eq_self.mp (by decide))).mp (by decide)

def testPicture : PicturePath where
  text := "CAM_001/a.jpg".toList
  ne_nil := by decide
  clear := Text.trim_eq_self.mp (by decide)
  not_absolute := by decide
  not_rooted := by decide

/-- On a host called `images` the directory is doubled. -/
theorem imagesHost_not_samePlace :
    normalizeImageUrl (some "http://images/images/TEST_SITE/CAM_001/a.jpg".toList)
        defaultOrigin.text "TEST_SITE".toList =
      some "http://35.182.97.114/images/TEST_SITE/images/TEST_SITE/CAM_001/a.jpg".toList ∧
    ¬ ∀ (o : Origin) (S : SiteName) (r : PicturePath) (scheme : Scheme) (h : Authority),
      SamePlace o S r scheme h := by
  have hdoubled : normalizeImageUrl (some "http://images/images/TEST_SITE/CAM_001/a.jpg".toList)
      defaultOrigin.text "TEST_SITE".toList =
      some "http://35.182.97.114/images/TEST_SITE/images/TEST_SITE/CAM_001/a.jpg".toList := by decide
  refine ⟨hdoubled, fun hall => ?_⟩
  have hsame := (hall defaultOrigin testSite testPicture .http
    ⟨"images".toList, by decide, by decide⟩).1 _ (List.mem_cons_of_mem _
      (List.mem_cons_of_mem _ List.mem_cons_self))
  exact absurd hsame (by decide)

/-! ## A second time -/

/-- What the function made under the directory is made of it again exactly when
the directory is named after the site. -/
theorem normalizeImageUrl_base_iff {siteName rest : Text} (hS : Text.EdgesClear siteName)
    (h : ∀ c ∈ rest.getLast?, Text.isWhitespace c = false) :
    normalizeImageUrl (some (buildImageBase kDefaultImageHost siteName ++ rest)) kDefaultImageHost
        siteName = some (buildImageBase kDefaultImageHost siteName ++ rest) ↔
      NoEdgeSlash siteName := by
  have htrim := trim_base_append siteName h
  have hne : Text.trim (buildImageBase kDefaultImageHost siteName ++ rest) ≠ [] := by
    rw [htrim, base_append]
    exact List.cons_ne_nil _ _
  rw [normalizeImageUrl_eq hne, htrim, sitePath_base_append, ← siteDirectory_eq_self_iff hS]
  show some _ = some _ ↔ _
  rw [Option.some.injEq, List.append_right_inj]
  constructor
  · exact eq_of_stripSite_eq
  · intro hdir
    rw [hdir, stripSite_append]

/-- A result of the function is a result it leaves alone. -/
def NormalizedAgain (siteName : Text) (raw : Option Text) : Prop :=
  ∀ v, normalizeImageUrl raw kDefaultImageHost siteName = some v →
    normalizeImageUrl (some v) kDefaultImageHost siteName = some v

theorem normalizedAgain_iff (K : Casing) (site : Text) (raw : Option Text) :
    NormalizedAgain (LoginPage.siteNameOf K site) raw ↔
      ∀ r, raw = some r → r.trim ≠ [] →
        Elsewhere r.trim ∨ NoEdgeSlash (LoginPage.siteNameOf K site) := by
  have hclear := (LoginPage.siteNameOf_loginSite K site).clear
  generalize LoginPage.siteNameOf K site = siteName at hclear ⊢
  cases raw with
  | none => exact ⟨fun _ r hr => (by cases hr), fun _ v hv => (by cases hv)⟩
  | some r =>
    have hcond : (∀ r', some r = some r' → r'.trim ≠ [] → Elsewhere r'.trim ∨ NoEdgeSlash siteName) ↔
        (r.trim ≠ [] → Elsewhere r.trim ∨ NoEdgeSlash siteName) := by
      simp only [Option.some.injEq, forall_eq']
    rw [hcond, NormalizedAgain]
    by_cases hnil : r.trim = []
    · rw [normalizeImageUrl_of_trim_nil hnil]
      exact ⟨fun _ hne => absurd hnil hne, fun _ v hv => (by cases hv)⟩
    · rw [normalizeImageUrl_eq hnil]
      cases hpath : sitePath siteName r.trim with
      | none =>
        refine iff_of_true (fun v hv => ?_) fun _ => Or.inl (sitePath_eq_none_iff.mp hpath)
        obtain rfl := Option.some.inj hv
        rw [normalizeImageUrl_eq (by rwa [Text.trim_trim]), Text.trim_trim, hpath]
      | some rest =>
        have hunder : ¬ Elsewhere r.trim := fun h => by
          rw [sitePath_eq_none_iff.mpr h] at hpath
          cases hpath
        have hbase := normalizeImageUrl_base_iff hclear (sitePath_getLast hpath)
        constructor
        · exact fun h _ => Or.inr (hbase.mp (h _ rfl))
        · intro h v hv
          obtain rfl := Option.some.inj hv
          exact hbase.mpr ((h hnil).resolve_left hunder)

/-- A slash in front of the site is not in the directory's name. -/
theorem slashedSite_not_normalizedAgain :
    ¬ ∀ (K : Casing) (site : Text) (raw : Option Text),
      NormalizedAgain (LoginPage.siteNameOf K site) raw := by
  intro hall
  have hagain := hall .ascii "/site".toList (some "CAM_001/a.jpg".toList)
    "http://35.182.97.114/images/SITE/CAM_001/a.jpg".toList (by decide)
  exact absurd hagain (by decide)

end SurveilOne
