import SurveilOne.Status.Disposed

/-!
# What a status page draws

A page draws a picture of the selected product in the colour of its status, and a dot
of that colour where the picture cannot be loaded.  The page of
`product_status_page.dart` takes the picture from the rows and the dot from the flag,
and gives each row a dot of its own.  The page of `my_products_page.dart` takes the
picture from the flag and reads the dot off the picture's path.

So each page works out its colour twice, and here is that the two never differ.
-/

namespace SurveilOne

open Dart Flutter

/-- The colours the pages draw dots in. -/
inductive Dot where
  | green
  | amber
  | orange
  | red
  | white70
  deriving DecidableEq, Repr

/-- `String.toLowerCase`, with what is relied on of it. -/
structure LowerCasing where
  lower : Text → Text
  /-- A word of small ASCII letters stays as it is, and so does an underscore after it. -/
  lower_word : ∀ word rest : Text, (∀ c ∈ word, Text.isAsciiLower c = true) →
    word ++ ['_'] <+: lower (word ++ '_' :: rest)
  no_slash : ∀ s, '/' ∉ s → '/' ∉ lower s

/-- `_shortFor`, which both files have. -/
def shortFor (L : LowerCasing) (code : Text) : Text :=
  ([("IND_SUR".toList, "ind".toList), ("OUT_SUR".toList, "out".toList),
    ("PHA_GOV".toList, "phar".toList), ("TIM_TRA".toList, "tim".toList)].lookup code).getD
    (L.lower code)

/-- `_assetFor`. -/
def assetFor (L : LowerCasing) (code : Text) (color : StatusColor) : Text :=
  "assets/images/products/".toList ++ code ++
    '/' :: (color.name ++ '_' :: (shortFor L code ++ ".png".toList))

namespace ProductStatusPage

/-- `_dotColorFromFlag`. -/
def dotColorFromFlag (flag : Option Int) : Dot :=
  if flag = some 2 then .red else if flag = some 1 then .amber else .green

/-- The dot beside a row. -/
def rowDot (item : Fields) : Dot := dotColorFromFlag (some (asInt (item.get "product_status_flag") 0))

end ProductStatusPage

namespace MyProductsPage

/-- `_dotColorFromAssetPath`. -/
def dotColorFromAssetPath (L : LowerCasing) (path : Text) : Dot :=
  let start := ((Text.split (L.lower (Text.lastPiece path ['/'])) ['_']).head?).getD []
  if start = "green".toList then .green
  else if start = "yellow".toList ∨ start = "amber".toList then .orange
  else if start = "red".toList then .red else .white70

end MyProductsPage

namespace StatusFile

/-- The colour of the picture. -/
def pictureColor : StatusFile → StatusFields → StatusColor
  | productStatus, s => ProductStatusPage.getStatusColor s.statuses
  | myProducts, s => MyProductsPage.colorFor s.productStatusFlag

/-- The path of the picture. -/
def assetPath (L : LowerCasing) (f : StatusFile) (s : StatusFields) : Text :=
  assetFor L s.selectedCode (f.pictureColor s)

/-- The dot in place of the picture. -/
def fallbackDot (L : LowerCasing) : StatusFile → StatusFields → Dot
  | productStatus, s => ProductStatusPage.dotColorFromFlag s.productStatusFlag
  | myProducts, s => MyProductsPage.dotColorFromAssetPath L (myProducts.assetPath L s)

/-- The dot each file draws for a colour. -/
def dotOf : StatusFile → StatusColor → Dot
  | _, .green => .green
  | productStatus, .yellow => .amber
  | myProducts, .yellow => .orange
  | _, .red => .red

end StatusFile

def Dot.severity : Dot → Nat
  | .green => 0
  | .amber => 1
  | .orange => 1
  | .red => 2
  | .white70 => 0

/-! ## Reading the colour off the path -/

namespace MyProductsPage

theorem shortFor_no_slash (L : LowerCasing) {code : Text} (h : '/' ∉ code) :
    '/' ∉ shortFor L code := by
  rw [shortFor]
  cases hlookup : List.lookup code _ with
  | none => exact L.no_slash code h
  | some short =>
    obtain ⟨pre, post, hsplit, -⟩ := List.lookup_eq_some_iff.mp hlookup
    have hmem : (code, short) ∈ [("IND_SUR".toList, "ind".toList),
        ("OUT_SUR".toList, "out".toList), ("PHA_GOV".toList, "phar".toList),
        ("TIM_TRA".toList, "tim".toList)] := by
      rw [hsplit]
      simp
    simp only [List.mem_cons, Prod.mk.injEq, List.not_mem_nil, or_false] at hmem
    rw [Option.getD_some]
    rcases hmem with ⟨-, rfl⟩ | ⟨-, rfl⟩ | ⟨-, rfl⟩ | ⟨-, rfl⟩ <;> decide

theorem color_name_lower (color : StatusColor) :
    ∀ c ∈ color.name, Text.isAsciiLower c = true := by
  cases color <;> exact Text.forall_mem_of_all (by decide)

/-- The file name of the picture starts with its colour. -/
theorem dotColorFromAssetPath_assetFor (L : LowerCasing) {code : Text} (h : '/' ∉ code)
    (color : StatusColor) :
    dotColorFromAssetPath L (assetFor L code color) = StatusFile.myProducts.dotOf color := by
  have hfile : '/' ∉ color.name ++ '_' :: (shortFor L code ++ ".png".toList) := by
    have hname : '/' ∉ color.name := by cases color <;> decide
    simp only [List.mem_append, List.mem_cons, not_or]
    exact ⟨hname, by decide, shortFor_no_slash L h, by decide⟩
  have hlast : Text.lastPiece (assetFor L code color) ['/'] = _ :=
    Text.lastPiece_append_cons hfile _
  obtain ⟨rest, hrest⟩ := L.lower_word color.name (shortFor L code ++ ".png".toList)
    (color_name_lower color)
  have hunder : '_' ∉ color.name := by cases color <;> decide
  have hstart : ((Text.split (L.lower (Text.lastPiece (assetFor L code color) ['/']))
      ['_']).head?).getD [] = color.name := by
    rw [hlast, ← hrest, List.append_assoc, List.singleton_append,
      Text.split_head_append_cons hunder]
    rfl
  simp only [dotColorFromAssetPath, hstart]
  cases color <;> rfl

end MyProductsPage

/-! ## The worst of the dots -/

theorem StatusColor.severity_ofFlags_cons (flag : Int) (flags : List Int) :
    (ofFlags (flag :: flags)).severity =
      max (ofFlags [flag]).severity (ofFlags flags).severity := by
  have hle : (ofFlags flags).severity ≤ 2 := by
    cases ofFlags flags <;> decide
  by_cases h2 : flag = 2
  · subst h2
    have hred : ofFlags (2 :: flags) = red := if_pos List.mem_cons_self
    rw [hred]
    exact (max_eq_left hle).symm
  · by_cases hflags : 2 ∈ flags
    · have hred : ofFlags flags = red := if_pos hflags
      have hred' : ofFlags (flag :: flags) = red := if_pos (List.mem_cons_of_mem _ hflags)
      have hsmall : (ofFlags [flag]).severity ≤ 2 := by
        cases ofFlags [flag] <;> decide
      rw [hred, hred']
      exact (max_eq_right hsmall).symm
    · have h2' : ¬ 2 = flag := fun h => h2 h.symm
      by_cases h1 : flag = 1
      · by_cases h1' : 1 ∈ flags <;> simp [ofFlags, h1, hflags, h1', severity]
      · have h1' : ¬ 1 = flag := fun h => h1 h.symm
        simp [ofFlags, h2', h1', hflags, severity]

namespace ProductStatusPage

theorem dotColorFromFlag_flagOfColor (color : StatusColor) :
    dotColorFromFlag (some (flagOfColor color)) = StatusFile.productStatus.dotOf color := by
  cases color <;> rfl

theorem rowDot_severity (item : Fields) :
    (rowDot item).severity = (StatusColor.ofFlags [flagOf item]).severity := by
  have hflag : asInt (item.get "product_status_flag") 0 = flagOf item := asInt_zero _
  rw [rowDot, hflag]
  generalize flagOf item = flag
  have h2' : 2 = flag ↔ flag = 2 := eq_comm
  have h1' : 1 = flag ↔ flag = 1 := eq_comm
  simp only [dotColorFromFlag, StatusColor.ofFlags, Option.some.injEq, List.mem_singleton, h2', h1']
  split
  · rfl
  · split <;> rfl

/-- The picture is as bad as the worst dot beside a row. -/
theorem getStatusColor_severity (rows : List Fields) :
    (getStatusColor rows).severity = (rows.map fun row => (rowDot row).severity).foldr max 0 := by
  rw [getStatusColor_eq]
  induction rows with
  | nil => rfl
  | cons row rest ih =>
    rw [List.map_cons, List.map_cons, List.foldr_cons, ← ih, rowDot_severity,
      StatusColor.severity_ofFlags_cons]

end ProductStatusPage

/-! ## In every state of a page -/

/-- What is drawn fits together.  The dot in place of the picture has its colour.  In
`product_status_page.dart` the picture moreover has the colour of the worst dot beside
a row; in `my_products_page.dart` the product code must have no slash, for it is part
of the path the dot is read off. -/
def StatusFile.WellDrawn (L : LowerCasing) : StatusFile → StatusFields → Prop
  | productStatus, s =>
    productStatus.fallbackDot L s = productStatus.dotOf (productStatus.pictureColor s) ∧
      (productStatus.pictureColor s).severity =
        (s.statuses.map fun row => (ProductStatusPage.rowDot row).severity).foldr max 0
  | myProducts, s => '/' ∉ s.selectedCode →
    myProducts.fallbackDot L s = myProducts.dotOf (myProducts.pictureColor s)

/-- The flag on the page is that of the colour of its rows. -/
def ProductStatusPage.FlagFits (s : StatusFields) : Prop :=
  s.productStatusFlag = none ∧ s.statuses = [] ∨
    s.productStatusFlag = some (flagOfColor (getStatusColor s.statuses))

theorem ProductStatusPage.FlagFits.dot {s : StatusFields} (h : FlagFits s) :
    dotColorFromFlag s.productStatusFlag =
      StatusFile.productStatus.dotOf (getStatusColor s.statuses) := by
  rcases h with ⟨hflag, hrows⟩ | hflag
  · rw [hflag, hrows]
    rfl
  · rw [hflag]
    exact dotColorFromFlag_flagOfColor _

theorem ProductStatusPage.FlagFits.kept {s s' : StatusFields} (h : FlagFits s) (hk : s.Kept s') :
    FlagFits s' := by
  obtain ⟨codes, error, rfl⟩ := hk
  exact h

theorem ProductStatusPage.FlagFits.move {s t : StatusLive} {e : StatusEvent}
    (h : FlagFits s.frame.fields) (hmove : StatusMove .productStatus s e t) :
    FlagFits t.frame.fields := by
  cases hmove with
  | fetch e base fields chained hbase =>
    rw [Live.settle_frame]
    exact Or.inl ⟨rfl, rfl⟩
  | toggle => exact h
  | noProducts i r codes message hop hf => cases hf
  | status i r code chained hi hop =>
    rw [Live.settle_frame]
    cases hr : r.map GraphQLService.getProductStatus with
    | ok rawResp =>
      rw [StatusFile.outcome, hr]
      exact Or.inr rfl
    | error thrown =>
      rw [StatusFile.outcome, hr]
      exact h
  | asset i loaded op ops hop hreq hops =>
    rw [Live.settle_frame]
    exact h
  | dispose => exact h

theorem ProductStatusPage.flagFits_step {productCode : Text} {s t : StatusLive} {e : StatusEvent}
    (hs : FlagFits s.frame.fields) (h : (productStatusPage productCode).step s e = some t) :
    FlagFits t.frame.fields := by
  cases hm : s.frame.mounted with
  | true => exact hs.move (StatusFile.move_of_step (f := .productStatus) hm h)
  | false => exact hs.kept (StatusFile.step_late (f := .productStatus) hm h)

/-- In every state of every run of either page what is drawn fits together. -/
theorem StatusFile.wellDrawn_throughout (L : LowerCasing) (f : StatusFile) (productCode : Text)
    (es : List StatusEvent) :
    Runs.Throughout (f.page productCode).step (fun s => f.WellDrawn L s.frame.fields)
      (f.page productCode).opened es := by
  cases f with
  | productStatus =>
    exact Runs.throughout_of_step (I := fun s : StatusLive => ProductStatusPage.FlagFits s.frame.fields)
      (fun _ _ _ => ProductStatusPage.flagFits_step)
      (fun s hs => ⟨hs.dot, ProductStatusPage.getStatusColor_severity s.frame.fields.statuses⟩)
      (Or.inl ⟨rfl, rfl⟩) es
  | myProducts =>
    exact Runs.throughout_of_step (I := fun _ => True) (fun _ _ _ _ _ => trivial)
      (fun s _ hcode => MyProductsPage.dotColorFromAssetPath_assetFor L hcode _) trivial es

end SurveilOne
