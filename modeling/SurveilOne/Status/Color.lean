import Mathlib.Data.List.MinMax
import SurveilOne.Service

/-!
# The colour of a product

The two pages that show a product's status each reduce the rows the server
returned to one colour.  `product_status_page.dart` scans the rows for the flags
2 and 1.  `my_products_page.dart` takes the flag that `getProductStatus` worked
out, the maximum over the rows, and maps that one integer.

A flag above 2 is the maximum and maps to green, so the two agree, and agree
with the severity of the rows, exactly when no such flag stands beside a 1 or a
2.
-/

namespace SurveilOne

open Dart

inductive StatusColor where
  | green
  | yellow
  | red
  deriving DecidableEq, Repr

namespace StatusColor

/-- The name used in asset paths. -/
def name : StatusColor → Text
  | green => "green".toList
  | yellow => "yellow".toList
  | red => "red".toList

def severity : StatusColor → Nat
  | green => 0
  | yellow => 1
  | red => 2

/-- The colour a list of flags stands for: the worst of the flags that mean
anything. -/
def ofFlags (flags : List Int) : StatusColor :=
  if 2 ∈ flags then red else if 1 ∈ flags then yellow else green

theorem severity_ofFlags_append (flags : List Int) (flag : Int) :
    (ofFlags flags).severity ≤ (ofFlags (flags ++ [flag])).severity := by
  by_cases h2 : 2 ∈ flags
  · have h2' : 2 ∈ flags ++ [flag] := List.mem_append_left _ h2
    simp [ofFlags, h2, h2']
  · by_cases h1 : 1 ∈ flags
    · have h1' : 1 ∈ flags ++ [flag] := List.mem_append_left _ h1
      by_cases h2' : 2 ∈ flags ++ [flag]
      · simp [ofFlags, h2, h1, h2', severity]
      · simp [ofFlags, h2, h1, h2', h1']
    · simp [ofFlags, h2, h1, severity]

theorem severity_ofFlags_pos {flags : List Int} {flag : Int} (hmem : flag ∈ flags)
    (h : flag = 1 ∨ flag = 2) : 0 < (ofFlags flags).severity := by
  rw [ofFlags]
  by_cases h2 : 2 ∈ flags
  · rw [if_pos h2]
    decide
  · have h1 : 1 ∈ flags := by
      rcases h with rfl | rfl
      · exact hmem
      · exact absurd hmem h2
    rw [if_neg h2, if_pos h1]
    decide

theorem ofFlags_eq_green {flags : List Int} (h : ∀ flag ∈ flags, ¬ (flag = 1 ∨ flag = 2)) :
    ofFlags flags = green := by
  rw [ofFlags, if_neg fun h2 => h 2 h2 (Or.inr rfl), if_neg fun h1 => h 1 h1 (Or.inl rfl)]

end StatusColor

/-- The flag of a row, read as both pages and the service read it. -/
def flagOf (row : Fields) : Int := (row.get "product_status_flag").intOrZero

namespace ProductStatusPage

/-- `_asInt`. -/
def asInt (v : Json) (fallback : Int) : Int :=
  match v with
  | .int i => i
  | v => (intTryParse v.toText).getD fallback

/-- The loop of `_getStatusColor`. -/
def getStatusColorLoop : Bool → List Fields → StatusColor
  | hasYellow, [] => if hasYellow then .yellow else .green
  | hasYellow, status :: rest =>
    let flag := asInt (status.get "product_status_flag") 0
    if flag = 2 then .red else getStatusColorLoop (hasYellow || flag = 1) rest

/-- `_getStatusColor`. -/
def getStatusColor (statuses : List Fields) : StatusColor := getStatusColorLoop false statuses

theorem asInt_zero (v : Json) : asInt v 0 = v.intOrZero := by
  cases v <;> rfl

theorem getStatusColorLoop_eq (hasYellow : Bool) (rows : List Fields) :
    getStatusColorLoop hasYellow rows =
      if 2 ∈ rows.map flagOf then .red
      else if hasYellow = true ∨ 1 ∈ rows.map flagOf then .yellow else .green := by
  induction rows generalizing hasYellow with
  | nil => simp [getStatusColorLoop]
  | cons row rest ih =>
    have hflag : asInt (row.get "product_status_flag") 0 = flagOf row := asInt_zero _
    rw [getStatusColorLoop, hflag, ih, List.map_cons]
    by_cases h2 : flagOf row = 2
    · simp [h2]
    · have h2' : ¬ 2 = flagOf row := fun h => h2 h.symm
      have h1 : (1 = flagOf row) ↔ flagOf row = 1 := eq_comm
      simp [h2, h2', h1, or_assoc]

theorem getStatusColor_eq (rows : List Fields) :
    getStatusColor rows = .ofFlags (rows.map flagOf) := by
  rw [getStatusColor, getStatusColorLoop_eq]
  simp [StatusColor.ofFlags]

end ProductStatusPage

/-! ## The maximum of the flags -/

namespace GraphQLService

theorem worstFlag_eq_max (first : Int) (rest : List Int) :
    worstFlag first rest = rest.foldl max first := by
  have hstep : (fun a b : Int => if a > b then a else b) = max := by
    funext a b
    rcases lt_or_ge b a with h | h
    · rw [if_pos h, max_eq_left (le_of_lt h)]
    · rw [if_neg (not_lt.mpr h), max_eq_right h]
  rw [worstFlag, hstep]

theorem worstFlag_mem (first : Int) (rest : List Int) : worstFlag first rest ∈ first :: rest := by
  rw [worstFlag_eq_max]
  induction rest generalizing first with
  | nil => simp
  | cons x rest ih =>
    rw [List.foldl_cons]
    rcases List.mem_cons.mp (ih (max first x)) with h | h
    · rw [h]
      rcases max_choice first x with hm | hm <;> simp [hm]
    · exact List.mem_cons_of_mem _ (List.mem_cons_of_mem _ h)

theorem le_worstFlag (first : Int) (rest : List Int) :
    ∀ x ∈ first :: rest, x ≤ worstFlag first rest := by
  rw [worstFlag_eq_max]
  induction rest generalizing first with
  | nil => simp
  | cons y rest ih =>
    intro x hx
    have hhead := ih (max first y) (max first y) (List.mem_cons_self ..)
    rw [List.foldl_cons]
    rcases List.mem_cons.mp hx with rfl | hx
    · exact le_trans (le_max_left _ _) hhead
    · rcases List.mem_cons.mp hx with rfl | hx
      · exact le_trans (le_max_right _ _) hhead
      · exact ih (max first y) x (List.mem_cons_of_mem _ hx)

theorem rowFlags_maps (rows : List Fields) :
    rowFlags (rows.map .map) = .ok (rows.map flagOf) := by
  induction rows with
  | nil => rfl
  | cons row rest ih => simp [rowFlags, ih, Json.index, flagOf, bind, Except.bind]

/-- What `getProductStatus` keeps of a row. -/
def keptRow (row : Fields) : Fields :=
  [("product_status_name".toList, row.get "product_status_name"),
    ("product_status_value".toList, row.get "product_status_value"),
    ("product_status_flag".toList, row.get "product_status_flag")]

theorem statusRows_maps (rows : List Fields) :
    statusRows (rows.map .map) = .ok (rows.map keptRow) := by
  induction rows with
  | nil => rfl
  | cons row rest ih => simp [statusRows, statusRow, ih, Json.index, keptRow, bind, Except.bind]

/-- The response for a non-empty list of row objects. -/
def responseOf (first : Fields) (rest : List Fields) : Fields :=
  [("product_status_flag".toList, .int (worstFlag (flagOf first) (rest.map flagOf))),
    ("statuses".toList, .list (((first :: rest).map keptRow).map .map))]

theorem statusResponse_maps (first : Fields) (rest : List Fields) :
    statusResponse ((first :: rest).map .map) = .ok (some (responseOf first rest)) := by
  rw [statusResponse, rowFlags_maps, statusRows_maps]
  rfl

end GraphQLService

/-! ## The colour my_products_page.dart shows -/

namespace MyProductsPage

/-- `_colorFor`. -/
def colorFor (flag : Option Int) : StatusColor :=
  match flag with
  | some 1 => .yellow
  | some 2 => .red
  | _ => .green

/-- The flag `_fetchStatus` takes out of a response. -/
def resolvedFlag (resp : Fields) : Int := (resp.get "product_status_flag").intOrZero

/-- The colour shown for the rows that `_post` has found in a response, `none` where
reading them reports a failure.  What `_post` itself throws comes before. -/
def shownColor (rows : List Fields) : Option StatusColor :=
  match GraphQLService.statusResponse (rows.map .map) with
  | .ok (some resp) => some (colorFor (some (resolvedFlag resp)))
  | _ => none

theorem shownColor_cons (first : Fields) (rest : List Fields) :
    shownColor (first :: rest) =
      some (colorFor (some (GraphQLService.worstFlag (flagOf first) (rest.map flagOf)))) := by
  rw [shownColor, GraphQLService.statusResponse_maps]
  rfl

theorem colorFor_some (flag : Int) :
    colorFor (some flag) = if flag = 2 then .red else if flag = 1 then .yellow else .green := by
  unfold colorFor
  split
  · rename_i h; cases h; rfl
  · rename_i h; cases h; rfl
  · rename_i h1 h2
    have h1' : flag ≠ 1 := fun h => h1 (by rw [h])
    have h2' : flag ≠ 2 := fun h => h2 (by rw [h])
    rw [if_neg h2', if_neg h1']

/-- Mapping the maximum gives the colour of the flags unless a flag above 2
hides a flag that means something. -/
theorem colorFor_worstFlag_iff (first : Int) (rest : List Int) :
    colorFor (some (GraphQLService.worstFlag first rest)) = .ofFlags (first :: rest) ↔
      ((∃ f ∈ first :: rest, f = 1 ∨ f = 2) → ∀ f ∈ first :: rest, f ≤ 2) := by
  have hmem := GraphQLService.worstFlag_mem first rest
  have hle := GraphQLService.le_worstFlag first rest
  generalize GraphQLService.worstFlag first rest = worst at hmem hle
  generalize first :: rest = flags at hmem hle
  rw [colorFor_some, StatusColor.ofFlags]
  constructor
  · rintro h ⟨f, hf, hf12⟩ g hg
    have hfw := hle f hf
    by_cases hw : worst ≤ 2
    · exact le_trans (hle g hg) hw
    · -- The maximum shows as green, although a 1 or a 2 is present.
      rw [if_neg (by omega), if_neg (by omega)] at h
      rcases hf12 with rfl | rfl
      · by_cases h2 : 2 ∈ flags <;> simp [h2, hf] at h
      · simp [hf] at h
  · intro h
    by_cases h2 : 2 ∈ flags
    · have hw : worst = 2 := le_antisymm (h ⟨2, h2, Or.inr rfl⟩ worst hmem) (hle 2 h2)
      rw [if_pos hw, if_pos h2]
    · have hw2 : worst ≠ 2 := fun hw => h2 (hw ▸ hmem)
      rw [if_neg hw2, if_neg h2]
      by_cases h1 : 1 ∈ flags
      · have hwle := h ⟨1, h1, Or.inl rfl⟩ worst hmem
        have h1le := hle 1 h1
        rw [if_pos (by omega : worst = 1), if_pos h1]
      · have hw1 : worst ≠ 1 := fun hw => h1 (hw ▸ hmem)
        rw [if_neg hw1, if_neg h1]

theorem shownColor_eq_ofFlags_iff (first : Fields) (rest : List Fields) :
    shownColor (first :: rest) = some (.ofFlags ((first :: rest).map flagOf)) ↔
      ((∃ r ∈ first :: rest, flagOf r = 1 ∨ flagOf r = 2) →
        ∀ r ∈ first :: rest, flagOf r ≤ 2) := by
  rw [shownColor_cons, Option.some.injEq, List.map_cons, colorFor_worstFlag_iff,
    ← List.map_cons]
  simp only [List.mem_map, exists_exists_and_eq_and, forall_exists_index, and_imp,
    forall_apply_eq_imp_iff₂]

/-- A flag above 2 at the end turns the colour to green. -/
theorem shownColor_last_large (first : Fields) (rest : List Fields) {row : Fields}
    (h : 2 < flagOf row) : shownColor (first :: rest ++ [row]) = some .green := by
  rw [List.cons_append, shownColor_cons, colorFor_some]
  have hlast := GraphQLService.le_worstFlag (flagOf first) ((rest ++ [row]).map flagOf)
    (flagOf row) (by simp)
  rw [if_neg (by omega), if_neg (by omega)]

/-- A row is added to the end of the list without the colour growing less
severe. -/
def GrowsWith (rows : List Fields) (row : Fields) : Prop :=
  ∀ c c', shownColor rows = some c → shownColor (rows ++ [row]) = some c' →
    c.severity ≤ c'.severity

/-- The colour shown is that of the worst row, agrees with the other page's
scan and survives one more row, exactly when no flag above 2 is met together
with a flag 1 or 2. -/
theorem shownColor_correct_iff (first : Fields) (rest : List Fields) (row : Fields) :
    (shownColor (first :: rest) = some (.ofFlags ((first :: rest).map flagOf)) ∧
      shownColor (first :: rest) = some (ProductStatusPage.getStatusColor (first :: rest)) ∧
      GrowsWith (first :: rest) row) ↔
    ((∃ r ∈ first :: rest, flagOf r = 1 ∨ flagOf r = 2) →
      ∀ r ∈ first :: rest ++ [row], flagOf r ≤ 2) := by
  have hrows := shownColor_eq_ofFlags_iff first rest
  have hall := shownColor_eq_ofFlags_iff first (rest ++ [row])
  rw [← List.cons_append, List.map_append] at hall
  rw [ProductStatusPage.getStatusColor_eq]
  constructor
  · rintro ⟨hshown, -, hgrow⟩ hmeant r hr
    have hle := hrows.mp hshown hmeant
    rcases List.mem_append.mp hr with hr | hr
    · exact hle r hr
    · obtain rfl : r = row := List.mem_singleton.mp hr
      by_contra hgt
      have hsev := hgrow _ _ hshown (shownColor_last_large first rest (by omega))
      obtain ⟨m, hm, hm12⟩ := hmeant
      have hpos := StatusColor.severity_ofFlags_pos (List.mem_map_of_mem hm) hm12
      exact absurd hsev (Nat.not_le.mpr hpos)
  · intro h
    have hshown : shownColor (first :: rest) = some (.ofFlags ((first :: rest).map flagOf)) :=
      hrows.mpr fun hm r hr => h hm r (List.mem_append_left _ hr)
    refine ⟨hshown, hshown, ?_⟩
    intro c c' hc hc'
    obtain rfl := Option.some.inj (hshown.symm.trans hc)
    by_cases hm : ∃ r ∈ first :: rest, flagOf r = 1 ∨ flagOf r = 2
    · obtain rfl := Option.some.inj ((hall.mpr fun _ => h hm).symm.trans hc')
      exact StatusColor.severity_ofFlags_append _ _
    · -- Without a 1 or a 2 the rows show green, below which nothing lies.
      have hgreen : StatusColor.ofFlags ((first :: rest).map flagOf) = .green :=
        StatusColor.ofFlags_eq_green fun flag hflag hf => by
          obtain ⟨r, hr, rfl⟩ := List.mem_map.mp hflag
          exact hm ⟨r, hr, hf⟩
      rw [hgreen]
      exact Nat.zero_le _

/-- A row with the given flag. -/
def flagRow (flag : Int) : Fields := [("product_status_flag".toList, .int flag)]

/-- A 3 beside a 2 is shown green, and turns a red product green when it
arrives. -/
theorem shownColor_hides_red :
    ¬ ∀ (first : Fields) (rest : List Fields) (row : Fields),
      shownColor (first :: rest) = some (.ofFlags ((first :: rest).map flagOf)) ∧
      shownColor (first :: rest) = some (ProductStatusPage.getStatusColor (first :: rest)) ∧
      GrowsWith (first :: rest) row := by
  intro h
  have hcolor := (h (flagRow 2) [flagRow 3] (flagRow 0)).1
  have hgreen : shownColor [flagRow 2, flagRow 3] = some .green := rfl
  rw [hgreen] at hcolor
  exact absurd hcolor (by decide)

end MyProductsPage

end SurveilOne
