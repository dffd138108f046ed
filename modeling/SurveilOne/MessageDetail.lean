import SurveilOne.Picture

/-!
# The detail page

`MessageDetailPage` shows one row of the list it was given and pages through the
list by arrows and by horizontal drags.  It has nothing asynchronous.  The list is
not its own: the alerts page sorts it in place, so each tap is given the list as it
is then.

`whatWeSee` and `metadataRows` are what the page shows of a row below its title and
its picture.  `metadataRows_eq_iff` says which alerts the metadata tell apart.
-/

namespace SurveilOne

open Dart Flutter Flutter.Handler

inductive DetailTap where
  | next
  | previous
  /-- The end of a horizontal drag, with its velocity where there is one. -/
  | dragEnd (primaryVelocity : Option Rat)

abbrev DetailLive := Live Nat Empty Empty

abbrev DetailEvent := Event Empty DetailTap

/-- The chips of the page, or the text in their place. -/
inductive WhatWeSee where
  | chips (items : List Text)
  | text (s : Text)
  deriving DecidableEq, Repr

namespace MessageDetailPage

/-! ## Paging -/

/-- `currentIndex < widget.alerts.length - 1`. -/
def hasNext (alerts : List AlertRow) (currentIndex : Nat) : Bool :=
  (currentIndex : Int) < (alerts.length : Int) - 1

def goNext (alerts : List AlertRow) : Handler Nat Unit := do
  let currentIndex ← getFields
  if hasNext alerts currentIndex then setState fun i => i + 1

def goPrevious : Handler Nat Unit := do
  let currentIndex ← getFields
  if 0 < currentIndex then setState fun i => i - 1

/-- `onHorizontalDragEnd`. -/
def dragEnd (alerts : List AlertRow) (primaryVelocity : Option Rat) : Handler Nat Unit := do
  let v := primaryVelocity.getD 0
  let currentIndex ← getFields
  (if v < -200 && hasNext alerts currentIndex then goNext alerts else pure ())
  let currentIndex ← getFields
  if v > 200 && decide (0 < currentIndex) then goPrevious else pure ()

/-- `_alert`, `none` where the index is out of range and Dart throws. -/
def alert (alerts : List AlertRow) (currentIndex : Nat) : Option AlertRow := alerts[currentIndex]?

/-! ## What is shown of a row -/

/-- `toStrList`. -/
def toStrList : Json → Option (List Text)
  | .list l => some ((l.map fun e => (e.toText?).getD []).filter fun s => !s.isEmpty)
  | _ => none

/-- `s[0].toUpperCase() + s.substring(1)` on a text that is not empty.  Index 0 is a
code unit, so a first character beyond the basic plane stays. -/
def capitalised (K : Casing) : Text → Text
  | [] => []
  | c :: s => (if c.toNat < 0x10000 then K.upper [c] else [c]) ++ s

/-- The items of `_whatWeSee`. -/
def items (a : Fields) : List Text :=
  ((toStrList (a.get "objects")).or (toStrList (a.get "labels"))).getD []

/-- The text of `_whatWeSee`. -/
def pretty (a : Fields) : Text :=
  let raw := ((Fields.firstOf a ["alert_message", "preview", "alert_message_code", "description"]).ifNull
    (.string [])).toText
  Text.trim (raw.map fun c => if c = '_' then ' ' else c)

/-- `_whatWeSee`. -/
def whatWeSee (K : Casing) (a : Fields) : WhatWeSee :=
  if items a ≠ [] then .chips (items a)
  else if pretty a = [] then .text "No additional details provided.".toList
  else .text (capitalised K (pretty a))

/-- A label of `_metadataRows` with the fields it is looked up under. -/
def metadataKeys : List (String × List String) :=
  [("camera", ["camera", "source_camera", "cam"]), ("location", ["location", "site_location"]),
    ("severity", ["severity", "level"]), ("zone", ["zone", "area"]),
    ("category", ["category", "type"]), ("code", ["code", "alert_code"])]

/-- `(a['camera'] ?? a['source_camera'] ?? a['cam'])?.toString() ?? ''` for any fields. -/
def metadataText (a : Fields) (keys : List String) : Text :=
  ((Fields.firstOf a keys).toText?).getD []

/-- `_metadataRows`: the label in upper case and the text of each row. -/
def metadataRows (K : Casing) (a : Fields) : List (Text × Text) :=
  (metadataKeys.map fun p => (p.1.toList, metadataText a p.2)).filterMap
    fun p => if p.2.trim.isEmpty then none else some (K.upper p.1, p.2)

/-- `(a['title'] ?? 'Alert').toString()`. -/
def title (a : Fields) : Text := ((a.get "title").ifNull (.string "Alert".toList)).toText

/-- The picture is there, and with it the button that opens it in full screen. -/
def showsPicture (U : UriSyntax) (siteName : Text) (a : Fields) : Bool :=
  match imageUrl U kDefaultImageHost siteName a with
  | some img => !img.isEmpty
  | none => false

end MessageDetailPage

open MessageDetailPage

/-- The page on a list, opened at an index.  The arrows are enabled only where they
lead somewhere. -/
def messageDetailPage (alerts : List AlertRow) (index : Nat) :
    PageCode Nat Empty Empty DetailTap where
  initial := index
  initState := pure []
  onTap
    | .next, i =>
      if hasNext alerts i then some do
        goNext alerts
        pure []
      else none
    | .previous, i =>
      if 0 < i then some do
        goPrevious
        pure []
      else none
    | .dragEnd v, _ => some do
      dragEnd alerts v
      pure []
  resume op _ := nomatch op

namespace MessageDetailPage

section Mounted

variable {fr : Frame Nat} (hm : fr.mounted = true) (alerts : List AlertRow)

include hm

theorem run_goNext : (goNext alerts).run fr = (.ok (), { fr with
    fields := if hasNext alerts fr.fields then fr.fields + 1 else fr.fields }) := by
  rw [goNext, run_bind_ok (run_getFields fr)]
  by_cases h : hasNext alerts fr.fields = true
  · rw [if_pos h, if_pos h, run_setState hm]
  · rw [if_neg h, if_neg h]
    rfl

theorem run_goPrevious : goPrevious.run fr = (.ok (), { fr with fields := fr.fields - 1 }) := by
  rw [goPrevious, run_bind_ok (run_getFields fr)]
  by_cases h : 0 < fr.fields
  · rw [if_pos h, run_setState hm]
  · rw [if_neg h, show fr.fields - 1 = fr.fields by omega]
    rfl

/-- A drag turns at most one page: the two velocities exclude each other. -/
theorem run_dragEnd (v : Option Rat) : (dragEnd alerts v).run fr = (.ok (), { fr with
    fields :=
      if v.getD 0 < -200 then if hasNext alerts fr.fields then fr.fields + 1 else fr.fields
      else if v.getD 0 > 200 then fr.fields - 1
      else fr.fields }) := by
  rw [dragEnd, run_bind_ok (run_getFields fr)]
  by_cases hleft : v.getD 0 < -200
  · have hright : ¬ v.getD 0 > 200 := by grind
    rw [if_pos hleft]
    by_cases hnext : hasNext alerts fr.fields = true
    · rw [if_pos (by simp [hleft, hnext]), run_bind_ok (run_goNext hm alerts),
        run_bind_ok (run_getFields _), if_neg (by simp [hright]), if_pos hnext]
      rfl
    · rw [if_neg (by simp [hnext]), run_bind_ok (run_pure () fr), run_bind_ok (run_getFields _),
        if_neg (by simp [hright]), if_neg hnext]
      rfl
  · rw [if_neg (by simp [hleft]), run_bind_ok (run_pure () fr), run_bind_ok (run_getFields _),
      if_neg hleft]
    by_cases hright : v.getD 0 > 200
    · rw [if_pos hright]
      by_cases hpos : 0 < fr.fields
      · rw [if_pos (by simp [hright, hpos])]
        exact run_goPrevious hm
      · rw [if_neg (by simp [hpos]), show fr.fields - 1 = fr.fields by omega]
        rfl
    · rw [if_neg (by simp [hright]), if_neg hright]
      rfl

end Mounted

theorem hasNext_iff {alerts : List AlertRow} {i : Nat} :
    hasNext alerts i = true ↔ i + 1 < alerts.length := by
  rw [hasNext, decide_eq_true_eq]
  omega

/-! ## The index stays in the list -/

theorem next_lt {alerts : List AlertRow} {i : Nat} (h : i < alerts.length) :
    (if hasNext alerts i then i + 1 else i) < alerts.length := by
  split
  · exact hasNext_iff.mp ‹_›
  · exact h

/-- Whatever a tap does, the index is one of the list again. -/
theorem tap_lt {alerts : List AlertRow} {index : Nat} {fr : Frame Nat} {t : DetailTap}
    {h : Handler Nat (List Empty)} (hm : fr.mounted = true)
    (ht : (messageDetailPage alerts index).onTap t fr.fields = some h)
    (hi : fr.fields < alerts.length) : (h.run fr).2.fields < alerts.length := by
  cases t with
  | next =>
    rw [messageDetailPage] at ht
    simp only at ht
    split at ht
    · cases ht
      rw [run_bind_ok (run_goNext hm alerts)]
      exact next_lt hi
    · cases ht
  | previous =>
    rw [messageDetailPage] at ht
    simp only at ht
    split at ht
    · cases ht
      rw [run_bind_ok (run_goPrevious hm)]
      exact Nat.lt_of_le_of_lt (Nat.sub_le _ _) hi
    · cases ht
  | dragEnd v =>
    cases ht
    rw [run_bind_ok (run_dragEnd hm alerts v)]
    show (if _ then _ else _) < alerts.length
    split
    · exact next_lt hi
    · split
      · exact Nat.lt_of_le_of_lt (Nat.sub_le _ _) hi
      · exact hi

theorem step_lt {alerts : List AlertRow} {index : Nat} {s t : DetailLive} {e : DetailEvent}
    (h : (messageDetailPage alerts index).step s e = some t)
    (hi : s.frame.fields < alerts.length) : t.frame.fields < alerts.length := by
  cases e with
  | tap tap =>
    obtain ⟨hm, hdl, hhdl, rfl⟩ := PageCode.step_tap h
    rw [Live.settle_frame]
    exact tap_lt hm hhdl hi
  | answer i a => exact nomatch a
  | dispose =>
    obtain ⟨-, rfl⟩ := PageCode.step_dispose h
    exact hi

/-! ## What the metadata tell apart -/

section Keyed

variable {α κ β : Type} {key : α → κ} {f g : α → Option β} {l : List α}

theorem filterMap_keyed_ne_cons {k : κ} (h : k ∉ l.map key) (b : β) (rest : List (κ × β)) :
    l.filterMap (fun p => (f p).map (key p, ·)) ≠ (k, b) :: rest := by
  intro heq
  have hmem : (k, b) ∈ l.filterMap fun p => (f p).map (key p, ·) := by
    rw [heq]
    exact List.mem_cons_self
  obtain ⟨p, hp, hb⟩ := List.mem_filterMap.mp hmem
  obtain ⟨b', -, hpair⟩ := Option.map_eq_some_iff.mp hb
  exact h ((Prod.mk.inj hpair).1 ▸ List.mem_map_of_mem hp)

/-- With keys that differ, the values that are there tell which ones are not. -/
theorem filterMap_keyed_inj (h : (l.map key).Nodup) :
    l.filterMap (fun p => (f p).map (key p, ·)) = l.filterMap (fun p => (g p).map (key p, ·)) ↔
      ∀ p ∈ l, f p = g p := by
  induction l with
  | nil => exact iff_of_true rfl fun p hp => by cases hp
  | cons p l ih =>
    obtain ⟨hp, hl⟩ := List.nodup_cons.mp h
    have ih := ih hl
    rw [List.forall_mem_cons, ← ih, List.filterMap_cons, List.filterMap_cons]
    cases hf : f p with
    | none =>
      cases hg : g p with
      | none => exact (and_iff_right rfl).symm
      | some b =>
        exact iff_of_false (filterMap_keyed_ne_cons hp b _) fun hand => by cases hand.1
    | some a =>
      cases hg : g p with
      | none =>
        exact iff_of_false (Ne.symm (filterMap_keyed_ne_cons hp a _)) fun hand => by cases hand.1
      | some b => simp

end Keyed

/-- The texts are the same, or neither of them is shown. -/
def SameText (s t : Text) : Prop := s = t ∨ s.trim = [] ∧ t.trim = []

instance (s t : Text) : Decidable (SameText s t) :=
  inferInstanceAs (Decidable (s = t ∨ s.trim = [] ∧ t.trim = []))

/-- A text where there is something to show. -/
def unlessBlank (s : Text) : Option Text := if s.trim.isEmpty then none else some s

theorem unlessBlank_eq_iff {s t : Text} : unlessBlank s = unlessBlank t ↔ SameText s t := by
  rw [unlessBlank, unlessBlank, SameText]
  by_cases hs : s.trim = []
  · by_cases ht : t.trim = []
    · simp [hs, ht]
    · have hne : s ≠ t := fun h => ht (h ▸ hs)
      simp [hs, ht, hne]
  · by_cases ht : t.trim = []
    · simp [hs, ht]
      exact fun h => hs (h ▸ ht)
    · simp [hs, ht]

theorem metadataRows_eq (K : Casing) (a : Fields) : metadataRows K a =
    metadataKeys.filterMap fun p =>
      (unlessBlank (metadataText a p.2)).map (K.upper p.1.toList, ·) := by
  rw [metadataRows, List.filterMap_map]
  refine List.filterMap_congr fun p _ => ?_
  show (if _ then _ else _) = _
  rw [unlessBlank]
  split <;> rfl

theorem metadataLabels_nodup (K : Casing) :
    (metadataKeys.map fun p => K.upper p.1.toList).Nodup := by
  have hall : (metadataKeys.all fun p => p.1.toList.all fun c => decide (c.toNat < 128)) = true := by
    decide
  have hascii : ∀ p ∈ metadataKeys, K.upper p.1.toList = p.1.toList.map Char.toUpper :=
    fun p hp => K.upper_ascii _ (Text.forall_mem_of_all (List.all_eq_true.mp hall p hp))
  rw [List.map_congr_left hascii]
  decide

/-- A row that is left out leaves no gap, but the labels say which one it was. -/
theorem metadataRows_eq_iff (K : Casing) {a b : Fields} : metadataRows K a = metadataRows K b ↔
    ∀ p ∈ metadataKeys, SameText (metadataText a p.2) (metadataText b p.2) := by
  rw [metadataRows_eq, metadataRows_eq, filterMap_keyed_inj (metadataLabels_nodup K)]
  exact forall₂_congr fun p _ => unlessBlank_eq_iff

/-! ## Timeliness -/

theorem goNext_timely (alerts : List AlertRow) : (goNext alerts).Timely := by
  refine .bind .getFields fun i => ?_
  split
  · exact .setState _
  · exact .pure _

theorem goPrevious_timely : goPrevious.Timely := by
  refine .bind .getFields fun i => ?_
  split
  · exact .setState _
  · exact .pure _

theorem dragEnd_timely (alerts : List AlertRow) (v : Option Rat) : (dragEnd alerts v).Timely := by
  refine .bind .getFields fun i => .bind ?_ fun _ => .bind .getFields fun j => ?_
  · split
    · exact goNext_timely alerts
    · exact .pure _
  · split
    · exact goPrevious_timely
    · exact .pure _

theorem page_timely (alerts : List AlertRow) (index : Nat) :
    (messageDetailPage alerts index).Timely where
  initState := .pure _
  onTap t i h ht := by
    rw [messageDetailPage] at ht
    cases t with
    | next =>
      simp only at ht
      split at ht
      · cases ht
        exact .bind (goNext_timely alerts) fun _ => .pure _
      · cases ht
    | previous =>
      simp only at ht
      split at ht
      · cases ht
        exact .bind goPrevious_timely fun _ => .pure _
      · cases ht
    | dragEnd v =>
      cases ht
      exact .bind (dragEnd_timely alerts v) fun _ => .pure _
  resume op _ _ _ := nomatch op

end MessageDetailPage

end SurveilOne
