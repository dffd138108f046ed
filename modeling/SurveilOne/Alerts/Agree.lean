import SurveilOne.Alerts.Settled
import SurveilOne.SitePath

/-!
# The same alert on the two pages

The alerts page and the push notifications page build their rows by themselves.
They take title and preview from the same fields, but an int that is at most 10⁹
is a date for the alerts page only, and a picture under `image` or `img` is one
for the push page only.  The present stands in for a missing date, so a row shows
nothing of the difference.

`rowsAgree_iff` says for which alerts the rows are the same.
-/

namespace SurveilOne

open Dart

structure SameRow (r r' : AlertRow) : Prop where
  title : r.fields.get "title" = r'.fields.get "title"
  preview : r.fields.get "preview" = r'.fields.get "preview"
  date : r.date = r'.date
  image : r.fields.get "image_url" = r'.fields.get "image_url"

/-! ## Two builders on one list -/

section Builders

variable {row row' : Json → Except Thrown AlertRow}

theorem rowsUntil_cons_ok_iff {e : Json} {rest : List Json} {rows : List AlertRow} :
    rowsUntil row (e :: rest) = (.ok (), rows) ↔
      ∃ r rows', row e = .ok r ∧ rowsUntil row rest = (.ok (), rows') ∧ rows = r :: rows' := by
  rw [rowsUntil]
  cases hrow : row e with
  | error x =>
    constructor
    · intro h
      cases h
    · rintro ⟨r, rows', hr, -⟩
      cases hr
  | ok r =>
    constructor
    · intro h
      obtain ⟨hok, hrows⟩ := Prod.mk.inj h
      exact ⟨r, _, rfl, Prod.ext hok rfl, hrows.symm⟩
    · rintro ⟨r', rows', hr, hrest, rfl⟩
      cases hr
      rw [hrest]

/-- Two builders give rows that agree, one for each element, exactly when they do
so on every element by itself. -/
theorem rowsUntil_agree_iff (R : AlertRow → AlertRow → Prop) (alerts : List Json) :
    (∃ rows rows', rowsUntil row alerts = (.ok (), rows) ∧
        rowsUntil row' alerts = (.ok (), rows') ∧ List.Forall₂ R rows rows') ↔
      ∀ e ∈ alerts, ∃ r r', row e = .ok r ∧ row' e = .ok r' ∧ R r r' := by
  induction alerts with
  | nil => exact iff_of_true ⟨[], [], rfl, rfl, .nil⟩ fun e he => (by cases he)
  | cons e rest ih =>
    rw [List.forall_mem_cons, ← ih]
    constructor
    · rintro ⟨rows, rows', h, h', hall⟩
      obtain ⟨r, tail, hr, htail, rfl⟩ := rowsUntil_cons_ok_iff.mp h
      obtain ⟨r', tail', hr', htail', rfl⟩ := rowsUntil_cons_ok_iff.mp h'
      obtain ⟨hhead, hrest⟩ := List.forall₂_cons.mp hall
      exact ⟨⟨r, r', hr, hr', hhead⟩, tail, tail', htail, htail', hrest⟩
    · rintro ⟨⟨r, r', hr, hr', hhead⟩, tail, tail', htail, htail', hrest⟩
      exact ⟨r :: tail, r' :: tail', rowsUntil_cons_ok_iff.mpr ⟨r, tail, hr, htail, rfl⟩,
        rowsUntil_cons_ok_iff.mpr ⟨r', tail', hr', htail', rfl⟩, .cons hhead hrest⟩

end Builders

/-! ## Two builders on one alert -/

def createdAt (alert : Fields) : Json := Fields.firstOf alert ["created_at", "createdAt"]

section Alert

variable (clock : Clock) (siteName : Text) (alert : Fields)

theorem image_inj {a b : Option Text} (h : a.elim .null Json.string = b.elim .null Json.string) :
    a = b := by
  cases a <;> cases b <;> cases h <;> rfl

theorem sameRow_iff {parseDate parseDate' : Json → Except Thrown (Option DateTime)}
    (rawImage rawImage' : Fields → Option Text) :
    (∃ r r', buildRow clock siteName parseDate rawImage (.map alert) = .ok r ∧
        buildRow clock siteName parseDate' rawImage' (.map alert) = .ok r' ∧ SameRow r r') ↔
      (∃ d d', parseDate (createdAt alert) = .ok d ∧ parseDate' (createdAt alert) = .ok d' ∧
        d.getD clock.now = d'.getD clock.now) ∧
      normalizeImageUrl (rawImage alert) kDefaultImageHost siteName =
        normalizeImageUrl (rawImage' alert) kDefaultImageHost siteName := by
  simp only [buildRow_eq_ok_iff]
  constructor
  · rintro ⟨_, _, ⟨_, d, heq, hd, rfl⟩, ⟨_, d', heq', hd', rfl⟩, hsame⟩
    cases heq
    cases heq'
    have himage := hsame.image
    rw [rowOf_image, rowOf_image] at himage
    exact ⟨⟨d, d', hd, hd', hsame.date⟩, image_inj himage⟩
  · rintro ⟨⟨d, d', hd, hd', hdates⟩, himages⟩
    refine ⟨_, _, ⟨alert, d, rfl, hd, rfl⟩, ⟨alert, d', rfl, hd', rfl⟩, ?_, ?_, hdates, ?_⟩
    · rw [rowOf_title, rowOf_title]
    · rw [rowOf_preview, rowOf_preview]
    · rw [rowOf_image, rowOf_image, himages]

end Alert

/-! ## The two readings of a date -/

/-- The instant an int stands for on the alerts page when it is at most 10¹². -/
def secondsInstant (i : Int) : DateTime := ⟨toInt64 (i * 1000) * 1000⟩

/-- An int above 10⁹ is in range.  The push page takes no other int for a date,
so what the alerts page makes of it is the present. -/
def DateAgrees (clock : Clock) (v : Json) : Prop :=
  ∀ i, v = .int i →
    if 1000000000 < i then i ≤ 8640000000000000
    else DateInRange (toInt64 (i * 1000)) ∧ secondsInstant i = clock.now

theorem parseDate_eq_of_late (clock : Clock) {i : Int} (h : 1000000000 < i) :
    AlertsPage.parseDate clock (.int i) = PushNotificationsPage.parseDate clock (.int i) := by
  rw [AlertsPage.parseDate, PushNotificationsPage.parseDate]
  by_cases hms : i > 1000000000000
  · rw [if_pos hms, if_pos hms]
  · rw [if_neg hms, if_neg hms, if_pos h]

theorem AlertsPage.parseDate_early_iff (clock : Clock) {i : Int} (h : ¬ 1000000000 < i)
    (d : Option DateTime) :
    parseDate clock (.int i) = .ok d ↔
      DateInRange (toInt64 (i * 1000)) ∧ d = some (secondsInstant i) := by
  have hms : ¬ i > 1000000000000 := by omega
  rw [parseDate, if_neg hms, DateTime.fromMillisecondsSinceEpoch, DateInRange]
  by_cases hrange :
      -8640000000000000 ≤ toInt64 (i * 1000) ∧ toInt64 (i * 1000) ≤ 8640000000000000
  · rw [if_pos hrange]
    constructor
    · intro hd
      exact ⟨hrange, (Except.ok.inj hd).symm⟩
    · rintro ⟨-, rfl⟩
      rfl
  · rw [if_neg hrange]
    exact iff_of_false (fun hd => (by cases hd)) fun hd => hrange hd.1

theorem PushNotificationsPage.parseDate_early (clock : Clock) {i : Int} (h : ¬ 1000000000 < i) :
    parseDate clock (.int i) = .ok none := by
  have hms : ¬ i > 1000000000000 := by omega
  rw [parseDate, if_neg hms, if_neg h]

theorem dates_iff (clock : Clock) (v : Json) :
    (∃ d d', AlertsPage.parseDate clock v = .ok d ∧ PushNotificationsPage.parseDate clock v = .ok d' ∧
      d.getD clock.now = d'.getD clock.now) ↔ DateAgrees clock v := by
  cases v with
  | int i =>
    have hcond : DateAgrees clock (.int i) ↔
        if 1000000000 < i then i ≤ 8640000000000000
        else DateInRange (toInt64 (i * 1000)) ∧ secondsInstant i = clock.now := by
      simp only [DateAgrees, Json.int.injEq, forall_eq']
    rw [hcond]
    by_cases hlate : 1000000000 < i
    · rw [if_pos hlate, parseDate_eq_of_late clock hlate,
        ← PushNotificationsPage.dateReadable_int, ← PushNotificationsPage.parseDate_ok_iff clock]
      exact ⟨fun ⟨d, _, hd, _⟩ => ⟨d, hd⟩, fun ⟨d, hd⟩ => ⟨d, d, hd, hd, rfl⟩⟩
    · rw [if_neg hlate, PushNotificationsPage.parseDate_early clock hlate]
      constructor
      · rintro ⟨d, d', hd, hd', hsame⟩
        obtain ⟨hrange, rfl⟩ := (AlertsPage.parseDate_early_iff clock hlate d).mp hd
        cases hd'
        exact ⟨hrange, hsame⟩
      · rintro ⟨hrange, hsame⟩
        exact ⟨_, none, (AlertsPage.parseDate_early_iff clock hlate _).mpr ⟨hrange, rfl⟩, rfl, hsame⟩
  | _ => exact iff_of_true ⟨_, _, rfl, rfl, rfl⟩ fun i hi => (by cases hi)

/-! ## The two readings of a picture -/

/-- Without a picture in the fields both pages read, the two that only the push
page reads hold none either. -/
def ImageAgrees (alert : Fields) : Prop :=
  Fields.firstOf alert ["image_url", "imageUrl", "thumbnail"] = .null →
    ∀ raw, (Fields.firstOf alert ["image", "img"]).toText? = some raw → raw.trim = []

theorem pickRawImageField_eq (alert : Fields) :
    PushNotificationsPage.pickRawImageField alert =
      ((Fields.firstOf alert ["image_url", "imageUrl", "thumbnail"]).ifNull
        (Fields.firstOf alert ["image", "img"])).toText? :=
  congrArg Json.toText?
    (Fields.firstOf_append alert ["image_url", "imageUrl", "thumbnail"] ["image", "img"])

theorem images_iff (siteName : Text) (alert : Fields) :
    normalizeImageUrl (AlertsPage.rawImage alert) kDefaultImageHost siteName =
        normalizeImageUrl (PushNotificationsPage.pickRawImageField alert) kDefaultImageHost siteName ↔
      ImageAgrees alert := by
  rw [pickRawImageField_eq, AlertsPage.rawImage, ImageAgrees]
  by_cases hnull : Fields.firstOf alert ["image_url", "imageUrl", "thumbnail"] = .null
  · rw [hnull, Json.ifNull_null]
    show none = _ ↔ _
    rw [eq_comm, normalizeImageUrl_eq_none_iff]
    exact ⟨fun h _ => h, fun h => h rfl⟩
  · rw [Json.ifNull_of_ne_null hnull]
    exact iff_of_true rfl fun h => absurd h hnull

/-! ## The rows -/

/-- Both pages have one row for each alert, and the rows agree alert by alert. -/
def RowsAgree (clock : Clock) (siteName : Text) (alerts : List Json) : Prop :=
  ∃ rows rows', rowsUntil (AlertsPage.row clock siteName) alerts = (.ok (), rows) ∧
    rowsUntil (PushNotificationsPage.row clock siteName) alerts = (.ok (), rows') ∧
    List.Forall₂ SameRow rows rows'

theorem rowsAgree_iff (clock : Clock) (siteName : Text) (alerts : List Fields) :
    RowsAgree clock siteName (alerts.map .map) ↔
      ∀ alert ∈ alerts, DateAgrees clock (createdAt alert) ∧ ImageAgrees alert := by
  rw [RowsAgree, rowsUntil_agree_iff, List.forall_mem_map]
  refine forall₂_congr fun alert _ => ?_
  rw [← dates_iff, ← images_iff siteName]
  exact sameRow_iff clock siteName alert AlertsPage.rawImage PushNotificationsPage.pickRawImageField

def earlyAlert : Fields := [("created_at".toList, .int 1000000000)]

def imgAlert : Fields := [("img".toList, .string "CAM_001/a.jpg".toList)]

/-- Both pages can build a row of either alert.  The one has two dates, the other
a picture on the push page only. -/
theorem earlyAlert_and_imgAlert_disagree :
    (∀ f : AlertsFile, f.Readable (.map earlyAlert) ∧ f.Readable (.map imgAlert)) ∧
      ¬ RowsAgree ⟨fun _ => none, ⟨0⟩⟩ [] ([earlyAlert].map .map) ∧
      ¬ RowsAgree ⟨fun _ => none, ⟨0⟩⟩ [] ([imgAlert].map .map) := by
  refine ⟨fun f => ⟨⟨earlyAlert, rfl, ?_⟩, ⟨imgAlert, rfl, ?_⟩⟩, ?_, ?_⟩
  · cases f <;> intro i hi <;> cases hi
    · exact ⟨by decide, by decide⟩
    · decide
  · cases f <;> intro i hi <;> cases hi
  · rintro ⟨rows, rows', h, h', hall⟩
    cases h
    cases h'
    exact absurd (List.forall₂_cons.mp hall).1.date (by decide)
  · rintro ⟨rows, rows', h, h', hall⟩
    cases h
    cases h'
    have himage := (List.forall₂_cons.mp hall).1.image
    cases himage

end SurveilOne
