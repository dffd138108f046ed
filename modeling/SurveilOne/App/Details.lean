import SurveilOne.App.Mounted

/-!
# Detail pages and the lists they look at

A detail page keeps an index into a list it was given when it was opened.  The alerts
page gives its own list away and goes on sorting it, and `_alert` throws on an index
out of range.  It never does: a page that gave its list away has had the answer to its
fetch, after which the list keeps its length.
-/

namespace SurveilOne

open Dart Flutter

namespace Screen

variable {P : Platform} {c : Screen}

theorem Reached.waiting {file : AlertsFile} {account : Account} {live : AlertsLive}
    (h : (alerts file account live).Reached P) : Waiting live := by
  obtain ⟨now, h⟩ := h
  exact Runs.Reachable.of_throughout (Runs.throughout_of_step
    (fun _ _ _ hw hstep => AlertsFile.waiting_step hw hstep) (fun _ hw => hw)
    (AlertsFile.waiting_opened file)) h

end Screen

namespace Host

variable {P : Platform} {s t : Host}

/-- The page under a key is one of alerts and has had the answer to its fetch. -/
def Fetched (s : Host) (k : Nat) : Prop :=
  ∃ file account live, s.screens k = some (.alerts file account live) ∧ 0 ∉ live.outstanding

/-- The list belongs to a page whose fetch was answered, or to nobody. -/
def Steady (s : Host) : AlertSource → Prop
  | .page k => s.Fetched k
  | .copy _ => True

/-- A detail page has a row to show. -/
def InRange (s : Host) (c : Screen) : Prop :=
  ∀ siteName source live, c = .messageDetail siteName source live →
    s.Steady source ∧ live.frame.fields < (s.rows source).length

structure Paged (P : Platform) (s : Host) : Prop extends Running P s where
  given : ∀ k c, s.screens k = some c → k < s.app.nav.nextKey
  inRange : ∀ k c, s.screens k = some c → s.InRange c

/-- From `s` to `t` a steady list stays steady and keeps its length. -/
def KeepsLists (s t : Host) : Prop :=
  ∀ source, s.Steady source →
    t.Steady source ∧ (t.rows source).length = (s.rows source).length

theorem KeepsLists.inRange {c : Screen} (h : KeepsLists s t) (hc : s.InRange c) : t.InRange c := by
  intro siteName source live hlive
  obtain ⟨hsteady, hlt⟩ := hc siteName source live hlive
  obtain ⟨hsteady', hlen⟩ := h source hsteady
  exact ⟨hsteady', hlen ▸ hlt⟩

theorem fetched_rows {k : Nat} {file : AlertsFile} {account : Account} {live : AlertsLive}
    (h : s.screens k = some (.alerts file account live)) :
    s.rows (.page k) = live.frame.fields.alerts := by
  simp only [rows, h]

/-- One page of alerts goes on, the others and their lists stay. -/
theorem KeepsLists.of_pages
    (h : ∀ k file account live, s.screens k = some (.alerts file account live) →
      0 ∉ live.outstanding → ∃ live', t.screens k = some (.alerts file account live') ∧
        0 ∉ live'.outstanding ∧
        live'.frame.fields.alerts.length = live.frame.fields.alerts.length) : KeepsLists s t := by
  intro source hsteady
  cases source with
  | copy rows => exact ⟨trivial, rfl⟩
  | page k =>
    obtain ⟨file, account, live, hc, h0⟩ := hsteady
    obtain ⟨live', hc', h0', hlen⟩ := h k file account live hc h0
    refine ⟨⟨file, account, live', hc', h0'⟩, ?_⟩
    rw [fetched_rows hc', fetched_rows hc, hlen]

theorem Paged.keepsLists_moved (hs : s.Paged P) {b : Action} {app : App}
    (h : App.step P.casing s.app b = some app) (clock : Clock)
    (detail : Option (AlertSource × Nat)) : KeepsLists s (s.moved clock detail app) := by
  refine .of_pages fun k file account live hc h0 => ?_
  rcases (App.step_evolves_detail hs.wellKeyed h).mount_given (hs.given k _ hc) hc with hm | hm
  · exact ⟨live, hm, h0, rfl⟩
  · exact ⟨live.disposed, hm, h0, rfl⟩

theorem Paged.keepsLists_setScreen (hs : s.Paged P) {k : Nat} {c c' : Screen}
    (hc : s.screens k = some c) (h : c.Becomes P s.rows c') : KeepsLists s (s.setScreen k c') := by
  refine .of_pages fun j file account live hlive h0 => ?_
  by_cases hj : j = k
  · subst hj
    obtain rfl := Option.some.inj (hc.symm.trans hlive)
    cases h with
    | alerts he hstep =>
      have hwait := (hs.reached j _ hc).waiting
      exact ⟨_, Function.update_self .., AlertsFile.fetched_step hwait h0 hstep,
        (AlertsFile.resorts_step hwait h0 hstep).perm.length_eq⟩
  · exact ⟨live, (Function.update_of_ne hj _ _).trans hlive, h0, rfl⟩

/-- The tile of an alert opens a detail page on a row that is there. -/
theorem Running.tile_inRange (hs : s.Running P) {k i : Nat} {c : Screen}
    {detail : AlertSource × Nat} (hc : s.screens k = some c) (h : c.tile k i = some detail) :
    s.Steady detail.1 ∧ detail.2 < (s.rows detail.1).length := by
  cases c with
  | alerts file account live =>
    cases file with
    | alerts =>
      rw [Screen.tile] at h
      split at h
      · rename_i hi
        cases h
        have hlt : i < (s.rows (.page k)).length := by rw [fetched_rows hc]; exact hi.2
        refine ⟨⟨.alerts, account, live, hc, fun h0 => ?_⟩, hlt⟩
        -- Before the answer there is no row to tap on.
        have hempty := (hs.reached k _ hc).waiting.fields h0
        rw [hempty] at hi
        exact Nat.not_lt_zero i hi.2
      · cases h
    | pushNotifications =>
      rw [Screen.tile] at h
      split at h
      · rename_i hi
        cases h
        exact ⟨trivial, hi.2⟩
      · cases h
  | _ => cases h

theorem Paged.moved (hs : s.Paged P) {now : DateTime} {detail : Option (AlertSource × Nat)}
    {b : Action} {app : App} (h : App.step P.casing s.app b = some app)
    (hb : b = .tap .alert → detail ≠ none)
    (hdetail : ∀ d, detail = some d → s.Steady d.1 ∧ d.2 < (s.rows d.1).length) :
    (s.moved (P.clock now) detail app).Paged P := by
  have hkeeps := hs.keepsLists_moved h (P.clock now) detail
  have hevolves := App.step_evolves_detail hs.wellKeyed h
  refine ⟨hs.toRunning.moved h hb, fun k c hc => ?_, fun k c hc => ?_⟩
  · rcases Navigator.mount_cases hc with hold | ⟨r, -, hr, -⟩ | ⟨r, c', -, hc', -⟩
    · exact Nat.lt_of_lt_of_le (hs.given k c hold) hevolves.nextKey
    · obtain ⟨hmem, rfl⟩ := Navigator.mem_of_find? hr
      exact (App.step_wellKeyed hs.wellKeyed h).fresh r hmem
    · exact Nat.lt_of_lt_of_le (hs.given k c' hc') hevolves.nextKey
  · rcases Navigator.mount_cases hc with hold | ⟨r, -, -, hopened⟩ | ⟨r, c', -, hc', rfl⟩
    · exact hkeeps.inRange (hs.inRange k c hold)
    · intro siteName source live hlive
      subst hlive
      obtain ⟨d, hd, hlive⟩ : ∃ d, detail = some d ∧
          Screen.messageDetail siteName d.1 (messageDetailPage [] d.2).opened =
            .messageDetail siteName source live := by
        cases hpage : r.page with
        | messageDetailPage siteName' =>
          rw [hpage] at hopened
          obtain ⟨d, hd, hlive⟩ := Option.map_eq_some_iff.mp hopened
          cases hlive
          exact ⟨d, hd, rfl⟩
        | _ => rw [hpage] at hopened; cases hopened
      cases hlive
      obtain ⟨hsteady, hlt⟩ := hdetail d hd
      obtain ⟨hsteady', hlen⟩ := hkeeps d.1 hsteady
      exact ⟨hsteady', hlen ▸ hlt⟩
    · intro siteName source live hlive
      cases c' with
      | messageDetail siteName' source' live' =>
        cases hlive
        exact hkeeps.inRange (hs.inRange k _ hc') siteName source live' rfl
      | _ => cases hlive

theorem Moves.paged (hs : s.Paged P) (h : Moves P s t) : t.Paged P := by
  cases h with
  | app h hb => exact hs.moved h (fun hb' => absurd hb' hb) fun _ hd => nomatch hd
  | detail hr hc htile h =>
    refine hs.moved h (fun _ => Option.some_ne_none _) fun d hd => ?_
    cases hd
    exact hs.toRunning.tile_inRange hc htile
  | @screen k c c' hc h =>
    have hkeeps := hs.keepsLists_setScreen hc h
    refine ⟨(Moves.screen hc h).running hs.toRunning, ?_, ?_⟩
    · exact forall_setScreen hs.given (hs.given k c hc)
    · refine forall_setScreen (fun j d hd => hkeeps.inRange (hs.inRange j d hd)) ?_
      intro siteName source live hlive
      subst hlive
      cases h with
      | messageDetail he hstep =>
        obtain ⟨hsteady, hlt⟩ := hs.inRange k _ hc _ _ _ rfl
        obtain ⟨hsteady', hlen⟩ := hkeeps source hsteady
        exact ⟨hsteady', hlen ▸ MessageDetailPage.step_lt hstep hlt⟩

theorem initial_paged (P : Platform) : initial.Paged P :=
  ⟨initial_running P, fun _ _ hc => (nomatch hc), fun _ _ hc => nomatch hc⟩

/-- In every run of the whole app, every detail page there ever was has a row of its
list to show. -/
theorem details_inRange (P : Platform) (as : List (DateTime × HostAction)) :
    Runs.Throughout (step P) (fun s => ∀ k siteName source live,
      s.screens k = some (.messageDetail siteName source live) →
        MessageDetailPage.alert (s.rows source) live.frame.fields ≠ none) initial as := by
  refine Runs.throughout_of_step (I := Paged P)
    (fun _ _ _ hs h => step_of_moves (fun _ _ hs h => Moves.paged hs h) hs h) ?_
    (initial_paged P) as
  intro s hs k siteName source live hc
  obtain ⟨-, hlt⟩ := hs.inRange k _ hc siteName source live rfl
  rw [MessageDetailPage.alert, List.getElem?_eq_getElem hlt]
  exact Option.some_ne_none _

end Host

end SurveilOne
