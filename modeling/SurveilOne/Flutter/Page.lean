import SurveilOne.Flutter.State
import SurveilOne.Runs

/-!
# Pages with overlapping asynchronous operations

`PageCode` is the code of a stateful page, cut at its suspensions: what
`initState` does, what a tap does, and how a method goes on when the operation
it awaits is answered.  Each part returns the operations it leaves outstanding.

`Live` is a running page with the whole history of its operations.  An
operation is named by its position in that history.  Outstanding operations
are answered in any order, and the page may be disposed at any moment, which
cancels none of them.
-/

namespace Flutter

open Dart

structure PageCode (σ Op Answer Tap : Type) where
  initial : σ
  initState : Handler σ (List Op)
  /-- `none` when the control is disabled or not shown. -/
  onTap : Tap → σ → Option (Handler σ (List Op))
  /-- `none` when the answer does not fit the operation. -/
  resume : Op → Answer → Option (Handler σ (List Op))

structure Live (σ Op Answer : Type) where
  frame : Frame σ
  /-- Every operation started so far, the oldest first. -/
  started : List Op
  outstanding : List Nat
  answered : List (Nat × Answer)

inductive Event (Answer Tap : Type) where
  | tap (t : Tap)
  | answer (i : Nat) (a : Answer)
  | dispose

theorem Event.tap_ne_dispose {Answer Tap : Type} (t : Tap) :
    (Event.tap t : Event Answer Tap) ≠ .dispose := nofun

theorem Event.answer_ne_dispose {Answer Tap : Type} (i : Nat) (a : Answer) :
    (Event.answer i a : Event Answer Tap) ≠ .dispose := nofun

namespace Live

variable {σ Op Answer : Type}

/-- Record the operations a handler has left outstanding.  An exception that
leaves the handler starts none. -/
def settle (s : Live σ Op Answer) (r : Except Thrown (List Op) × Frame σ) : Live σ Op Answer :=
  match r with
  | (.ok ops, fr) =>
    { s with
      frame := fr
      started := s.started ++ ops
      outstanding := s.outstanding ++ (List.range ops.length).map (s.started.length + ·) }
  | (.error _, fr) => { s with frame := fr }

/-- Operation `i` has been answered. -/
def close (s : Live σ Op Answer) (i : Nat) (a : Answer) : Live σ Op Answer :=
  { s with
    outstanding := s.outstanding.filter (· ≠ i)
    answered := s.answered ++ [(i, a)] }

def disposed (s : Live σ Op Answer) : Live σ Op Answer :=
  { s with frame := { s.frame with mounted := false } }

@[simp] theorem settle_frame (s : Live σ Op Answer) (r : Except Thrown (List Op) × Frame σ) :
    (s.settle r).frame = r.2 := by
  obtain ⟨r, fr⟩ := r
  cases r <;> rfl

@[simp] theorem settle_answered (s : Live σ Op Answer) (r : Except Thrown (List Op) × Frame σ) :
    (s.settle r).answered = s.answered := by
  obtain ⟨r, fr⟩ := r
  cases r <;> rfl

@[simp] theorem settle_ok_started (s : Live σ Op Answer) (ops : List Op) (fr : Frame σ) :
    (s.settle (.ok ops, fr)).started = s.started ++ ops := rfl

/-- A handler that leaves no operations behind starts none. -/
theorem settle_started {s : Live σ Op Answer} {r : Except Thrown (List Op) × Frame σ}
    (h : ∀ ops, r.1 = .ok ops → ops = []) : (s.settle r).started = s.started := by
  obtain ⟨r, fr⟩ := r
  cases r with
  | ok ops => rw [settle_ok_started, h ops rfl, List.append_nil]
  | error e => rfl

theorem settle_ok_outstanding (s : Live σ Op Answer) (ops : List Op) (fr : Frame σ) :
    (s.settle (.ok ops, fr)).outstanding =
      s.outstanding ++ (List.range ops.length).map (s.started.length + ·) := rfl

theorem mem_settle_of_mem {s : Live σ Op Answer} {ops : List Op} {fr : Frame σ} {i : Nat}
    (h : i ∈ s.outstanding) : i ∈ (s.settle (.ok ops, fr)).outstanding :=
  List.mem_append_left _ h

/-- What is outstanding after a handler was there before or is new. -/
theorem mem_of_mem_settle {s : Live σ Op Answer} {r : Except Thrown (List Op) × Frame σ} {i : Nat}
    (hi : i < s.started.length) (h : i ∈ (s.settle r).outstanding) : i ∈ s.outstanding := by
  obtain ⟨r, fr⟩ := r
  cases r with
  | ok ops =>
    rw [settle_ok_outstanding] at h
    rcases List.mem_append.mp h with h | h
    · exact h
    · obtain ⟨j, -, rfl⟩ := List.mem_map.mp h
      omega
  | error e => exact h

theorem settle_getElem? {s : Live σ Op Answer} {ops : List Op} {fr : Frame σ} {i : Nat} {op : Op}
    (h : s.started[i]? = some op) : (s.settle (.ok ops, fr)).started[i]? = some op := by
  rw [settle_ok_started, List.getElem?_append_left (List.getElem?_eq_some_iff.mp h).1]
  exact h

@[simp] theorem mem_close_outstanding {s : Live σ Op Answer} {i j : Nat} {a : Answer} :
    j ∈ (s.close i a).outstanding ↔ j ∈ s.outstanding ∧ j ≠ i := by
  simp [close]

theorem mem_settle_close {s : Live σ Op Answer} {ops : List Op} {fr : Frame σ} {i j : Nat}
    {a : Answer} (h : j ∈ s.outstanding) (hne : j ≠ i) :
    j ∈ ((s.close i a).settle (.ok ops, fr)).outstanding :=
  mem_settle_of_mem (mem_close_outstanding.mpr ⟨h, hne⟩)

/-- When at most one operation is out, its answer leaves none. -/
theorem close_outstanding_eq_nil {s : Live σ Op Answer} (hone : s.outstanding.length ≤ 1) {i : Nat}
    (hi : i ∈ s.outstanding) (a : Answer) : (s.close i a).outstanding = [] := by
  obtain ⟨j, hj⟩ := List.length_eq_one_iff.mp (Nat.le_antisymm hone (List.length_pos_of_mem hi))
  show s.outstanding.filter (· ≠ i) = []
  rw [hj] at hi ⊢
  obtain rfl := List.mem_singleton.mp hi
  simp

/-- The operations that were answered with their answers, in the order of these. -/
def exchanges (s : Live σ Op Answer) : List (Op × Answer) :=
  s.answered.filterMap fun a => s.started[a.1]?.map fun op => (op, a.2)

/-- Only what was started is answered. -/
def Matched (s : Live σ Op Answer) : Prop := ∀ a ∈ s.answered, a.1 < s.started.length

theorem exchanges_close {s : Live σ Op Answer} {i : Nat} {op : Op} (h : s.started[i]? = some op)
    (a : Answer) : (s.close i a).exchanges = s.exchanges ++ [(op, a)] := by
  have hlast : [(i, a)].filterMap (fun b => s.started[b.1]?.map fun op => (op, b.2)) = [(op, a)] := by
    simp [h]
  show (s.answered ++ [(i, a)]).filterMap (fun b => s.started[b.1]?.map fun op => (op, b.2)) = _
  rw [List.filterMap_append, hlast]
  rfl

theorem Matched.exchanges_settle {s : Live σ Op Answer} (hs : s.Matched)
    (r : Except Thrown (List Op) × Frame σ) : (s.settle r).exchanges = s.exchanges := by
  obtain ⟨r, fr⟩ := r
  cases r with
  | ok ops =>
    refine List.filterMap_congr fun a ha => ?_
    rw [settle_ok_started, List.getElem?_append_left (hs a ha)]
  | error e => rfl

theorem Matched.settle {s : Live σ Op Answer} (hs : s.Matched)
    (r : Except Thrown (List Op) × Frame σ) : (s.settle r).Matched := by
  obtain ⟨r, fr⟩ := r
  cases r with
  | ok ops =>
    intro a ha
    rw [settle_ok_started, List.length_append]
    exact Nat.lt_add_right _ (hs a ha)
  | error e => exact hs

theorem Matched.close {s : Live σ Op Answer} (hs : s.Matched) {i : Nat} {op : Op}
    (h : s.started[i]? = some op) (a : Answer) : (s.close i a).Matched := by
  intro b hb
  rcases List.mem_append.mp hb with hb | hb
  · exact hs b hb
  · obtain rfl := List.mem_singleton.mp hb
    exact (List.getElem?_eq_some_iff.mp h).1

/-- What can be seen of a page: its fields, as long as it is mounted. -/
def seen (s : Live σ Op Answer) : Option σ := if s.frame.mounted then some s.frame.fields else none

/-- Never a `setState` on the disposed `State`. -/
def InTime (s : Live σ Op Answer) : Prop := s.frame.lateSetStates = 0

end Live

namespace PageCode

variable {σ Op Answer Tap : Type} (code : PageCode σ Op Answer Tap)

/-- The page right after `initState`. -/
def opened : Live σ Op Answer :=
  Live.settle { frame := { fields := code.initial }, started := [], outstanding := [], answered := [] }
    (code.initState.run { fields := code.initial })

def step (s : Live σ Op Answer) : Event Answer Tap → Option (Live σ Op Answer)
  | .tap t =>
    if s.frame.mounted then (code.onTap t s.frame.fields).map fun h => s.settle (h.run s.frame)
    else none
  | .answer i a =>
    if i ∈ s.outstanding then
      (s.started[i]?.bind fun op => code.resume op a).map fun h =>
        (s.close i a).settle (h.run s.frame)
    else none
  | .dispose => if s.frame.mounted then some s.disposed else none

variable {code}

theorem step_tap {s t : Live σ Op Answer} {tap : Tap} (h : code.step s (.tap tap) = some t) :
    s.frame.mounted = true ∧
      ∃ hdl, code.onTap tap s.frame.fields = some hdl ∧ t = s.settle (hdl.run s.frame) := by
  rw [step] at h
  by_cases hm : s.frame.mounted = true
  · rw [if_pos hm] at h
    obtain ⟨hdl, hhdl, rfl⟩ := Option.map_eq_some_iff.mp h
    exact ⟨hm, hdl, hhdl, rfl⟩
  · rw [if_neg hm] at h
    cases h

theorem step_answer {s t : Live σ Op Answer} {i : Nat} {a : Answer}
    (h : code.step s (.answer i a) = some t) :
    i ∈ s.outstanding ∧ ∃ op hdl, s.started[i]? = some op ∧ code.resume op a = some hdl ∧
      t = (s.close i a).settle (hdl.run s.frame) := by
  rw [step] at h
  by_cases hi : i ∈ s.outstanding
  · rw [if_pos hi] at h
    obtain ⟨hdl, hbind, rfl⟩ := Option.map_eq_some_iff.mp h
    obtain ⟨op, hop, hhdl⟩ := Option.bind_eq_some_iff.mp hbind
    exact ⟨hi, op, hdl, hop, hhdl, rfl⟩
  · rw [if_neg hi] at h
    cases h

theorem step_dispose {s t : Live σ Op Answer} (h : code.step s .dispose = some t) :
    s.frame.mounted = true ∧ t = s.disposed := by
  rw [step] at h
  by_cases hm : s.frame.mounted = true
  · rw [if_pos hm] at h
    exact ⟨hm, (Option.some.inj h).symm⟩
  · rw [if_neg hm] at h
    cases h

/-- All that reaches an unmounted page is an answer. -/
theorem step_unmounted {s t : Live σ Op Answer} {e : Event Answer Tap}
    (hm : s.frame.mounted = false) (h : code.step s e = some t) :
    ∃ i a op hdl, code.resume op a = some hdl ∧ t = (s.close i a).settle (hdl.run s.frame) := by
  cases e with
  | tap tap =>
    obtain ⟨hm', -⟩ := step_tap h
    rw [hm] at hm'
    cases hm'
  | answer i a =>
    obtain ⟨-, op, hdl, -, hhdl, rfl⟩ := step_answer h
    exact ⟨i, a, op, hdl, hhdl, rfl⟩
  | dispose =>
    obtain ⟨hm', -⟩ := step_dispose h
    rw [hm] at hm'
    cases hm'

/-- No answer is forgotten. -/
theorem step_answered {s t : Live σ Op Answer} {e : Event Answer Tap} (h : code.step s e = some t) :
    s.answered ⊆ t.answered := by
  cases e with
  | tap tap =>
    obtain ⟨-, hdl, -, rfl⟩ := step_tap h
    rw [Live.settle_answered]
    exact List.Subset.refl _
  | answer i a =>
    obtain ⟨-, op, hdl, -, -, rfl⟩ := step_answer h
    rw [Live.settle_answered]
    exact List.subset_append_left _ _
  | dispose =>
    obtain ⟨-, rfl⟩ := step_dispose h
    exact List.Subset.refl _

theorem matched_opened : code.opened.Matched := by
  refine Live.Matched.settle (fun a ha => ?_) _
  cases ha

theorem matched_step {s t : Live σ Op Answer} {e : Event Answer Tap} (hs : s.Matched)
    (h : code.step s e = some t) : t.Matched := by
  cases e with
  | tap tap =>
    obtain ⟨-, hdl, -, rfl⟩ := step_tap h
    exact hs.settle _
  | answer i a =>
    obtain ⟨-, op, hdl, hop, -, rfl⟩ := step_answer h
    exact (hs.close hop a).settle _
  | dispose =>
    obtain ⟨-, rfl⟩ := step_dispose h
    exact hs

/-! ## No `setState` after dispose -/

/-- Each part of the code is timely. -/
structure Timely (code : PageCode σ Op Answer Tap) : Prop where
  initState : code.initState.Timely
  onTap : ∀ t s h, code.onTap t s = some h → h.Timely
  resume : ∀ op a h, code.resume op a = some h → h.Timely

/-- Whether the continuation may run after the page was disposed: `Quiet op a`
when it then calls `setState` nowhere. -/
structure QuietIff (code : PageCode σ Op Answer Tap) (Quiet : Op → Answer → Prop) : Prop where
  late : ∀ op a h (fr : Frame σ), code.resume op a = some h → fr.mounted = false →
    ((h.run fr).2.lateSetStates = fr.lateSetStates ↔ Quiet op a)

/-- A continuation that is certain to call `setState`, or certain not to. -/
theorem late_iff_false {h : Handler σ (List Op)} (hl : h.Late) {fr : Frame σ}
    (hm : fr.mounted = false) {P : Prop} (hP : ¬ P) :
    (h.run fr).2.lateSetStates = fr.lateSetStates ↔ P :=
  iff_of_false (Nat.ne_of_gt (hl fr hm)) hP

theorem silent_iff_true {h : Handler σ (List Op)} (hs : h.Silent) {fr : Frame σ}
    (hm : fr.mounted = false) {P : Prop} (hP : P) :
    (h.run fr).2.lateSetStates = fr.lateSetStates ↔ P :=
  iff_of_true (hs fr hm) hP

/-- An answer comes while the page is mounted, or it is a quiet one. -/
def AnsweredInTime (Quiet : Op → Answer → Prop) (s : Live σ Op Answer) (e : Event Answer Tap)
    (_ : Live σ Op Answer) : Prop :=
  ∀ i a op, e = .answer i a → s.started[i]? = some op → s.frame.mounted = false → Quiet op a

theorem opened_inTime (ht : code.Timely) : code.opened.InTime := by
  have h := ht.initState.inTime { fields := code.initial } rfl
  rw [Live.InTime, opened, Live.settle_frame, h]

theorem mounted_before (ht : code.Timely) {s t : Live σ Op Answer} {e : Event Answer Tap}
    (h : code.step s e = some t) (hm : t.frame.mounted = true) : s.frame.mounted = true := by
  cases e with
  | tap tap => exact (step_tap h).1
  | answer i a =>
    obtain ⟨-, op, hdl, -, hhdl, rfl⟩ := step_answer h
    rw [Live.settle_frame, (ht.resume op a hdl hhdl).mounted] at hm
    exact hm
  | dispose => exact (step_dispose h).1

theorem exec_mounted (ht : code.Timely) {s t : Live σ Op Answer} {es : List (Event Answer Tap)}
    (h : Runs.exec code.step s es = some t) (hm : t.frame.mounted = true) :
    s.frame.mounted = true := by
  induction es generalizing s with
  | nil => cases h; exact hm
  | cons e rest ih =>
    obtain ⟨u, hu, hrest⟩ := Option.bind_eq_some_iff.mp h
    exact mounted_before ht hu (ih hrest)

/-- Only `dispose` unmounts a page. -/
theorem step_mounted (ht : code.Timely) {s t : Live σ Op Answer} {e : Event Answer Tap}
    (he : e ≠ .dispose) (h : code.step s e = some t) : t.frame.mounted = s.frame.mounted := by
  cases e with
  | tap tap =>
    obtain ⟨-, hdl, hhdl, rfl⟩ := step_tap h
    rw [Live.settle_frame]
    exact (ht.onTap tap _ hdl hhdl).mounted s.frame
  | answer i a =>
    obtain ⟨-, op, hdl, -, hhdl, rfl⟩ := step_answer h
    rw [Live.settle_frame]
    exact (ht.resume op a hdl hhdl).mounted s.frame
  | dispose => exact absurd rfl he

theorem opened_mounted (ht : code.Timely) : code.opened.frame.mounted = true := by
  rw [opened, Live.settle_frame]
  exact ht.initState.mounted _

/-- A run keeps every `setState` in time exactly when no unquiet answer comes
after the page was disposed. -/
theorem inTime_iff {Quiet : Op → Answer → Prop} (ht : code.Timely) (hq : code.QuietIff Quiet)
    (es : List (Event Answer Tap)) :
    Runs.Throughout code.step Live.InTime code.opened es ↔
      Runs.AtEachStep code.step (AnsweredInTime Quiet) code.opened es := by
  refine Runs.throughout_iff (I := Live.InTime) ?_ (fun s h => h) ?_ (opened_inTime ht) es
  · intro s e t hs hc hstep
    cases e with
    | tap tap =>
      obtain ⟨hm, hdl, hhdl, rfl⟩ := step_tap hstep
      rw [Live.InTime, Live.settle_frame, (ht.onTap tap _ hdl hhdl).inTime s.frame hm]
      exact hs
    | answer i a =>
      obtain ⟨-, op, hdl, hop, hhdl, rfl⟩ := step_answer hstep
      rw [Live.InTime, Live.settle_frame]
      cases hm : s.frame.mounted with
      | true => rw [(ht.resume op a hdl hhdl).inTime s.frame hm]; exact hs
      | false => rw [(hq.late op a hdl s.frame hhdl hm).mpr (hc i a op rfl hop hm)]; exact hs
    | dispose =>
      obtain ⟨-, rfl⟩ := step_dispose hstep
      exact hs
  · intro s e t hs hstep ht' i a op he hop hm
    subst he
    obtain ⟨-, op', hdl, hop', hhdl, rfl⟩ := step_answer hstep
    obtain rfl : op' = op := Option.some.inj (hop'.symm.trans hop)
    rw [Live.InTime, Live.settle_frame] at ht'
    exact (hq.late op' a hdl s.frame hhdl hm).mp (ht'.trans hs.symm)

/-- The same for one step. -/
theorem inTime_step_iff {Quiet : Op → Answer → Prop} (ht : code.Timely) (hq : code.QuietIff Quiet)
    {s t : Live σ Op Answer} {e : Event Answer Tap} (hs : s.InTime) (h : code.step s e = some t) :
    t.InTime ↔ AnsweredInTime Quiet s e t := by
  cases e with
  | tap tap =>
    obtain ⟨hm, hdl, hhdl, rfl⟩ := step_tap h
    refine iff_of_true ?_ fun i a op he => nomatch he
    rw [Live.InTime, Live.settle_frame, (ht.onTap tap _ hdl hhdl).inTime s.frame hm]
    exact hs
  | answer i a =>
    obtain ⟨-, op, hdl, hop, hhdl, rfl⟩ := step_answer h
    rw [Live.InTime, Live.settle_frame]
    constructor
    · intro ht' j b op' he hop' hm
      cases he
      obtain rfl := Option.some.inj (hop.symm.trans hop')
      exact (hq.late op a hdl s.frame hhdl hm).mp (ht'.trans hs.symm)
    · intro hc
      cases hm : s.frame.mounted with
      | true => exact ((ht.resume op a hdl hhdl).inTime s.frame hm).trans hs
      | false => exact ((hq.late op a hdl s.frame hhdl hm).mpr (hc i a op rfl hop hm)).trans hs
  | dispose =>
    obtain ⟨-, rfl⟩ := step_dispose h
    exact iff_of_true hs fun i a op he => nomatch he

/-- A page whose answers are all quiet is in time throughout every run. -/
theorem inTime_of_quiet {Quiet : Op → Answer → Prop} (ht : code.Timely) (hq : code.QuietIff Quiet)
    (hall : ∀ op a, Quiet op a) (es : List (Event Answer Tap)) :
    Runs.Throughout code.step Live.InTime code.opened es :=
  (inTime_iff ht hq es).mpr (.of_forall (fun _ _ _ _ a op _ _ _ => hall op a) _ es)

end PageCode

end Flutter
