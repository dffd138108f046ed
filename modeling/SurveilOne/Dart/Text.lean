import Mathlib.Data.List.DropRight
import Mathlib.Data.List.Infix

/-!
# Dart strings

A string is the list of its characters.  The operations below are those of
`String` in `dart:core` under their own names, on patterns that are plain
strings.  `toUpperCase` needs the Unicode tables, so it is a value of `Casing`,
a function together with what the developments rely on.
-/

namespace Dart

abbrev Text := List Char

namespace Text

/-- The characters `String.trim` removes: the Unicode white space and the byte
order mark. -/
def isWhitespace (c : Char) : Bool :=
  let n := c.toNat
  (9 ≤ n && n ≤ 13) || n = 32 || n = 0x85 || n = 0xA0 || n = 0x1680 ||
    (0x2000 ≤ n && n ≤ 0x200A) || n = 0x2028 || n = 0x2029 || n = 0x202F ||
    n = 0x205F || n = 0x3000 || n = 0xFEFF

def trimLeft (s : Text) : Text := s.dropWhile isWhitespace

def trimRight (s : Text) : Text := s.rdropWhile isWhitespace

def trim (s : Text) : Text := trimRight (trimLeft s)

def startsWith (s pattern : Text) : Bool := pattern.isPrefixOf s

def endsWith (s pattern : Text) : Bool := pattern.isSuffixOf s

/-- The rest of the string from index `i` on. -/
def substring (s : Text) (i : Nat) : Text := s.drop i

/-- The index of the first match, `none` for Dart's `-1`. -/
def indexOf (pattern : Text) : Text → Option Nat
  | [] => if pattern.isEmpty then some 0 else none
  | c :: s => if pattern.isPrefixOf (c :: s) then some 0 else (indexOf pattern s).map (· + 1)

def contains (s pattern : Text) : Bool := (indexOf pattern s).isSome

/-- The pieces between the matches, scanning from the left.  `skip` counts the
characters of the current match that are still to be passed over. -/
def splitGo (pattern : Text) : Nat → Text → Text → List Text
  | _, piece, [] => [piece.reverse]
  | skip + 1, piece, _ :: s => splitGo pattern skip piece s
  | 0, piece, c :: s =>
    if pattern.isPrefixOf (c :: s) then
      piece.reverse :: splitGo pattern (pattern.length - 1) [] s
    else splitGo pattern 0 (c :: piece) s

/-- `split` on a non-empty pattern. -/
def split (s pattern : Text) : List Text := splitGo pattern 0 [] s

/-- `s.split(pattern).last`. -/
def lastPiece (s pattern : Text) : Text := (split s pattern).getLastD []

def replaceFirst (s pattern replacement : Text) : Text :=
  match indexOf pattern s with
  | some i => s.take i ++ replacement ++ s.drop (i + pattern.length)
  | none => s

def isAsciiLower (c : Char) : Bool := 97 ≤ c.toNat && c.toNat ≤ 122

/-! ## Prefixes and matches -/

theorem startsWith_iff {s pattern : Text} : startsWith s pattern = true ↔ pattern <+: s :=
  List.isPrefixOf_iff_prefix

theorem startsWith_append (pattern s : Text) : startsWith (pattern ++ s) pattern = true :=
  startsWith_iff.mpr (List.prefix_append pattern s)

theorem substring_append (pattern s : Text) : substring (pattern ++ s) pattern.length = s :=
  List.drop_left

theorem indexOf_isSome_iff {pattern : Text} (s : Text) :
    (indexOf pattern s).isSome = true ↔ pattern <:+: s := by
  induction s with
  | nil =>
    rw [List.infix_nil]
    cases pattern with
    | nil => simp [indexOf]
    | cons p ps => simp [indexOf]
  | cons c s ih =>
    rw [indexOf, List.infix_cons_iff, ← ih, ← List.isPrefixOf_iff_prefix]
    by_cases h : pattern.isPrefixOf (c :: s) = true
    · simp [h]
    · simp [h]

theorem contains_iff {s pattern : Text} : contains s pattern = true ↔ pattern <:+: s :=
  indexOf_isSome_iff s

theorem indexOf_eq_none_iff {s pattern : Text} : indexOf pattern s = none ↔ ¬ pattern <:+: s := by
  rw [← indexOf_isSome_iff, Bool.not_eq_true, Option.isSome_eq_false_iff, Option.isNone_iff_eq_none]

/-- Text without the first character of the pattern is passed over. -/
theorem indexOf_append_of_notMem {p : Char} {ps u : Text} (h : p ∉ u) (s : Text) :
    indexOf (p :: ps) (u ++ s) = (indexOf (p :: ps) s).map (· + u.length) := by
  induction u with
  | nil => simp
  | cons c u ih =>
    have hne : p ≠ c := List.ne_of_not_mem_cons h
    have hpre : ¬ (p :: ps).isPrefixOf (c :: (u ++ s)) = true := fun hpre =>
      hne (List.cons_prefix_cons.mp (List.isPrefixOf_iff_prefix.mp hpre)).1
    rw [List.cons_append, indexOf, if_neg hpre, ih (List.not_mem_of_not_mem_cons h), Option.map_map]
    rfl

theorem indexOf_of_startsWith {pattern s : Text} (hne : pattern ≠ []) (h : pattern <+: s) :
    indexOf pattern s = some 0 := by
  cases s with
  | nil => exact absurd (List.prefix_nil.mp h) hne
  | cons c s => rw [indexOf, if_pos (List.isPrefixOf_iff_prefix.mpr h)]

theorem indexOf_cons_of_not_startsWith {pattern s : Text} {c : Char} (h : ¬ pattern <+: c :: s) :
    indexOf pattern (c :: s) = (indexOf pattern s).map (· + 1) := by
  rw [indexOf, if_neg fun hpre => h (List.isPrefixOf_iff_prefix.mp hpre)]

theorem takeWhile_append_separator {c : Char} {x : Text} (hx : c ∉ x) (s : Text) :
    (x ++ c :: s).takeWhile (· ≠ c) = x := by
  have hall : ∀ d ∈ x, decide (d ≠ c) = true := fun d hd =>
    decide_eq_true (ne_of_mem_of_not_mem hd hx)
  rw [List.takeWhile_append_of_pos hall, List.takeWhile_cons_of_neg (by simp), List.append_nil]

/-- Two texts followed by their first separator are the same when one is a prefix
of the other. -/
theorem eq_of_prefix_separator {c : Char} {x u s : Text} (hx : c ∉ x) (hu : c ∉ u)
    (h : x ++ [c] <+: u ++ c :: s) : x = u := by
  obtain ⟨t, ht⟩ := h
  have happ : x ++ c :: t = u ++ c :: s := by
    rw [← ht, List.append_assoc]
    rfl
  rw [← takeWhile_append_separator hx t, happ, takeWhile_append_separator hu s]

/-! ## Splitting -/

theorem splitGo_ne_nil (pattern : Text) :
    ∀ (s : Text) (skip : Nat) (piece : Text), splitGo pattern skip piece s ≠ [] := by
  intro s
  induction s with
  | nil => intro skip piece; cases skip <;> simp [splitGo]
  | cons c s ih =>
    intro skip piece
    cases skip with
    | zero =>
      rw [splitGo]
      split
      · simp
      · exact ih 0 (c :: piece)
    | succ skip => rw [splitGo]; exact ih skip piece

theorem splitGo_skip (pattern piece : Text) :
    ∀ (s : Text) (skip : Nat), skip ≤ s.length →
      splitGo pattern skip piece s = splitGo pattern 0 piece (s.drop skip) := by
  intro s
  induction s with
  | nil => intro skip h; cases skip with
    | zero => rfl
    | succ skip => simp at h
  | cons c s ih =>
    intro skip h
    cases skip with
    | zero => rfl
    | succ skip =>
      rw [splitGo, List.drop_succ_cons]
      exact ih skip (by simpa using h)

theorem splitGo_of_unmatched {pattern : Text} :
    ∀ (s piece : Text), ¬ pattern <:+: s → splitGo pattern 0 piece s = [piece.reverse ++ s] := by
  intro s
  induction s with
  | nil => intro piece _; simp [splitGo]
  | cons c s ih =>
    intro piece h
    rw [List.infix_cons_iff, not_or] at h
    have hp : ¬ pattern.isPrefixOf (c :: s) = true := fun hp =>
      h.1 (List.isPrefixOf_iff_prefix.mp hp)
    rw [splitGo, if_neg hp, ih (c :: piece) h.2, List.reverse_cons, List.append_assoc,
      List.singleton_append]

theorem lastPiece_of_unmatched {s pattern : Text} (h : ¬ pattern <:+: s) :
    lastPiece s pattern = s := by
  rw [lastPiece, split, splitGo_of_unmatched s [] h]
  rfl

theorem splitGo_getLastD_cons (pattern x s piece : Text) (skip : Nat) :
    (x :: splitGo pattern skip piece s).getLastD [] = (splitGo pattern skip piece s).getLastD [] := by
  cases h : splitGo pattern skip piece s with
  | nil => exact absurd h (splitGo_ne_nil pattern s skip piece)
  | cons y ys => rfl

/-- Behind a match the scan begins anew. -/
theorem splitGo_match {pattern : Text} (hne : pattern ≠ []) (s piece : Text) :
    (splitGo pattern 0 piece (pattern ++ s)).getLastD [] = lastPiece s pattern := by
  cases pattern with
  | nil => exact absurd rfl hne
  | cons p ps =>
    have hpre : (p :: ps).isPrefixOf (p :: (ps ++ s)) = true :=
      List.isPrefixOf_iff_prefix.mpr ⟨s, rfl⟩
    have hlen : (p :: ps).length - 1 = ps.length := by simp
    rw [List.cons_append, splitGo, if_pos hpre, splitGo_getLastD_cons, hlen,
      splitGo_skip (p :: ps) [] (ps ++ s) ps.length (by simp), List.drop_left]
    rfl

theorem lastPiece_append {pattern : Text} (hp : pattern ≠ []) (s : Text) :
    lastPiece (pattern ++ s) pattern = lastPiece s pattern :=
  splitGo_match hp s []

/-- What follows the last occurrence of a character. -/
theorem lastPiece_append_cons {c : Char} {s : Text} (hs : c ∉ s) (dir : Text) :
    lastPiece (dir ++ c :: s) [c] = s := by
  suffices h : ∀ dir piece, (splitGo [c] 0 piece (dir ++ c :: s)).getLastD [] = s from h dir []
  intro dir
  induction dir with
  | nil =>
    intro piece
    have hpre : [c].isPrefixOf (c :: s) = true := List.isPrefixOf_iff_prefix.mpr ⟨s, rfl⟩
    have hnot : ¬ [c] <:+: s := fun hin => hs (hin.subset List.mem_cons_self)
    rw [List.nil_append, splitGo, if_pos hpre, splitGo_getLastD_cons]
    exact lastPiece_of_unmatched hnot
  | cons d dir ih =>
    intro piece
    rw [List.cons_append, splitGo]
    split
    · rw [splitGo_getLastD_cons]
      exact ih []
    · exact ih (d :: piece)

/-- What precedes the first occurrence of a character. -/
theorem split_head_append_cons {c : Char} {x : Text} (hx : c ∉ x) (s : Text) :
    (split (x ++ c :: s) [c]).head? = some x := by
  suffices h : ∀ x piece, c ∉ x →
      (splitGo [c] 0 piece (x ++ c :: s)).head? = some (piece.reverse ++ x) from h x [] hx
  intro x
  induction x with
  | nil =>
    intro piece _
    have hpre : [c].isPrefixOf (c :: s) = true := List.isPrefixOf_iff_prefix.mpr ⟨s, rfl⟩
    rw [List.nil_append, splitGo, if_pos hpre, List.head?_cons, List.append_nil]
  | cons d x ih =>
    intro piece hd
    have hnot : ¬ [c].isPrefixOf (d :: (x ++ c :: s)) = true := by
      intro hpre
      have hcd : c = d := (List.cons_prefix_cons.mp (List.isPrefixOf_iff_prefix.mp hpre)).1
      exact hd (hcd ▸ List.mem_cons_self)
    rw [List.cons_append, splitGo, if_neg hnot, ih (d :: piece) fun hmem => hd (List.mem_cons_of_mem d hmem),
      List.reverse_cons, List.append_assoc, List.singleton_append]

theorem splitGo_getLastD_suffix (pattern : Text) :
    ∀ s : Text, (∀ piece, (splitGo pattern 0 piece s).getLastD [] <:+ piece.reverse ++ s) ∧
      ∀ skip, (splitGo pattern skip [] s).getLastD [] <:+ s := by
  intro s
  induction s with
  | nil =>
    refine ⟨fun piece => ?_, fun skip => ?_⟩
    · simp [splitGo]
    · cases skip <;> simp [splitGo]
  | cons c s ih =>
    have hzero : ∀ piece,
        (splitGo pattern 0 piece (c :: s)).getLastD [] <:+ piece.reverse ++ c :: s := by
      intro piece
      rw [splitGo]
      by_cases hp : pattern.isPrefixOf (c :: s) = true
      · rw [if_pos hp, splitGo_getLastD_cons]
        have hlast := ih.2 (pattern.length - 1)
        exact hlast.trans ((List.suffix_cons c s).trans (List.suffix_append _ _))
      · rw [if_neg hp]
        have hlast := ih.1 (c :: piece)
        rwa [List.reverse_cons, List.append_assoc, List.singleton_append] at hlast
    refine ⟨hzero, fun skip => ?_⟩
    cases skip with
    | zero => exact hzero []
    | succ skip => rw [splitGo]; exact (ih.2 skip).trans (List.suffix_cons c s)

/-- A match costs the last piece at least its own length. -/
theorem splitGo_getLastD_length_of_matched {pattern : Text} (hne : pattern ≠ []) :
    ∀ (s piece : Text), pattern <:+: s →
      ((splitGo pattern 0 piece s).getLastD []).length + pattern.length ≤ s.length := by
  intro s
  induction s with
  | nil => intro piece h; exact absurd (List.infix_nil.mp h) hne
  | cons c s ih =>
    intro piece h
    rw [splitGo]
    by_cases hp : pattern.isPrefixOf (c :: s) = true
    · rw [if_pos hp, splitGo_getLastD_cons]
      have hpos : 0 < pattern.length := List.length_pos_of_ne_nil hne
      have hlen : pattern.length ≤ (c :: s).length :=
        (List.isPrefixOf_iff_prefix.mp hp).length_le
      have hlast :=
        ((splitGo_getLastD_suffix pattern (s.drop (pattern.length - 1))).2 0).length_le
      rw [List.length_cons] at hlen ⊢
      rw [← splitGo_skip pattern [] s (pattern.length - 1) (by omega), List.length_drop] at hlast
      omega
    · rw [if_neg hp]
      have hs : pattern <:+: s := by
        rcases List.infix_cons_iff.mp h with h | h
        · exact absurd (List.isPrefixOf_iff_prefix.mpr h) hp
        · exact h
      have hlast := ih (c :: piece) hs
      rw [List.length_cons]
      omega

/-- Text in which no match begins is carried over into the current piece. -/
theorem splitGo_append {pattern : Text} :
    ∀ (u v piece : Text), (∀ w, w <:+ u → w ≠ [] → ¬ pattern <+: w ++ v) →
      splitGo pattern 0 piece (u ++ v) = splitGo pattern 0 (u.reverse ++ piece) v := by
  intro u
  induction u with
  | nil => intro v piece _; rfl
  | cons c u ih =>
    intro v piece h
    have hp : ¬ pattern.isPrefixOf (c :: (u ++ v)) = true := fun hp =>
      h (c :: u) (List.suffix_refl _) (by simp) (List.isPrefixOf_iff_prefix.mp hp)
    rw [List.cons_append, splitGo, if_neg hp, ih v (c :: piece)
      (fun w hw => h w (hw.trans (List.suffix_cons c u)))]
    simp

theorem lastPiece_suffix (s pattern : Text) : lastPiece s pattern <:+ s :=
  (splitGo_getLastD_suffix pattern s).2 0

theorem splitGo_no_match {pattern s piece : Text} {c : Char} (h : ¬ pattern <+: c :: s) :
    splitGo pattern 0 piece (c :: s) = splitGo pattern 0 (c :: piece) s := by
  rw [splitGo, if_neg fun hpre => h (List.isPrefixOf_iff_prefix.mp hpre)]

/-- The scan goes on by a character or over a match. -/
theorem split_induction {pattern : Text} (hne : pattern ≠ []) {motive : Text → Prop}
    (nil : motive []) (onMatch : ∀ s, motive s → motive (pattern ++ s))
    (onChar : ∀ c s, ¬ pattern <+: c :: s → motive s → motive (c :: s)) (s : Text) : motive s := by
  induction hlen : s.length using Nat.strong_induction_on generalizing s with
  | _ n ih =>
    subst hlen
    by_cases hpre : pattern <+: s
    · obtain ⟨t, rfl⟩ := hpre
      have hpos := List.length_pos_of_ne_nil hne
      exact onMatch t (ih t.length (by rw [List.length_append]; omega) t rfl)
    · cases s with
      | nil => exact nil
      | cons c s => exact onChar c s hpre (ih s.length (Nat.lt_succ_self _) s rfl)

/-- The last piece stands behind a match. -/
theorem exists_append_lastPiece {s pattern : Text} (hne : pattern ≠ []) (h : pattern <:+: s) :
    ∃ front, s = front ++ (pattern ++ lastPiece s pattern) := by
  suffices hgo : ∀ piece, ∃ front,
      s = front ++ (pattern ++ (splitGo pattern 0 piece s).getLastD []) from hgo []
  induction s using split_induction hne with
  | nil => exact absurd (List.infix_nil.mp h) hne
  | onMatch s ih =>
    intro piece
    rw [splitGo_match hne]
    by_cases hs : pattern <:+: s
    · obtain ⟨front, hfront⟩ := ih hs []
      exact ⟨pattern ++ front, by rw [List.append_assoc]; exact congrArg (pattern ++ ·) hfront⟩
    · exact ⟨[], by rw [lastPiece_of_unmatched hs, List.nil_append]⟩
  | onChar c s hpre ih =>
    intro piece
    have hs : pattern <:+: s := (List.infix_cons_iff.mp h).resolve_left hpre
    obtain ⟨front, hfront⟩ := ih hs (c :: piece)
    exact ⟨c :: front, by rw [splitGo_no_match hpre]; exact congrArg (c :: ·) hfront⟩

/-- A text that ends in a match, as the scan finds them, ends a piece. -/
theorem lastPiece_append_of_nil {x pattern : Text} (hne : pattern ≠ [])
    (h : lastPiece x pattern = []) (s : Text) : lastPiece (x ++ s) pattern = lastPiece s pattern := by
  suffices hgo : ∀ piece, piece ++ x ≠ [] → (splitGo pattern 0 piece x).getLastD [] = [] →
      (splitGo pattern 0 piece (x ++ s)).getLastD [] = lastPiece s pattern by
    cases x with
    | nil => rfl
    | cons c x => exact hgo [] (List.cons_ne_nil c x) h
  clear h
  induction x using split_induction hne with
  | nil =>
    intro piece hpiece hnil
    exact absurd (by simpa [splitGo] using hnil) (by simpa using hpiece)
  | onMatch x ih =>
    intro piece _ hnil
    rw [splitGo_match hne] at hnil
    rw [List.append_assoc, splitGo_match hne]
    cases x with
    | nil => rfl
    | cons c x => exact ih [] (List.cons_ne_nil c x) hnil
  | onChar c x hpre ih =>
    intro piece _ hnil
    rw [splitGo_no_match hpre] at hnil
    -- A later match lies within `x`, so none begins here and reaches beyond it.
    have hin : pattern <:+: x := by
      by_contra hin
      rw [splitGo_of_unmatched x _ hin] at hnil
      simp at hnil
    have hpre' : ¬ pattern <+: c :: (x ++ s) := fun hp =>
      hpre (List.prefix_of_prefix_length_le hp (List.prefix_append (c :: x) s)
        (Nat.le_succ_of_le hin.length_le))
    rw [List.cons_append, splitGo_no_match hpre']
    exact ih (c :: piece) (by simp) hnil

/-- Where the last piece is all of `s`, the text before it ends in a match. -/
theorem lastPiece_eq_nil_of_append {x s pattern : Text} (hne : pattern ≠ [])
    (hin : pattern <:+: x ++ s) (h : lastPiece (x ++ s) pattern = s) :
    lastPiece x pattern = [] ∧ ¬ pattern <:+: s := by
  suffices hgo : ∀ piece, (splitGo pattern 0 piece (x ++ s)).getLastD [] = s →
      (splitGo pattern 0 piece x).getLastD [] = [] ∧ ¬ pattern <:+: s from hgo [] h
  clear h
  have hpos := List.length_pos_of_ne_nil hne
  induction x using split_induction hne with
  | nil =>
    intro piece hlast
    have hlen := splitGo_getLastD_length_of_matched hne s piece hin
    rw [List.nil_append] at hlast
    rw [hlast] at hlen
    omega
  | onMatch x ih =>
    intro piece hlast
    rw [List.append_assoc, splitGo_match hne] at hlast
    rw [splitGo_match hne]
    by_cases hx : pattern <:+: x ++ s
    · exact ih hx [] hlast
    · rw [lastPiece_of_unmatched hx] at hlast
      obtain rfl : x = [] := by simpa using hlast
      exact ⟨rfl, hx⟩
  | onChar c x hpre ih =>
    intro piece hlast
    rw [List.cons_append] at hin hlast
    by_cases hpre' : pattern <+: c :: (x ++ s)
    · -- The match would reach into `s` and leave less than all of it.
      obtain ⟨t, ht⟩ := hpre'
      rw [← ht, splitGo_match hne] at hlast
      have hshort := (lastPiece_suffix t pattern).length_le
      have hlong : (c :: x).length < pattern.length := by
        by_contra hle
        have hwhole : pattern <+: (c :: x) ++ s := ⟨t, ht⟩
        exact hpre (List.prefix_of_prefix_length_le hwhole (List.prefix_append (c :: x) s)
          (Nat.le_of_not_lt hle))
      have hlen := congrArg List.length ht
      rw [hlast] at hshort
      simp only [List.length_append, List.length_cons] at hlen hlong
      omega
    · rw [splitGo_no_match hpre'] at hlast
      rw [splitGo_no_match hpre]
      exact ih ((List.infix_cons_iff.mp hin).resolve_left hpre') (c :: piece) hlast

/-! ## Trimming -/

theorem isWhitespace_of_printable {c : Char} (hl : 33 ≤ c.toNat) (hh : c.toNat ≤ 132) :
    isWhitespace c = false := by
  simp only [isWhitespace, Bool.or_eq_false_iff, Bool.and_eq_false_iff, decide_eq_false_iff_not]
  omega

/-- Neither end of the string is white space. -/
def EdgesClear (s : Text) : Prop :=
  (∀ c ∈ s.head?, isWhitespace c = false) ∧ ∀ c ∈ s.getLast?, isWhitespace c = false

section Ends

variable {p : Char → Bool} {s : Text}

theorem dropWhile_eq_self : s.dropWhile p = s ↔ ∀ c ∈ s.head?, p c = false := by
  cases s with
  | nil => simp
  | cons c s => simp [List.dropWhile_eq_self_iff]

theorem rdropWhile_eq_self : s.rdropWhile p = s ↔ ∀ c ∈ s.getLast?, p c = false := by
  rw [List.rdropWhile_eq_self_iff]
  constructor
  · intro h c hc
    obtain ⟨hne, rfl⟩ := List.mem_getLast?_eq_getLast hc
    simpa using h hne
  · intro h hne
    simpa using h _ (List.getLast?_eq_some_getLast hne)

/-- Taking characters away at both ends leaves a text alone when neither end is
one of them. -/
theorem strip_eq_self : (s.dropWhile p).rdropWhile p = s ↔
    (∀ c ∈ s.head?, p c = false) ∧ ∀ c ∈ s.getLast?, p c = false := by
  constructor
  · intro h
    have hsuf : s.dropWhile p <:+ s := List.dropWhile_suffix _
    have hpre := (List.rdropWhile_prefix p (s.dropWhile p)).length_le
    rw [h] at hpre
    have hleft : s.dropWhile p = s := hsuf.eq_of_length_le hpre
    rw [hleft] at h
    exact ⟨dropWhile_eq_self.mp hleft, rdropWhile_eq_self.mp h⟩
  · rintro ⟨hl, hr⟩
    rw [dropWhile_eq_self.mpr hl, rdropWhile_eq_self.mpr hr]

end Ends

theorem trim_eq_self {s : Text} : trim s = s ↔ EdgesClear s := strip_eq_self

theorem edgesClear_trim (s : Text) : EdgesClear (trim s) := by
  refine ⟨fun c hc => ?_, rdropWhile_eq_self.mp (List.rdropWhile_idempotent _ _)⟩
  have hpre : trim s <+: trimLeft s := List.rdropWhile_prefix _ _
  have hleft : trimLeft (trimLeft s) = trimLeft s := List.dropWhile_idempotent _ _
  refine dropWhile_eq_self.mp hleft c ?_
  obtain ⟨t, ht⟩ := hpre
  rw [← ht]
  cases h : trim s with
  | nil => rw [h] at hc; exact absurd hc (by simp)
  | cons d ds => rw [h] at hc; simpa using hc

@[simp] theorem trim_trim (s : Text) : trim (trim s) = trim s := trim_eq_self.mpr (edgesClear_trim s)

/-- For literals: the characters are looked at one after the other. -/
theorem forall_mem_of_all {p : Char → Prop} [DecidablePred p] {s : Text}
    (h : s.all (fun c => decide (p c)) = true) : ∀ c ∈ s, p c :=
  fun c hc => of_decide_eq_true (List.all_eq_true.mp h c hc)

end Text

/-- `String.toUpperCase`, with what is relied on of it. -/
structure Casing where
  upper : Text → Text
  upper_upper : ∀ s, upper (upper s) = upper s
  upper_ascii : ∀ s : Text, (∀ c ∈ s, c.toNat < 128) → upper s = s.map Char.toUpper
  no_lower : ∀ s, ∀ c ∈ upper s, Text.isAsciiLower c = false
  upper_ne_nil : ∀ s, s ≠ [] → upper s ≠ []
  /-- No other character becomes white space. -/
  edgesClear : ∀ s, Text.EdgesClear s → Text.EdgesClear (upper s)

namespace Casing

theorem toNat_toUpper (c : Char) :
    c.toUpper.toNat = if Text.isAsciiLower c = true then c.toNat - 32 else c.toNat := by
  have hiff : ('a'.val ≤ c.val ∧ c.val ≤ 'z'.val) ↔ Text.isAsciiLower c = true := by
    simp only [Text.isAsciiLower, Bool.and_eq_true, decide_eq_true_eq]
    exact Iff.rfl
  by_cases h : 'a'.val ≤ c.val ∧ c.val ≤ 'z'.val
  · have hlow : 97 ≤ c.val.toNat := h.1
    have hhigh : c.val.toNat ≤ 122 := h.2
    have hup : c.toUpper = _ := dif_pos h
    rw [if_pos (hiff.mp h), hup]
    show (c.val + ('A'.val - 'a'.val)).toNat = c.val.toNat - 32
    rw [UInt32.toNat_add, show ('A'.val - 'a'.val).toNat = 2 ^ 32 - 32 from rfl]
    omega
  · have hsame : c.toUpper = c := dif_neg h
    rw [if_neg (fun hl => h (hiff.mpr hl)), hsame]

theorem isAsciiLower_toUpper (c : Char) : Text.isAsciiLower c.toUpper = false := by
  have h := toNat_toUpper c
  by_cases hl : Text.isAsciiLower c = true
  · rw [if_pos hl] at h
    simp only [Text.isAsciiLower, Bool.and_eq_true, decide_eq_true_eq] at hl
    simp only [Text.isAsciiLower, h, Bool.and_eq_false_iff, decide_eq_false_iff_not]
    omega
  · rw [if_neg hl] at h
    simpa [Text.isAsciiLower, h] using hl

theorem toUpper_of_not_lower {c : Char} (hl : Text.isAsciiLower c = false) : c.toUpper = c := by
  have h := toNat_toUpper c
  rw [hl, if_neg Bool.false_ne_true] at h
  exact Char.toNat_inj.mp h

theorem toUpper_toUpper (c : Char) : c.toUpper.toUpper = c.toUpper :=
  toUpper_of_not_lower (isAsciiLower_toUpper c)

theorem isWhitespace_toUpper (c : Char) :
    Text.isWhitespace c.toUpper = Text.isWhitespace c := by
  have h := toNat_toUpper c
  by_cases hl : Text.isAsciiLower c = true
  · rw [if_pos hl] at h
    simp only [Text.isAsciiLower, Bool.and_eq_true, decide_eq_true_eq] at hl
    rw [Text.isWhitespace_of_printable (by omega) (by omega),
      Text.isWhitespace_of_printable (by omega) (by omega)]
  · rw [toUpper_of_not_lower (by simpa using hl)]

/-- The instance that acts on the ASCII letters only. -/
def ascii : Casing where
  upper s := s.map Char.toUpper
  upper_upper s := by
    show (s.map Char.toUpper).map Char.toUpper = s.map Char.toUpper
    rw [List.map_map]
    exact List.map_congr_left fun c _ => toUpper_toUpper c
  upper_ascii _ _ := rfl
  no_lower s c hc := by
    obtain ⟨d, _, rfl⟩ := List.mem_map.mp hc
    exact isAsciiLower_toUpper d
  upper_ne_nil s h := by simpa using h
  edgesClear s h := by
    refine ⟨fun c hc => ?_, fun c hc => ?_⟩
    · rw [List.head?_map] at hc
      obtain ⟨d, hd, rfl⟩ := Option.map_eq_some_iff.mp hc
      rw [isWhitespace_toUpper]
      exact h.1 d hd
    · rw [List.getLast?_map] at hc
      obtain ⟨d, hd, rfl⟩ := Option.map_eq_some_iff.mp hc
      rw [isWhitespace_toUpper]
      exact h.2 d hd

end Casing

end Dart
