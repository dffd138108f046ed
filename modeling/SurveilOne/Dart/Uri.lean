import SurveilOne.Dart.Value

/-!
# URIs

`Uri.tryParse` on texts with a scheme and an authority, as far as the host and
the path of the result go.  A text is split where RFC 3986 splits it, and the host and
the path are normalised: an escape of an unreserved character is decoded and any other
is written in upper case, what cannot stand there is percent-encoded, and `.` and `..`
are taken out of the path.  Which texts are accepted at all is left to `UriSyntax`, and
so is whether a backslash counts as a slash.

`NormalPath` says of a text that all this leaves it as it is.
-/

namespace Dart

structure Uri where
  host : Text
  path : Text

namespace Uri

/-! ## Characters and escapes -/

def isUnreserved (c : Char) : Bool :=
  let n := c.toNat
  n = 45 || n = 46 || (48 ≤ n && n ≤ 57) || (65 ≤ n && n ≤ 90) || n = 95 ||
    (97 ≤ n && n ≤ 122) || n = 126

/-- The characters RFC 3986 allows in a path, `/` included and the percent sign
left out. -/
def isPathChar (c : Char) : Bool :=
  let n := c.toNat
  n = 33 || n = 36 || (38 ≤ n && n ≤ 59) || n = 61 || (64 ≤ n && n ≤ 90) || n = 95 ||
    (97 ≤ n && n ≤ 122) || n = 126

/-- The characters of a registered name. -/
def isRegNameChar (c : Char) : Bool :=
  let n := c.toNat
  isUnreserved c || n = 33 || n = 36 || (38 ≤ n && n ≤ 44) || n = 59 || n = 61

def hexUpper (n : Nat) : Char := Char.ofNat (if n < 10 then 48 + n else 55 + n)

/-- The escape of a byte. -/
def percentOf (byte : Nat) : Text := ['%', hexUpper (byte / 16), hexUpper (byte % 16)]

def percentEncode (c : Char) : Text := (String.utf8EncodeChar c).flatMap fun b => percentOf b.toNat

def escapeValue (a b : Char) : Option Nat :=
  (digit 16 a).bind fun m => (digit 16 b).map fun n => 16 * m + n

/-- The byte of the escape behind a percent sign in front of the text. -/
def escapeAt : Text → Option Nat
  | a :: b :: _ => escapeValue a b
  | _ => none

/-- What becomes of an escape. -/
def escapeOf (lowerCase : Bool) (byte : Nat) : Text :=
  if isUnreserved (Char.ofNat byte) then
    [if lowerCase then (Char.ofNat byte).toLower else Char.ofNat byte]
  else percentOf byte

/-- `_normalize`.  `plain` is what becomes of a character other than the percent sign,
and a percent sign without an escape is encoded.  `skip` counts the digits of the
current escape that are still to be passed over. -/
def normalizeGo (lowerCase : Bool) (plain : Char → Text) : Nat → Text → Text
  | _, [] => []
  | skip + 1, _ :: s => normalizeGo lowerCase plain skip s
  | 0, c :: s =>
    if c = '%' then
      match escapeAt s with
      | some byte => escapeOf lowerCase byte ++ normalizeGo lowerCase plain 2 s
      | none => percentOf 37 ++ normalizeGo lowerCase plain 0 s
    else plain c ++ normalizeGo lowerCase plain 0 s

section Backslash

variable (backslash : Bool)

def encodeChar (c : Char) : Text :=
  if isPathChar c then [c] else if c = '\\' && backslash then ['/'] else percentEncode c

def encodePath : Text → Text := normalizeGo false (encodeChar backslash) 0

/-! ## Dot segments -/

def isDots (segment : Text) : Bool := segment = ['.'] || segment = ['.', '.']

/-- One round of the loop of `_removeDotSegments`.  The first segment is emptied and not
removed. -/
def removeDots (output : List Text) (segment : Text) : List Text :=
  if segment = ['.', '.'] then
    if 1 < output.length then output.dropLast else output.map fun _ => []
  else if segment = ['.'] then output
  else output ++ [segment]

/-- `_removeDotSegments`. -/
def removeDotSegments (path : Text) : Text :=
  let segments := path.splitOn '/'
  let output := segments.foldl removeDots []
  List.intercalate ['/'] (if isDots (segments.getLastD []) then output ++ [[]] else output)

def normalizePath (path : Text) : Text := removeDotSegments (encodePath backslash path)

/-! ## The parts of a text -/

def endsAuthority (c : Char) : Bool := c = '/' || c = '?' || c = '#' || (c = '\\' && backslash)

def endsPath (c : Char) : Bool := c = '?' || c = '#'

def afterScheme (u : Text) : Text := (u.dropWhile (· ≠ ':')).drop 3

def authority (u : Text) : Text := (afterScheme u).takeWhile fun c => !endsAuthority backslash c

def rawPath (u : Text) : Text :=
  ((afterScheme u).dropWhile fun c => !endsAuthority backslash c).takeWhile fun c => !endsPath c

end Backslash

/-- The host of an authority, without user info and port, in lower case. -/
def hostOf (authority : Text) : Text :=
  match authority.rtakeWhile (· ≠ '@') with
  | '[' :: rest => (rest.takeWhile (· ≠ ']')).map Char.toLower
  | hostPort =>
    normalizeGo true (fun c => if isRegNameChar c then [c.toLower] else percentEncode c) 0
      (hostPort.takeWhile (· ≠ ':'))

end Uri

/-- The texts `Uri.tryParse` accepts, and whether it reads a backslash in front of the
query as a slash, as Dart does, or encodes it.  A host of digits and dots is accepted
with every path. -/
structure UriSyntax where
  accepts : Text → Bool
  backslash : Bool
  accepts_address : ∀ host path : Text, host ≠ [] → (∀ c ∈ host, c.isDigit = true ∨ c = '.') →
    accepts ("http://".toList ++ host ++ '/' :: path) = true

def UriSyntax.tryParse (U : UriSyntax) (u : Text) : Option Uri :=
  if U.accepts u then
    some
      { host := Uri.hostOf (Uri.authority U.backslash u)
        path := Uri.normalizePath U.backslash (Uri.rawPath U.backslash u) }
  else none

namespace Uri

/-! ## Hex digits -/

theorem digit_hexUpper {n : Nat} (h : n < 16) : digit 16 (hexUpper n) = some n := by
  have hall : ∀ m < 16, digit 16 (hexUpper m) = some m := by decide
  exact hall n h

theorem isPathChar_hexUpper {n : Nat} (h : n < 16) : isPathChar (hexUpper n) = true := by
  have hall : ∀ m < 16, isPathChar (hexUpper m) = true := by decide
  exact hall n h

theorem hexUpper_ne_slash {n : Nat} (h : n < 16) : hexUpper n ≠ '/' := by
  have hall : ∀ m < 16, hexUpper m ≠ '/' := by decide
  exact hall n h

theorem digit_lt {radix n : Nat} {c : Char} (h : digit radix c = some n) : n < radix := by
  simp only [digit, Option.ite_none_right_eq_some, Option.some.injEq] at h
  obtain ⟨hlt, rfl⟩ := h
  exact hlt

theorem escapeValue_lt {a b : Char} {v : Nat} (h : escapeValue a b = some v) : v < 256 := by
  obtain ⟨m, hm, h⟩ := Option.bind_eq_some_iff.mp h
  obtain ⟨n, hn, rfl⟩ := Option.map_eq_some_iff.mp h
  have hm16 := digit_lt hm
  have hn16 := digit_lt hn
  omega

theorem escapeValue_hexUpper {v : Nat} (h : v < 256) :
    escapeValue (hexUpper (v / 16)) (hexUpper (v % 16)) = some v := by
  rw [escapeValue, digit_hexUpper (by omega), digit_hexUpper (by omega)]
  show some (16 * (v / 16) + v % 16) = some v
  rw [Nat.div_add_mod]

/-! ## Encoding a path -/

section Encode

variable {b : Bool}

theorem encodePath_cons {c : Char} (h : c ≠ '%') (s : Text) :
    encodePath b (c :: s) = encodeChar b c ++ encodePath b s := by
  rw [encodePath, normalizeGo, if_neg h]

theorem encodePath_escape {d e : Char} {v : Nat} (h : escapeValue d e = some v) (s : Text) :
    encodePath b ('%' :: d :: e :: s) = escapeOf false v ++ encodePath b s := by
  have hat : escapeAt (d :: e :: s) = some v := h
  rw [encodePath, normalizeGo, if_pos rfl, hat]
  rfl

theorem encodePath_percent {s : Text} (h : escapeAt s = none) :
    encodePath b ('%' :: s) = percentOf 37 ++ encodePath b s := by
  rw [encodePath, normalizeGo, if_pos rfl, h]

/-- A text is read one character or one escape at a time. -/
theorem escape_induction {motive : Text → Prop} (nil : motive [])
    (char : ∀ c s, c ≠ '%' → motive s → motive (c :: s))
    (escape : ∀ d e v s, escapeValue d e = some v → motive s → motive ('%' :: d :: e :: s))
    (percent : ∀ s, escapeAt s = none → motive s → motive ('%' :: s)) (s : Text) : motive s := by
  induction hlen : s.length using Nat.strong_induction_on generalizing s with
  | _ n ih =>
    subst hlen
    cases s with
    | nil => exact nil
    | cons c s =>
      by_cases hc : c = '%'
      · subst hc
        cases hat : escapeAt s with
        | none => exact percent s hat (ih s.length (by simp) s rfl)
        | some v =>
          match s, hat with
          | d :: e :: s, hat => exact escape d e v s hat (ih s.length (by simp; omega) s rfl)
      · exact char c s hc (ih s.length (by simp) s rfl)

theorem escapeAt_append_slash {s : Text} (h : escapeAt s = none) (t : Text) :
    escapeAt (s ++ '/' :: t) = none := by
  have hslash : digit 16 '/' = none := by decide
  match s with
  | [] => cases t <;> simp [escapeAt, escapeValue, hslash]
  | [d] => simp [escapeAt, escapeValue, hslash]
  | d :: e :: s => exact h

/-- No escape reaches across a slash. -/
theorem encodePath_append_slash (s t : Text) :
    encodePath b (s ++ '/' :: t) = encodePath b s ++ '/' :: encodePath b t := by
  induction s using escape_induction with
  | nil => exact encodePath_cons (by decide) t
  | char c s hc ih =>
    rw [List.cons_append, encodePath_cons hc, encodePath_cons hc, ih, List.append_assoc]
  | escape d e v s hv ih =>
    rw [List.cons_append, List.cons_append, List.cons_append, encodePath_escape hv,
      encodePath_escape hv, ih, List.append_assoc]
  | percent s hs ih =>
    rw [List.cons_append, encodePath_percent (escapeAt_append_slash hs t), encodePath_percent hs, ih,
      List.append_assoc]

end Encode

/-! ## Legal paths -/

/-- An escape that stays as it is, behind its percent sign. -/
def KeptEscape (s : Text) : Prop :=
  ∃ v t, v < 256 ∧ isUnreserved (Char.ofNat v) = false ∧
    s = hexUpper (v / 16) :: hexUpper (v % 16) :: t

/-- Nothing in the text needs to be encoded, and no escape is decoded or written in
another way. -/
def LegalPath : Text → Prop
  | [] => True
  | c :: s => (isPathChar c = true ∨ c = '%' ∧ KeptEscape s) ∧ LegalPath s

section Legal

variable {b : Bool} {s t : Text}

theorem legalPath_percentOf {v : Nat} (hv : v < 256) (hu : isUnreserved (Char.ofNat v) = false)
    (ht : LegalPath t) : LegalPath (percentOf v ++ t) :=
  ⟨Or.inr ⟨rfl, v, t, hv, hu, rfl⟩, Or.inl (isPathChar_hexUpper (by omega)),
    Or.inl (isPathChar_hexUpper (by omega)), ht⟩

theorem isPathChar_of_unreserved {c : Char} (h : isUnreserved c = true) : isPathChar c = true := by
  simp only [isUnreserved, isPathChar, Bool.or_eq_true, Bool.and_eq_true, decide_eq_true_eq] at h ⊢
  omega

theorem legalPath_escapeOf {v : Nat} (hv : v < 256) (ht : LegalPath t) :
    LegalPath (escapeOf false v ++ t) := by
  rw [escapeOf]
  split
  · exact ⟨Or.inl (isPathChar_of_unreserved ‹_›), ht⟩
  · exact legalPath_percentOf hv (by simpa using ‹¬ isUnreserved (Char.ofNat v) = true›) ht

/-- A byte of an encoded character that is not the character itself lies beyond the
ASCII characters. -/
theorem toNat_of_mem_utf8EncodeChar {c : Char} {u : UInt8} (h : u ∈ String.utf8EncodeChar c) :
    u.toNat = c.toNat ∨ 128 ≤ u.toNat := by
  have hbyte : ∀ n : Nat, (UInt8.ofNat n).toNat = n % 256 := fun n => UInt8.toNat_ofNat
  have hval : c.val.toNat = c.toNat := rfl
  dsimp only [String.utf8EncodeChar] at h
  split at h
  · rw [List.mem_singleton.mp h, hbyte, hval]
    omega
  · right
    split at h
    · simp only [List.mem_cons, List.not_mem_nil, or_false] at h
      rcases h with rfl | rfl <;> rw [hbyte] <;> omega
    · split at h
      · simp only [List.mem_cons, List.not_mem_nil, or_false] at h
        rcases h with rfl | rfl | rfl <;> rw [hbyte] <;> omega
      · simp only [List.mem_cons, List.not_mem_nil, or_false] at h
        rcases h with rfl | rfl | rfl | rfl <;> rw [hbyte] <;> omega

theorem legalPath_percentEncode {c : Char} (h : isPathChar c = false) (ht : LegalPath t) :
    LegalPath (percentEncode c ++ t) := by
  suffices hall : ∀ us : List UInt8, (∀ u ∈ us, u ∈ String.utf8EncodeChar c) →
      LegalPath (us.flatMap (fun u => percentOf u.toNat) ++ t) from hall _ fun _ hu => hu
  intro us
  induction us with
  | nil => exact fun _ => ht
  | cons u us ih =>
    intro hus
    rw [List.flatMap_cons, List.append_assoc]
    refine legalPath_percentOf u.toNat_lt ?_ (ih fun v hv => hus v (List.mem_cons_of_mem _ hv))
    have hlt := u.toNat_lt
    rcases toNat_of_mem_utf8EncodeChar (hus u (List.mem_cons_self ..)) with hu | hu
    · rw [hu, Char.ofNat_toNat]
      by_contra hne
      rw [isPathChar_of_unreserved (by simpa using hne)] at h
      cases h
    · have hchar : (Char.ofNat u.toNat).toNat = u.toNat := by
        have hvalid : u.toNat.isValidChar := Or.inl (by omega)
        rw [Char.ofNat, dif_pos hvalid]
        rfl
      simp only [isUnreserved, hchar, Bool.or_eq_false_iff, Bool.and_eq_false_iff,
        decide_eq_false_iff_not]
      omega

theorem legalPath_encodeChar (c : Char) (ht : LegalPath t) : LegalPath (encodeChar b c ++ t) := by
  rw [encodeChar]
  split
  · exact ⟨Or.inl ‹_›, ht⟩
  · split
    · exact ⟨Or.inl (by decide), ht⟩
    · exact legalPath_percentEncode (by simpa using ‹¬ isPathChar c = true›) ht

theorem legalPath_encodePath (s : Text) : LegalPath (encodePath b s) := by
  induction s using escape_induction with
  | nil => exact trivial
  | char c s hc ih =>
    rw [encodePath_cons hc]
    exact legalPath_encodeChar c ih
  | escape d e v s hv ih =>
    rw [encodePath_escape hv]
    exact legalPath_escapeOf (escapeValue_lt hv) ih
  | percent s hs ih =>
    rw [encodePath_percent hs]
    exact legalPath_percentOf (by decide) (by decide) ih

theorem LegalPath.encodePath_eq (h : LegalPath s) : encodePath b s = s := by
  induction s using escape_induction with
  | nil => rfl
  | char c s hc ih =>
    obtain ⟨hchar | ⟨hp, -⟩, hs⟩ := h
    · rw [encodePath_cons hc, encodeChar, if_pos hchar, ih hs, List.singleton_append]
    · exact absurd hp hc
  | escape d e v s hv ih =>
    obtain ⟨hchar | ⟨-, w, t, hw, hu, heq⟩, -, -, hs⟩ := h
    · exact absurd hchar (by decide)
    · obtain ⟨rfl, hrest⟩ := List.cons.inj heq
      obtain ⟨rfl, rfl⟩ := List.cons.inj hrest
      obtain rfl : w = v := Option.some.inj ((escapeValue_hexUpper hw).symm.trans hv)
      rw [encodePath_escape hv, escapeOf, hu, ih hs]
      rfl
  | percent s hs ih =>
    obtain ⟨hchar | ⟨-, w, t, hw, -, rfl⟩, -⟩ := h
    · exact absurd hchar (by decide)
    · have hat : escapeAt (hexUpper (w / 16) :: hexUpper (w % 16) :: t) = some w :=
        escapeValue_hexUpper hw
      rw [hat] at hs
      cases hs

theorem keptEscape_append_slash : KeptEscape (s ++ '/' :: t) ↔ KeptEscape s := by
  constructor
  · rintro ⟨v, u, hv, hu, heq⟩
    match s, heq with
    | [], heq => exact absurd (List.cons.inj heq).1.symm (hexUpper_ne_slash (by omega))
    | [d], heq =>
      exact absurd (List.cons.inj (List.cons.inj heq).2).1.symm (hexUpper_ne_slash (by omega))
    | d :: e :: s, heq =>
      obtain ⟨rfl, hrest⟩ := List.cons.inj heq
      exact ⟨v, s, hv, hu, by rw [(List.cons.inj hrest).1]⟩
  · rintro ⟨v, u, hv, hu, rfl⟩
    exact ⟨v, u ++ '/' :: t, hv, hu, rfl⟩

theorem legalPath_append_slash : LegalPath (s ++ '/' :: t) ↔ LegalPath s ∧ LegalPath t := by
  induction s with
  | nil => exact ⟨fun h => ⟨trivial, h.2⟩, fun h => ⟨Or.inl (by decide), h.2⟩⟩
  | cons c s ih =>
    rw [List.cons_append, LegalPath, LegalPath, keptEscape_append_slash, ih, and_assoc]

theorem LegalPath.not_endsPath (h : LegalPath s) {c : Char} (hc : c ∈ s) : endsPath c = false := by
  induction s with
  | nil => cases hc
  | cons d s ih =>
    rcases List.mem_cons.mp hc with rfl | hc
    · rw [endsPath, Bool.or_eq_false_iff, decide_eq_false_iff_not, decide_eq_false_iff_not]
      rcases h.1 with hchar | ⟨rfl, -⟩
      · constructor <;>
        · rintro rfl
          exact absurd hchar (by decide)
      · decide
    · exact ih h.2 hc

theorem legalPath_intercalate {l : List Text} :
    LegalPath (List.intercalate ['/'] l) ↔ ∀ s ∈ l, LegalPath s := by
  induction l with
  | nil => exact iff_of_true trivial fun s hs => by cases hs
  | cons s l ih =>
    cases l with
    | nil => simp
    | cons t l =>
      rw [List.intercalate_cons_cons, List.append_assoc, List.singleton_append,
        legalPath_append_slash, ih]
      exact List.forall_mem_cons.symm

end Legal

/-! ## Normal paths -/

/-- No segment of the text is `.` or `..`. -/
def NoDots (s : Text) : Prop := ∀ segment ∈ s.splitOn '/', isDots segment = false

/-- A text that the parser leaves as it is. -/
structure NormalPath (s : Text) : Prop where
  legal : LegalPath s
  noDots : NoDots s

section Normal

variable {b : Bool} {s t : Text}

theorem noDots_append_slash : NoDots (s ++ '/' :: t) ↔ NoDots s ∧ NoDots t := by
  rw [NoDots, List.splitOn_append_cons_self, List.forall_mem_append]
  exact Iff.rfl

theorem normalPath_append_slash : NormalPath (s ++ '/' :: t) ↔ NormalPath s ∧ NormalPath t := by
  constructor
  · intro h
    obtain ⟨hs, ht⟩ := legalPath_append_slash.mp h.legal
    obtain ⟨hs', ht'⟩ := noDots_append_slash.mp h.noDots
    exact ⟨⟨hs, hs'⟩, ht, ht'⟩
  · rintro ⟨hs, ht⟩
    exact ⟨legalPath_append_slash.mpr ⟨hs.legal, ht.legal⟩,
      noDots_append_slash.mpr ⟨hs.noDots, ht.noDots⟩⟩

theorem normalPath_nil : NormalPath [] :=
  ⟨trivial, fun _ hs => by rw [List.mem_singleton.mp hs]; rfl⟩

theorem removeDots_of_not_dots {segment : Text} (h : isDots segment = false) (output : List Text) :
    removeDots output segment = output ++ [segment] := by
  simp only [isDots, Bool.or_eq_false_iff, decide_eq_false_iff_not] at h
  rw [removeDots, if_neg h.2, if_neg h.1]

theorem foldl_removeDots {segments : List Text} (h : ∀ s ∈ segments, isDots s = false)
    (output : List Text) : segments.foldl removeDots output = output ++ segments := by
  induction segments generalizing output with
  | nil => exact (List.append_nil output).symm
  | cons s rest ih =>
    rw [List.foldl_cons, removeDots_of_not_dots (h s (List.mem_cons_self ..)),
      ih (fun s hs => h s (List.mem_cons_of_mem _ hs)), List.append_assoc, List.singleton_append]

theorem mem_removeDots {output : List Text} {segment x : Text} (h : x ∈ removeDots output segment) :
    x ∈ output ∨ x = [] ∨ x = segment ∧ isDots x = false := by
  rw [removeDots] at h
  split at h
  · split at h
    · exact Or.inl ((List.dropLast_prefix output).subset h)
    · obtain ⟨y, -, rfl⟩ := List.mem_map.mp h
      exact Or.inr (Or.inl rfl)
  · split at h
    · exact Or.inl h
    · rcases List.mem_append.mp h with h | h
      · exact Or.inl h
      · obtain rfl := List.mem_singleton.mp h
        refine Or.inr (Or.inr ⟨rfl, ?_⟩)
        simp only [isDots, Bool.or_eq_false_iff, decide_eq_false_iff_not]
        exact ⟨‹_›, ‹_›⟩

/-- What is left are segments that are no dots, and empty ones. -/
theorem mem_foldl_removeDots {segments output : List Text} {x : Text}
    (h : x ∈ segments.foldl removeDots output) :
    x ∈ output ∨ x = [] ∨ x ∈ segments ∧ isDots x = false := by
  induction segments generalizing output with
  | nil => exact Or.inl h
  | cons s rest ih =>
    rcases ih h with h | rfl | ⟨h, hx⟩
    · rcases mem_removeDots h with h | rfl | ⟨rfl, hx⟩
      · exact Or.inl h
      · exact Or.inr (Or.inl rfl)
      · exact Or.inr (Or.inr ⟨List.mem_cons_self .., hx⟩)
    · exact Or.inr (Or.inl rfl)
    · exact Or.inr (Or.inr ⟨List.mem_cons_of_mem _ h, hx⟩)

theorem removeDotSegments_eq_intercalate (s : Text) :
    ∃ l, removeDotSegments s = List.intercalate ['/'] l ∧
      ∀ x ∈ l, x = [] ∨ x ∈ s.splitOn '/' ∧ isDots x = false := by
  refine ⟨_, rfl, fun x hx => ?_⟩
  have hfold : ∀ x ∈ (s.splitOn '/').foldl removeDots [],
      x = [] ∨ x ∈ s.splitOn '/' ∧ isDots x = false := fun x hx =>
    (mem_foldl_removeDots hx).resolve_left List.not_mem_nil
  split at hx
  · rcases List.mem_append.mp hx with hx | hx
    · exact hfold x hx
    · exact Or.inl (List.mem_singleton.mp hx)
  · exact hfold x hx

theorem not_mem_of_mem_splitOn {c : Char} {x : Text} (h : x ∈ s.splitOn c) : c ∉ x := by
  induction s generalizing x with
  | nil =>
    rw [List.splitOn_nil, List.mem_singleton] at h
    rw [h]
    exact List.not_mem_nil
  | cons d s ih =>
    rw [List.splitOn_cons_eq_if_modifyHead] at h
    split at h
    · rcases List.mem_cons.mp h with rfl | h
      · exact List.not_mem_nil
      · exact ih h
    · rename_i hd
      obtain ⟨y, l, hl⟩ := List.exists_cons_of_ne_nil (List.splitOn_ne_nil c s)
      rw [hl, List.modifyHead_cons] at h
      rcases List.mem_cons.mp h with rfl | h
      · have hy : c ∉ y := ih (hl ▸ List.mem_cons_self ..)
        have hne : c ≠ d := fun he => hd (by simp [he])
        exact fun hmem => (List.mem_cons.mp hmem).elim hne hy
      · exact ih (hl ▸ List.mem_cons_of_mem _ h)

theorem noDots_removeDotSegments (s : Text) : NoDots (removeDotSegments s) := by
  obtain ⟨l, hl, hall⟩ := removeDotSegments_eq_intercalate s
  have hdots : ∀ x ∈ l, isDots x = false := fun x hx => by
    rcases hall x hx with rfl | ⟨-, hx⟩
    · rfl
    · exact hx
  have hslash : ∀ x ∈ l, '/' ∉ x := fun x hx => by
    rcases hall x hx with rfl | ⟨hmem, -⟩
    · exact List.not_mem_nil
    · exact not_mem_of_mem_splitOn hmem
  rw [hl]
  cases l with
  | nil => exact normalPath_nil.noDots
  | cons x l =>
    rw [NoDots, List.splitOn_intercalate '/' hslash (List.cons_ne_nil x l)]
    exact hdots

theorem LegalPath.removeDotSegments (h : LegalPath s) : LegalPath (removeDotSegments s) := by
  obtain ⟨l, hl, hall⟩ := removeDotSegments_eq_intercalate s
  have hsplit : List.intercalate ['/'] (s.splitOn '/') = s := List.intercalate_splitOn '/'
  rw [← hsplit, legalPath_intercalate] at h
  rw [hl, legalPath_intercalate]
  intro x hx
  rcases hall x hx with rfl | ⟨hmem, -⟩
  · exact trivial
  · exact h x hmem

theorem normalPath_normalizePath (s : Text) : NormalPath (normalizePath b s) :=
  ⟨(legalPath_encodePath s).removeDotSegments, noDots_removeDotSegments _⟩

theorem intercalate_append_splitOn (l : List Text) (t : Text) :
    List.intercalate ['/'] (l ++ t.splitOn '/') = List.intercalate ['/'] (l ++ [[]]) ++ t := by
  induction l with
  | nil => exact List.intercalate_splitOn '/'
  | cons x l ih =>
    rw [List.cons_append, List.cons_append,
      List.intercalate_cons_of_ne_nil (List.append_ne_nil_of_right_ne_nil _ (List.splitOn_ne_nil _ _)),
      List.intercalate_cons_of_ne_nil (List.append_ne_nil_of_right_ne_nil _ (List.cons_ne_nil _ _)), ih]
    simp only [List.append_assoc]

theorem NoDots.getLastD (ht : NoDots t) (l : List Text) :
    isDots ((l ++ t.splitOn '/').getLastD []) = false := by
  obtain ⟨l', x, hl⟩ :=
    (List.eq_nil_or_concat' (t.splitOn '/')).resolve_left (List.splitOn_ne_nil _ _)
  rw [hl, ← List.append_assoc, List.getLastD_concat]
  exact ht x (by rw [hl]; exact List.mem_append_right _ (List.mem_singleton.mpr rfl))

/-- A text behind a slash that has no dots stays where it is. -/
theorem removeDotSegments_append_slash (s : Text) (ht : NoDots t) :
    removeDotSegments (s ++ '/' :: t) = removeDotSegments (s ++ ['/']) ++ t := by
  have hrun : ∀ t, NoDots t → removeDotSegments (s ++ '/' :: t) =
      List.intercalate ['/'] ((s.splitOn '/').foldl removeDots [] ++ t.splitOn '/') := by
    intro t ht
    rw [removeDotSegments]
    simp only [List.splitOn_append_cons_self, ht.getLastD, Bool.false_eq_true, if_false,
      List.foldl_append, foldl_removeDots ht]
  rw [hrun t ht, hrun [] normalPath_nil.noDots, intercalate_append_splitOn, List.splitOn_nil]

theorem removeDotSegments_eq_self (ht : NoDots t) : removeDotSegments t = t := by
  have hlast : isDots ((t.splitOn '/').getLastD []) = false := ht.getLastD []
  rw [removeDotSegments]
  simp only [hlast, Bool.false_eq_true, if_false, foldl_removeDots ht, List.nil_append,
    List.intercalate_splitOn]

theorem NormalPath.normalizePath_eq (h : NormalPath s) : normalizePath b s = s := by
  rw [normalizePath, h.legal.encodePath_eq, removeDotSegments_eq_self h.noDots]

theorem normalPath_iff : NormalPath s ↔ normalizePath b s = s :=
  ⟨NormalPath.normalizePath_eq, fun h => h ▸ normalPath_normalizePath s⟩

instance (s : Text) : Decidable (NormalPath s) :=
  decidable_of_iff (normalizePath true s = s) normalPath_iff.symm

theorem normalizePath_append_slash (s : Text) (ht : NormalPath t) :
    normalizePath b (s ++ '/' :: t) = normalizePath b (s ++ ['/']) ++ t := by
  have hnil : encodePath b (s ++ ['/']) = encodePath b s ++ ['/'] := encodePath_append_slash s []
  rw [normalizePath, normalizePath, encodePath_append_slash, ht.legal.encodePath_eq, hnil,
    removeDotSegments_append_slash _ ht.noDots]

end Normal

end Uri

end Dart
