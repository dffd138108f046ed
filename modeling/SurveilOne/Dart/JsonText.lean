import SurveilOne.Dart.Numeral
import SurveilOne.Dart.Value

/-!
# Reading JSON text

`Json.encode` writes a value.  `jsonRead` reads text back.  It takes white space
between tokens and every escape of a string, but no fraction, exponent or integer
beyond 64 bits.

`jsonRead_encode` is the round trip: a `Plain` value, one without doubles whose
integers fit into 64 bits, is read back from its own text.  So the text says
which value was written, whatever characters its strings hold.
-/

namespace Dart

namespace Json

/-! ## The reader -/

def isBlank (c : Char) : Bool := c = ' ' || c = '\t' || c = '\n' || c = '\r'

/-- The rest of the text after a character that is expected next. -/
def expect (c : Char) (s : Text) : Option Text :=
  match s.dropWhile isBlank with
  | [] => none
  | d :: s => if d = c then some s else none

/-- The character an escape of one letter stands for. -/
def unescape (c : Char) : Option Char :=
  if c = 'b' then some (Char.ofNat 8)
  else if c = 't' then some '\t'
  else if c = 'n' then some '\n'
  else if c = 'f' then some (Char.ofNat 12)
  else if c = 'r' then some '\r'
  else if c = '"' || c = '\\' || c = '/' then some c
  else none

/-- The character an escape stands for, and the length of the escape behind its
backslash. -/
def readEscape : Text → Option (Char × Nat)
  | [] => none
  | e :: s =>
    if e = 'u' then
      (digits 16 0 (s.take 4)).bind fun code =>
        if 4 ≤ s.length ∧ code.isValidChar then some (Char.ofNat code, 5) else none
    else (unescape e).map fun c => (c, 1)

/-- The rest of a string after its opening quote, and the text behind it.  `skip`
counts the characters of the current escape that are still to be passed over. -/
def readChars : Nat → Text → Option (Text × Text)
  | _, [] => none
  | skip + 1, _ :: s => readChars skip s
  | 0, c :: s =>
    if c = '"' then some ([], s)
    else if c = '\\' then
      (readEscape s).bind fun e => (readChars e.2 s).map fun p => (e.1 :: p.1, p.2)
    else if c.toNat < 32 then none
    else (readChars 0 s).map fun p => (c :: p.1, p.2)

/-- The characters of a literal or a number. -/
def isAtomChar (c : Char) : Bool := c.isAlphanum || c = '-'

def atomValue (s : Text) : Option Json :=
  if s = "null".toList then some .null
  else if s = "true".toList then some (.bool true)
  else if s = "false".toList then some (.bool false)
  else if s.head? = some '-' then (decimalValue true s.tail).map .int
  else (decimalValue false s).map .int

/-- The key of an entry, up to its colon. -/
def readKey (s : Text) : Option (Text × Text) := do
  let s ← expect '"' s
  let (k, s) ← readChars 0 s
  let s ← expect ':' s
  some (k, s)

mutual

/-- A value and the text behind it.  The first argument bounds the nesting. -/
def readValue : Nat → Text → Option (Json × Text)
  | 0, _ => none
  | n + 1, s =>
    match s.dropWhile isBlank with
    | [] => none
    | c :: s =>
      if c = '"' then (readChars 0 s).map fun p => (.string p.1, p.2)
      else if c = '[' then
        match expect ']' s with
        | some s => some (.list [], s)
        | none => (readItems n s).map fun p => (.list p.1, p.2)
      else if c = '\x7b' then
        match expect '\x7d' s with
        | some s => some (.map [], s)
        | none => (readEntries n s).map fun p => (.map p.1, p.2)
      else
        (atomValue ((c :: s).takeWhile isAtomChar)).map fun j =>
          (j, (c :: s).dropWhile isAtomChar)

def readItems : Nat → Text → Option (List Json × Text)
  | 0, _ => none
  | n + 1, s =>
    (readValue n s).bind fun p =>
      match expect ',' p.2 with
      | some s => (readItems n s).map fun q => (p.1 :: q.1, q.2)
      | none => (expect ']' p.2).map fun s => ([p.1], s)

def readEntries : Nat → Text → Option (List (Text × Json) × Text)
  | 0, _ => none
  | n + 1, s =>
    (readKey s).bind fun k =>
      (readValue n k.2).bind fun p =>
        match expect ',' p.2 with
        | some s => (readEntries n s).map fun q => ((k.1, p.1) :: q.1, q.2)
        | none => (expect '\x7d' p.2).map fun s => ([(k.1, p.1)], s)

end

end Json

/-- The value that a text is, when it is one and nothing follows it. -/
def jsonRead (s : Text) : Option Json :=
  match Json.readValue (s.length + 1) s with
  | some (j, rest) => if rest.all Json.isBlank then some j else none
  | none => none

namespace Json

mutual

/-- No double, and every integer within 64 bits. -/
def Plain : Json → Prop
  | .int i => -2 ^ 63 ≤ i ∧ i < 2 ^ 63
  | .double _ => False
  | .list l => PlainList l
  | .map m => PlainMap m
  | _ => True

def PlainList : List Json → Prop
  | [] => True
  | j :: rest => Plain j ∧ PlainList rest

def PlainMap : List (Text × Json) → Prop
  | [] => True
  | (_, v) :: rest => Plain v ∧ PlainMap rest

end

/-! ## Tokens -/

/-- The text goes on with no character of a literal or a number. -/
def Ends (s : Text) : Prop := ∀ c t, s = c :: t → isAtomChar c = false

theorem ends_nil : Ends [] := fun _ _ h => nomatch h

theorem ends_cons {c : Char} (h : isAtomChar c = false) (s : Text) : Ends (c :: s) := by
  intro d t hd
  obtain ⟨rfl, -⟩ := List.cons.inj hd
  exact h

theorem expect_cons (c : Char) (h : isBlank c = false) (s : Text) :
    expect c (c :: s) = some s := by
  rw [expect, List.dropWhile_cons_of_neg (by simp [h])]
  exact if_pos rfl

theorem expect_cons_ne {c d : Char} (h : isBlank d = false) (hne : d ≠ c) (s : Text) :
    expect c (d :: s) = none := by
  rw [expect, List.dropWhile_cons_of_neg (by simp [h])]
  exact if_neg hne

/-! ## Strings -/

theorem digits_hexDigit : ∀ n < 32,
    digits 16 0 ['0', '0', hexDigit (n / 16), hexDigit (n % 16)] = some n := by
  decide

theorem readChars_skip (u s : Text) : readChars u.length (u ++ s) = readChars 0 s := by
  induction u with
  | nil => rfl
  | cons c u ih => exact ih

theorem readChars_escape {e s : Text} {c : Char} (h : readEscape (e ++ s) = some (c, e.length)) :
    readChars 0 ('\\' :: (e ++ s)) = (readChars 0 s).map fun p => (c :: p.1, p.2) := by
  rw [readChars, if_neg (by decide), if_pos rfl, h, Option.bind_some, readChars_skip]

theorem readChars_unescape {e c : Char} (hu : e ≠ 'u') (h : unescape e = some c) (s : Text) :
    readChars 0 ('\\' :: e :: s) = (readChars 0 s).map fun p => (c :: p.1, p.2) := by
  refine readChars_escape (e := [e]) ?_
  rw [List.singleton_append, readEscape, if_neg hu, h]
  rfl

/-- An encoded character is read as that character. -/
theorem readChars_encodeChar (c : Char) (s : Text) :
    readChars 0 (encodeChar c ++ s) = (readChars 0 s).map fun p => (c :: p.1, p.2) := by
  have hval : ∀ {n : Nat}, c.toNat = n → c = Char.ofNat n := fun h => by
    rw [← h, Char.ofNat_toNat]
  rw [encodeChar]
  by_cases hquote : c = '"'
  · rw [if_pos hquote, hquote]
    exact readChars_unescape (by decide) rfl s
  rw [if_neg hquote]
  by_cases hslash : c = '\\'
  · rw [if_pos hslash, hslash]
    exact readChars_unescape (by decide) rfl s
  rw [if_neg hslash]
  by_cases h8 : c.toNat = 8
  · rw [if_pos h8, hval h8]
    exact readChars_unescape (by decide) rfl s
  rw [if_neg h8]
  by_cases h9 : c.toNat = 9
  · rw [if_pos h9, hval h9]
    exact readChars_unescape (by decide) rfl s
  rw [if_neg h9]
  by_cases h10 : c.toNat = 10
  · rw [if_pos h10, hval h10]
    exact readChars_unescape (by decide) rfl s
  rw [if_neg h10]
  by_cases h12 : c.toNat = 12
  · rw [if_pos h12, hval h12]
    exact readChars_unescape (by decide) rfl s
  rw [if_neg h12]
  by_cases h13 : c.toNat = 13
  · rw [if_pos h13, hval h13]
    exact readChars_unescape (by decide) rfl s
  rw [if_neg h13]
  by_cases h32 : c.toNat < 32
  · rw [if_pos h32]
    refine readChars_escape
      (e := ['u', '0', '0', hexDigit (c.toNat / 16), hexDigit (c.toNat % 16)]) ?_
    have hdigits : digits 16 0 (['0', '0', hexDigit (c.toNat / 16), hexDigit (c.toNat % 16)] : Text) =
        some c.toNat := digits_hexDigit _ h32
    rw [List.cons_append, readEscape, if_pos rfl]
    show (digits 16 0 ['0', '0', hexDigit (c.toNat / 16), hexDigit (c.toNat % 16)]).bind _ = _
    rw [hdigits, Option.bind_some, if_pos ⟨by simp, c.valid⟩, Char.ofNat_toNat]
    rfl
  · rw [if_neg h32, List.singleton_append, readChars, if_neg hquote, if_neg hslash, if_neg h32]

theorem readChars_flatMap (s rest : Text) :
    readChars 0 (s.flatMap encodeChar ++ '"' :: rest) = some (s, rest) := by
  induction s with
  | nil => rw [List.flatMap_nil, List.nil_append, readChars, if_pos rfl]
  | cons c s ih => rw [List.flatMap_cons, List.append_assoc, readChars_encodeChar, ih]; rfl

theorem encodeString_append (s rest : Text) :
    encodeString s ++ rest = '"' :: (s.flatMap encodeChar ++ '"' :: rest) := by
  rw [encodeString, List.cons_append, List.append_assoc]
  rfl

/-! ## Literals and numbers -/

theorem digit_of_isDigit {c : Char} (h : c.isDigit = true) :
    digit 10 c = some (c.toNat - '0'.toNat) := by
  obtain ⟨hl, hh⟩ := Char.isDigit_iff_toNat.mp h
  have hc : 48 ≤ c.toNat ∧ c.toNat ≤ 57 := ⟨hl, hh⟩
  simp only [digit, if_pos hc]
  exact if_pos (by omega)

theorem digits_eq_ofDigitChars {s : Text} (h : ∀ c ∈ s, c.isDigit = true) (value : Nat) :
    digits 10 value s = some (Nat.ofDigitChars 10 s value) := by
  induction s generalizing value with
  | nil => rw [digits, Nat.ofDigitChars_nil]
  | cons c s ih =>
    rw [digits, digit_of_isDigit (h c List.mem_cons_self), Nat.ofDigitChars_cons, Nat.mul_comm]
    exact ih (fun d hd => h d (List.mem_cons_of_mem c hd)) _

theorem isDigit_of_mem {n : Nat} {c : Char} (h : c ∈ Nat.toDigits 10 n) : c.isDigit = true :=
  Nat.isDigit_of_mem_toDigits (by decide) (by decide) h

theorem digits_toDigits (n : Nat) : digits 10 0 (Nat.toDigits 10 n) = some n := by
  rw [digits_eq_ofDigitChars fun c => isDigit_of_mem, Nat.ofDigitChars_ten_toDigits]

theorem isAtomChar_of_isDigit {c : Char} (h : c.isDigit = true) : isAtomChar c = true := by
  simp [isAtomChar, Char.isAlphanum, h]

theorem decimalValue_toDigits (negative : Bool) {n : Nat} {i : Int}
    (hi : (if negative then -(n : Int) else n) = i) (h : -2 ^ 63 ≤ i ∧ i < 2 ^ 63) :
    decimalValue negative (Nat.toDigits 10 n) = some i := by
  have hne : ¬ (Nat.toDigits 10 n).isEmpty = true := by simp [Nat.toDigits_ne_nil]
  rw [decimalValue, if_neg hne, digits_toDigits, Option.bind_some, hi]
  exact if_pos h

theorem toDigits_cons (n : Nat) : ∃ c t, Nat.toDigits 10 n = c :: t ∧ c.isDigit = true := by
  cases h : Nat.toDigits 10 n with
  | nil => exact absurd h Nat.toDigits_ne_nil
  | cons c t => exact ⟨c, t, rfl, isDigit_of_mem (h ▸ List.mem_cons_self)⟩

/-- A text that starts with a digit or a minus sign is no literal. -/
theorem atomValue_number {c : Char} (t : Text) (h : c.isDigit = true ∨ c = '-') :
    atomValue (c :: t) =
      if c = '-' then (decimalValue true t).map .int else (decimalValue false (c :: t)).map .int := by
  have hne : ∀ (d : Char) (s : Text), d.isDigit = false → d ≠ '-' → c :: t ≠ d :: s := by
    rintro d s hd hminus heq
    obtain ⟨rfl, -⟩ := List.cons.inj heq
    rcases h with h | h
    · exact Bool.false_ne_true (hd.symm.trans h)
    · exact hminus h
  have hnull : c :: t ≠ "null".toList := hne 'n' _ (by decide) (by decide)
  have htrue : c :: t ≠ "true".toList := hne 't' _ (by decide) (by decide)
  have hfalse : c :: t ≠ "false".toList := hne 'f' _ (by decide) (by decide)
  rw [atomValue, if_neg hnull, if_neg htrue, if_neg hfalse]
  simp only [List.head?_cons, List.tail_cons, Option.some.injEq]

/-- The text of an integer. -/
theorem atomValue_int {i : Int} (h : -2 ^ 63 ≤ i ∧ i < 2 ^ 63) :
    atomValue (toString i).toList = some (.int i) := by
  cases i with
  | ofNat n =>
    have htext : (toString (Int.ofNat n)).toList = Nat.toDigits 10 n := Text.intText_ofNat n
    obtain ⟨c, t, hcons, hc⟩ := toDigits_cons n
    have hminus : c ≠ '-' := by
      rintro rfl
      exact absurd hc (by decide)
    rw [htext, hcons, atomValue_number t (Or.inl hc), if_neg hminus, ← hcons,
      decimalValue_toDigits false (n := n) (i := Int.ofNat n) rfl h]
    rfl
  | negSucc n =>
    have htext : (toString (Int.negSucc n)).toList = '-' :: Nat.toDigits 10 (n + 1) :=
      Text.intText_negSucc n
    rw [htext, atomValue_number _ (Or.inr rfl), if_pos rfl,
      decimalValue_toDigits true (n := n + 1) (i := Int.negSucc n) rfl h]
    rfl

theorem isAtomChar_toString (i : Int) : ∀ c ∈ (toString i).toList, isAtomChar c = true := by
  intro c hc
  cases i with
  | ofNat n =>
    have htext : (toString (Int.ofNat n)).toList = Nat.toDigits 10 n := Text.intText_ofNat n
    rw [htext] at hc
    exact isAtomChar_of_isDigit (isDigit_of_mem hc)
  | negSucc n =>
    have htext : (toString (Int.negSucc n)).toList = '-' :: Nat.toDigits 10 (n + 1) :=
      Text.intText_negSucc n
    rw [htext] at hc
    rcases List.mem_cons.mp hc with rfl | hc
    · rfl
    · exact isAtomChar_of_isDigit (isDigit_of_mem hc)

/-! ## Values -/

theorem isAtomChar_ne {c : Char} (h : isAtomChar c = true) :
    isBlank c = false ∧ c ≠ '"' ∧ c ≠ '[' ∧ c ≠ '\x7b' ∧ c ≠ ']' := by
  have hne : ∀ d, isAtomChar d = false → c ≠ d := by
    rintro d hd rfl
    exact Bool.false_ne_true (hd.symm.trans h)
  refine ⟨?_, hne _ rfl, hne _ rfl, hne _ rfl, hne _ rfl⟩
  simp [isBlank, hne ' ' rfl, hne '\t' rfl, hne '\n' rfl, hne '\r' rfl]

/-- A text of a literal or a number, which no further character of one follows. -/
theorem readValue_atom {a s : Text} {j : Json} (n : Nat) (hne : a ≠ [])
    (ha : ∀ c ∈ a, isAtomChar c = true) (hv : atomValue a = some j) (hs : Ends s) :
    readValue (n + 1) (a ++ s) = some (j, s) := by
  obtain ⟨c, t, rfl⟩ := List.exists_cons_of_ne_nil hne
  obtain ⟨hblank, hquote, hlist, hmap, -⟩ := isAtomChar_ne (ha c List.mem_cons_self)
  have hends : s.takeWhile isAtomChar = [] ∧ s.dropWhile isAtomChar = s := by
    cases s with
    | nil => exact ⟨rfl, rfl⟩
    | cons d s =>
      have hd : ¬ isAtomChar d = true := by simp [hs d s rfl]
      exact ⟨List.takeWhile_cons_of_neg hd, List.dropWhile_cons_of_neg hd⟩
  rw [readValue, List.cons_append, List.dropWhile_cons_of_neg (by simp [hblank])]
  simp only [if_neg hquote, if_neg hlist, if_neg hmap]
  rw [← List.cons_append, List.takeWhile_append_of_pos ha, List.dropWhile_append_of_pos ha,
    hends.1, hends.2, List.append_nil, hv]
  rfl

/-- The first character of an encoded value is neither white space nor the end of a
list. -/
theorem encode_cons {j : Json} (h : Plain j) :
    ∃ c t, encode j = c :: t ∧ isBlank c = false ∧ c ≠ ']' := by
  cases j with
  | null => exact ⟨'n', "ull".toList, rfl, rfl, by decide⟩
  | bool b => cases b <;> exact ⟨_, _, rfl, rfl, by decide⟩
  | int i =>
    have hne : (toString i).toList ≠ [] := by
      intro hnil
      have hnone := atomValue_int h
      rw [hnil] at hnone
      cases hnone
    obtain ⟨c, t, hc⟩ := List.exists_cons_of_ne_nil hne
    obtain ⟨hblank, -, -, -, hend⟩ := isAtomChar_ne (isAtomChar_toString i c (hc ▸ List.mem_cons_self))
    exact ⟨c, t, hc, hblank, hend⟩
  | double d => exact h.elim
  | string s => exact ⟨'"', _, rfl, rfl, by decide⟩
  | list l => exact ⟨'[', _, rfl, rfl, by decide⟩
  | map m => exact ⟨'\x7b', _, rfl, rfl, by decide⟩

theorem readValue_string (n : Nat) (s rest : Text) :
    readValue (n + 1) (encodeString s ++ rest) = some (.string s, rest) := by
  rw [encodeString_append, readValue, List.dropWhile_cons_of_neg (by decide)]
  simp only [if_true, readChars_flatMap]
  rfl

theorem readValue_list_nil (n : Nat) (s : Text) :
    readValue (n + 1) ('[' :: ']' :: s) = some (.list [], s) := by
  rw [readValue, List.dropWhile_cons_of_neg (by decide)]
  simp only [expect_cons ']' rfl]
  rfl

theorem readValue_list {n : Nat} {s : Text} (h : expect ']' s = none) :
    readValue (n + 1) ('[' :: s) = (readItems n s).map fun p => (.list p.1, p.2) := by
  rw [readValue, List.dropWhile_cons_of_neg (by decide)]
  simp only [h]
  rfl

theorem readValue_map_nil (n : Nat) (s : Text) :
    readValue (n + 1) ('\x7b' :: '\x7d' :: s) = some (.map [], s) := by
  rw [readValue, List.dropWhile_cons_of_neg (by decide)]
  simp only [expect_cons '\x7d' rfl]
  rfl

theorem readValue_map {n : Nat} {s : Text} (h : expect '\x7d' s = none) :
    readValue (n + 1) ('\x7b' :: s) = (readEntries n s).map fun p => (.map p.1, p.2) := by
  rw [readValue, List.dropWhile_cons_of_neg (by decide)]
  simp only [h]
  rfl

theorem readItems_last {n : Nat} {s t : Text} {j : Json}
    (h : readValue n s = some (j, ']' :: t)) : readItems (n + 1) s = some ([j], t) := by
  rw [readItems, h, Option.bind_some]
  simp only [expect_cons_ne (c := ',') (d := ']') rfl (by decide), expect_cons ']' rfl]
  rfl

theorem readItems_more {n : Nat} {s t : Text} {j : Json}
    (h : readValue n s = some (j, ',' :: t)) :
    readItems (n + 1) s = (readItems n t).map fun p => (j :: p.1, p.2) := by
  rw [readItems, h, Option.bind_some]
  simp only [expect_cons ',' rfl]

theorem readKey_encodeString (k s : Text) : readKey (encodeString k ++ ':' :: s) = some (k, s) := by
  rw [encodeString_append, readKey, expect_cons '"' rfl]
  simp only [Option.bind_eq_bind, Option.bind_some, readChars_flatMap, expect_cons ':' rfl]

theorem readEntries_last {n : Nat} {k s t : Text} {v : Json}
    (h : readValue n s = some (v, '\x7d' :: t)) :
    readEntries (n + 1) (encodeString k ++ ':' :: s) = some ([(k, v)], t) := by
  rw [readEntries, readKey_encodeString, Option.bind_some, h, Option.bind_some]
  simp only [expect_cons_ne (c := ',') (d := '\x7d') rfl (by decide), expect_cons '\x7d' rfl]
  rfl

theorem readEntries_more {n : Nat} {k s t : Text} {v : Json}
    (h : readValue n s = some (v, ',' :: t)) :
    readEntries (n + 1) (encodeString k ++ ':' :: s) =
      (readEntries n t).map fun p => ((k, v) :: p.1, p.2) := by
  rw [readEntries, readKey_encodeString, Option.bind_some, h, Option.bind_some]
  simp only [expect_cons ',' rfl]

/-! ## The round trip

The three statements follow the three ways an encoded text is put together.  A
value of a text of length `l` is read within `l + 1` levels, the items of a list
within `l + 2`. -/

mutual

theorem readValue_encode : ∀ (j : Json), Plain j → ∀ (n : Nat) (s : Text),
    (encode j).length < n → Ends s → readValue n (encode j ++ s) = some (j, s)
  | j, _, 0, _, hn, _ => absurd hn (Nat.not_lt_zero _)
  | .null, _, n + 1, _, _, hs =>
    readValue_atom n (by decide) (Text.forall_mem_of_all (by decide)) rfl hs
  | .bool true, _, n + 1, _, _, hs =>
    readValue_atom n (by decide) (Text.forall_mem_of_all (by decide)) rfl hs
  | .bool false, _, n + 1, _, _, hs =>
    readValue_atom n (by decide) (Text.forall_mem_of_all (by decide)) rfl hs
  | .int i, h, n + 1, s, hn, hs => by
    obtain ⟨c, t, hc, -⟩ := encode_cons h
    have hne : (toString i).toList ≠ [] := fun hnil => nomatch (hnil.symm.trans hc)
    exact readValue_atom n hne (isAtomChar_toString i) (atomValue_int h) hs
  | .string text, _, n + 1, s, _, _ => readValue_string n text s
  | .list [], _, n + 1, s, _, _ => readValue_list_nil n s
  | .list (j :: rest), h, n + 1, s, hn, _ => by
    obtain ⟨c, t, hc, hblank, hend⟩ := encode_cons h.1
    have hlen : (encodeList (j :: rest)).length + 1 < n := by
      simpa [encode] using hn
    have hnone : expect ']' (encodeList (j :: rest) ++ ']' :: s) = none := by
      rw [encodeList, hc]
      exact expect_cons_ne hblank hend _
    rw [encode, List.cons_append, List.append_assoc, List.singleton_append, readValue_list hnone,
      readItems_encode j rest h n s hlen]
    rfl
  | .map [], _, n + 1, s, _, _ => readValue_map_nil n s
  | .map ((k, v) :: rest), h, n + 1, s, hn, _ => by
    have hlen : (encodeMap ((k, v) :: rest)).length + 1 < n := by
      simpa [encode] using hn
    have hnone : expect '\x7d' (encodeMap ((k, v) :: rest) ++ '\x7d' :: s) = none := by
      rw [encodeMap]
      exact expect_cons_ne rfl (by decide) _
    rw [encode, List.cons_append, List.append_assoc, List.singleton_append, readValue_map hnone,
      readEntries_encode k v rest h n s hlen]
    rfl

theorem readItems_encode : ∀ (j : Json) (rest : List Json), PlainList (j :: rest) →
    ∀ (n : Nat) (s : Text), (encodeList (j :: rest)).length + 1 < n →
      readItems n (encodeList (j :: rest) ++ ']' :: s) = some (j :: rest, s)
  | j, _, _, 0, _, hn => absurd hn (Nat.not_lt_zero _)
  | j, [], h, n + 1, s, hn => by
    rw [encodeList, List.isEmpty_nil, if_pos rfl, List.append_nil] at hn ⊢
    exact readItems_last (readValue_encode j h.1 n _ (by omega) (ends_cons rfl s))
  | j, j' :: rest, h, n + 1, s, hn => by
    rw [encodeList] at hn ⊢
    simp only [List.isEmpty_cons, Bool.false_eq_true, if_false, List.length_append,
      List.length_cons] at hn
    simp only [List.isEmpty_cons, Bool.false_eq_true, if_false, List.append_assoc, List.cons_append]
    rw [readItems_more (readValue_encode j h.1 n _ (by omega) (ends_cons rfl _)),
      readItems_encode j' rest h.2 n s (by omega)]
    rfl

theorem readEntries_encode : ∀ (k : Text) (v : Json) (rest : List (Text × Json)),
    PlainMap ((k, v) :: rest) → ∀ (n : Nat) (s : Text),
      (encodeMap ((k, v) :: rest)).length + 1 < n →
        readEntries n (encodeMap ((k, v) :: rest) ++ '\x7d' :: s) = some ((k, v) :: rest, s)
  | k, v, _, _, 0, _, hn => absurd hn (Nat.not_lt_zero _)
  | k, v, [], h, n + 1, s, hn => by
    rw [encodeMap, List.isEmpty_nil, if_pos rfl, List.append_nil] at hn ⊢
    simp only [List.length_append, List.length_cons] at hn
    rw [List.append_assoc, List.cons_append]
    exact readEntries_last (readValue_encode v h.1 n _ (by omega) (ends_cons rfl s))
  | k, v, (k', v') :: rest, h, n + 1, s, hn => by
    rw [encodeMap] at hn ⊢
    simp only [List.isEmpty_cons, Bool.false_eq_true, if_false, List.length_append,
      List.length_cons] at hn
    simp only [List.isEmpty_cons, Bool.false_eq_true, if_false, List.append_assoc, List.cons_append]
    rw [readEntries_more (readValue_encode v h.1 n _ (by omega) (ends_cons rfl _)),
      readEntries_encode k' v' rest h.2 n s (by omega)]
    rfl

end

end Json

/-- A plain value is read back from the text that `jsonEncode` makes of it. -/
theorem jsonRead_encode {j : Json} (h : j.Plain) : jsonRead j.encode = some j := by
  have hread : Json.readValue (j.encode.length + 1) j.encode = some (j, []) := by
    have hvalue := Json.readValue_encode j h (j.encode.length + 1) [] (Nat.lt_succ_self _)
      Json.ends_nil
    rwa [List.append_nil] at hvalue
  rw [jsonRead, hread]
  rfl

/-- Two plain values with the same text are the same value. -/
theorem Json.encode_inj {j j' : Json} (h : j.Plain) (h' : j'.Plain) (heq : j.encode = j'.encode) :
    j = j' := by
  have hread := jsonRead_encode h
  rw [heq, jsonRead_encode h'] at hread
  exact (Option.some.inj hread).symm

end Dart
