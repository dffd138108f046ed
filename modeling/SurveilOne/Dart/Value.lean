import SurveilOne.Dart.Text
import Mathlib.Algebra.Group.Int.Defs
import Mathlib.Algebra.Group.Nat.Defs

/-!
# Dart values

Decoded JSON as `dart:convert` hands it out, with the dynamic operations a
program performs on it.  An operation that the value's class does not have, or
a failed cast, throws, so those operations end in `Except Thrown`.
-/

namespace Dart

/-- What a program can throw. -/
inductive Thrown where
  | typeError
  | noSuchMethod
  | rangeError
  | stateError (message : Text)
  | formatException
  | socketException
  | timeoutException
  | clientException
  | exception (message : Text)
  /-- `JsonUnsupportedObjectError`. -/
  | jsonUnsupportedObject
  /-- `setState` on a `State` that has been disposed. -/
  | setStateAfterDispose
  /-- A lookup through the context of an element that has been unmounted. -/
  | unmountedContext
  deriving DecidableEq, Repr

theorem bind_ok_iff {α β : Type} {x : Except Thrown α} {f : α → Except Thrown β} {b : β} :
    x >>= f = .ok b ↔ ∃ a, x = .ok a ∧ f a = .ok b := by
  cases x with
  | error e => exact iff_of_false (fun h => nomatch h) fun ⟨_, h, _⟩ => nomatch h
  | ok a => exact ⟨fun h => ⟨a, rfl, h⟩, fun ⟨_, ha, h⟩ => Except.ok.inj ha ▸ h⟩

/-! ## Integers -/

/-- The 64-bit result of an integer operation. -/
def toInt64 (i : Int) : Int := Int.bmod i (2 ^ 64)

theorem toInt64_eq_self {i : Int} (hl : -2 ^ 63 ≤ i) (hh : i < 2 ^ 63) : toInt64 i = i := by
  rw [toInt64, Int.bmod_eq_of_le] <;> omega

def digit (radix : Nat) (c : Char) : Option Nat :=
  let n := c.toNat
  let d := if 48 ≤ n ∧ n ≤ 57 then n - 48
    else if 97 ≤ n ∧ n ≤ 102 then n - 87
    else if 65 ≤ n ∧ n ≤ 70 then n - 55
    else radix
  if d < radix then some d else none

def digits (radix : Nat) : Nat → Text → Option Nat
  | value, [] => some value
  | value, c :: s => (digit radix c).bind fun d => digits radix (value * radix + d) s

def decimalValue (negative : Bool) (s : Text) : Option Int :=
  if s.isEmpty then none
  else (digits 10 0 s).bind fun n =>
    let value : Int := if negative then -n else n
    if -2 ^ 63 ≤ value ∧ value < 2 ^ 63 then some value else none

/-- A hexadecimal literal without a minus sign may fill all 64 bits. -/
def hexValue (negative : Bool) (s : Text) : Option Int :=
  if s.isEmpty then none
  else (digits 16 0 s).bind fun n =>
    if negative then if n ≤ 2 ^ 63 then some (-n) else none
    else if n < 2 ^ 64 then some (toInt64 n) else none

def magnitude (negative : Bool) : Text → Option Int
  | '0' :: 'x' :: s => hexValue negative s
  | '0' :: 'X' :: s => hexValue negative s
  | s => decimalValue negative s

/-- `int.tryParse`. -/
def intTryParse (source : Text) : Option Int :=
  match source.trim with
  | '-' :: s => magnitude true s
  | '+' :: s => magnitude false s
  | s => magnitude false s

/-- A `double`, known by its text.  No text of a double parses as an integer. -/
structure Double where
  text : Text
  not_int : intTryParse text = none

def Double.isFinite (d : Double) : Bool :=
  d.text ≠ "Infinity".toList && d.text ≠ "-Infinity".toList && d.text ≠ "NaN".toList

/-! ## Dates -/

/-- An instant.  Its time zone is left out, for `toLocal` keeps the instant. -/
structure DateTime where
  microsecondsSinceEpoch : Int
  deriving DecidableEq, Repr

def DateTime.fromMillisecondsSinceEpoch (ms : Int) : Except Thrown DateTime :=
  if -8640000000000000 ≤ ms ∧ ms ≤ 8640000000000000 then .ok ⟨ms * 1000⟩ else .error .rangeError

/-- The fields of a `DateTime` in local time, down to the minute. -/
structure LocalTime where
  year : Int
  month : Nat
  day : Nat
  hour : Nat
  minute : Nat
  hour_lt : hour < 24
  minute_lt : minute < 60
  deriving DecidableEq, Repr

/-- The two times are on one day. -/
def LocalTime.SameDay (s t : LocalTime) : Prop := s.year = t.year ∧ s.month = t.month ∧ s.day = t.day

instance (s t : LocalTime) : Decidable (s.SameDay t) := inferInstanceAs (Decidable (_ ∧ _ ∧ _))

/-! ## Decoded JSON -/

inductive Json where
  | null
  | bool (b : Bool)
  | int (i : Int)
  | double (d : Double)
  | string (s : Text)
  | list (l : List Json)
  | map (m : List (Text × Json))

/-- A `Map<String, dynamic>`. -/
abbrev Fields := List (Text × Json)

namespace Fields

/-- `m[key]`, which is `null` for a missing key. -/
def get (m : Fields) (key : String) : Json := (m.lookup key.toList).getD .null

/-- `m[key] = value`: an entry that is there keeps its place. -/
def setText : Fields → Text → Json → Fields
  | [], key, value => [(key, value)]
  | (k, v) :: rest, key, value =>
    if k = key then (k, value) :: rest else (k, v) :: setText rest key value

def set (m : Fields) (key : String) (value : Json) : Fields := setText m key.toList value

/-- `m[k₁] ?? m[k₂] ?? …`. -/
def firstOf (m : Fields) : List String → Json
  | [] => .null
  | key :: rest =>
    match m.get key with
    | .null => firstOf m rest
    | v => v

theorem lookup_setText_self (m : Fields) (key : Text) (value : Json) :
    (setText m key value).lookup key = some value := by
  induction m with
  | nil => simp [setText]
  | cons entry rest ih =>
    obtain ⟨k, v⟩ := entry
    by_cases h : k = key
    · simp [setText, h]
    · have hne : (key == k) = false := by simpa using fun e : key = k => h e.symm
      simp [setText, h, List.lookup_cons, hne, ih]

theorem lookup_setText_ne (m : Fields) {key other : Text} (h : other ≠ key) (value : Json) :
    (setText m key value).lookup other = m.lookup other := by
  have hne : (other == key) = false := by simpa using h
  induction m with
  | nil => simp [setText, List.lookup_cons, hne]
  | cons entry rest ih =>
    obtain ⟨k, v⟩ := entry
    by_cases hk : k = key
    · subst hk
      simp [setText, List.lookup_cons, hne]
    · simp [setText, hk, List.lookup_cons, ih]

@[simp] theorem get_set_self (m : Fields) (key : String) (value : Json) :
    (m.set key value).get key = value := by
  rw [get, set, lookup_setText_self]
  rfl

theorem get_set_ne (m : Fields) {key other : String} (h : other ≠ key) (value : Json) :
    (m.set key value).get other = m.get other := by
  rw [get, set, lookup_setText_ne m (fun e => h (String.toList_inj.mp e)), get]

theorem firstOf_congr {m m' : Fields} {keys : List String}
    (h : ∀ key ∈ keys, Fields.get m key = Fields.get m' key) : firstOf m keys = firstOf m' keys := by
  induction keys with
  | nil => rfl
  | cons key rest ih =>
    rw [firstOf, firstOf, h key (List.mem_cons_self ..),
      ih fun k hk => h k (List.mem_cons_of_mem _ hk)]

end Fields

namespace Json

mutual

/-- `toString()`. -/
def toText : Json → Text
  | .null => "null".toList
  | .bool b => (toString b).toList
  | .int i => (toString i).toList
  | .double d => d.text
  | .string s => s
  | .list l => '[' :: (listText l ++ [']'])
  | .map m => '\x7b' :: (mapText m ++ ['\x7d'])

def listText : List Json → Text
  | [] => []
  | j :: rest => toText j ++ (if rest.isEmpty then [] else ", ".toList ++ listText rest)

def mapText : List (Text × Json) → Text
  | [] => []
  | (k, v) :: rest =>
    k ++ ": ".toList ++ toText v ++ (if rest.isEmpty then [] else ", ".toList ++ mapText rest)

end

def hexDigit (n : Nat) : Char := Char.ofNat (if n < 10 then 48 + n else 87 + n)

/-- A character inside an encoded JSON string. -/
def encodeChar (c : Char) : Text :=
  if c = '"' then ['\\', '"']
  else if c = '\\' then ['\\', '\\']
  else if c.toNat = 8 then ['\\', 'b']
  else if c.toNat = 9 then ['\\', 't']
  else if c.toNat = 10 then ['\\', 'n']
  else if c.toNat = 12 then ['\\', 'f']
  else if c.toNat = 13 then ['\\', 'r']
  else if c.toNat < 32 then
    "\\u00".toList ++ [hexDigit (c.toNat / 16), hexDigit (c.toNat % 16)]
  else [c]

def encodeString (s : Text) : Text := '"' :: (s.flatMap encodeChar ++ ['"'])

mutual

/-- `jsonEncode` on a value that is `encodable`. -/
def encode : Json → Text
  | .null => "null".toList
  | .bool b => (toString b).toList
  | .int i => (toString i).toList
  | .double d => d.text
  | .string s => encodeString s
  | .list l => '[' :: (encodeList l ++ [']'])
  | .map m => '\x7b' :: (encodeMap m ++ ['\x7d'])

def encodeList : List Json → Text
  | [] => []
  | j :: rest => encode j ++ (if rest.isEmpty then [] else ',' :: encodeList rest)

def encodeMap : List (Text × Json) → Text
  | [] => []
  | (k, v) :: rest =>
    encodeString k ++ ':' :: encode v ++ (if rest.isEmpty then [] else ',' :: encodeMap rest)

end

mutual

/-- `JsonEncoder` takes the value.  It throws on a number that is not finite, which
`jsonDecode` makes of a number like `1e999`. -/
def encodable : Json → Bool
  | .double d => d.isFinite
  | .list l => encodableList l
  | .map m => encodableMap m
  | _ => true

def encodableList : List Json → Bool
  | [] => true
  | j :: rest => encodable j && encodableList rest

def encodableMap : List (Text × Json) → Bool
  | [] => true
  | (_, v) :: rest => encodable v && encodableMap rest

end

def isNull : Json → Bool
  | .null => true
  | _ => false

/-- `a ?? b`. -/
def ifNull : Json → Json → Json
  | .null, b => b
  | a, _ => a

/-- `a?.toString()`. -/
def toText? : Json → Option Text
  | .null => none
  | a => some a.toText

/-- `a[key]` on a dynamic value, with a string for the key. -/
def index : Json → String → Except Thrown Json
  | .map m, key => .ok (Fields.get m key)
  | .list _, _ => .error .typeError
  | .string _, _ => .error .typeError
  | _, _ => .error .noSuchMethod

/-- `a?[key]`. -/
def index? : Json → String → Except Thrown Json
  | .null, _ => .ok .null
  | a, key => a.index key

/-- `a.isNotEmpty` on a dynamic value. -/
def isNotEmpty : Json → Except Thrown Bool
  | .string s => .ok (!s.isEmpty)
  | .list l => .ok (!l.isEmpty)
  | .map m => .ok (!m.isEmpty)
  | _ => .error .noSuchMethod

/-- The implicit cast to `String`. -/
def asString : Json → Except Thrown Text
  | .string s => .ok s
  | _ => .error .typeError

/-- `a as String?`. -/
def asString? : Json → Except Thrown (Option Text)
  | .null => .ok none
  | .string s => .ok (some s)
  | _ => .error .typeError

/-- `a as Map<String, dynamic>`. -/
def asMap : Json → Except Thrown Fields
  | .map m => .ok m
  | _ => .error .typeError

/-- `a as Map<String, dynamic>?`. -/
def asMap? : Json → Except Thrown (Option Fields)
  | .null => .ok none
  | .map m => .ok (some m)
  | _ => .error .typeError

/-- `a is int ? a : int.tryParse('$a') ?? 0`. -/
def intOrZero : Json → Int
  | .int i => i
  | a => (intTryParse a.toText).getD 0

@[simp] theorem isNull_null : isNull .null = true := rfl

@[simp] theorem ifNull_null (b : Json) : ifNull .null b = b := rfl

theorem ifNull_of_ne_null {a : Json} (h : a ≠ .null) (b : Json) : a.ifNull b = a := by
  cases a with
  | null => exact absurd rfl h
  | _ => rfl

theorem isNull_iff {a : Json} : a.isNull = true ↔ a = .null := by
  cases a <;> simp [isNull]

end Json

theorem Fields.firstOf_cons (m : Fields) (key : String) (rest : List String) :
    firstOf m (key :: rest) = (Fields.get m key).ifNull (firstOf m rest) := by
  rw [firstOf]
  cases Fields.get m key <;> rfl

theorem Fields.firstOf_append (m : Fields) (keys others : List String) :
    firstOf m (keys ++ others) = (firstOf m keys).ifNull (firstOf m others) := by
  induction keys with
  | nil => rfl
  | cons key rest ih =>
    rw [List.cons_append, firstOf, firstOf, ih]
    cases Fields.get m key <;> rfl

end Dart
