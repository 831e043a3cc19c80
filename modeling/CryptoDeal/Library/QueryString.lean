import Mathlib.Data.List.Basic
import Mathlib.Data.UInt

/-!
# Query strings

Octets written as two hexadecimal digits, percent-encoding, and queries of
`key=value` pairs that are joined by `&`. How keys and values are spelled is a
parameter; percent-encoding is one such spelling.
-/

namespace CryptoDeal.QueryString

abbrev Octets := List UInt8

/-- The octets of a text. -/
def octets (text : String) : Octets := text.toUTF8.data.toList

/-! ## Hexadecimal digits -/

inductive DigitCase where
  | upper
  | lower

/-- The digit of a value below 16. -/
def hexDigit (letters : DigitCase) (value : UInt8) : UInt8 :=
  if value < 10 then 48 + value
  else match letters with
    | .upper => 55 + value
    | .lower => 87 + value

def hexValue (digit : UInt8) : Option UInt8 :=
  if 48 ≤ digit ∧ digit ≤ 57 then some (digit - 48)
  else if 65 ≤ digit ∧ digit ≤ 70 then some (digit - 55)
  else if 97 ≤ digit ∧ digit ≤ 102 then some (digit - 87)
  else none

def hexOctet (letters : DigitCase) (octet : UInt8) : Octets :=
  [hexDigit letters (octet / 16), hexDigit letters (octet % 16)]

def readHexOctet (high low : UInt8) : Option UInt8 := do
  let upper ← hexValue high
  let lower ← hexValue low
  return 16 * upper + lower

def hexText (octets : Octets) : Octets := octets.flatMap (hexOctet .lower)

def readHexText : Octets → Option Octets
  | [] => some []
  | [_] => none
  | high :: low :: rest => do
      let octet ← readHexOctet high low
      let octets ← readHexText rest
      return octet :: octets

theorem hex_value_digit (letters : DigitCase) {value : UInt8} (below : value < 16) :
    hexValue (hexDigit letters value) = some value := by
  have digits : ∀ index : Fin 16, hexValue (hexDigit letters (UInt8.ofNat index)) =
      some (UInt8.ofNat index) := by
    cases letters <;> decide
  have small : value.toNat < 16 := by simpa [UInt8.lt_iff_toNat_lt] using below
  simpa using digits ⟨value.toNat, small⟩

theorem octet_div_lt (octet : UInt8) : octet / 16 < 16 := by
  rw [UInt8.lt_iff_toNat_lt, UInt8.toNat_div]
  have := octet.toNat_lt
  simp
  omega

theorem octet_mod_lt (octet : UInt8) : octet % 16 < 16 := by
  rw [UInt8.lt_iff_toNat_lt, UInt8.toNat_mod]
  simp
  omega

theorem read_hex_octet (letters : DigitCase) (octet : UInt8) :
    readHexOctet (hexDigit letters (octet / 16)) (hexDigit letters (octet % 16)) =
      some octet := by
  rw [readHexOctet, hex_value_digit letters (octet_div_lt octet),
    hex_value_digit letters (octet_mod_lt octet)]
  have whole : 16 * (octet / 16) + octet % 16 = octet := by
    have := octet.toNat_lt
    apply UInt8.toNat_inj.1
    simp
    omega
  simp [whole]

theorem read_hex_text (octets : Octets) : readHexText (hexText octets) = some octets := by
  induction octets with
  | nil => rfl
  | cons octet octets ih =>
      have text : hexText (octet :: octets) = hexDigit .lower (octet / 16) ::
          hexDigit .lower (octet % 16) :: hexText octets := rfl
      rw [text, readHexText, read_hex_octet, ih]
      rfl

/-! ## Percent-encoding -/

def percent : UInt8 := 37
def ampersand : UInt8 := 38
def plus : UInt8 := 43
def equals : UInt8 := 61
def space : UInt8 := 32

def encodeOctet (kept : UInt8 → Bool) (octet : UInt8) : Octets :=
  if kept octet then [octet] else percent :: hexOctet .upper octet

def encode (kept : UInt8 → Bool) (octets : Octets) : Octets := octets.flatMap (encodeOctet kept)

/-- As forms are read, where a plus sign is a space. -/
def decode : Octets → Option Octets
  | [] => some []
  | first :: rest =>
      if first = percent then
        match rest with
        | high :: low :: rest => do
            let octet ← readHexOctet high low
            let octets ← decode rest
            return octet :: octets
        | _ => none
      else do
        let octets ← decode rest
        return (if first = plus then space else first) :: octets

/-- No octet that is left alone means anything to the reader. -/
structure KeepsPlain (kept : UInt8 → Bool) : Prop where
  percent : kept percent = false
  ampersand : kept ampersand = false
  plus : kept plus = false

variable {kept : UInt8 → Bool}

theorem decode_plain {first : UInt8} (plain : first ≠ percent) (rest : Octets) :
    decode (first :: rest) =
      (decode rest).map ((if first = plus then space else first) :: ·) := by
  conv_lhs => unfold decode
  rw [if_neg plain]
  cases decode rest <;> rfl

theorem decode_escape (high low : UInt8) (rest : Octets) :
    decode (percent :: high :: low :: rest) =
      (readHexOctet high low).bind fun octet => (decode rest).map (octet :: ·) := by
  conv_lhs => unfold decode
  rw [if_pos rfl]
  dsimp only
  cases readHexOctet high low with
  | none => rfl
  | some octet => cases decode rest <;> rfl

theorem decode_octet (plain : KeepsPlain kept) (octet : UInt8) (rest : Octets) :
    decode (encodeOctet kept octet ++ rest) = (decode rest).map (octet :: ·) := by
  unfold encodeOctet
  split_ifs with alone
  · have notPercent : octet ≠ percent := fun same => by simp [same, plain.percent] at alone
    have notPlus : octet ≠ plus := fun same => by simp [same, plain.plus] at alone
    rw [List.singleton_append, decode_plain notPercent, if_neg notPlus]
  · rw [hexOctet, List.cons_append, List.cons_append, List.singleton_append, decode_escape,
      read_hex_octet, Option.bind_some]

theorem decode_encode (plain : KeepsPlain kept) (octets : Octets) :
    decode (encode kept octets) = some octets := by
  induction octets with
  | nil => rfl
  | cons octet octets ih =>
      rw [encode, List.flatMap_cons, decode_octet plain, ← encode, ih]
      rfl

theorem hex_digit_bounds (letters : DigitCase) {value : UInt8} (below : value < 16) :
    hexDigit letters value ≠ ampersand ∧ hexDigit letters value ≠ equals := by
  have digits : ∀ index : Fin 16, hexDigit letters (UInt8.ofNat index) ≠ ampersand ∧
      hexDigit letters (UInt8.ofNat index) ≠ equals := by
    cases letters <;> decide
  have small : value.toNat < 16 := by simpa [UInt8.lt_iff_toNat_lt] using below
  simpa using digits ⟨value.toNat, small⟩

/-- An encoded text holds no separator that is not kept. -/
theorem encode_no_separator {separator : UInt8} (unkept : kept separator = false)
    (isSeparator : separator = ampersand ∨ separator = equals) (octets : Octets) :
    separator ∉ encode kept octets := by
  intro member
  obtain ⟨octet, -, member⟩ := List.mem_flatMap.1 member
  unfold encodeOctet at member
  split_ifs at member with alone
  · rw [List.mem_singleton] at member
    rw [← member, unkept] at alone
    cases alone
  · have high := hex_digit_bounds .upper (octet_div_lt octet)
    have low := hex_digit_bounds .upper (octet_mod_lt octet)
    simp only [hexOctet, List.mem_cons, List.not_mem_nil, or_false] at member
    rcases member with rfl | rfl | rfl
    · rcases isSeparator with same | same <;> cases same
    · exact isSeparator.elim high.1 high.2
    · exact isSeparator.elim low.1 low.2

/-! ## Queries -/

abbrev Pair := Octets × Octets

/-- How the texts of a query are written and read. A value may hold equals signs. -/
structure Spelling where
  key : Octets → Octets
  value : Octets → Octets
  read : Octets → Option Octets
  readKey : ∀ text, read (key text) = some text
  readValue : ∀ text, read (value text) = some text
  keyPlain : ∀ text, ampersand ∉ key text ∧ equals ∉ key text
  valuePlain : ∀ text, ampersand ∉ value text

/-- Both percent-encoded, with the same octets left alone. -/
def percentSpelling (plain : KeepsPlain kept) (unequal : kept equals = false) : Spelling where
  key := encode kept
  value := encode kept
  read := decode
  readKey := decode_encode plain
  readValue := decode_encode plain
  keyPlain text := ⟨encode_no_separator plain.ampersand (.inl rfl) text,
    encode_no_separator unequal (.inr rfl) text⟩
  valuePlain := encode_no_separator plain.ampersand (.inl rfl)

/-- Letters, digits and `-._~`. -/
def unreserved (octet : UInt8) : Bool :=
  (48 ≤ octet && octet ≤ 57) || (65 ≤ octet && octet ≤ 90) || (97 ≤ octet && octet ≤ 122) ||
    octet = 45 || octet = 46 || octet = 95 || octet = 126

theorem unreserved_plain : KeepsPlain unreserved := ⟨by decide, by decide, by decide⟩

def unreservedSpelling : Spelling := percentSpelling unreserved_plain (by decide)

section Queries

variable (spelling : Spelling)

def writePair (pair : Pair) : Octets := spelling.key pair.1 ++ equals :: spelling.value pair.2

def appendPair (query : Octets) (pair : Pair) : Octets :=
  if query.isEmpty then writePair spelling pair
  else query ++ ampersand :: writePair spelling pair

def writeQuery (pairs : List Pair) : Octets := pairs.foldl (appendPair spelling) []

def readPair (text : Octets) : Option Pair := do
  let key ← spelling.read (text.takeWhile (· ≠ equals))
  let value ← spelling.read ((text.dropWhile (· ≠ equals)).drop 1)
  return (key, value)

def readQuery (query : Octets) : Option (List Pair) :=
  (query.splitOn ampersand).mapM (readPair spelling)

theorem write_pair_no_ampersand (pair : Pair) : ampersand ∉ writePair spelling pair := by
  intro member
  rcases List.mem_append.1 member with inKey | rest
  · exact (spelling.keyPlain pair.1).1 inKey
  · rcases List.mem_cons.1 rest with same | inValue
    · cases same
    · exact spelling.valuePlain pair.2 inValue

theorem read_pair_write (pair : Pair) : readPair spelling (writePair spelling pair) = some pair := by
  have plain : ∀ octet ∈ spelling.key pair.1, decide (octet ≠ equals) = true := by
    intro octet member
    refine decide_eq_true fun same => ?_
    exact (spelling.keyPlain pair.1).2 (same ▸ member)
  rw [readPair, writePair, List.takeWhile_append_of_pos plain, List.dropWhile_append_of_pos plain]
  simp [spelling.readKey, spelling.readValue]

theorem write_query_concat (pairs : List Pair) (pair : Pair) :
    writeQuery spelling (pairs ++ [pair]) = appendPair spelling (writeQuery spelling pairs) pair := by
  rw [writeQuery, List.foldl_concat]
  rfl

theorem write_pair_ne_nil (pair : Pair) : writePair spelling pair ≠ [] := by
  simp [writePair]

theorem intercalate_concat (separator : Octets) {texts : List Octets} (nonempty : texts ≠ [])
    (text : Octets) : separator.intercalate (texts ++ [text]) =
      separator.intercalate texts ++ separator ++ text := by
  induction texts with
  | nil => exact absurd rfl nonempty
  | cons first rest ih =>
      cases rest with
      | nil => simp [List.intercalate_cons_cons]
      | cons second rest =>
          rw [List.intercalate_cons_cons, List.cons_append, List.intercalate_cons_of_ne_nil (by simp),
            ih (by simp)]
          simp only [List.append_assoc]

theorem intercalate_ne_nil (separator : Octets) {texts : List Octets} (nonempty : texts ≠ [])
    (written : ∀ text ∈ texts, text ≠ []) : separator.intercalate texts ≠ [] := by
  cases texts with
  | nil => exact absurd rfl nonempty
  | cons first rest =>
      have first_ne := written first List.mem_cons_self
      cases rest with
      | nil => simpa using first_ne
      | cons second rest => simp [List.intercalate_cons_cons, first_ne]

/-- The pairs, joined. -/
theorem write_query_joins (pairs : List Pair) :
    writeQuery spelling pairs = [ampersand].intercalate (pairs.map (writePair spelling)) := by
  induction pairs using List.reverseRecOn with
  | nil => rfl
  | append_singleton pairs pair ih =>
      rw [write_query_concat, ih, appendPair, List.map_append, List.map_singleton]
      by_cases first : pairs = []
      · subst first
        simp
      · have texts : pairs.map (writePair spelling) ≠ [] := by simpa using first
        have written : [ampersand].intercalate (pairs.map (writePair spelling)) ≠ [] := by
          refine intercalate_ne_nil _ texts fun text member => ?_
          obtain ⟨pair, -, rfl⟩ := List.mem_map.1 member
          exact write_pair_ne_nil spelling pair
        rw [intercalate_concat _ texts, if_neg (by simpa using written)]
        simp

theorem write_query_ne_nil {pairs : List Pair} (nonempty : pairs ≠ []) :
    writeQuery spelling pairs ≠ [] := by
  rw [write_query_joins]
  refine intercalate_ne_nil _ (by simpa using nonempty) fun text member => ?_
  obtain ⟨pair, -, rfl⟩ := List.mem_map.1 member
  exact write_pair_ne_nil spelling pair

theorem split_query {pairs : List Pair} (nonempty : pairs ≠ []) :
    (writeQuery spelling pairs).splitOn ampersand = pairs.map (writePair spelling) := by
  rw [write_query_joins]
  refine List.splitOn_intercalate _ ?_ (by simpa using nonempty)
  intro text member
  obtain ⟨pair, -, rfl⟩ := List.mem_map.1 member
  exact write_pair_no_ampersand spelling pair

theorem read_pairs_write (pairs : List Pair) :
    (pairs.map (writePair spelling)).mapM (readPair spelling) = some pairs := by
  induction pairs with
  | nil => rfl
  | cons pair pairs ih =>
      rw [List.map_cons, List.mapM_cons, read_pair_write, ih]
      rfl

/-- The round trip. -/
theorem read_query_write {pairs : List Pair} (nonempty : pairs ≠ []) :
    readQuery spelling (writeQuery spelling pairs) = some pairs := by
  rw [readQuery, split_query spelling nonempty, read_pairs_write]

end Queries

/-! ## Lookups -/

section Lookups

variable {Key Value : Type} [BEq Key] [LawfulBEq Key] {entries : List (Key × Value)}

theorem lookup_iff_mem (distinct : (entries.map Prod.fst).Nodup) {key : Key} {value : Value} :
    entries.lookup key = some value ↔ (key, value) ∈ entries := by
  induction entries with
  | nil => simp
  | cons entry entries ih =>
      obtain ⟨first, held⟩ := entry
      rw [List.map_cons, List.nodup_cons] at distinct
      by_cases same : key = first
      · subst same
        have other : ∀ value, (key, value) ∉ entries := fun value member =>
          distinct.1 (List.mem_map.2 ⟨(key, value), member, rfl⟩)
        simp [other, eq_comm]
      · have different : (key == first) = false := by simpa using same
        rw [List.lookup_cons, different, List.mem_cons]
        simp only [ih distinct.2, Prod.mk.injEq, same, false_and, false_or]

/-- Where the keys are distinct, their order does not matter. -/
theorem lookup_perm {other : List (Key × Value)} (distinct : (entries.map Prod.fst).Nodup)
    (perm : other.Perm entries) (key : Key) : other.lookup key = entries.lookup key := by
  have otherDistinct : (other.map Prod.fst).Nodup := (perm.map _).nodup_iff.2 distinct
  apply Option.ext
  intro value
  rw [lookup_iff_mem distinct, lookup_iff_mem otherDistinct, perm.mem_iff]

end Lookups

end CryptoDeal.QueryString
