import CryptoDeal.Library.QueryString

/-!
# Objects of texts

A serializer of JSON objects whose members are texts, with a reader that takes back
what was written. The plain one writes no blanks, a quote or a backslash behind a
backslash, and a control character by its letter or by its code.
-/

namespace CryptoDeal.ObjectText

open QueryString

/-- The members of an object have no order, so they may be read in any. -/
structure Serialization where
  write : List (String × String) → Octets
  read : Octets → Option (List Pair)
  read_write : ∀ members, (members.map Prod.fst).Nodup → ∃ fields,
    read (write members) = some fields ∧
      fields.Perm (members.map fun (key, value) => (octets key, octets value))

/-! ## The plain serializer -/

def quote : UInt8 := 34
def comma : UInt8 := 44
def colon : UInt8 := 58
def backslash : UInt8 := 92
def openBrace : UInt8 := 123
def closeBrace : UInt8 := 125

/-- The letter that stands for an octet, where there is one. -/
def shortEscape (octet : UInt8) : Option UInt8 :=
  if octet = 8 then some 98
  else if octet = 9 then some 116
  else if octet = 10 then some 110
  else if octet = 12 then some 102
  else if octet = 13 then some 114
  else if octet = quote ∨ octet = backslash then some octet
  else none

def readShortEscape (letter : UInt8) : Option UInt8 :=
  if letter = 98 then some 8
  else if letter = 116 then some 9
  else if letter = 110 then some 10
  else if letter = 102 then some 12
  else if letter = 114 then some 13
  else if letter = quote ∨ letter = backslash ∨ letter = 47 then some letter
  else none

def escapeOctet (octet : UInt8) : Octets :=
  match shortEscape octet with
  | some letter => [backslash, letter]
  | none => if octet < 32 then [backslash, 117, 48, 48] ++ hexOctet .lower octet else [octet]

def writeText (text : Octets) : Octets := quote :: (text.flatMap escapeOctet ++ [quote])

def writeMember (member : Pair) : Octets := writeText member.1 ++ colon :: writeText member.2

def writeObject (members : List Pair) : Octets :=
  openBrace :: ([comma].intercalate (members.map writeMember) ++ [closeBrace])

/-- A text after its first quote, and what follows it. Codes beyond an octet are refused. -/
def readText : Octets → Option (Octets × Octets)
  | [] => none
  | first :: rest =>
      if first = quote then some ([], rest)
      else if first = backslash then
        match rest with
        | letter :: rest =>
            if letter = 117 then
              match rest with
              | first :: second :: high :: low :: rest =>
                  if first = 48 ∧ second = 48 then do
                    let octet ← readHexOctet high low
                    let (text, left) ← readText rest
                    return (octet :: text, left)
                  else none
              | _ => none
            else do
              let octet ← readShortEscape letter
              let (text, left) ← readText rest
              return (octet :: text, left)
        | [] => none
      else do
        let (text, left) ← readText rest
        return (first :: text, left)

/-- What must come next. -/
def expect (octet : UInt8) : Octets → Option Octets
  | [] => none
  | first :: rest => if first = octet then some rest else none

def readMember (source : Octets) : Option (Pair × Octets) := do
  let (key, rest) ← readText (← expect quote source)
  let (value, rest) ← readText (← expect quote (← expect colon rest))
  return ((key, value), rest)

/-- The members up to the closing brace; `fuel` bounds their number. -/
def readMembers : ℕ → Octets → Option (List Pair × Octets)
  | 0, _ => none
  | fuel + 1, source => do
      let (member, rest) ← readMember source
      match rest with
      | [] => none
      | first :: rest =>
          if first = comma then do
            let (members, left) ← readMembers fuel rest
            return (member :: members, left)
          else if first = closeBrace then some ([member], rest)
          else none

def readObject (source : Octets) : Option (List Pair) := do
  let rest ← expect openBrace source
  if rest = [closeBrace] then some []
  else do
    let (members, left) ← readMembers rest.length rest
    if left = [] then some members else none

/-! ## Texts -/

/-- The reader's result with one octet more in front. -/
def pushed (octet : UInt8) : Option (Octets × Octets) → Option (Octets × Octets) :=
  Option.map fun (text, left) => (octet :: text, left)

theorem read_short_escape {octet letter : UInt8} (short : shortEscape octet = some letter) :
    readShortEscape letter = some octet ∧ letter ≠ 117 := by
  unfold shortEscape at short
  split_ifs at short with backspace tab newline feed carriage plain
  · cases short
    exact ⟨by rw [backspace]; decide, by decide⟩
  · cases short
    exact ⟨by rw [tab]; decide, by decide⟩
  · cases short
    exact ⟨by rw [newline]; decide, by decide⟩
  · cases short
    exact ⟨by rw [feed]; decide, by decide⟩
  · cases short
    exact ⟨by rw [carriage]; decide, by decide⟩
  · cases short
    rcases plain with rfl | rfl <;> decide

theorem short_escape_none {octet : UInt8} (long : shortEscape octet = none) :
    octet ≠ quote ∧ octet ≠ backslash := by
  constructor <;> rintro rfl <;> cases long

theorem read_text_plain {octet : UInt8} (unquoted : octet ≠ quote) (unescaped : octet ≠ backslash)
    (rest : Octets) : readText (octet :: rest) = pushed octet (readText rest) := by
  conv_lhs => unfold readText
  rw [if_neg unquoted, if_neg unescaped]
  cases readText rest <;> rfl

theorem read_text_short {octet letter : UInt8} (stands : readShortEscape letter = some octet)
    (short : letter ≠ 117) (rest : Octets) :
    readText (backslash :: letter :: rest) = pushed octet (readText rest) := by
  conv_lhs => unfold readText
  rw [if_neg (by decide), if_pos rfl]
  dsimp only
  rw [if_neg short, stands]
  cases readText rest <;> rfl

theorem read_text_code {octet high low : UInt8} (code : readHexOctet high low = some octet)
    (rest : Octets) :
    readText (backslash :: 117 :: 48 :: 48 :: high :: low :: rest) =
      pushed octet (readText rest) := by
  conv_lhs => unfold readText
  rw [if_neg (by decide), if_pos rfl]
  dsimp only
  rw [if_pos rfl, if_pos ⟨rfl, rfl⟩, code]
  cases readText rest <;> rfl

theorem read_escaped_octet (octet : UInt8) (rest : Octets) :
    readText (escapeOctet octet ++ rest) = pushed octet (readText rest) := by
  unfold escapeOctet
  cases short : shortEscape octet with
  | some letter =>
      obtain ⟨stands, notCode⟩ := read_short_escape short
      exact read_text_short stands notCode rest
  | none =>
      dsimp only
      split_ifs with control
      · exact read_text_code (read_hex_octet .lower octet) rest
      · obtain ⟨unquoted, unescaped⟩ := short_escape_none short
        exact read_text_plain unquoted unescaped rest

theorem read_text_write (text rest : Octets) :
    readText (text.flatMap escapeOctet ++ quote :: rest) = some (text, rest) := by
  induction text with
  | nil =>
      rw [List.flatMap_nil, List.nil_append, readText.eq_def]
      exact if_pos rfl
  | cons octet text ih =>
      rw [List.flatMap_cons, List.append_assoc, read_escaped_octet, ih]
      rfl

/-! ## Objects -/

theorem write_text_append (text rest : Octets) :
    writeText text ++ rest = quote :: (text.flatMap escapeOctet ++ quote :: rest) := by
  simp [writeText]

theorem read_member_write (member : Pair) (rest : Octets) :
    readMember (writeMember member ++ rest) = some (member, rest) := by
  rw [writeMember, List.append_assoc, write_text_append, List.cons_append, write_text_append,
    readMember]
  simp [expect, read_text_write]

theorem read_members_write (members : List Pair) (nonempty : members ≠ []) (fuel : ℕ)
    (enough : members.length ≤ fuel) (rest : Octets) :
    readMembers fuel ([comma].intercalate (members.map writeMember) ++ closeBrace :: rest) =
      some (members, rest) := by
  induction members generalizing fuel with
  | nil => exact absurd rfl nonempty
  | cons member members ih =>
      cases fuel with
      | zero => cases enough
      | succ fuel =>
          cases members with
          | nil =>
              rw [List.map_singleton, List.intercalate_singleton, readMembers, read_member_write]
              rfl
          | cons second members =>
              rw [List.map_cons, List.map_cons, List.intercalate_cons_cons, ← List.map_cons,
                List.append_assoc, List.append_assoc, readMembers, read_member_write]
              have left := ih (by simp) fuel (by simpa using enough)
              simp only [List.singleton_append, Option.bind_eq_bind, Option.bind_some, if_pos, left]
              rfl

theorem write_member_ne_nil (member : Pair) : writeMember member ≠ [] := by
  simp [writeMember, writeText]

/-- Each member takes an octet at least. -/
theorem members_length_le (members : List Pair) :
    members.length ≤ ([comma].intercalate (members.map writeMember)).length := by
  induction members with
  | nil => exact Nat.zero_le _
  | cons member members ih =>
      have written := List.length_pos_iff.2 (write_member_ne_nil member)
      cases members with
      | nil =>
          rw [List.map_singleton, List.intercalate_singleton]
          exact written
      | cons second members =>
          rw [List.map_cons, List.map_cons, List.intercalate_cons_cons, ← List.map_cons]
          simp only [List.length_append, List.length_cons, List.length_nil] at ih ⊢
          omega

/-- The round trip. -/
theorem read_object_write (members : List Pair) :
    readObject (writeObject members) = some members := by
  by_cases empty : members = []
  · subst empty
    rfl
  · have written : [comma].intercalate (members.map writeMember) ≠ [] := by
      refine intercalate_ne_nil _ (by simpa using empty) fun text member => ?_
      obtain ⟨pair, -, rfl⟩ := List.mem_map.1 member
      exact write_member_ne_nil pair
    have more : [comma].intercalate (members.map writeMember) ++ [closeBrace] ≠ [closeBrace] := by
      simpa using written
    have enough : members.length ≤
        ([comma].intercalate (members.map writeMember) ++ [closeBrace]).length := by
      rw [List.length_append]
      exact (members_length_le members).trans (Nat.le_add_right _ _)
    have members_read := read_members_write members empty _ enough []
    rw [readObject, writeObject, expect, if_pos rfl]
    simp only [Option.bind_eq_bind, Option.bind_some, if_neg more, members_read, if_true]

def plainSerialization : Serialization where
  write members := writeObject (members.map fun (key, value) => (octets key, octets value))
  read := readObject
  read_write _ _ := ⟨_, read_object_write _, .refl _⟩

end CryptoDeal.ObjectText
