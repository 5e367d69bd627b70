import TwoTier.Text.Utf8

/-!
Which bytes are texts.

Bytes are read as a text exactly if they are its UTF-8 encoding (`RawText.text?_ofBytes`). Both ways
it is said for one character first: what is read after the encoding of a character is read as if it
stood alone, and what is read as a character is its encoding. The bounds on the second byte of a
sequence are what the second direction rests on: with them a sequence makes no number that a
shorter one makes, no surrogate and none beyond the last code point.
-/

namespace TwoTier.Text

/-- The encoding of a character, as numbers. -/
def utf8Char (c : Char) : List Nat := (String.utf8EncodeChar c).map UInt8.toNat

/-- The encoding of a text. -/
def utf8 (s : String) : List Nat := s.toList.flatMap utf8Char

/-! ### The encoding of a character -/

section Encoding

variable {c : Char}

theorem toNat_bounds (c : Char) :
    c.toNat < 0xD800 ∨ 0xDFFF < c.toNat ∧ c.toNat < 0x110000 := c.valid

theorem utf8Char_one (below : c.toNat < 0x80) : utf8Char c = [c.toNat] := by
  have val : c.val.toNat = c.toNat := rfl
  unfold utf8Char String.utf8EncodeChar
  rw [val, if_pos (by omega)]
  simp only [List.map_cons, List.map_nil, UInt8.toNat_ofNat', List.cons.injEq, and_true]
  omega

theorem utf8Char_two (above : 0x80 ≤ c.toNat) (below : c.toNat < 0x800) :
    utf8Char c = [0xC0 + c.toNat / 0x40, 0x80 + c.toNat % 0x40] := by
  have val : c.val.toNat = c.toNat := rfl
  unfold utf8Char String.utf8EncodeChar
  rw [val, if_neg (by omega), if_pos (by omega)]
  simp only [List.map_cons, List.map_nil, UInt8.toNat_ofNat', List.cons.injEq, and_true]
  omega

theorem utf8Char_three (above : 0x800 ≤ c.toNat) (below : c.toNat < 0x10000) :
    utf8Char c =
      [0xE0 + c.toNat / 0x1000, 0x80 + c.toNat / 0x40 % 0x40, 0x80 + c.toNat % 0x40] := by
  have val : c.val.toNat = c.toNat := rfl
  unfold utf8Char String.utf8EncodeChar
  rw [val, if_neg (by omega), if_neg (by omega), if_pos (by omega)]
  simp only [List.map_cons, List.map_nil, UInt8.toNat_ofNat', List.cons.injEq, and_true]
  omega

theorem utf8Char_four (above : 0x10000 ≤ c.toNat) :
    utf8Char c =
      [0xF0 + c.toNat / 0x40000, 0x80 + c.toNat / 0x1000 % 0x40, 0x80 + c.toNat / 0x40 % 0x40,
       0x80 + c.toNat % 0x40] := by
  have val : c.val.toNat = c.toNat := rfl
  have bounds := toNat_bounds c
  unfold utf8Char String.utf8EncodeChar
  rw [val, if_neg (by omega), if_neg (by omega), if_neg (by omega)]
  simp only [List.map_cons, List.map_nil, UInt8.toNat_ofNat', List.cons.injEq, and_true]
  omega

end Encoding

/-! ### First bytes -/

section Leads

variable {b : Nat} {l : Lead}

theorem lead?_two (low : 0xC2 ≤ b) (high : b ≤ 0xDF) : lead? b = some ⟨0x80, 0xBF, 0⟩ := by
  rw [lead?, if_pos ⟨low, high⟩]

theorem lead?_three (low : 0xE0 ≤ b) (high : b ≤ 0xEF) :
    lead? b = some ⟨if b = 0xE0 then 0xA0 else 0x80, if b = 0xED then 0x9F else 0xBF, 1⟩ := by
  unfold lead?
  rw [if_neg (by omega)]
  grind

theorem lead?_four (low : 0xF0 ≤ b) (high : b ≤ 0xF4) :
    lead? b = some ⟨if b = 0xF0 then 0x90 else 0x80, if b = 0xF4 then 0x8F else 0xBF, 2⟩ := by
  unfold lead?
  rw [if_neg (by omega), if_neg (by omega), if_neg (by omega), if_neg (by omega)]
  grind

/-- The three ways in which a longer sequence begins. -/
theorem lead?_cases (announces : lead? b = some l) :
    (0xC2 ≤ b ∧ b ≤ 0xDF) ∨ (0xE0 ≤ b ∧ b ≤ 0xEF) ∨ (0xF0 ≤ b ∧ b ≤ 0xF4) := by
  unfold lead? at announces
  grind

end Leads

/-! ### Reading a character -/

section Decoding

variable {c : Char} {b : Nat} {rest bytes : List Nat} {out : List (Option Char)}
  {value low high more : Nat}

theorem decodeStart_lead {l : Lead} (above : 0x80 ≤ b) (announces : lead? b = some l) :
    decodeStart (b :: rest) = decodeRest ⟨leadBits b, l⟩ rest := by
  rw [decodeStart, if_neg (by omega), announces]

theorem decodeRest_last (above : low ≤ b) (below : b ≤ high) :
    decodeRest ⟨value, ⟨low, high, 0⟩⟩ (b :: rest)
      = some (Char.ofNat (value * 0x40 + b % 0x40)) :: decodeStart rest := by
  rw [decodeRest, if_pos ⟨above, below⟩]

theorem decodeRest_more (above : low ≤ b) (below : b ≤ high) :
    decodeRest ⟨value, ⟨low, high, more + 1⟩⟩ (b :: rest)
      = decodeRest ⟨value * 0x40 + b % 0x40, ⟨0x80, 0xBF, more⟩⟩ rest := by
  rw [decodeRest, if_pos ⟨above, below⟩]

/-- The encoding of a character is read as the character. -/
theorem decodeStart_utf8Char (c : Char) (rest : List Nat) :
    decodeStart (utf8Char c ++ rest) = some c :: decodeStart rest := by
  have bounds := toNat_bounds c
  have exact {n : Nat} (same : n = c.toNat) : Char.ofNat n = c := by rw [same, Char.ofNat_toNat]
  by_cases one : c.toNat < 0x80
  · rw [utf8Char_one one, List.singleton_append, decodeStart, if_pos one, exact rfl]
  · by_cases two : c.toNat < 0x800
    · rw [utf8Char_two (by omega) two, List.cons_append,
        decodeStart_lead (by omega) (lead?_two (by omega) (by omega)), List.singleton_append,
        decodeRest_last (by omega) (by omega), exact]
      rw [leadBits, if_pos (by omega)]
      omega
    · by_cases three : c.toNat < 0x10000
      · rw [utf8Char_three (by omega) three, List.cons_append,
          decodeStart_lead (by omega) (lead?_three (by omega) (by omega)), List.cons_append,
          decodeRest_more (by split <;> omega) (by split <;> omega), List.singleton_append,
          decodeRest_last (by omega) (by omega), exact]
        rw [leadBits, if_neg (by omega), if_pos (by omega)]
        omega
      · rw [utf8Char_four (by omega), List.cons_append,
          decodeStart_lead (by omega) (lead?_four (by omega) (by omega)), List.cons_append,
          decodeRest_more (by split <;> omega) (by split <;> omega), List.cons_append,
          decodeRest_more (by omega) (by omega), List.singleton_append,
          decodeRest_last (by omega) (by omega), exact]
        rw [leadBits, if_neg (by omega), if_neg (by omega)]
        omega

/-- Inside a sequence a character comes only of a byte that continues it. -/
theorem decodeRest_some (read : decodeRest ⟨value, ⟨low, high, more⟩⟩ bytes = some c :: out) :
    ∃ b rest, bytes = b :: rest ∧ low ≤ b ∧ b ≤ high ∧
      match more with
      | 0 => c = Char.ofNat (value * 0x40 + b % 0x40) ∧ out = decodeStart rest
      | more + 1 =>
        decodeRest ⟨value * 0x40 + b % 0x40, ⟨0x80, 0xBF, more⟩⟩ rest = some c :: out := by
  cases bytes with
  | nil => simp [decodeRest] at read
  | cons b rest =>
      rw [decodeRest] at read
      split at read
      · rename_i within
        refine ⟨b, rest, rfl, within.1, within.2, ?_⟩
        cases more with
        | zero =>
            obtain ⟨same, rfl⟩ := List.cons.inj read
            exact ⟨(Option.some.inj same).symm, rfl⟩
        | succ more => exact read
      · split at read
        · simp at read
        · split at read <;> simp at read

theorem toNat_ofNat_of_valid {n : Nat} (valid : n < 0xD800 ∨ 0xDFFF < n ∧ n < 0x110000) :
    (Char.ofNat n).toNat = n := by
  rw [Char.ofNat, dif_pos valid]
  rfl

/-- Two bytes within their bounds encode the character of their payload. -/
theorem utf8Char_ofNat_two {a b : Nat} (first : 0xC2 ≤ a ∧ a ≤ 0xDF)
    (second : 0x80 ≤ b ∧ b ≤ 0xBF) :
    utf8Char (Char.ofNat (a % 0x20 * 0x40 + b % 0x40)) = [a, b] := by
  have number := toNat_ofNat_of_valid (n := a % 0x20 * 0x40 + b % 0x40) (by omega)
  rw [utf8Char_two (by omega) (by omega), number]
  simp only [List.cons.injEq, and_true]
  omega

/-- Three bytes within their bounds encode the character of their payload. After 0xE0 it would be
overlong, and after 0xED a surrogate, without the bounds on the second byte. -/
theorem utf8Char_ofNat_three {a b d : Nat} (first : 0xE0 ≤ a ∧ a ≤ 0xEF)
    (second : 0x80 ≤ b ∧ b ≤ 0xBF) (long : a = 0xE0 → 0xA0 ≤ b) (scalar : a = 0xED → b ≤ 0x9F)
    (third : 0x80 ≤ d ∧ d ≤ 0xBF) :
    utf8Char (Char.ofNat ((a % 0x10 * 0x40 + b % 0x40) * 0x40 + d % 0x40)) = [a, b, d] := by
  have number := toNat_ofNat_of_valid (n := (a % 0x10 * 0x40 + b % 0x40) * 0x40 + d % 0x40)
    (by omega)
  rw [utf8Char_three (by omega) (by omega), number]
  simp only [List.cons.injEq, and_true]
  omega

/-- Four bytes within their bounds encode the character of their payload. After 0xF0 it would be
overlong, and after 0xF4 beyond the last code point, without the bounds on the second byte. -/
theorem utf8Char_ofNat_four {a b d e : Nat} (first : 0xF0 ≤ a ∧ a ≤ 0xF4)
    (second : 0x80 ≤ b ∧ b ≤ 0xBF) (long : a = 0xF0 → 0x90 ≤ b) (known : a = 0xF4 → b ≤ 0x8F)
    (third : 0x80 ≤ d ∧ d ≤ 0xBF) (fourth : 0x80 ≤ e ∧ e ≤ 0xBF) :
    utf8Char (Char.ofNat (((a % 0x08 * 0x40 + b % 0x40) * 0x40 + d % 0x40) * 0x40 + e % 0x40))
      = [a, b, d, e] := by
  have number := toNat_ofNat_of_valid
    (n := ((a % 0x08 * 0x40 + b % 0x40) * 0x40 + d % 0x40) * 0x40 + e % 0x40) (by omega)
  rw [utf8Char_four (by omega), number]
  simp only [List.cons.injEq, and_true]
  omega

/-- What is read as a character is its encoding. -/
theorem decodeStart_some (read : decodeStart bytes = some c :: out) :
    ∃ rest, bytes = utf8Char c ++ rest ∧ out = decodeStart rest := by
  cases bytes with
  | nil => simp [decodeStart] at read
  | cons a rest =>
      rw [decodeStart] at read
      split at read
      · rename_i one
        obtain ⟨same, rfl⟩ := List.cons.inj read
        obtain rfl := Option.some.inj same
        have number := toNat_ofNat_of_valid (n := a) (by omega)
        refine ⟨rest, ?_, rfl⟩
        rw [utf8Char_one (by omega), number, List.singleton_append]
      · split at read
        · simp at read
        · rename_i l announces
          rcases lead?_cases announces with first | first | first
          · obtain rfl := Option.some.inj ((lead?_two first.1 first.2).symm.trans announces)
            rw [leadBits, if_pos (by omega)] at read
            obtain ⟨b, rest, rfl, low, high, rfl, rfl⟩ := decodeRest_some read
            exact ⟨rest, by rw [utf8Char_ofNat_two first ⟨low, high⟩]; rfl, rfl⟩
          · obtain rfl := Option.some.inj ((lead?_three first.1 first.2).symm.trans announces)
            rw [leadBits, if_neg (by omega), if_pos (by omega)] at read
            obtain ⟨b, _, rfl, low, high, read⟩ := decodeRest_some read
            obtain ⟨d, rest, rfl, third, third', rfl, rfl⟩ := decodeRest_some read
            have same := utf8Char_ofNat_three (a := a) (b := b) (d := d) first (by grind) (by grind)
              (by grind) ⟨third, third'⟩
            exact ⟨rest, by rw [same]; rfl, rfl⟩
          · obtain rfl := Option.some.inj ((lead?_four first.1 first.2).symm.trans announces)
            rw [leadBits, if_neg (by omega), if_neg (by omega)] at read
            obtain ⟨b, _, rfl, low, high, read⟩ := decodeRest_some read
            obtain ⟨d, _, rfl, third, third', read⟩ := decodeRest_some read
            obtain ⟨e, rest, rfl, fourth, fourth', rfl, rfl⟩ := decodeRest_some read
            have same := utf8Char_ofNat_four (a := a) (b := b) (d := d) (e := e) first (by grind)
              (by grind) (by grind) ⟨third, third'⟩ ⟨fourth, fourth'⟩
            exact ⟨rest, by rw [same]; rfl, rfl⟩

theorem decodeRest_ne_nil (p : Pending) (bytes : List Nat) : decodeRest p bytes ≠ [] := by
  induction bytes generalizing p with
  | nil => simp [decodeRest]
  | cons b rest ih =>
      rw [decodeRest]
      split
      · split
        · simp
        · exact ih _
      · split
        · simp
        · split <;> simp

theorem decodeStart_eq_nil (read : decodeStart bytes = []) : bytes = [] := by
  cases bytes with
  | nil => rfl
  | cons b rest =>
      rw [decodeStart] at read
      split at read
      · simp at read
      · split at read
        · simp at read
        · exact absurd read (decodeRest_ne_nil _ _)

end Decoding

/-! ### Texts -/

/-- Bytes are cut into characters without a hole exactly if they encode these characters. -/
theorem decodeStart_eq_iff {bytes : List Nat} {cs : List Char} :
    decodeStart bytes = cs.map some ↔ bytes = cs.flatMap utf8Char := by
  constructor
  · intro read
    induction cs generalizing bytes with
    | nil => exact decodeStart_eq_nil read
    | cons c cs ih =>
        obtain ⟨rest, rfl, tail⟩ := decodeStart_some read
        rw [List.flatMap_cons, ih tail.symm]
  · rintro rfl
    induction cs with
    | nil => rw [List.flatMap_nil, decodeStart, List.map_nil]
    | cons c cs ih => rw [List.flatMap_cons, decodeStart_utf8Char, ih, List.map_cons]

namespace RawText

theorem mapM_id_eq_some {α : Type} {l : List (Option α)} {as : List α} :
    l.mapM id = some as ↔ l = as.map some := by
  induction l generalizing as with
  | nil => cases as <;> simp
  | cons a l ih =>
      simp only [List.mapM_cons, id, Option.bind_eq_bind, Option.bind_eq_some_iff, Option.pure_def,
        Option.some.injEq]
      constructor
      · rintro ⟨b, rfl, bs, read, rfl⟩
        rw [ih.mp read, List.map_cons]
      · intro same
        cases as with
        | nil => simp at same
        | cons b bs =>
            obtain ⟨rfl, rfl⟩ := List.cons.inj same
            exact ⟨b, rfl, bs, ih.mpr rfl, rfl⟩

theorem text?_eq_some {t : RawText} {s : String} : t.text? = some s ↔ t = .ofString s := by
  obtain ⟨pieces⟩ := t
  rw [text?, Option.map_eq_some_iff, ofString, RawText.mk.injEq, ← mapM_id_eq_some]
  constructor
  · rintro ⟨cs, read, rfl⟩
    rwa [String.toList_ofList]
  · exact fun read => ⟨s.toList, read, String.ofList_toList⟩

/-- Bytes are read as a text exactly if they are its encoding. -/
theorem text?_ofBytes {bytes : List Nat} {s : String} :
    (ofBytes bytes).text? = some s ↔ bytes = utf8 s := by
  rw [text?_eq_some, ofBytes, ofString, RawText.mk.injEq, decodeStart_eq_iff, utf8]

end RawText

end TwoTier.Text
