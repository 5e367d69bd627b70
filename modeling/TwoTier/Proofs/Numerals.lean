import TwoTier.Config.Environment
import Mathlib.Data.List.TakeWhile

/-!
Which texts are numbers and which are flags.

The grammar of a number is stated without its reader: blanks, an optional plus, one or more ASCII
digits with a value below the word limit, blanks (`WordText`). So is that of a flag, which is one of
nine words in any case of ASCII letters (`FlagText`). The readers trim first and then read from the
left, giving up at the first fault; `readWord_trim` and `readFlag?_eq_some` say that what they
accept is the grammar, with the same meaning. That the digits are read with a check at each of them
and not once at the end makes no difference, since a number only grows by further digits.
-/

namespace TwoTier.Text

/-! ### Blanks -/

/-- A text that is another one between blanks. -/
def Between (core raw : List Char) : Prop :=
  ∃ before after, raw = before ++ core ++ after ∧ (∀ c ∈ before, isBlank c = true) ∧
    ∀ c ∈ after, isBlank c = true

section Trimming

variable {core raw : List Char}

/-- No blank lies between the space and the first of the controls beyond ASCII. -/
theorem not_isBlank_of_range {c : Char} {low : Nat} (space : 0x20 < low) (above : low ≤ c.toNat)
    (below : c.toNat < 0x85) : isBlank c = false := by
  simp only [isBlank, inRanges, blankRanges, List.any_cons, List.any_nil, Bool.or_eq_false_iff,
    Bool.and_eq_false_iff, decide_eq_false_iff_not, and_true]
  omega

theorem between_trimList (raw : List Char) : Between (trimList raw) raw := by
  refine ⟨raw.takeWhile isBlank, ((raw.dropWhile isBlank).reverse.takeWhile isBlank).reverse,
    ?_, ?_, ?_⟩
  · unfold trimList
    rw [List.append_assoc, ← List.reverse_append, List.takeWhile_append_dropWhile,
      List.reverse_reverse, List.takeWhile_append_dropWhile]
  · exact fun c mem => List.mem_takeWhile_imp mem
  · exact fun c mem => List.mem_takeWhile_imp (List.mem_reverse.mp mem)

theorem dropWhile_blanks (solid : ∀ c ∈ core, isBlank c = false) (filled : core ≠ [])
    {before : List Char} (blank : ∀ c ∈ before, isBlank c = true) (after : List Char) :
    (before ++ core ++ after).dropWhile isBlank = core ++ after := by
  rw [List.append_assoc, List.dropWhile_append_of_pos blank]
  cases core with
  | nil => exact absurd rfl filled
  | cons c core => simp [solid c List.mem_cons_self]

/-- A text without blanks is what trimming leaves of it between blanks. -/
theorem Between.trimList (between : Between core raw) (solid : ∀ c ∈ core, isBlank c = false) :
    trimList raw = core := by
  obtain ⟨before, after, rfl, left, right⟩ := between
  unfold Text.trimList
  by_cases filled : core = []
  · subst filled
    have blank : (before ++ [] ++ after).dropWhile isBlank = [] := by
      rw [List.append_nil, List.dropWhile_append_of_pos left, List.dropWhile_eq_nil_iff]
      exact right
    rw [blank, List.reverse_nil, List.dropWhile_nil, List.reverse_nil]
  · have solid' : ∀ c ∈ core.reverse, isBlank c = false := fun c mem =>
      solid c (List.mem_reverse.mp mem)
    have right' : ∀ c ∈ after.reverse, isBlank c = true := fun c mem =>
      right c (List.mem_reverse.mp mem)
    have filled' : core.reverse ≠ [] := fun empty => filled (List.reverse_eq_nil_iff.mp empty)
    have last := dropWhile_blanks solid' filled' right' []
    rw [List.append_nil, List.append_nil] at last
    rw [dropWhile_blanks solid filled left, List.reverse_append, last, List.reverse_reverse]

end Trimming

/-! ### Numbers -/

/-- An optional plus and one or more ASCII digits, with their value. -/
def IsNumeral (cs : List Char) (n : Nat) : Prop :=
  ∃ digits : List Char, (cs = digits ∨ cs = '+' :: digits) ∧ digits ≠ [] ∧
    (∀ c ∈ digits, c.isDigit = true) ∧ Nat.ofDigitChars 10 digits 0 = n

/-- A numeral for a machine word, between blanks. -/
def WordText (raw : String) (n : Nat) : Prop :=
  ∃ core, Between core raw.toList ∧ IsNumeral core n ∧ n < wordLimit

section Numbers

variable {c : Char} {cs digits : List Char} {value n d : Nat} {raw : String}

theorem digitValue?_eq_some :
    digitValue? c = some d ↔ c.isDigit = true ∧ d = c.toNat - '0'.toNat := by
  unfold digitValue?
  rw [Option.ite_none_right_eq_some, Option.some.injEq, eq_comm, Char.isDigit_iff_toNat]
  exact Iff.rfl

theorem le_ofDigitChars (digits : List Char) (value : Nat) :
    value ≤ Nat.ofDigitChars 10 digits value := by
  rw [Nat.ofDigitChars_eq_ofDigitChars_zero]
  have positive : 0 < 10 ^ digits.length := Nat.pow_pos (by decide)
  have grown := Nat.le_mul_of_pos_left value positive
  omega

/-- The value that all digits make is in range exactly if that of each beginning is. -/
theorem readDigits_eq_ok (small : value < wordLimit) : readDigits value digits = .ok n ↔
    (∀ c ∈ digits, c.isDigit = true) ∧ Nat.ofDigitChars 10 digits value = n ∧ n < wordLimit := by
  induction digits generalizing value with
  | nil =>
      rw [readDigits, Nat.ofDigitChars_nil, Except.ok.injEq]
      constructor
      · rintro rfl
        exact ⟨by simp, rfl, small⟩
      · exact fun h => h.2.1
  | cons c digits ih =>
      rw [readDigits, Nat.ofDigitChars_cons, List.forall_mem_cons]
      cases digit : digitValue? c with
      | none =>
          refine iff_of_false (by simp) fun h => ?_
          have some := digitValue?_eq_some.mpr ⟨h.1.1, rfl⟩
          simp [digit] at some
      | some d =>
          obtain ⟨isDigit, rfl⟩ := digitValue?_eq_some.mp digit
          rw [Nat.mul_comm 10 value]
          dsimp only
          split
          · rename_i within
            rw [ih within, and_assoc]
            exact (and_iff_right isDigit).symm
          · rename_i beyond
            refine iff_of_false (by simp) fun h => beyond ?_
            exact Nat.lt_of_le_of_lt ((le_ofDigitChars digits _).trans_eq h.2.1) h.2.2

theorem readDigits_zero_eq_ok : readDigits 0 digits = .ok n ↔
    (∀ c ∈ digits, c.isDigit = true) ∧ Nat.ofDigitChars 10 digits 0 = n ∧ n < wordLimit :=
  readDigits_eq_ok (by decide)

theorem not_isNumeral_nil : ¬ IsNumeral [] n := by
  rintro ⟨digits, same | same, filled, -⟩
  · exact filled same.symm
  · contradiction

theorem isNumeral_plus : IsNumeral ('+' :: digits) n ↔
    digits ≠ [] ∧ (∀ c ∈ digits, c.isDigit = true) ∧ Nat.ofDigitChars 10 digits 0 = n := by
  constructor
  · rintro ⟨digits', same | same, filled, all, value⟩
    · have plus := all '+' (same ▸ List.mem_cons_self)
      exact absurd plus (by decide)
    · obtain ⟨-, rfl⟩ := List.cons.inj same
      exact ⟨filled, all, value⟩
  · exact fun h => ⟨digits, .inr rfl, h⟩

theorem isNumeral_of_ne_plus (filled : cs ≠ []) (unsigned : ∀ rest, cs ≠ '+' :: rest) :
    IsNumeral cs n ↔ (∀ c ∈ cs, c.isDigit = true) ∧ Nat.ofDigitChars 10 cs 0 = n := by
  constructor
  · rintro ⟨digits, rfl | same, -, all, value⟩
    · exact ⟨all, value⟩
    · exact absurd same (unsigned digits)
  · exact fun h => ⟨cs, .inl rfl, filled, h⟩

theorem readWordList_eq_ok : readWordList cs = .ok n ↔ IsNumeral cs n ∧ n < wordLimit := by
  unfold readWordList
  split
  · exact iff_of_false (by simp) fun h => not_isNumeral_nil h.1
  · exact iff_of_false (by simp) fun h => (isNumeral_plus.mp h.1).1 rfl
  · rename_i rest alone
    rw [readDigits_zero_eq_ok, isNumeral_plus, and_assoc, and_assoc]
    exact (and_iff_right fun empty => alone (by rw [empty])).symm
  · rename_i empty alone signed
    rw [readDigits_zero_eq_ok, isNumeral_of_ne_plus empty fun rest same => signed rest same,
      and_assoc]

/-- No blank is part of a numeral. -/
theorem IsNumeral.solid (numeral : IsNumeral cs n) : ∀ c ∈ cs, isBlank c = false := by
  obtain ⟨digits, same, -, all, -⟩ := numeral
  have digit : ∀ c ∈ digits, isBlank c = false := by
    intro c mem
    obtain ⟨low, high⟩ : 0x30 ≤ c.toNat ∧ c.toNat ≤ 0x39 :=
      Char.isDigit_iff_toNat.mp (all c mem)
    exact not_isBlank_of_range (by decide) low (by omega)
  rcases same with rfl | rfl
  · exact digit
  · exact List.forall_mem_cons.mpr ⟨by decide, digit⟩

theorem readWord_trim : readWord (trim raw) = .ok n ↔ WordText raw n := by
  rw [readWord, trim, String.toList_ofList, readWordList_eq_ok]
  constructor
  · exact fun h => ⟨trimList raw.toList, between_trimList _, h⟩
  · rintro ⟨core, between, numeral, small⟩
    rw [between.trimList numeral.solid]
    exact ⟨numeral, small⟩

/-- A number in decimal reads as itself. -/
theorem isNumeral_toString (n : Nat) : IsNumeral (toString n).toList n := by
  refine ⟨Nat.toDigits 10 n, .inl ?_, Nat.toDigits_ne_nil, ?_, Nat.ofDigitChars_ten_toDigits⟩
  · rw [Nat.toString_eq_ofList_toDigits, String.toList_ofList]
  · exact fun c mem => Nat.isDigit_of_mem_toDigits (by decide) (by decide) mem

end Numbers

/-! ### Flags -/

/-- One of the nine words in any case of ASCII letters, between blanks. -/
def FlagText (raw : String) (b : Bool) : Prop :=
  ∃ core, Between core raw.toList ∧
    lowerAscii (String.ofList core) ∈
      if b then Environment.trueWords else Environment.falseWords

section Flags

variable {c : Char} {core : List Char} {raw : String} {b : Bool}

theorem isBlank_toLower (blank : isBlank c = true) : isBlank c.toLower = true := by
  have same : c.toLower = c := by
    unfold Char.toLower
    rw [dif_neg]
    rintro ⟨low, high⟩
    have above : 0x41 ≤ c.toNat := UInt32.le_iff_toNat_le.mp low
    have below : c.toNat ≤ 0x5A := UInt32.le_iff_toNat_le.mp high
    rw [not_isBlank_of_range (by decide) above (by omega)] at blank
    contradiction
  rw [same, blank]

theorem words_solid : ∀ w ∈ Environment.trueWords ++ Environment.falseWords,
    ∀ c ∈ w.toList, isBlank c = false := by
  have checked : ((Environment.trueWords ++ Environment.falseWords).all fun w =>
      w.toList.all fun c => !isBlank c) = true := rfl
  simpa only [List.all_eq_true, Bool.not_eq_true'] using checked

theorem solid_of_word (word : lowerAscii (String.ofList core) ∈
    Environment.trueWords ++ Environment.falseWords) : ∀ c ∈ core, isBlank c = false := by
  intro c mem
  have lowered : c.toLower ∈ (lowerAscii (String.ofList core)).toList := by
    rw [lowerAscii, String.toList_map, String.toList_ofList]
    exact List.mem_map_of_mem mem
  have solid := words_solid _ word _ lowered
  refine Bool.eq_false_iff.mpr fun blank => ?_
  rw [isBlank_toLower blank] at solid
  contradiction

theorem flagText_iff : FlagText raw b ↔
    lowerAscii (trim raw) ∈ if b then Environment.trueWords else Environment.falseWords := by
  constructor
  · rintro ⟨core, between, word⟩
    have either : lowerAscii (String.ofList core) ∈
        Environment.trueWords ++ Environment.falseWords := by
      cases b with
      | true => exact List.mem_append_left _ word
      | false => exact List.mem_append_right _ word
    rwa [trim, between.trimList (solid_of_word either)]
  · exact fun word => ⟨trimList raw.toList, between_trimList _, word⟩

theorem words_disjoint : ∀ w ∈ Environment.trueWords, w ∉ Environment.falseWords := by
  decide

theorem readFlag?_eq_some : Environment.readFlag? raw = some b ↔ FlagText raw b := by
  rw [flagText_iff]
  unfold Environment.readFlag?
  cases b with
  | true => simp
  | false =>
      have apart := words_disjoint (lowerAscii (trim raw))
      by_cases yes : lowerAscii (trim raw) ∈ Environment.trueWords
      · simp [yes, apart yes]
      · simp [yes]

end Flags

end TwoTier.Text
