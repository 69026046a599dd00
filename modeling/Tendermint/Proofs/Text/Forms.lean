import Mathlib.Data.List.TakeWhile
import Tendermint.Proofs.Text.RoundTrip

/-!
# Tendermint.Proofs.Text.Forms

Texts that stand for the same. An integer may have a sign, leading zeros and white space around it;
the letters of hexadecimal digits may be in either case.

* `Integer.Spelling`: the texts of an integer.
* `Integer.ofText_eq_ok_iff`: within the range such a text, and no other, is read as that integer.
* `Hex.decode_of_sameLetters`: the case of letters makes no difference.
* `Hex.encodeUpper_of_decode`: what was read is written as the text in upper case.
* `Text.trim_between`, `Text.exists_trim`: the white space around a text.
-/

namespace Tendermint

namespace Integer

/-- The number that digits stand for. -/
def magnitude (digits : List Char) : Nat := Nat.ofDigitChars 10 digits 0

/-- A sign and digits, and the integer they stand for. -/
inductive Numeral : List Char → Int → Prop where
  | unsigned {digits : List Char} (some : digits ≠ []) (all : ∀ c ∈ digits, c.isDigit = true) :
    Numeral digits (magnitude digits)
  | plus {digits : List Char} (some : digits ≠ []) (all : ∀ c ∈ digits, c.isDigit = true) :
    Numeral ('+' :: digits) (magnitude digits)
  | minus {digits : List Char} (some : digits ≠ []) (all : ∀ c ∈ digits, c.isDigit = true) :
    Numeral ('-' :: digits) (-(magnitude digits : Int))

/-- A text that stands for an integer: a numeral between white space. -/
inductive Spelling : String → Int → Prop where
  | intro {text : String} {before numeral after : List Char} {n : Int}
    (parts : text.toList = before ++ numeral ++ after)
    (blankBefore : ∀ c ∈ before, Text.isBlank c = true) (inside : Numeral numeral n)
    (blankAfter : ∀ c ∈ after, Text.isBlank c = true) : Spelling text n

section Numerals

variable {cs digits : List Char} {n m : Int}

theorem ofChars_plus (some : digits ≠ []) : ofChars ('+' :: digits) = countUp 0 digits := by
  cases digits with
  | nil => exact absurd rfl some
  | cons c rest => rfl

theorem eq_of_countUp (all : ∀ c ∈ cs, c.isDigit = true) {k : Nat} (read : countUp k cs = .ok m) :
    m = Nat.ofDigitChars 10 cs k := by
  induction cs generalizing k with
  | nil => exact (Except.ok.inj read).symm
  | cons c rest ih =>
    obtain ⟨first, others⟩ := List.forall_mem_cons.1 all
    rw [Nat.ofDigitChars_cons]
    simp only [countUp, digit?_of_isDigit first] at read
    split at read
    · cases read
    · refine ih others ?_
      rw [← read]
      congr 1
      omega

theorem eq_of_countDown (all : ∀ c ∈ cs, c.isDigit = true) {k : Nat}
    (read : countDown (-(k : Int)) cs = .ok m) : m = -(Nat.ofDigitChars 10 cs k : Int) := by
  induction cs generalizing k with
  | nil => exact (Except.ok.inj read).symm
  | cons c rest ih =>
    obtain ⟨first, others⟩ := List.forall_mem_cons.1 all
    rw [Nat.ofDigitChars_cons]
    simp only [countDown, digit?_of_isDigit first] at read
    split at read
    · cases read
    · refine ih others ?_
      rw [← read]
      congr 1
      omega

theorem Numeral.ofChars (h : Numeral cs n) (low : least ≤ n) (high : n ≤ greatest) :
    ofChars cs = .ok n := by
  cases h with
  | unsigned some all =>
    rw [ofChars_digits all some]
    exact countUp_eq all 0 high
  | plus some all =>
    rw [ofChars_plus some]
    exact countUp_eq all 0 high
  | minus some all =>
    rw [ofChars_minus some]
    exact countDown_eq all 0 low

theorem Numeral.eq_of_ofChars (h : Numeral cs n) (read : Integer.ofChars cs = .ok m) : m = n := by
  cases h with
  | unsigned some all =>
    rw [ofChars_digits all some] at read
    exact eq_of_countUp all read
  | plus some all =>
    rw [ofChars_plus some] at read
    exact eq_of_countUp all read
  | minus some all =>
    rw [ofChars_minus some] at read
    exact eq_of_countDown all read

theorem isDigit_of_digit? {c : Char} {d : Nat} (h : digit? c = some d) : c.isDigit = true := by
  rw [digit?, Option.ite_none_right_eq_some] at h
  simpa [Char.isDigit, Char.le_def, UInt32.le_iff_toNat_le] using h.1

/-- Only digits are counted, and the count stays within the range. -/
theorem digits_of_countUp {k : Int} (inside : k ≤ greatest) (read : countUp k cs = .ok m) :
    (∀ c ∈ cs, c.isDigit = true) ∧ m ≤ greatest := by
  induction cs generalizing k with
  | nil => exact ⟨nofun, Except.ok.inj read ▸ inside⟩
  | cons c rest ih =>
    rw [countUp] at read
    cases digit : digit? c with
    | none =>
      rw [digit] at read
      cases read
    | some d =>
      simp only [digit] at read
      split at read
      · cases read
      · next fits =>
        obtain ⟨others, small⟩ := ih (Int.not_lt.1 fits) read
        exact ⟨List.forall_mem_cons.2 ⟨isDigit_of_digit? digit, others⟩, small⟩

theorem digits_of_countDown {k : Int} (inside : least ≤ k) (read : countDown k cs = .ok m) :
    (∀ c ∈ cs, c.isDigit = true) ∧ least ≤ m := by
  induction cs generalizing k with
  | nil => exact ⟨nofun, Except.ok.inj read ▸ inside⟩
  | cons c rest ih =>
    rw [countDown] at read
    cases digit : digit? c with
    | none =>
      rw [digit] at read
      cases read
    | some d =>
      simp only [digit] at read
      split at read
      · cases read
      · next fits =>
        obtain ⟨others, large⟩ := ih (Int.not_lt.1 fits) read
        exact ⟨List.forall_mem_cons.2 ⟨isDigit_of_digit? digit, others⟩, large⟩

/-- Whatever is read is a numeral of an integer within the range. -/
theorem numeral_of_ofChars (read : Integer.ofChars cs = .ok n) :
    Numeral cs n ∧ least ≤ n ∧ n ≤ greatest := by
  have up {digits : List Char} (read : countUp 0 digits = .ok n) :
      (∀ c ∈ digits, c.isDigit = true) ∧ n = magnitude digits ∧ least ≤ n ∧ n ≤ greatest := by
    obtain ⟨all, small⟩ := digits_of_countUp (by decide) read
    have value : n = magnitude digits := eq_of_countUp all read
    exact ⟨all, value, Int.le_trans (by decide : least ≤ 0) (value ▸ Int.natCast_nonneg _), small⟩
  cases cs with
  | nil => cases read
  | cons c rest =>
    by_cases plus : c = '+'
    · subst plus
      have some : rest ≠ [] := by
        rintro rfl
        cases read
      rw [ofChars_plus some] at read
      obtain ⟨all, rfl, inside⟩ := up read
      exact ⟨.plus some all, inside⟩
    · by_cases minus : c = '-'
      · subst minus
        have some : rest ≠ [] := by
          rintro rfl
          cases read
        rw [ofChars_minus some] at read
        obtain ⟨all, large⟩ := digits_of_countDown (by decide) read
        obtain rfl : n = -(magnitude rest : Int) := eq_of_countDown (k := 0) all read
        exact ⟨.minus some all, large, Int.le_trans (by omega) (by decide : 0 ≤ greatest)⟩
      · have plain : Integer.ofChars (c :: rest) = countUp 0 (c :: rest) := by
          simp [Integer.ofChars, plus, minus]
        rw [plain] at read
        obtain ⟨all, rfl, inside⟩ := up read
        exact ⟨.unsigned (List.cons_ne_nil c rest) all, inside⟩

theorem Numeral.not_blank (h : Numeral cs n) : ∀ c ∈ cs, Text.isBlank c = false := by
  cases h with
  | unsigned some all => exact fun c hc => isBlank_of_isDigit (all c hc)
  | plus some all =>
    exact List.forall_mem_cons.2 ⟨by decide, fun c hc => isBlank_of_isDigit (all c hc)⟩
  | minus some all =>
    exact List.forall_mem_cons.2 ⟨by decide, fun c hc => isBlank_of_isDigit (all c hc)⟩

end Numerals

end Integer

namespace Text

/-- Only the letters of ASCII in upper case have another lower case. -/
theorem toLower_cases (c : Char) : c.toLower = c ∨ ∃ k < 26, c = Char.ofNat (65 + k) := by
  by_cases upper : 65 ≤ c.toNat ∧ c.toNat ≤ 90
  · exact .inr ⟨c.toNat - 65, by omega, by rw [Nat.add_sub_of_le upper.1, Char.ofNat_toNat]⟩
  · exact .inl (dif_neg (by simpa [UInt32.le_iff_toNat_le] using upper))

theorem toLower_toLower (c : Char) : c.toLower.toLower = c.toLower := by
  obtain same | ⟨k, letter, rfl⟩ := toLower_cases c
  · rw [same, same]
  · have all : ∀ k < 26, (Char.ofNat (65 + k)).toLower.toLower = (Char.ofNat (65 + k)).toLower := by
      decide
    exact all k letter

theorem dropWhile_blanks {blanks rest : List Char} (blank : ∀ c ∈ blanks, isBlank c = true) :
    (blanks ++ rest).dropWhile isBlank = rest.dropWhile isBlank := by
  induction blanks with
  | nil => rfl
  | cons c blanks ih =>
    obtain ⟨first, others⟩ := List.forall_mem_cons.1 blank
    rw [List.cons_append, List.dropWhile_cons_of_pos first, ih others]

theorem Trimmed.dropWhile_append {text : List Char} (trimmed : Trimmed text) (some : text ≠ [])
    (rest : List Char) : (text ++ rest).dropWhile isBlank = text ++ rest := by
  cases text with
  | nil => exact absurd rfl some
  | cons c text => exact List.dropWhile_cons_of_neg (by simp [trimmed.first c rfl])

theorem Trimmed.reverse {text : List Char} (trimmed : Trimmed text) : Trimmed text.reverse where
  first c h := trimmed.last c (by rwa [← List.head?_reverse])
  last c h := trimmed.first c (by rwa [List.getLast?_reverse] at h)

/-- White space around a text that neither begins nor ends with it is taken away, and no more. -/
theorem trim_between {before text after : List Char} (blankBefore : ∀ c ∈ before, isBlank c = true)
    (trimmed : Trimmed text) (blankAfter : ∀ c ∈ after, isBlank c = true) :
    trim (before ++ text ++ after) = text := by
  by_cases some : text = []
  · subst some
    have nothing : (before ++ [] ++ after).dropWhile isBlank = [] := by
      rw [List.append_nil, dropWhile_blanks blankBefore]
      exact List.dropWhile_eq_nil_iff.2 blankAfter
    rw [trim, trimStart, nothing]
    rfl
  have kept := trimmed.reverse.dropWhile_append (by simpa using some) []
  rw [List.append_nil] at kept
  rw [trim, trimStart, List.append_assoc, dropWhile_blanks blankBefore,
    trimmed.dropWhile_append some after, trimEnd, List.reverse_append,
    dropWhile_blanks (by simpa using blankAfter), kept, List.reverse_reverse]

/-- Trimming takes white space away and nothing else. -/
theorem exists_trim (text : List Char) :
    ∃ before after, text = before ++ trim text ++ after ∧ (∀ c ∈ before, isBlank c = true) ∧
      ∀ c ∈ after, isBlank c = true := by
  let rest := trimStart text
  have back : trim text ++ (rest.reverse.takeWhile isBlank).reverse = rest := by
    rw [trim, trimEnd, ← List.reverse_append, List.takeWhile_append_dropWhile,
      List.reverse_reverse]
  refine ⟨text.takeWhile isBlank, (rest.reverse.takeWhile isBlank).reverse, ?_,
    fun c hc => List.mem_takeWhile_imp hc,
    fun c hc => List.mem_takeWhile_imp (List.mem_reverse.1 hc)⟩
  rw [List.append_assoc, back]
  exact List.takeWhile_append_dropWhile.symm

theorem head?_dropWhile_isBlank {text : List Char} {c : Char}
    (h : (text.dropWhile isBlank).head? = some c) : isBlank c = false := by
  have solid := List.head?_dropWhile_not isBlank text
  rw [h] at solid
  exact solid

theorem trimmed_trim (text : List Char) : Trimmed (trim text) where
  first := by
    intro c h
    have front : trim text <+: trimStart text := by
      rw [trim, trimEnd, ← List.reverse_suffix, List.reverse_reverse]
      exact List.dropWhile_suffix isBlank
    obtain ⟨after, whole⟩ := front
    have start : (text.dropWhile isBlank).head? = some c := by
      rw [← trimStart, ← whole, List.head?_append, h, Option.some_or]
    exact head?_dropWhile_isBlank start
  last := by
    intro c h
    rw [trim, trimEnd, List.getLast?_reverse] at h
    exact head?_dropWhile_isBlank h

/-- A character beyond ASCII takes a byte beyond it. -/
theorem exists_high_byte {c : Char} (high : 128 ≤ c.toNat) :
    ∃ byte ∈ String.utf8EncodeChar c, 128 ≤ byte.toNat := by
  have last : 128 ≤ (UInt8.ofNat (c.val.toNat % 64 + 128)).toNat := by
    rw [UInt8.toNat_ofNat_of_lt' (by simp only [UInt8.size]; omega)]
    omega
  have beyond : ¬ c.val.toNat ≤ 127 := by
    change ¬ c.toNat ≤ 127
    omega
  refine ⟨_, ?_, last⟩
  unfold String.utf8EncodeChar
  dsimp only
  rw [if_neg beyond]
  split
  · simp
  · split <;> simp

end Text

namespace Integer

variable {text : String} {n m : Int}

/-- The spellings of an integer are the texts with a numeral of it inside. -/
theorem spelling_iff : Spelling text n ↔ Numeral (Text.trim text.toList) n := by
  constructor
  · rintro ⟨parts, blankBefore, inside, blankAfter⟩
    rw [parts, Text.trim_between blankBefore (Text.trimmed_of_solid inside.not_blank) blankAfter]
    exact inside
  · intro inside
    obtain ⟨before, after, parts, blankBefore, blankAfter⟩ := Text.exists_trim text.toList
    exact ⟨parts, blankBefore, inside, blankAfter⟩

/-- The texts that are read as an integer are its spellings, as far as the range goes. -/
theorem ofText_eq_ok_iff : ofText text = .ok n ↔ Spelling text n ∧ least ≤ n ∧ n ≤ greatest := by
  rw [spelling_iff, ofText]
  refine ⟨numeral_of_ofChars, ?_⟩
  rintro ⟨numeral, low, high⟩
  exact numeral.ofChars low high

theorem eq_of_spelling (h : Spelling text n) (read : ofText text = .ok m) : m = n :=
  (spelling_iff.1 h).eq_of_ofChars read

end Integer

namespace Hex

open Text (asciiByte)

/-- Texts that differ at most in the case of their letters. -/
def SameLetters (s t : String) : Prop := s.toList.map Char.toLower = t.toList.map Char.toLower

instance (s t : String) : Decidable (SameLetters s t) :=
  inferInstanceAs (Decidable (_ = _))

/-- The digits that bytes stand for; a byte may be none. -/
def digits (bytes : Bytes) : List (Option UInt8) := bytes.map digit?

theorem digits_toLower (c : Char) :
    digits (String.utf8EncodeChar c.toLower) = digits (String.utf8EncodeChar c) := by
  obtain same | ⟨k, letter, rfl⟩ := Text.toLower_cases c
  · rw [same]
  · have all : ∀ k < 26, digits (String.utf8EncodeChar (Char.ofNat (65 + k)).toLower) =
        digits (String.utf8EncodeChar (Char.ofNat (65 + k))) := by decide
    exact all k letter

theorem digits_of_sameLetters {s t : String} (same : SameLetters s t) :
    digits (Text.bytes s) = digits (Text.bytes t) := by
  have lowered (u : String) : digits (Text.bytes u) =
      (u.toList.map Char.toLower).flatMap fun c => digits (String.utf8EncodeChar c) := by
    rw [List.flatMap_map, funext digits_toLower]
    exact List.map_flatMap ..
  rw [lowered s, lowered t, same]

theorem decodeFrom_of_digits {bs cs bytes : Bytes} {position : Nat} (h : digits bs = digits cs)
    (read : decodeFrom position bs = .ok bytes) : decodeFrom position cs = .ok bytes := by
  fun_induction decodeFrom position bs generalizing cs bytes with
  | case1 | case2 | case3 => cases read
  | case4 position high low rest highDigit isHigh lowDigit isLow more others ih =>
    obtain ⟨high', cs, rfl, sameHigh, h⟩ := List.map_eq_cons_iff.1 h.symm
    obtain ⟨low', cs, rfl, sameLow, h⟩ := List.map_eq_cons_iff.1 h
    rw [decodeFrom, sameHigh, sameLow, isHigh, isLow]
    dsimp only
    rw [ih h.symm others]
    exact read
  | case5 position bs short =>
    -- Fewer than two bytes are left on one side, and so on the other.
    obtain _ | ⟨high, _ | ⟨low, rest⟩⟩ := cs
    · exact read
    · exact read
    · obtain ⟨high', bs, rfl, -, h⟩ := List.map_eq_cons_iff.1 h
      obtain ⟨low', bs, rfl, -, -⟩ := List.map_eq_cons_iff.1 h
      exact absurd rfl (short _ _ _)

/-- The case of its letters makes no difference to what a text of digits stands for. -/
theorem decode_of_sameLetters {s t : String} {bytes : Bytes} (same : SameLetters s t)
    (read : decode s = .ok bytes) : decode t = .ok bytes := by
  have alike := digits_of_sameLetters same
  have length : (Text.bytes s).length = (Text.bytes t).length := by
    simpa [digits] using congrArg List.length alike
  rw [decode] at read ⊢
  rw [length] at read
  split at read
  · cases read
  · next even => exact (if_neg even).trans (decodeFrom_of_digits alike read)

/-- The bytes of a text that is read are digits. -/
theorem isSome_of_decodeFrom {bs bytes : Bytes} {position : Nat} (even : bs.length % 2 = 0)
    (read : decodeFrom position bs = .ok bytes) : ∀ b ∈ bs, (digit? b).isSome = true := by
  fun_induction decodeFrom position bs generalizing bytes with
  | case1 | case2 | case3 => cases read
  | case4 position high low rest highDigit isHigh lowDigit isLow more others ih =>
    have fewer : rest.length % 2 = 0 := by
      simp only [List.length_cons] at even
      omega
    simp only [List.forall_mem_cons, isHigh, isLow, Option.isSome_some, true_and]
    exact ih fewer others
  | case5 bs _ short =>
    obtain _ | ⟨high, _ | ⟨low, rest⟩⟩ := bs
    · nofun
    · simp at even
    · exact absurd rfl (short _ _ _)

theorem bounds_of_digit? {b : UInt8} (digit : (digit? b).isSome = true) :
    48 ≤ b.toNat ∧ b.toNat ≤ 102 := by
  simp only [digit?, UInt8.le_iff_toNat_le] at digit
  grind

/-- A digit that is read is written, in upper case, as itself in upper case. -/
theorem digitChar_of_digit? {c : Char} {n : UInt8} (ascii : c.toNat < 128)
    (digit : digit? (asciiByte c) = some n) : digitChar 65 n = c.toUpper ∧ n < 16 := by
  have all : ∀ k < 55, (digit? (asciiByte (Char.ofNat (48 + k)))).all
      (fun m => digitChar 65 m = (Char.ofNat (48 + k)).toUpper ∧ m < 16) = true := by decide
  have value : (asciiByte c).toNat = c.toNat := by
    rw [asciiByte, UInt8.toNat_ofNat_of_lt' (by simp only [UInt8.size]; omega)]
  obtain ⟨low, high⟩ := bounds_of_digit? (Option.isSome_of_eq_some digit)
  have here := all (c.toNat - 48) (by omega)
  rw [Nat.add_sub_of_le (by omega), Char.ofNat_toNat, digit] at here
  exact of_decide_eq_true here

theorem encodeChars_of_decodeFrom {cs : List Char} {bytes : Bytes} {position : Nat}
    (ascii : ∀ c ∈ cs, c.toNat < 128) (even : cs.length % 2 = 0)
    (read : decodeFrom position (cs.map asciiByte) = .ok bytes) :
    encodeChars 65 bytes = cs.map Char.toUpper := by
  generalize bytes_eq : cs.map asciiByte = bs at read
  fun_induction decodeFrom position bs generalizing cs bytes with
  | case1 | case2 | case3 => cases read
  | case4 position high low rest highDigit isHigh lowDigit isLow more others ih =>
    obtain ⟨c, cs, rfl, rfl, others_eq⟩ := List.map_eq_cons_iff.1 bytes_eq
    obtain ⟨d, cs, rfl, rfl, rest_eq⟩ := List.map_eq_cons_iff.1 others_eq
    obtain ⟨first, ascii⟩ := List.forall_mem_cons.1 ascii
    obtain ⟨second, ascii⟩ := List.forall_mem_cons.1 ascii
    have fewer : cs.length % 2 = 0 := by
      simp only [List.length_cons] at even
      omega
    obtain ⟨upperHigh, smallHigh⟩ := digitChar_of_digit? first isHigh
    obtain ⟨upperLow, smallLow⟩ := digitChar_of_digit? second isLow
    have quotient : (highDigit * 16 + lowDigit) / 16 = highDigit := by grind
    have remainder : (highDigit * 16 + lowDigit) % 16 = lowDigit := by grind
    cases read
    simp only [encodeChars, List.map_cons, quotient, remainder, upperHigh, upperLow,
      ih ascii fewer rest_eq others]
  | case5 position bs short =>
    cases read
    obtain _ | ⟨c, _ | ⟨d, rest⟩⟩ := cs
    · rfl
    · simp at even
    · exact absurd bytes_eq.symm (short _ _ _)

/-- What is read and written again, in upper case, is the text in upper case. -/
theorem encodeUpper_of_decode {text : String} {bytes : Bytes} (read : decode text = .ok bytes) :
    encodeUpper bytes = text.toUpper := by
  rw [decode] at read
  split at read
  · cases read
  next even =>
  have figures := isSome_of_decodeFrom (by omega) read
  have ascii : ∀ c ∈ text.toList, c.toNat < 128 := by
    intro c inside
    by_contra high
    obtain ⟨byte, there, beyond⟩ := Text.exists_high_byte (Nat.le_of_not_lt high)
    have small := (bounds_of_digit? (figures byte (List.mem_flatMap.2 ⟨c, inside, there⟩))).2
    omega
  have bytes := Text.bytes_ofList ascii
  rw [String.ofList_toList] at bytes
  rw [bytes] at read even
  rw [encodeUpper, encodeChars_of_decodeFrom ascii (by simpa using even) read, String.toUpper]
  exact String.toList_inj.1 (by simp)

end Hex

end Tendermint
