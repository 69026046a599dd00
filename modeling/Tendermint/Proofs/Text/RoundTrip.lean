import Std.Data.String.ToNat
import Tendermint.Text.Base64
import Tendermint.Text.Hex
import Tendermint.Text.Integer

/-!
# Tendermint.Proofs.Text.RoundTrip

What is written is read back: bytes in hexadecimal of either case, bytes in base64, and integers
in decimal.

* `Hex.decode_encode`, `Hex.decode_encodeUpper`.
* `Base64.decode_encode`.
* `Integer.ofText_toString`: for every integer in the range of 128 bits.
-/

namespace Tendermint

namespace Text

/-- The one byte of an ASCII character. -/
def asciiByte (c : Char) : UInt8 := UInt8.ofNat c.toNat

theorem bytes_ofList {cs : List Char} (ascii : ∀ c ∈ cs, c.toNat < 128) :
    bytes (String.ofList cs) = cs.map asciiByte := by
  rw [bytes, String.toList_ofList]
  induction cs with
  | nil => rfl
  | cons c rest ih =>
    have small : c.toNat ≤ 127 := by
      have := ascii c (List.mem_cons_self ..)
      omega
    have one : String.utf8EncodeChar c = [asciiByte c] := if_pos small
    rw [List.flatMap_cons, one, ih fun d hd => ascii d (List.mem_cons_of_mem _ hd)]
    rfl

section Parts

variable {α β : Type} {read : α → Option β}

theorem map_eq_self {f : α → α} {parts : List α} (same : ∀ part ∈ parts, f part = part) :
    parts.map f = parts :=
  (List.map_congr_left same).trans (List.map_id _)

/-- Parts that each read back do so in a row. -/
theorem mapM_map {write : β → α} {values : List β}
    (each : ∀ value ∈ values, read (write value) = some value) :
    (values.map write).mapM read = some values := by
  induction values with
  | nil => rfl
  | cons value rest ih =>
    obtain ⟨here, others⟩ := List.forall_mem_cons.1 each
    simp [here, ih others]

/-- What is read from parts in a row is read from one of them. -/
theorem exists_of_mapM {parts : List α} {values : List β} (all : parts.mapM read = some values) :
    ∀ value ∈ values, ∃ part ∈ parts, read part = some value := by
  induction parts generalizing values with
  | nil =>
    cases all
    nofun
  | cons part parts ih =>
    simp only [List.mapM_cons, Option.bind_eq_bind, Option.bind_eq_some_iff, Option.pure_def,
      Option.some.injEq] at all
    obtain ⟨first, here, others, more, rfl⟩ := all
    refine List.forall_mem_cons.2 ⟨⟨part, List.mem_cons_self, here⟩, ?_⟩
    intro value inside
    obtain ⟨later, member, readLater⟩ := ih more value inside
    exact ⟨later, List.mem_cons_of_mem part member, readLater⟩

end Parts

/-- Neither end of a text is white space. -/
structure Trimmed (text : List Char) : Prop where
  first : ∀ c, text.head? = some c → isBlank c = false
  last : ∀ c, text.getLast? = some c → isBlank c = false

theorem trimmed_of_solid {text : List Char} (solid : ∀ c ∈ text, isBlank c = false) :
    Trimmed text where
  first c h := solid c (List.mem_of_head? h)
  last c h := solid c (List.mem_of_getLast? h)

theorem Trimmed.trim_eq {text : List Char} (trimmed : Trimmed text) : trim text = text := by
  have stays (part : List Char) (first : ∀ c, part.head? = some c → isBlank c = false) :
      part.dropWhile isBlank = part := by
    cases part with
    | nil => rfl
    | cons c rest => exact List.dropWhile_cons_of_neg (by simp [first c rfl])
  have back : ∀ c, text.reverse.head? = some c → isBlank c = false := by
    intro c h
    exact trimmed.last c (by rwa [List.head?_reverse] at h)
  rw [trim, trimStart, stays text trimmed.first, trimEnd, stays text.reverse back,
    List.reverse_reverse]

end Text

open Text (asciiByte)

namespace Hex

/-- Letters for ten may begin the upper or the lower case. -/
def IsCase (letter : Nat) : Prop := letter = 65 ∨ letter = 97

section Case

variable {letter : Nat}

theorem digitChar_spec (hl : IsCase letter) {n : UInt8} (hn : n < 16) :
    digit? (asciiByte (digitChar letter n)) = some n ∧ (digitChar letter n).toNat < 128 := by
  have all : ∀ k < 16, digit? (asciiByte (digitChar 65 (UInt8.ofNat k))) = some (UInt8.ofNat k) ∧
      (digitChar 65 (UInt8.ofNat k)).toNat < 128 ∧
      digit? (asciiByte (digitChar 97 (UInt8.ofNat k))) = some (UInt8.ofNat k) ∧
      (digitChar 97 (UInt8.ofNat k)).toNat < 128 := by decide
  have here := all n.toNat (UInt8.lt_iff_toNat_lt.1 hn)
  rw [UInt8.ofNat_toNat] at here
  obtain rfl | rfl := hl
  · exact ⟨here.1, here.2.1⟩
  · exact here.2.2

theorem div_lt (b : UInt8) : b / 16 < 16 := by grind

theorem mod_lt (b : UInt8) : b % 16 < 16 := by grind

theorem encodeChars_ascii (hl : IsCase letter) (bs : Bytes) :
    ∀ c ∈ encodeChars letter bs, c.toNat < 128 := by
  induction bs with
  | nil => nofun
  | cons b rest ih =>
    simp only [encodeChars, List.forall_mem_cons]
    exact ⟨(digitChar_spec hl (div_lt b)).2, (digitChar_spec hl (mod_lt b)).2, ih⟩

theorem length_encodeChars (letter : Nat) (bs : Bytes) :
    (encodeChars letter bs).length = 2 * bs.length := by
  induction bs with
  | nil => rfl
  | cons b rest ih =>
    simp only [encodeChars, List.length_cons, ih]
    omega

theorem decodeFrom_encodeChars (hl : IsCase letter) (bs : Bytes) (position : Nat) :
    decodeFrom position ((encodeChars letter bs).map asciiByte) = .ok bs := by
  induction bs generalizing position with
  | nil => rfl
  | cons b rest ih =>
    have whole : b / 16 * 16 + b % 16 = b := by grind
    simp only [encodeChars, List.map_cons, decodeFrom, (digitChar_spec hl (div_lt b)).1,
      (digitChar_spec hl (mod_lt b)).1, ih, whole]

theorem decode_ofList (hl : IsCase letter) (bs : Bytes) :
    decode (String.ofList (encodeChars letter bs)) = .ok bs := by
  have even : ¬ ((encodeChars letter bs).map asciiByte).length % 2 = 1 := by
    rw [List.length_map, length_encodeChars]
    omega
  rw [decode, Text.bytes_ofList (encodeChars_ascii hl bs)]
  exact (if_neg even).trans (decodeFrom_encodeChars hl bs 0)

end Case

/-- Digits in upper case are figures and the letters from `A` to `F`. -/
theorem upper_of_mem_encodeChars {bs : Bytes} {c : Char} (h : c ∈ encodeChars 65 bs) :
    (48 ≤ c.toNat ∧ c.toNat ≤ 57) ∨ (65 ≤ c.toNat ∧ c.toNat ≤ 70) := by
  have all : ∀ k < 16,
      (48 ≤ (digitChar 65 (UInt8.ofNat k)).toNat ∧ (digitChar 65 (UInt8.ofNat k)).toNat ≤ 57) ∨
      (65 ≤ (digitChar 65 (UInt8.ofNat k)).toNat ∧ (digitChar 65 (UInt8.ofNat k)).toNat ≤ 70) := by
    decide
  have digit (n : UInt8) (small : n < 16) :=
    UInt8.ofNat_toNat (x := n) ▸ all n.toNat (UInt8.lt_iff_toNat_lt.1 small)
  induction bs with
  | nil => cases h
  | cons b rest ih =>
    simp only [encodeChars, List.mem_cons] at h
    obtain rfl | rfl | h := h
    · exact digit _ (div_lt b)
    · exact digit _ (mod_lt b)
    · exact ih h

theorem decode_encode (bs : Bytes) : decode (encode bs) = .ok bs := decode_ofList (.inr rfl) bs

theorem decode_encodeUpper (bs : Bytes) : decode (encodeUpper bs) = .ok bs :=
  decode_ofList (.inl rfl) bs

end Hex

namespace Base64

/-- Induction over bytes that are taken three at a time. -/
@[elab_as_elim]
theorem threes {motive : Bytes → Prop} (nil : motive []) (one : ∀ a, motive [a])
    (two : ∀ a b, motive [a, b])
    (three : ∀ a b c rest, motive rest → motive (a :: b :: c :: rest)) : ∀ bs, motive bs
  | [] => nil
  | [a] => one a
  | [a, b] => two a b
  | a :: b :: c :: rest => three a b c rest (threes nil one two three rest)

/-- The sextets that bytes are cut into, the last one filled up with zeros. -/
@[simp] def pack : Bytes → List UInt8
  | [] => []
  | [a] => [a / 4, a % 4 * 16]
  | [a, b] => [a / 4, a % 4 * 16 + b / 16, b % 16 * 4]
  | a :: b :: c :: rest => (a / 4) :: (a % 4 * 16 + b / 16) :: (b % 16 * 4 + c / 64) :: (c % 64) ::
    pack rest

/-- How many pads complete the last group. -/
@[simp] def padding : Bytes → Nat
  | [] => 0
  | [_] => 2
  | [_, _] => 1
  | _ :: _ :: _ :: rest => padding rest

theorem encodeChars_eq (bs : Bytes) :
    encodeChars bs = (pack bs).map symbol ++ List.replicate (padding bs) '=' := by
  induction bs using threes with
  | nil | one | two => rfl
  | three a b c rest ih => simp [encodeChars, ih]

theorem unpack_pack (bs : Bytes) : unpack (pack bs) = bs := by
  induction bs using threes with
  | nil => rfl
  | one a =>
    have first : a / 4 * 4 + a % 4 * 16 / 16 = a := by grind
    simp only [pack, unpack, first]
  | two a b =>
    have first : a / 4 * 4 + (a % 4 * 16 + b / 16) / 16 = a := by grind
    have second : (a % 4 * 16 + b / 16) * 16 + b % 16 * 4 / 4 = b := by grind
    simp only [pack, unpack, first, second]
  | three a b c rest ih =>
    have first : a / 4 * 4 + (a % 4 * 16 + b / 16) / 16 = a := by grind
    have second : (a % 4 * 16 + b / 16) * 16 + (b % 16 * 4 + c / 64) / 4 = b := by grind
    have third : (b % 16 * 4 + c / 64) * 64 + c % 64 = c := by grind
    simp only [pack, unpack, first, second, third, ih]

theorem spareBits_pack (bs : Bytes) : spareBits (pack bs) = 0 := by
  induction bs using threes with
  | nil => rfl
  | one a =>
    have none : a % 4 * 16 % 16 = 0 := by grind
    simp only [pack, spareBits, none]
  | two a b =>
    have none : b % 16 * 4 % 4 = 0 := by grind
    simp only [pack, spareBits, none]
  | three a b c rest ih => simpa only [pack, spareBits] using ih

theorem pack_lt (bs : Bytes) : ∀ n ∈ pack bs, n < 64 := by
  induction bs using threes with
  | nil => nofun
  | one a | two a b =>
    simp only [pack, List.forall_mem_cons, List.not_mem_nil]
    grind
  | three a b c rest ih =>
    simp only [pack, List.forall_mem_cons]
    exact ⟨by grind, by grind, by grind, by grind, ih⟩

/-- Whole groups need no pads, and a last group has two or three symbols of its own. -/
theorem padding_spec (bs : Bytes) :
    (padding bs = 0 ∧ (pack bs).length % 4 = 0) ∨ (padding bs = 1 ∧ (pack bs).length % 4 = 3) ∨
      (padding bs = 2 ∧ (pack bs).length % 4 = 2) := by
  induction bs using threes with
  | nil | one a | two a b => simp
  | three a b c rest ih =>
    simp only [pack, padding, List.length_cons]
    omega

theorem symbol_spec {n : UInt8} (hn : n < 64) :
    sextet? (asciiByte (symbol n)) = some n ∧ (symbol n).toNat < 128 := by
  have all : ∀ k < 64, sextet? (asciiByte (symbol (UInt8.ofNat k))) = some (UInt8.ofNat k) ∧
      (symbol (UInt8.ofNat k)).toNat < 128 := by decide
  have here := all n.toNat (UInt8.lt_iff_toNat_lt.1 hn)
  rwa [UInt8.ofNat_toNat] at here

theorem sextets_symbols {ns : List UInt8} (small : ∀ n ∈ ns, n < 64) {rest : Bytes}
    (ends : sextets rest = ([], rest)) :
    sextets ((ns.map symbol).map asciiByte ++ rest) = (ns, rest) := by
  induction ns with
  | nil => exact ends
  | cons n ns ih =>
    obtain ⟨first, others⟩ := List.forall_mem_cons.1 small
    simp only [List.map_cons, List.cons_append, sextets, (symbol_spec first).1, ih others]

theorem encodeChars_ascii (bs : Bytes) : ∀ c ∈ encodeChars bs, c.toNat < 128 := by
  intro c hc
  rw [encodeChars_eq, List.mem_append] at hc
  obtain hc | hc := hc
  · obtain ⟨n, hn, rfl⟩ := List.mem_map.1 hc
    exact (symbol_spec (pack_lt bs n hn)).2
  · rw [List.eq_of_mem_replicate hc]
    decide

theorem bytes_encode (bs : Bytes) :
    Text.bytes (encode bs) =
      ((pack bs).map symbol).map asciiByte ++ List.replicate (padding bs) pad := by
  rw [encode, Text.bytes_ofList (encodeChars_ascii bs), encodeChars_eq, List.map_append,
    List.map_replicate]
  rfl

theorem decode_encode (bs : Bytes) : decode (encode bs) = .ok bs := by
  have ends : sextets (List.replicate (padding bs) pad) =
      ([], List.replicate (padding bs) pad) := by
    obtain ⟨h, -⟩ | ⟨h, -⟩ | ⟨h, -⟩ := padding_spec bs <;> rw [h] <;> rfl
  have run := sextets_symbols (pack_lt bs) ends
  -- A last group of one symbol is refused by its length alone, before anything is read.
  have whole : ¬ (Text.bytes (encode bs)).length % 4 = 1 := by
    rw [bytes_encode, List.length_append, List.length_map, List.length_map, List.length_replicate]
    obtain ⟨h, l⟩ | ⟨h, l⟩ | ⟨h, l⟩ := padding_spec bs <;> omega
  refine (if_neg whole).trans ?_
  rw [bytes_encode, decodeBytes, run]
  obtain ⟨h, l⟩ | ⟨h, l⟩ | ⟨h, l⟩ := padding_spec bs
  · simp [h, l, unpack_pack]
  · have total : ((pack bs).length + 1) % 4 = 0 := by omega
    simp [h, l, total, spareBits_pack, unpack_pack]
  · have total : ((pack bs).length + 1 + 1) % 4 = 0 := by omega
    simp [h, l, total, spareBits_pack, unpack_pack]

end Base64

namespace Integer

section Digits

variable {cs : List Char}

theorem bounds_of_isDigit {c : Char} (h : c.isDigit = true) : '0' ≤ c ∧ c ≤ '9' := by
  simpa [Char.isDigit, Char.le_def, UInt32.le_iff_toNat_le] using h

theorem toNat_of_isDigit {c : Char} (h : c.isDigit = true) : 48 ≤ c.toNat ∧ c.toNat ≤ 57 := by
  obtain ⟨low, high⟩ := bounds_of_isDigit h
  exact ⟨UInt32.le_iff_toNat_le.1 low, UInt32.le_iff_toNat_le.1 high⟩

theorem digit?_of_isDigit {c : Char} (h : c.isDigit = true) :
    digit? c = some (c.toNat - '0'.toNat) :=
  if_pos (bounds_of_isDigit h)

theorem le_ofDigitChars (cs : List Char) (n : Nat) : n ≤ Nat.ofDigitChars 10 cs n := by
  induction cs generalizing n with
  | nil => exact Nat.le_refl n
  | cons c rest ih =>
    have := ih (10 * n + (c.toNat - '0'.toNat))
    simp only [Nat.ofDigitChars, List.foldl_cons] at this ⊢
    omega

/-- Digits that stay within the range are counted up to the number that they stand for. -/
theorem countUp_eq (digits : ∀ c ∈ cs, c.isDigit = true) (n : Nat)
    (fits : (Nat.ofDigitChars 10 cs n : Int) ≤ greatest) :
    countUp n cs = .ok (Nat.ofDigitChars 10 cs n) := by
  induction cs generalizing n with
  | nil => rfl
  | cons c rest ih =>
    obtain ⟨first, others⟩ := List.forall_mem_cons.1 digits
    -- The number only grows from here on, so it is still within the range.
    have grows := le_ofDigitChars rest (10 * n + (c.toNat - '0'.toNat))
    have sum : (n : Int) * 10 + ((c.toNat - '0'.toNat : Nat) : Int) =
        ((10 * n + (c.toNat - '0'.toNat) : Nat) : Int) := by omega
    rw [Nat.ofDigitChars_cons] at fits ⊢
    have inside : ¬ greatest < ((10 * n + (c.toNat - '0'.toNat) : Nat) : Int) := by omega
    simp only [countUp, digit?_of_isDigit first, sum, if_neg inside]
    exact ih others _ fits

theorem countDown_eq (digits : ∀ c ∈ cs, c.isDigit = true) (n : Nat)
    (fits : least ≤ -(Nat.ofDigitChars 10 cs n : Int)) :
    countDown (-(n : Int)) cs = .ok (-(Nat.ofDigitChars 10 cs n : Int)) := by
  induction cs generalizing n with
  | nil => rfl
  | cons c rest ih =>
    obtain ⟨first, others⟩ := List.forall_mem_cons.1 digits
    have grows := le_ofDigitChars rest (10 * n + (c.toNat - '0'.toNat))
    have sum : -(n : Int) * 10 - ((c.toNat - '0'.toNat : Nat) : Int) =
        -((10 * n + (c.toNat - '0'.toNat) : Nat) : Int) := by omega
    rw [Nat.ofDigitChars_cons] at fits ⊢
    have inside : ¬ -((10 * n + (c.toNat - '0'.toNat) : Nat) : Int) < least := by omega
    simp only [countDown, digit?_of_isDigit first, sum, if_neg inside]
    exact ih others _ fits

end Digits

theorem isBlank_of_isDigit {c : Char} (h : c.isDigit = true) : Text.isBlank c = false := by
  have figure := toNat_of_isDigit h
  simp only [Text.isBlank]
  grind

theorem trim_eq {cs : List Char} (h : ∀ c ∈ cs, Text.isBlank c = false) : Text.trim cs = cs :=
  (Text.trimmed_of_solid h).trim_eq

section Decimal

variable {k : Nat}

theorem isDigit_toDigits (k : Nat) : ∀ c ∈ Nat.toDigits 10 k, c.isDigit = true := fun _ hc =>
  Nat.isDigit_of_mem_toDigits (by decide) (by decide) hc

theorem countUp_toDigits (fits : (k : Int) ≤ greatest) :
    countUp 0 (Nat.toDigits 10 k) = .ok (k : Int) := by
  have value : Nat.ofDigitChars 10 (Nat.toDigits 10 k) 0 = k :=
    Nat.ofDigitChars_toDigits (by decide) (by decide)
  have counted := countUp_eq (isDigit_toDigits k) 0 (by rwa [value])
  rwa [value] at counted

theorem countDown_toDigits (fits : least ≤ -(k : Int)) :
    countDown 0 (Nat.toDigits 10 k) = .ok (-(k : Int)) := by
  have value : Nat.ofDigitChars 10 (Nat.toDigits 10 k) 0 = k :=
    Nat.ofDigitChars_toDigits (by decide) (by decide)
  have counted := countDown_eq (isDigit_toDigits k) 0 (by rwa [value])
  rwa [value] at counted

end Decimal

theorem ofChars_digits {cs : List Char} (digits : ∀ c ∈ cs, c.isDigit = true) (some : cs ≠ []) :
    ofChars cs = countUp 0 cs := by
  cases cs with
  | nil => exact absurd rfl some
  | cons c rest =>
    have digit := digits c (List.mem_cons_self ..)
    have plus : c ≠ '+' := by
      rintro rfl
      exact absurd digit (by decide)
    have minus : c ≠ '-' := by
      rintro rfl
      exact absurd digit (by decide)
    simp [ofChars, plus, minus]

theorem ofChars_minus {cs : List Char} (some : cs ≠ []) : ofChars ('-' :: cs) = countDown 0 cs := by
  cases cs with
  | nil => exact absurd rfl some
  | cons c rest => rfl

/-- Integers in decimal are read back, as far as the range goes. -/
theorem ofText_toString {n : Int} (low : least ≤ n) (high : n ≤ greatest) :
    ofText (toString n) = .ok n := by
  have unblank : ∀ k, ∀ c ∈ Nat.toDigits 10 k, Text.isBlank c = false := fun k c hc =>
    isBlank_of_isDigit (isDigit_toDigits k c hc)
  cases n with
  | ofNat k =>
    have text : (toString (Int.ofNat k)).toList = Nat.toDigits 10 k := Nat.toList_repr
    rw [ofText, text, trim_eq (unblank k), ofChars_digits (isDigit_toDigits k) Nat.toDigits_ne_nil]
    exact countUp_toDigits high
  | negSucc k =>
    have text : (toString (Int.negSucc k)).toList = '-' :: Nat.toDigits 10 (k + 1) := by
      have split : toString (Int.negSucc k) = "-" ++ Nat.repr (k + 1) := rfl
      rw [split, String.toList_append, Nat.toList_repr]
      rfl
    have blank : ∀ c ∈ '-' :: Nat.toDigits 10 (k + 1), Text.isBlank c = false :=
      List.forall_mem_cons.2 ⟨by decide, unblank (k + 1)⟩
    rw [ofText, text, trim_eq blank, ofChars_minus Nat.toDigits_ne_nil]
    exact countDown_toDigits low

end Integer

end Tendermint
