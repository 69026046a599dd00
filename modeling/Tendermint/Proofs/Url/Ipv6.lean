import Mathlib.Data.List.TakeDrop
import Tendermint.Proofs.Text.RoundTrip
import Tendermint.Proofs.Url.Number
import Tendermint.Proofs.Url.Separator

/-!
# Tendermint.Proofs.Url.Ipv6

IPv6 addresses. An address is written as its eight pieces in hexadecimal, without a longest row of
two zeros or more; two colons stand for that row. Whichever row it is, the pieces on both sides say
how many zeros are missing, so the text reads back as the address.

* `Host.ipv6Text_cases`: the two shapes of a written address.
* `Host.ofSpecial_ipv6Text`: an address in its written form.
* `Host.ipv6?_spec`: the addresses that are read.
-/

namespace Tendermint.Host

variable {pieces front back : List Nat} {fields : List (List Char)} {text : List Char}

/-! ## Pieces -/

/-- Pieces in hexadecimal. -/
def digitsOf (pieces : List Nat) : List (List Char) := pieces.map (Nat.toDigits 16)

theorem hex_of_mem_toDigits {piece : Nat} {c : Char} (h : c ∈ Nat.toDigits 16 piece) :
    (48 ≤ c.toNat ∧ c.toNat ≤ 57) ∨ (97 ≤ c.toNat ∧ c.toNat ≤ 102) := by
  have all : ∀ k < 16, (48 ≤ (Nat.digitChar k).toNat ∧ (Nat.digitChar k).toNat ≤ 57) ∨
      (97 ≤ (Nat.digitChar k).toNat ∧ (Nat.digitChar k).toNat ≤ 102) := by decide
  obtain ⟨k, small, rfl⟩ := mem_toDigits (by decide) h
  exact all k small

theorem isEmpty_of_mem_digitsOf {field : List Char} (h : field ∈ digitsOf pieces) :
    (!field.isEmpty) = true := by
  obtain ⟨piece, -, rfl⟩ := List.mem_map.1 h
  simp

theorem not_mem_toDigits (piece : Nat) :
    ':' ∉ Nat.toDigits 16 piece ∧ '.' ∉ Nat.toDigits 16 piece := by
  constructor <;> exact fun mark => absurd (hex_of_mem_toDigits mark) (by decide)

theorem piece?_toDigits {piece : Nat} (small : piece < 65536) :
    piece? (Nat.toDigits 16 piece) = some piece := by
  have short : (Nat.toDigits 16 piece).length ≤ 4 :=
    (Nat.length_toDigits_le_iff (by decide) (by decide)).2 small
  rw [piece?, if_neg]
  · exact numberIn?_toDigits (by decide) (by decide) piece
  · simpa using short

theorem pieces?_digitsOf (small : ∀ piece ∈ pieces, piece < 65536) :
    pieces? (digitsOf pieces) = some pieces := by
  induction pieces with
  | nil => rfl
  | cons piece rest ih =>
    obtain ⟨here, others⟩ := List.forall_mem_cons.1 small
    have read := piece?_toDigits here
    cases rest with
    | nil =>
      have undotted : '.' ∉ Nat.toDigits 16 piece := (not_mem_toDigits piece).2
      simp [digitsOf, pieces?, undotted, read]
    | cons second rest =>
      have more : pieces? (Nat.toDigits 16 second :: rest.map (Nat.toDigits 16)) =
        some (second :: rest) := ih others
      simp [digitsOf, pieces?, read, more]

/-- What stands between the colons of pieces in a row; an empty row is one empty field. -/
def fieldsOf (pieces : List Nat) : List (List Char) :=
  if pieces.isEmpty then [[]] else digitsOf pieces

theorem splitOn_piecesText (pieces : List Nat) :
    Url.splitOn ':' (piecesText pieces) = fieldsOf pieces := by
  cases pieces with
  | nil => rfl
  | cons first rest =>
    refine Url.splitOn_flatMap fun field (h : field ∈ digitsOf (first :: rest)) => ?_
    obtain ⟨piece, -, rfl⟩ := List.mem_map.1 h
    exact (not_mem_toDigits piece).1

/-! ## The row of zeros -/

theorem eq_replicate_append (pieces : List Nat) :
    pieces = List.replicate (leadingZeros pieces) 0 ++ pieces.dropWhile (· == 0) := by
  have zeros : pieces.takeWhile (· == 0) = List.replicate (leadingZeros pieces) 0 := by
    refine List.eq_replicate_iff.2 ⟨rfl, fun piece h => ?_⟩
    simpa using List.mem_takeWhile_imp h
  rw [← zeros, List.takeWhile_append_dropWhile]

/-- The row of zeros is there. -/
theorem longestZeros_spec (place : Nat) (pieces : List Nat)
    (some : 0 < (longestZeros place pieces).2) :
    ∃ front back, pieces = front ++ List.replicate (longestZeros place pieces).2 0 ++ back ∧
      (longestZeros place pieces).1 = place + front.length := by
  induction pieces generalizing place with
  | nil => cases some
  | cons piece rest ih =>
    simp only [longestZeros] at some ⊢
    split
    · exact ⟨[], _, eq_replicate_append (piece :: rest), rfl⟩
    · next longer =>
      rw [if_neg longer] at some
      obtain ⟨front, back, whole, start⟩ := ih (place + 1) some
      refine ⟨piece :: front, back, ?_, ?_⟩
      · rw [List.cons_append, List.cons_append, ← whole]
      · rw [start, List.length_cons]
        omega

/-- An address is written with all of its pieces, or with colons for a row of zeros. -/
theorem ipv6Text_cases (pieces : List Nat) :
    ipv6Text pieces = piecesText pieces ∨
      ∃ front count back, 2 ≤ count ∧ pieces = front ++ List.replicate count 0 ++ back ∧
        ipv6Text pieces = piecesText front ++ ':' :: ':' :: piecesText back := by
  rw [ipv6Text]
  split
  next place count row =>
  split
  · exact .inl rfl
  · next long =>
    have here : (longestZeros 0 pieces).2 = count := by rw [row]
    obtain ⟨front, back, whole, start⟩ := longestZeros_spec 0 pieces (by omega)
    rw [row, Nat.zero_add] at start
    rw [here] at whole
    obtain rfl : place = front.length := start
    refine .inr ⟨front, count, back, by omega, whole, ?_⟩
    have before : pieces.take front.length = front := by
      rw [whole, List.append_assoc, List.take_left]
    have behind : pieces.drop (front.length + count) = back := by
      rw [whole, List.drop_left' (by simp)]
    simp [before, behind]

/-! ## The fields of an address -/

/-- A row of pieces begins and ends with fields that are not empty. -/
theorem fieldsOf_cases (pieces : List Nat) :
    pieces = [] ∨ digitsOf pieces = fieldsOf pieces ∧
      (∃ c first rest, fieldsOf pieces = (c :: first) :: rest) ∧
      ∃ front d last, fieldsOf pieces = front ++ [d :: last] := by
  cases pieces with
  | nil => exact .inl rfl
  | cons piece rest =>
    obtain ⟨front, final, concat⟩ := List.eq_nil_or_concat (piece :: rest) |>.resolve_left nofun
    have some (n : Nat) : Nat.toDigits 16 n ≠ [] := Nat.toDigits_ne_nil
    obtain ⟨c, first, head⟩ := List.exists_cons_of_ne_nil (some piece)
    obtain ⟨d, last, tail⟩ := List.exists_cons_of_ne_nil (some final)
    refine .inr ⟨rfl, ⟨c, first, digitsOf rest, ?_⟩, digitsOf front, d, last, ?_⟩
    · simp [fieldsOf, digitsOf, head]
    · simp [fieldsOf, digitsOf, concat, tail]

/-- Without a gap the fields are the pieces. -/
theorem fields?_piecesText (some : pieces ≠ []) :
    fields? (piecesText pieces) = .some (digitsOf pieces) := by
  obtain rfl | ⟨whole, ⟨c, first, rest, opening⟩, front, d, last, ending⟩ := fieldsOf_cases pieces
  · exact absurd rfl some
  · have reversed : ((c :: first) :: rest).reverse = (d :: last) :: front.reverse := by
      rw [← opening, ending, List.reverse_concat]
    simp only [fields?, splitOn_piecesText, opening, Option.map_some, reversed]
    rw [← reversed, List.reverse_reverse, whole, opening]

/-- A gap is one empty field, wherever it is. -/
theorem fields?_gap (front back : List Nat) :
    fields? (piecesText front ++ ':' :: ':' :: piecesText back) =
      some (digitsOf front ++ [] :: digitsOf back) := by
  have split : Url.splitOn ':' (piecesText front ++ ':' :: ':' :: piecesText back) =
      fieldsOf front ++ [] :: fieldsOf back := by
    rw [Url.splitOn_append_separator, Url.splitOn, if_pos rfl, splitOn_piecesText,
      splitOn_piecesText]
  have empty : fieldsOf [] = [[]] := rfl
  have none : digitsOf [] = [] := rfl
  -- a gap at the start and a gap at the end each come as two empty fields
  obtain rfl | ⟨before, ⟨c, first, rest, opening⟩, -⟩ := fieldsOf_cases front
  · obtain rfl | ⟨behind, -, parts, d, last, ending⟩ := fieldsOf_cases back
    · simp [fields?, split, empty, none]
    · simp [fields?, split, empty, none, behind, ending]
  · obtain rfl | ⟨behind, -, parts, d, last, ending⟩ := fieldsOf_cases back
    · simp [fields?, split, before, opening, empty, none]
    · simp [fields?, split, before, opening, behind, ending]

/-- An address as it is kept. -/
structure IsIpv6 (pieces : List Nat) : Prop where
  eight : pieces.length = 8
  small : ∀ piece ∈ pieces, piece < 65536

theorem span_digitsOf (front : List Nat) (back : List (List Char)) :
    (digitsOf front ++ [] :: back).span (fun field => !field.isEmpty) =
      (digitsOf front, [] :: back) := by
  have some : ∀ field ∈ digitsOf front, (!field.isEmpty) = true := fun _ => isEmpty_of_mem_digitsOf
  rw [List.span_eq_takeWhile_dropWhile, Url.takeWhile_append_stop some rfl,
    Url.dropWhile_append_stop some rfl]

theorem ipv6?_ipv6Text (address : IsIpv6 pieces) : ipv6? (ipv6Text pieces) = some pieces := by
  obtain written | ⟨front, count, back, two, rfl, written⟩ := ipv6Text_cases pieces
  · have some : pieces ≠ [] := by
      rintro rfl
      cases address.eight
    have whole : (digitsOf pieces).span (fun field => !field.isEmpty) = (digitsOf pieces, []) := by
      have all : ∀ field ∈ digitsOf pieces, (!field.isEmpty) = true :=
        fun _ => isEmpty_of_mem_digitsOf
      rw [List.span_eq_takeWhile_dropWhile, List.takeWhile_eq_self_iff.2 all,
        List.dropWhile_eq_nil_iff.2 all]
    rw [written, ipv6?, fields?_piecesText some]
    simp only [whole, pieces?_digitsOf address.small, address.eight, if_pos]
  · have small (piece : Nat) (inside : piece ∈ front ∨ piece ∈ back) : piece < 65536 := by
      refine address.small piece ?_
      simp only [List.mem_append]
      exact inside.elim (fun h => .inl (.inl h)) .inr
    have eight : front.length + (count + back.length) = 8 := by
      simpa using address.eight
    have before : (digitsOf front).mapM piece? = some front :=
      Text.mapM_map fun piece inside => piece?_toDigits (small piece (.inl inside))
    rw [written, ipv6?, fields?_gap]
    simp only [span_digitsOf, before, pieces?_digitsOf fun piece h => small piece (.inr h)]
    rw [if_pos (by omega)]
    have missing : 8 - (front.length + back.length) = count := by omega
    rw [missing]

/-- An address reads back from its text. -/
theorem ofSpecial_ipv6Text (address : IsIpv6 pieces) :
    ofSpecial ('[' :: ipv6Text pieces ++ [']']) = .ok (.ipv6 pieces) := by
  rw [List.cons_append, ofSpecial, bracketed, List.getLast?_concat]
  simp only [List.dropLast_concat, ipv6?_ipv6Text address]

theorem mem_piecesText {c : Char} (h : c ∈ piecesText pieces) :
    (48 ≤ c.toNat ∧ c.toNat ≤ 58) ∨ (97 ≤ c.toNat ∧ c.toNat ≤ 102) := by
  have digit (piece : Nat) (inside : c ∈ Nat.toDigits 16 piece) :
      (48 ≤ c.toNat ∧ c.toNat ≤ 58) ∨ (97 ≤ c.toNat ∧ c.toNat ≤ 102) := by
    have := hex_of_mem_toDigits inside
    omega
  cases pieces with
  | nil => cases h
  | cons first rest =>
    simp only [piecesText, List.map_cons, List.mem_append, List.mem_flatMap, List.mem_map,
      List.mem_cons] at h
    obtain h | ⟨_, ⟨piece, -, rfl⟩, rfl | h⟩ := h
    · exact digit first h
    · decide
    · exact digit piece h

theorem mem_ipv6Text {c : Char} (h : c ∈ ipv6Text pieces) :
    (48 ≤ c.toNat ∧ c.toNat ≤ 58) ∨ (97 ≤ c.toNat ∧ c.toNat ≤ 102) := by
  obtain written | ⟨front, -, back, -, -, written⟩ := ipv6Text_cases pieces
  · exact mem_piecesText (written ▸ h)
  · rw [written] at h
    simp only [List.mem_append, List.mem_cons] at h
    obtain h | rfl | rfl | h := h
    · exact mem_piecesText h
    · decide
    · decide
    · exact mem_piecesText h

/-! ## The addresses that are read -/

theorem piece?_lt {piece : Nat} (read : piece? text = some piece) : piece < 65536 := by
  simp only [piece?, Option.ite_none_left_eq_some] at read
  obtain ⟨short, read⟩ := read
  simp only [Bool.or_eq_true, decide_eq_true_eq, not_or, Nat.not_lt] at short
  have bound : Nat.pow 16 text.length ≤ Nat.pow 16 4 := Nat.pow_le_pow_right (by decide) short.2
  exact Nat.lt_of_lt_of_le (numberIn?_lt read) bound

theorem dottedByte?_lt {byte : Nat} (read : dottedByte? text = some byte) : byte < 256 := by
  unfold dottedByte? at read
  split at read
  · cases read
  · cases read
  · obtain ⟨n, -, read⟩ := Option.bind_eq_some_iff.1 read
    simp only [Option.ite_none_right_eq_some, Option.some.injEq] at read
    obtain ⟨small, rfl⟩ := read
    exact small

theorem dottedPieces?_lt (read : dottedPieces? text = some pieces) :
    ∀ piece ∈ pieces, piece < 65536 := by
  unfold dottedPieces? at read
  split at read
  · next a b c d bytes =>
    have small : ∀ byte ∈ [a, b, c, d], byte < 256 := by
      intro byte inside
      obtain ⟨field, -, read⟩ := Text.exists_of_mapM bytes byte inside
      exact dottedByte?_lt read
    simp only [List.forall_mem_cons] at small
    cases read
    simp only [List.forall_mem_cons]
    refine ⟨?_, ?_, nofun⟩ <;> omega
  · cases read

theorem pieces?_lt (read : pieces? fields = some pieces) : ∀ piece ∈ pieces, piece < 65536 := by
  induction fields generalizing pieces with
  | nil =>
    cases read
    nofun
  | cons field rest ih =>
    cases rest with
    | nil =>
      rw [pieces?] at read
      split at read
      · exact dottedPieces?_lt read
      · obtain ⟨piece, first, rfl⟩ := Option.map_eq_some_iff.1 read
        simpa using piece?_lt first
    | cons next rest =>
      rw [pieces?] at read
      · split at read
        · next piece more first others =>
          cases read
          exact List.forall_mem_cons.2 ⟨piece?_lt first, ih others⟩
        · cases read
      · nofun

theorem ipv6?_spec (read : ipv6? text = some pieces) : IsIpv6 pieces := by
  unfold ipv6? at read
  split at read
  · cases read
  · split at read
    · split at read
      · next whole =>
        simp only [Option.ite_none_right_eq_some, Option.some.injEq] at read
        obtain ⟨eight, rfl⟩ := read
        exact ⟨eight, pieces?_lt whole⟩
      · cases read
    · split at read
      · next front back before behind =>
        simp only [Option.ite_none_right_eq_some, Option.some.injEq] at read
        obtain ⟨short, rfl⟩ := read
        refine ⟨by simp; omega, fun piece inside => ?_⟩
        simp only [List.mem_append, List.mem_replicate] at inside
        obtain (inside | ⟨-, rfl⟩) | inside := inside
        · obtain ⟨field, -, read⟩ := Text.exists_of_mapM before piece inside
          exact piece?_lt read
        · decide
        · exact pieces?_lt behind piece inside
      · cases read

end Tendermint.Host
