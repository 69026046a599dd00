import Mathlib.Data.List.Infix
import Mathlib.Data.List.TakeWhile
import Tendermint.Cli.Invocation
import Tendermint.Proofs.Text.RoundTrip

/-!
# Tendermint.Proofs.Wire.Clause

What a node reads in a query. The clauses of a query stand between occurrences of ` AND ` outside
single quotes; a clause is a key, an operator, and a text in quotes or a number. The query of a
filter quotes the values of its tags as they are, so it reads back as the conditions of the filter
exactly if no tag has a quote in it, nor a key that holds an operator or the separator.

* `Query.clauses?`: reads a query.
* `Clause.Plain`: the clauses that can be read.
* `Query.clauses?_write`, `Query.plain_of_clauses?`: those, and no others, are.
* `conditions_read_back_iff`.
-/

namespace Tendermint

/-- What a clause compares with. -/
inductive Operand where
  | text (value : String)
  | number (n : Nat)
  deriving DecidableEq, Repr

structure Clause where
  key : String
  operator : Char
  operand : Operand
  deriving DecidableEq, Repr

/-! ## The grammar -/

namespace Clause

def isOperator (c : Char) : Bool := c = '=' || c = '>' || c = '<'

/-- What no key holds. -/
def endsKey (c : Char) : Bool := isOperator c || c = '\''

/-- Reads a text up to the next quote, which has to be the last character, or a number. -/
def operand? : List Char → Option Operand
  | '\'' :: rest =>
    if rest.dropWhile (· ≠ '\'') = ['\''] then
      some (.text (String.ofList (rest.takeWhile (· ≠ '\''))))
    else none
  | digits =>
    if digits ≠ [] ∧ digits.all Char.isDigit then some (.number (Nat.ofDigitChars 10 digits 0))
    else none

def ofChars? (text : List Char) : Option Clause :=
  match text.dropWhile (!endsKey ·) with
  | [] => none
  | c :: rest =>
    if isOperator c then
      (operand? rest).map fun operand => ⟨String.ofList (text.takeWhile (!endsKey ·)), c, operand⟩
    else none

end Clause

namespace Query

/-- Puts a text in front of the first part. -/
def precede (front : List Char) : List (List Char) → List (List Char)
  | [] => []
  | part :: parts => (front ++ part) :: parts

/-- Cuts a text wherever the separator stands outside quotes. -/
def cut : Bool → List Char → List (List Char)
  | _, [] => [[]]
  | false, ' ' :: 'A' :: 'N' :: 'D' :: ' ' :: rest => [] :: cut false rest
  | quoted, c :: rest => precede [c] (cut (if c = '\'' then !quoted else quoted) rest)

/-- The clauses of a query. -/
def clauses? (query : Query) : Option (List Clause) :=
  if query.isEmpty then some [] else (cut false query.text.toList).mapM Clause.ofChars?

end Query

/-- The condition on a tag, as a clause. -/
def TagCondition.clause (tag : TagCondition) : Clause := ⟨tag.key, '=', .text tag.value⟩

/-- The conditions of a filter, as clauses. -/
def TxFilter.clauses (filter : TxFilter) : List Clause :=
  filter.tags.map TagCondition.clause ++
    (filter.height.map fun height => ⟨"tx.height", '=', .number height.toNat⟩).toList ++
    (filter.minHeight.map fun height => ⟨"tx.height", '>', .number height.toNat⟩).toList ++
    (filter.maxHeight.map fun height => ⟨"tx.height", '<', .number height.toNat⟩).toList ++
    (filter.hash.map fun hash => ⟨"tx.hash", '=', .text hash.text⟩).toList

/-! ## Clauses that can be read -/

namespace Clause

/-- How a clause is written. -/
def write (clause : Clause) : List Char :=
  clause.key.toList ++ clause.operator ::
    match clause.operand with
    | .text value => '\'' :: (value.toList ++ ['\''])
    | .number n => Nat.toDigits 10 n

structure Plain (clause : Clause) : Prop where
  key : ∀ c ∈ clause.key.toList, endsKey c = false
  whole : ¬ Query.conjunction.toList <:+: clause.key.toList
  operator : isOperator clause.operator = true
  value : ∀ value, clause.operand = .text value → '\'' ∉ value.toList

theorem endsKey_of_isOperator {c : Char} (h : isOperator c = true) : endsKey c = true := by
  simp [endsKey, h]

theorem ne_of_isOperator {c : Char} (h : isOperator c = true) : c ≠ ' ' ∧ c ≠ '\'' := by
  constructor <;> rintro rfl <;> exact absurd h (by decide)

theorem ne_quote_of_isDigit {c : Char} (h : c.isDigit = true) : c ≠ ' ' ∧ c ≠ '\'' := by
  constructor <;> rintro rfl <;> exact absurd h (by decide)

theorem operand?_text {value : List Char} (unquoted : '\'' ∉ value) :
    operand? ('\'' :: (value ++ ['\''])) = some (.text (String.ofList value)) := by
  have inside : ∀ c ∈ value, decide (c ≠ '\'') = true := by
    intro c hc
    exact decide_eq_true fun same => unquoted (same ▸ hc)
  rw [operand?, List.dropWhile_append_of_pos inside, List.takeWhile_append_of_pos inside]
  simp

theorem operand?_number (n : Nat) : operand? (Nat.toDigits 10 n) = some (.number n) := by
  have digits := Integer.isDigit_toDigits n
  have some : Nat.toDigits 10 n ≠ [] := Nat.toDigits_ne_nil
  have value : Nat.ofDigitChars 10 (Nat.toDigits 10 n) 0 = n :=
    Nat.ofDigitChars_toDigits (by decide) (by decide)
  unfold operand?
  split
  · next rest text =>
    exact absurd rfl (ne_quote_of_isDigit (digits '\'' (text ▸ List.mem_cons_self))).2
  · rw [if_pos ⟨some, List.all_eq_true.2 digits⟩, value]

theorem ofChars?_write {clause : Clause} (plain : clause.Plain) :
    ofChars? clause.write = some clause := by
  obtain ⟨key, operator, operand⟩ := clause
  have inside : ∀ c ∈ key.toList, (!endsKey c) = true := by
    intro c hc
    simp [plain.key c hc]
  have stops : (!endsKey operator) = false := by simp [endsKey_of_isOperator plain.operator]
  have comes : isOperator operator = true := plain.operator
  rw [ofChars?, write, List.dropWhile_append_of_pos inside, List.takeWhile_append_of_pos inside,
    List.dropWhile_cons_of_neg (by simp [stops]), List.takeWhile_cons_of_neg (by simp [stops])]
  dsimp only
  rw [if_pos comes]
  cases operand with
  | text value => simp [operand?_text (plain.value value rfl)]
  | number n => simp [operand?_number]

theorem value_of_operand? {text : List Char} {value : String}
    (read : operand? text = some (.text value)) : '\'' ∉ value.toList := by
  unfold operand? at read
  split at read
  · next rest =>
    split at read
    · simp only [Option.some.injEq, Operand.text.injEq] at read
      subst read
      intro quote
      rw [String.toList_ofList] at quote
      simpa using List.mem_takeWhile_imp quote
    · cases read
  · split at read
    · simp at read
    · cases read

end Clause

/-! ## Cutting a query -/

namespace Query

variable {quoted : Bool} {c : Char} {xs rest text part : List Char} {clause : Clause}

@[simp] theorem precede_nil (parts : List (List Char)) : precede [] parts = parts := by
  cases parts <;> rfl

@[simp] theorem precede_precede (xs ys : List Char) (parts : List (List Char)) :
    precede xs (precede ys parts) = precede (xs ++ ys) parts := by
  cases parts <;> simp [precede]

theorem cut_nil (quoted : Bool) : cut quoted [] = [[]] := by
  cases quoted <;> rfl

theorem cut_conjunction (rest : List Char) :
    cut false (conjunction.toList ++ rest) = [] :: cut false rest := rfl

theorem cut_cons (stays : quoted = true ∨ ¬ conjunction.toList <+: c :: rest) :
    cut quoted (c :: rest) = precede [c] (cut (if c = '\'' then !quoted else quoted) rest) := by
  rw [cut]
  rintro more rfl rfl rfl
  obtain inside | apart := stays
  · cases inside
  · exact apart ⟨more, rfl⟩

theorem not_conjunction (solid : c ≠ ' ') : ¬ conjunction.toList <+: c :: rest := by
  rintro ⟨more, same⟩
  exact solid (List.cons.inj same).1.symm

theorem cut_solid (solid : ∀ c ∈ xs, c ≠ ' ' ∧ c ≠ '\'') :
    cut false (xs ++ rest) = precede xs (cut false rest) := by
  induction xs with
  | nil => simp
  | cons c xs ih =>
    obtain ⟨⟨blank, quote⟩, others⟩ := List.forall_mem_cons.1 solid
    rw [List.cons_append, cut_cons (.inr (not_conjunction blank)), if_neg quote, ih others,
      precede_precede, List.singleton_append]

theorem cut_quoted (unquoted : '\'' ∉ xs) :
    cut true (xs ++ '\'' :: rest) = precede (xs ++ ['\'']) (cut false rest) := by
  induction xs with
  | nil => simp [cut_cons]
  | cons c xs ih =>
    obtain ⟨here, others⟩ := List.ne_and_not_mem_of_not_mem_cons unquoted
    rw [List.cons_append, cut_cons (.inl rfl), if_neg (Ne.symm here), ih others, precede_precede,
      List.singleton_append, List.cons_append]

/-- What begins before a character that it does not hold ends there, too. -/
theorem prefix_of_not_mem {front : List Char} (apart : c ∉ front) (h : front <+: xs ++ c :: rest) :
    front <+: xs := by
  obtain long | short := Nat.lt_or_ge xs.length front.length
  · have short : (xs ++ [c]).length ≤ front.length := by
      rw [List.length_append, List.length_singleton]
      omega
    have reached : xs ++ [c] <+: front := List.prefix_of_prefix_length_le ⟨rest, by simp⟩ h short
    exact absurd (reached.subset (by simp)) apart
  · exact List.prefix_of_prefix_length_le h (List.prefix_append xs _) short

theorem cut_key (operator : Clause.isOperator c = true) (unquoted : '\'' ∉ xs)
    (whole : ¬ conjunction.toList <:+: xs) :
    cut false (xs ++ c :: rest) = precede xs (cut false (c :: rest)) := by
  have apart : c ∉ conjunction.toList := by
    intro inside
    have all : ∀ c ∈ conjunction.toList, Clause.isOperator c = false := by
      simp [conjunction, Clause.isOperator]
    rw [all c inside] at operator
    cases operator
  induction xs with
  | nil => simp
  | cons d xs ih =>
    obtain ⟨here, others⟩ := List.ne_and_not_mem_of_not_mem_cons unquoted
    -- the operator is not in the separator, so one that begins in the key ends in it
    have first : ¬ conjunction.toList <+: d :: (xs ++ c :: rest) := by
      intro begins
      have inside : conjunction.toList <+: d :: xs := prefix_of_not_mem apart begins
      exact whole inside.isInfix
    rw [List.cons_append, cut_cons (.inr first), if_neg (Ne.symm here),
      ih others fun inside => whole (List.infix_cons inside), precede_precede,
      List.singleton_append]

/-- A clause that can be read is not cut. -/
theorem cut_write (plain : clause.Plain) :
    cut false (clause.write ++ rest) = precede clause.write (cut false rest) := by
  obtain ⟨key, operator, operand⟩ := clause
  have comes : Clause.isOperator operator = true := plain.operator
  have solid := Clause.ne_of_isOperator comes
  have unquoted : '\'' ∉ key.toList := fun quote => absurd (plain.key _ quote) (by decide)
  cases operand with
  | text value =>
    have inside := plain.value value rfl
    simp only [Clause.write, List.append_assoc, List.cons_append, List.nil_append]
    rw [cut_key comes unquoted plain.whole, cut_cons (.inr (not_conjunction solid.1)),
      if_neg solid.2, cut_cons (.inr (not_conjunction (by decide))), if_pos rfl, Bool.not_false,
      cut_quoted inside]
    simp
  | number n =>
    simp only [Clause.write, List.append_assoc, List.cons_append]
    have digits : ∀ c ∈ operator :: Nat.toDigits 10 n, c ≠ ' ' ∧ c ≠ '\'' :=
      List.forall_mem_cons.2 ⟨solid, fun c hc =>
        Clause.ne_quote_of_isDigit (Integer.isDigit_toDigits n c hc)⟩
    rw [cut_key comes unquoted plain.whole, ← List.cons_append, cut_solid digits, precede_precede]

theorem cut_intercalate {clauses : List Clause} (some : clauses ≠ [])
    (plain : ∀ clause ∈ clauses, clause.Plain) :
    cut false (conjunction.toList.intercalate (clauses.map Clause.write)) =
      clauses.map Clause.write := by
  induction clauses with
  | nil => exact absurd rfl some
  | cons first rest ih =>
    obtain ⟨here, others⟩ := List.forall_mem_cons.1 plain
    cases rest with
    | nil =>
      have alone : cut false (first.write ++ []) = precede first.write (cut false []) :=
        cut_write here
      rw [List.append_nil, cut_nil] at alone
      simpa [precede] using alone
    | cons second rest =>
      rw [List.map_cons, List.map_cons, List.intercalate_cons_cons, ← List.map_cons,
        List.append_assoc, cut_write here, cut_conjunction, ih (List.cons_ne_nil _ _) others]
      simp [precede]

/-! ## Reading a query -/

theorem clauses?_write {query : Query} {clauses : List Clause}
    (plain : ∀ clause ∈ clauses, clause.Plain)
    (written : query.text.toList = conjunction.toList.intercalate (clauses.map Clause.write)) :
    query.clauses? = some clauses := by
  cases clauses with
  | nil =>
    have none : query.text = "" := String.toList_inj.1 written
    simp [clauses?, isEmpty, none]
  | cons first rest =>
    have some : ¬ query.isEmpty = true := by
      intro none
      have text : query.text = "" := of_decide_eq_true none
      rw [text] at written
      cases rest <;> simp [Clause.write, List.intercalate_cons_cons] at written
    rw [clauses?, if_neg some, written, cut_intercalate (List.cons_ne_nil first rest) plain,
      Text.mapM_map fun clause inside => Clause.ofChars?_write (plain clause inside)]

/-- A part in which the separator stands behind a quote at most. -/
def Unbroken (part : List Char) : Prop :=
  ∀ key, key <+: part → '\'' ∉ key → ¬ conjunction.toList <:+: key

theorem unbroken_nil : Unbroken [] := by
  intro key begins unquoted inside
  have none := List.prefix_nil.1 begins
  subst none
  simp [conjunction] at inside

theorem unbroken_cons (h : c ≠ '\'' → Unbroken part ∧ ¬ conjunction.toList <+: c :: part) :
    Unbroken (c :: part) := by
  intro key begins unquoted inside
  cases key with
  | nil => exact unbroken_nil [] List.nil_prefix unquoted inside
  | cons d key =>
    obtain ⟨rfl, begins'⟩ := List.cons_prefix_cons.1 begins
    obtain ⟨here, others⟩ := List.ne_and_not_mem_of_not_mem_cons unquoted
    obtain ⟨unbroken, apart⟩ := h (Ne.symm here)
    obtain first | later := List.infix_cons_iff.1 inside
    · exact apart (first.trans begins)
    · exact unbroken key begins' others later

theorem prefix_of_cut {parts : List (List Char)} (h : cut quoted text = part :: parts) :
    part <+: text := by
  fun_induction cut quoted text generalizing part parts with
  | case1 | case2 =>
    obtain ⟨rfl, -⟩ := List.cons.inj h
    exact List.nil_prefix
  | case3 quoted c rest apart ih =>
    cases more : cut (if c = '\'' then !quoted else quoted) rest with
    | nil =>
      rw [more] at h
      cases h
    | cons first others =>
      rw [more] at h
      obtain ⟨rfl, -⟩ := List.cons.inj h
      exact List.cons_prefix_cons.2 ⟨rfl, ih more⟩

/-- The first part may begin inside quotes; all the others begin outside. -/
theorem unbroken_of_cut (quoted : Bool) (text : List Char) :
    (quoted = false → ∀ part ∈ cut quoted text, Unbroken part) ∧
      ∀ part ∈ (cut quoted text).tail, Unbroken part := by
  fun_induction cut quoted text with
  | case1 => simp [unbroken_nil]
  | case2 rest ih =>
    have all := ih.1 rfl
    exact ⟨fun _ => List.forall_mem_cons.2 ⟨unbroken_nil, all⟩, all⟩
  | case3 quoted c rest apart ih =>
    obtain ⟨outside, later⟩ := ih
    cases more : cut (if c = '\'' then !quoted else quoted) rest with
    | nil => simp [precede]
    | cons first others =>
      rw [more] at outside later
      refine ⟨?_, later⟩
      rintro rfl
      refine List.forall_mem_cons.2 ⟨unbroken_cons fun quote => ⟨?_, ?_⟩, later⟩
      · rw [if_neg quote] at outside
        exact outside rfl first List.mem_cons_self
      · intro begins
        have here : [c] ++ first <+: c :: rest :=
          List.cons_prefix_cons.2 ⟨rfl, prefix_of_cut more⟩
        obtain ⟨behind, same⟩ := begins.trans here
        obtain ⟨rfl, rfl⟩ := List.cons.inj same
        exact apart behind rfl rfl rfl

theorem plain_of_ofChars? (unbroken : Unbroken part) (read : Clause.ofChars? part = some clause) :
    clause.Plain := by
  unfold Clause.ofChars? at read
  split at read
  · cases read
  · next c rest stop =>
    split at read
    · next comes =>
      obtain ⟨operand, readOperand, rfl⟩ := Option.map_eq_some_iff.1 read
      have key : ∀ c ∈ part.takeWhile (!Clause.endsKey ·), Clause.endsKey c = false := by
        intro c hc
        simpa using List.mem_takeWhile_imp hc
      refine ⟨by simpa using key, ?_, comes, ?_⟩
      · rw [String.toList_ofList]
        refine unbroken _ (List.takeWhile_prefix _) fun quote => ?_
        exact absurd (key _ quote) (by decide)
      · rintro value rfl
        exact Clause.value_of_operand? readOperand
    · cases read

/-- Whatever is read of a query are clauses that can be written. -/
theorem plain_of_clauses? {query : Query} {clauses : List Clause}
    (read : query.clauses? = some clauses) : ∀ clause ∈ clauses, clause.Plain := by
  intro clause inside
  unfold clauses? at read
  split at read
  · cases read
    cases inside
  · obtain ⟨part, member, readPart⟩ := Text.exists_of_mapM read clause inside
    exact plain_of_ofChars? ((unbroken_of_cut false query.text.toList).1 rfl part member) readPart

end Query

/-! ## The query of a filter -/

namespace TxFilter

theorem toList_quotedCondition (key value : String) :
    (quotedCondition key value).toList = Clause.write ⟨key, '=', .text value⟩ := by
  simp [quotedCondition, Clause.write]

theorem toList_heightCondition {operator : String} {c : Char} (one : operator.toList = [c])
    (height : UInt64) : (heightCondition operator height).toList =
      Clause.write ⟨"tx.height", c, .number height.toNat⟩ := by
  simp [heightCondition, Clause.write, one]

theorem text_query (filter : TxFilter) : filter.query.text.toList =
    Query.conjunction.toList.intercalate (filter.clauses.map Clause.write) := by
  have equal : "=".toList = ['='] := rfl
  have greater : ">".toList = ['>'] := rfl
  have less : "<".toList = ['<'] := rfl
  have texts : filter.conditions.map String.toList = filter.clauses.map Clause.write := by
    obtain ⟨tags, height, minHeight, maxHeight, hash⟩ := filter
    cases height <;> cases minHeight <;> cases maxHeight <;> cases hash <;>
      simp [conditions, clauses, TagCondition.clause, toList_quotedCondition,
        toList_heightCondition equal, toList_heightCondition greater, toList_heightCondition less]
  rw [query, String.toList_intercalate, texts]

end TxFilter

theorem TagCondition.plain_clause_iff (tag : TagCondition) :
    tag.clause.Plain ↔ (∀ c ∈ tag.key.toList, c ∉ ['=', '>', '<', '\'']) ∧
      ¬ Query.conjunction.toList <:+: tag.key.toList ∧ '\'' ∉ tag.value.toList := by
  have ends (c : Char) : Clause.endsKey c = false ↔ c ∉ ['=', '>', '<', '\''] := by
    simp [Clause.endsKey, Clause.isOperator, and_assoc]
  constructor
  · intro plain
    exact ⟨fun c hc => (ends c).1 (plain.key c hc), plain.whole, plain.value _ rfl⟩
  · rintro ⟨key, whole, value⟩
    refine ⟨fun c hc => (ends c).2 (key c hc), whole, rfl, ?_⟩
    rintro _ ⟨⟩
    exact value

theorem TxHash.unquoted (hash : TxHash) : '\'' ∉ hash.text.toList := by
  intro quote
  rw [TxHash.text, Hex.encodeUpper, String.toList_ofList] at quote
  exact absurd (Hex.upper_of_mem_encodeChars quote) (by decide)

theorem TxFilter.plain_clauses_iff (filter : TxFilter) :
    (∀ clause ∈ filter.clauses, clause.Plain) ↔ ∀ tag ∈ filter.tags, tag.clause.Plain := by
  have heightKey : ∀ c ∈ "tx.height".toList, Clause.endsKey c = false := by
    simp [Clause.endsKey, Clause.isOperator]
  have hashKey : ∀ c ∈ "tx.hash".toList, Clause.endsKey c = false := by
    simp [Clause.endsKey, Clause.isOperator]
  have height (operator : Char) (comes : Clause.isOperator operator = true) (n : Nat) :
      Clause.Plain ⟨"tx.height", operator, .number n⟩ :=
    ⟨heightKey, (by decide : ¬ Query.conjunction.toList <:+: "tx.height".toList), comes, nofun⟩
  have hash (hash : TxHash) : Clause.Plain ⟨"tx.hash", '=', .text hash.text⟩ := by
    refine ⟨hashKey, (by decide : ¬ Query.conjunction.toList <:+: "tx.hash".toList), rfl, ?_⟩
    rintro _ ⟨⟩
    exact hash.unquoted
  constructor
  · intro plain tag inside
    refine plain tag.clause ?_
    simp [clauses, List.mem_map_of_mem inside]
  · intro plain clause inside
    simp only [clauses, List.mem_append, List.mem_map, Option.mem_toList, Option.map_eq_some_iff]
      at inside
    obtain (((⟨tag, member, rfl⟩ | ⟨_, -, rfl⟩) | ⟨_, -, rfl⟩) | ⟨_, -, rfl⟩) | ⟨_, -, rfl⟩ :=
      inside
    · exact plain tag member
    · exact height '=' rfl _
    · exact height '>' rfl _
    · exact height '<' rfl _
    · exact hash _

/-- The query of a filter reads back as its conditions, one clause for each, in their order and with
their keys, operators and values, exactly if every tag can be written: no quote is in its value, and
its key holds neither a quote nor an operator nor the separator. -/
theorem conditions_read_back_iff (filter : TxFilter) :
    filter.query.clauses? = some filter.clauses ↔
      ∀ tag ∈ filter.tags, (∀ c ∈ tag.key.toList, c ∉ ['=', '>', '<', '\'']) ∧
        ¬ Query.conjunction.toList <:+: tag.key.toList ∧ '\'' ∉ tag.value.toList := by
  simp only [← TagCondition.plain_clause_iff, ← TxFilter.plain_clauses_iff]
  constructor
  · exact Query.plain_of_clauses?
  · exact fun plain => Query.clauses?_write plain filter.text_query

/-- A tag whose value ends its own quotes. -/
def TagCondition.breaking : TagCondition := ⟨"app.key", "abc' AND tx.height='5"⟩

/-- The command line takes such a tag, and its one condition is read as two. -/
theorem value_adds_clause :
    Cli.tag? "app.key=abc' AND tx.height='5" = some .breaking ∧
    (TxFilter.clauses { TxFilter.none with tags := [.breaking] }).length = 1 ∧
    (TxFilter.query { TxFilter.none with tags := [.breaking] }).clauses? =
      some [⟨"app.key", '=', .text "abc"⟩, ⟨"tx.height", '=', .text "5"⟩] := by
  refine ⟨by decide, by decide, by decide⟩

end Tendermint
