import Mathlib.Data.List.Permutation
import Tendermint.Proofs.Answer.Layout
import Tendermint.Proofs.Schema.Integer
import Tendermint.Proofs.Schema.Reader

/-!
# Tendermint.Proofs.Answer.Respelling

Spellings are interchangeable. An answer or event in which some of the values that are read are
spelled in another way, as many as there are and each in any of the ways that its reader takes, is
read as before.

* `Schema.OtherSpelling`: another spelling of a value, for the schema that reads it.
* `Json.Respelled`: a value and its respellings.
* `respellings_change_nothing`.
-/

namespace Tendermint

open Json (Path)

/-! ## Leaves -/

namespace Leaf

variable {name : String}

/-- The case of letters makes no difference to hexadecimal. -/
theorem read_hex_of_sameLetters {s t : String} {bytes : Bytes} (same : Hex.SameLetters s t)
    (read : Leaf.hex.read name (.string s) = .ok bytes) :
    Leaf.hex.read name (.string t) = .ok bytes := by
  rw [Leaf.read, readHex, readString] at read ⊢
  dsimp only at read ⊢
  cases decoded : Hex.decode s with
  | error e =>
    rw [decoded] at read
    cases read
  | ok found =>
    rw [Hex.decode_of_sameLetters same decoded, ← decoded]
    exact read

end Leaf

/-! ## Signatures -/

/-- A signature as base64 text, bare or wrapped in an object. -/
def Signature.Carries (value : Json) (text : String) : Prop :=
  value = .string text ∨ ∃ members, value = .object members ∧ value.get? "value" = some (.string text)

theorem Signature.decode_eq_ok {name text : String} {value : Json} {a : Signature}
    (h : Signature.Carries value text) :
    Signature.schema.decode name value = .ok a ↔ (Base64.decode text).map Signature.mk = .ok a := by
  have leaf (field : String) : Leaf.base64.read field (.string text) =
      (Base64.decode text).mapError fun e => .invalidField field ("invalid base64: " ++ e.message) :=
    rfl
  obtain rfl | ⟨members, rfl, here⟩ := h
  · rw [schema, Schema.decode_map, Schema.decode, Schema.decode_leaf, leaf]
    cases Base64.decode text <;> simp [Except.mapError, Except.map]
  · rw [schema, Schema.decode_map, Schema.decode, Schema.decode_field, here]
    dsimp only
    rw [leaf]
    cases Base64.decode text <;> simp [Except.mapError, Except.map]

/-! ## Members with two names or two places -/

/-- Whichever of two names a member has, it is found under one of them, and the others stay. -/
theorem Json.Moved.or_of_perm {one other a b : String} {old new : Json}
    (h : Moved [] one [] other old new) (names : [one, other].Perm [a, b]) :
    (new.get? a).or (new.get? b) = (old.get? a).or (old.get? b) ∧
      ∀ k, k ∉ [a, b] → new.get? k = old.get? k := by
  have others (k : String) (absent : k ∉ [a, b]) : new.get? k = old.get? k := by
    rw [← names.mem_iff] at absent
    simp only [List.mem_cons, List.not_mem_nil, or_false, not_or] at absent
    exact h.get?_rename_of_ne (Ne.symm absent.1) (Ne.symm absent.2)
  refine ⟨?_, others⟩
  obtain same | same := List.pair_perm.1 names <;> cases same
  · exact h.or_rename.1
  · exact h.or_rename.2

namespace Schema

variable {α : Type} {kind : Leaf α} {name inner outer : String} {v w : Json} {a : α}

/-- An integer at a first place, or else under the member `outer`. -/
theorem decode_orElse_field {first : Schema (Option α)} {content : Option Json}
    (integer : kind.isInteger = true)
    (looked : first.decode name v = optionally (kind.read inner) content) :
    (Schema.orElse first (field outer kind)).decode name v = .ok a ↔
      ∃ found, content.or (v.get? outer) = some found ∧ kind.read inner found = .ok a := by
  rw [decode_orElse, looked]
  cases content with
  | some found => cases read : kind.read inner found <;> simp [read]
  | none =>
    rw [optionally_none, Option.none_or]
    dsimp only
    rw [decode_field]
    cases v.get? outer with
    | none => simp
    | some found => simp [Leaf.read_eq_ok_iff_of_isInteger integer outer inner]

theorem Keeps.orElse_field {first : Schema (Option α)} {content content' : Option Json}
    (integer : kind.isInteger = true)
    (looked : first.decode name v = optionally (kind.read inner) content)
    (looked' : first.decode name w = optionally (kind.read inner) content')
    (same : content'.or (w.get? outer) = content.or (v.get? outer)) :
    (Schema.orElse first (field outer kind)).Keeps name v w := by
  intro a read
  rw [decode_orElse_field integer looked] at read
  rw [decode_orElse_field integer looked', same]
  exact read

end Schema

namespace Validator

/-- The two names of the power of a validator. -/
def powerNames : List String := ["voting_power", "power"]

variable {dialect : Dialect} {name one other : String} {old new : Json}

theorem updateSchema_keeps (names : [one, other].Perm powerNames)
    (moved : Json.Moved [] one [] other old new) : (updateSchema dialect).Keeps name old new := by
  obtain ⟨power, others⟩ := moved.or_of_perm names
  have readPower : (Schema.orElse (Schema.optionalField "voting_power" .i64)
      (Schema.field "power" .i64)).Keeps name old new :=
    .orElse_field rfl (Schema.decode_optionalField _) (Schema.decode_optionalField _) power
  have address := others "address" (by decide)
  have key := others "pub_key" (by decide)
  exact .ap (.ap (.map readPower) (.optional_of_get? address))
    (.member_of_get? fun n hn => by rwa [List.mem_singleton.1 hn])

theorem memberSchema_keeps (names : [one, other].Perm powerNames)
    (moved : Json.Moved [] one [] other old new) : (memberSchema dialect).Keeps name old new := by
  obtain ⟨-, others⟩ := moved.or_of_perm names
  have address := others "address" (by decide)
  have accum := others "accum" (by decide)
  exact .ap (.ap (.map (.member_of_get? fun n hn => by rwa [List.mem_singleton.1 hn]))
    (.optional_of_get? accum)) (updateSchema_keeps names moved)

end Validator

namespace ConsensusParams

variable {name one other : String} {old new : Json}

/-- The groups of parameters are read under either of their names. -/
theorem schema_keeps_of_or
    (block : (new.get? "block_size_params").or (new.get? "block_size") =
      (old.get? "block_size_params").or (old.get? "block_size"))
    (evidence : (new.get? "evidence_params").or (new.get? "evidence") =
      (old.get? "evidence_params").or (old.get? "evidence")) :
    schema.Keeps name old new :=
  .seqRight (.seqRight (.member_pair (fun _ _ _ => rfl) block)
      (.member_pair (fun _ _ _ => rfl) evidence))
    (.ap (.map (.member_pair (fun _ _ _ => rfl) block)) (.member_pair (fun _ _ _ => rfl) evidence))

theorem schema_keeps {names : List String} (group : names = blockNames ∨ names = evidenceNames)
    (pair : [one, other].Perm names) (moved : Json.Moved [] one [] other old new) :
    schema.Keeps name old new := by
  obtain rfl | rfl := group
  · obtain ⟨block, others⟩ := moved.or_of_perm pair
    refine schema_keeps_of_or block ?_
    rw [others "evidence_params" (by decide), others "evidence" (by decide)]
  · obtain ⟨evidence, others⟩ := moved.or_of_perm pair
    refine schema_keeps_of_or ?_ evidence
    rw [others "block_size_params" (by decide), others "block_size" (by decide)]

end ConsensusParams

namespace TxProof

/-- The names of the counters of a proof, inside the inner proof and beside it. -/
def counterNames : List (String × String) := [("total", "Total"), ("index", "Index")]

variable {dialect : Dialect} {name inner outer : String} {old new part newPart : Json}

/-- Counters are read inside the inner proof or else beside it. -/
theorem counterSchema_keeps {i o : String} (before : old.get? "Proof" = some part)
    (after : new.get? "Proof" = some newPart)
    (same : (newPart.get? i).or (new.get? o) = (part.get? i).or (old.get? o)) :
    (counterSchema .inside i o).Keeps name old new := by
  have looked {u inside : Json} (here : u.get? "Proof" = some inside) :
      (Schema.required "Proof" (Schema.optionalField i .u64)).decode name u =
        Schema.optionally (Leaf.u64.read i) (inside.get? i) := by
    rw [Schema.decode_required, here]
    exact Schema.decode_optionalField _
  exact .orElse_field rfl (looked before) (looked after) same

theorem schema_keeps (inside : dialect.proofLayout = .inside) (known : (inner, outer) ∈ counterNames)
    (moved : Json.Relocated "Proof" inner outer old new part newPart) :
    (schema dialect).Keeps name old new := by
  obtain ⟨before, after, within, beside, counted⟩ := moved
  have distinct : ∀ p ∈ counterNames, ∀ q ∈ counterNames, p = q ∨ p.1 ≠ q.1 ∧ p.2 ≠ q.2 := by decide
  have others : ∀ p ∈ counterNames, p.2 ≠ "Proof" ∧ p.2 ≠ "Data" ∧ p.2 ≠ "RootHash" ∧
      p.1 ≠ "aunts" := by decide
  have counters (i o : String) (listed : (i, o) ∈ counterNames) :
      (newPart.get? i).or (new.get? o) = (part.get? i).or (old.get? o) := by
    obtain same | ⟨otherInner, otherOuter⟩ := distinct _ known _ listed
    · cases same
      exact counted
    · rw [within i otherInner, beside o otherOuter (others _ listed).1.symm]
  obtain ⟨-, notData, notRoot, notAunts⟩ := others _ known
  have proof : (Schema.present "Proof").Keeps name old new :=
    .required before after fun _ read => read
  have aunts : (Schema.required "Proof" (Schema.listOrEmpty "aunts" (.leaf .base64))).Keeps name
      old new := .required before after (.map (.optional_of_get? (within "aunts" notAunts)))
  have data := beside "Data" notData (by decide)
  have root := beside "RootHash" notRoot (by decide)
  rw [schema, inside]
  exact .seqRight proof (.ap (.ap (.ap (.ap (.map
    (counterSchema_keeps before after (counters "total" "Total" (by decide))))
    (counterSchema_keeps before after (counters "index" "Index" (by decide))))
    (.member_of_get? fun n hn => by rwa [List.mem_singleton.1 hn]))
    (.member_of_get? fun n hn => by rwa [List.mem_singleton.1 hn])) aunts)

end TxProof

/-! ## Respellings -/

/-- Another spelling of a value, for the schema that reads it. -/
inductive Schema.OtherSpelling : {α : Type} → Schema α → Json → Json → Prop where
  /-- An integer, as a JSON integer or as text. -/
  | integer {α : Type} {kind : Leaf α} {old new : Json} (n : Int) (integer : kind.isInteger = true)
    (before : old.Spells n) (after : new.Spells n) : OtherSpelling (.leaf kind) old new
  /-- Hexadecimal, with letters in either case. -/
  | hex {s t : String} (same : Hex.SameLetters s t) :
    OtherSpelling (.leaf .hex) (.string s) (.string t)
  /-- A signature, bare or wrapped. -/
  | signature {old new : Json} (text : String) (before : Signature.Carries old text)
    (after : Signature.Carries new text) : OtherSpelling Signature.schema old new
  /-- Parameters of consensus, with a group under its other name. -/
  | group {old new : Json} {names : List String} {one other : String}
    (group : names = ConsensusParams.blockNames ∨ names = ConsensusParams.evidenceNames)
    (pair : [one, other].Perm names) (moved : Json.Moved [] one [] other old new) :
    OtherSpelling ConsensusParams.schema old new
  /-- A change of the validator set, with the power under its other name. -/
  | power {dialect : Dialect} {old new : Json} {one other : String}
    (pair : [one, other].Perm Validator.powerNames) (moved : Json.Moved [] one [] other old new) :
    OtherSpelling (Validator.updateSchema dialect) old new
  /-- A member of a validator set, with the power under its other name. -/
  | memberPower {dialect : Dialect} {old new : Json} {one other : String}
    (pair : [one, other].Perm Validator.powerNames) (moved : Json.Moved [] one [] other old new) :
    OtherSpelling (Validator.memberSchema dialect) old new
  /-- A proof, with a counter taken out of the inner proof. -/
  | counterOut {dialect : Dialect} {old new : Json} {inner outer : String}
    (inside : dialect.proofLayout = .inside) (known : (inner, outer) ∈ TxProof.counterNames)
    (moved : Json.Moved [.member "Proof"] inner [] outer old new) :
    OtherSpelling (TxProof.schema dialect) old new
  /-- A proof, with a counter put into the inner proof. -/
  | counterIn {dialect : Dialect} {old new : Json} {inner outer : String}
    (inside : dialect.proofLayout = .inside) (known : (inner, outer) ∈ TxProof.counterNames)
    (moved : Json.Moved [] outer [.member "Proof"] inner old new) :
    OtherSpelling (TxProof.schema dialect) old new

/-- A value of which some of what the schema reads is spelled in another way. -/
inductive Schema.Respelled {α : Type} (schema : Schema α) (name : String) (value : Json) :
    Json → Prop where
  | refl : Respelled schema name value value
  | again {respelled old new : Json} {path : Path} (before : Respelled schema name value respelled)
    (here : respelled.find? path = some old) (read : schema.readers name respelled path ≠ [])
    (alike : ∀ reader ∈ schema.readers name respelled path, reader.schema.OtherSpelling old new) :
    Respelled schema name value (respelled.replace path new)

namespace Schema

variable {α : Type} {schema : Schema α} {name : String} {value respelled old new : Json}

theorem OtherSpelling.keeps (h : schema.OtherSpelling old new) (name : String) :
    schema.Keeps name old new := by
  cases h with
  | integer n integer before after => exact fun a read => Leaf.read_of_spells integer before after read
  | hex same => exact fun bytes read => Leaf.read_hex_of_sameLetters same read
  | signature text before after =>
    intro a read
    rw [Signature.decode_eq_ok before] at read
    rwa [Signature.decode_eq_ok after]
  | group group pair moved => exact ConsensusParams.schema_keeps group pair moved
  | power pair moved => exact Validator.updateSchema_keeps pair moved
  | memberPower pair moved => exact Validator.memberSchema_keeps pair moved
  | counterOut inside known moved =>
    have apart : ∀ p ∈ TxProof.counterNames, p.2 ≠ "Proof" := by decide
    obtain ⟨part, newPart, moved⟩ := moved.relocated_out (apart _ known)
    exact TxProof.schema_keeps inside known moved
  | counterIn inside known moved =>
    have apart : ∀ p ∈ TxProof.counterNames, p.2 ≠ "Proof" := by decide
    obtain ⟨part, newPart, moved⟩ := moved.relocated_in (apart _ known)
    exact TxProof.schema_keeps inside known moved

theorem OtherSpelling.isWhole (h : schema.OtherSpelling old new) : schema.isWhole = false := by
  cases h with
  | @integer _ kind _ _ n integer => cases kind <;> first | rfl | cases integer
  | _ => rfl

theorem OtherSpelling.ne_null (h : schema.OtherSpelling old new) : old ≠ .null ∧ new ≠ .null := by
  cases h with
  | integer n integer before after =>
    have solid {v : Json} (spells : v.Spells n) : v ≠ .null := by
      obtain rfl | ⟨text, rfl, -⟩ := spells <;> rintro ⟨⟩
    exact ⟨solid before, solid after⟩
  | hex same => constructor <;> rintro ⟨⟩
  | signature text before after =>
    have solid {v : Json} (carries : Signature.Carries v text) : v ≠ .null := by
      obtain rfl | ⟨members, rfl, -⟩ := carries <;> rintro ⟨⟩
    exact ⟨solid before, solid after⟩
  | group _ _ moved | power _ moved | memberPower _ moved | counterOut _ _ moved
  | counterIn _ _ moved => exact moved.ne_null

/-- A schema reads a respelling as it reads the value. -/
theorem keeps_of_respelled (h : schema.Respelled name value respelled) :
    schema.Keeps name value respelled := by
  induction h with
  | refl => exact fun _ read => read
  | again before here read alike ih =>
    obtain ⟨reader, listed⟩ := List.exists_mem_of_ne_nil _ read
    obtain ⟨solid, shown⟩ := (alike reader listed).ne_null
    have step := keeps_replace solid shown here fun reader listed =>
      ⟨(alike reader listed).isWhole, (alike reader listed).keeps⟩
    exact fun a readValue => step a (ih a readValue)

/-- Where one part of the schema reads, any of its spellings may be put. -/
theorem Respelled.sole {β : Type} {part : Schema β} {path : Path}
    (before : schema.Respelled name value respelled) (here : respelled.find? path = some old)
    (sole : schema.readers name respelled path = [⟨part⟩]) (alike : part.OtherSpelling old new) :
    schema.Respelled name value (respelled.replace path new) := by
  refine before.again here ?_ ?_
  · rw [sole]
    exact List.cons_ne_nil _ _
  · rw [sole]
    exact List.forall_mem_singleton.2 alike

end Schema

/-- Spellings are interchangeable: an accepted answer or event, in either version, is read as
before when any of what is read is spelled in another way: integers as numbers or as texts with
leading zeros, white space or a sign, hexadecimal in either case, signatures bare or wrapped, groups
of parameters and the power of a validator under either name, and in the newer version the counters
of a proof inside the inner proof or beside it. -/
theorem respellings_change_nothing (version : Version) (value respelled : Json) :
    (∀ (α : Type) (answer : Answer α) (a : α), answer.read version value = .ok a →
      (answer.schema version).Respelled "result" value respelled →
      answer.read version respelled = .ok a) ∧
    (∀ (α : Type) (announcement : Announcement α) (query : Option String) (kind : String) (a : α),
      announcement.read version ⟨query, kind, value⟩ = .ok a →
      (announcement.payloadSchema version).Respelled "value" value respelled →
      announcement.read version ⟨query, kind, respelled⟩ = .ok a) := by
  refine ⟨fun α answer a read h => Schema.keeps_of_respelled h a read,
    fun α announcement query kind a read h => ?_⟩
  rw [Announcement.read_eq_ok "value"] at read ⊢
  exact Schema.keeps_of_respelled h a read

section Sample

/-- A transaction with its proof; the number of leaves of the tree is inside the inner proof. -/
def TxProof.respelledAnswer : Json :=
  .object [("hash", .string "ab"), ("height", Json.nat 7), ("index", Json.nat 0),
    ("proof", .object [("Data", .string ""), ("Index", Json.nat 0),
      ("Proof", .object [("total", Json.nat 1)]), ("RootHash", .string "")]),
    ("tx", .string ""), ("tx_result", .object [])]

/-- The height as text, the hash in capitals, and the number of leaves beside the inner proof; and
an event whose height is a number. -/
theorem respelled_transactions_read_alike :
    Answer.tx.read .v0_25 (((TxProof.respelledAnswer.replace [.member "height"]
        (.string " +007 ")).replace [.member "hash"] (.string "AB")).replace [.member "proof"]
        (.object [("Data", .string ""), ("Index", Json.nat 0), ("Proof", .object []),
          ("RootHash", .string ""), ("Total", Json.nat 1)])) =
      .ok ⟨[], ⟨0, none, none, none⟩, 7, 0, ⟨[0xab]⟩, some ⟨[], [], 1, 0, []⟩⟩ ∧
    Announcement.tx.read .v0_25 ⟨none, "tendermint/event/Tx",
        TxEvent.emptyPayload.replace [.member "TxResult", .member "height"] (Json.nat 1)⟩ =
      .ok ⟨[], Version.v0_25.hashTx [], ⟨0, none, none, none⟩, 1, 0⟩ := by
  have numeral : Integer.Numeral ['+', '0', '0', '7'] 7 :=
    @Integer.Numeral.plus ['0', '0', '7'] (List.cons_ne_nil _ _) (List.all_eq_true.1 (by decide))
  have seven : Integer.Spelling " +007 " 7 :=
    @Integer.Spelling.intro _ [' '] _ [' '] _ rfl (List.all_eq_true.1 (by decide)) numeral
      (List.all_eq_true.1 (by decide))
  have one : Integer.Spelling "1" 1 :=
    @Integer.Spelling.intro _ [] ['1'] [] _ rfl (List.forall_mem_nil _)
      (@Integer.Numeral.unsigned ['1'] (List.cons_ne_nil _ _) (List.all_eq_true.1 (by decide)))
      (List.forall_mem_nil _)
  constructor
  · refine (respellings_change_nothing .v0_25 TxProof.respelledAnswer _).1 _ .tx _ rfl ?_
    refine .sole (.sole (.sole .refl rfl rfl ?_) rfl rfl ?_) rfl rfl ?_
    · exact .integer 7 rfl (.inl rfl) (.inr ⟨_, rfl, seven⟩)
    · exact .hex (by decide)
    · exact @Schema.OtherSpelling.counterOut _ _ _ "total" "Total" rfl (by decide)
        (.intro rfl rfl rfl)
  · refine (respellings_change_nothing .v0_25 TxEvent.emptyPayload _).2 _ .tx _ _ _ rfl ?_
    exact .sole .refl rfl rfl (.integer 1 rfl (.inr ⟨_, rfl, one⟩) (.inl rfl))

end Sample

end Tendermint
