import Tendermint.Client.Calls
import Tendermint.Proofs.Text.Forms

/-!
# Tendermint.Proofs.Client.Detection

The version of a node is found in its version text or not at all. White space around the text and
one leading `v` do not count; what is left begins with the short name of a version and a dot, or,
where somebody names the version, is the short name itself.

* `Version.Says`, `Version.says_iff`: what is left of a version text.
* `Version.Fits`, `Version.Names`: the texts of a node of the version, and its short name.
* `Version.detect_eq_ok`, `Version.parse_eq_ok`: these texts, and no others, are read.
* `Client.Reports`: the version text in the answer of a node.
* `detection_never_guesses`.
-/

namespace Tendermint

namespace Version

/-- What a version text says without the white space around it and without one leading `v`. -/
inductive Says (text : String) (core : List Char) : Prop where
  | plain {before after : List Char} (parts : text.toList = before ++ core ++ after)
    (blankBefore : ∀ c ∈ before, Text.isBlank c = true) (trimmed : Text.Trimmed core)
    (blankAfter : ∀ c ∈ after, Text.isBlank c = true) (unmarked : core.head? ≠ some 'v')
  | marked {before after : List Char} (parts : text.toList = before ++ ('v' :: core) ++ after)
    (blankBefore : ∀ c ∈ before, Text.isBlank c = true) (trimmed : Text.Trimmed ('v' :: core))
    (blankAfter : ∀ c ∈ after, Text.isBlank c = true)

/-- A text of a node of this version: it says the short name, a dot and anything. -/
def Fits (version : Version) (text : String) : Prop :=
  ∃ rest, Says text (version.name.toList ++ '.' :: rest)

/-- A text that says the short name of this version and nothing else. -/
def Names (version : Version) (text : String) : Prop := Says text version.name.toList

section Says

variable {text : String} {core other : List Char}

theorem says_iff : Says text core ↔ normalized text = core := by
  constructor
  · rintro (⟨parts, blankBefore, trimmed, blankAfter, unmarked⟩ |
      ⟨parts, blankBefore, trimmed, blankAfter⟩)
    · rw [normalized, parts, Text.trim_between blankBefore trimmed blankAfter]
      split
      · exact absurd rfl unmarked
      · rfl
    · rw [normalized, parts, Text.trim_between blankBefore trimmed blankAfter]
      rfl
  · rintro rfl
    obtain ⟨before, after, parts, blankBefore, blankAfter⟩ := Text.exists_trim text.toList
    have trimmed := Text.trimmed_trim text.toList
    rw [normalized]
    split
    · next rest marked =>
      rw [marked] at parts trimmed
      exact .marked parts blankBefore trimmed blankAfter
    · next unmarked =>
      refine .plain parts blankBefore trimmed blankAfter fun starts => ?_
      obtain ⟨rest, whole⟩ := List.head?_eq_some_iff.1 starts
      exact unmarked rest whole

theorem Says.unique (said : Says text core) (said' : Says text other) : core = other :=
  (says_iff.1 said).symm.trans (says_iff.1 said')

end Says

section Names

variable {text : String} {version other : Version}

theorem length_name (version : Version) : version.name.toList.length = 4 := by
  cases version <;> rfl

theorem name_injective : Function.Injective fun version : Version => version.name.toList := by
  intro v w same
  cases v <;> cases w <;> first | rfl | exact absurd same (by decide)

theorem Names.unique (names : version.Names text) (names' : other.Names text) : version = other :=
  name_injective (Says.unique names names')

/-- The short names are of one length, so a text that begins with two of them begins with one. -/
theorem Fits.unique (fits : version.Fits text) (fits' : other.Fits text) : version = other := by
  obtain ⟨rest, said⟩ := fits
  obtain ⟨rest', said'⟩ := fits'
  have lengths := (length_name version).trans (length_name other).symm
  exact name_injective (List.append_inj_left (said.unique said') lengths)

theorem Names.not_fits (names : version.Names text) : ¬ other.Fits text := by
  rintro ⟨rest, said⟩
  have same := congrArg List.length (Says.unique names said)
  rw [List.length_append, length_name, length_name, List.length_cons] at same
  omega

end Names

/-! ## Finding the version -/

section Find

variable {text : String} {version : Version}

/-- Among the versions the one with a property is found, if no other has it. -/
theorem find?_all {p : Version → Bool} (unique : ∀ v w, p v = true → p w = true → v = w) :
    all.find? p = some version ↔ p version = true := by
  constructor
  · exact List.find?_some
  · intro holds
    have known : version ∈ all := by cases version <;> decide
    obtain ⟨found, same⟩ := Option.isSome_iff_exists.1 (List.find?_isSome.2 ⟨version, known, holds⟩)
    rw [same, unique found version (List.find?_some same) holds]

theorem detect?_eq_some : detect? text = some version ↔ version.Fits text := by
  have begins (v : Version) :
      (v.name.toList ++ ['.']).isPrefixOf (normalized text) = true ↔ v.Fits text := by
    rw [List.isPrefixOf_iff_prefix]
    simp only [Fits, says_iff, List.IsPrefix, List.append_assoc, List.singleton_append, eq_comm]
  rw [detect?, find?_all, begins]
  intro v w here there
  exact ((begins v).1 here).unique ((begins w).1 there)

theorem find?_named :
    (all.find? fun v => normalized text = v.name.toList) = some version ↔ version.Names text := by
  have named (v : Version) : decide (normalized text = v.name.toList) = true ↔ v.Names text := by
    rw [Names, says_iff, decide_eq_true_iff]
  rw [find?_all, named]
  intro v w here there
  exact ((named v).1 here).unique ((named w).1 there)

theorem ofText?_eq_some :
    ofText? text = some version ↔ version.Names text ∨ version.Fits text := by
  rw [ofText?]
  split
  · next found is =>
    have names := find?_named.1 is
    constructor
    · rintro ⟨⟩
      exact .inl names
    · rintro (names' | fits)
      · rw [names.unique names']
      · exact absurd fits names.not_fits
  · next none =>
    rw [detect?_eq_some]
    refine ⟨.inr, ?_⟩
    rintro (names | fits)
    · rw [find?_named.2 names] at none
      cases none
    · exact fits

end Find

section Outcome

variable {text : String} {version : Version} {e : ClientError} {found : Option Version}

theorem orUnsupported_eq_ok : orUnsupported text found = .ok version ↔ found = some version := by
  cases found <;> simp [orUnsupported]

theorem orUnsupported_eq_error :
    orUnsupported text found = .error e ↔
      e = .unsupportedVersion text ∧ ∀ version, found ≠ some version := by
  cases found <;> simp [orUnsupported, eq_comm]

theorem detect_eq_ok : detect text = .ok version ↔ version.Fits text := by
  rw [detect, orUnsupported_eq_ok, detect?_eq_some]

theorem detect_eq_error :
    detect text = .error e ↔
      e = .unsupportedVersion text ∧ ∀ version : Version, ¬ version.Fits text := by
  simp only [detect, orUnsupported_eq_error, Ne, detect?_eq_some]

theorem parse_eq_ok : parse text = .ok version ↔ version.Names text ∨ version.Fits text := by
  rw [parse, orUnsupported_eq_ok, ofText?_eq_some]

theorem parse_eq_error :
    parse text = .error e ↔ e = .unsupportedVersion text ∧
      ∀ version : Version, ¬ version.Names text ∧ ¬ version.Fits text := by
  simp only [parse, orUnsupported_eq_error, Ne, ofText?_eq_some, not_or]

theorem parse_toString (version : Version) : parse (toString version) = .ok version := by
  cases version <;> rfl

end Outcome

end Version

/-! ## Asking a node -/

namespace Client

variable {σ : Type} {status : Json} {text : String}

/-- The version text that an answer to `status` reports. -/
def Reports (status : Json) (text : String) : Prop :=
  ∃ info, status.member? "node_info" = some info ∧ info.member? "version" = some (.string text)

theorem versionText?_eq_some : versionText? status = some text ↔ Reports status text := by
  rw [versionText?, Reports]
  cases status.member? "node_info" with
  | none => simp
  | some info =>
    simp only [Option.bind_some, Option.some.injEq, exists_eq_left']
    cases info.member? "version" with
    | none => simp
    | some version => cases version <;> simp

theorem Reports.ofStatus (reports : Reports status text) :
    ofStatus status = (Version.detect text).map Client.mk := by
  rw [Client.ofStatus, versionText?_eq_some.2 reports]

theorem ofStatus_of_silent (silent : ∀ text, ¬ Reports status text) :
    ofStatus status = .error (.decode (.missingField "node_info.version")) := by
  have none : versionText? status = none :=
    Option.eq_none_iff_forall_ne_some.2 fun text found => silent text (versionText?_eq_some.1 found)
  rw [ofStatus, none]

theorem ofStatus_eq_ok {version : Version} :
    ofStatus status = .ok ⟨version⟩ ↔
      ∃ text, Reports status text ∧ Version.detect text = .ok version := by
  simp only [← versionText?_eq_some]
  rw [ofStatus]
  cases versionText? status with
  | none => simp
  | some text => cases read : Version.detect text <;> simp [Except.map, read]

/-- Answers that report the same text, or none, bind the same client. -/
theorem ofStatus_congr {other : Json} (alike : ∀ text, Reports status text ↔ Reports other text) :
    ofStatus status = ofStatus other := by
  by_cases reported : ∃ text, Reports status text
  · obtain ⟨text, reports⟩ := reported
    rw [reports.ofStatus, ((alike text).1 reports).ofStatus]
  · have silent : ∀ text, ¬ Reports status text := not_exists.1 reported
    rw [ofStatus_of_silent silent,
      ofStatus_of_silent fun text reports => silent text ((alike text).2 reports)]

theorem run_detect {execute : Method → Params → σ → Except RpcError Json × σ} {s : σ}
    (answered : (execute .status Params.none s).1 = .ok status) :
    (detect.run execute s).1 = ofStatus status := by
  simp only [detect, Exchange.run, answered]

end Client

/-- The detection of versions never guesses. A text is that of a version exactly if what it says,
without the white space around it and without one leading `v`, is the short name of the version, a
dot and any text. It fits at most one version, and a text that fits none is refused as it stands.
Somebody who names a version may also give the short name alone, as it is printed; otherwise the two
agree. And a client is bound to a version exactly if the answer of its node reports a text of that
version; nothing else in the answer counts, whatever transport brings it. -/
theorem detection_never_guesses :
    (∀ text version, Version.detect text = .ok version ↔
      ∃ rest, Version.Says text (version.name.toList ++ '.' :: rest)) ∧
    (∀ text (version other : Version), version.Fits text → other.Fits text → version = other) ∧
    (∀ text e, Version.detect text = .error e ↔
      e = .unsupportedVersion text ∧ ∀ version : Version, ¬ version.Fits text) ∧
    (∀ text version, Version.detect text = .ok version → Version.parse text = .ok version) ∧
    (∀ text e, Version.detect text = .error e →
      ∀ version, Version.parse text = .ok version ↔ Version.Says text version.name.toList) ∧
    (∀ text e, Version.parse text = .error e ↔ e = .unsupportedVersion text ∧
      ∀ version : Version, ¬ version.Names text ∧ ¬ version.Fits text) ∧
    (∀ version : Version, Version.parse (toString version) = .ok version) ∧
    ∀ (σ : Type) (execute : Method → Params → σ → Except RpcError Json × σ) (s : σ) (status : Json),
      (execute .status Params.none s).1 = .ok status →
      (∀ version, (Client.detect.run execute s).1 = .ok ⟨version⟩ ↔
        ∃ text, Client.Reports status text ∧ Version.detect text = .ok version) ∧
      (∀ text e, Client.Reports status text → Version.detect text = .error e →
        (Client.detect.run execute s).1 = .error e) ∧
      ((∀ text, ¬ Client.Reports status text) →
        (Client.detect.run execute s).1 = .error (.decode (.missingField "node_info.version"))) ∧
      ∀ (τ : Type) (execute' : Method → Params → τ → Except RpcError Json × τ) (t : τ)
        (other : Json),
        (execute' .status Params.none t).1 = .ok other →
        (∀ text, Client.Reports status text ↔ Client.Reports other text) →
        (Client.detect.run execute' t).1 = (Client.detect.run execute s).1 := by
  refine ⟨fun _ _ => Version.detect_eq_ok, fun _ _ _ => Version.Fits.unique,
    fun _ _ => Version.detect_eq_error, ?_, ?_, fun _ _ => Version.parse_eq_error,
    Version.parse_toString, ?_⟩
  · intro text version detected
    exact Version.parse_eq_ok.2 (.inr (Version.detect_eq_ok.1 detected))
  · intro text e unknown version
    have unfit := (Version.detect_eq_error.1 unknown).2 version
    rw [Version.parse_eq_ok, or_iff_left unfit]
    rfl
  · intro σ execute s status answered
    rw [Client.run_detect answered]
    refine ⟨fun version => Client.ofStatus_eq_ok, ?_, Client.ofStatus_of_silent, ?_⟩
    · intro text e reports unknown
      rw [reports.ofStatus, unknown]
      rfl
    · intro τ execute' t other answered' alike
      rw [Client.run_detect answered', Client.ofStatus_congr alike]

/-- A text with white space and a mark in the answer of a node, and a neighbour of a short name that
is refused. -/
theorem marked_version_is_detected :
    ((Client.detect.run (fun _ _ n => (.ok (.ofMembers [("node_info", .ofMembers
        [("version", .string " v0.25.1-dev\n"), ("other", .null)])]), n + 1)) 0).1 =
      .ok ⟨.v0_25⟩) ∧
    Version.parse " v0.25.1-dev\n" = .ok .v0_25 ∧ Version.parse "vv0.25" ≠ .ok .v0_25 := by
  obtain ⟨detected, -, -, agrees, names, -, -, client⟩ := detection_never_guesses
  have said : Version.detect " v0.25.1-dev\n" = .ok .v0_25 :=
    (detected _ _).2 ⟨"1-dev".toList, Version.says_iff.2 (by decide)⟩
  refine ⟨?_, agrees _ _ said, ?_⟩
  · exact ((client Nat _ 0 _ rfl).1 .v0_25).2 ⟨_, ⟨_, rfl, rfl⟩, said⟩
  · rw [Ne, names "vv0.25" (.unsupportedVersion "vv0.25") (by decide), Version.says_iff]
    decide

end Tendermint
