import Tendermint.Proofs.Url.Host

/-!
# Tendermint.Proofs.Url.Authority

The authority of a URL with a special scheme: credentials, host and port. Each of them is brought
into its normal form once, and the three are told apart again by the marks between them.

* `Authority.IsNormal`, `isNormal_of_authority`: the authorities that are read.
* `authority_text`: an authority reads back from its text.
-/

namespace Tendermint.Url

variable {text name password both place digits scheme rest : List Char} {c : Char} {n : Nat}

/-! ## Credentials -/

/-- Name and password; an empty password is left out with its colon. -/
def pair (name password : List Char) : List Char :=
  if password.isEmpty then name else name ++ ':' :: password

/-- Credentials as they are kept, with their `@`. -/
def IsCredentials (text : List Char) : Prop :=
  text = [] ∨ ∃ name password, pair name password ≠ [] ∧ text = pair name password ++ ['@'] ∧
    Shown userinfoSet name ∧ Shown userinfoSet password

theorem encodeCredentials_eq (text : List Char) : encodeCredentials text =
    let both := pair (encode userinfoSet (text.takeWhile (· ≠ ':')))
      (encode userinfoSet ((text.dropWhile (· ≠ ':')).drop 1))
    if both.isEmpty then [] else both ++ ['@'] := rfl

theorem isCredentials_encodeCredentials (text : List Char) :
    IsCredentials (encodeCredentials text) := by
  rw [encodeCredentials_eq]
  dsimp only
  split
  · exact .inl rfl
  · next some =>
    refine .inr ⟨_, _, ?_, rfl, shown_encode settled_userinfoSet _,
      shown_encode settled_userinfoSet _⟩
    simpa using some

theorem encodeCredentials_pair (some : pair name password ≠ []) (shownName : Shown userinfoSet name)
    (shownPassword : Shown userinfoSet password) :
    encodeCredentials (pair name password) = pair name password ++ ['@'] := by
  have colon : ':' ∉ name := fun mark => (shownName ':' mark).2.2 (by decide)
  have parts : (pair name password).takeWhile (· ≠ ':') = name ∧
      ((pair name password).dropWhile (· ≠ ':')).drop 1 = password := by
    cases password with
    | nil =>
      have alone : pair name [] = name := rfl
      rw [alone, takeWhile_ne_self colon, dropWhile_ne_self colon]
      exact ⟨rfl, rfl⟩
    | cons c password =>
      have both : pair name (c :: password) = name ++ ':' :: c :: password := rfl
      rw [both, takeWhile_ne colon, dropWhile_ne colon]
      exact ⟨rfl, rfl⟩
  rw [encodeCredentials_eq, parts.1, parts.2, encode_of_shown shownName,
    encode_of_shown shownPassword]
  dsimp only
  rw [if_neg (by simpa using some)]

theorem mem_pair (shownName : Shown userinfoSet name) (shownPassword : Shown userinfoSet password)
    (h : c ∈ pair name password) : IsInner c := by
  have shown (part : List Char) (all : Shown userinfoSet part) (inside : c ∈ part) :
      IsInner c := by
    refine ⟨visible_of_shown (by decide) all c inside, fun mark => ?_⟩
    have marks : ∀ c ∈ ['/', '?', '#', '\\', '@'], c ∈ userinfoSet := by
      simp [userinfoSet, pathSet]
    exact (all c inside).2.2 (marks c mark)
  unfold pair at h
  split at h
  · exact shown name shownName h
  · obtain h | h := List.mem_append.1 h
    · exact shown name shownName h
    · obtain rfl | h := List.mem_cons.1 h
      · decide
      · exact shown password shownPassword h

theorem splitCredentials_none (none : '@' ∉ text) : splitCredentials text = (.none, text) := by
  have mirror : '@' ∉ text.reverse := by simpa using none
  simp only [splitCredentials, dropWhile_ne_self mirror]

/-- The last `@` ends the credentials. -/
theorem splitCredentials_some (none : '@' ∉ place) :
    splitCredentials (both ++ '@' :: place) = (some both, place) := by
  have mirror : '@' ∉ place.reverse := by simpa using none
  have reversed : (both ++ '@' :: place).reverse = place.reverse ++ '@' :: both.reverse := by simp
  simp only [splitCredentials, reversed, dropWhile_ne mirror, takeWhile_ne mirror,
    List.reverse_reverse]

/-! ## Ports -/

def IsPort (scheme : List Char) (n : Nat) : Prop := n ≤ 65535 ∧ defaultPort? scheme ≠ some n

theorem readPort_digits (port : IsPort scheme n) :
    readPort scheme (Nat.toDigits 10 n) = .ok (some n, []) := by
  have figures : ∀ c ∈ Nat.toDigits 10 n, ('0' ≤ c && c ≤ '9') = true := by
    intro c inside
    simpa using Integer.bounds_of_isDigit (Integer.isDigit_toDigits n c inside)
  have value : Host.numberIn? 10 (Nat.toDigits 10 n) = some n :=
    Host.numberIn?_toDigits (by decide) (by decide) n
  simp [readPort, List.takeWhile_eq_self_iff.2 figures, List.dropWhile_eq_nil_iff.2 figures, value,
    Nat.not_lt.2 port.1, port.2]

theorem isPort_of_readPort (read : readPort scheme text = .ok (some n, rest)) :
    IsPort scheme n := by
  have kept {value : Nat} {blank : Bool} (fits : value ≤ 65535)
      (same : (if (blank || decide (defaultPort? scheme = some value)) = true then none
        else some value) = some n) : IsPort scheme n := by
    simp only [Option.ite_none_left_eq_some, Option.some.injEq, Bool.or_eq_true,
      decide_eq_true_eq, not_or] at same
    obtain ⟨⟨-, other⟩, rfl⟩ := same
    exact ⟨fits, other⟩
  simp only [readPort] at read
  split at read
  · split at read
    · cases read
    · next inside =>
      simp only [Except.ok.injEq, Prod.mk.injEq] at read
      exact kept (by omega) read.1
  · split at read
    · cases read
    · next inside =>
      simp only [Except.ok.injEq, Prod.mk.injEq] at read
      exact kept (by omega) read.1

/-! ## Authorities -/

/-- An authority as it is kept. -/
structure Authority.IsNormal (scheme : List Char) (a : Authority) : Prop where
  credentials : IsCredentials a.credentials
  host : ∃ host, a.host = some host ∧ host.IsNormal
  port : ∀ n, a.port = some n → IsPort scheme n

/-- A port behind its colon. -/
def portText : Option Nat → List Char
  | none => []
  | some n => ':' :: Nat.toDigits 10 n

def Authority.written (a : Authority) : List Char :=
  a.credentials ++ ((a.host.map Host.text).getD [] ++ portText a.port)

theorem mem_portText {port : Option Nat} (h : c ∈ portText port) : IsInner c := by
  cases port with
  | none => cases h
  | some n =>
    obtain rfl | h := List.mem_cons.1 h
    · decide
    · exact isInner_of_isDigit (Integer.isDigit_toDigits n c h)

theorem mem_written {a : Authority} (normal : a.IsNormal scheme) (h : c ∈ a.written) :
    IsInner c ∨ c = '@' := by
  obtain ⟨host, kept, normalHost⟩ := normal.host
  simp only [Authority.written, kept, Option.map_some, Option.getD_some, List.mem_append] at h
  obtain h | h | h := h
  · obtain none | ⟨name, password, -, text, shownName, shownPassword⟩ := normal.credentials
    · rw [none] at h
      cases h
    · rw [text, List.mem_append, List.mem_singleton] at h
      exact h.imp (mem_pair shownName shownPassword) id
  · exact .inl (Host.mem_text normalHost h)
  · exact .inl (mem_portText h)

theorem isNormal_of_authorityHost {host : Option Host}
    (read : authorityHost true text rest = .ok host) : ∃ h, host = some h ∧ h.IsNormal := by
  rw [authorityHost, if_pos rfl] at read
  split at read
  · cases read
  · cases found : Host.ofSpecial text with
    | error e =>
      rw [found] at read
      cases read
    | ok h =>
      rw [found] at read
      cases read
      exact ⟨h, rfl, Host.isNormal_of_ofSpecial found⟩

theorem isNormal_of_authority {a : Authority} (read : authority scheme true text = .ok (a, rest)) :
    a.IsNormal scheme := by
  simp only [authority] at read
  split at read
  · cases read
  · split at read
    · cases read
    · next host found =>
      have normalHost := isNormal_of_authorityHost found
      split at read
      · split at read
        · cases read
        · cases read
          exact ⟨isCredentials_encodeCredentials _, normalHost, nofun⟩
      · split at read
        · cases read
        · next number after digits =>
          cases read
          refine ⟨isCredentials_encodeCredentials _, normalHost, ?_⟩
          rintro n rfl
          exact isPort_of_readPort digits

/-- The credentials of an authority, and what stands behind them. -/
theorem splitCredentials_written {host : Host} {credentials : List Char} {port : Option Nat}
    (normal : Authority.IsNormal scheme ⟨credentials, some host, port⟩) :
    ∃ user, splitCredentials (Authority.written ⟨credentials, some host, port⟩) =
      (user, host.text ++ portText port) ∧ encodeCredentials (user.getD []) = credentials := by
  have place : '@' ∉ host.text ++ portText port := by
    obtain ⟨_, ⟨⟩, normalHost⟩ := normal.host
    intro mark
    have inner : IsInner '@' :=
      (List.mem_append.1 mark).elim (Host.mem_text normalHost) mem_portText
    exact absurd inner (by decide)
  obtain none | ⟨name, password, some, text, shownName, shownPassword⟩ := normal.credentials
  · dsimp only at none
    subst none
    exact ⟨.none, splitCredentials_none place, rfl⟩
  · dsimp only at text
    subst text
    refine ⟨.some (pair name password), ?_, encodeCredentials_pair some shownName shownPassword⟩
    simpa [Authority.written] using splitCredentials_some place

/-- An authority reads back from its text. -/
theorem authority_written {a : Authority} (normal : a.IsNormal scheme) (rest : List Char) :
    authority scheme true (a.written ++ '/' :: rest) = .ok (a, '/' :: rest) := by
  have inner : ∀ c ∈ a.written, (!endsAuthority true c) = true := by
    intro c inside
    have marks : ∀ c ∈ ['/', '?', '#', '\\'], c ∈ ['/', '?', '#', '\\', '@'] := by simp
    obtain inner | rfl := mem_written normal inside
    · have outside : c ∉ ['/', '?', '#', '\\'] := fun mark => inner.2 (marks c mark)
      simpa [endsAuthority, and_assoc] using outside
    · decide
  have slash : (!endsAuthority true '/') = false := by decide
  obtain ⟨host, kept, normalHost⟩ := normal.host
  obtain ⟨credentials, _, port⟩ := a
  dsimp only at kept
  subst kept
  obtain ⟨user, split, encoded⟩ := splitCredentials_written normal
  have filled : host.text ++ portText port ≠ [] :=
    List.append_ne_nil_of_left_ne_nil (Host.text_ne_nil normalHost) _
  have apart : splitPort false (host.text ++ portText port) = (host.text, portText port) := by
    refine Host.splitPort_text normalHost ?_
    cases port <;> simp [portText, splitPort]
  have read : authorityHost true host.text (portText port) = .ok (some host) := by
    rw [authorityHost, if_pos rfl, if_neg (by simpa using Host.text_ne_nil normalHost),
      Host.ofSpecial_text normalHost]
    rfl
  simp only [authority, takeWhile_append_stop inner slash, dropWhile_append_stop inner slash, split,
    filled, apart, read, encoded, false_and, and_false, if_false]
  cases port with
  | none => rfl
  | some n =>
    simp only [portText, readPort_digits (normal.port n rfl), List.nil_append]

end Tendermint.Url
