import Tendermint.Proofs.Url.Authority
import Tendermint.Proofs.Url.Path

/-!
# Tendermint.Proofs.Url.Normal

URLs with a special scheme are in their normal form once they are read. Every part of such a URL
reads back from its own text, and no part holds what ends it, so the written URL reads back as the
URL it was written from.

* `Url.IsNormal`, `Url.isNormal_of_ofText`: the URLs that are read.
* `Url.ofText_write`: a URL reads back from its text.
* `Url.visible_write`: what a written URL looks like.
-/

namespace Tendermint.Url

variable {url : Url} {scheme text rest : List Char} {query fragment : Option (List Char)} {c : Char}

/-- A URL with a special scheme as it is kept. -/
structure IsNormal (url : Url) : Prop where
  scheme : kindOf url.scheme = .special
  authority : Authority.IsNormal url.scheme ⟨url.credentials, url.host, url.port⟩
  path : IsPath url.path
  query : ∀ q, url.query = some q → Shown specialQuerySet q
  fragment : ∀ f, url.fragment = some f → Shown fragmentSet f

/-! ## Schemes -/

theorem mem_specialSchemes (special : kindOf scheme = .special) :
    ∃ name port, (name, port) ∈ specialSchemes ∧ scheme = name.toList := by
  unfold kindOf at special
  split at special
  · next found =>
    obtain ⟨port, found⟩ := Option.isSome_iff_exists.1 found
    obtain ⟨before, behind, whole, -⟩ := List.lookup_eq_some_iff.1 found
    refine ⟨String.ofList scheme, port, ?_, String.toList_ofList.symm⟩
    simp [whole]
  · split at special <;> cases special

/-- The characters of a special scheme. -/
theorem mem_scheme (special : kindOf scheme = .special) (h : c ∈ scheme) :
    c.isAlpha = true ∧ c.toLower = c ∧ isSchemeChar c = true ∧ 33 ≤ c.toNat ∧ c.toNat < 127 := by
  have all : ∀ entry ∈ specialSchemes, ∀ c ∈ entry.1.toList, c.isAlpha = true ∧ c.toLower = c ∧
      isSchemeChar c = true ∧ 33 ≤ c.toNat ∧ c.toNat < 127 := by
    simp [specialSchemes, isSchemeChar]
  obtain ⟨name, port, inside, rfl⟩ := mem_specialSchemes special
  exact all (name, port) inside c h

theorem scheme?_special (special : kindOf scheme = .special) (rest : List Char) :
    scheme? (scheme ++ ':' :: rest) = some (scheme, rest) := by
  have all : ∀ c ∈ scheme, isSchemeChar c = true := by
    intro c inside
    exact (mem_scheme special inside).2.2.1
  have lower : scheme.map Char.toLower = scheme :=
    Text.map_eq_self fun c inside => (mem_scheme special inside).2.1
  have stop : isSchemeChar ':' = false := by decide
  cases scheme with
  | nil => exact absurd special (by decide)
  | cons first others =>
    have letter := (mem_scheme special List.mem_cons_self).1
    have kept : (first :: (others ++ ':' :: rest)).takeWhile isSchemeChar = first :: others :=
      takeWhile_append_stop all stop
    have left : (first :: (others ++ ':' :: rest)).dropWhile isSchemeChar = ':' :: rest :=
      dropWhile_append_stop all stop
    rw [List.cons_append, scheme?, if_pos letter, kept, left, lower]
    rfl

/-! ## Query and fragment -/

/-- A query and a fragment behind their marks. -/
def tailText (query fragment : Option (List Char)) : List Char :=
  (query.map ('?' :: ·)).getD [] ++ (fragment.map ('#' :: ·)).getD []

theorem pathText_tail (path : IsPath text) : pathText (text ++ tailText query fragment) = text := by
  have inside : ∀ c ∈ text, (decide (c ≠ '?') && decide (c ≠ '#')) = true := by
    intro c h
    simp [(mem_path path h).2]
  cases query with
  | some q => exact takeWhile_append_stop inside (by decide)
  | none =>
    cases fragment with
    | some f => exact takeWhile_append_stop inside (by decide)
    | none => simpa [pathText, tailText] using List.takeWhile_eq_self_iff.2 inside

theorem queryAndFragment_tail (path : IsPath text)
    (shownQuery : ∀ q, query = some q → Shown specialQuerySet q)
    (shownFragment : ∀ f, fragment = some f → Shown fragmentSet f) :
    queryAndFragment true (text ++ tailText query fragment) = (query, fragment) := by
  have front : '#' ∉ text ++ (query.map ('?' :: ·)).getD [] := by
    intro mark
    obtain mark | mark := List.mem_append.1 mark
    · exact (mem_path path mark).2.2 rfl
    · cases query with
      | none => cases mark
      | some q =>
        obtain mark | mark := List.mem_cons.1 mark
        · cases mark
        · exact (shownQuery q rfl '#' mark).2.2 (by decide)
  have cut : (text ++ tailText query fragment).takeWhile (· ≠ '#') =
        text ++ (query.map ('?' :: ·)).getD [] ∧
      (text ++ tailText query fragment).dropWhile (· ≠ '#') =
        (fragment.map ('#' :: ·)).getD [] := by
    rw [tailText, ← List.append_assoc]
    cases fragment with
    | none =>
      rw [Option.map_none, Option.getD_none, List.append_nil, takeWhile_ne_self front,
        dropWhile_ne_self front]
      exact ⟨rfl, rfl⟩
    | some f => exact ⟨takeWhile_ne front f, dropWhile_ne front f⟩
  have unmarked : '?' ∉ text := fun mark => (mem_path path mark).2.1 rfl
  have behind : (text ++ (query.map ('?' :: ·)).getD []).dropWhile (· ≠ '?') =
      (query.map ('?' :: ·)).getD [] := by
    cases query with
    | none => simpa using dropWhile_ne_self unmarked
    | some q => exact dropWhile_ne unmarked q
  rw [queryAndFragment, cut.1, cut.2, behind]
  cases query <;> cases fragment <;>
    simp [encode_of_shown, shownQuery, shownFragment]

/-- Query and fragment are encoded once. -/
theorem shown_queryAndFragment (text : List Char) :
    (∀ q, (queryAndFragment true text).1 = some q → Shown specialQuerySet q) ∧
      ∀ f, (queryAndFragment true text).2 = some f → Shown fragmentSet f := by
  simp only [queryAndFragment]
  constructor
  · intro q found
    split at found
    · cases found
    · cases found
      exact shown_encode settled_specialQuerySet _
  · intro f found
    split at found
    · cases found
    · cases found
      exact shown_encode settled_fragmentSet _

/-! ## URLs -/

theorem isNormal_assemble {a : Authority} (special : kindOf scheme = .special)
    (authority : a.IsNormal scheme) : (assemble scheme true a text).IsNormal where
  scheme := special
  authority := authority
  path := isPath_normalPath _
  query := (shown_queryAndFragment text).1
  fragment := (shown_queryAndFragment text).2

theorem assembled_of_map {special : Bool} {parsed : Except UrlError (Authority × List Char)}
    (read : (parsed.map fun (a, rest) => assemble scheme special a rest) = .ok url) :
    ∃ a rest, parsed = .ok (a, rest) ∧ url = assemble scheme special a rest := by
  cases parsed with
  | error e => cases read
  | ok result =>
    cases read
    exact ⟨result.1, result.2, rfl, rfl⟩

theorem scheme_of_ofScheme (read : ofScheme scheme rest = .ok url) : url.scheme = scheme := by
  have parsed {special : Bool} {parsed : Except UrlError (Authority × List Char)}
      (read : (parsed.map fun (a, rest) => assemble scheme special a rest) = .ok url) :
      url.scheme = scheme := by
    obtain ⟨a, rest, -, rfl⟩ := assembled_of_map read
    rfl
  unfold ofScheme at read
  split at read
  · exact parsed read
  · split at read
    · split at read
      · exact parsed read
      · cases read
        rfl
    · cases read
      rfl
  · split at read
    · exact parsed read
    · cases read
      rfl

theorem isNormal_of_ofText {text : String} (read : ofText text = .ok url)
    (special : kindOf url.scheme = .special) : url.IsNormal := by
  unfold ofText at read
  split at read
  · cases read
  · next scheme rest found =>
    rw [scheme_of_ofScheme read] at special
    unfold ofScheme at read
    rw [special] at read
    obtain ⟨a, rest, parsed, rfl⟩ := assembled_of_map read
    exact isNormal_assemble special (isNormal_of_authority parsed)

/-! ## The text of a URL -/

theorem toList_write (url : Url) : url.write.toList =
    url.scheme ++ ':' :: '/' :: '/' ::
      (Authority.written ⟨url.credentials, url.host, url.port⟩ ++
        (url.path ++ tailText url.query url.fragment)) := by
  obtain ⟨scheme, credentials, host, port, path, query, fragment⟩ := url
  cases host <;> cases port <;> cases query <;> cases fragment <;>
    simp [write, Authority.written, portText, tailText]

theorem visible_marked {mark : Char} {set : EncodeSet} {part : Option (List Char)}
    (visible : 33 ≤ mark.toNat ∧ mark.toNat < 127) (blank : ' ' ∈ set)
    (shown : ∀ p, part = some p → Shown set p) (h : c ∈ (part.map (mark :: ·)).getD []) :
    33 ≤ c.toNat ∧ c.toNat < 127 := by
  cases part with
  | none => cases h
  | some p =>
    obtain rfl | h := List.mem_cons.1 h
    · exact visible
    · exact visible_of_shown blank (shown p rfl) c h

theorem visible_write (normal : url.IsNormal) :
    ∀ c ∈ url.write.toList, 33 ≤ c.toNat ∧ c.toNat < 127 := by
  intro c inside
  simp only [toList_write, tailText, List.mem_append, List.mem_cons] at inside
  obtain inside | rfl | rfl | rfl | inside | inside | inside | inside := inside
  · exact (mem_scheme normal.scheme inside).2.2.2
  · decide
  · decide
  · decide
  · obtain inner | rfl := mem_written normal.authority inside
    · exact inner.1
    · decide
  · exact (mem_path normal.path inside).1
  · exact visible_marked (by decide) (by decide) normal.query inside
  · exact visible_marked (by decide) (by decide) normal.fragment inside

theorem cleaned_visible (visible : ∀ c ∈ text, 33 ≤ c.toNat ∧ c.toNat < 127) :
    cleaned text = text := by
  have outer (part : List Char) (all : ∀ c ∈ part, 33 ≤ c.toNat ∧ c.toNat < 127) :
      part.dropWhile (fun c => decide (c.toNat ≤ 32)) = part := by
    cases part with
    | nil => rfl
    | cons c rest =>
      have := all c List.mem_cons_self
      exact List.dropWhile_cons_of_neg (by simp; omega)
  have kept : ∀ c ∈ text, (c ≠ '\t' && c ≠ '\n' && c ≠ '\r') = true := by
    intro c inside
    have := visible c inside
    simp only [Bool.and_eq_true, decide_eq_true_eq]
    refine ⟨⟨?_, ?_⟩, ?_⟩ <;> rintro rfl <;> revert this <;> decide
  rw [cleaned, outer text visible, outer text.reverse (by simpa using visible),
    List.reverse_reverse, List.filter_eq_self.2 kept]

/-- No slash but those of its mark stands before an authority. -/
theorem dropWhile_isSlash {a : Authority} (normal : a.IsNormal scheme) (rest : List Char) :
    ('/' :: '/' :: (a.written ++ rest)).dropWhile isSlash = a.written ++ rest := by
  obtain ⟨host, kept, normalHost⟩ := normal.host
  have filled : a.written ≠ [] := by
    simp [Authority.written, kept, Host.text_ne_nil normalHost]
  obtain ⟨c, more, written⟩ := List.exists_cons_of_ne_nil filled
  have first : isSlash c = false := by
    obtain inner | rfl := mem_written normal (written ▸ List.mem_cons_self)
    · have outside := inner.2
      simp only [List.mem_cons, not_or] at outside
      simp [isSlash, outside]
    · decide
  rw [written, List.cons_append, List.dropWhile_cons_of_pos (by decide),
    List.dropWhile_cons_of_pos (by decide), List.dropWhile_cons_of_neg (by simp [first])]

/-- A URL reads back from its text. -/
theorem ofText_write (normal : url.IsNormal) : ofText url.write = .ok url := by
  obtain ⟨rest, slash⟩ := normal.path.eq_cons
  have authority := authority_written normal.authority (rest ++ tailText url.query url.fragment)
  rw [← List.cons_append, ← slash] at authority
  rw [ofText, cleaned_visible (visible_write normal), toList_write, scheme?_special normal.scheme]
  dsimp only
  unfold ofScheme
  rw [normal.scheme]
  dsimp only
  rw [dropWhile_isSlash normal.authority, authority]
  simp only [Except.map, assemble, pathText_tail normal.path, normalPath_eq_self normal.path,
    queryAndFragment_tail normal.path normal.query normal.fragment]

end Tendermint.Url
