import Tendermint.Client.Config
import Tendermint.Proofs.Text.Forms
import Tendermint.Proofs.Url.Normal

/-!
# Tendermint.Proofs.Wire.Endpoint

Connection strings are read once. What an endpoint is kept as is a connection string itself, and it
is read as the endpoint it is kept in: no scheme is put before it and no path behind it a second
time. So a transport opens just the endpoint that its connection string names.

* `Endpoint.ofText_url`: an endpoint reads back from its URL.
* `endpoints_are_stable`.
-/

namespace Tendermint

namespace Endpoint

/-- The URL that an endpoint is kept as. -/
def url : Endpoint → String
  | .http url => url
  | .webSocket url => url

variable {text connection given : String} {endpoint : Endpoint} {u : Url}

/-! ## The scheme in front -/

theorem occursIn_append (part front rest : List Char) :
    occursIn part (front ++ (part ++ rest)) = true := by
  induction front with
  | nil =>
    have here : part.isPrefixOf (part ++ rest) = true :=
      List.isPrefixOf_iff_prefix.2 (List.prefix_append part rest)
    cases whole : part ++ rest with
    | nil => simp [occursIn, (List.append_eq_nil_iff.1 whole).1]
    | cons c more =>
      rw [whole] at here
      simp [occursIn, here]
  | cons c front ih => simp [occursIn, ih]

theorem withScheme_of_mark (front rest : List Char)
    (whole : text.toList = front ++ (schemeMark ++ rest)) : withScheme text = text := by
  rw [withScheme, whole, if_pos (occursIn_append schemeMark front rest)]

theorem withScheme_withScheme (connection : String) :
    withScheme (withScheme connection) = withScheme connection := by
  by_cases marked : occursIn schemeMark connection.toList = true
  · have kept : withScheme connection = connection := if_pos marked
    rw [kept, kept]
  · have put : withScheme connection = "http://" ++ connection := if_neg marked
    rw [put]
    exact withScheme_of_mark "http".toList connection.toList (by simp [schemeMark])

/-- White space comes neither before nor behind the scheme that is put in front. -/
theorem trimmed_withScheme (trimmed : Text.Trimmed connection.toList) :
    Text.Trimmed (withScheme connection).toList := by
  unfold withScheme
  split
  · exact trimmed
  · have solid : ∀ c ∈ "http://".toList, Text.isBlank c = false := by simp [Text.isBlank]
    rw [String.toList_append]
    constructor
    · intro c first
      exact solid c (List.mem_of_head? (by simpa using first))
    · intro c last
      rw [List.getLast?_append, Option.or_eq_some_iff] at last
      obtain last | ⟨-, last⟩ := last
      · exact trimmed.last c last
      · exact solid c (List.mem_of_getLast? last)

/-! ## The path behind -/

theorem withPath_path (u : Url) : (withPath u).path ≠ [] ∧ (withPath u).path ≠ ['/'] := by
  unfold withPath
  split
  · exact (by decide : webSocketPath ≠ [] ∧ webSocketPath ≠ ['/'])
  · next other => exact not_or.1 other

theorem withPath_withPath (u : Url) : withPath (withPath u) = withPath u :=
  if_neg (not_or.2 (withPath_path u))

theorem isPath_webSocketPath : Url.IsPath webSocketPath := by
  have segment : Url.IsSegment "websocket".toList := by
    refine ⟨?_, ?_, ?_, ?_, ?_⟩ <;> decide +kernel
  exact ⟨["websocket".toList], nofun, by simpa using segment, by decide⟩

theorem withPath_cases (u : Url) :
    withPath u = u ∨ withPath u = { u with path := webSocketPath } := by
  unfold withPath
  split
  · exact .inr rfl
  · exact .inl rfl

theorem isNormal_withPath (normal : u.IsNormal) : (withPath u).IsNormal := by
  obtain same | put := withPath_cases u
  · rwa [same]
  · rw [put]
    exact { normal with path := isPath_webSocketPath }

theorem withScheme_write (u : Url) : withScheme u.write = u.write :=
  withScheme_of_mark u.scheme _ (Url.toList_write u)

theorem trimmed_write (normal : u.IsNormal) : Text.Trimmed u.write.toList := by
  refine Text.trimmed_of_solid ?_
  intro c inside
  have visible := Url.visible_write normal c inside
  simp only [Text.isBlank, Bool.or_eq_false_iff, Bool.and_eq_false_iff, decide_eq_false_iff_not,
    beq_eq_false_iff_ne]
  omega

/-! ## Reading an endpoint -/

/-- What a connection string is read as. -/
theorem ofText_cases (read : ofText text = .ok endpoint) :
    ∃ given u, Text.Trimmed given.toList ∧ withScheme given = given ∧ Url.ofText given = .ok u ∧
      u.host ≠ none ∧
      (String.ofList u.scheme ∈ ["http", "https"] ∧ endpoint = .http given ∨
        String.ofList u.scheme ∈ ["ws", "wss"] ∧ endpoint = .webSocket (withPath u).write) := by
  have trimmed : Text.Trimmed (String.ofList (Text.trim text.toList)).toList := by
    rw [String.toList_ofList]
    exact Text.trimmed_trim text.toList
  -- the defining equation is slow to derive: that runs the reader on a variable
  delta ofText at read
  dsimp only at read
  split at read
  · cases read
  · next u parsed =>
    refine ⟨_, u, trimmed_withScheme trimmed, withScheme_withScheme _, parsed, ?_⟩
    rw [ofUrl] at read
    split at read
    · cases read
    · next host =>
      refine ⟨host, ?_⟩
      dsimp only at read
      split at read
      · next scheme =>
        cases read
        exact .inl ⟨by simpa using scheme, rfl⟩
      · split at read
        · next scheme =>
          cases read
          exact .inr ⟨by simpa using scheme, rfl⟩
        · cases read

/-- A text with a scheme and without white space around it is read as it is. -/
theorem ofText_of_given (trimmed : Text.Trimmed given.toList) (schemed : withScheme given = given)
    (parsed : Url.ofText given = .ok u) : ofText given = ofUrl given given u := by
  delta ofText
  rw [trimmed.trim_eq, String.ofList_toList]
  dsimp only
  rw [schemed, parsed]

theorem isNormal_of_webSocket (parsed : Url.ofText given = .ok u)
    (scheme : String.ofList u.scheme ∈ ["ws", "wss"]) : u.IsNormal := by
  have listed : (Url.defaultPort? u.scheme).isSome = true := by
    simp only [List.mem_cons, List.not_mem_nil, or_false] at scheme
    obtain name | name := scheme <;> rw [Url.defaultPort?, name] <;> decide
  exact Url.isNormal_of_ofText parsed (if_pos listed)

/-- What an endpoint is kept as is read as that endpoint. -/
theorem ofText_url (read : ofText text = .ok endpoint) : ofText endpoint.url = .ok endpoint := by
  obtain ⟨given, u, trimmed, schemed, parsed, host, ⟨scheme, rfl⟩ | ⟨scheme, rfl⟩⟩ :=
    ofText_cases read
  · rw [url, ofText_of_given trimmed schemed parsed, ofUrl, if_neg host]
    exact if_pos (by simpa using scheme)
  · have normal := isNormal_withPath (isNormal_of_webSocket parsed scheme)
    have kept : (withPath u).host = u.host ∧ (withPath u).scheme = u.scheme := by
      obtain same | put := withPath_cases u
      · rw [same]
        exact ⟨rfl, rfl⟩
      · rw [put]
        exact ⟨rfl, rfl⟩
    rw [url, ofText_of_given (trimmed_write normal) (withScheme_write _) (Url.ofText_write normal),
      ofUrl, if_neg (kept.1 ▸ host), kept.2, withPath_withPath]
    have other : ¬ (String.ofList u.scheme = "http" ∨ String.ofList u.scheme = "https") := by
      simp only [List.mem_cons, List.not_mem_nil, or_false] at scheme
      obtain name | name := scheme <;> rw [name] <;> decide
    exact (if_neg other).trans (if_pos (by simpa using scheme))

theorem path_of_webSocket (read : ofText text = .ok (.webSocket given)) :
    ∃ u, Url.ofText given = .ok u ∧ u.path ≠ [] ∧ u.path ≠ ['/'] := by
  obtain ⟨_, u, -, -, parsed, -, ⟨-, other⟩ | ⟨scheme, same⟩⟩ := ofText_cases read
  · cases other
  · cases same
    have normal := isNormal_withPath (isNormal_of_webSocket parsed scheme)
    exact ⟨withPath u, Url.ofText_write normal, withPath_path u⟩

theorem httpUrl_of_http (read : ofText text = .ok (.http given)) : httpUrl text = .ok given := by
  delta httpUrl
  rw [read]

theorem webSocketUrl_of_webSocket (read : ofText text = .ok (.webSocket given)) :
    webSocketUrl text = .ok given := by
  delta webSocketUrl
  rw [read]

end Endpoint

/-- An endpoint is kept as a connection string that names it. Reading that string again neither
refuses nor changes it, so whatever the configuration, the transport that is opened has just this
URL; that of a WebSocket endpoint has a path. Of the two readers for one kind of endpoint, exactly
one takes a connection string that names any. -/
theorem endpoints_are_stable (connection : String) :
    (∀ url, Endpoint.ofText connection = .ok (.http url) →
      Endpoint.httpUrl url = .ok url ∧
        ∀ config, Transport.choose connection config =
          config.validate.map fun _ => ⟨url, false⟩) ∧
    (∀ url, Endpoint.ofText connection = .ok (.webSocket url) →
      Endpoint.webSocketUrl url = .ok url ∧
        (∃ u, Url.ofText url = .ok u ∧ u.path ≠ [] ∧ u.path ≠ ['/']) ∧
        ∀ config, Transport.choose connection config =
          config.validate.map fun _ => ⟨url, true⟩) ∧
    ∀ endpoint, Endpoint.ofText connection = .ok endpoint →
      ((∃ url, Endpoint.httpUrl connection = .ok url) ↔
        ¬ ∃ url, Endpoint.webSocketUrl connection = .ok url) := by
  refine ⟨?_, ?_, ?_⟩
  · intro url read
    have stable := Endpoint.ofText_url read
    rw [Endpoint.url] at stable
    have again := Endpoint.httpUrl_of_http stable
    refine ⟨again, fun config => ?_⟩
    delta Transport.choose Transport.http
    rw [read]
    dsimp only
    rw [again]
    cases config.validate <;> rfl
  · intro url read
    have stable := Endpoint.ofText_url read
    rw [Endpoint.url] at stable
    have again := Endpoint.webSocketUrl_of_webSocket stable
    refine ⟨again, Endpoint.path_of_webSocket read, fun config => ?_⟩
    delta Transport.choose Transport.webSocket
    rw [read]
    dsimp only
    rw [again]
    cases config.validate <;> rfl
  · intro endpoint read
    cases endpoint with
    | http url =>
      delta Endpoint.httpUrl Endpoint.webSocketUrl
      rw [read]
      simp
    | webSocket url =>
      delta Endpoint.httpUrl Endpoint.webSocketUrl
      rw [read]
      simp

/-- A bare host and port get a scheme once, and a WebSocket endpoint its path. -/
theorem bare_and_webSocket_endpoints_are_stable :
    Endpoint.ofText "localhost:26657" = .ok (.http "http://localhost:26657") ∧
    Endpoint.httpUrl "http://localhost:26657" = .ok "http://localhost:26657" ∧
    (¬ ∃ url, Endpoint.webSocketUrl "localhost:26657" = .ok url) ∧
    Endpoint.ofText " ws://localhost:26657 " = .ok (.webSocket "ws://localhost:26657/websocket") ∧
    Endpoint.webSocketUrl "ws://localhost:26657/websocket" = .ok "ws://localhost:26657/websocket" ∧
    Transport.choose " ws://localhost:26657 " Config.standard =
      .ok ⟨"ws://localhost:26657/websocket", true⟩ := by
  have bare : Endpoint.ofText "localhost:26657" = .ok (.http "http://localhost:26657") := by
    decide +kernel
  have webSocket : Endpoint.ofText " ws://localhost:26657 " =
      .ok (.webSocket "ws://localhost:26657/websocket") := by
    decide +kernel
  obtain ⟨http, -, one⟩ := endpoints_are_stable "localhost:26657"
  obtain ⟨-, streaming, -⟩ := endpoints_are_stable " ws://localhost:26657 "
  obtain ⟨again, -⟩ := http "http://localhost:26657" bare
  obtain ⟨once, -, chosen⟩ := streaming "ws://localhost:26657/websocket" webSocket
  have plain := (one (.http "http://localhost:26657") bare).1 ⟨_, Endpoint.httpUrl_of_http bare⟩
  exact ⟨bare, again, plain, webSocket, once, chosen Config.standard⟩

end Tendermint
