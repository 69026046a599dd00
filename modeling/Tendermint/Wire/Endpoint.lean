import Tendermint.Text.Blank
import Tendermint.Url.Basic

/-!
# Tendermint.Wire.Endpoint

Where a node listens. A connection string is a URL of one of four schemes, or a bare host and
port, which means plain HTTP. The URL of an HTTP endpoint stays as it was given; that of a
WebSocket endpoint is brought into normal form and gets the node's path if it has none.

* `Endpoint.ofText`: reads a connection string.
* `Endpoint.httpUrl`, `Endpoint.webSocketUrl`: reads one that must be of one kind.
-/

namespace Tendermint

/-- A place where a node listens. -/
inductive Endpoint where
  | http (url : String)
  | webSocket (url : String)
  deriving DecidableEq, Repr

/-- Why a connection string is refused. -/
inductive ConnectionError where
  | notUrl (connection : String) (error : UrlError)
  | missingHost (connection : String)
  | unsupportedScheme (scheme : String)
  | notHttp (url : String)
  | notWebSocket (url : String)
  deriving DecidableEq, Repr

def ConnectionError.message : ConnectionError → String
  | .notUrl connection error =>
    "`" ++ connection ++ "`: expected an HTTP(S) or WS(S) URL (" ++ error.message ++ ")"
  | .missingHost connection => "`" ++ connection ++ "`: missing host"
  | .unsupportedScheme scheme =>
    "unsupported connection scheme `" ++ scheme ++ "`; expected http, https, ws or wss"
  | .notHttp url => "`" ++ url ++ "` is a websocket endpoint; expected http or https"
  | .notWebSocket url => "`" ++ url ++ "` is an HTTP endpoint; expected ws or wss"

namespace Endpoint

/-- The path of a node's WebSocket endpoint. -/
def webSocketPath : List Char := "/websocket".toList

/-- What separates the scheme of a URL from its authority. -/
def schemeMark : List Char := "://".toList

/-- Whether one text occurs in another. -/
def occursIn (part : List Char) : List Char → Bool
  | [] => part.isEmpty
  | c :: rest => part.isPrefixOf (c :: rest) || occursIn part rest

/-- A connection string as a URL: without a scheme it means plain HTTP. -/
def withScheme (connection : String) : String :=
  if occursIn schemeMark connection.toList then connection else "http://" ++ connection

/-- A URL with the node's path in place of an empty one. -/
def withPath (url : Url) : Url :=
  if url.path = [] ∨ url.path = ['/'] then { url with path := webSocketPath } else url

/-- The endpoint of a URL, by its scheme. -/
def ofUrl (connection given : String) (url : Url) : Except ConnectionError Endpoint :=
  if url.host = none then .error (.missingHost connection)
  else
    let scheme := String.ofList url.scheme
    if scheme = "http" ∨ scheme = "https" then .ok (.http given)
    else if scheme = "ws" ∨ scheme = "wss" then .ok (.webSocket (withPath url).write)
    else .error (.unsupportedScheme scheme)

/-- Reads a connection string, without the white space around it. -/
def ofText (text : String) : Except ConnectionError Endpoint :=
  let connection := String.ofList (Text.trim text.toList)
  let given := withScheme connection
  match Url.ofText given with
  | .error e => .error (.notUrl connection e)
  | .ok url => ofUrl connection given url

/-- The URL of a connection string that must name an HTTP endpoint. -/
def httpUrl (text : String) : Except ConnectionError String :=
  match ofText text with
  | .error e => .error e
  | .ok (.http url) => .ok url
  | .ok (.webSocket url) => .error (.notHttp url)

/-- The URL of a connection string that must name a WebSocket endpoint. -/
def webSocketUrl (text : String) : Except ConnectionError String :=
  match ofText text with
  | .error e => .error e
  | .ok (.webSocket url) => .ok url
  | .ok (.http url) => .error (.notWebSocket url)

end Endpoint

end Tendermint
