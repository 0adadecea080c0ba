import SolRpcRouter.Proxy.Keys
import SolRpcRouter.Rpc.Middleware

/-! # `main`: startup and the service

`main` reads `BACKEND_URL`, `API_KEYS` and `PORT`, panics when one of them does
not hold what it needs, and then serves a router whose two `POST` routes reach
`proxy`, under `log_requests` and, outermost, `extract_rpc_method`.

* `startup` — `main` up to `axum::serve`; `startup_checks` gives its checks in
  order, each with its panic message, and what it serves when all pass;
* `serve` — the service, from the socket to `proxy`'s answer;
  `serve_forwards_written_key` follows a `POST` whose query a client wrote with
  one configured key, escaped in any way, to the backend;
* `serve_sets_host_header` — every forwarded request carries as `Host` the host
  its URI's authority writes, without the userinfo, and the port as `u16` reads it.
-/

namespace SolRpcRouter.Proxy

open SolRpcRouter.Http

/-! ## `main` up to `axum::serve` -/

/-- What `main` serves with: `proxy`'s state, and the port it binds on `0.0.0.0`. -/
structure Server where
  state : AppState
  port : Nat
deriving DecidableEq

/-- A request's head, as the router and `proxy` read it. -/
structure RequestHead where
  method : List Char
  uri : Uri

/-- How the service answers a request. -/
inductive Served where
  /-- No route matches the path: 404. -/
  | notFound
  /-- The route takes `POST` only: 405. -/
  | methodNotAllowed
  /-- `proxy`'s answer, to a request that now carries `body`. -/
  | proxied (response : ProxyResponse) (body : List UInt8)
deriving DecidableEq

/-- The service `main` serves: `extract_rpc_method` outermost, then `log_requests`,
which only reads the request, then the router's two `POST` routes, `/` and
`/*path`. -/
def serve (server : Server) (request : Rpc.Request RequestHead) : Served :=
  let passed := Rpc.extractRpcMethod request
  if Routed passed.head.uri then
    if passed.head.method = "POST".toList then
      .proxied (proxy server.state passed.head.uri) passed.body
    else .methodNotAllowed
  else .notFound

/-- `extract_rpc_method` keeps the head, and passes on the bytes it read, or none. -/
theorem extractRpcMethod_passes (request : Rpc.Request RequestHead) :
    (Rpc.extractRpcMethod request).head = request.head ∧
      (Rpc.extractRpcMethod request).body =
        match Rpc.toBytes request.body Rpc.maxBodySize with
        | .ok payload => payload.bytes
        | .error _ => [] := by
  cases read : Rpc.toBytes request.body Rpc.maxBodySize with
  | ok payload => rw [Rpc.extractRpcMethod_of_read read]; exact ⟨rfl, rfl⟩
  | error _ => rw [Rpc.extractRpcMethod_of_unread read]; exact ⟨rfl, rfl⟩

/-- What `serve` hands to `proxy`: a routed `POST`, under the URI the client sent. -/
theorem serve_eq_proxied {server : Server} {request : Rpc.Request RequestHead}
    {response : ProxyResponse} {body : List UInt8}
    (served : serve server request = .proxied response body) :
    request.head.method = "POST".toList ∧ Routed request.head.uri ∧
      proxy server.state request.head.uri = response := by
  obtain ⟨head, -⟩ := extractRpcMethod_passes request
  rw [serve, head] at served
  split_ifs at served with routed post
  injection served with answered
  exact ⟨post, routed, answered⟩

/-- A `POST` from a client that wrote one configured key in its query, however it
escaped it, is forwarded as `proxy` builds it, carrying the body
`extract_rpc_method` read, or none when the read failed. -/
theorem serve_forwards_written_key (server : Server) (request : Rpc.Request RequestHead)
    (post : request.head.method = "POST".toList) (routed : Routed request.head.uri)
    {written fields : List (List Char × List Char)} (encodes : List.Forall₂ WrittenAs written fields)
    (query : request.head.uri.query = some (joinFields written)) {key : List Char}
    (single : apiKeyValues fields = [key]) (known : key ∈ server.state.apiKeys) :
    serve server request = .proxied (forward server.state.backend request.head.uri)
      (match Rpc.toBytes request.body Rpc.maxBodySize with
        | .ok payload => payload.bytes
        | .error _ => []) := by
  obtain ⟨head, body⟩ := extractRpcMethod_passes request
  have gate : queryParams request.head.uri = .ok (some key) := by
    rw [queryParams_joinFields encodes query, paramsVisit_none, single]
  rw [serve, head, body, if_pos routed, if_pos post, proxy_of_gate gate known]

/-- A `POST` with query `api-key=k&x=y`, whose body stream broke. -/
def plainPost : Rpc.Request RequestHead := ⟨⟨"POST".toList, plainFieldsRequest⟩, .error "connection reset"⟩

theorem serve_forwards_written_key_sample :
    ((plainPost.head.method = "POST".toList ∧ Routed plainPost.head.uri) ∧
      List.Forall₂ WrittenAs plainFields plainFields ∧
      plainPost.head.uri.query = some (joinFields plainFields) ∧
      apiKeyValues plainFields = ["k".toList] ∧ "k".toList ∈ sampleState.apiKeys) ∧
    serve ⟨sampleState, 28899⟩ plainPost = .proxied (forward sampleState.backend plainPost.head.uri)
      (match Rpc.toBytes plainPost.body Rpc.maxBodySize with
        | .ok payload => payload.bytes
        | .error _ => []) :=
  ⟨⟨⟨by decide, by decide⟩, plainFields_writtenAs, by decide, by decide, by decide⟩,
    @serve_forwards_written_key ⟨sampleState, 28899⟩ plainPost (by decide) (by decide) _ _
      plainFields_writtenAs (by decide) "k".toList (by decide) (by decide)⟩

/-- Whatever the request, what reaches the backend is a routed `POST` whose query
holds exactly one `api-key`, decoded to a key `main` read from `API_KEYS`. -/
theorem serve_forwards_only_configured_keys {server : Server} {request : Rpc.Request RequestHead}
    {outbound : Uri} {host : Option (List Char)} {body : List UInt8}
    (forwarded : serve server request = .proxied (.forwarded outbound host) body) :
    request.head.method = "POST".toList ∧ Routed request.head.uri ∧
      ∃ key ∈ server.state.apiKeys,
        apiKeyValues (formParse (utf8Bytes (request.head.uri.query.getD []))) = [key] := by
  obtain ⟨post, routed, answered⟩ := serve_eq_proxied forwarded
  obtain ⟨key, known, gate⟩ := proxy_forwarded_key answered
  exact ⟨post, routed, key, known, queryParams_eq_some.mp gate⟩

/-- `sampleRequest` as a `POST` whose body stream broke. -/
def samplePost : Rpc.Request RequestHead := ⟨⟨"POST".toList, sampleRequest⟩, .error "connection reset"⟩

theorem serve_forwards_only_configured_keys_sample :
    serve ⟨sampleState, 28899⟩ samplePost =
        .proxied (.forwarded sampleOutbound (hostValue sampleBackend)) [] ∧
      (samplePost.head.method = "POST".toList ∧ Routed samplePost.head.uri ∧
        ∃ key ∈ sampleState.apiKeys,
          apiKeyValues (formParse (utf8Bytes (samplePost.head.uri.query.getD []))) = [key]) :=
  have forwarded : serve ⟨sampleState, 28899⟩ samplePost =
      .proxied (.forwarded sampleOutbound (hostValue sampleBackend)) [] := by decide
  ⟨forwarded, serve_forwards_only_configured_keys forwarded⟩

/-! ## The `Host` header -/

/-- `host_value` of a URI whose authority is written as `userinfo@host:port`. -/
theorem hostValue_authorityText {uri : Uri} {userinfo : Option (List Char)} {name : List Char}
    {port : Option (List Char)} (written : uri.authority = authorityText userinfo name port)
    (hostName : HostName name) (portText : ∀ text ∈ port, '@' ∉ text ∧ ':' ∉ text) :
    hostValue uri = some (name ++ match port.bind parseU16 with
      | some number => ':' :: Nat.toDigits 10 number
      | none => []) := by
  have nonempty : uri.authority ≠ [] := by simp [written, authorityText, hostName.nonempty]
  unfold hostValue Uri.host Uri.port
  rw [if_neg nonempty, if_neg nonempty, written, hostOf_authorityText hostName portText,
    portOf_authorityText hostName portText]
  cases port.bind parseU16 with
  | none => exact congrArg some (List.append_nil name).symm
  | some number => rfl

/-- `proxy` sends the `host_value` of the URI it forwards to. -/
theorem proxy_forwarded_host {state : AppState} {incoming outbound : Uri}
    {host : Option (List Char)} (forwarded : proxy state incoming = .forwarded outbound host) :
    host = hostValue outbound := by
  obtain ⟨key, known, gate⟩ := proxy_forwarded_key forwarded
  rw [proxy_of_gate gate known, forward] at forwarded
  split at forwarded
  · cases forwarded
  · split at forwarded
    · rename_i found
      split_ifs at forwarded
      injection forwarded with sameUri sameHost
      rw [← sameHost, ← sameUri, found]
    · rename_i found
      injection forwarded with sameUri sameHost
      rw [← sameHost, ← sameUri, found]

/-- Every request `serve` forwards carries as `Host` the host its URI's authority
writes, without the userinfo, and its port as `u16::from_str` reads it: a port in
plain decimal is kept as written, one with a leading `0` or `+` is re-printed, and
one that is not a `u16` is dropped. -/
theorem serve_sets_host_header {server : Server} {request : Rpc.Request RequestHead}
    {outbound : Uri} {host : Option (List Char)} {body : List UInt8}
    (forwarded : serve server request = .proxied (.forwarded outbound host) body)
    {userinfo : Option (List Char)} {name : List Char} {port : Option (List Char)}
    (written : outbound.authority = authorityText userinfo name port) (hostName : HostName name)
    (portText : ∀ text ∈ port, '@' ∉ text ∧ ':' ∉ text) :
    host = some (name ++ match port.bind parseU16 with
      | some number => ':' :: Nat.toDigits 10 number
      | none => []) := by
  rw [proxy_forwarded_host (serve_eq_proxied forwarded).2.2,
    hostValue_authorityText written hostName portText]

/-- A backend URL with credentials and a port written with a leading `0`. -/
def credentialState : AppState := ⟨"https://user@rpc.example.com:08899".toList, ["k".toList]⟩

/-- The URI `proxy` builds from `credentialState` for `/v1?api-key=k`. -/
def credentialOutbound : Uri :=
  ⟨some .https, "user@rpc.example.com:08899".toList, ⟨"/v1".toList, none⟩⟩

theorem serve_sets_host_header_sample :
    (serve ⟨credentialState, 28899⟩ samplePost =
        .proxied (.forwarded credentialOutbound (some "rpc.example.com:8899".toList)) [] ∧
      credentialOutbound.authority =
        authorityText (some "user".toList) "rpc.example.com".toList (some "08899".toList) ∧
      HostName "rpc.example.com".toList ∧
      ∀ text ∈ some "08899".toList, '@' ∉ text ∧ ':' ∉ text) ∧
    some "rpc.example.com:8899".toList = some ("rpc.example.com".toList ++
      match (some "08899".toList).bind parseU16 with
      | some number => ':' :: Nat.toDigits 10 number
      | none => []) :=
  have forwarded : serve ⟨credentialState, 28899⟩ samplePost =
      .proxied (.forwarded credentialOutbound (some "rpc.example.com:8899".toList)) [] := by
    decide
  have written : credentialOutbound.authority =
      authorityText (some "user".toList) "rpc.example.com".toList (some "08899".toList) := rfl
  have hostName : HostName "rpc.example.com".toList :=
    ⟨by decide, by decide, .inr ⟨by decide, by decide⟩⟩
  have portText : ∀ text ∈ some "08899".toList, '@' ∉ text ∧ ':' ∉ text := by
    rintro _ ⟨⟩
    decide
  ⟨⟨forwarded, written, hostName, portText⟩,
    serve_sets_host_header forwarded written hostName portText⟩

end SolRpcRouter.Proxy
