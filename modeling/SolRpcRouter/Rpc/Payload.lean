import Mathlib.Data.List.Basic

/-! # JSON-RPC payloads

The bodies the router reads as JSON: the request body in `extract_rpc_method`
and the response body in `perform_health_check`.

* `JsonValue` — `serde_json::Value`, with the lookups the code makes:
  `Value::get` (`JsonValue.get`), `as_str` and `as_u64`;
* `Payload` — a body's bytes, with what `serde_json::from_slice` makes of them
  (the JSON parser itself is not modelled);
* `toBytes` — `axum::body::to_bytes` with a limit: the payload, or an error when
  the stream breaks or runs past the limit.
-/

namespace SolRpcRouter.Rpc

/-- `serde_json::Number`: only which kind of number it is matters to the code. -/
inductive JsonNumber where
  | posInt (n : UInt64)
  | negInt (n : Int)
  | float
deriving DecidableEq, Repr

/-- `serde_json::Value`. An object's members are the entries of its map, one per
key. -/
inductive JsonValue where
  | null
  | bool (b : Bool)
  | number (n : JsonNumber)
  | string (s : String)
  | array (items : List JsonValue)
  | object (members : List (String × JsonValue))
deriving Repr

/-- `Value::get` with a string key: the member of an object. -/
def JsonValue.get (value : JsonValue) (key : String) : Option JsonValue :=
  match value with
  | .object members => (members.find? (·.1 = key)).map (·.2)
  | _ => none

/-- `Value::as_str`. -/
def JsonValue.asStr : JsonValue → Option String
  | .string s => some s
  | _ => none

/-- A body's bytes, with what `serde_json::from_slice::<Value>` makes of them. -/
structure Payload where
  bytes : List UInt8
  json : Except String JsonValue

/-- A body as it arrives: the payload, or the error that broke the stream. -/
abbrev BodyStream := Except String Payload

/-- `to_bytes(body, limit)`, through `http_body_util::Limited`: a body longer than
the limit is an error. -/
def toBytes (body : BodyStream) (limit : Nat) : Except String Payload :=
  match body with
  | .ok payload => if payload.bytes.length > limit then .error "length limit exceeded" else .ok payload
  | .error e => .error e

theorem toBytes_ok_iff {body : BodyStream} {limit : Nat} {payload : Payload} :
    toBytes body limit = .ok payload ↔ body = .ok payload ∧ payload.bytes.length ≤ limit := by
  constructor
  · intro read
    unfold toBytes at read
    split at read
    · split_ifs at read with long
      cases read
      exact ⟨rfl, Nat.le_of_not_gt long⟩
    · cases read
  · rintro ⟨rfl, short⟩
    simp [toBytes, Nat.not_lt.mpr short]

end SolRpcRouter.Rpc
