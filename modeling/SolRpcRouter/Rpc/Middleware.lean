import SolRpcRouter.Rpc.Payload

/-! # `extract_rpc_method`

The outermost layer: it reads the whole body (at most `MAX_BODY_SIZE` bytes),
looks for a string `method` member, and hands the request on with the body
rebuilt from the bytes it read and, when found, an `RpcMethod` extension. When
the read fails — the stream breaks or runs past the limit — the request goes on
with an empty body, as the code's comment says.

What comes out is stated for every request: the head unchanged, and either the
caller's bytes with the method they name, or nothing.
-/

namespace SolRpcRouter.Rpc

/-- `MAX_BODY_SIZE`: 10 MB. -/
def maxBodySize : Nat := 10 * 1024 * 1024

/-- A request as the middleware gets it: a head it never reads, and a body. -/
structure Request (Head : Type) where
  head : Head
  body : BodyStream

/-- The request `next.run` gets: the head, the `RpcMethod` extension, and the body
bytes. -/
structure Passed (Head : Type) where
  head : Head
  rpcMethod : Option String
  body : List UInt8
deriving DecidableEq

variable {Head : Type}

/-- `extract_rpc_method`. -/
def extractRpcMethod (request : Request Head) : Passed Head :=
  match toBytes request.body maxBodySize with
  | .error _ => ⟨request.head, none, []⟩
  | .ok payload =>
    match payload.json with
    | .ok json =>
      match (json.get "method").bind JsonValue.asStr with
      | some method => ⟨request.head, some method, payload.bytes⟩
      | none => ⟨request.head, none, payload.bytes⟩
    | .error _ => ⟨request.head, none, payload.bytes⟩

/-- The string `method` member of a body that is a JSON value. -/
def methodOf (payload : Payload) : Option String :=
  match payload.json with
  | .ok json => (json.get "method").bind JsonValue.asStr
  | .error _ => none

theorem extractRpcMethod_of_read {request : Request Head} {payload : Payload}
    (read : toBytes request.body maxBodySize = .ok payload) :
    extractRpcMethod request = ⟨request.head, methodOf payload, payload.bytes⟩ := by
  unfold extractRpcMethod methodOf
  simp only [read]
  split
  · rename_i json _
    cases (json.get "method").bind JsonValue.asStr <;> rfl
  · rfl

/-- A failed read passes an empty body on, and no method. -/
theorem extractRpcMethod_of_unread {request : Request Head} {error : String}
    (failed : toBytes request.body maxBodySize = .error error) :
    extractRpcMethod request = ⟨request.head, none, []⟩ := by
  unfold extractRpcMethod
  rw [failed]

/-- What the middleware passes on, for every request: the same head; a body of at
most `MAX_BODY_SIZE` bytes unchanged, with the method it names; any other body
emptied, with no method. -/
theorem extractRpcMethod_spec (request : Request Head) :
    extractRpcMethod request =
      match request.body with
      | .ok payload =>
        if payload.bytes.length ≤ maxBodySize then ⟨request.head, methodOf payload, payload.bytes⟩
        else ⟨request.head, none, []⟩
      | .error _ => ⟨request.head, none, []⟩ := by
  cases body : request.body with
  | error e => exact extractRpcMethod_of_unread (by unfold toBytes; rw [body])
  | ok payload =>
    dsimp only
    split_ifs with short
    · exact extractRpcMethod_of_read (toBytes_ok_iff.mpr ⟨body, short⟩)
    · exact extractRpcMethod_of_unread
        (by unfold toBytes; rw [body]; exact if_pos (Nat.lt_of_not_le short))

/-- A body that is JSON, `1` and then 10 MiB of spaces: one byte past the limit. -/
def paddedBody : Payload :=
  ⟨0x31 :: List.replicate maxBodySize 0x20, .ok (.number (.posInt 1))⟩

/-- The middleware empties the padded body before the proxy forwards it. -/
theorem extractRpcMethod_empties_padded_body :
    extractRpcMethod (⟨(), .ok paddedBody⟩ : Request Unit) = ⟨(), none, []⟩ ∧
      paddedBody.bytes ≠ [] := by
  have long : paddedBody.bytes.length > maxBodySize := by
    show (0x31 :: List.replicate maxBodySize (0x20 : UInt8)).length > maxBodySize
    rw [List.length_cons, List.length_replicate]
    exact Nat.lt_succ_self _
  have failed : toBytes (.ok paddedBody) maxBodySize = .error "length limit exceeded" := by
    unfold toBytes
    dsimp only
    rw [if_pos long]
  exact ⟨extractRpcMethod_of_unread failed, List.cons_ne_nil _ _⟩

end SolRpcRouter.Rpc
