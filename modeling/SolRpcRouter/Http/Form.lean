import SolRpcRouter.Http.Uri

/-! # `Query<Params>`: the api-key gate's parser

Before `proxy` runs, axum's `Query` extractor hands the request's query (or `""`)
to `serde_urlencoded`, which reads the pairs of `form_urlencoded::parse` into
`Params`. This module is that chain, over the query's bytes:

* `decode` — `form_urlencoded`'s decoding of a name or a value: `+` as a space,
  `percent_decode`, then `String::from_utf8_lossy` (`decodeUtf8Lossy`);
* `formParse` — `form_urlencoded::parse`: the pieces between `&`, empty ones
  skipped, each split at its first `=`;
* `paramsVisit` — the derived `Deserialize` for `Params`: the value of `api-key`,
  an error when the field comes twice, every other key ignored;
* `queryParams` — the extractor, whose error is axum's query rejection.

The gate reads names after decoding, so `api%2Dkey=…` and `api-key=…` set the
same field wherever they stand in the query (`paramsVisit_none`).
-/

namespace SolRpcRouter.Http

/-! ## Bytes and characters -/

/-- `str::as_bytes`. -/
def utf8Bytes (s : List Char) : List UInt8 :=
  s.flatMap String.utf8EncodeChar

/-- Where `from_utf8_lossy` stands inside a character: the continuation bytes still
owed, and (after `E0`, `ED`, `F0`, `F4`) a narrower range for the next one. -/
inductive Utf8State where
  | start
  | tail1
  | tail2
  | tail3
  | afterE0
  | afterED
  | afterF0
  | afterF4
deriving DecidableEq, Repr

/-- The bytes a state accepts next. -/
def Utf8State.range : Utf8State → Nat × Nat
  | .afterE0 => (0xA0, 0xBF)
  | .afterED => (0x80, 0x9F)
  | .afterF0 => (0x90, 0xBF)
  | .afterF4 => (0x80, 0x8F)
  | _ => (0x80, 0xBF)

/-- The state after an accepted continuation byte; `start` when the character is
complete. -/
def Utf8State.next : Utf8State → Utf8State
  | .tail2 | .afterE0 | .afterED => .tail1
  | .tail3 | .afterF0 | .afterF4 => .tail2
  | _ => .start

/-- `utf8_char_width` and the first byte's bits, for a byte of `0x80` or more. -/
def utf8First (b : Nat) : Option (Utf8State × Nat) :=
  if 0xC2 ≤ b ∧ b ≤ 0xDF then some (.tail1, b % 32)
  else if b = 0xE0 then some (.afterE0, 0)
  else if 0xE1 ≤ b ∧ b ≤ 0xEC then some (.tail2, b % 16)
  else if b = 0xED then some (.afterED, 0xD)
  else if 0xEE ≤ b ∧ b ≤ 0xEF then some (.tail2, b % 16)
  else if b = 0xF0 then some (.afterF0, 0)
  else if 0xF1 ≤ b ∧ b ≤ 0xF3 then some (.tail3, b % 8)
  else if b = 0xF4 then some (.afterF4, 4)
  else none

/-- U+FFFD, which stands for each invalid sequence. -/
def replacementCharacter : Char := '\uFFFD'

/-- A byte read between characters: ASCII is a character, a lead byte starts one,
any other byte is an invalid sequence of its own. -/
def utf8Lead (b : UInt8) (resume : Utf8State → Nat → List Char) : List Char :=
  if b.toNat < 0x80 then Char.ofNat b.toNat :: resume .start 0
  else match utf8First b.toNat with
    | some (state, bits) => resume state bits
    | none => replacementCharacter :: resume .start 0

/-- The loop of `Utf8Chunks`, as `from_utf8_lossy` uses it: each maximal invalid
sequence becomes one U+FFFD, and the byte that ended it is read again. -/
def decodeUtf8From : Utf8State → Nat → List UInt8 → List Char
  | .start, _, [] => []
  | _, _, [] => [replacementCharacter]
  | .start, _, b :: rest => utf8Lead b fun state bits => decodeUtf8From state bits rest
  | state, codePoint, b :: rest =>
    if state.range.1 ≤ b.toNat ∧ b.toNat ≤ state.range.2 then
      let codePoint := codePoint * 64 + b.toNat % 64
      match state.next with
      | .start => Char.ofNat codePoint :: decodeUtf8From .start 0 rest
      | next => decodeUtf8From next codePoint rest
    else replacementCharacter :: utf8Lead b fun state bits => decodeUtf8From state bits rest

/-- `String::from_utf8_lossy`. -/
def decodeUtf8Lossy (bytes : List UInt8) : List Char :=
  decodeUtf8From .start 0 bytes

/-! ## `form_urlencoded` -/

/-- `replace_plus`. -/
def replacePlus (input : List UInt8) : List UInt8 :=
  input.map fun b => if b = 0x2B then 0x20 else b

/-- `char::to_digit(16)` on a byte. -/
def hexValue (b : UInt8) : Option Nat :=
  if 0x30 ≤ b ∧ b ≤ 0x39 then some (b.toNat - 0x30)
  else if 0x41 ≤ b ∧ b ≤ 0x46 then some (b.toNat - 0x37)
  else if 0x61 ≤ b ∧ b ≤ 0x66 then some (b.toNat - 0x57)
  else none

/-- `percent_decode`: a `%` and two hex digits is the byte they spell; any other `%`
is kept. -/
def percentDecode : List UInt8 → List UInt8
  | [] => []
  | b :: rest =>
    let decodedRest := percentDecode rest
    match b == 0x25, rest with
    | true, h :: l :: more =>
      match hexValue h, hexValue l with
      | some high, some low => (high * 16 + low).toUInt8 :: percentDecode more
      | _, _ => b :: decodedRest
    | _, _ => b :: decodedRest

/-- `decode`: a name or a value of the query. -/
def decode (input : List UInt8) : List Char :=
  decodeUtf8Lossy (percentDecode (replacePlus input))

/-- `form_urlencoded::parse`. -/
def formParse (input : List UInt8) : List (List Char × List Char) :=
  ((input.splitOn 0x26).filter (· ≠ [])).map fun sequence =>
    (decode (sequence.takeWhile (· ≠ 0x3D)), decode ((sequence.dropWhile (· ≠ 0x3D)).drop 1))

/-! ## `Params` -/

/-- The name `Params` gives its `api_key` field (`#[serde(rename = "api-key")]`). -/
def apiKeyField : List Char := "api-key".toList

/-- `serde::de::Error::duplicate_field("api-key")`. -/
def duplicateApiKey : String := "duplicate field `api-key`"

/-- The derived `visit_map` of `Params`, from the value seen so far. -/
def paramsVisit (seen : Option (List Char)) : List (List Char × List Char) →
    Except String (Option (List Char))
  | [] => .ok seen
  | (name, value) :: rest =>
    if name = apiKeyField then
      match seen with
      | some _ => .error duplicateApiKey
      | none => paramsVisit (some value) rest
    else paramsVisit seen rest

/-- `Query::<Params>::try_from_uri`: an error is the extractor's rejection, which
axum answers with 400 before `proxy` runs. -/
def queryParams (uri : Uri) : Except String (Option (List Char)) :=
  paramsVisit none (formParse (utf8Bytes (uri.query.getD [])))

/-! ## What the gate reads -/

/-- The values of the pairs named `api-key`, in order. -/
def apiKeyValues (pairs : List (List Char × List Char)) : List (List Char) :=
  pairs.filterMap fun (name, value) => if name = apiKeyField then some value else none

@[simp] theorem apiKeyValues_nil : apiKeyValues [] = [] := rfl

theorem apiKeyValues_cons (name value : List Char) (pairs : List (List Char × List Char)) :
    apiKeyValues ((name, value) :: pairs) =
      if name = apiKeyField then value :: apiKeyValues pairs else apiKeyValues pairs := by
  by_cases named : name = apiKeyField <;> simp [apiKeyValues, named]

/-- Once a value is seen, any further `api-key` is the duplicate-field error. -/
theorem paramsVisit_some (seen : List Char) (pairs : List (List Char × List Char)) :
    paramsVisit (some seen) pairs =
      if apiKeyValues pairs = [] then .ok (some seen) else .error duplicateApiKey := by
  induction pairs with
  | nil => rfl
  | cons pair pairs inductionHypothesis =>
    obtain ⟨name, value⟩ := pair
    by_cases named : name = apiKeyField <;> simp [paramsVisit, apiKeyValues_cons, named, inductionHypothesis]

/-- The gate's spec: no `api-key` is `None`, one is its value, more are an error. -/
theorem paramsVisit_none (pairs : List (List Char × List Char)) :
    paramsVisit none pairs = match apiKeyValues pairs with
      | [] => .ok none
      | [value] => .ok (some value)
      | _ => .error duplicateApiKey := by
  induction pairs with
  | nil => rfl
  | cons pair pairs inductionHypothesis =>
    obtain ⟨name, value⟩ := pair
    by_cases named : name = apiKeyField
    · simp only [paramsVisit, apiKeyValues_cons, named, if_true, paramsVisit_some]
      cases apiKeyValues pairs <;> simp
    · simp only [paramsVisit, apiKeyValues_cons, named, if_false, inductionHypothesis]

theorem queryParams_eq_some {uri : Uri} {key : List Char} :
    queryParams uri = .ok (some key) ↔
      apiKeyValues (formParse (utf8Bytes (uri.query.getD []))) = [key] := by
  rw [queryParams, paramsVisit_none]
  split <;> simp_all

end SolRpcRouter.Http
