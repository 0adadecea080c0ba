import SolRpcRouter.Proxy.Handler
import SolRpcRouter.Http.RoundTrip
import Mathlib.Data.List.DropRight

/-! # The keys `main` reads from `API_KEYS`

`main` splits the variable at `,`, trims every piece and drops the empty ones;
`proxy` accepts a request only when the decoded `api-key` is one of them.

* `parseApiKeys` — `split(',').map(|s| s.trim().to_string()).filter(|s| !s.is_empty())`,
  with `trim` the removal of `char::is_whitespace` at both ends;
* `parseApiKeys_intercalate` — the format's round trip: keys written between
  commas, each with any whitespace around it, are read back in order, an entry
  with no key dropped;
* `mem_parseApiKeys` — every key read is nonempty, holds no `,`, and is trimmed;
* `proxy_refuses_malformed_key` — so a request whose key is empty, holds a `,`,
  or starts or ends with whitespace is refused, whatever `API_KEYS` says;
* `proxy_of_joinFields` — for any query a client writes, escaped in any way, the
  gate decides on the `api-key` fields it holds.
-/

namespace SolRpcRouter.Proxy

open SolRpcRouter.Http

/-- `char::is_whitespace`: the characters with Unicode's `White_Space` property. -/
def isWhitespace (c : Char) : Bool :=
  let n := c.toNat
  (0x09 ≤ n && n ≤ 0x0D) || n == 0x20 || n == 0x85 || n == 0xA0 || n == 0x1680 ||
    (0x2000 ≤ n && n ≤ 0x200A) || n == 0x2028 || n == 0x2029 || n == 0x202F || n == 0x205F ||
    n == 0x3000

/-- `str::trim`: whitespace removed from the start, then from the end. -/
def trim (s : List Char) : List Char :=
  (s.dropWhile isWhitespace).rdropWhile isWhitespace

/-- The keys `main` reads from the text of `API_KEYS`. -/
def parseApiKeys (apiKeysStr : List Char) : List (List Char) :=
  ((apiKeysStr.splitOn ',').map trim).filter fun key => !key.isEmpty

/-! ## Trimming -/

theorem dropWhile_trim (s : List Char) : (trim s).dropWhile isWhitespace = trim s := by
  obtain ⟨rest, split⟩ := List.rdropWhile_prefix isWhitespace (s.dropWhile isWhitespace)
  rw [trim]
  cases trimmed : (s.dropWhile isWhitespace).rdropWhile isWhitespace with
  | nil => rfl
  | cons c tail =>
    rw [trimmed] at split
    have lead := List.head_dropWhile_not isWhitespace s (by rw [← split]; simp)
    simp only [← split, List.cons_append, List.head_cons] at lead
    exact List.dropWhile_cons_of_neg (by simp [lead])

theorem rdropWhile_trim (s : List Char) : (trim s).rdropWhile isWhitespace = trim s :=
  List.rdropWhile_idempotent _ _

theorem trim_trim (s : List Char) : trim (trim s) = trim s := by
  rw [trim, dropWhile_trim, rdropWhile_trim]

theorem mem_of_mem_trim {s : List Char} {c : Char} (member : c ∈ trim s) : c ∈ s :=
  (List.dropWhile_suffix _).subset ((List.rdropWhile_prefix _ _).subset member)

theorem rdropWhile_append_of_all {p : Char → Bool} (l : List Char) {m : List Char}
    (all : ∀ x ∈ m, p x) : (l ++ m).rdropWhile p = l.rdropWhile p := by
  rw [List.rdropWhile, List.reverse_append,
    List.dropWhile_append_of_pos fun x member => all x (List.mem_reverse.mp member)]
  rfl

/-- Whitespace around a trimmed text is what `trim` removes. -/
theorem trim_padded {pre key post : List Char} (before : ∀ c ∈ pre, isWhitespace c)
    (after : ∀ c ∈ post, isWhitespace c) (trimmed : trim key = key) :
    trim (pre ++ key ++ post) = key := by
  have lead : key.dropWhile isWhitespace = key := trimmed ▸ dropWhile_trim key
  have trail : key.rdropWhile isWhitespace = key := trimmed ▸ rdropWhile_trim key
  rw [trim, List.append_assoc, List.dropWhile_append_of_pos before, List.dropWhile_append, lead]
  split
  · rename_i empty
    rw [List.isEmpty_iff.mp empty, List.dropWhile_eq_nil_iff.mpr after]
    rfl
  · rw [rdropWhile_append_of_all _ after, trail]

/-! ## Splitting -/

/-- No piece of a split holds an element the split is made on. -/
theorem not_of_mem_splitOnP {α : Type} {p : α → Bool} :
    ∀ {xs piece : List α}, piece ∈ xs.splitOnP p → ∀ x ∈ piece, p x = false
  | [], piece, member => by
    rw [List.splitOnP_nil, List.mem_singleton] at member
    subst member
    simp
  | x :: xs, piece, member => by
    rw [List.splitOnP_cons] at member
    split at member
    · rcases List.mem_cons.mp member with rfl | later
      · simp
      · exact not_of_mem_splitOnP later
    · rename_i kept
      obtain ⟨head, tail, split⟩ := List.exists_cons_of_ne_nil (List.splitOnP_ne_nil p xs)
      rw [split, List.modifyHead_cons] at member
      rcases List.mem_cons.mp member with rfl | later
      · rintro y (_ | ⟨_, inHead⟩)
        · simpa using kept
        · exact not_of_mem_splitOnP (split ▸ List.mem_cons_self head tail) y inHead
      · exact not_of_mem_splitOnP (split ▸ List.mem_cons_of_mem head later)

theorem not_mem_of_mem_splitOn {xs piece : List Char} {a : Char} (member : piece ∈ xs.splitOn a) :
    a ∉ piece := fun inPiece => by
  simpa using not_of_mem_splitOnP member a inPiece

/-! ## The format -/

/-- Keys written between commas, each with any whitespace around it, are read
back in order; an entry whose key is empty is dropped. -/
theorem parseApiKeys_intercalate (entries : List (List Char × List Char × List Char))
    (padded : ∀ entry ∈ entries, (∀ c ∈ entry.1, isWhitespace c) ∧ ∀ c ∈ entry.2.2, isWhitespace c)
    (keys : ∀ entry ∈ entries, ',' ∉ entry.2.1 ∧ trim entry.2.1 = entry.2.1) :
    parseApiKeys ([','].intercalate (entries.map fun entry => entry.1 ++ entry.2.1 ++ entry.2.2)) =
      (entries.map fun entry => entry.2.1).filter fun key => !key.isEmpty := by
  have commaFree : ∀ piece ∈ entries.map (fun entry => entry.1 ++ entry.2.1 ++ entry.2.2),
      ',' ∉ piece := by
    simp only [List.mem_map]
    rintro _ ⟨entry, member, rfl⟩ comma
    have notSpace : isWhitespace ',' = false := by decide
    simp only [List.mem_append] at comma
    rcases comma with (inPre | inKey) | inPost
    · simpa [notSpace] using (padded entry member).1 _ inPre
    · exact (keys entry member).1 inKey
    · simpa [notSpace] using (padded entry member).2 _ inPost
  cases entries with
  | nil => rfl
  | cons first rest =>
    rw [parseApiKeys, List.splitOn_intercalate _ ',' commaFree (by simp), List.map_map]
    congr 1
    refine List.map_congr_left fun entry member => ?_
    exact trim_padded (padded entry member).1 (padded entry member).2 (keys entry member).2

theorem parseApiKeys_intercalate_sample :
    ((∀ entry ∈ [(" ".toList, "k1".toList, "".toList), ("".toList, "k2".toList, "\t".toList),
        (" ".toList, "".toList, "".toList)],
        (∀ c ∈ entry.1, isWhitespace c) ∧ ∀ c ∈ entry.2.2, isWhitespace c) ∧
      ∀ entry ∈ [(" ".toList, "k1".toList, "".toList), ("".toList, "k2".toList, "\t".toList),
        (" ".toList, "".toList, "".toList)],
        ',' ∉ entry.2.1 ∧ trim entry.2.1 = entry.2.1) ∧
    parseApiKeys ([','].intercalate ([(" ".toList, "k1".toList, "".toList),
        ("".toList, "k2".toList, "\t".toList), (" ".toList, "".toList, "".toList)].map
        fun entry => entry.1 ++ entry.2.1 ++ entry.2.2)) =
      ([(" ".toList, "k1".toList, "".toList), ("".toList, "k2".toList, "\t".toList),
        (" ".toList, "".toList, "".toList)].map fun entry => entry.2.1).filter
        fun key => !key.isEmpty :=
  ⟨⟨by decide, by decide⟩, parseApiKeys_intercalate _ (by decide) (by decide)⟩

/-- Every key `main` reads is nonempty, holds no `,`, and is trimmed. -/
theorem mem_parseApiKeys {apiKeysStr key : List Char} (member : key ∈ parseApiKeys apiKeysStr) :
    key ≠ [] ∧ ',' ∉ key ∧ trim key = key := by
  simp only [parseApiKeys, List.mem_filter, List.mem_map, Bool.not_eq_true',
    List.isEmpty_eq_false] at member
  obtain ⟨⟨piece, inSplit, rfl⟩, nonempty⟩ := member
  exact ⟨by simpa using nonempty, fun comma => not_mem_of_mem_splitOn inSplit (mem_of_mem_trim comma), trim_trim piece⟩

/-- Whatever `API_KEYS` holds, a request whose decoded key is empty, holds a `,`,
or starts or ends with whitespace is refused. -/
theorem proxy_refuses_malformed_key (apiKeysStr backend : List Char) (incoming : Uri)
    {key : List Char} (gate : queryParams incoming = .ok (some key))
    (malformed : key = [] ∨ ',' ∈ key ∨ trim key ≠ key) :
    proxy ⟨backend, parseApiKeys apiKeysStr⟩ incoming = unauthorized := by
  have unknown : key ∉ parseApiKeys apiKeysStr := fun member => by
    obtain ⟨nonempty, commaFree, trimmed⟩ := mem_parseApiKeys member
    rcases malformed with empty | comma | untrimmed
    · exact nonempty empty
    · exact commaFree comma
    · exact untrimmed trimmed
  simp only [proxy, gate, unknown, if_false]

/-- A request that sends two configured keys joined by a comma as one key. -/
def joinedKeysRequest : Uri := ⟨none, [], ⟨"/?api-key=k1,k2".toList, some 1⟩⟩

theorem proxy_refuses_malformed_key_sample :
    (queryParams joinedKeysRequest = .ok (some "k1,k2".toList) ∧
      ("k1,k2".toList = [] ∨ ',' ∈ "k1,k2".toList ∨ trim "k1,k2".toList ≠ "k1,k2".toList)) ∧
    proxy ⟨"https://rpc.example.com".toList, parseApiKeys "k1,k2".toList⟩ joinedKeysRequest =
      unauthorized :=
  ⟨⟨by decide, .inr (.inl (by decide))⟩,
    @proxy_refuses_malformed_key _ _ _ "k1,k2".toList (by decide) (.inr (.inl (by decide)))⟩

/-- `proxy` forwards only a request whose decoded key is one `main` read. -/
theorem proxy_forwarded_key {state : AppState} {incoming outbound : Uri}
    {host : Option (List Char)} (forwarded : proxy state incoming = .forwarded outbound host) :
    ∃ key ∈ state.apiKeys, queryParams incoming = .ok (some key) := by
  unfold proxy at forwarded
  split at forwarded
  · cases forwarded
  · rename_i key gate
    split_ifs at forwarded with known
    · exact ⟨key, known, gate⟩
    · cases forwarded
  · cases forwarded

/-! ## Queries as clients write them -/

/-- For any query a client writes, whatever escapes it uses, the gate decides on the
`api-key` fields it holds: none is 401; one is forwarded when `main` read that key
from `API_KEYS` and 401 otherwise; two or more are axum's 400. -/
theorem proxy_of_joinFields (state : AppState) {incoming : Uri}
    {written fields : List (List Char × List Char)} (encodes : List.Forall₂ WrittenAs written fields)
    (query : incoming.query = some (joinFields written)) :
    proxy state incoming = match apiKeyValues fields with
      | [] => unauthorized
      | [key] => if key ∈ state.apiKeys then forward state.backend incoming else unauthorized
      | _ => .badQuery duplicateApiKey := by
  rw [proxy, queryParams_joinFields encodes query, paramsVisit_none]
  rcases apiKeyValues fields with _ | ⟨key, _ | ⟨other, more⟩⟩ <;> rfl

/-- `api-key=k&x=y`, written without escapes. -/
def plainFields : List (List Char × List Char) := [("api-key".toList, "k".toList), ("x".toList, "y".toList)]

/-- A request whose query is `plainFields`. -/
def plainFieldsRequest : Uri := ⟨none, [], ⟨"/?api-key=k&x=y".toList, some 1⟩⟩

theorem plainFields_writtenAs : List.Forall₂ WrittenAs plainFields plainFields :=
  .cons ⟨formEncodes_self (by decide), formEncodes_self (by decide)⟩
    (.cons ⟨formEncodes_self (by decide), formEncodes_self (by decide)⟩ .nil)

theorem proxy_of_joinFields_sample :
    (List.Forall₂ WrittenAs plainFields plainFields ∧
      plainFieldsRequest.query = some (joinFields plainFields)) ∧
    proxy sampleState plainFieldsRequest = match apiKeyValues plainFields with
      | [] => unauthorized
      | [key] => if key ∈ sampleState.apiKeys then forward sampleState.backend plainFieldsRequest
        else unauthorized
      | _ => .badQuery duplicateApiKey :=
  ⟨⟨plainFields_writtenAs, by decide⟩,
    proxy_of_joinFields sampleState plainFields_writtenAs (by decide)⟩

end SolRpcRouter.Proxy
