import SolRpcRouter.Http.Form
import Mathlib.Data.List.Forall2
import Mathlib.Tactic.IntervalCases

/-! # What a client writes, `Query<Params>` reads back

The gate's parser (`Http.Form`) decodes bytes three times over: `+` as a space,
`percent_decode`, then `from_utf8_lossy`. This module proves the chain inverts every
way a client may write its query.

* `utf8EncodeChar_toNat` — the bytes of `str::as_bytes` for one character, as
  numbers: RFC 3629's four widths;
* `decodeUtf8Lossy_utf8Bytes` — `from_utf8_lossy` reads the UTF-8 of any text back
  as the text: the decoder's eight states accept every well-formed character;
* `FormEncodes` — the ways to write bytes in a name or a value: a character that is
  not a delimiter as itself, `+` for a space, any byte as `%` and two hex digits of
  either case;
* `formParse_joinFields` — `form_urlencoded::parse` reads a query of written
  `name=value` pairs joined by `&` back as its fields, in order;
* `queryParams_joinFields` — so the extractor hands `Params` exactly those fields;
* `hostOf_authorityText`, `portOf_authorityText` — `Authority::host` and
  `port_u16` read an authority written as `userinfo@host:port` back as its host,
  and its port text as `u16::from_str` reads it.
-/

namespace SolRpcRouter.Http

/-! ## Bytes -/

theorem uint8OfNat_toNat (n : Nat) : (UInt8.ofNat n).toNat = n % 256 := BitVec.toNat_ofNat _ _

theorem toUInt8_toNat (v : UInt32) : v.toUInt8.toNat = v.toNat % 256 := uint8OfNat_toNat _

theorem toUInt8_shiftRight (v k : UInt32) (small : k.toNat < 32) :
    ((v >>> k).toUInt8).toNat = v.toNat / 2 ^ k.toNat % 256 := by
  show (UInt8.ofNat (v.toBitVec >>> (UInt32.mod k 32).toBitVec).toNat).toNat = _
  have reduced : (UInt32.mod k 32).toBitVec.toNat = k.toNat :=
    BitVec.toNat_umod.trans (Nat.mod_eq_of_lt small)
  rw [uint8OfNat_toNat, BitVec.ushiftRight_eq', BitVec.toNat_ushiftRight,
    Nat.shiftRight_eq_div_pow, reduced]
  rfl

/-- A byte masked to its low `k` bits, with marker bits above them set. -/
theorem maskOr_toNat (x mask high : UInt8) (k : Nat) (low : mask.toNat = 2 ^ k - 1)
    (disjoint : mask &&& high = 0) (fits : 2 ^ k + high.toNat ≤ 256) :
    (x &&& mask ||| high).toNat = high.toNat + x.toNat % 2 ^ k := by
  have apart : x.toBitVec &&& mask.toBitVec &&& high.toBitVec = 0#8 := by
    rw [BitVec.and_assoc, show mask.toBitVec &&& high.toBitVec = 0#8 from
      congrArg UInt8.toBitVec disjoint, BitVec.and_zero]
  show (x.toBitVec &&& mask.toBitVec ||| high.toBitVec).toNat = _
  rw [← BitVec.add_eq_or_of_and_eq_zero _ _ apart, BitVec.toNat_add, BitVec.toNat_and]
  show ((x.toNat &&& mask.toNat) + high.toNat) % 2 ^ 8 = _
  rw [low, Nat.and_pow_two_sub_one_eq_mod]
  have : x.toNat % 2 ^ k < 2 ^ k := Nat.mod_lt _ (Nat.two_pow_pos k)
  omega

@[simp] theorem continuationByte_toNat (x : UInt8) :
    (x &&& 0x3f ||| 0x80).toNat = 0x80 + x.toNat % 64 :=
  maskOr_toNat x 0x3f 0x80 6 rfl (by decide) (by decide)

@[simp] theorem leadTwo_toNat (x : UInt8) : (x &&& 0x1f ||| 0xc0).toNat = 0xC0 + x.toNat % 32 :=
  maskOr_toNat x 0x1f 0xc0 5 rfl (by decide) (by decide)

@[simp] theorem leadThree_toNat (x : UInt8) :
    (x &&& 0x0f ||| 0xe0).toNat = 0xE0 + x.toNat % 16 :=
  maskOr_toNat x 0x0f 0xe0 4 rfl (by decide) (by decide)

@[simp] theorem leadFour_toNat (x : UInt8) : (x &&& 0x07 ||| 0xf0).toNat = 0xF0 + x.toNat % 8 :=
  maskOr_toNat x 0x07 0xf0 3 rfl (by decide) (by decide)

/-! ## UTF-8 -/

theorem utf8Bytes_append (s t : List Char) : utf8Bytes (s ++ t) = utf8Bytes s ++ utf8Bytes t :=
  List.flatMap_append _ _ _

theorem utf8Bytes_cons (c : Char) (s : List Char) :
    utf8Bytes (c :: s) = String.utf8EncodeChar c ++ utf8Bytes s :=
  List.flatMap_cons _ _ _

/-- `utf8EncodeChar`, byte by byte: the marker bits of each byte plus the bits of
the code point it carries. -/
theorem utf8EncodeChar_toNat (c : Char) : (String.utf8EncodeChar c).map UInt8.toNat =
    if c.toNat ≤ 0x7F then [c.toNat]
    else if c.toNat ≤ 0x7FF then [0xC0 + c.toNat / 64 % 32, 0x80 + c.toNat % 64]
    else if c.toNat ≤ 0xFFFF then
      [0xE0 + c.toNat / 4096 % 16, 0x80 + c.toNat / 64 % 64, 0x80 + c.toNat % 64]
    else [0xF0 + c.toNat / 262144 % 8, 0x80 + c.toNat / 4096 % 64, 0x80 + c.toNat / 64 % 64,
      0x80 + c.toNat % 64] := by
  have le_iff (n : UInt32) : c.val ≤ n ↔ c.toNat ≤ n.toNat := Iff.rfl
  have toNat_val : c.val.toNat = c.toNat := rfl
  unfold String.utf8EncodeChar
  simp only [le_iff, UInt32.reduceToNat]
  split_ifs with one <;> simp only [List.map_cons, List.map_nil, continuationByte_toNat,
    leadTwo_toNat, leadThree_toNat, leadFour_toNat, toUInt8_toNat, toNat_val,
    toUInt8_shiftRight c.val 6 (by decide), toUInt8_shiftRight c.val 12 (by decide),
    toUInt8_shiftRight c.val 18 (by decide), UInt32.reduceToNat, Nat.reducePow,
    Nat.mod_mod_of_dvd _ (by decide : 64 ∣ 256), Nat.mod_mod_of_dvd _ (by decide : 32 ∣ 256),
    Nat.mod_mod_of_dvd _ (by decide : 16 ∣ 256), Nat.mod_mod_of_dvd _ (by decide : 8 ∣ 256)]
  rw [Nat.mod_eq_of_lt (by omega)]

/-- An ASCII byte of a character's UTF-8 is the character itself. -/
theorem toNat_of_mem_utf8EncodeChar {c : Char} {b : UInt8}
    (member : b ∈ String.utf8EncodeChar c) (ascii : b.toNat < 0x80) : b.toNat = c.toNat := by
  have inUnits : b.toNat ∈ (String.utf8EncodeChar c).map UInt8.toNat :=
    List.mem_map_of_mem _ member
  rw [utf8EncodeChar_toNat] at inUnits
  split_ifs at inUnits <;> simp only [List.mem_cons, List.mem_singleton, List.not_mem_nil,
    or_false] at inUnits <;> omega

/-- A character's UTF-8 holds an ASCII byte only when the character is that byte. -/
theorem not_mem_utf8EncodeChar {c : Char} {x : UInt8} (ascii : x.toNat < 0x80)
    (other : c.toNat ≠ x.toNat) : x ∉ String.utf8EncodeChar c :=
  fun member => other (toNat_of_mem_utf8EncodeChar member ascii).symm

theorem toNat_ne_of_ne {c d : Char} (different : c ≠ d) : c.toNat ≠ d.toNat :=
  fun same => different (Char.ext (UInt32.toNat.inj same))

theorem toNat_charOfNat {n : Nat} (valid : n < 0xD800) : (Char.ofNat n).toNat = n := by
  rw [Char.ofNat, dif_pos (Or.inl valid)]
  rfl

/-- A byte below `0x80` is the UTF-8 of the character with its code. -/
theorem utf8EncodeChar_ofNat {b : UInt8} (ascii : b.toNat < 0x80) :
    String.utf8EncodeChar (Char.ofNat b.toNat) = [b] := by
  have units := utf8EncodeChar_toNat (Char.ofNat b.toNat)
  rw [toNat_charOfNat (by omega), if_pos (by omega)] at units
  obtain ⟨x, rest, encoded, same, restEmpty⟩ := List.map_eq_cons_iff.mp units
  rw [encoded, List.map_eq_nil_iff.mp restEmpty, UInt8.toNat.inj same]

/-! ## Decoding -/

/-- An ASCII byte is its character. -/
theorem decodeUtf8From_ascii {b : UInt8} (ascii : b.toNat < 0x80) (rest : List UInt8) :
    decodeUtf8From .start 0 (b :: rest) = Char.ofNat b.toNat :: decodeUtf8From .start 0 rest := by
  rw [decodeUtf8From, utf8Lead, if_pos ascii]

/-- A lead byte moves the decoder to the state `utf8First` names. -/
theorem decodeUtf8From_lead {b : UInt8} {state : Utf8State} {bits : Nat} (high : 0x80 ≤ b.toNat)
    (first : utf8First b.toNat = some (state, bits)) (rest : List UInt8) :
    decodeUtf8From .start 0 (b :: rest) = decodeUtf8From state bits rest := by
  rw [decodeUtf8From, utf8Lead, if_neg (by omega), first]

/-- The last continuation byte completes the character. -/
theorem decodeUtf8From_tail1 {b : UInt8} (within : 0x80 ≤ b.toNat ∧ b.toNat ≤ 0xBF)
    (codePoint : Nat) (rest : List UInt8) :
    decodeUtf8From .tail1 codePoint (b :: rest) =
      Char.ofNat (codePoint * 64 + b.toNat % 64) :: decodeUtf8From .start 0 rest := by
  rw [decodeUtf8From.eq_4 .tail1 codePoint b rest nofun, if_pos (show Utf8State.tail1.range.1 ≤
    b.toNat ∧ b.toNat ≤ Utf8State.tail1.range.2 from within)]
  rfl

/-- A continuation byte that does not complete the character adds its bits. -/
theorem decodeUtf8From_continue {state : Utf8State} (more : state.next ≠ .start) {b : UInt8}
    (within : state.range.1 ≤ b.toNat ∧ b.toNat ≤ state.range.2) (codePoint : Nat)
    (rest : List UInt8) :
    decodeUtf8From state codePoint (b :: rest) =
      decodeUtf8From state.next (codePoint * 64 + b.toNat % 64) rest := by
  rw [decodeUtf8From.eq_4 state codePoint b rest fun isStart => more (by rw [isStart]; rfl),
    if_pos within]
  split
  · contradiction
  · rfl

theorem utf8First_two {b : Nat} (lo : 0xC2 ≤ b) (hi : b ≤ 0xDF) :
    utf8First b = some (.tail1, b % 32) := by
  rw [utf8First, if_pos ⟨lo, hi⟩]

/-- A lead byte of three: the next byte's range is narrower after `E0` (no
overlong form) and `ED` (no surrogate). -/
theorem utf8First_three {b : Nat} (lo : 0xE0 ≤ b) (hi : b ≤ 0xEF) :
    ∃ state, utf8First b = some (state, b % 16) ∧ state.next = .tail1 ∧
      state.range = (if b = 0xE0 then 0xA0 else 0x80, if b = 0xED then 0x9F else 0xBF) := by
  interval_cases b <;> exact ⟨_, rfl, rfl, rfl⟩

/-- A lead byte of four: narrower after `F0` (no overlong form) and `F4` (nothing
past U+10FFFF). -/
theorem utf8First_four {b : Nat} (lo : 0xF0 ≤ b) (hi : b ≤ 0xF4) :
    ∃ state, utf8First b = some (state, b % 8) ∧ state.next = .tail2 ∧
      state.range = (if b = 0xF0 then 0x90 else 0x80, if b = 0xF4 then 0x8F else 0xBF) := by
  interval_cases b <;> exact ⟨_, rfl, rfl, rfl⟩

/-- The bits a byte carries past its marker: `base` is a multiple of `m`. -/
theorem mod_of_eq_add {n base d m : Nat} (eq : n = base + d) (aligned : base % m = 0)
    (small : d < m) : n % m = d := by
  rw [eq, Nat.add_mod, aligned, Nat.zero_add, Nat.mod_mod, Nat.mod_eq_of_lt small]

/-- Two bytes that carry the bits `d1`, `d2` of a code point of two bytes' length
decode to it. -/
theorem decodeUtf8From_two {b1 b2 : UInt8} {d1 d2 : Nat} (shortest : 2 ≤ d1) (d1_lt : d1 < 32)
    (d2_lt : d2 < 64) (first : b1.toNat = 0xC0 + d1) (second : b2.toNat = 0x80 + d2)
    (rest : List UInt8) :
    decodeUtf8From .start 0 (b1 :: b2 :: rest) =
      Char.ofNat (d1 * 64 + d2) :: decodeUtf8From .start 0 rest := by
  rw [decodeUtf8From_lead (by omega) (utf8First_two (by omega) (by omega)),
    decodeUtf8From_tail1 (by omega), mod_of_eq_add first rfl d1_lt, mod_of_eq_add second rfl d2_lt]

/-- Three bytes that carry `d1`, `d2`, `d3` decode to their code point, when it
is neither shorter than three bytes nor a surrogate. -/
theorem decodeUtf8From_three {b1 b2 b3 : UInt8} {d1 d2 d3 : Nat} (d1_lt : d1 < 16)
    (d2_lt : d2 < 64) (d3_lt : d3 < 64) (shortest : d1 = 0 → 32 ≤ d2)
    (notSurrogate : d1 = 13 → d2 < 32) (first : b1.toNat = 0xE0 + d1)
    (second : b2.toNat = 0x80 + d2) (third : b3.toNat = 0x80 + d3) (rest : List UInt8) :
    decodeUtf8From .start 0 (b1 :: b2 :: b3 :: rest) =
      Char.ofNat ((d1 * 64 + d2) * 64 + d3) :: decodeUtf8From .start 0 rest := by
  obtain ⟨state, lead, next, range⟩ := utf8First_three
    (show 0xE0 ≤ b1.toNat by omega) (show b1.toNat ≤ 0xEF by omega)
  have within : state.range.1 ≤ b2.toNat ∧ b2.toNat ≤ state.range.2 := by
    rw [range, first, second]
    split_ifs <;> omega
  rw [decodeUtf8From_lead (by omega) lead, decodeUtf8From_continue (by rw [next]; nofun) within,
    next, decodeUtf8From_tail1 (by omega), mod_of_eq_add first rfl d1_lt,
    mod_of_eq_add second rfl d2_lt, mod_of_eq_add third rfl d3_lt]

/-- Four bytes that carry `d1` to `d4` decode to their code point, when it is
neither shorter than four bytes nor past U+10FFFF. -/
theorem decodeUtf8From_four {b1 b2 b3 b4 : UInt8} {d1 d2 d3 d4 : Nat} (d1_le : d1 ≤ 4)
    (d2_lt : d2 < 64) (d3_lt : d3 < 64) (d4_lt : d4 < 64) (shortest : d1 = 0 → 16 ≤ d2)
    (inRange : d1 = 4 → d2 < 16) (first : b1.toNat = 0xF0 + d1) (second : b2.toNat = 0x80 + d2)
    (third : b3.toNat = 0x80 + d3) (fourth : b4.toNat = 0x80 + d4) (rest : List UInt8) :
    decodeUtf8From .start 0 (b1 :: b2 :: b3 :: b4 :: rest) =
      Char.ofNat (((d1 * 64 + d2) * 64 + d3) * 64 + d4) :: decodeUtf8From .start 0 rest := by
  obtain ⟨state, lead, next, range⟩ := utf8First_four
    (show 0xF0 ≤ b1.toNat by omega) (show b1.toNat ≤ 0xF4 by omega)
  have within : state.range.1 ≤ b2.toNat ∧ b2.toNat ≤ state.range.2 := by
    rw [range, first, second]
    split_ifs <;> omega
  rw [decodeUtf8From_lead (by omega) lead, decodeUtf8From_continue (by rw [next]; nofun) within,
    next, decodeUtf8From_continue (show Utf8State.tail2.next ≠ .start from nofun)
      (by simp only [Utf8State.range]; omega), Utf8State.next,
    decodeUtf8From_tail1 (by omega), mod_of_eq_add first rfl (by omega),
    mod_of_eq_add second rfl d2_lt, mod_of_eq_add third rfl d3_lt, mod_of_eq_add fourth rfl d4_lt]

/-- The bits `utf8EncodeChar` puts in two bytes: not an overlong form, and they
rebuild the code point. -/
theorem utf8Digits_two {v : Nat} (lo : 0x7F < v) (hi : v ≤ 0x7FF) :
    2 ≤ v / 64 % 32 ∧ v / 64 % 32 * 64 + v % 64 = v := by
  omega

theorem utf8Digits_three {v : Nat} (lo : 0x7FF < v) (hi : v ≤ 0xFFFF)
    (scalar : v < 0xD800 ∨ 0xDFFF < v) :
    (v / 4096 % 16 = 0 → 32 ≤ v / 64 % 64) ∧ (v / 4096 % 16 = 13 → v / 64 % 64 < 32) ∧
      (v / 4096 % 16 * 64 + v / 64 % 64) * 64 + v % 64 = v := by
  rw [Nat.mod_eq_of_lt (show v / 4096 < 16 by omega)]
  refine ⟨fun _ => ?_, fun _ => ?_, ?_⟩ <;> omega

theorem utf8Digits_four {v : Nat} (lo : 0xFFFF < v) (hi : v < 0x110000) :
    v / 262144 % 8 ≤ 4 ∧ (v / 262144 % 8 = 0 → 16 ≤ v / 4096 % 64) ∧
      (v / 262144 % 8 = 4 → v / 4096 % 64 < 16) ∧
      ((v / 262144 % 8 * 64 + v / 4096 % 64) * 64 + v / 64 % 64) * 64 + v % 64 = v := by
  rw [Nat.mod_eq_of_lt (show v / 262144 < 8 by omega)]
  refine ⟨?_, fun _ => ?_, fun _ => ?_, ?_⟩ <;> omega

/-- `from_utf8_lossy` reads a character's UTF-8 back as the character. -/
theorem decodeUtf8From_utf8EncodeChar (c : Char) (rest : List UInt8) :
    decodeUtf8From .start 0 (String.utf8EncodeChar c ++ rest) =
      c :: decodeUtf8From .start 0 rest := by
  have valid : c.toNat < 0xD800 ∨ (0xDFFF < c.toNat ∧ c.toNat < 0x110000) := c.valid
  have digit {m : Nat} (k : Nat) (positive : 0 < m) : k % m < m := Nat.mod_lt k positive
  have units := utf8EncodeChar_toNat c
  generalize String.utf8EncodeChar c = bytes at units
  conv_rhs => rw [← Char.ofNat_toNat c]
  split_ifs at units with one two three <;>
    simp only [List.map_eq_cons_iff, List.map_eq_nil_iff] at units
  · obtain ⟨b, _, rfl, first, rfl⟩ := units
    rw [List.singleton_append, decodeUtf8From_ascii (first ▸ Nat.lt_succ_of_le one), first]
  · obtain ⟨b1, _, rfl, first, b2, _, rfl, second, rfl⟩ := units
    obtain ⟨shortest, rebuilt⟩ := utf8Digits_two (Nat.lt_of_not_le one) two
    rw [List.cons_append, List.singleton_append,
      decodeUtf8From_two shortest (digit _ (by decide)) (digit _ (by decide)) first second, rebuilt]
  · obtain ⟨b1, _, rfl, first, b2, _, rfl, second, b3, _, rfl, third, rfl⟩ := units
    obtain ⟨shortest, notSurrogate, rebuilt⟩ :=
      utf8Digits_three (Nat.lt_of_not_le two) three (valid.imp_right And.left)
    rw [List.cons_append, List.cons_append, List.singleton_append,
      decodeUtf8From_three (digit _ (by decide)) (digit _ (by decide)) (digit _ (by decide))
        shortest notSurrogate first second third, rebuilt]
  · obtain ⟨b1, _, rfl, first, b2, _, rfl, second, b3, _, rfl, third, b4, _, rfl, fourth, rfl⟩ :=
      units
    obtain ⟨d1_le, shortest, inRange, rebuilt⟩ :=
      utf8Digits_four (Nat.lt_of_not_le three) (valid.resolve_left (by omega)).2
    rw [List.cons_append, List.cons_append, List.cons_append, List.singleton_append,
      decodeUtf8From_four d1_le (digit _ (by decide)) (digit _ (by decide)) (digit _ (by decide))
        shortest inRange first second third fourth, rebuilt]

/-- `String::from_utf8_lossy` inverts `str::as_bytes`. -/
theorem decodeUtf8Lossy_utf8Bytes (s : List Char) : decodeUtf8Lossy (utf8Bytes s) = s := by
  induction s with
  | nil => rfl
  | cons c s inductionHypothesis =>
    rw [decodeUtf8Lossy, utf8Bytes, List.flatMap_cons, decodeUtf8From_utf8EncodeChar]
    exact congrArg (c :: ·) inductionHypothesis

/-! ## Escaping -/

/-- The ways a client may write the bytes of a name or a value so that
`form_urlencoded` reads them back: a character other than `%`, `+`, `&` and `=`
as itself, `+` for a space, and any byte as `%` and two hex digits of either case. -/
inductive FormEncodes : List Char → List UInt8 → Prop
  /-- Nothing is written for no bytes. -/
  | nil : FormEncodes [] []
  /-- A character that is not a delimiter stands for its UTF-8. -/
  | plain {c : Char} {text : List Char} {bytes : List UInt8}
      (notDelimiter : c ∉ ['%', '+', '&', '=']) (tail : FormEncodes text bytes) :
      FormEncodes (c :: text) (String.utf8EncodeChar c ++ bytes)
  /-- `+` stands for a space. -/
  | plus {text : List Char} {bytes : List UInt8} (tail : FormEncodes text bytes) :
      FormEncodes ('+' :: text) (0x20 :: bytes)
  /-- `%` and two hex digits stand for the byte they spell. -/
  | escaped {text : List Char} {bytes : List UInt8} {high low b : UInt8}
      (highDigit : hexValue high = some (b.toNat / 16))
      (lowDigit : hexValue low = some (b.toNat % 16)) (tail : FormEncodes text bytes) :
      FormEncodes ('%' :: Char.ofNat high.toNat :: Char.ofNat low.toNat :: text) (b :: bytes)

/-- Text with no delimiter in it is its own encoding. -/
theorem formEncodes_self {text : List Char} (plain : ∀ c ∈ text, c ∉ ['%', '+', '&', '=']) :
    FormEncodes text (utf8Bytes text) := by
  induction text with
  | nil => exact .nil
  | cons c text inductionHypothesis =>
    exact .plain (plain c (List.mem_cons_self c text))
      (inductionHypothesis fun d member => plain d (List.mem_cons_of_mem c member))

/-- A byte that is a hex digit is none of the bytes that are not. -/
theorem ne_of_hexValue {b x : UInt8} {n : Nat} (digit : hexValue b = some n)
    (notDigit : hexValue x = none) : b ≠ x := by
  rintro rfl
  rw [notDigit] at digit
  cases digit

/-- A hex digit is ASCII. -/
theorem hexValue_ascii {b : UInt8} {n : Nat} (digit : hexValue b = some n) : b.toNat < 0x80 := by
  have le_iff (m k : UInt8) : m ≤ k ↔ m.toNat ≤ k.toNat := Iff.rfl
  unfold hexValue at digit
  split_ifs at digit with decimal upper lower <;> simp only [le_iff, UInt8.reduceToNat] at * <;>
    omega

theorem replacePlus_cons_of_ne {b : UInt8} (notPlus : b ≠ 0x2B) (rest : List UInt8) :
    replacePlus (b :: rest) = b :: replacePlus rest := by
  simp [replacePlus, notPlus]

theorem percentDecode_cons_of_ne {b : UInt8} (notPercent : b ≠ 0x25) (rest : List UInt8) :
    percentDecode (b :: rest) = b :: percentDecode rest := by
  rw [percentDecode]
  intro _ _ _ isPercent
  exact absurd (beq_iff_eq.mp isPercent) notPercent

/-- `%` and two hex digits decode to the byte they spell. -/
theorem percentDecode_escape {high low b : UInt8}
    (highDigit : hexValue high = some (b.toNat / 16)) (lowDigit : hexValue low = some (b.toNat % 16))
    (rest : List UInt8) :
    percentDecode (0x25 :: high :: low :: rest) = b :: percentDecode rest := by
  simp only [percentDecode, highDigit, lowDigit, beq_self_eq_true]
  congr
  apply UInt8.toNat.inj
  have byte : b.toNat < 256 := b.toNat_lt_size
  rw [uint8OfNat_toNat]
  omega

/-- Bytes that are neither `%` nor `+` pass both steps unchanged. -/
theorem percentDecode_replacePlus_append {front : List UInt8}
    (clear : ∀ b ∈ front, b ≠ 0x25 ∧ b ≠ 0x2B) (rest : List UInt8) :
    percentDecode (replacePlus (front ++ rest)) = front ++ percentDecode (replacePlus rest) := by
  induction front with
  | nil => rfl
  | cons b front inductionHypothesis =>
    obtain ⟨notPercent, notPlus⟩ := clear b (List.mem_cons_self b front)
    rw [List.cons_append, replacePlus_cons_of_ne notPlus, percentDecode_cons_of_ne notPercent,
      inductionHypothesis fun x member => clear x (List.mem_cons_of_mem b member)]
    rfl

/-- The bytes of an escape are `%` and the two digits. -/
theorem utf8Bytes_escape {high low : UInt8} {b : UInt8}
    (highDigit : hexValue high = some (b.toNat / 16)) (lowDigit : hexValue low = some (b.toNat % 16))
    (text : List Char) :
    utf8Bytes ('%' :: Char.ofNat high.toNat :: Char.ofNat low.toNat :: text) =
      0x25 :: high :: low :: utf8Bytes text := by
  rw [utf8Bytes_cons, utf8Bytes_cons, utf8Bytes_cons,
    utf8EncodeChar_ofNat (hexValue_ascii highDigit), utf8EncodeChar_ofNat (hexValue_ascii lowDigit)]
  rfl

/-- A written name or value decodes to the bytes it encodes. -/
theorem percentDecode_of_formEncodes {text : List Char} {bytes : List UInt8}
    (encodes : FormEncodes text bytes) : percentDecode (replacePlus (utf8Bytes text)) = bytes := by
  induction encodes with
  | nil => rfl
  | plain notDelimiter _ inductionHypothesis =>
    simp only [List.mem_cons, List.not_mem_nil, or_false, not_or] at notDelimiter
    obtain ⟨percent, plus, -, -⟩ := notDelimiter
    rw [utf8Bytes_cons, percentDecode_replacePlus_append fun b member => ⟨?_, ?_⟩,
      inductionHypothesis]
    · rintro rfl
      exact not_mem_utf8EncodeChar (by decide) (toNat_ne_of_ne percent) member
    · rintro rfl
      exact not_mem_utf8EncodeChar (by decide) (toNat_ne_of_ne plus) member
  | plus _ inductionHypothesis =>
    rw [utf8Bytes_cons, show String.utf8EncodeChar '+' = [0x2B] from rfl, List.singleton_append]
    simp only [replacePlus, List.map_cons, if_pos]
    rw [percentDecode_cons_of_ne (by decide)]
    exact congrArg _ inductionHypothesis
  | escaped highDigit lowDigit _ inductionHypothesis =>
    rw [utf8Bytes_escape highDigit lowDigit, replacePlus_cons_of_ne (by decide),
      replacePlus_cons_of_ne (ne_of_hexValue highDigit (by decide)),
      replacePlus_cons_of_ne (ne_of_hexValue lowDigit (by decide)),
      percentDecode_escape highDigit lowDigit, inductionHypothesis]

/-- No byte of a written name or value is `&` or `=`. -/
theorem separators_not_mem_of_formEncodes {text : List Char} {bytes : List UInt8}
    (encodes : FormEncodes text bytes) : ∀ b ∈ utf8Bytes text, b ≠ 0x26 ∧ b ≠ 0x3D := by
  induction encodes with
  | nil => nofun
  | plain notDelimiter _ inductionHypothesis =>
    simp only [List.mem_cons, List.not_mem_nil, or_false, not_or] at notDelimiter
    obtain ⟨-, -, ampersand, equals⟩ := notDelimiter
    intro b member
    rw [utf8Bytes_cons, List.mem_append] at member
    rcases member with inChar | later
    · constructor <;> rintro rfl
      · exact not_mem_utf8EncodeChar (by decide) (toNat_ne_of_ne ampersand) inChar
      · exact not_mem_utf8EncodeChar (by decide) (toNat_ne_of_ne equals) inChar
    · exact inductionHypothesis b later
  | plus _ inductionHypothesis =>
    intro b member
    rw [utf8Bytes_cons, show String.utf8EncodeChar '+' = [0x2B] from rfl, List.singleton_append,
      List.mem_cons] at member
    rcases member with rfl | later
    · decide
    · exact inductionHypothesis b later
  | escaped highDigit lowDigit _ inductionHypothesis =>
    intro b member
    rw [utf8Bytes_escape highDigit lowDigit] at member
    rcases member with _ | ⟨_, _ | ⟨_, _ | ⟨_, later⟩⟩⟩
    · decide
    · exact ⟨ne_of_hexValue highDigit (by decide), ne_of_hexValue highDigit (by decide)⟩
    · exact ⟨ne_of_hexValue lowDigit (by decide), ne_of_hexValue lowDigit (by decide)⟩
    · exact inductionHypothesis b later

/-- A written name or value decodes to the text it encodes. -/
theorem decode_of_formEncodes {text s : List Char} (encodes : FormEncodes text (utf8Bytes s)) :
    decode (utf8Bytes text) = s := by
  rw [decode, percentDecode_of_formEncodes encodes, decodeUtf8Lossy_utf8Bytes]

/-! ## The query -/

theorem utf8Bytes_intercalate (sep : List Char) :
    ∀ pieces : List (List Char),
      utf8Bytes (sep.intercalate pieces) = (utf8Bytes sep).intercalate (pieces.map utf8Bytes)
  | [] => rfl
  | [piece] => by simp [List.intercalate]
  | piece :: next :: pieces => by
    have joined := utf8Bytes_intercalate sep (next :: pieces)
    simp only [List.intercalate, List.intersperse_cons_cons, List.flatten_cons, List.map_cons]
      at joined ⊢
    rw [utf8Bytes_append, utf8Bytes_append, joined]

/-- A query as a client writes it: each name and value already escaped, joined as
`name=value` pairs by `&`. -/
def joinFields (written : List (List Char × List Char)) : List Char :=
  ['&'].intercalate (written.map fun field => field.1 ++ '=' :: field.2)

/-- `written` is a way to write `field`: its name and its value each encode the
UTF-8 of the field's. -/
def WrittenAs (written field : List Char × List Char) : Prop :=
  FormEncodes written.1 (utf8Bytes field.1) ∧ FormEncodes written.2 (utf8Bytes field.2)

theorem utf8Bytes_field (name value : List Char) :
    utf8Bytes (name ++ '=' :: value) = utf8Bytes name ++ 0x3D :: utf8Bytes value := by
  rw [utf8Bytes_append, utf8Bytes_cons]
  rfl

/-- One written pair, split at its first `=`, decodes to its field. -/
theorem formPair_of_writtenAs {written field : List Char × List Char}
    (writtenAs : WrittenAs written field) :
    (decode ((utf8Bytes (written.1 ++ '=' :: written.2)).takeWhile (· ≠ 0x3D)),
      decode (((utf8Bytes (written.1 ++ '=' :: written.2)).dropWhile (· ≠ 0x3D)).drop 1)) =
      field := by
  have nameClear : ∀ b ∈ utf8Bytes written.1, decide (b ≠ 0x3D) = true := fun b member =>
    decide_eq_true (separators_not_mem_of_formEncodes writtenAs.1 b member).2
  rw [utf8Bytes_field, List.takeWhile_append_of_pos nameClear,
    List.dropWhile_append_of_pos nameClear, List.takeWhile_cons_of_neg (by simp),
    List.dropWhile_cons_of_neg (by simp), List.append_nil, List.drop_one, List.tail_cons,
    decode_of_formEncodes writtenAs.1, decode_of_formEncodes writtenAs.2]

theorem exists_of_forall₂ {α β : Type} {R : α → β → Prop} :
    ∀ {l₁ : List α} {l₂ : List β}, List.Forall₂ R l₁ l₂ → ∀ a ∈ l₁, ∃ b, R a b
  | _, _, .nil => nofun
  | _, _, .cons related rest => fun a member =>
    (List.mem_cons.mp member).elim (fun same => ⟨_, same ▸ related⟩) (exists_of_forall₂ rest a)

/-- `form_urlencoded::parse` reads back every query written this way: the fields,
in order, whatever escapes each name and value uses. -/
theorem formParse_joinFields {written fields : List (List Char × List Char)}
    (encodes : List.Forall₂ WrittenAs written fields) :
    formParse (utf8Bytes (joinFields written)) = fields := by
  cases written with
  | nil => cases encodes; rfl
  | cons first rest =>
    rw [joinFields, utf8Bytes_intercalate, show utf8Bytes ['&'] = [0x26] from rfl, List.map_map]
    have free : ∀ piece ∈ (first :: rest).map (utf8Bytes ∘ fun field => field.1 ++ '=' :: field.2),
        0x26 ∉ piece := by
      simp only [List.mem_map, Function.comp]
      rintro _ ⟨field, member, rfl⟩ ampersand
      obtain ⟨_, name, value⟩ := exists_of_forall₂ encodes field member
      rw [utf8Bytes_field, List.mem_append, List.mem_cons] at ampersand
      rcases ampersand with inName | equals | inValue
      · exact (separators_not_mem_of_formEncodes name _ inName).1 rfl
      · cases equals
      · exact (separators_not_mem_of_formEncodes value _ inValue).1 rfl
    have pairs := List.forall₂_map_left_iff.mpr
      (encodes.imp fun _ _ writtenAs => formPair_of_writtenAs writtenAs)
    rw [List.forall₂_eq_eq_eq] at pairs
    rw [formParse, List.splitOn_intercalate _ 0x26 free (by simp),
      List.filter_eq_self.mpr ?nonempty, List.map_map]
    · exact pairs
    · simp only [List.mem_map, Function.comp]
      rintro _ ⟨field, -, rfl⟩
      simp [utf8Bytes_field]

/-- `api-key=k+%31`: the value `k 1`, its space written `+` and its `1` escaped. -/
theorem formParse_joinFields_sample :
    List.Forall₂ WrittenAs [("api-key".toList, "k+%31".toList)] [("api-key".toList, "k 1".toList)] ∧
      formParse (utf8Bytes (joinFields [("api-key".toList, "k+%31".toList)])) =
        [("api-key".toList, "k 1".toList)] :=
  have encodes : List.Forall₂ WrittenAs [("api-key".toList, "k+%31".toList)]
      [("api-key".toList, "k 1".toList)] :=
    .cons ⟨formEncodes_self (by decide),
      .plain (by decide) (.plus (@FormEncodes.escaped [] [] 0x33 0x31 0x31 rfl rfl .nil))⟩ .nil
  ⟨encodes, formParse_joinFields encodes⟩

/-- The `Query` extractor sees exactly the fields a client wrote. -/
theorem queryParams_joinFields {incoming : Uri} {written fields : List (List Char × List Char)}
    (encodes : List.Forall₂ WrittenAs written fields)
    (query : incoming.query = some (joinFields written)) :
    queryParams incoming = paramsVisit none fields := by
  rw [queryParams, query, Option.getD_some, formParse_joinFields encodes]

/-! ## The authority -/

/-- An authority as a URL writes it: `userinfo@` when there is one, the host, then
`:port` when there is one. -/
def authorityText (userinfo : Option (List Char)) (host : List Char)
    (port : Option (List Char)) : List Char :=
  (userinfo.map (· ++ ['@'])).getD [] ++ host ++ (port.map (':' :: ·)).getD []

/-- A host that `Authority::host` reads back whole: not empty, with no `@`, and
either an IP literal in brackets with no `]` inside, or a name with no `:` that
does not open with `[`. -/
structure HostName (host : List Char) : Prop where
  nonempty : host ≠ []
  noAt : '@' ∉ host
  shape : (∃ literal, host = '[' :: literal ++ [']'] ∧ ']' ∉ literal) ∨
    (host.head? ≠ some '[' ∧ ':' ∉ host)

/-- The text after the last `sep` (`rsplit(sep).next()`) of a text that ends with
no `sep`. -/
theorem reverse_takeWhile_append (sep : Char) (front : List Char) {rest : List Char}
    (absent : sep ∉ rest) :
    ((front ++ rest).reverse.takeWhile (· ≠ sep)).reverse =
      (front.reverse.takeWhile (· ≠ sep)).reverse ++ rest := by
  rw [List.reverse_append, List.takeWhile_append_of_pos, List.reverse_append, List.reverse_reverse]
  exact fun c member => decide_eq_true (ne_of_mem_of_not_mem (List.mem_reverse.mp member) absent)

/-- `u16::from_str` refuses a text with a character that is neither a digit nor a
leading `+`. -/
theorem parseU16_eq_none_of_mem {text : List Char} {c : Char} (mem : c ∈ text)
    (notPlus : c ≠ '+') (notDigit : c.isDigit = false) : parseU16 text = none := by
  unfold parseU16
  dsimp only
  split
  · rename_i valid
    have allDigits := List.all_eq_true.mp valid.2
    split at allDigits
    · exact absurd (allDigits c ((List.mem_cons.mp mem).resolve_left notPlus)) (by simp [notDigit])
    · exact absurd (allDigits c mem) (by simp [notDigit])
  · rfl

section

variable {userinfo : Option (List Char)} {host : List Char} {port : Option (List Char)}

theorem hostPort_authorityText (hostName : HostName host)
    (portText : ∀ text ∈ port, '@' ∉ text ∧ ':' ∉ text) :
    ((authorityText userinfo host port).reverse.takeWhile (· ≠ '@')).reverse =
      host ++ (port.map (':' :: ·)).getD [] := by
  have noAt : '@' ∉ host ++ (port.map (':' :: ·)).getD [] := by
    cases port with
    | none => simpa using hostName.noAt
    | some text => simpa using ⟨hostName.noAt, (portText text rfl).1⟩
  rw [authorityText, List.append_assoc, reverse_takeWhile_append '@' _ noAt]
  cases userinfo <;> simp

/-- `Authority::host` drops the userinfo and the port. -/
theorem hostOf_authorityText (hostName : HostName host)
    (portText : ∀ text ∈ port, '@' ∉ text ∧ ':' ∉ text) :
    hostOf (authorityText userinfo host port) = host := by
  unfold hostOf
  dsimp only
  rw [hostPort_authorityText hostName portText]
  rcases hostName.shape with ⟨literal, rfl, closes⟩ | ⟨plain, noColon⟩
  · have upTo : (('[' :: (literal ++ [']'])) ++ (port.map (':' :: ·)).getD []).takeWhile
        (· ≠ ']') = '[' :: literal := by
      rw [List.cons_append, List.takeWhile_cons_of_pos (by decide), List.append_assoc,
        List.takeWhile_append_of_pos (fun c member =>
          decide_eq_true (ne_of_mem_of_not_mem member closes))]
      simp
    simp only [List.cons_append] at upTo ⊢
    rw [upTo]
    simp [List.take_append_eq_append_take]
  · split
    · rename_i opens
      obtain ⟨first, rest, rfl⟩ := List.exists_cons_of_ne_nil hostName.nonempty
      simp only [List.cons_append, List.cons.injEq] at opens
      exact absurd (congrArg some opens.1) plain
    · rw [List.takeWhile_append_of_pos (fun c member =>
        decide_eq_true (ne_of_mem_of_not_mem member noColon))]
      cases port <;> simp

/-- `Authority::port_u16` reads the written port as `u16::from_str` does, and no
port from an authority that writes none: the text after the last `:` then holds
the `@` or the `]` before it. -/
theorem portOf_authorityText (hostName : HostName host)
    (portText : ∀ text ∈ port, '@' ∉ text ∧ ':' ∉ text) :
    portOf (authorityText userinfo host port) = port.bind parseU16 := by
  unfold portOf
  cases port with
  | some text =>
    have written : authorityText userinfo host (some text) =
        ((userinfo.map (· ++ ['@'])).getD [] ++ host ++ [':']) ++ text := by
      simp [authorityText]
    rw [if_pos (by simp [written]), written, reverse_takeWhile_append ':' _ (portText text rfl).2]
    simp
  | none =>
    split_ifs with colon
    · rcases hostName.shape with ⟨literal, rfl, -⟩ | ⟨-, noColon⟩
      · have written : authorityText userinfo ('[' :: literal ++ [']']) none =
            ((userinfo.map (· ++ ['@'])).getD [] ++ '[' :: literal) ++ [']'] := by
          simp [authorityText]
        rw [written, reverse_takeWhile_append ':' _ (by decide)]
        exact parseU16_eq_none_of_mem (List.mem_append_right _ (List.mem_singleton_self _))
          (by decide) rfl
      · cases userinfo with
        | none => exact absurd colon (by simpa [authorityText] using noColon)
        | some userinfo =>
          have written : authorityText (some userinfo) host none = userinfo ++ '@' :: host := by
            simp [authorityText]
          rw [written, reverse_takeWhile_append ':' _ (by simpa using noColon)]
          exact parseU16_eq_none_of_mem (List.mem_append_right _ (List.mem_cons_self _ _))
            (by decide) rfl
    · rfl

end

end SolRpcRouter.Http
