import TsdbClient.Wire

/-!
# `time.ParseDuration`, the check behind a batch's precision

`NewBatchPoints` and `SetPrecision` accept a precision `p` when `time.ParseDuration("1" + p)`
succeeds (`validPrecision`). This is Go's parser of `[-+]?([0-9]*(\.[0-9]*)?[a-z]+)+`, on the
characters of the string (on valid UTF-8 the byte scan of the source stops at the same places):

* `leadingInt`, `leadingFraction`, `unitOf` (`unitMap`) : the pieces of one component;
* `Binary64`, `fractionNanos` : a fraction's nanoseconds, `uint64(float64(f) * (float64(unit) /
  scale))`, with each `float64` operation rounded to nearest, ties to even;
* `component` : one `[0-9]*(\.[0-9]*)?unit` term in nanoseconds, with its overflow checks;
  `component_rest_lt` : it consumes at least one character, so `durationLoop` terminates;
* `durationLoop` : the components one after another, added into the `uint64` total `d`, which
  wraps to `0` when `d` and a component are both `1<<63`;
* `parseDuration` : the sign, the special case `"0"`, the loop and the final range check;
* `Term` : a term `[0-9]+unit`, and its value; `parseDuration_terms` : terms written one after the
  other, with an optional `-`, read as the sum of their values within the range of `int64`, unless
  a term of `1<<63` makes the total wrap; `parseDuration_append` : such terms after any unsigned
  duration add their values to it.
-/
namespace Tsdb

set_option autoImplicit false

/-- The errors of `time.ParseDuration`: "time: invalid duration %q", "time: missing unit in
duration %q" and "time: unknown unit %q in duration %q". -/
inductive DurationError where
  | invalid
  | missingUnit
  | unknownUnit (u : String)
  deriving DecidableEq, Repr

/-- `unitMap`: nanoseconds per unit; `us` has the two spellings `µs` (U+00B5) and `μs` (U+03BC). -/
def unitMap : List (String × Nat) :=
  [("ns", 1), ("us", 1000), ("µs", 1000), ("μs", 1000), ("ms", 1000000),
    ("s", 1000000000), ("m", 60000000000), ("h", 3600000000000)]

/-- `unitMap[u]`. -/
def unitOf (u : List Char) : Option Nat := unitMap.lookup (String.mk u)

/-- A character of the number part: `.` or a digit. -/
def isNumChar (c : Char) : Bool := c == '.' || c.isDigit

/-- `leadingInt`: the value of the leading digits and the rest; `none` is `errLeadingInt`, an
overflow past `1<<63`. -/
def leadingInt : List Char → Nat → Option (Nat × List Char)
  | [], x => some (x, [])
  | c :: cs, x =>
    if c.isDigit then
      if 2 ^ 63 / 10 < x then none
      else if 2 ^ 63 < x * 10 + (c.toNat - '0'.toNat) then none
      else leadingInt cs (x * 10 + (c.toNat - '0'.toNat))
    else some (x, c :: cs)

/-- `leadingFraction`: the value of the leading digits, the power of ten it is scaled by, and the
rest; once the value would pass `1<<63` the remaining digits are consumed and not counted. -/
def leadingFraction : List Char → Nat → Nat → Bool → Nat × Nat × List Char
  | [], x, scale, _ => (x, scale, [])
  | c :: cs, x, scale, overflow =>
    if c.isDigit then
      if overflow || (2 ^ 63 - 1) / 10 < x || 2 ^ 63 < x * 10 + (c.toNat - '0'.toNat) then
        leadingFraction cs x scale true
      else leadingFraction cs (x * 10 + (c.toNat - '0'.toNat)) (scale * 10) false
    else (x, scale, c :: cs)

/-- The optional `(\.[0-9]*)?` after the integer part: the fraction `f / scale`, the rest, and
`post`, whether a digit followed the point. -/
structure Fraction where
  f : Nat
  scale : Nat
  rest : List Char
  post : Bool

/-- Consume `(\.[0-9]*)?`. -/
def fractionPart : List Char → Fraction
  | '.' :: r =>
    let lf := leadingFraction r 0 1 false
    ⟨lf.1, lf.2.1, lf.2.2, lf.2.2.length != r.length⟩
  | s => ⟨0, 1, s, false⟩

/-! ## The fraction in `float64`

Go adds a fraction `f / scale` of a unit as `uint64(float64(f) * (float64(unit) / scale))`. A
positive `float64` in the normal range is `m * 2^e` with a significand `m` of 53 bits, and each
operation rounds its exact result to the nearest such value, ties to even; the exact result is
kept as a ratio `a / d` of naturals. `unit` and `scale`, a power of ten below `10^20`, are exact. -/

/-- `a / d` rounded to an integer, ties to even. -/
def roundEven (a d : Nat) : Nat :=
  if d < 2 * (a % d) ∨ (2 * (a % d) = d ∧ a / d % 2 = 1) then a / d + 1 else a / d

/-- The number of binary digits of `n < 2 ^ 2 ^ k`, found by halving the width `k` times. -/
def bitLength : Nat → Nat → Nat
  | 0, n => n
  | k + 1, n => if n < 2 ^ 2 ^ k then bitLength k n else 2 ^ k + bitLength k (n / 2 ^ 2 ^ k)

/-- A positive `float64`, `m * 2 ^ e`. -/
structure Binary64 where
  m : Nat
  e : Int
  deriving DecidableEq, Repr

/-- The exponent `e` with `2^52 ≤ a / (d * 2^e) < 2^53`, for positive `a, d < 2^256`. -/
def Binary64.exponent (a d : Nat) : Int :=
  let e0 : Int := (bitLength 8 a : Int) - bitLength 8 d - 52
  if a * 2 ^ (-e0).toNat < 2 ^ 52 * (d * 2 ^ e0.toNat) then e0 - 1 else e0

/-- The `float64` nearest to `a / d`, ties to even. -/
def Binary64.ofRatio (a d : Nat) : Binary64 :=
  ⟨roundEven (a * 2 ^ (-Binary64.exponent a d).toNat) (d * 2 ^ (Binary64.exponent a d).toNat),
    Binary64.exponent a d⟩

/-- `x * y`, rounded. -/
def Binary64.mul (x y : Binary64) : Binary64 :=
  Binary64.ofRatio (x.m * y.m * 2 ^ (x.e + y.e).toNat) (2 ^ (-(x.e + y.e)).toNat)

/-- `uint64(x)`: the integer part of `x`. -/
def Binary64.toNat (x : Binary64) : Nat := x.m * 2 ^ x.e.toNat / 2 ^ (-x.e).toNat

/-- `uint64(float64(f) * (float64(unit) / scale))`, for a fraction `0 < f` and `1 ≤ scale`. -/
def fractionNanos (f unit scale : Nat) : Nat :=
  ((Binary64.ofRatio f 1).mul (Binary64.ofRatio unit scale)).toNat

/-- `.3333333333333333333h`: the exact value `1199999999999.99...` ns rounds up in `float64`. -/
example : fractionNanos 3333333333333333333 3600000000000 (10 ^ 19) = 1200000000000 ∧
    3333333333333333333 * 3600000000000 / 10 ^ 19 = 1199999999999 := by decide

/-- The unit after the number `v` and its fraction `f / scale`: the component's nanoseconds and
the rest of the string. -/
def unitPart (v f scale : Nat) (s : List Char) : Except DurationError (Nat × List Char) :=
  let u := s.takeWhile (fun c => !isNumChar c)
  if u = [] then .error .missingUnit
  else match unitOf u with
  | none => .error (.unknownUnit (String.mk u))
  | some unit =>
    if 2 ^ 63 / unit < v then .error .invalid
    else if 0 < f then
      if 2 ^ 63 < v * unit + fractionNanos f unit scale then .error .invalid
      else .ok (v * unit + fractionNanos f unit scale, s.dropWhile (fun c => !isNumChar c))
    else .ok (v * unit, s.dropWhile (fun c => !isNumChar c))

/-- One component `[0-9]*(\.[0-9]*)?unit` of the loop of `ParseDuration`, in nanoseconds, with the
rest of the string. -/
def component (s : List Char) : Except DurationError (Nat × List Char) :=
  match s.head? with
  | none => .error .invalid
  | some c =>
    if !isNumChar c then .error .invalid
    else match leadingInt s 0 with
    | none => .error .invalid
    | some (v, s1) =>
      let fp := fractionPart s1
      if s1.length = s.length ∧ !fp.post then .error .invalid
      else unitPart v fp.f fp.scale fp.rest

theorem leadingInt_length : ∀ {s r : List Char} {x v : Nat},
    leadingInt s x = some (v, r) → r.length ≤ s.length
  | [], _, _, _, h => by simp [leadingInt] at h; simp [← h.2]
  | c :: cs, r, x, v, h => by
    unfold leadingInt at h
    split_ifs at h
    · exact (leadingInt_length h).trans (Nat.le_succ _)
    · simp at h; simp [← h.2]

theorem leadingFraction_length : ∀ (s : List Char) (x scale : Nat) (o : Bool),
    (leadingFraction s x scale o).2.2.length ≤ s.length
  | [], _, _, _ => le_rfl
  | c :: cs, x, scale, o => by
    unfold leadingFraction
    split_ifs
    · exact (leadingFraction_length cs _ _ _).trans (Nat.le_succ _)
    · exact (leadingFraction_length cs _ _ _).trans (Nat.le_succ _)
    · exact le_rfl

theorem fractionPart_length (s : List Char) : (fractionPart s).rest.length ≤ s.length := by
  unfold fractionPart
  split
  · exact (leadingFraction_length _ _ _ _).trans (Nat.le_succ _)
  · exact le_rfl

theorem unitPart_rest_lt {v f scale w : Nat} {s r : List Char}
    (h : unitPart v f scale s = .ok (w, r)) : r.length < s.length := by
  unfold unitPart at h
  dsimp only at h
  have e := congrArg List.length (List.takeWhile_append_dropWhile (fun c => !isNumChar c) s)
  rw [List.length_append] at e
  by_cases hu : s.takeWhile (fun c => !isNumChar c) = []
  · simp [hu] at h
  · have := List.length_pos.mpr hu
    rw [if_neg hu] at h
    split at h
    · cases h
    · split_ifs at h <;> cases h <;> omega

theorem component_rest_lt {s r : List Char} {v : Nat} (h : component s = .ok (v, r)) :
    r.length < s.length := by
  unfold component at h
  split at h
  · cases h
  · split at h
    · cases h
    · split at h
      · cases h
      · rename_i s1 hs1
        dsimp only at h
        split_ifs at h
        exact (unitPart_rest_lt h).trans_le ((fractionPart_length s1).trans (leadingInt_length hs1))

/-- The loop of `ParseDuration`: the components one after another, each added by `d += v` into
the `uint64` total, which is checked against `1<<63` after each. Each component consumes a
character (`component_rest_lt`), so the fuel `s.length` never runs out (`durationLoop_fuel`). -/
def durationLoop : Nat → List Char → Nat → Except DurationError Nat
  | _, [], d => .ok d
  | 0, _ :: _, _ => .error .invalid
  | n + 1, c :: cs, d =>
    match component (c :: cs) with
    | .error e => .error e
    | .ok (v, rest) =>
      if 2 ^ 63 < (d + v) % 2 ^ 64 then .error .invalid else durationLoop n rest ((d + v) % 2 ^ 64)

theorem durationLoop_fuel : ∀ (n m : Nat) (s : List Char) (d : Nat),
    s.length ≤ n → s.length ≤ m → durationLoop n s d = durationLoop m s d
  | _, _, [], _, _, _ => by simp [durationLoop]
  | 0, _, _ :: _, _, h, _ => by simp at h
  | _, 0, _ :: _, _, _, h => by simp at h
  | n + 1, m + 1, c :: cs, d, hn, hm => by
    simp only [durationLoop]
    split
    · rfl
    · rename_i v rest hc
      have := component_rest_lt hc
      simp only [List.length_cons] at this hn hm
      rw [durationLoop_fuel n m rest ((d + v) % 2 ^ 64) (by omega) (by omega)]

/-- `time.ParseDuration`, in nanoseconds. -/
def parseDuration (orig : String) : Except DurationError Int :=
  let (neg, s) : Bool × List Char := match orig.toList with
    | '-' :: r => (true, r)
    | '+' :: r => (false, r)
    | r => (false, r)
  if s = ['0'] then .ok 0
  else if s = [] then .error .invalid
  else match durationLoop s.length s 0 with
    | .error e => .error e
    | .ok d => if neg then .ok (-(d : Int)) else if 2 ^ 63 - 1 < d then .error .invalid else .ok d

/-- The `quote` of package `time`: printable ASCII as it is with `"` and `\\` escaped, every byte of
any other character as `\\xhh`. -/
def timeQuote (s : String) : String :=
  let hex (n : Nat) : Char := "0123456789abcdef".toList.getD n '0'
  let esc (c : Char) : List Char :=
    if 0x80 ≤ c.toNat ∨ c.toNat < 0x20 then
      (String.utf8EncodeChar c).flatMap fun b => ['\\', 'x', hex (b.toNat / 16), hex (b.toNat % 16)]
    else if c = '"' ∨ c = '\\' then ['\\', c] else [c]
  String.mk ('"' :: s.toList.flatMap esc ++ ['"'])

/-- The `error` `ParseDuration` returns for the input `orig`. -/
def DurationError.toError (orig : String) : DurationError → Error
  | .invalid => .new ("time: invalid duration " ++ timeQuote orig)
  | .missingUnit => .new ("time: missing unit in duration " ++ timeQuote orig)
  | .unknownUnit u => .new ("time: unknown unit " ++ timeQuote u ++ " in duration " ++ timeQuote orig)

/-- The precision check of `NewBatchPoints` and `SetPrecision`: `time.ParseDuration("1" + p)`. -/
def validPrecision (p : String) : Bool := (parseDuration ("1" ++ p)).toBool

/-- `1.3333333333333333333h` is `4800000000000` ns in `float64`, so the total is `1<<63`, past
`int64`. -/
example : validPrecision ".3333333333333333333h9223367236854775808ns" = false := by decide

/-- The total `1<<63` after two components wraps to `0` with the third. -/
example : validPrecision "ns9223372036854775807ns9223372036854775808ns" = true := by decide

/-! ## Reading a duration piece by piece

`NumberFirst t` says that `t` is empty or starts a new component. Appended after a component, such a
`t` leaves the component as it was (`component_append`), so the loop reads a concatenation as one
string after the other (`durationLoop_append`). -/

/-- `t` is empty or starts with `.` or a digit, as every component does. -/
def NumberFirst (t : List Char) : Prop := ∀ c, t.head? = some c → isNumChar c = true

/-- Appending `t` keeps a `takeWhile`/`dropWhile` split, unless the scan ran to the end of `s` and
`t` goes on with the run. -/
theorem takeWhile_dropWhile_append (p : Char → Bool) (s t : List Char)
    (ht : s.dropWhile p = [] → ∀ c, t.head? = some c → p c = false) :
    (s ++ t).takeWhile p = s.takeWhile p ∧ (s ++ t).dropWhile p = s.dropWhile p ++ t := by
  have e := congrArg List.length (List.takeWhile_append_dropWhile p s)
  rw [List.length_append] at e
  by_cases hd : s.dropWhile p = []
  · have hall := List.dropWhile_eq_nil_iff.mp hd
    have htw : t.takeWhile p = [] := by
      cases t with
      | nil => rfl
      | cons c t => simp [List.takeWhile, ht hd c rfl]
    have htd : t.dropWhile p = t := by
      cases t with
      | nil => rfl
      | cons c t => simp [List.dropWhile, ht hd c rfl]
    rw [List.takeWhile_append_of_pos hall, List.dropWhile_append_of_pos hall, htw, htd, hd,
      List.takeWhile_eq_self_iff.mpr hall]
    simp
  · have hlen : (s.takeWhile p).length ≠ s.length := by
      have := List.length_pos.mpr hd
      omega
    rw [List.takeWhile_append, if_neg hlen, List.dropWhile_append]
    simp [hd]

theorem leadingInt_append : ∀ {s r : List Char} {x v : Nat}, leadingInt s x = some (v, r) →
    r ≠ [] → ∀ t, leadingInt (s ++ t) x = some (v, r ++ t)
  | [], r, x, v, h, hr, _ => by simp [leadingInt] at h; exact absurd h.2 hr
  | c :: cs, r, x, v, h, hr, t => by
    rw [List.cons_append]
    simp only [leadingInt] at h ⊢
    split_ifs at h ⊢
    · exact leadingInt_append h hr t
    · cases h; rfl

theorem leadingFraction_append (t : List Char) : ∀ (s : List Char) (x scale : Nat) (o : Bool),
    (leadingFraction s x scale o).2.2 ≠ [] →
      leadingFraction (s ++ t) x scale o =
        ((leadingFraction s x scale o).1, (leadingFraction s x scale o).2.1,
          (leadingFraction s x scale o).2.2 ++ t)
  | [], _, _, _, h => absurd rfl h
  | c :: cs, x, scale, o, h => by
    rw [List.cons_append]
    simp only [leadingFraction] at h ⊢
    split_ifs at h ⊢
    · exact leadingFraction_append t cs _ _ _ h
    · exact leadingFraction_append t cs _ _ _ h
    · rfl

theorem fractionPart_of_ne {c : Char} (hc : c ≠ '.') (l : List Char) :
    fractionPart (c :: l) = ⟨0, 1, c :: l, false⟩ := by
  unfold fractionPart
  split
  · rename_i h; cases h; exact absurd rfl hc
  · rfl

theorem fractionPart_append {s : List Char} (hs : s ≠ []) (hr : (fractionPart s).rest ≠ [])
    (t : List Char) :
    fractionPart (s ++ t) = { fractionPart s with rest := (fractionPart s).rest ++ t } := by
  obtain ⟨c, cs, rfl⟩ := List.exists_cons_of_ne_nil hs
  by_cases hc : c = '.'
  · subst hc
    simp only [fractionPart] at hr ⊢
    rw [List.cons_append]
    simp only [leadingFraction_append t cs 0 1 false hr, List.length_append]
    congr 1
    rw [Bool.eq_iff_iff, bne_iff_ne, bne_iff_ne]
    omega
  · rw [List.cons_append, fractionPart_of_ne hc, fractionPart_of_ne hc]
    rfl

/-- `unitPart` reads only the unit, `s.takeWhile`, and hands back `s.dropWhile` as the rest. -/
theorem unitPart_congr {s s' : List Char}
    (hu : s'.takeWhile (fun c => !isNumChar c) = s.takeWhile (fun c => !isNumChar c))
    (v f scale : Nat) :
    unitPart v f scale s' =
      (unitPart v f scale s).map (fun x => (x.1, s'.dropWhile (fun c => !isNumChar c))) := by
  unfold unitPart
  rw [hu]
  by_cases h0 : s.takeWhile (fun c => !isNumChar c) = []
  · simp only [h0, if_true]
    rfl
  simp only [h0, if_false]
  rcases unitOf (s.takeWhile fun c => !isNumChar c) with _ | unit
  · rfl
  -- the unit's checks, the same on both sides
  by_cases h1 : 2 ^ 63 / unit < v
  · simp only [h1, if_true]
    rfl
  by_cases h2 : 0 < f
  · by_cases h3 : 2 ^ 63 < v * unit + fractionNanos f unit scale <;>
      simp only [h1, h2, h3, if_true, if_false] <;> rfl
  · simp only [h1, h2, if_false]
    rfl

theorem unitPart_append {v f scale w : Nat} {s r : List Char}
    (h : unitPart v f scale s = .ok (w, r)) {t : List Char} (ht : r = [] → NumberFirst t) :
    unitPart v f scale (s ++ t) = .ok (w, r ++ t) := by
  -- the rest is `s.dropWhile`, so it decides whether the unit could run on into `t`
  have hr : s.dropWhile (fun c => !isNumChar c) = r := by
    have := unitPart_congr (s := s) rfl v f scale
    rw [h] at this
    cases this
    rfl
  obtain ⟨h1, h2⟩ := takeWhile_dropWhile_append (fun c => !isNumChar c) s t
    fun hd c hc => by simpa using ht (hr ▸ hd) c hc
  rw [unitPart_congr h1, h, h2, hr]
  rfl

theorem unitPart_nil (v f scale : Nat) : unitPart v f scale [] = .error .missingUnit := rfl

theorem component_append {s r : List Char} {v : Nat} (h : component s = .ok (v, r))
    {t : List Char} (ht : r = [] → NumberFirst t) : component (s ++ t) = .ok (v, r ++ t) := by
  obtain ⟨c, cs, rfl⟩ : ∃ c cs, s = c :: cs := by
    cases s with
    | nil => cases h
    | cons c cs => exact ⟨c, cs, rfl⟩
  unfold component at h ⊢
  rw [List.cons_append]
  simp only [List.head?_cons] at h ⊢
  split_ifs at h ⊢
  rcases hl : leadingInt (c :: cs) 0 with _ | ⟨v0, s1⟩
  · simp [hl] at h
  simp only [hl] at h
  -- the number is followed by a unit, so neither the integer nor the fraction reaches the end
  have hs1 : s1 ≠ [] := by
    rintro rfl
    simp [fractionPart, unitPart_nil] at h
  have hfr : (fractionPart s1).rest ≠ [] := by
    intro he
    rw [he, unitPart_nil] at h
    split_ifs at h
  have hl' := leadingInt_append hl hs1 t
  rw [List.cons_append] at hl'
  have hlen : (s1 ++ t).length = (c :: (cs ++ t)).length ↔ s1.length = (c :: cs).length := by
    simp only [List.length_append, List.length_cons]
    omega
  rw [hl']
  dsimp only
  rw [fractionPart_append hs1 hfr t]
  split_ifs at h with hcond
  rw [if_neg (by simpa only [hlen] using hcond)]
  exact unitPart_append h ht

theorem component_numberFirst {s r : List Char} {v : Nat} (h : component s = .ok (v, r)) :
    NumberFirst s := by
  intro c hc
  unfold component at h
  rw [hc] at h
  dsimp only at h
  split_ifs at h with hn
  simpa using hn

theorem durationLoop_append {t : List Char} (ht : NumberFirst t) :
    ∀ (n : Nat) (s : List Char) (d d' : Nat), s.length ≤ n → durationLoop n s d = .ok d' →
      durationLoop (n + t.length) (s ++ t) d = durationLoop t.length t d'
  | n, [], d, d', _, h => by
    simp only [durationLoop] at h
    cases h
    exact durationLoop_fuel _ _ t d (by simp) le_rfl
  | 0, _ :: _, _, _, hl, _ => by simp at hl
  | n + 1, c :: cs, d, d', hl, h => by
    simp only [durationLoop] at h
    rcases hc : component (c :: cs) with e | ⟨v, rest⟩
    · simp [hc] at h
    simp only [hc] at h
    split_ifs at h with hov
    have hrest := component_rest_lt hc
    have hc' := component_append hc (fun _ => ht)
    rw [List.cons_append] at hc'
    rw [show n + 1 + t.length = (n + t.length) + 1 by omega, List.cons_append]
    simp only [durationLoop, hc', hov, if_false]
    exact durationLoop_append ht n rest ((d + v) % 2 ^ 64) d'
      (by simp only [List.length_cons] at hl hrest; omega) h

/-- `ParseDuration` on a string with an optional `-` before a body that is neither empty nor
`"0"` and does not start with a sign: the loop's total, negated or checked against `1<<63 - 1`. -/
theorem parseDuration_sign (neg : Bool) {l : List Char} (hne : l ≠ []) (h0 : l ≠ ['0'])
    (hs : l.head? ≠ some '-' ∧ l.head? ≠ some '+') :
    parseDuration (String.mk ((if neg then ['-'] else []) ++ l)) =
      match durationLoop l.length l 0 with
      | .error e => .error e
      | .ok d =>
        if neg then .ok (-(d : Int)) else if 2 ^ 63 - 1 < d then .error .invalid else .ok d := by
  obtain ⟨c, cs, rfl⟩ := List.exists_cons_of_ne_nil hne
  have hc : c ≠ '-' ∧ c ≠ '+' := ⟨fun e => hs.1 (by rw [e]; rfl), fun e => hs.2 (by rw [e]; rfl)⟩
  cases neg <;> simp only [parseDuration, hc, h0] <;>
    simp only [String.toList, Bool.false_eq_true, ↓reduceIte, List.nil_append, List.cons.injEq, hc,
      false_and, imp_self, implies_true, h0, reduceCtorEq, List.length_cons, Nat.add_one_sub_one,
      List.singleton_append]

theorem parseDuration_unsigned {a : String} {x : Int} (h : parseDuration a = .ok x)
    (hs : a.toList.head? ≠ some '-' ∧ a.toList.head? ≠ some '+') (h0 : a.toList ≠ ['0']) :
    a.toList ≠ [] ∧ ∃ d : Nat, durationLoop a.toList.length a.toList 0 = .ok d ∧
      d ≤ 2 ^ 63 - 1 ∧ x = d := by
  obtain ⟨l⟩ := a
  dsimp only [String.toList] at hs h0 ⊢
  have hne : l ≠ [] := by
    rintro rfl
    simp [parseDuration] at h
  refine ⟨hne, ?_⟩
  have e := parseDuration_sign false hne h0 hs
  simp only [Bool.false_eq_true, ↓reduceIte, List.nil_append] at e
  rw [e] at h
  rcases hl : durationLoop l.length l 0 with err | d
  · simp [hl] at h
  · simp only [hl] at h
    split_ifs at h with hd
    cases h
    exact ⟨d, rfl, by omega, rfl⟩

/-- `leadingInt` reads the decimal value of the digits, or fails once it passes `1<<63`. -/
theorem leadingInt_digits {rest : List Char}
    (hrest : ∀ c, rest.head? = some c → c.isDigit = false) :
    ∀ (ds : List Char) (x : Nat), (∀ c ∈ ds, c.isDigit = true) → x ≤ 2 ^ 63 →
      leadingInt (ds ++ rest) x =
        if ds.foldl (fun n c => n * 10 + (c.toNat - '0'.toNat)) x ≤ 2 ^ 63 then
          some (ds.foldl (fun n c => n * 10 + (c.toNat - '0'.toNat)) x, rest)
        else none
  | [], x, _, hx => by
    cases rest with
    | nil => simpa [leadingInt] using hx
    | cons c cs => simpa [leadingInt, hrest c rfl] using hx
  | c :: ds, x, hds, hx => by
    have hc := hds c (List.mem_cons_self _ _)
    have hmono := le_foldl_decimal ds (x * 10 + (c.toNat - '0'.toNat))
    simp only [List.cons_append, leadingInt, hc, if_true, List.foldl_cons, List.append_eq]
    by_cases h1 : 2 ^ 63 / 10 < x
    · rw [if_pos h1, if_neg (by omega)]
    · by_cases h2 : 2 ^ 63 < x * 10 + (c.toNat - '0'.toNat)
      · rw [if_neg h1, if_pos h2, if_neg (by omega)]
      · rw [if_neg h1, if_neg h2,
          leadingInt_digits hrest ds _ (fun c h => hds c (List.mem_cons_of_mem _ h)) (by omega)]

/-- A unit of `unitMap` is found by `unitOf`, is positive, and is spelt without digits or `.`. -/
theorem unitOf_of_mem {u : String} {k : Nat} (h : (u, k) ∈ unitMap) :
    unitOf u.toList = some k ∧ 0 < k ∧ u.toList ≠ [] ∧ ∀ c ∈ u.toList, isNumChar c = false := by
  simp only [unitMap, List.mem_cons, Prod.mk.injEq, List.mem_singleton, List.not_mem_nil,
    or_false] at h
  rcases h with ⟨rfl, rfl⟩ | ⟨rfl, rfl⟩ | ⟨rfl, rfl⟩ | ⟨rfl, rfl⟩ | ⟨rfl, rfl⟩ | ⟨rfl, rfl⟩ |
    ⟨rfl, rfl⟩ | ⟨rfl, rfl⟩ <;> decide

/-- A term of digits and a unit, followed by a string that starts a new term, is read as the
digits' value times the unit, when that is at most `1<<63`. -/
theorem component_digits {ds : List Char} (hne : ds ≠ []) (hds : ∀ c ∈ ds, c.isDigit = true)
    {ul : List Char} {k : Nat} (hk : unitOf ul = some k) (hpos : 0 < k) (hune : ul ≠ [])
    (hnum : ∀ c ∈ ul, isNumChar c = false) {rest : List Char} (hrest : NumberFirst rest) :
    component (ds ++ ul ++ rest) =
      if decimalValue ds * k ≤ 2 ^ 63 then .ok (decimalValue ds * k, rest) else .error .invalid := by
  obtain ⟨c, cs, rfl⟩ := List.exists_cons_of_ne_nil hne
  obtain ⟨c', us, rfl⟩ := List.exists_cons_of_ne_nil hune
  have hc : c.isDigit = true := hds c (List.mem_cons_self _ _)
  have hc' : c' ≠ '.' ∧ c'.isDigit = false := by
    simpa [isNumChar] using hnum c' (List.mem_cons_self _ _)
  have hl := @leadingInt_digits (c' :: us ++ rest) (fun d hd => by cases hd; exact hc'.2) (c :: cs) 0
    hds (Nat.zero_le _)
  -- the unit is the run of letters up to `rest`
  obtain ⟨htw, hdw⟩ := takeWhile_dropWhile_append (fun c => !isNumChar c) (c' :: us) rest
    fun _ d hd => by simpa using hrest d hd
  rw [(List.takeWhile_eq_self_iff (l := c' :: us)).mpr (by simpa using hnum)] at htw
  rw [(List.dropWhile_eq_nil_iff (l := c' :: us)).mpr (by simpa using hnum), List.nil_append] at hdw
  unfold component
  simp only [List.append_assoc, List.cons_append, List.head?_cons, isNumChar, hc, Bool.or_true,
    Bool.not_true, Bool.false_eq_true, if_false]
  rw [List.cons_append, List.cons_append] at hl
  rw [hl, decimalValue]
  by_cases hv : (c :: cs).foldl (fun n c => n * 10 + (c.toNat - '0'.toNat)) 0 ≤ 2 ^ 63
  · rw [if_pos hv]
    dsimp only
    rw [fractionPart_of_ne hc'.1]
    simp only [List.length_append, List.length_cons]
    rw [if_neg (by omega)]
    unfold unitPart
    rw [← List.cons_append, htw, if_neg (List.cons_ne_nil _ _), hk, hdw]
    simp only [Nat.lt_irrefl, if_false, Nat.div_lt_iff_lt_mul hpos]
    split_ifs <;> first | rfl | omega
  · have : 2 ^ 63 < (c :: cs).foldl (fun n c => n * 10 + (c.toNat - '0'.toNat)) 0 * k :=
      lt_of_lt_of_le (not_le.mp hv) (Nat.le_mul_of_pos_right _ hpos)
    rw [if_neg hv, if_neg (by omega)]

/-- A term `[0-9]+unit` of a duration: digits and an entry of `unitMap`. -/
structure Term where
  digits : List Char
  unit : String × Nat
  digits_ne : digits ≠ []
  isDigit : ∀ c ∈ digits, c.isDigit = true
  unit_mem : unit ∈ unitMap

/-- The text of a term. -/
def Term.text (t : Term) : List Char := t.digits ++ t.unit.1.toList

/-- The nanoseconds a term stands for. -/
def Term.value (t : Term) : Nat := decimalValue t.digits * t.unit.2

theorem numberFirst_flatMap_text : ∀ ts : List Term, NumberFirst (ts.flatMap Term.text)
  | [] => fun _ h => by cases h
  | t :: _ => fun c h => by
    obtain ⟨d, ds, hd⟩ := List.exists_cons_of_ne_nil t.digits_ne
    simp only [List.flatMap_cons, Term.text, hd, List.cons_append, List.head?_cons,
      Option.some.injEq] at h
    subst h
    simp [isNumChar, t.isDigit d (hd ▸ List.mem_cons_self _ _)]

/-- The loop of `ParseDuration` adds the terms' values to its total, or fails once the total would
pass `1<<63`. No term stands for `1<<63` alone, so the `uint64` total never wraps. -/
theorem durationLoop_terms : ∀ (ts : List Term) (a : Nat), a ≤ 2 ^ 63 →
    (∀ t ∈ ts, t.value ≠ 2 ^ 63) →
    durationLoop (ts.flatMap Term.text).length (ts.flatMap Term.text) a =
      if a + (ts.map Term.value).sum ≤ 2 ^ 63 then .ok (a + (ts.map Term.value).sum)
      else .error .invalid
  | [], a, ha, _ => by
    simp only [List.flatMap_nil, List.map_nil, List.sum_nil, Nat.add_zero, if_pos ha]
    rfl
  | t :: ts, a, ha, hts => by
    obtain ⟨hk, hpos, hune, hnum⟩ := unitOf_of_mem t.unit_mem
    have hc : component (t.digits ++ t.unit.1.toList ++ ts.flatMap Term.text) =
        if t.value ≤ 2 ^ 63 then .ok (t.value, ts.flatMap Term.text) else .error .invalid :=
      component_digits t.digits_ne t.isDigit hk hpos hune hnum (numberFirst_flatMap_text ts)
    have ht := hts t (List.mem_cons_self _ _)
    obtain ⟨d, ds, hd⟩ := List.exists_cons_of_ne_nil t.digits_ne
    simp only [List.flatMap_cons, List.map_cons, List.sum_cons]
    rw [Term.text, hd, List.cons_append, List.cons_append, List.length_cons]
    rw [hd, List.cons_append, List.cons_append] at hc
    simp only [durationLoop, hc]
    by_cases hv : t.value ≤ 2 ^ 63
    · -- `d += v` stays below `2^64`
      rw [if_pos hv]
      dsimp only
      rw [Nat.mod_eq_of_lt (show a + t.value < 2 ^ 64 by omega)]
      by_cases h1 : 2 ^ 63 < a + t.value
      · rw [if_pos h1, if_neg (by omega)]
      · rw [if_neg h1, durationLoop_fuel _ (ts.flatMap Term.text).length _ _ ?_ le_rfl,
          durationLoop_terms ts (a + t.value) (by omega) (fun t' h => hts t' (List.mem_cons_of_mem _ h)),
          Nat.add_assoc]
        simp only [List.length_append, List.length_cons]
        omega
    · rw [if_neg hv, if_neg (by omega)]

/-- `ParseDuration` on terms of digits and units, with an optional `-`: the sum of the terms'
values, when it lies in the range of `int64`. No term may stand for `1<<63` alone: after a total of
`1<<63`, such a term wraps the `uint64` total to `0`. -/
theorem parseDuration_terms (neg : Bool) {ts : List Term} (hne : ts ≠ [])
    (hts : ∀ t ∈ ts, t.value ≠ 2 ^ 63) :
    parseDuration (String.mk ((if neg then ['-'] else []) ++ ts.flatMap Term.text)) =
      if (ts.map Term.value).sum ≤ (if neg then 2 ^ 63 else 2 ^ 63 - 1) then
        .ok (if neg then -((ts.map Term.value).sum : Int) else (ts.map Term.value).sum)
      else .error .invalid := by
  obtain ⟨t, ts', rfl⟩ := List.exists_cons_of_ne_nil hne
  obtain ⟨d, ds, hd⟩ := List.exists_cons_of_ne_nil t.digits_ne
  have hdig : d.isDigit = true := t.isDigit d (hd ▸ List.mem_cons_self _ _)
  have hl : (t :: ts').flatMap Term.text = d :: (ds ++ t.unit.1.toList ++ ts'.flatMap Term.text) := by
    simp only [List.flatMap_cons, Term.text, hd, List.cons_append, List.append_assoc]
  have hs : ((t :: ts').flatMap Term.text).head? ≠ some '-' ∧
      ((t :: ts').flatMap Term.text).head? ≠ some '+' := by
    rw [hl]
    constructor <;> rintro ⟨⟩ <;> simp at hdig
  have h0 : (t :: ts').flatMap Term.text ≠ ['0'] := by
    rw [hl]
    intro he
    have hnil := (List.cons.inj he).2
    simp only [List.append_eq_nil] at hnil
    exact (unitOf_of_mem t.unit_mem).2.2.1 hnil.1.2
  rw [parseDuration_sign neg (by rw [hl]; exact List.cons_ne_nil _ _) h0 hs,
    durationLoop_terms _ 0 (Nat.zero_le _) hts, Nat.zero_add]
  by_cases hv : ((t :: ts').map Term.value).sum ≤ 2 ^ 63
  · rw [if_pos hv]
    cases neg
    · simp only [Bool.false_eq_true, ↓reduceIte]
      split_ifs <;> first | rfl | omega
    · simp only [↓reduceIte, hv]
  · rw [if_neg hv]
    cases neg <;> simp only [Bool.false_eq_true, ↓reduceIte] <;> rw [if_neg (by omega)]

/-- `1h30m`. -/
def hourHalfTerms : List Term :=
  [⟨['1'], ("h", 3600000000000), by decide, by decide, by decide⟩,
    ⟨['3', '0'], ("m", 60000000000), by decide, by decide, by decide⟩]

theorem parseDuration_terms_hour_half :
    hourHalfTerms ≠ [] ∧ (∀ t ∈ hourHalfTerms, t.value ≠ 2 ^ 63) ∧
    parseDuration (String.mk ((if false then ['-'] else []) ++ hourHalfTerms.flatMap Term.text)) =
      .ok 5400000000000 :=
  ⟨List.cons_ne_nil _ _, by decide,
    (@parseDuration_terms false hourHalfTerms (List.cons_ne_nil _ _) (by decide)).trans rfl⟩

/-- Two terms of `1<<63` ns: the total wraps to `0` and is accepted. -/
example : parseDuration "9223372036854775808ns9223372036854775808ns" = .ok 0 := rfl

/-- After any unsigned duration that parses, terms of digits and units add their values to it,
within the range of `int64`, as long as no term stands for `1<<63` alone. -/
theorem parseDuration_append {a : String} {x : Int} (ha : parseDuration a = .ok x)
    (hsa : a.toList.head? ≠ some '-' ∧ a.toList.head? ≠ some '+') (ha0 : a.toList ≠ ['0'])
    {ts : List Term} (hts : ∀ t ∈ ts, t.value ≠ 2 ^ 63) :
    parseDuration (a ++ String.mk (ts.flatMap Term.text)) =
      if x + (ts.map Term.value).sum ≤ 2 ^ 63 - 1 then .ok (x + (ts.map Term.value).sum)
      else .error .invalid := by
  obtain ⟨hna, dx, hlx, hx, rfl⟩ := parseDuration_unsigned ha hsa ha0
  obtain ⟨la⟩ := a
  dsimp only [String.toList] at hsa hna hlx
  -- the terms are read after `a`, from the total `dx`
  have hloop := durationLoop_append (numberFirst_flatMap_text ts) la.length la 0 dx le_rfl hlx
  rw [durationLoop_terms ts dx (by omega) hts] at hloop
  have hs : (la ++ ts.flatMap Term.text).head? ≠ some '-' ∧
      (la ++ ts.flatMap Term.text).head? ≠ some '+' := by
    rwa [List.head?_append_of_ne_nil _ hna]
  have h0 : la ++ ts.flatMap Term.text ≠ ['0'] := fun he => by
    obtain ⟨c, cs, rfl⟩ := List.exists_cons_of_ne_nil hna
    obtain ⟨rfl, hnil⟩ := List.cons.inj he
    exact ha0 (by rw [(List.append_eq_nil.mp hnil).1]; rfl)
  have e := parseDuration_sign false (List.append_ne_nil_of_left_ne_nil hna _) h0 hs
  simp only [Bool.false_eq_true, ↓reduceIte, List.nil_append, List.length_append] at e
  rw [show (⟨la⟩ : String) ++ ⟨ts.flatMap Term.text⟩ = ⟨la ++ ts.flatMap Term.text⟩ from rfl, e,
    hloop]
  by_cases h1 : dx + (ts.map Term.value).sum ≤ 2 ^ 63
  · rw [if_pos h1]
    dsimp only
    by_cases h2 : (dx : Int) + (ts.map Term.value).sum ≤ 2 ^ 63 - 1
    · rw [if_neg (show ¬2 ^ 63 - 1 < dx + (ts.map Term.value).sum by omega), if_pos h2, Nat.cast_add]
    · rw [if_pos (show 2 ^ 63 - 1 < dx + (ts.map Term.value).sum by omega), if_neg h2]
  · rw [if_neg h1, if_neg (by omega)]

/-- `30m`. -/
def halfHourTerms : List Term := [⟨['3', '0'], ("m", 60000000000), by decide, by decide, by decide⟩]

theorem parseDuration_append_half_hour :
    parseDuration "1.5h" = .ok 5400000000000 ∧ (∀ t ∈ halfHourTerms, t.value ≠ 2 ^ 63) ∧
    parseDuration ("1.5h" ++ String.mk (halfHourTerms.flatMap Term.text)) = .ok 7200000000000 :=
  ⟨rfl, by decide,
    (@parseDuration_append "1.5h" 5400000000000 rfl (by decide) (by decide) halfHourTerms
      (by decide)).trans rfl⟩

end Tsdb
