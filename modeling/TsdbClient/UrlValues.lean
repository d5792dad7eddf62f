import TsdbClient.Wire

/-!
# `url.Values`: the query of a request

`Write` reads the query of the client's address with `req.URL.Query()` (`ParseQuery`, whose error
it drops), sets `db` and `precision` on it, and writes it back with `Encode`. A Go string is its
bytes (`List UInt8`); `bytesOf` gives the bytes of the model's `String`s.

* `queryEscape` : `QueryEscape`: an unreserved byte as it is, a space as `+`, any other byte as
  `%` and two upper-case hex digits;
* `unescapeCheck`, `unescapeBuild`, `queryUnescape` : `QueryUnescape`, the check that every `%`
  has two hex digits after it, then the pass that decodes;
* `queryUnescape_queryEscape` : `QueryUnescape` reads `QueryEscape s` back as `s`;
* `Values`, `Values.get`, `Values.set`, `Values.add` : `url.Values`, `v[key]`, `Set` and the
  append of `parseQuery`;
* `cut`, `Values.addPair`, `parseQuery` : `strings.Cut` and `ParseQuery`, pair by pair;
* `Values.encode` : `Encode`, the keys in sorted order;
* `parseQuery_encode` : `ParseQuery` reads `Encode v` back as `v`, key by key, since an escaped key
  or value holds none of `&`, `;` and `=` (`sep_not_mem_queryEscape`).
-/

namespace Tsdb

set_option autoImplicit false

/-- The bytes of a string (`[]byte(s)`): its UTF-8 encoding. -/
def bytesOf (s : String) : List UInt8 := s.toList.flatMap String.utf8EncodeChar

/-! ## `QueryEscape` and `QueryUnescape` -/

/-- `shouldEscape(c, encodeQueryComponent)`: every byte but the unreserved `A-Z`, `a-z`, `0-9`,
`-`, `_`, `.` and `~`. -/
def shouldEscape (c : UInt8) : Bool :=
  !((97 ≤ c && c ≤ 122) || (65 ≤ c && c ≤ 90) || (48 ≤ c && c ≤ 57) ||
    c == 45 || c == 95 || c == 46 || c == 126)

/-- `upperhex[n]`, the digit `n < 16` in upper case. -/
def upperhex (n : Nat) : UInt8 := UInt8.ofNat (if n < 10 then 48 + n else 55 + n)

/-- What `escape(s, encodeQueryComponent)` writes for the byte `c`. -/
def escapeByte (c : UInt8) : List UInt8 :=
  if c = 32 then [43]
  else if shouldEscape c then [37, upperhex (c.toNat / 16), upperhex (c.toNat % 16)]
  else [c]

/-- `QueryEscape`. -/
def queryEscape (s : List UInt8) : List UInt8 := s.flatMap escapeByte

/-- `ishex`. -/
def ishex (c : UInt8) : Bool := (48 ≤ c && c ≤ 57) || (97 ≤ c && c ≤ 102) || (65 ≤ c && c ≤ 70)

/-- `unhex`. -/
def unhex (c : UInt8) : Nat :=
  if 48 ≤ c ∧ c ≤ 57 then c.toNat - 48
  else if 97 ≤ c ∧ c ≤ 102 then c.toNat - 87
  else if 65 ≤ c ∧ c ≤ 70 then c.toNat - 55
  else 0

/-- The first loop of `unescape`: every `%` is followed by two hex digits. -/
def unescapeCheck : List UInt8 → Bool
  | [] => true
  | c :: s =>
    if c = 37 then
      match s with
      | a :: b :: s => ishex a && ishex b && unescapeCheck s
      | _ => false
    else unescapeCheck s

/-- The second loop of `unescape`: `%XX` becomes its byte and `+` a space. -/
def unescapeBuild : List UInt8 → List UInt8
  | [] => []
  | c :: s =>
    if c = 37 then
      match s with
      | a :: b :: s => UInt8.ofNat (unhex a * 16 + unhex b) :: unescapeBuild s
      | _ => []
    else if c = 43 then 32 :: unescapeBuild s
    else c :: unescapeBuild s

/-- `QueryUnescape`: `none` for the `EscapeError` of a `%` without two hex digits after it. -/
def queryUnescape (s : List UInt8) : Option (List UInt8) :=
  if unescapeCheck s then some (unescapeBuild s) else none

theorem uint8_toNat_ofNat {n : Nat} (h : n < 256) : (UInt8.ofNat n).toNat = n := by
  show n % 256 = n
  omega

theorem unhex_upperhex : ∀ n < 16, unhex (upperhex n) = n ∧ ishex (upperhex n) = true := by
  decide

theorem uint8_ofNat_toNat (c : UInt8) : UInt8.ofNat c.toNat = c :=
  UInt8.ext_iff.mpr (uint8_toNat_ofNat (UInt8.toNat_lt_size c))

/-- `escape` keeps a byte unreserved, writes a space as `+`, and any other byte as `%` and two hex
digits, which `unhex` reads back. -/
theorem escapeByte_cases (c : UInt8) :
    (c = 32 ∧ escapeByte c = [43]) ∨
    (∃ hi lo : Nat, hi < 16 ∧ lo < 16 ∧ UInt8.ofNat (hi * 16 + lo) = c ∧
      escapeByte c = [37, upperhex hi, upperhex lo]) ∨
    (shouldEscape c = false ∧ escapeByte c = [c]) := by
  unfold escapeByte
  split_ifs with h32 hesc
  · exact .inl ⟨h32, rfl⟩
  · have hc : c.toNat < 256 := UInt8.toNat_lt_size c
    refine .inr (.inl ⟨c.toNat / 16, c.toNat % 16, by omega, by omega, ?_, rfl⟩)
    rw [Nat.div_add_mod', uint8_ofNat_toNat]
  · exact .inr (.inr ⟨by simpa using hesc, rfl⟩)

/-- An unreserved byte is none of `%`, `+`, `&`, `;` and `=`. -/
theorem ne_of_shouldEscape_false {c : UInt8} (h : shouldEscape c = false) :
    c ≠ 37 ∧ c ≠ 43 ∧ c ≠ 38 ∧ c ≠ 59 ∧ c ≠ 61 := by
  refine ⟨?_, ?_, ?_, ?_, ?_⟩ <;> (rintro rfl; revert h; decide)

theorem unescapeCheck_cons {c : UInt8} (h : c ≠ 37) (r : List UInt8) :
    unescapeCheck (c :: r) = unescapeCheck r := by
  match r with
  | [] | [_] | _ :: _ :: _ => simp [unescapeCheck, h]

theorem unescapeBuild_cons {c : UInt8} (h : c ≠ 37) (r : List UInt8) :
    unescapeBuild (c :: r) = (if c = 43 then 32 else c) :: unescapeBuild r := by
  match r with
  | [] | [_] | _ :: _ :: _ => by_cases h43 : c = 43 <;> simp [unescapeBuild, h, h43]

theorem unescape_escapeByte (c : UInt8) (r : List UInt8) :
    unescapeCheck (escapeByte c ++ r) = unescapeCheck r ∧
      unescapeBuild (escapeByte c ++ r) = c :: unescapeBuild r := by
  rcases escapeByte_cases c with ⟨rfl, he⟩ | ⟨hi, lo, hhi, hlo, hc, he⟩ | ⟨hesc, he⟩ <;>
    rw [he, List.cons_append]
  · exact ⟨unescapeCheck_cons (by decide) r, unescapeBuild_cons (by decide) r⟩
  · obtain ⟨h1, h2⟩ := unhex_upperhex hi hhi
    obtain ⟨h3, h4⟩ := unhex_upperhex lo hlo
    simp [unescapeCheck, unescapeBuild, h1, h2, h3, h4, hc]
  · obtain ⟨h37, h43, -⟩ := ne_of_shouldEscape_false hesc
    simp [unescapeCheck_cons h37, unescapeBuild_cons h37, h43]

/-- `QueryUnescape` reads `QueryEscape s` back as `s`. -/
theorem queryUnescape_queryEscape (s : List UInt8) : queryUnescape (queryEscape s) = some s := by
  suffices h : unescapeCheck (queryEscape s) = true ∧ unescapeBuild (queryEscape s) = s by
    simp [queryUnescape, h.1, h.2]
  induction s with
  | nil => exact ⟨rfl, rfl⟩
  | cons c s ih =>
    rw [queryEscape, List.flatMap_cons, (unescape_escapeByte c _).1, (unescape_escapeByte c _).2]
    exact ⟨ih.1, by rw [← queryEscape, ih.2]⟩

theorem sep_not_mem_escapeByte (c : UInt8) : ∀ b ∈ escapeByte c, b ≠ 38 ∧ b ≠ 59 ∧ b ≠ 61 := by
  have hhex : ∀ n < 16, upperhex n ≠ 38 ∧ upperhex n ≠ 59 ∧ upperhex n ≠ 61 := by decide
  rcases escapeByte_cases c with ⟨-, he⟩ | ⟨hi, lo, hhi, hlo, -, he⟩ | ⟨hesc, he⟩ <;>
    simp only [he, List.mem_cons, List.mem_singleton, List.not_mem_nil, or_false, forall_eq_or_imp,
      forall_eq]
  · decide
  · exact ⟨by decide, hhex hi hhi, hhex lo hlo⟩
  · exact (ne_of_shouldEscape_false hesc).2.2

/-- `a=1&b=&` (`%26`) with a space (`+`) after the `b`. -/
example : queryUnescape (bytesOf "a%3D1%26b+%26") = some (bytesOf "a=1&b &") ∧
    queryEscape (bytesOf "a=1&b &") = bytesOf "a%3D1%26b+%26" := by decide

/-- `QueryEscape` writes none of `&`, `;` and `=`. -/
theorem sep_not_mem_queryEscape (s : List UInt8) :
    38 ∉ queryEscape s ∧ 59 ∉ queryEscape s ∧ 61 ∉ queryEscape s := by
  simp only [queryEscape, List.mem_flatMap, not_exists, not_and]
  exact ⟨fun c _ h => (sep_not_mem_escapeByte c _ h).1 rfl,
    fun c _ h => (sep_not_mem_escapeByte c _ h).2.1 rfl, fun c _ h => (sep_not_mem_escapeByte c _ h).2.2 rfl⟩

/-! ## `url.Values` -/

/-- `url.Values`: the values of each key, in the order they were added. -/
abbrev Values := AList fun _ : List UInt8 => List (List UInt8)

/-- `v[key]`: the values of `key`, none when it is absent. -/
def Values.get (v : Values) (key : List UInt8) : List (List UInt8) := (v.lookup key).getD []

/-- `v.Set(key, value)`. -/
def Values.set (v : Values) (key value : List UInt8) : Values := v.insert key [value]

/-- `m[key] = append(m[key], value)` in `parseQuery`. -/
def Values.add (v : Values) (key value : List UInt8) : Values := v.insert key (v.get key ++ [value])

@[simp] theorem Values.get_empty (key : List UInt8) : (∅ : Values).get key = [] := rfl

@[simp] theorem Values.get_set (v : Values) (key value k : List UInt8) :
    (v.set key value).get k = if k = key then [value] else v.get k := by
  by_cases h : k = key
  · subst h; simp [Values.set, Values.get]
  · simp [Values.set, Values.get, h, AList.lookup_insert_ne h]

@[simp] theorem Values.get_add (v : Values) (key value k : List UInt8) :
    (v.add key value).get k = if k = key then v.get k ++ [value] else v.get k := by
  by_cases h : k = key
  · subst h; simp [Values.add, Values.get]
  · simp [Values.add, Values.get, h, AList.lookup_insert_ne h]

/-- `strings.Cut(s, sep)` for a one-byte `sep`: the bytes before the first `sep` and the bytes
after it, or `s` and nothing when `sep` does not occur. -/
def cut (sep : UInt8) : List UInt8 → List UInt8 × List UInt8
  | [] => ([], [])
  | c :: s => if c = sep then ([], s) else (c :: (cut sep s).1, (cut sep s).2)

theorem cut_append {sep : UInt8} {a : List UInt8} (h : sep ∉ a) (b : List UInt8) :
    cut sep (a ++ sep :: b) = (a, b) := by
  induction a with
  | nil => simp [cut]
  | cons c a ih =>
    simp only [List.mem_cons, not_or] at h
    simp [cut, Ne.symm h.1, ih h.2]

/-- One pass of the loop of `parseQuery`, on the text `pair` up to the next `&`: a pair with `;`
and an empty pair are skipped, and so is one whose key or value does not unescape. -/
def Values.addPair (m : Values) (pair : List UInt8) : Values :=
  if 59 ∈ pair then m
  else if pair = [] then m
  else match queryUnescape (cut 61 pair).1, queryUnescape (cut 61 pair).2 with
    | some k, some v => m.add k v
    | _, _ => m

/-- `ParseQuery`, whose error `URL.Query` drops. Its loop cuts the query at each `&` in turn, so it
visits the texts `splitOn` gives; the empty ones it meets at the end are skipped as empty pairs. -/
def parseQuery (query : List UInt8) : Values := (query.splitOn 38).foldl Values.addPair ∅

/-- `Encode`: `key=value` for each value of each key, the keys in sorted order, joined by `&`, with
each key and value through `QueryEscape`. -/
def Values.encode (v : Values) : List UInt8 :=
  [38].intercalate (((v.keys.insertionSort (· ≤ ·)).flatMap fun k => (v.get k).map (k, ·)).map
    fun p => queryEscape p.1 ++ 61 :: queryEscape p.2)

theorem addPair_escaped (m : Values) (p : List UInt8 × List UInt8) :
    m.addPair (queryEscape p.1 ++ 61 :: queryEscape p.2) = m.add p.1 p.2 := by
  obtain ⟨-, h59k, h61k⟩ := sep_not_mem_queryEscape p.1
  obtain ⟨-, h59v, -⟩ := sep_not_mem_queryEscape p.2
  simp [Values.addPair, h59k, h59v, cut_append h61k, queryUnescape_queryEscape]

theorem get_foldl_add (k : List UInt8) :
    ∀ (ps : List (List UInt8 × List UInt8)) (m : Values),
      (ps.foldl (fun m p => m.add p.1 p.2) m).get k = m.get k ++ (ps.filter (·.1 = k)).map (·.2)
  | [], m => by simp
  | p :: ps, m => by
    rw [List.foldl_cons, get_foldl_add k ps, Values.get_add]
    by_cases h : k = p.1 <;> simp [h, List.filter_cons, Ne.symm]

theorem filter_flatMap_keys (v : Values) (k : List UInt8) :
    ∀ ks : List (List UInt8), ks.Nodup →
      ((ks.flatMap fun k => (v.get k).map (k, ·)).filter (·.1 = k)).map (·.2) =
        if k ∈ ks then v.get k else []
  | [], _ => rfl
  | k' :: ks, hnd => by
    obtain ⟨hk', hnd⟩ := List.nodup_cons.mp hnd
    rw [List.flatMap_cons, List.filter_append, List.map_append, filter_flatMap_keys v k ks hnd]
    by_cases h : k' = k
    · subst h
      simp [hk', List.filter_map, Function.comp_def]
    · simp [h, Ne.symm h, List.filter_map, Function.comp_def]

/-- `ParseQuery` reads pairs written as `key=value`, escaped and joined by `&`, one after the other. -/
theorem parseQuery_intercalate (ps : List (List UInt8 × List UInt8)) :
    parseQuery ([38].intercalate (ps.map fun p => queryEscape p.1 ++ 61 :: queryEscape p.2)) =
      ps.foldl (fun m p => m.add p.1 p.2) ∅ := by
  rcases ps with _ | ⟨p, ps⟩
  · rfl
  rw [parseQuery, List.splitOn_intercalate _ _ ?_ (by simp), List.foldl_map]
  · congr 1
    funext m p
    exact addPair_escaped m p
  · simp only [List.mem_map]
    rintro _ ⟨q, -, rfl⟩
    simp [(sep_not_mem_queryEscape q.1).1, (sep_not_mem_queryEscape q.2).1]

/-- `ParseQuery` reads `Encode v` back as `v`: every key has the values it had. -/
theorem parseQuery_encode (v : Values) (k : List UInt8) : (parseQuery v.encode).get k = v.get k := by
  have hperm : (v.keys.insertionSort (· ≤ ·)).Perm v.keys := List.perm_insertionSort _ _
  rw [Values.encode, parseQuery_intercalate, get_foldl_add, Values.get_empty, List.nil_append,
    filter_flatMap_keys v k _ (hperm.nodup_iff.mpr v.keys_nodup)]
  split_ifs with hk
  · rfl
  · -- a key `Encode` does not write has no value
    have : k ∉ v := fun h => hk (hperm.mem_iff.mpr (AList.mem_keys.mp h))
    simp [Values.get, AList.lookup_eq_none.mpr this]

/-- `a=1&b=%26`: the pairs in order, `%26` read as `&`. -/
example : (parseQuery (bytesOf "a=1&b=%26")).entries =
    (((∅ : Values).add (bytesOf "a") (bytesOf "1")).add (bytesOf "b") (bytesOf "&")).entries := by
  decide

end Tsdb
