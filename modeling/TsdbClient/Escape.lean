import TsdbClient.Wire

/-!
# `strings.Replacer`, the line-protocol escaper and `UnescapeString`

A Go string is its bytes (`List UInt8`). The package escapes the bytes the line protocol reserves,
`,` `"` ` ` and `=`, with a backslash (`String0`, through `escaper`) and undoes it
(`UnescapeString`, through `unescaper`, after a check for a backslash).

* `replaceScan` : `(*strings.Replacer).Replace`, the left-to-right scan; `replaceAll` :
  `strings.ReplaceAll`, the same scan with one pair; `replaceScan_of_not_infix`,
  `replaceScan_prefix` : a text without the old string is kept, an occurrence at the front is
  replaced;
* `string0`, `unescapeString` : `String0` and `UnescapeString`; `string0_cons` : `String0` byte by
  byte; `scan_unescaper_escape`, `scan_unescaper_copy` : the two moves of the unescaper;
* `scan_unescaper_string0` : the unescaper reads `String0 s` back as `s`, whatever follows, unless
  `s` ends in a backslash and a reserved byte follows;
* `unescapeString_string0` : the round trip; `unescapeString_delimited` : a reserved byte after an
  escaped token; `unescapeString_eq_replace` : the fast path agrees with the scan;
* `string0_escaped` : every reserved byte `String0` outputs follows a backslash, so a reader that
  splits on bare delimiters never splits an escaped token.
-/

namespace Tsdb

set_option autoImplicit false

/-! ## `strings.Replacer` -/

section Replacer

variable {α : Type} [DecidableEq α]

/-- `Replace` of a `strings.Replacer` built from the (old, new) `pairs`, as the package `strings`
specifies it for old strings that are not empty: the input is scanned from the left; where old
strings start, the first such pair in argument order is replaced and its old string passed over,
else one element is copied. `skip` counts the elements of a replaced old string still to pass
over. (`NewReplacer` builds a faster replacer with the same result when every old string is one
byte.) -/
def replaceScan (pairs : List (List α × List α)) : Nat → List α → List α
  | _, [] => []
  | skip + 1, _ :: s => replaceScan pairs skip s
  | 0, b :: s =>
    match pairs.find? (fun p => p.1.isPrefixOf (b :: s)) with
    | some (old, new) => new ++ replaceScan pairs (old.length - 1) s
    | none => b :: replaceScan pairs 0 s

/-- `strings.ReplaceAll(s, old, new)` for a non-empty `old`: its leftmost occurrences, without
overlap, are replaced. The model scans characters; the source scans bytes, which finds the same
occurrences of an ASCII `old` in a valid UTF-8 string. -/
def replaceAll (s old new : String) : String :=
  String.mk (replaceScan [(old.toList, new.toList)] 0 s.toList)

@[simp] theorem replaceScan_nil (pairs : List (List α × List α)) (skip : Nat) :
    replaceScan pairs skip [] = [] := by
  cases skip <;> rfl

theorem replaceScan_skip (pairs : List (List α × List α)) (l s : List α) :
    replaceScan pairs l.length (l ++ s) = replaceScan pairs 0 s := by
  induction l with
  | nil => rfl
  | cons a l ih => exact ih

theorem replaceScan_copy {pairs : List (List α × List α)} {b : α} {s : List α}
    (h : pairs.find? (fun p => p.1.isPrefixOf (b :: s)) = none) :
    replaceScan pairs 0 (b :: s) = b :: replaceScan pairs 0 s := by
  simp [replaceScan, h]

theorem replaceScan_replace {pairs : List (List α × List α)} {b : α} {s old new : List α}
    (h : pairs.find? (fun p => p.1.isPrefixOf (b :: s)) = some (old, new)) :
    replaceScan pairs 0 (b :: s) = new ++ replaceScan pairs (old.length - 1) s := by
  simp [replaceScan, h]

/-- A one-pair scan keeps a text in which the old string does not occur. -/
theorem replaceScan_of_not_infix {old new : List α} :
    ∀ {s : List α}, ¬ old <:+: s → replaceScan [(old, new)] 0 s = s
  | [], _ => rfl
  | b :: s, h => by
    have hp : old.isPrefixOf (b :: s) = false := by
      rw [Bool.eq_false_iff, ne_eq, List.isPrefixOf_iff_prefix]
      exact fun hp => h hp.isInfix
    rw [replaceScan_copy (by simp [hp]),
      replaceScan_of_not_infix fun hs => h (hs.trans (List.suffix_cons b s).isInfix)]

/-- A one-pair scan replaces an occurrence of the old string at the front. -/
theorem replaceScan_prefix {old new : List α} (hold : old ≠ []) (s : List α) :
    replaceScan [(old, new)] 0 (old ++ s) = new ++ replaceScan [(old, new)] 0 s := by
  obtain ⟨o, os, rfl⟩ := List.exists_cons_of_ne_nil hold
  have hp : (o :: os).isPrefixOf (o :: os ++ s) = true :=
    List.isPrefixOf_iff_prefix.mpr (List.prefix_append (o :: os) s)
  rw [List.cons_append, @replaceScan_replace α _ [(o :: os, new)] o (os ++ s) (o :: os) new
    (by simp [hp]), List.length_cons, Nat.add_sub_cancel, replaceScan_skip]

end Replacer

/-! ## The escaper and `UnescapeString` -/

/-- The bytes the line protocol reserves: `,` (44), `"` (34), ` ` (32) and `=` (61). -/
def reserved : List UInt8 := [44, 34, 32, 61]

/-- `escaper = strings.NewReplacer(",", "\,", "\"", "\\\"", " ", "\ ", "=", "\=")`: each reserved
byte to a backslash (92) and itself. -/
def escaper : List (List UInt8 × List UInt8) :=
  [([44], [92, 44]), ([34], [92, 34]), ([32], [92, 32]), ([61], [92, 61])]

/-- `unescaper = strings.NewReplacer("\,", ",", "\"", "\"", "\ ", " ", "\=", "=")`. -/
def unescaper : List (List UInt8 × List UInt8) :=
  [([92, 44], [44]), ([92, 34], [34]), ([92, 32], [32]), ([92, 61], [61])]

/-- `String0`: `escaper.Replace(in)`. -/
def string0 (s : List UInt8) : List UInt8 := replaceScan escaper 0 s

/-- `UnescapeString`: the input itself when it holds no backslash (`strings.IndexByte`), else
`unescaper.Replace(in)`. -/
def unescapeString (s : List UInt8) : List UInt8 :=
  if (92 : UInt8) ∉ s then s else replaceScan unescaper 0 s

theorem mem_reserved {c : UInt8} : c ∈ reserved ↔ c = 44 ∨ c = 34 ∨ c = 32 ∨ c = 61 := by
  simp [reserved]

theorem backslash_not_mem_reserved : (92 : UInt8) ∉ reserved := by decide

/-- `String0` byte by byte: a reserved byte is preceded by a backslash. -/
theorem string0_cons (b : UInt8) (s : List UInt8) :
    string0 (b :: s) = (if b ∈ reserved then [92, b] else [b]) ++ string0 s := by
  unfold string0
  by_cases hb : b ∈ reserved
  · rw [if_pos hb]
    rcases mem_reserved.mp hb with rfl | rfl | rfl | rfl <;> simp [replaceScan, escaper, List.find?, List.isPrefixOf]
  · rw [if_neg hb, replaceScan_copy (List.find?_eq_none.mpr ?_)]
    · rfl
    · simp only [mem_reserved, not_or] at hb
      simp [escaper, List.isPrefixOf, Ne.symm hb.1, Ne.symm hb.2.1, Ne.symm hb.2.2.1,
        Ne.symm hb.2.2.2]

theorem string0_append (s t : List UInt8) : string0 (s ++ t) = string0 s ++ string0 t := by
  induction s with
  | nil => rfl
  | cons b s ih => rw [List.cons_append, string0_cons, string0_cons, ih, List.append_assoc]

/-- A backslash and a reserved byte become that byte. -/
theorem scan_unescaper_escape {c : UInt8} (hc : c ∈ reserved) (s : List UInt8) :
    replaceScan unescaper 0 (92 :: c :: s) = c :: replaceScan unescaper 0 s := by
  rcases mem_reserved.mp hc with rfl | rfl | rfl | rfl <;> simp [replaceScan, unescaper, List.find?, List.isPrefixOf]

/-- Any other byte is copied. -/
theorem scan_unescaper_copy {b : UInt8} {s : List UInt8}
    (h : b = 92 → ∀ c ∈ reserved, s.head? ≠ some c) :
    replaceScan unescaper 0 (b :: s) = b :: replaceScan unescaper 0 s := by
  refine replaceScan_copy (List.find?_eq_none.mpr ?_)
  by_cases hb : b = 92
  · subst hb
    cases s with
    | nil => decide
    | cons c s =>
      have hc : ¬(c = 44 ∨ c = 34 ∨ c = 32 ∨ c = 61) := fun hm => h rfl c (mem_reserved.mpr hm) rfl
      simp only [not_or] at hc
      simp [unescaper, List.isPrefixOf, Ne.symm hc.1, Ne.symm hc.2.1, Ne.symm hc.2.2.1,
        Ne.symm hc.2.2.2]
  · simp [unescaper, List.isPrefixOf, Ne.symm hb]

theorem scan_unescaper_of_not_mem : ∀ {s : List UInt8}, (92 : UInt8) ∉ s →
    replaceScan unescaper 0 s = s
  | [], _ => rfl
  | b :: s, h => by
    rw [List.mem_cons, not_or] at h
    rw [scan_unescaper_copy fun hb => absurd hb.symm h.1, scan_unescaper_of_not_mem h.2]

theorem head_string0_ne_reserved (b : UInt8) (s rest : List UInt8) :
    ∀ c ∈ reserved, (string0 (b :: s) ++ rest).head? ≠ some c := by
  intro c hc
  rw [string0_cons]
  split_ifs with hb
  · rintro ⟨⟩
    exact backslash_not_mem_reserved hc
  · rintro ⟨⟩
    exact hb hc

/-- The unescaper reads `String0 s` back as `s`, whatever follows, unless `s` ends in a backslash
and a reserved byte follows. -/
theorem scan_unescaper_string0 (s rest : List UInt8)
    (h : s.getLast? = some 92 → ∀ c ∈ reserved, rest.head? ≠ some c) :
    replaceScan unescaper 0 (string0 s ++ rest) = s ++ replaceScan unescaper 0 rest := by
  induction s with
  | nil => rfl
  | cons b s ih =>
    have hs : s.getLast? = some 92 → ∀ c ∈ reserved, rest.head? ≠ some c := by
      cases s with
      | nil => simp
      | cons b' s => exact h
    rw [string0_cons, List.append_assoc]
    split_ifs with hb
    · rw [List.cons_append, List.cons_append, List.nil_append, scan_unescaper_escape hb, ih hs]
      rfl
    · rw [List.singleton_append, scan_unescaper_copy, ih hs]
      · rfl
      · rintro rfl
        cases s with
        | nil => simpa [string0] using h rfl
        | cons b' s => exact head_string0_ne_reserved b' s rest

theorem unescapeString_of_scan {x y : List UInt8} (h : replaceScan unescaper 0 x = y) :
    unescapeString x = y := by
  unfold unescapeString
  split_ifs with hb
  exacts [h, (scan_unescaper_of_not_mem hb).symm.trans h]

theorem unescapeString_string0 (s : List UInt8) : unescapeString (string0 s) = s :=
  unescapeString_of_scan (by simpa using scan_unescaper_string0 s [] (by simp))

/-- A token ending in a backslash followed by a delimiter: the two bytes read back as the
delimiter alone. -/
theorem unescapeString_backslash_delimiter :
    unescapeString (string0 [92] ++ [44] ++ string0 []) = [44] ∧
      unescapeString (string0 [92] ++ [44] ++ string0 []) ≠ [92] ++ [44] ++ [] := by
  decide

theorem unescapeString_delimited (s t : List UInt8) {c : UInt8} (hc : c ∈ reserved) :
    unescapeString (string0 s ++ [c] ++ string0 t) =
      (if s.getLast? = some 92 then s.dropLast else s) ++ [c] ++ t ∧
    (unescapeString (string0 s ++ [c] ++ string0 t) = s ++ [c] ++ t ↔ s.getLast? ≠ some 92) := by
  have ht : replaceScan unescaper 0 (string0 t) = t := by
    simpa using scan_unescaper_string0 t [] (by simp)
  have hc92 : c ≠ 92 := by rintro rfl; exact backslash_not_mem_reserved hc
  have key : unescapeString (string0 s ++ [c] ++ string0 t) =
      (if s.getLast? = some 92 then s.dropLast else s) ++ [c] ++ t := by
    apply unescapeString_of_scan
    split_ifs with hs
    · -- the last backslash of `s` and `c` read back as `c`
      obtain ⟨init, rfl⟩ : ∃ init, s = init ++ [92] :=
        ⟨s.dropLast, (List.dropLast_append_getLast? 92 hs).symm⟩
      have h92 : string0 [92] = [92] := by decide
      simp only [string0_append, h92, List.dropLast_concat, List.append_assoc, List.singleton_append,
        List.cons_append, List.nil_append]
      rw [scan_unescaper_string0 init (92 :: c :: string0 t) fun _ c' hc' h =>
        backslash_not_mem_reserved (Option.some.inj h ▸ hc'), scan_unescaper_escape hc, ht]
    · rw [List.append_assoc, scan_unescaper_string0 s _ fun h => absurd h hs,
        List.singleton_append, scan_unescaper_copy fun h => absurd h hc92, ht]
      simp
  refine ⟨key, ?_⟩
  rw [key]
  split_ifs with hs
  · have hne : s ≠ [] := by rintro rfl; simp at hs
    simp only [hs, ne_eq, not_true_eq_false, iff_false]
    intro h
    have := congrArg List.length h
    simp only [List.length_append, List.length_dropLast, List.length_singleton] at this
    have := List.length_pos.mpr hne
    omega
  · simpa using hs

theorem unescapeString_delimited_example :
    (44 : UInt8) ∈ reserved ∧
      unescapeString (string0 [92] ++ [44] ++ string0 [61]) =
        (if ([92] : List UInt8).getLast? = some 92 then ([92] : List UInt8).dropLast else [92]) ++
          [44] ++ [61] :=
  ⟨by decide, (unescapeString_delimited [92] [61] (by decide)).1⟩

theorem unescapeString_eq_replace (s : List UInt8) :
    unescapeString s = replaceScan unescaper 0 s :=
  unescapeString_of_scan rfl

/-! ## No bare reserved byte -/

/-- The head of `String0 s` is never a reserved byte. -/
theorem head_string0_not_mem (s r : List UInt8) {c : UInt8} (h : string0 s = c :: r) :
    c ∉ reserved := by
  cases s with
  | nil => cases h
  | cons b s =>
    intro hc
    have := head_string0_ne_reserved b s [] c hc
    rw [List.append_nil, h] at this
    exact this rfl

/-- `String0` leaves no reserved byte bare: each one it outputs follows a backslash. -/
theorem string0_escaped : ∀ (s l r : List UInt8) (c : UInt8), string0 s = l ++ c :: r →
    c ∈ reserved → l.getLast? = some 92
  | [], l, r, c, h, _ => by cases l <;> cases h
  | b :: s, l, r, c, h, hc => by
    rw [string0_cons, List.append_eq_append_iff] at h
    rcases h with ⟨a', rfl, hs⟩ | ⟨c', hpre, hr⟩
    · -- the byte lies in the output of `s`
      cases a' with
      | nil => exact absurd hc (head_string0_not_mem s r hs)
      | cons x a' =>
        rw [List.getLast?_append_of_ne_nil _ (List.cons_ne_nil _ _)]
        exact string0_escaped s (x :: a') r c hs hc
    · -- the byte is the escaped `b` itself
      cases c' with
      | nil =>
        rw [List.nil_append] at hr
        exact absurd hc (head_string0_not_mem s r hr.symm)
      | cons y c' =>
        cases hr
        split_ifs at hpre with hb
        · rcases l with _ | ⟨x, _ | ⟨x', l⟩⟩
          · cases hpre
            exact absurd hc backslash_not_mem_reserved
          · cases hpre
            rfl
          · simp at hpre
        · rcases l with _ | ⟨x, l⟩
          · cases hpre
            exact absurd hc hb
          · simp at hpre

theorem string0_escaped_comma :
    string0 [44] = [92] ++ 44 :: [] ∧ (44 : UInt8) ∈ reserved ∧
      ([92] : List UInt8).getLast? = some 92 :=
  ⟨by decide, by decide, string0_escaped [44] [92] [] 44 (by decide) (by decide)⟩

end Tsdb
