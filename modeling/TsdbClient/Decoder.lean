import TsdbClient.Wire

/-!
# The row projection of `QueryData`

`QueryData` turns the `data` of a response into one `map[string]interface{}` per row: for each
column metadata entry `c` at index `i` it requires `len(c) == 3`, skips the name `_`, and stores
`r[i]`, converted by the declared type when `convertNumber` is set.

* `ColumnKind.ofType` : the `switch` on the type; `convertCell` : one conversion, with the
  unchecked `r[i].(string)` of a `TIMESTAMP` cell;
* `projectRow`, `projectRows` : the inner and the outer loop, with the error of a malformed
  entry and the run-time panics;
* `projectRow_ok_iff`, `projectRows_ok_iff` : the loops end without an error exactly when every
  entry is a triple (or there is no row);
* `projectRow_no_panic`, `projectRows_no_panic` : a response of the expected shape never panics;
* `projectRows_eq` : on well-formed metadata the result is `rowOf` of each row, in order, and
  `lookup_rowOf` reads a key off it: the value of the last column of that name.
-/

namespace Tsdb

set_option autoImplicit false

/-- The column types the `switch` of `QueryData` tells apart. -/
inductive ColumnKind where
  | integer
  | float
  | timestamp
  | other
  deriving DecidableEq, Repr

/-- `switch c[1].(string)` in `QueryData`. -/
def ColumnKind.ofType (t : String) : ColumnKind :=
  if t ∈ ["BIGINT", "INT", "TINYINT", "SMALLINT", "TINYINT UNSIGNED", "SMALLINT UNSIGNED",
    "INT UNSIGNED", "BIGINT UNSIGNED"] then .integer
  else if t ∈ ["FLOAT", "DOUBLE"] then .float
  else if t = "TIMESTAMP" then .timestamp
  else .other

/-- The value stored for a cell `v` of a column of kind `k` when `convertNumber` is set; `dflt` is
`client.defaultNumberValue`. -/
def convertCell (L : Lib) (dflt : Cell) : ColumnKind → Value → Except Panic Cell
  | .integer, .number n => .ok (.int64 (parseInt64 n).1)
  | .integer, _ => .ok dflt
  | .float, .number n => .ok (.float64 n)
  | .float, _ => .ok dflt
  | .timestamp, .string s => .ok (match L.parseTime s with
    | some t => .int64 t
    | none => .int 0)
  | .timestamp, _ => .error .typeAssertion
  | .other, v => .ok (.wire v)

/-- `x.(string)`. -/
def asString : Value → Except Panic String
  | .string s => .ok s
  | _ => .error .typeAssertion

/-- `r[i]`. -/
def cellAt (r : List Value) (i : Nat) : Except Panic Value :=
  match r.get? i with
  | some v => .ok v
  | none => .error (.indexOutOfRange i r.length)

/-- The body of the inner loop for an entry `c` of length 3 at index `i`: `none` for a column
named `_`, else the key and the value stored. -/
def columnCell (L : Lib) (dflt : Cell) (convertNumber : Bool) (r : List Value) (c : List Value)
    (i : Nat) : Except Panic (Option (String × Cell)) :=
  match asString (c.getD 0 .null) with
  | .error p => .error p
  | .ok cn =>
    if cn = "_" then .ok none
    else if convertNumber then
      match asString (c.getD 1 .null) with
      | .error p => .error p
      | .ok t =>
        match cellAt r i with
        | .error p => .error p
        | .ok v =>
          match convertCell L dflt (.ofType t) v with
          | .error p => .error p
          | .ok x => .ok (some (cn, x))
    else
      match cellAt r i with
      | .error p => .error p
      | .ok v => .ok (some (cn, .wire v))

/-- "column meta data length no equal 3". -/
def columnMetaError : Error := .new "column meta data length no equal 3"

/-- The inner loop of `QueryData` over the column metadata, from index `i` with the map `row`. -/
def projectRow (L : Lib) (dflt : Cell) (convertNumber : Bool) (r : List Value) :
    List (List Value) → Nat → Row → Except Panic (Except Error Row)
  | [], _, row => .ok (.ok row)
  | c :: cs, i, row =>
    if c.length ≠ 3 then .ok (.error columnMetaError)
    else
      match columnCell L dflt convertNumber r c i with
      | .error p => .error p
      | .ok none => projectRow L dflt convertNumber r cs (i + 1) row
      | .ok (some (cn, x)) => projectRow L dflt convertNumber r cs (i + 1) (row.insert cn x)

/-- The outer loop of `QueryData` over `resp.Data`, appending each row's map to `result`. -/
def projectRows (L : Lib) (dflt : Cell) (convertNumber : Bool) (cols : List (List Value)) :
    List (List Value) → List Row → Except Panic (Except Error (List Row))
  | [], result => .ok (.ok result)
  | r :: rs, result =>
    match projectRow L dflt convertNumber r cols 0 ∅ with
    | .error p => .error p
    | .ok (.error e) => .ok (.error e)
    | .ok (.ok row) => projectRows L dflt convertNumber cols rs (result ++ [row])

/-! ## One cell -/

/-- The documented value of a cell `v` of a column of type `t`: `v` itself without
`convertNumber`; else an integer-family number as its `Int64`, a `FLOAT` or `DOUBLE` number as its
`Float64` (the default for a cell that is not a number), a `TIMESTAMP` as the Unix seconds of its
text or `0` when that does not parse, and any other type unchanged. -/
def cellOf (L : Lib) (dflt : Cell) (convertNumber : Bool) (t : String) (v : Value) : Cell :=
  if convertNumber then
    match ColumnKind.ofType t, v with
    | .integer, .number n => .int64 (parseInt64 n).1
    | .integer, _ => dflt
    | .float, .number n => .float64 n
    | .float, _ => dflt
    | .timestamp, .string s => match L.parseTime s with
      | some u => .int64 u
      | none => .int 0
    | .timestamp, _ => .int 0
    | .other, v => .wire v
  else .wire v

/-- A column metadata entry `[name, type, size]` with a string name and type. -/
structure Column where
  name : String
  type : String
  size : Value

/-- The entry as it is decoded. -/
def Column.meta (c : Column) : List Value := [.string c.name, .string c.type, c.size]

section Cell

variable {L : Lib} {dflt : Cell} {convertNumber : Bool}

theorem convertCell_eq {t : String} {v : Value} (ht : t = "TIMESTAMP" → ∃ s, v = .string s) :
    convertCell L dflt (.ofType t) v = .ok (cellOf L dflt true t v) := by
  unfold cellOf
  simp only [if_true]
  unfold ColumnKind.ofType
  split_ifs with h1 h2 h3
  · cases v <;> rfl
  · cases v <;> rfl
  · obtain ⟨s, rfl⟩ := ht h3; rfl
  · cases v <;> rfl

theorem columnCell_eq {r : List Value} {c : Column} {i : Nat} (hi : i < r.length)
    (ht : convertNumber = true → c.type = "TIMESTAMP" → ∃ s, r[i] = .string s) :
    columnCell L dflt convertNumber r c.meta i =
      .ok (if c.name = "_" then none else some (c.name, cellOf L dflt convertNumber c.type r[i])) := by
  have hget : r.get? i = some r[i] := by simp [hi]
  unfold columnCell
  simp only [Column.meta, List.getD_cons_zero, List.getD_cons_succ, asString, cellAt, hget]
  split_ifs with h1 h2
  · rfl
  · rw [convertCell_eq (ht h2), h2]
  · simp only [cellOf, h2, Bool.false_eq_true, ↓reduceIte]

end Cell

/-! ## Errors and panics -/

theorem projectRow_ok_iff {L : Lib} {dflt : Cell} {convertNumber : Bool} {r : List Value} :
    ∀ {cols : List (List Value)} {i : Nat} {row : Row} {x : Except Error Row},
      projectRow L dflt convertNumber r cols i row = .ok x →
        (x.toBool = true ↔ ∀ c ∈ cols, c.length = 3)
  | [], _, _, _, h => by cases h; simp [Except.toBool]
  | c :: cs, i, row, x, h => by
    unfold projectRow at h
    by_cases hc : c.length = 3
    · rw [if_neg (not_not.mpr hc)] at h
      split at h
      · cases h
      · simp [hc, projectRow_ok_iff h]
      · simp [hc, projectRow_ok_iff h]
    · rw [if_pos hc] at h
      cases h
      simp [Except.toBool, hc]

theorem projectRows_ok_iff {L : Lib} {dflt : Cell} {convertNumber : Bool}
    {cols : List (List Value)} :
    ∀ {data : List (List Value)} {result : List Row} {x : Except Error (List Row)},
      projectRows L dflt convertNumber cols data result = .ok x →
        (x.toBool = true ↔ data = [] ∨ ∀ c ∈ cols, c.length = 3)
  | [], _, _, h => by cases h; simp [Except.toBool]
  | r :: rs, result, x, h => by
    unfold projectRows at h
    split at h
    · cases h
    · rename_i hr
      cases h
      simpa [Except.toBool] using (projectRow_ok_iff hr).not.mp (by simp [Except.toBool])
    · rename_i hr
      have := (projectRow_ok_iff hr).mp rfl
      rw [projectRows_ok_iff h]
      exact ⟨fun _ => .inr this, fun _ => .inr this⟩

/-- A cell of a `TIMESTAMP` entry is a string. -/
def TimestampCell (c : List Value) (v : Value) : Prop :=
  c.get? 1 = some (.string "TIMESTAMP") → ∃ s, v = .string s

theorem projectRow_no_panic (L : Lib) (dflt : Cell) (convertNumber : Bool) (r : List Value) :
    ∀ (cols : List (List Value)) (i : Nat) (row : Row),
      (∀ c ∈ cols, c.length = 3 → ∃ n t sz, c = [.string n, .string t, sz]) →
      i + cols.length ≤ r.length →
      (convertNumber = true → ∀ p ∈ cols.zip (r.drop i), TimestampCell p.1 p.2) →
      ∃ x, projectRow L dflt convertNumber r cols i row = .ok x
  | [], _, _, _, _, _ => ⟨_, rfl⟩
  | c :: cs, i, row, hm, hl, ht => by
    simp only [List.length_cons] at hl
    have hi : i < r.length := by omega
    rw [List.drop_eq_getElem_cons hi] at ht
    have ih := fun row => projectRow_no_panic L dflt convertNumber r cs (i + 1) row
      (fun c hc => hm c (List.mem_cons_of_mem _ hc)) (by omega)
      (fun hc p hp => ht hc p (List.mem_cons_of_mem _ hp))
    unfold projectRow
    by_cases h3 : c.length = 3
    · rw [if_neg (not_not.mpr h3)]
      obtain ⟨n, t, sz, rfl⟩ := hm c (List.mem_cons_self _ _) h3
      have hx : columnCell L dflt convertNumber r [.string n, .string t, sz] i = _ :=
        columnCell_eq (c := ⟨n, t, sz⟩) hi
          fun hc htype => ht hc _ (List.mem_cons_self _ _) (by simpa using htype)
      rw [hx]
      split_ifs <;> exact ih _
    · rw [if_pos h3]; exact ⟨_, rfl⟩

theorem projectRows_no_panic (L : Lib) (dflt : Cell) (convertNumber : Bool)
    (cols : List (List Value)) :
    ∀ (data : List (List Value)) (result : List Row),
      (∀ c ∈ cols, c.length = 3 → ∃ n t sz, c = [.string n, .string t, sz]) →
      (∀ r ∈ data, cols.length ≤ r.length) →
      (convertNumber = true → ∀ r ∈ data, ∀ p ∈ cols.zip r, TimestampCell p.1 p.2) →
      ∃ x, projectRows L dflt convertNumber cols data result = .ok x
  | [], _, _, _, _ => ⟨_, rfl⟩
  | r :: rs, result, hm, hl, ht => by
    obtain ⟨x, hx⟩ := projectRow_no_panic L dflt convertNumber r cols 0 ∅ hm
      (by simpa using hl r (List.mem_cons_self _ _))
      (fun hc => by simpa using ht hc r (List.mem_cons_self _ _))
    unfold projectRows
    rw [hx]
    rcases x with e | row
    · exact ⟨_, rfl⟩
    · exact projectRows_no_panic L dflt convertNumber cols rs _ hm
        (fun r hr => hl r (List.mem_cons_of_mem _ hr))
        (fun hc r hr => ht hc r (List.mem_cons_of_mem _ hr))

/-! ## The rows -/

/-- The map of a row: each column in order, `_` skipped, a later column replacing an earlier one
of the same name. -/
def rowOf (L : Lib) (dflt : Cell) (convertNumber : Bool) (row : Row)
    (ps : List (Column × Value)) : Row :=
  ps.foldl (fun row p =>
    if p.1.name = "_" then row else row.insert p.1.name (cellOf L dflt convertNumber p.1.type p.2)) row

section Rows

variable {L : Lib} {dflt : Cell} {convertNumber : Bool}

@[simp] theorem rowOf_nil (row : Row) : rowOf L dflt convertNumber row [] = row := rfl

@[simp] theorem rowOf_cons (row : Row) (p : Column × Value) (ps : List (Column × Value)) :
    rowOf L dflt convertNumber row (p :: ps) =
      rowOf L dflt convertNumber
        (if p.1.name = "_" then row else row.insert p.1.name (cellOf L dflt convertNumber p.1.type p.2))
        ps := rfl

theorem projectRow_eq {r : List Value} :
    ∀ (cols : List Column) (i : Nat) (row : Row), i + cols.length ≤ r.length →
      (convertNumber = true → ∀ p ∈ cols.zip (r.drop i), p.1.type = "TIMESTAMP" → ∃ s, p.2 = .string s) →
      projectRow L dflt convertNumber r (cols.map Column.meta) i row =
        .ok (.ok (rowOf L dflt convertNumber row (cols.zip (r.drop i))))
  | [], _, _, _, _ => by simp [projectRow, rowOf]
  | c :: cs, i, row, hl, ht => by
    simp only [List.length_cons] at hl
    have hi : i < r.length := by omega
    rw [List.drop_eq_getElem_cons hi] at ht ⊢
    have ih := fun row => projectRow_eq cs (i + 1) row (by omega)
      (fun hc p hp => ht hc p (List.mem_cons_of_mem _ hp))
    have h3 : c.meta.length = 3 := rfl
    simp only [List.map_cons, projectRow, h3, ne_eq, not_true_eq_false, if_false]
    rw [columnCell_eq hi (fun hc => ht hc _ (List.mem_cons_self _ _))]
    by_cases h : c.name = "_" <;> simp only [h, if_true, if_false, ih, List.zip_cons_cons, rowOf_cons]

theorem projectRows_eq (cols : List Column) :
    ∀ (data : List (List Value)) (result : List Row),
      (∀ r ∈ data, cols.length ≤ r.length) →
      (convertNumber = true → ∀ r ∈ data, ∀ p ∈ cols.zip r, p.1.type = "TIMESTAMP" →
        ∃ s, p.2 = .string s) →
      projectRows L dflt convertNumber (cols.map Column.meta) data result =
        .ok (.ok (result ++ data.map fun r => rowOf L dflt convertNumber ∅ (cols.zip r)))
  | [], _, _, _ => by simp [projectRows]
  | r :: rs, result, hl, ht => by
    have hr := @projectRow_eq L dflt convertNumber r cols 0 ∅
      (by simpa using hl r (List.mem_cons_self _ _))
      (fun hc => by simpa using ht hc r (List.mem_cons_self _ _))
    simp only [List.drop_zero] at hr
    simp only [projectRows, hr]
    rw [projectRows_eq cols rs _ (fun r hr => hl r (List.mem_cons_of_mem _ hr))
      (fun hc r hr => ht hc r (List.mem_cons_of_mem _ hr))]
    simp

theorem lookup_rowOf (row : Row) (n : String) (ps : List (Column × Value)) :
    (rowOf L dflt convertNumber row ps).lookup n =
      if n = "_" then row.lookup n
      else ((ps.filter (·.1.name = n)).getLast?.map
        fun p => cellOf L dflt convertNumber p.1.type p.2).or (row.lookup n) := by
  induction ps using List.reverseRecOn with
  | nil => split_ifs <;> simp [rowOf]
  | append_singleton ps p ih =>
    simp only [rowOf, List.foldl_append, List.foldl_cons, List.foldl_nil] at ih ⊢
    by_cases hp : p.1.name = "_"
    · rw [if_pos hp, ih]
      split_ifs with hn
      · rfl
      · simp [List.filter_append, show p.1.name ≠ n by rintro rfl; exact hn hp]
    · rw [if_neg hp]
      by_cases hn : n = p.1.name
      · subst hn
        simp [AList.lookup_insert, hp, List.filter_append]
      · rw [AList.lookup_insert_ne hn, ih]
        simp [List.filter_append, Ne.symm hn]

end Rows

end Tsdb
