import Mathlib

/-!
# Wire values, the query response and the client's errors

* `Value` : a JSON value as `encoding/json` decodes it into `interface{}` under `UseNumber`;
* `Response` : the body of a `/rest/sql` answer, and `Response.error` (`Response.Error`), which
  turns the codes 9826 and 9750 into the sentinel `ErrNotExistsTable`;
* `Error` : the `error` values of the package, one constructor for each shape the source builds;
* `Panic`, `indexAt` : Go's run-time panics, and `s[i]` on a slice;
* `Cell`, `Row` : what `QueryData` stores, and the `map[string]interface{}` it builds per row;
* `parseInt64` : `json.Number.Int64`, that is `strconv.ParseInt(s, 10, 64)`;
  `parseInt64_decimal` : on an optional `-` and digits, their value clamped to `int64`;
* `Lib` : the standard-library functions the model takes as given.
-/

namespace Tsdb

set_option autoImplicit false

/-- A JSON value decoded into `interface{}` with `UseNumber`: a number keeps its text (`json.Number`). -/
inductive Value where
  | null
  | bool (b : Bool)
  | number (text : String)
  | string (s : String)
  | array (vs : List Value)
  | object (kvs : List (String × Value))
  deriving Repr, Inhabited

/-- `Response`: the JSON body of a query answer, with Go's zero value as the defaults. -/
structure Response where
  code : Int := 0
  desc : String := ""
  columnMeta : List (List Value) := []
  data : List (List Value) := []
  rows : Int := 0
  deriving Repr, Inhabited

/-- The error `Decode` reports: `io.EOF` on a body with no value, or another one with its text. -/
inductive DecodeError where
  | eof
  | other (text : String)
  deriving DecidableEq, Repr

/-- `DecodeError.Error()`. -/
def DecodeError.text : DecodeError → String
  | .eof => "EOF"
  | .other t => t

/-- The `error` values of the package. Errors built with `errors.New` or with a `fmt.Errorf` whose
verbs print strings and integers are `new` with their text; the two `checkResponse` errors print a
body with `%q` and keep the values they print; `notCreated` prints another error with `%v`. -/
inductive Error where
  /-- `ErrNotExistsTable`: "table does not exist". -/
  | notExistsTable
  /-- A fresh error with this text (also what a collaborator such as `net/http` hands back). -/
  | new (text : String)
  /-- "received status code %d from downstream server" and, for a non-empty body,
  ", with response body: %q". -/
  | downstream (status : Nat) (body : List UInt8)
  /-- "expected json response, got empty body, with status: %v" for an empty body, else
  "expected json response, got %q, with status: %v and response body: %q". -/
  | notJson (mediaType : String) (status : Nat) (body : List UInt8)
  /-- "not created http client for tdengine: %v". -/
  | notCreated (initial : Option Error)
  /-- `errors.New(string(body))`: a response body as the error's text. -/
  | body (bytes : List UInt8)
  deriving Inhabited

/-- `Response.Error`. -/
def Response.error (r : Response) : Option Error :=
  if r.code ≠ 0 ∨ r.desc ≠ "" then
    if r.code = 9826 ∨ r.code = 9750 then some .notExistsTable else some (.new r.desc)
  else none

theorem Response.error_eq_none {r : Response} : r.error = none ↔ r.code = 0 ∧ r.desc = "" := by
  unfold Response.error
  split_ifs <;> simp <;> tauto

theorem Response.error_eq_notExistsTable {r : Response} :
    r.error = some .notExistsTable ↔ r.code = 9826 ∨ r.code = 9750 := by
  unfold Response.error
  split_ifs <;> simp_all

/-- A Go run-time panic. -/
inductive Panic where
  /-- `x.(T)` on an interface value that does not hold a `T` -/
  | typeAssertion
  /-- `s[i]` with `i` negative or not below `len(s)` -/
  | indexOutOfRange (i : Int) (len : Nat)
  /-- a method that reads a field through a nil pointer -/
  | nilDereference
  /-- a send on a closed channel -/
  | sendOnClosed
  /-- `close` of a closed channel -/
  | closeOfClosed
  deriving DecidableEq, Repr

/-- `s[i]` on a slice: the element, or the panic of an index out of range. -/
def indexAt {α : Type} (s : List α) (i : Int) : Except Panic α :=
  if h : 0 ≤ i ∧ i.toNat < s.length then .ok (s.get ⟨i.toNat, h.2⟩)
  else .error (.indexOutOfRange i s.length)

theorem indexAt_eq_ok {α : Type} {s : List α} {i : Int} {x : α} :
    indexAt s i = .ok x ↔ 0 ≤ i ∧ s.get? i.toNat = some x := by
  unfold indexAt
  split_ifs with h
  · simp [List.getElem?_eq_getElem h.2, h.1]
  · simp only [reduceCtorEq, false_iff, not_and]
    exact fun hi hx => h ⟨hi, (List.get?_eq_some.mp hx).1⟩

/-- A value `QueryData` stores in a row (an `interface{}`). -/
inductive Cell where
  /-- a decoded cell, stored as it is -/
  | wire (v : Value)
  /-- an `int64`: from `json.Number.Int64` or `time.Time.Unix` -/
  | int64 (n : Int)
  /-- the `float64` that `json.Number.Float64` reads from `text` -/
  | float64 (text : String)
  /-- an `int`: the constant `0` stored for a timestamp that does not parse -/
  | int (n : Int)
  deriving Repr, Inhabited

/-- `map[string]interface{}`: one result row of `QueryData`. -/
abbrev Row := AList (fun _ : String => Cell)

/-! ## `strconv.ParseInt(s, 10, 64)` -/

/-- The error kinds of `strconv`: `ErrSyntax` and `ErrRange`. -/
inductive NumError where
  | errSyntax
  | errRange
  deriving DecidableEq, Repr

/-- `1<<64 - 1`, `ParseUint`'s `maxVal` for 64 bits. -/
def maxUint64 : Nat := 2 ^ 64 - 1

/-- The digit loop of `ParseUint(s, 10, 64)`: it stops at the first byte that is not a digit
(`ErrSyntax`) or at the first digit that takes the value past `maxUint64` (`ErrRange`). -/
def parseUintDigits : List Char → Nat → Except NumError Nat
  | [], n => .ok n
  | c :: cs, n =>
    if c.isDigit then
      if maxUint64 < n * 10 + (c.toNat - '0'.toNat) then .error .errRange
      else parseUintDigits cs (n * 10 + (c.toNat - '0'.toNat))
    else .error .errSyntax

/-- `strconv.ParseUint(s, 10, 64)`: on `ErrRange` the value is `maxVal`, on `ErrSyntax` it is `0`. -/
def parseUint64 (s : List Char) : Nat × Option NumError :=
  if s = [] then (0, some .errSyntax)
  else match parseUintDigits s 0 with
    | .ok n => (n, none)
    | .error .errRange => (maxUint64, some .errRange)
    | .error .errSyntax => (0, some .errSyntax)

/-- `strconv.ParseInt(s, 10, 64)`, which `json.Number.Int64` is: a value out of range is
clamped to the nearest end of `int64`. -/
def parseInt64 (s : String) : Int × Option NumError :=
  if s = "" then (0, some .errSyntax)
  else
    let (neg, rest) : Bool × List Char := match s.toList with
      | '+' :: r => (false, r)
      | '-' :: r => (true, r)
      | r => (false, r)
    match parseUint64 rest with
    | (_, some .errSyntax) => (0, some .errSyntax)
    | (un, err) =>
      if !neg && 2 ^ 63 ≤ un then (2 ^ 63 - 1, some .errRange)
      else if neg && 2 ^ 63 < un then (-2 ^ 63, some .errRange)
      else ((if neg then -(un : Int) else un), err)

/-- The value of a string of decimal digits. -/
def decimalValue (ds : List Char) : Nat := ds.foldl (fun n c => n * 10 + (c.toNat - '0'.toNat)) 0

theorem le_foldl_decimal (ds : List Char) (n : Nat) :
    n ≤ ds.foldl (fun n c => n * 10 + (c.toNat - '0'.toNat)) n := by
  induction ds generalizing n with
  | nil => exact le_rfl
  | cons c ds ih => exact le_trans (show n ≤ n * 10 + (c.toNat - '0'.toNat) by omega) (ih _)

/-- On digits, the loop of `ParseUint` computes the decimal value, or stops at `ErrRange` once it
passes `maxUint64`. -/
theorem parseUintDigits_digits (ds : List Char) (hds : ∀ c ∈ ds, c.isDigit = true) :
    ∀ n, n ≤ maxUint64 → parseUintDigits ds n =
      if ds.foldl (fun n c => n * 10 + (c.toNat - '0'.toNat)) n ≤ maxUint64 then
        .ok (ds.foldl (fun n c => n * 10 + (c.toNat - '0'.toNat)) n)
      else .error .errRange := by
  induction ds with
  | nil => intro n hn; simp [parseUintDigits, hn]
  | cons c ds ih =>
    intro n hn
    simp only [parseUintDigits, hds c (List.mem_cons_self c ds), if_true, List.foldl_cons]
    by_cases h : maxUint64 < n * 10 + (c.toNat - '0'.toNat)
    · have := le_foldl_decimal ds (n * 10 + (c.toNat - '0'.toNat))
      rw [if_pos h, if_neg (by omega)]
    · rw [if_neg h, ih (fun c hc => hds c (List.mem_cons_of_mem _ hc)) _ (by omega)]

/-- `ParseInt` on an optional `-` and decimal digits: their value, clamped to `int64`. -/
theorem parseInt64_decimal (neg : Bool) {ds : List Char} (hne : ds ≠ [])
    (hds : ∀ c ∈ ds, c.isDigit = true) :
    (parseInt64 (String.mk ((if neg then ['-'] else []) ++ ds))).1 =
      max (-2 ^ 63) (min ((if neg then -1 else 1) * (decimalValue ds : Int)) (2 ^ 63 - 1)) := by
  obtain ⟨c, cs, rfl⟩ := List.exists_cons_of_ne_nil hne
  have hc : c.isDigit = true := hds c (List.mem_cons_self c cs)
  have hsign : c ≠ '+' ∧ c ≠ '-' := ⟨by rintro rfl; simp at hc, by rintro rfl; simp at hc⟩
  have hu : parseUint64 (c :: cs) = if decimalValue (c :: cs) ≤ maxUint64 then
      (decimalValue (c :: cs), none) else (maxUint64, some .errRange) := by
    rw [parseUint64, if_neg (List.cons_ne_nil c cs), decimalValue,
      parseUintDigits_digits _ hds 0 (Nat.zero_le _)]
    split_ifs <;> rfl
  have hmax : maxUint64 = 2 ^ 64 - 1 := rfl
  generalize decimalValue (c :: cs) = v at hu ⊢
  -- the clamping of `ParseUint`, then the sign and the clamping of `ParseInt`
  by_cases hv : v ≤ maxUint64 <;> simp only [hv, if_true, if_false] at hu <;> cases neg <;>
    simp only [parseInt64, hu, hmax, hsign, String.ext_iff, String.toList, List.nil_append,
      List.singleton_append, List.cons.injEq, reduceCtorEq, false_and, imp_self, implies_true,
      Bool.false_eq_true, Bool.not_false, Bool.not_true, Bool.true_and, Bool.false_and,
      decide_eq_true_eq, if_true, if_false] at hv ⊢ <;> (try split_ifs) <;> omega

example : parseInt64 "-42" = (-42, none) := by decide
example : parseInt64 "18446744073709551615" = (2 ^ 63 - 1, some .errRange) := by decide

/-! ## The standard library as the model takes it -/

/-- `url.Userinfo`: a user name, and the password when one is set. -/
structure Userinfo where
  username : String
  password : Option String
  deriving DecidableEq, Repr

/-- A parsed URL (`url.URL`): the fields that reach a request the client sends. -/
structure URL where
  scheme : String
  user : Option Userinfo
  host : String
  path : String
  rawQuery : List UInt8
  deriving DecidableEq, Repr

/-- The standard-library functions the client calls and the model takes as given. -/
structure Lib where
  /-- `url.Parse` -/
  parseURL : String → Except Error URL
  /-- the media type `mime.ParseMediaType` reads from a `Content-Type` value ("" when it fails) -/
  mediaType : String → String
  /-- `json.NewDecoder(body)`, `UseNumber`, then `Decode(&response)` on a zero `Response` -/
  decode : List UInt8 → Except DecodeError Response
  /-- `time.Parse(tsdbTimeStampFormat, s)`, read as Unix seconds -/
  parseTime : String → Option Int

end Tsdb
