import TsdbClient.Tsdb

/-!
# The package-level functions on `clientWrapper`

The package keeps one client, `clientWrapper`, which `init` builds with `NewTDEngineClient()`; the
functions below call it, and read their options from the environment again.

* `newDBOptions_eq` : the caller's options act, in order, on the defaults with each environment
  variable that is set in its place; `newTDEngineClient_httpClient` : the client has an HTTP
  client exactly when the address parses with the scheme `http` or `https`;
* `writeData`, `getDatabaseName` : `WriteData` and `GetDatabaseName`;
* `queryData_pkg_panics_iff` : the package-level `QueryData` panics exactly when `Query` answers
  with a column metadata entry that does not start with a string;
* `queryCount` : `QueryCount`, a `count` query read off the first row; `queryCount_rows` : the
  count of a well-formed answer is `json.Number.Int64` of the first row's `count` column;
  `queryCount_missing_table` : an answer "table does not exist" counts 0, without an error;
* `tableIfExists`, `createTopic`, `dropTopic` : `TableIfExists`, `CreateTopic` and `DropTopic`.
-/

namespace Tsdb

set_option autoImplicit false

/-! ## Options from the environment -/

/-- The value of the environment variable `var`, or `dflt` when it is unset or empty. -/
def envOr (getenv : String → String) (var dflt : String) : String :=
  if 0 < (getenv var).length then getenv var else dflt

theorem foldl_envOption (getenv : String → String) (var : String) (opt : String → DBOption)
    (o : DbOptions) :
    (envOption getenv var opt).foldl (fun o f => f o) o =
      if 0 < (getenv var).length then opt (getenv var) o else o := by
  unfold envOption
  split_ifs <;> rfl

/-- An option applied under a condition is the option applied to a conditional value. -/
theorem ite_option {f : DbOptions → String} {s : String → DBOption} (hs : ∀ o, s (f o) o = o)
    (c : Prop) [Decidable c] (v : String) (o : DbOptions) :
    (if c then s v o else o) = s (if c then v else f o) o := by
  split_ifs
  · rfl
  · exact (hs o).symm

/-- `newDBOptions`: the caller's options, in order, over the defaults with each environment
variable that is set in its place; the port counts only with the host, and `6041` stands in for
it. -/
theorem newDBOptions_eq (getenv : String → String) (opts : List DBOption) :
    newDBOptions getenv opts = opts.foldl (fun o f => f o)
      { databaseAddr := if 0 < (getenv envDBHost).length then
            "http://" ++ getenv envDBHost ++ ":" ++ envOr getenv envDBPort "6041"
          else "http://127.0.0.1:6041"
        databaseName := envOr getenv envDBName "iot"
        databaseUser := envOr getenv envDBUser "root"
        databasePass := envOr getenv envDBPass "taosdata"
        precisionUnit := envOr getenv envDBPrec "ms" } := by
  have hhost : ∀ (c : Prop) [Decidable c] (a : String) (o : DbOptions),
      (if c then [databaseAddr a] else []).foldl (fun o f => f o) o =
        databaseAddr (if c then a else o.databaseAddr) o := fun c _ a o => by split_ifs <;> rfl
  have hport : ∀ (h p : String) (c : Prop) [Decidable c],
      ("http://" ++ h ++ ":" ++ if c then p else "6041") =
        if c then "http://" ++ h ++ ":" ++ p else "http://" ++ h ++ ":6041" := fun h p c _ => by
    split_ifs
    · rfl
    · rw [String.append_assoc _ ":" "6041", show ":" ++ "6041" = ":6041" by decide]
  unfold newDBOptions
  simp only [List.foldl_append, foldl_envOption, hhost,
    ite_option (f := DbOptions.databaseName) (s := databaseName) (fun _ => rfl),
    ite_option (f := DbOptions.databaseUser) (s := databaseUser) (fun _ => rfl),
    ite_option (f := DbOptions.databasePass) (s := databasePass) (fun _ => rfl),
    ite_option (f := DbOptions.precisionUnit) (s := precisionUnit) (fun _ => rfl)]
  unfold envOr
  rw [hport]
  rfl

/-- `NewTDEngineClient` has an HTTP client exactly when `url.Parse` reads the configured address
with the scheme `http` or `https`: the encoding check of `NewHTTPClient` never fails there. The
client carries the configured user and password, the default user agent and no encoding. -/
theorem newTDEngineClient_httpClient (L : Lib) (getenv : String → String) (opts : List DBOption)
    (c : Client) :
    (newTDEngineClient L getenv opts).httpClient = some c ↔
      L.parseURL (newDBOptions getenv opts).databaseAddr = .ok c.url ∧
        (c.url.scheme = "http" ∨ c.url.scheme = "https") ∧
        c.username = (newDBOptions getenv opts).databaseUser ∧
        c.password = (newDBOptions getenv opts).databasePass ∧
        c.useragent = "TDEngineDBClient" ∧ c.encoding = "" := by
  simp only [newTDEngineClient, newHTTPClient]
  rcases L.parseURL (newDBOptions getenv opts).databaseAddr with e | u
  · simp [Except.toOption]
  by_cases hs : u.scheme ≠ "http" ∧ u.scheme ≠ "https"
  · simp only [if_pos hs, Except.toOption, reduceCtorEq, Except.ok.injEq, false_iff, not_and]
    rintro rfl h
    exact (h.elim hs.1 hs.2).elim
  · have henc : ¬(defaultEncoding ≠ defaultEncoding ∧ defaultEncoding ≠ gzipEncoding) :=
      fun h => h.1 rfl
    simp only [if_neg hs, if_neg henc, Except.toOption, Option.some.injEq, Except.ok.injEq]
    rw [not_and_or, not_not, not_not] at hs
    constructor
    · rintro rfl
      exact ⟨rfl, hs, rfl, rfl, rfl, rfl⟩
    · rintro ⟨rfl, -, hu, hp, ha, he⟩
      obtain ⟨url, user, pass, ua, enc⟩ := c
      dsimp only at hu hp ha he ⊢
      subst hu hp ha he
      rfl

/-- `GetDatabaseName`. -/
def getDatabaseName (getenv : String → String) : String := (newDBOptions getenv []).databaseName

/-- The package-level `WriteData`: `clientWrapper.WriteData` at the `Timestamp` of the options. -/
def writeData {T F P : Type} (newPoint : String → T → F → Option Int → Except Error P)
    (send : Request → Except Error HttpResponse) (precisionString : P → String → String)
    (getenv : String → String) (wrapper : TsdbClient) (name : String) (tag : T) (fields : F)
    (opts : List DBOption) : Except Panic (Option Error) :=
  wrapper.writeData newPoint send precisionString (newDBOptions getenv opts).timestamp name tag fields

/-! ## The package-level `QueryData` -/

/-- `cm[0].(string)` succeeds on every entry exactly when each starts with a string. -/
theorem columnNames_ok_iff :
    ∀ cms : List (List Value),
      (∃ names, columnNames cms = .ok names) ↔ ∀ m ∈ cms, ∃ n, m.head? = some (.string n)
  | [] => by simp [columnNames]
  | cm :: cms => by
    rw [List.forall_mem_cons, ← columnNames_ok_iff cms, columnNames]
    rcases cm.head? with _ | (_ | _ | _ | n | _ | _) <;> dsimp only <;>
      rcases columnNames cms with p | names <;>
      simp only [Except.map, reduceCtorEq, exists_false, Option.some.injEq, Value.string.injEq,
        exists_eq', and_false, false_and, Except.ok.injEq, and_self, and_true]

/-- The package-level `QueryData` panics exactly when `clientWrapper` has an HTTP client and
`Query` answers without an error, with a column metadata entry that is empty or does not start
with a string (`cm[0].(string)`). -/
theorem queryData_pkg_panics_iff {L : Lib} {send : Request → Except Error HttpResponse}
    {getenv : String → String} {wrapper : TsdbClient} {sql : String} {opts : List DBOption} :
    (∃ p, queryData L send getenv wrapper sql opts = .error p) ↔
      ∃ c R, wrapper.httpClient = some c ∧
        c.query L send ⟨sql, (newDBOptions getenv opts).databaseName,
          (newDBOptions getenv opts).precisionUnit⟩ = (some R, none) ∧
        ∃ m ∈ R.columnMeta, ∀ n, m.head? ≠ some (.string n) := by
  unfold queryData
  rcases wrapper.httpClient with _ | c
  · simp only [reduceCtorEq, exists_false, ne_eq, false_and, exists_const]
  have hsome := @query_fst_isSome L send c ⟨sql, (newDBOptions getenv opts).databaseName,
    (newDBOptions getenv opts).precisionUnit⟩
  simp only [Option.some.injEq, exists_and_left, exists_eq_left']
  rcases hq : c.query L send ⟨sql, (newDBOptions getenv opts).databaseName,
    (newDBOptions getenv opts).precisionUnit⟩ with ⟨_ | R, _ | e⟩ <;> simp only [hq] at hsome ⊢
  · simp at hsome
  · simp only [reduceCtorEq, exists_false, Prod.mk.injEq, and_self, ne_eq, false_and, exists_const]
  · -- `Query` answered `R`: the panics are those of `cm[0].(string)`
    have hcols := columnNames_ok_iff R.columnMeta
    rcases hcn : columnNames R.columnMeta with p | names
    · have : ¬∀ m ∈ R.columnMeta, ∃ n, m.head? = some (.string n) := by
        rw [← hcols, hcn]
        simp only [reduceCtorEq, exists_false, not_false_eq_true]
      simpa only [Except.error.injEq, exists_eq', Prod.mk.injEq, Option.some.injEq, and_true, ne_eq,
        exists_eq_left', true_iff, not_forall, Classical.not_imp, not_exists, exists_prop] using this
    · simpa only [reduceCtorEq, exists_false, Prod.mk.injEq, Option.some.injEq, and_true, ne_eq,
        exists_eq_left', false_iff, not_exists, not_and, not_forall, not_not] using
        hcols.mp ⟨names, hcn⟩
  · simp only [reduceCtorEq, exists_false, Prod.mk.injEq, Option.some.injEq, and_false, ne_eq,
      false_and, exists_const]

/-! ## `QueryCount` -/

/-- The SQL of `QueryCount`: a filter is appended after `where`, unless it starts with it. -/
def queryCountSQL (field tableName filter : String) : String :=
  "select count(`" ++ field ++ "`) as `count` from `" ++ tableName ++ "` " ++
    (if 0 < filter.length then
      if "where".toList.isPrefixOf filter.toList then filter else "where " ++ filter
    else "") ++ ";"

/-- The `*strconv.NumError` of `json.Number.Int64` on the text `t`. The text of a decoded number
is ASCII without `"` or `\`, which `%q` only encloses in quotes. -/
def NumError.toError (t : String) : NumError → Error
  | .errSyntax => .new ("strconv.ParseInt: parsing \"" ++ t ++ "\": invalid syntax")
  | .errRange => .new ("strconv.ParseInt: parsing \"" ++ t ++ "\": value out of range")

/-- `resp[0]["count"]`, then `v.(json.Number).Int64()`: the count and the error, `-1` with an
error for a row without the key, or the panic of the type assertion. -/
def countOf (row : Row) : Except Panic (Int × Option Error) :=
  match row.lookup "count" with
  | none => .ok (-1, some (.new "not result field: count"))
  | some (.wire (.number t)) => .ok ((parseInt64 t).1, (parseInt64 t).2.map (NumError.toError t))
  | some _ => .error .typeAssertion

/-- `QueryCount`: `clientWrapper.QueryData(sql, false)`, its error with the count 0, the count 0
for no row, else the count of the first row. -/
def queryCount (L : Lib) (send : Request → Except Error HttpResponse) (wrapper : TsdbClient)
    (field tableName filter : String) : Except Panic (Int × Option Error) :=
  match wrapper.queryData L send (queryCountSQL field tableName filter) false with
  | .error p => .error p
  | .ok (_, some e) => .ok (0, some e)
  | .ok ([], none) => .ok (0, none)
  | .ok (row :: _, none) => countOf row

section QueryCount

variable {L : Lib} {send : Request → Except Error HttpResponse} {wrapper : TsdbClient}
  {c : Client} {field tableName filter : String}

/-- On a well-formed answer without an application error, `QueryCount` reads the last column
named `count` of the first row: its `Int64` and the error of that, `-1` with an error when there is
no such column, a panic when the cell is not a number, and 0 without an error for no row. -/
theorem queryCount_rows (R : Response) (cols : List Column) (hc : wrapper.httpClient = some c)
    (he : wrapper.initialErr = none)
    (hq : c.query L send (wrapper.newQuery (queryCountSQL field tableName filter)) = (some R, none))
    (herr : R.error = none) (hm : R.columnMeta = cols.map Column.meta)
    (hw : ∀ r ∈ R.data, cols.length ≤ r.length) :
    queryCount L send wrapper field tableName filter =
      match R.data with
      | [] => .ok (0, none)
      | r :: _ =>
        match ((cols.zip r).filter (·.1.name = "count")).getLast? with
        | none => .ok (-1, some (.new "not result field: count"))
        | some (_, .number t) => .ok ((parseInt64 t).1, (parseInt64 t).2.map (NumError.toError t))
        | some _ => .error .typeAssertion := by
  have hqd : wrapper.queryData L send (queryCountSQL field tableName filter) false =
      .ok (R.data.map fun r => rowOf L wrapper.defaultNumberValue false ∅ (cols.zip r), none) := by
    rw [queryData_eq hc he, hq, readResponse_some, herr, hm,
      projectRows_eq cols R.data [] hw (fun h => absurd h Bool.false_ne_true)]
    rfl
  unfold queryCount
  rw [hqd]
  rcases R.data with _ | ⟨r, rs⟩
  · rfl
  dsimp only [List.map_cons]
  unfold countOf
  rw [lookup_rowOf, if_neg (by decide), AList.lookup_empty, Option.or_none]
  generalize ((cols.zip r).filter fun p => p.1.name = "count").getLast? = g
  rcases g with _ | ⟨col, v⟩
  · rfl
  · cases v <;> rfl

/-- An answer "table does not exist" (codes 9826 and 9750) that passes the status and media type
checks makes `QueryCount` return 0 without an error, as for an empty table. -/
theorem queryCount_missing_table {resp : HttpResponse} {R : Response}
    (hc : wrapper.httpClient = some c) (he : wrapper.initialErr = none)
    (hs : send (c.createDefaultRequest (wrapper.newQuery (queryCountSQL field tableName filter))) =
      .ok resp)
    (h5 : resp.statusCode < 500) (hm : L.mediaType resp.contentType = "application/json")
    (hd : L.decode resp.body = .ok R) (hcode : R.code = 9826 ∨ R.code = 9750) :
    queryCount L send wrapper field tableName filter = .ok (0, none) := by
  have herr := Response.error_eq_notExistsTable.mpr hcode
  have hq := (query_eq_some_iff R).mpr ⟨resp, hs, h5, hm, hd, .inr (by simp [herr])⟩
  unfold queryCount
  rw [queryData_eq hc he, hq, readResponse_some, herr]

end QueryCount

/-- An answer with one `count` column and one row. -/
def countResponse : Response :=
  { columnMeta := [[.string "count", .string "BIGINT", .number "8"]], data := [[.number "42"]],
    rows := 1 }

theorem queryCount_rows_example :
    queryCount (jsonLib countResponse) (fun _ => .ok exampleHttpResponse) exampleClient "v" "t" "" =
      .ok (42, none) :=
  (@queryCount_rows (jsonLib countResponse) (fun _ => .ok exampleHttpResponse) exampleClient
    ⟨⟨"http", none, "127.0.0.1:6041", "", []⟩, "root", "taosdata", "TDEngineDBClient", ""⟩ "v" "t" ""
    countResponse [⟨"count", "BIGINT", .number "8"⟩] rfl rfl rfl rfl rfl
    (by simp [countResponse])).trans rfl

/-- The answer of TDengine for a table that does not exist. -/
def missingTableResponse : Response := { code := 9826, desc := "Table does not exist" }

theorem queryCount_missing_table_example :
    queryCount (jsonLib missingTableResponse) (fun _ => .ok exampleHttpResponse) exampleClient "v"
      "t" "" = .ok (0, none) :=
  @queryCount_missing_table (jsonLib missingTableResponse) (fun _ => .ok exampleHttpResponse)
    exampleClient ⟨⟨"http", none, "127.0.0.1:6041", "", []⟩, "root", "taosdata", "TDEngineDBClient", ""⟩ "v"
    "t" "" exampleHttpResponse missingTableResponse rfl rfl rfl (by decide) rfl rfl (.inl rfl)

/-! ## `TableIfExists`, `CreateTopic` and `DropTopic` -/

/-- `TableIfExists`: whether `show tables like` (or `show stables like`) answers a row. -/
def tableIfExists (L : Lib) (send : Request → Except Error HttpResponse) (wrapper : TsdbClient)
    (tableName : String) (super : Bool) : Except Panic Bool :=
  if 0 < tableName.length then
    let sql := if super then "show stables like \x27" ++ tableName ++ "\x27;"
      else "show tables like \x27" ++ tableName ++ "\x27;"
    match wrapper.queryData L send sql false with
    | .error p => .error p
    | .ok (rows, none) => .ok (0 < rows.length)
    | .ok (_, some _) => .ok false
  else .ok false

/-- The SQL of `CreateTopic` for a `TopicMode` (`DBMode`, `STMode` and `SQLMode` are 1, 2 and 3),
none for a mode the `switch` does not know. -/
def topicSQL (topic content : String) (mode : Int) : Option String :=
  if mode = 1 then some ("create topic if not exists " ++ topic ++ " as database " ++ content)
  else if mode = 2 then some ("create topic if not exists " ++ topic ++ " as stable " ++ content)
  else if mode = 3 then some ("create topic if not exists " ++ topic ++ " as " ++ content)
  else none

/-- `CreateTopic`: the checks of its arguments, then the error of `ReadData(sql)`. -/
def createTopic (L : Lib) (send : Request → Except Error HttpResponse) (getenv : String → String)
    (wrapper : TsdbClient) (topic content : String) (mode : Int) : Except Panic (Option Error) :=
  if topic.length = 0 ∨ content.length = 0 then .ok (some (.new "miss args: `topic` or `content`"))
  else match topicSQL topic content mode with
    | none => .ok (some (.new ("not support mode: " ++ toString mode)))
    | some sql => (readData L send getenv wrapper sql []).map Prod.snd

/-- `DropTopic`. -/
def dropTopic (L : Lib) (send : Request → Except Error HttpResponse) (getenv : String → String)
    (wrapper : TsdbClient) (topic : String) : Except Panic (Option Error) :=
  if topic.length = 0 then .ok (some (.new "invalid args: `topic` is empty"))
  else (readData L send getenv wrapper ("drop topic if exists " ++ topic) []).map Prod.snd

end Tsdb
