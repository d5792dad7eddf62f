import TsdbClient.Transport
import TsdbClient.Decoder

/-!
# `tsdbClient`: options, construction and `QueryData`

* `DbOptions`, `newDBOptions` : the defaults, then the environment, then the caller's options;
* `newTDEngineClient` : the HTTP client and the database settings of a `tsdbClient`;
* `TsdbClient.queryData` : `QueryData`, the `Query` of the HTTP client followed by
  `readResponse`: the sentinel is read as no rows, any other application error is returned, and
  the rows are projected; `queryData_ok_iff` : when it answers without an error;
  `queryData_rows` : the rows it answers on a well-formed response;
* `queryData` : the package-level `QueryData` on `clientWrapper`: the column names and the rows;
* `queryData_decimal` : an integer-family cell holding a decimal integer is stored clamped to
  `int64`, so a `BIGINT UNSIGNED` value from `2^63` on is stored as `2^63 - 1`;
* `TsdbClient.writeBatch`, `TsdbClient.writeData`, `TsdbClient.close` : `WriteData`, up to
  `AddPoint` and then `Write`, and `Close`; `writeData_close_panic` : both panic on a client whose
  `NewHTTPClient` failed, and `WriteData` also when `NewBatchPoints` rejects the precision;
  `writeBatch_time` : the point's instant is read by a `switch` that knows `s`, `us`, `ns` and
  takes anything else as `ms`.
-/

namespace Tsdb

set_option autoImplicit false

/-- `DbOptions`, with `defaultNumberValue`, the field `DefaultNumberValue` that `NewTDEngineClient`
reads and the struct in `options.go` lacks. -/
structure DbOptions where
  databaseAddr : String := ""
  databaseName : String := ""
  precisionUnit : String := ""
  databaseUser : String := ""
  databasePass : String := ""
  convertNumber : Bool := false
  timestamp : Int := 0
  defaultNumberValue : Cell := .wire .null

/-- `DBOption`. -/
def DBOption : Type := DbOptions → DbOptions

/-- `DatabaseAddr`. -/
def databaseAddr (u : String) : DBOption := fun o => { o with databaseAddr := u }

/-- `DatabaseName`. -/
def databaseName (d : String) : DBOption := fun o => { o with databaseName := d }

/-- `PrecisionUnit`. -/
def precisionUnit (p : String) : DBOption := fun o => { o with precisionUnit := p }

/-- `DatabaseUser`. -/
def databaseUser (u : String) : DBOption := fun o => { o with databaseUser := u }

/-- `DatabasePass`. -/
def databasePass (p : String) : DBOption := fun o => { o with databasePass := p }

/-- `ConvertNumber`. -/
def convertNumber (c : Bool) : DBOption := fun o => { o with convertNumber := c }

/-- `Timestamp`. -/
def timestamp (ts : Int) : DBOption := fun o => { o with timestamp := ts }

/-- `envDBHost`. -/
def envDBHost : String := "SVC_IOT_TDENGINE_HOST"

/-- `envDBPort`. -/
def envDBPort : String := "SVC_IOT_TDENGINE_PORT"

/-- `envDBUser`. -/
def envDBUser : String := "SVC_IOT_TDENGINE_USER"

/-- `envDBPass`. -/
def envDBPass : String := "SVC_IOT_TDENGINE_PASS"

/-- `envDBPrec`. -/
def envDBPrec : String := "SVC_IOT_TDENGINE_PREC"

/-- `envDBName`. -/
def envDBName : String := "SVC_IOT_TDENGINE_DB"

/-- The option an environment variable gives when it is set (`os.Getenv` is `""` otherwise). -/
def envOption (getenv : String → String) (var : String) (opt : String → DBOption) : List DBOption :=
  if 0 < (getenv var).length then [opt (getenv var)] else []

/-- `newDBOptions`: the options from the environment, then the caller's, over the defaults. -/
def newDBOptions (getenv : String → String) (options : List DBOption) : DbOptions :=
  let host := getenv envDBHost
  let port := getenv envDBPort
  let opts : List DBOption :=
    (if 0 < host.length then
      [databaseAddr (if 0 < port.length then "http://" ++ host ++ ":" ++ port
        else "http://" ++ host ++ ":6041")]
    else []) ++
    envOption getenv envDBUser databaseUser ++ envOption getenv envDBPass databasePass ++
    envOption getenv envDBPrec precisionUnit ++ envOption getenv envDBName databaseName ++ options
  opts.foldl (fun o f => f o)
    { databaseAddr := "http://127.0.0.1:6041", databaseName := "iot", databaseUser := "root",
      databasePass := "taosdata", precisionUnit := "ms" }

/-- The `dbConfig` of a `tsdbClient`. -/
structure DbConfig where
  dbAddr : String
  dbName : String
  precision : String
  dbUser : String
  dbPass : String

/-- `tsdbClient`. -/
structure TsdbClient where
  httpClient : Option Client
  dbConfig : DbConfig
  initialErr : Option Error
  defaultNumberValue : Cell

/-- `NewTDEngineClient`. -/
def newTDEngineClient (L : Lib) (getenv : String → String) (opts : List DBOption) : TsdbClient :=
  let dbOpt := newDBOptions getenv opts
  let config : HTTPConfig :=
    { addr := dbOpt.databaseAddr, username := dbOpt.databaseUser, password := dbOpt.databasePass }
  { httpClient := (newHTTPClient L config).toOption
    initialErr := match newHTTPClient L config with
      | .ok _ => none
      | .error e => some e
    defaultNumberValue := dbOpt.defaultNumberValue
    dbConfig := ⟨dbOpt.databaseAddr, dbOpt.databaseName, dbOpt.precisionUnit, dbOpt.databaseUser,
      dbOpt.databasePass⟩ }

theorem newTDEngineClient_dbConfig {L : Lib} {getenv : String → String} {opts : List DBOption} :
    (newTDEngineClient L getenv opts).dbConfig =
      ⟨(newDBOptions getenv opts).databaseAddr, (newDBOptions getenv opts).databaseName,
        (newDBOptions getenv opts).precisionUnit, (newDBOptions getenv opts).databaseUser,
        (newDBOptions getenv opts).databasePass⟩ := rfl

/-- `clientWrapper`, the client `init` builds with `NewTDEngineClient()`. -/
def clientWrapper (L : Lib) (getenv : String → String) : TsdbClient := newTDEngineClient L getenv []

/-! ## `QueryData` -/

/-- The query `QueryData` sends: `NewQuery(sql, DBName, Precision)`. -/
def TsdbClient.newQuery (cl : TsdbClient) (sql : String) : Query :=
  ⟨sql, cl.dbConfig.dbName, cl.dbConfig.precision⟩

/-- The part of `QueryData` after `Query` returned `(resp, err)`. -/
def readResponse (L : Lib) (dflt : Cell) (convertNumber : Bool) :
    Option Response × Option Error → Except Panic (List Row × Option Error)
  | (_, some e) => .ok ([], some e)
  | (none, none) => .error .nilDereference
  | (some resp, none) =>
    match resp.error with
    | some .notExistsTable => .ok ([], none)
    | some e => .ok ([], some e)
    | none =>
      match projectRows L dflt convertNumber resp.columnMeta resp.data [] with
      | .error p => .error p
      | .ok (.error e) => .ok ([], some e)
      | .ok (.ok rows) => .ok (rows, none)

/-- `tsdbClient.QueryData`: the rows and the error, or a run-time panic. -/
def TsdbClient.queryData (L : Lib) (send : Request → Except Error HttpResponse) (cl : TsdbClient)
    (sql : String) (convertNumber : Bool) : Except Panic (List Row × Option Error) :=
  match cl.httpClient, cl.initialErr with
  | some c, none =>
    readResponse L cl.defaultNumberValue convertNumber (c.query L send (cl.newQuery sql))
  | _, _ => .ok ([], some (.notCreated cl.initialErr))

/-- `ReadData`. -/
def readData (L : Lib) (send : Request → Except Error HttpResponse) (getenv : String → String)
    (wrapper : TsdbClient) (sql : String) (opts : List DBOption) :
    Except Panic (List Row × Option Error) :=
  wrapper.queryData L send sql (newDBOptions getenv opts).convertNumber

/-- `cm[0].(string)` for each column metadata entry. -/
def columnNames : List (List Value) → Except Panic (List String)
  | [] => .ok []
  | cm :: cms =>
    match cm.head? with
    | none => .error (.indexOutOfRange 0 0)
    | some (.string n) => (columnNames cms).map (n :: ·)
    | some _ => .error .typeAssertion

/-- The package-level `QueryData` on `wrapper` (`clientWrapper`): the column names, the rows as
decoded, and the error. -/
def queryData (L : Lib) (send : Request → Except Error HttpResponse) (getenv : String → String)
    (wrapper : TsdbClient) (sql : String) (opts : List DBOption) :
    Except Panic (List String × List (List Value) × Option Error) :=
  match wrapper.httpClient with
  | none => .ok ([], [], some (.new "default http client is nil"))
  | some c =>
    let dbOpt := newDBOptions getenv opts
    match c.query L send ⟨sql, dbOpt.databaseName, dbOpt.precisionUnit⟩ with
    | (_, some e) => .ok ([], [], some e)
    | (none, none) => .error .nilDereference
    | (some resp, none) =>
      match columnNames resp.columnMeta with
      | .error p => .error p
      | .ok cols => .ok (cols, resp.data, none)

/-! ## When `QueryData` answers -/

/-- The shape of a decoded response that `QueryData` reads without a run-time panic: an entry of
length 3 has a string name and type, a row has a cell for each entry, and the cells of a
`TIMESTAMP` entry are strings. -/
structure Response.Readable (R : Response) : Prop where
  meta : ∀ c ∈ R.columnMeta, c.length = 3 → ∃ n t sz, c = [.string n, .string t, sz]
  width : ∀ r ∈ R.data, R.columnMeta.length ≤ r.length
  timestamps : ∀ r ∈ R.data, ∀ p ∈ R.columnMeta.zip r, TimestampCell p.1 p.2

section ReadResponse

variable {L : Lib} {dflt : Cell} {convertNumber : Bool}

@[simp] theorem readResponse_error (r : Option Response) (e : Error) :
    readResponse L dflt convertNumber (r, some e) = .ok ([], some e) := by
  cases r <;> rfl

theorem readResponse_some (R : Response) :
    readResponse L dflt convertNumber (some R, none) =
      match R.error with
      | some .notExistsTable => .ok ([], none)
      | some e => .ok ([], some e)
      | none =>
        match projectRows L dflt convertNumber R.columnMeta R.data [] with
        | .error p => .error p
        | .ok (.error e) => .ok ([], some e)
        | .ok (.ok rows) => .ok (rows, none) := rfl

/-- On a readable answer, `readResponse` returns: without an error exactly for the sentinel and
for a clean answer whose metadata is well formed (or that has no row); no row on an application
error. -/
theorem readResponse_spec {R : Response} (hR : R.Readable) :
    ∃ rows err, readResponse L dflt convertNumber (some R, none) = .ok (rows, err) ∧
      (err = none ↔ (R.code = 9826 ∨ R.code = 9750) ∨
        (R.code = 0 ∧ R.desc = "" ∧ (R.data = [] ∨ ∀ c ∈ R.columnMeta, c.length = 3))) ∧
      (R.error.isSome → rows = []) := by
  rw [readResponse_some]
  rcases h : R.error with _ | e
  · obtain ⟨hcode, hdesc⟩ := Response.error_eq_none.mp h
    obtain ⟨x, hx⟩ := projectRows_no_panic L dflt convertNumber R.columnMeta R.data [] hR.meta
      hR.width (fun _ => hR.timestamps)
    have hok := projectRows_ok_iff hx
    rw [hx]
    rcases x with e | rows <;> refine ⟨_, _, rfl, ?_, by simp⟩ <;>
      simpa [Except.toBool, hcode, hdesc] using hok
  · have hcodes : R.code = 9826 ∨ R.code = 9750 ↔ e = .notExistsTable := by
      rw [← Response.error_eq_notExistsTable, h, Option.some.injEq]
    have hclean : ¬(R.code = 0 ∧ R.desc = "") := by rw [← Response.error_eq_none, h]; simp
    cases e <;> refine ⟨_, _, rfl, ?_, fun _ => rfl⟩ <;> simp_all

end ReadResponse

section QueryData

variable {L : Lib} {send : Request → Except Error HttpResponse} {cl : TsdbClient} {c : Client}
  {sql : String} {convertNumber : Bool}

theorem queryData_eq (hc : cl.httpClient = some c) (he : cl.initialErr = none) :
    cl.queryData L send sql convertNumber =
      readResponse L cl.defaultNumberValue convertNumber (c.query L send (cl.newQuery sql)) := by
  simp [TsdbClient.queryData, hc, he]

/-- `QueryData` on a constructed client either returns the error of `Query`, or reads the response
`Query` handed back without an error. -/
theorem queryData_cases {resp : HttpResponse} (hc : cl.httpClient = some c)
    (he : cl.initialErr = none) (hs : send (c.createDefaultRequest (cl.newQuery sql)) = .ok resp) :
    (∃ e, cl.queryData L send sql convertNumber = .ok ([], some e)) ∨
    ∃ R, L.decode resp.body = .ok R ∧ resp.statusCode < 500 ∧
      L.mediaType resp.contentType = "application/json" ∧ (resp.statusCode = 200 ∨ R.error.isSome) ∧
      cl.queryData L send sql convertNumber =
        readResponse L cl.defaultNumberValue convertNumber (some R, none) := by
  have hnil := @query_fst_isSome L send c (cl.newQuery sql)
  have hiff := @query_eq_some_iff L send c (cl.newQuery sql)
  rw [queryData_eq hc he]
  rcases hq : c.query L send (cl.newQuery sql) with ⟨x, _ | e⟩
  · rw [hq] at hnil
    obtain ⟨R, rfl⟩ := Option.isSome_iff_exists.mp (hnil rfl)
    obtain ⟨resp', hs', h5, hm, hd, hst⟩ := (hiff R).mp hq
    obtain rfl : resp' = resp := Except.ok.inj (hs'.symm.trans hs)
    exact .inr ⟨R, hd, h5, hm, hst, rfl⟩
  · exact .inl ⟨e, readResponse_error _ _⟩

theorem queryData_ok_iff (resp : HttpResponse) (hc : cl.httpClient = some c)
    (he : cl.initialErr = none) (hs : send (c.createDefaultRequest (cl.newQuery sql)) = .ok resp)
    (hR : ∀ R, L.decode resp.body = .ok R → R.Readable) :
    (∃ out, cl.queryData L send sql convertNumber = .ok out) ∧
    ((∃ rows, cl.queryData L send sql convertNumber = .ok (rows, none)) ↔
      resp.statusCode < 500 ∧ L.mediaType resp.contentType = "application/json" ∧
      ∃ R, L.decode resp.body = .ok R ∧
        ((R.code = 9826 ∨ R.code = 9750) ∨
          (resp.statusCode = 200 ∧ R.code = 0 ∧ R.desc = "" ∧
            (R.data = [] ∨ ∀ m ∈ R.columnMeta, m.length = 3)))) ∧
    (∀ R, L.decode resp.body = .ok R → (R.code = 9826 ∨ R.code = 9750) →
      resp.statusCode < 500 → L.mediaType resp.contentType = "application/json" →
      cl.queryData L send sql convertNumber = .ok ([], none)) ∧
    (resp.statusCode ≠ 200 → ∀ rows err,
      cl.queryData L send sql convertNumber = .ok (rows, err) → rows = []) := by
  have hiff := @query_eq_some_iff L send c (cl.newQuery sql)
  have hspec := fun R (hd : L.decode resp.body = .ok R) =>
    @readResponse_spec L cl.defaultNumberValue convertNumber R (hR R hd)
  -- a decoded response that passes the status check is what `QueryData` reads
  have hread : ∀ R, L.decode resp.body = .ok R → resp.statusCode < 500 →
      L.mediaType resp.contentType = "application/json" → (resp.statusCode = 200 ∨ R.error.isSome) →
      cl.queryData L send sql convertNumber =
        readResponse L cl.defaultNumberValue convertNumber (some R, none) :=
    fun R hd h5 hm hst => by rw [queryData_eq hc he, (hiff R).mpr ⟨resp, hs, h5, hm, hd, hst⟩]
  have hsentinel : ∀ R, L.decode resp.body = .ok R → (R.code = 9826 ∨ R.code = 9750) →
      resp.statusCode < 500 → L.mediaType resp.contentType = "application/json" →
      cl.queryData L send sql convertNumber = .ok ([], none) := by
    intro R hd hcode h5 hm
    obtain ⟨rows, err, hrr, herr, hrows⟩ := hspec R hd
    have hsome : R.error.isSome := by simp [Response.error_eq_notExistsTable.mpr hcode]
    rw [hread R hd h5 hm (.inr hsome), hrr, hrows hsome, herr.mpr (.inl hcode)]
  -- the conditions give an answer without an error
  have hback : (resp.statusCode < 500 ∧ L.mediaType resp.contentType = "application/json" ∧
      ∃ R, L.decode resp.body = .ok R ∧
        ((R.code = 9826 ∨ R.code = 9750) ∨
          (resp.statusCode = 200 ∧ R.code = 0 ∧ R.desc = "" ∧
            (R.data = [] ∨ ∀ m ∈ R.columnMeta, m.length = 3)))) →
      ∃ rows, cl.queryData L send sql convertNumber = .ok (rows, none) := by
    rintro ⟨h5, hm, R, hd, hcode | ⟨h200, hclean⟩⟩
    · exact ⟨[], hsentinel R hd hcode h5 hm⟩
    · obtain ⟨rows, err, hrr, herr, -⟩ := hspec R hd
      exact ⟨rows, by rw [hread R hd h5 hm (.inl h200), hrr, herr.mpr (.inr hclean)]⟩
  rcases @queryData_cases L send cl c sql convertNumber resp hc he hs with
    ⟨e, hqd⟩ | ⟨R, hd, h5, hm, hst, hqd⟩
  · -- `Query` failed: no row and an error
    refine ⟨⟨_, hqd⟩, ⟨fun ⟨rows, h⟩ => by simp [hqd] at h, hback⟩, hsentinel, fun _ rows err h => ?_⟩
    rw [hqd] at h; cases h; rfl
  · obtain ⟨rows, err, hrr, herr, hrows⟩ := hspec R hd
    rw [hrr] at hqd
    refine ⟨⟨_, hqd⟩, ⟨fun ⟨rows', h⟩ => ?_, hback⟩, hsentinel, fun h200 rows' err' h => ?_⟩
    · rw [hqd] at h; cases h
      refine ⟨h5, hm, R, hd, (herr.mp rfl).imp_right fun ⟨hcode, hdesc, hdata⟩ => ?_⟩
      exact ⟨hst.resolve_right (by simp [Response.error_eq_none.mpr ⟨hcode, hdesc⟩]), hcode, hdesc, hdata⟩
    · rw [hqd] at h; cases h
      exact hrows (hst.resolve_left h200)

/-- On a well-formed answer without an application error, `QueryData` projects every row. -/
theorem queryData_eq_rows (R : Response) (cols : List Column) (hc : cl.httpClient = some c)
    (he : cl.initialErr = none) (hq : c.query L send (cl.newQuery sql) = (some R, none))
    (herr : R.error = none) (hm : R.columnMeta = cols.map Column.meta)
    (hw : ∀ r ∈ R.data, cols.length ≤ r.length)
    (ht : ∀ r ∈ R.data, ∀ p ∈ cols.zip r, p.1.type = "TIMESTAMP" → ∃ s, p.2 = .string s) :
    cl.queryData L send sql convertNumber =
      .ok (R.data.map (fun r => rowOf L cl.defaultNumberValue convertNumber ∅ (cols.zip r)), none) := by
  rw [queryData_eq hc he, hq, readResponse_some, herr, hm,
    projectRows_eq cols R.data [] hw (fun _ => ht)]
  rfl

/-- A projected row keeps, under a name other than `_`, the cell of the last column so named. -/
theorem lookup_rowOf_empty (dflt : Cell) (cols : List Column) (r : List Value) (n : String) :
    (rowOf L dflt convertNumber ∅ (cols.zip r)).lookup n =
      if n = "_" then none
      else ((cols.zip r).filter (·.1.name = n)).getLast?.map
        fun p => cellOf L dflt convertNumber p.1.type p.2 := by
  rw [lookup_rowOf]
  simp [AList.lookup_empty]

theorem queryData_rows (R : Response) (cols : List Column) (hc : cl.httpClient = some c)
    (he : cl.initialErr = none) (hq : c.query L send (cl.newQuery sql) = (some R, none))
    (herr : R.error = none) (hm : R.columnMeta = cols.map Column.meta)
    (hw : ∀ r ∈ R.data, cols.length ≤ r.length)
    (ht : ∀ r ∈ R.data, ∀ p ∈ cols.zip r, p.1.type = "TIMESTAMP" → ∃ s, p.2 = .string s) :
    cl.queryData L send sql convertNumber =
      .ok (R.data.map (fun r => rowOf L cl.defaultNumberValue convertNumber ∅ (cols.zip r)), none) ∧
    ∀ r n, (rowOf L cl.defaultNumberValue convertNumber ∅ (cols.zip r)).lookup n =
      if n = "_" then none
      else ((cols.zip r).filter (·.1.name = n)).getLast?.map
        fun p => cellOf L cl.defaultNumberValue convertNumber p.1.type p.2 :=
  ⟨queryData_eq_rows R cols hc he hq herr hm hw ht, lookup_rowOf_empty _ cols⟩

end QueryData

/-! ## A query answered with two typed columns -/

/-- An answer with a `BIGINT` and a `TIMESTAMP` column and one row. -/
def exampleResponse : Response :=
  { columnMeta := [[.string "n", .string "BIGINT", .number "8"], [.string "s", .string "TIMESTAMP", .number "8"]]
    data := [[.number "42", .string "2024-01-01T00:00:00.000000000Z"]]
    rows := 1 }

/-- Library functions for a server whose answers decode to `R`: the content type is read as it is,
and the one timestamp of `exampleResponse` parses. -/
def jsonLib (R : Response) : Lib :=
  { parseURL := fun _ => .ok ⟨"http", none, "127.0.0.1:6041", "", []⟩
    mediaType := id
    decode := fun _ => .ok R
    parseTime := fun s => if s = "2024-01-01T00:00:00.000000000Z" then some 1704067200 else none }

/-- The HTTP answer carrying it. -/
def exampleHttpResponse : HttpResponse := ⟨200, "application/json", []⟩

/-- A client constructed without error. -/
def exampleClient : TsdbClient :=
  { httpClient := some ⟨⟨"http", none, "127.0.0.1:6041", "", []⟩, "root", "taosdata", "TDEngineDBClient", ""⟩
    dbConfig := ⟨"http://127.0.0.1:6041", "iot", "ms", "root", "taosdata"⟩
    initialErr := none
    defaultNumberValue := .wire .null }

theorem exampleResponse_readable : exampleResponse.Readable where
  meta c hc _ := by
    simp only [exampleResponse, List.mem_cons, List.mem_singleton, List.not_mem_nil, or_false] at hc
    rcases hc with rfl | rfl <;> exact ⟨_, _, _, rfl⟩
  width := by simp [exampleResponse]
  timestamps := by
    simp only [exampleResponse, TimestampCell, List.mem_singleton, forall_eq]
    simp only [List.zip_cons_cons, List.zip_nil_right, List.mem_cons, List.not_mem_nil, or_false]
    rintro _ (rfl | rfl) h
    · simp at h
    · exact ⟨_, rfl⟩

theorem queryData_ok_iff_example :
    exampleClient.httpClient = some ⟨⟨"http", none, "127.0.0.1:6041", "", []⟩, "root", "taosdata",
      "TDEngineDBClient", ""⟩ ∧ exampleClient.initialErr = none ∧
    (∀ R, (jsonLib exampleResponse).decode exampleHttpResponse.body = .ok R → R.Readable) ∧
    ∃ out, exampleClient.queryData (jsonLib exampleResponse) (fun _ => .ok exampleHttpResponse) "select" true =
      .ok out :=
  have hR : ∀ R, (jsonLib exampleResponse).decode exampleHttpResponse.body = .ok R → R.Readable :=
    fun _ h => by cases h; exact exampleResponse_readable
  ⟨rfl, rfl, hR, (queryData_ok_iff exampleHttpResponse rfl rfl rfl hR).1⟩

/-- The metadata of `exampleResponse` as columns. -/
def exampleColumns : List Column := [⟨"n", "BIGINT", .number "8"⟩, ⟨"s", "TIMESTAMP", .number "8"⟩]

theorem queryData_rows_example :
    exampleClient.initialErr = none ∧
    (⟨⟨"http", none, "127.0.0.1:6041", "", []⟩, "root", "taosdata", "TDEngineDBClient", ""⟩ : Client).query
      (jsonLib exampleResponse) (fun _ => .ok exampleHttpResponse) (exampleClient.newQuery "select") =
        (some exampleResponse, none) ∧
    exampleResponse.error = none ∧ exampleResponse.columnMeta = exampleColumns.map Column.meta ∧
    exampleClient.queryData (jsonLib exampleResponse) (fun _ => .ok exampleHttpResponse) "select" true =
      .ok (exampleResponse.data.map
        (fun r => rowOf (jsonLib exampleResponse) (.wire .null) true ∅ (exampleColumns.zip r)), none) :=
  ⟨rfl, rfl, rfl, rfl, (@queryData_rows (jsonLib exampleResponse) (fun _ => .ok exampleHttpResponse) exampleClient
    ⟨⟨"http", none, "127.0.0.1:6041", "", []⟩, "root", "taosdata", "TDEngineDBClient", ""⟩ "select" true
    exampleResponse exampleColumns rfl rfl rfl rfl rfl (by simp [exampleResponse, exampleColumns])
    (by
      simp only [exampleResponse, exampleColumns, List.mem_singleton, forall_eq, List.zip_cons_cons,
        List.zip_nil_right, List.mem_cons, List.not_mem_nil, or_false]
      rintro _ (rfl | rfl) h
      · simp at h
      · exact ⟨_, rfl⟩)).1⟩

example : (rowOf (jsonLib exampleResponse) (.wire .null) true ∅
    (exampleColumns.zip [.number "42", .string "2024-01-01T00:00:00.000000000Z"])).lookup "n" =
      some (.int64 42) := rfl

example : (rowOf (jsonLib exampleResponse) (.wire .null) true ∅
    (exampleColumns.zip [.number "42", .string "2024-01-01T00:00:00.000000000Z"])).lookup "s" =
      some (.int64 1704067200) := rfl

example : (rowOf (jsonLib exampleResponse) (.wire .null) false ∅
    (exampleColumns.zip [.number "42", .string "2024-01-01T00:00:00.000000000Z"])).lookup "n" =
      some (.wire (.number "42")) := rfl

/-! ## A `TIMESTAMP` cell that is not a string -/

/-- An answer whose only row has `null` in its `TIMESTAMP` column. -/
def nullTimestampResponse : Response :=
  { columnMeta := [[.string "ts", .string "TIMESTAMP", .number "8"]], data := [[.null]], rows := 1 }

theorem queryData_null_timestamp {L : Lib} {send : Request → Except Error HttpResponse}
    {cl : TsdbClient} {c : Client} {sql : String} (hc : cl.httpClient = some c)
    (he : cl.initialErr = none) (hq : c.query L send (cl.newQuery sql) = (some nullTimestampResponse, none)) :
    cl.queryData L send sql true = .error .typeAssertion := by
  rw [queryData_eq hc he, hq]
  rfl

theorem queryData_null_timestamp_example :
    exampleClient.initialErr = none ∧
    (⟨⟨"http", none, "127.0.0.1:6041", "", []⟩, "root", "taosdata", "TDEngineDBClient", ""⟩ : Client).query
      (jsonLib nullTimestampResponse) (fun _ => .ok exampleHttpResponse) (exampleClient.newQuery "select") =
        (some nullTimestampResponse, none) ∧
    exampleClient.queryData (jsonLib nullTimestampResponse) (fun _ => .ok exampleHttpResponse) "select" true =
      .error .typeAssertion :=
  ⟨rfl, rfl, queryData_null_timestamp rfl rfl rfl⟩

/-! ## The package-level `QueryData` -/

theorem queryData_pkg_eq {L : Lib} {send : Request → Except Error HttpResponse}
    {getenv : String → String} {wrapper : TsdbClient} {c : Client} {R : Response} {sql : String}
    {opts : List DBOption} (hc : wrapper.httpClient = some c)
    (hq : c.query L send ⟨sql, (newDBOptions getenv opts).databaseName,
      (newDBOptions getenv opts).precisionUnit⟩ = (some R, none)) :
    queryData L send getenv wrapper sql opts =
      (columnNames R.columnMeta).map fun cols => (cols, R.data, none) := by
  simp only [queryData, hc, hq]
  cases columnNames R.columnMeta <;> rfl

/-- An answer with an application error and no metadata. -/
def syntaxErrorResponse : Response := { code := 1234, desc := "syntax error" }

theorem queryData_syntax_error :
    exampleClient.httpClient = some ⟨⟨"http", none, "127.0.0.1:6041", "", []⟩, "root", "taosdata",
      "TDEngineDBClient", ""⟩ ∧
    (⟨⟨"http", none, "127.0.0.1:6041", "", []⟩, "root", "taosdata", "TDEngineDBClient", ""⟩ : Client).query
      (jsonLib syntaxErrorResponse) (fun _ => .ok exampleHttpResponse)
      ⟨"select", (newDBOptions (fun _ => "") []).databaseName,
        (newDBOptions (fun _ => "") []).precisionUnit⟩ = (some syntaxErrorResponse, none) ∧
    syntaxErrorResponse.error.isSome ∧
    queryData (jsonLib syntaxErrorResponse) (fun _ => .ok exampleHttpResponse) (fun _ => "")
      exampleClient "select" [] = .ok ([], [], none) ∧
    exampleClient.queryData (jsonLib syntaxErrorResponse) (fun _ => .ok exampleHttpResponse) "select"
      false = .ok ([], some (.new "syntax error")) :=
  ⟨rfl, rfl, rfl, (@queryData_pkg_eq (jsonLib syntaxErrorResponse) (fun _ => .ok exampleHttpResponse)
    (fun _ => "") exampleClient _ syntaxErrorResponse "select" [] rfl rfl).trans rfl, rfl⟩

/-! ## Integer cells -/

/-- An answer with one `BIGINT UNSIGNED` cell, `2^63`. -/
def bigUnsignedResponse : Response :=
  { columnMeta := [[.string "n", .string "BIGINT UNSIGNED", .number "8"]]
    data := [[.number "9223372036854775808"]]
    rows := 1 }

/-- `2^63`, a `BIGINT UNSIGNED` value, is stored as `2^63 - 1`. -/
theorem queryData_bigint_unsigned :
    exampleClient.queryData (jsonLib bigUnsignedResponse) (fun _ => .ok exampleHttpResponse) "select" true =
      .ok ([(∅ : Row).insert "n" (.int64 9223372036854775807)], none) := rfl

/-- An integer-family cell whose text is a decimal integer `n` is read as `n` clamped to `int64`:
`Int64` reports a range error that `QueryData` drops. -/
theorem cellOf_number_decimal (L : Lib) (dflt : Cell) {T : String}
    (hT : ColumnKind.ofType T = .integer) (neg : Bool) {ds : List Char} (hne : ds ≠ [])
    (hds : ∀ c ∈ ds, c.isDigit = true) :
    cellOf L dflt true T (.number (String.mk ((if neg then ['-'] else []) ++ ds))) =
      .int64 (max (-2 ^ 63) (min ((if neg then -1 else 1) * decimalValue ds) (2 ^ 63 - 1))) := by
  simp only [cellOf, if_true, hT]
  rw [parseInt64_decimal neg hne hds]

section Decimal

variable {L : Lib} {send : Request → Except Error HttpResponse} {cl : TsdbClient} {c : Client}
  {sql : String}

/-- On a well-formed answer, the cell `QueryData` stores under the name of an integer-family column
whose text is a decimal integer `n` is `n` clamped to `int64`, so it is `n` exactly when `n` fits. -/
theorem queryData_decimal (R : Response) (cols : List Column) (hc : cl.httpClient = some c)
    (he : cl.initialErr = none) (hq : c.query L send (cl.newQuery sql) = (some R, none))
    (herr : R.error = none) (hm : R.columnMeta = cols.map Column.meta)
    (hw : ∀ r ∈ R.data, cols.length ≤ r.length)
    (ht : ∀ r ∈ R.data, ∀ p ∈ cols.zip r, p.1.type = "TIMESTAMP" → ∃ s, p.2 = .string s)
    {i : Nat} {r : List Value} (hr : R.data[i]? = some r) {col : Column} (hname : col.name ≠ "_")
    (hT : ColumnKind.ofType col.type = .integer) (neg : Bool) {ds : List Char} (hne : ds ≠ [])
    (hds : ∀ c ∈ ds, c.isDigit = true)
    (hlast : ((cols.zip r).filter (·.1.name = col.name)).getLast? =
      some (col, .number (String.mk ((if neg then ['-'] else []) ++ ds))))
    {n : Int} (hn : n = (if neg then -1 else 1) * decimalValue ds) :
    ∃ rows row, cl.queryData L send sql true = .ok (rows, none) ∧ rows[i]? = some row ∧
      row.lookup col.name = some (.int64 (max (-2 ^ 63) (min n (2 ^ 63 - 1)))) ∧
      (row.lookup col.name = some (.int64 n) ↔ -2 ^ 63 ≤ n ∧ n ≤ 2 ^ 63 - 1) := by
  have hrow : (rowOf L cl.defaultNumberValue true ∅ (cols.zip r)).lookup col.name =
      some (.int64 (max (-2 ^ 63) (min n (2 ^ 63 - 1)))) := by
    rw [lookup_rowOf_empty, if_neg hname, hlast, Option.map_some', hn,
      cellOf_number_decimal L _ hT neg hne hds]
  refine ⟨_, _, queryData_eq_rows R cols hc he hq herr hm hw ht, by rw [List.getElem?_map, hr]; rfl, hrow,
    ?_⟩
  rw [hrow, Option.some.injEq, Cell.int64.injEq]
  omega

end Decimal

/-- The column of `bigUnsignedResponse`. -/
def bigUnsignedColumn : Column := ⟨"n", "BIGINT UNSIGNED", .number "8"⟩

theorem queryData_decimal_bigint_unsigned :
    ∃ rows row, exampleClient.queryData (jsonLib bigUnsignedResponse)
        (fun _ => .ok exampleHttpResponse) "select" true = .ok (rows, none) ∧
      rows[0]? = some row ∧
      row.lookup bigUnsignedColumn.name = some (.int64 (max (-2 ^ 63) (min (2 ^ 63) (2 ^ 63 - 1)))) ∧
      (row.lookup bigUnsignedColumn.name = some (.int64 (2 ^ 63)) ↔
        -2 ^ 63 ≤ (2 ^ 63 : Int) ∧ (2 ^ 63 : Int) ≤ 2 ^ 63 - 1) :=
  @queryData_decimal (jsonLib bigUnsignedResponse) (fun _ => .ok exampleHttpResponse) exampleClient
    ⟨⟨"http", none, "127.0.0.1:6041", "", []⟩, "root", "taosdata", "TDEngineDBClient", ""⟩ "select"
    bigUnsignedResponse [bigUnsignedColumn] rfl rfl rfl rfl rfl (by simp [bigUnsignedResponse])
    (by simp [bigUnsignedResponse, bigUnsignedColumn]) 0 _ rfl bigUnsignedColumn (by decide)
    (by decide) false "9223372036854775808".toList (by decide) (by decide) rfl (2 ^ 63) (by decide)

/-! ## `WriteData` and `Close` -/

/-- The instant, in nanoseconds after the Unix epoch, that the `switch` of `WriteData` reads `ts`
as: `time.Unix(ts, 0)`, `time.UnixMicro(ts)`, `time.Unix(0, ts)`, and `time.UnixMilli(ts)` for
every other precision. -/
def pointTime (precision : String) (ts : Int) : Int :=
  match precision with
  | "s" => ts * 1000000000
  | "us" => ts * 1000
  | "ns" => ts
  | _ => ts * 1000000

/-- The time `WriteData` passes to `NewDataPoint`: none for a `ts` that is not positive. -/
def pointTimeArg (precision : String) (ts : Int) : Option Int :=
  if 0 < ts then some (pointTime precision ts) else none

section WriteData

variable {T F P : Type}

/-- The part of `WriteData` up to `AddPoint`: the batch with the new point, the error of
`NewDataPoint`, or the panic of `AddPoint` on the nil batch `NewBatchPoints` returns with its error.
`newPoint` is `NewDataPoint`, given the time or none. -/
def TsdbClient.writeBatch (newPoint : String → T → F → Option Int → Except Error P)
    (cl : TsdbClient) (ts : Int) (name : String) (tags : T) (fields : F) :
    Except Panic (Except Error (BatchPoints P)) :=
  match newPoint name tags fields (pointTimeArg cl.dbConfig.precision ts) with
  | .error e => .ok (.error e)
  | .ok pt =>
    match newBatchPoints ⟨cl.dbConfig.precision, cl.dbConfig.dbName⟩ with
    | .error _ => .error .nilDereference
    | .ok bps => .ok (.ok (bps.apply (.addPoint (some pt))).1)

/-- `WriteData`: the error it returns, or a run-time panic; `Write` is called on the HTTP client,
nil when `NewHTTPClient` failed. -/
def TsdbClient.writeData (newPoint : String → T → F → Option Int → Except Error P)
    (send : Request → Except Error HttpResponse) (precisionString : P → String → String)
    (cl : TsdbClient) (ts : Int) (name : String) (tags : T) (fields : F) :
    Except Panic (Option Error) :=
  match cl.writeBatch newPoint ts name tags fields with
  | .error p => .error p
  | .ok (.error e) => .ok (some e)
  | .ok (.ok bps) =>
    match cl.httpClient with
    | none => .error .nilDereference
    | some c => .ok (c.write send precisionString bps)

/-- `tsdbClient.Close`: `Close` of the HTTP client, which returns nil. -/
def TsdbClient.close (cl : TsdbClient) : Except Panic (Option Error) :=
  match cl.httpClient with
  | none => .error .nilDereference
  | some _ => .ok none

theorem newTDEngineClient_httpClient_eq_none {L : Lib} {getenv : String → String}
    {opts : List DBOption} :
    (newTDEngineClient L getenv opts).httpClient = none ↔
      (newTDEngineClient L getenv opts).initialErr.isSome := by
  simp only [newTDEngineClient]
  cases newHTTPClient L _ <;> simp [Except.toOption]

/-- `WriteData` panics exactly when `NewDataPoint` succeeds and either `NewBatchPoints` rejects the
precision (at `AddPoint`) or there is no HTTP client (at `Write`). -/
theorem writeData_panics_iff (newPoint : String → T → F → Option Int → Except Error P)
    (send : Request → Except Error HttpResponse) (precisionString : P → String → String)
    (cl : TsdbClient) (ts : Int) (name : String) (tags : T) (fields : F) :
    (∃ p, cl.writeData newPoint send precisionString ts name tags fields = .error p) ↔
      (∃ pt, newPoint name tags fields (pointTimeArg cl.dbConfig.precision ts) = .ok pt) ∧
        ((newBatchPoints (P := P) ⟨cl.dbConfig.precision, cl.dbConfig.dbName⟩).toBool = false ∨
          cl.httpClient = none) := by
  unfold TsdbClient.writeData TsdbClient.writeBatch
  rcases newPoint name tags fields (pointTimeArg cl.dbConfig.precision ts) with e | pt
  · simp only [reduceCtorEq, exists_false, false_and]
  rcases newBatchPoints (P := P) ⟨cl.dbConfig.precision, cl.dbConfig.dbName⟩ with e | bps <;>
    rcases cl.httpClient with _ | c <;>
    simp only [reduceCtorEq, exists_false, false_and, Except.error.injEq, exists_eq', Except.ok.injEq,
      Except.toBool, or_self, and_self, or_false, Bool.true_eq_false, or_true, and_false]

theorem writeData_close_panic (L : Lib) (getenv : String → String) (opts : List DBOption)
    (newPoint : String → T → F → Option Int → Except Error P)
    (send : Request → Except Error HttpResponse) (precisionString : P → String → String)
    (ts : Int) (name : String) (tags : T) (fields : F) :
    ((∃ p, (newTDEngineClient L getenv opts).writeData newPoint send precisionString ts name tags
        fields = .error p) ↔
      (∃ pt, newPoint name tags fields
          (pointTimeArg (newDBOptions getenv opts).precisionUnit ts) = .ok pt) ∧
        ((newBatchPoints (P := P) ⟨(newDBOptions getenv opts).precisionUnit,
            (newDBOptions getenv opts).databaseName⟩).toBool = false ∨
          (newTDEngineClient L getenv opts).initialErr.isSome)) ∧
    ((∃ p, (newTDEngineClient L getenv opts).close = .error p) ↔
      (newTDEngineClient L getenv opts).initialErr.isSome) := by
  have h := writeData_panics_iff newPoint send precisionString (newTDEngineClient L getenv opts) ts
    name tags fields
  simp only [newTDEngineClient_httpClient_eq_none, newTDEngineClient_dbConfig] at h
  refine ⟨h, ?_⟩
  rw [← newTDEngineClient_httpClient_eq_none]
  unfold TsdbClient.close
  cases (newTDEngineClient L getenv opts).httpClient <;> simp

/-- Library functions under which `url.Parse` reads `localhost:6041` as Go does, with the scheme
`localhost`. -/
def schemelessLib : Lib := { jsonLib exampleResponse with parseURL := fun _ => .ok ⟨"localhost", none, "", "", []⟩ }

theorem writeData_schemeless_address :
    (newTDEngineClient schemelessLib (fun _ => "") [databaseAddr "localhost:6041"]).initialErr =
      some (.new "Unsupported protocol scheme: localhost, your address must start with http:// or https://") ∧
    (∃ p, (newTDEngineClient schemelessLib (fun _ => "") [databaseAddr "localhost:6041"]).writeData
      (fun _ _ _ t => .ok t) (fun _ => .ok exampleHttpResponse) (fun _ _ => "") 1 "cpu" () () = .error p) ∧
    (∃ p, (newTDEngineClient schemelessLib (fun _ => "") [databaseAddr "localhost:6041"]).close = .error p) ∧
    (newTDEngineClient schemelessLib (fun _ => "") [databaseAddr "localhost:6041"]).queryData schemelessLib
      (fun _ => .ok exampleHttpResponse) "select" true =
      .ok ([], (newTDEngineClient schemelessLib (fun _ => "") [databaseAddr "localhost:6041"]).initialErr.map
        fun e => .notCreated (some e)) :=
  have h := writeData_close_panic schemelessLib (fun _ => "") [databaseAddr "localhost:6041"]
    (fun _ _ _ t => .ok t) (fun _ => .ok exampleHttpResponse) (fun _ _ => "") 1 "cpu" () ()
  ⟨rfl, h.1.mpr ⟨⟨_, rfl⟩, .inr rfl⟩, h.2.mpr rfl, rfl⟩

/-- For a positive `ts` and a precision that passes the check, the batch `WriteData` writes has the
configured database and precision and the one point `NewDataPoint` builds at `pointTime`; for the
units the `switch` names, that instant is `ts` times `ParseDuration("1" + precision)`. -/
theorem writeBatch_time {newPoint : String → T → F → Option Int → Except Error P} {cl : TsdbClient}
    {ts : Int} {name : String} {tags : T} {fields : F} {pt : P} (hts : 0 < ts)
    (hv : validPrecision cl.dbConfig.precision)
    (hpt : newPoint name tags fields (some (pointTime cl.dbConfig.precision ts)) = .ok pt) :
    cl.writeBatch newPoint ts name tags fields =
      .ok (.ok { database := cl.dbConfig.dbName, precision := cl.dbConfig.precision,
                 points := [some pt] }) ∧
    (cl.dbConfig.precision ∈ ["s", "us", "ns", "ms"] →
      ∃ d, parseDuration ("1" ++ cl.dbConfig.precision) = .ok d ∧
        pointTime cl.dbConfig.precision ts = ts * d) := by
  refine ⟨?_, fun h => ?_⟩
  · have hb := @newBatchPoints_of_valid P ⟨cl.dbConfig.precision, cl.dbConfig.dbName⟩ hv
    simp only [TsdbClient.writeBatch, pointTimeArg, if_pos hts, hpt, hb]
    rfl
  · simp only [List.mem_cons, List.mem_singleton, List.not_mem_nil, or_false] at h
    rcases h with h | h | h | h <;> rw [h] <;> exact ⟨_, rfl, by simp [pointTime]⟩

end WriteData

theorem writeBatch_time_hour :
    (0 : Int) < 1 ∧
    validPrecision (newTDEngineClient (jsonLib exampleResponse) (fun _ => "") [precisionUnit "h"]).dbConfig.precision ∧
    (fun (_ : String) (_ _ : Unit) (t : Option Int) => (.ok t : Except Error (Option Int))) "cpu" () ()
        (some (pointTime (newTDEngineClient (jsonLib exampleResponse) (fun _ => "") [precisionUnit "h"]).dbConfig.precision 1)) =
      .ok (some 1000000) ∧
    parseDuration ("1" ++ "h") = .ok 3600000000000 ∧
    (newTDEngineClient (jsonLib exampleResponse) (fun _ => "") [precisionUnit "h"]).writeBatch
        (fun _ _ _ t => .ok t) 1 "cpu" () () =
      .ok (.ok { database := "iot", precision := "h", points := [some (some 1000000)] }) :=
  ⟨by decide, rfl, rfl, rfl, And.left (writeBatch_time (by decide) rfl rfl)⟩

/-! ## The request `WriteData` sends -/

section WriteRequest

variable {T F P : Type} {newPoint : String → T → F → Option Int → Except Error P}
  {precisionString : P → String → String} {cl : TsdbClient} {ts : Int} {name : String} {tags : T}
  {fields : F} {pt : P}

/-- The batch `WriteData` fills: the configured database and precision and the one point. -/
theorem writeBatch_eq_ok (hv : validPrecision cl.dbConfig.precision)
    (hpt : newPoint name tags fields (pointTimeArg cl.dbConfig.precision ts) = .ok pt) :
    cl.writeBatch newPoint ts name tags fields =
      .ok (.ok { database := cl.dbConfig.dbName, precision := cl.dbConfig.precision,
                 points := [some pt] }) := by
  simp only [TsdbClient.writeBatch, hpt,
    @newBatchPoints_of_valid P ⟨cl.dbConfig.precision, cl.dbConfig.dbName⟩ hv]
  rfl

/-- `WriteData` on a client whose `NewHTTPClient` succeeded, with a precision that passes the check
and a point that `NewDataPoint` builds, hands the transport one POST to `influxdb/v1/write` at the
client's address. Its query reads back as the address's query with `db` and `precision` set, its
body carries the point's line, and `WriteData` returns nil exactly when the answer has status 204
or 200. -/
theorem writeData_request {c : Client} (hc : cl.httpClient = some c)
    (hv : validPrecision cl.dbConfig.precision)
    (hpt : newPoint name tags fields (pointTimeArg cl.dbConfig.precision ts) = .ok pt) :
    ∃ req : Request, req.method = "POST" ∧ req.scheme = c.url.scheme ∧ req.user = c.url.user ∧
      req.host = c.url.host ∧ req.path = [c.url.path, writeDataURL] ∧
      (∀ k, (parseQuery req.rawQuery).get k =
        if k = bytesOf "precision" then [bytesOf cl.dbConfig.precision]
        else if k = bytesOf "db" then [bytesOf cl.dbConfig.dbName]
        else (parseQuery c.url.rawQuery).get k) ∧
      req.body.stream = precisionString pt cl.dbConfig.precision ++ "\n" ∧
      ∀ send : Request → Except Error HttpResponse,
        cl.writeData newPoint send precisionString ts name tags fields =
          .ok (match send req with
            | .error e => some e
            | .ok resp => if resp.statusCode = 204 ∨ resp.statusCode = 200 then none
              else some (.body resp.body)) := by
  refine ⟨c.writeRequest precisionString
    { database := cl.dbConfig.dbName, precision := cl.dbConfig.precision, points := [some pt] },
    rfl, rfl, rfl, rfl, rfl, fun k => by rw [Client.writeRequest_rawQuery]; exact get_writeQuery c _ k,
    ?_, fun send => ?_⟩
  · simp only [Client.writeRequest, writeLoop]
    split_ifs <;> simp [Body.stream, String.join]
  · simp only [TsdbClient.writeData, writeBatch_eq_ok hv hpt, hc, Client.write]
    rcases send _ with e | resp
    · rfl
    · simp only [writeResult]
      by_cases h : resp.statusCode = 204 ∨ resp.statusCode = 200
      · rw [if_pos h, if_neg (by omega)]
      · rw [if_neg h, if_pos (by omega)]

end WriteRequest

/-- The HTTP client of `tokenClient`: its address carries the query `token=abc`. -/
def tokenHttpClient : Client :=
  ⟨⟨"http", none, "127.0.0.1:6041", "", bytesOf "token=abc"⟩, "root", "taosdata", "TDEngineDBClient", ""⟩

/-- `exampleClient` on the address `http://127.0.0.1:6041?token=abc`. -/
def tokenClient : TsdbClient := { exampleClient with httpClient := some tokenHttpClient }

theorem writeData_request_token :
    ∃ req : Request, req.method = "POST" ∧ req.scheme = "http" ∧ req.user = none ∧
      req.host = "127.0.0.1:6041" ∧ req.path = ["", writeDataURL] ∧
      (∀ k, (parseQuery req.rawQuery).get k =
        if k = bytesOf "precision" then [bytesOf "ms"]
        else if k = bytesOf "db" then [bytesOf "iot"]
        else (parseQuery (bytesOf "token=abc")).get k) ∧
      req.body.stream = "cpu 1\n" ∧
      ∀ send : Request → Except Error HttpResponse,
        tokenClient.writeData (fun _ _ _ _ => .ok "cpu 1") send (fun p _ => p) 1 "cpu" () () =
          .ok (match send req with
            | .error e => some e
            | .ok resp => if resp.statusCode = 204 ∨ resp.statusCode = 200 then none
              else some (.body resp.body)) :=
  @writeData_request Unit Unit String (fun _ _ _ _ => .ok "cpu 1") (fun p _ => p) tokenClient 1 "cpu"
    () () "cpu 1" tokenHttpClient rfl rfl rfl

/-- The query `Write` sends for `tokenClient`, keys in sorted order. -/
example : tokenHttpClient.writeQuery ({ database := "iot", precision := "ms" } : BatchPoints Unit) =
    bytesOf "db=iot&precision=ms&token=abc" := by decide

end Tsdb
