import TsdbClient.Batch
import TsdbClient.UrlValues

/-!
# The HTTP client: `NewHTTPClient`, `Write` and `Query`

* `newHTTPClient` : the defaults and the checks of `NewHTTPClient` (scheme, write encoding);
* `Client.writeRequest`, `Client.write` : `Write` serialises the non-nil points of a batch, one
  line each (`writeLoop`), and POSTs them to `influxdb/v1/write`, with the address's query and
  `db` and `precision` set on it (`Client.writeQuery`); `write_stream` : the request it hands the
  transport carries the lines of the points added to the batch, in order;
* `checkResponse`, `Client.query` : `Query` POSTs the command to `rest/sql[/db]`, checks the status
  and the media type, decodes the body, tolerates `EOF` on a non-200 status and reports a non-200
  status without an application error; `query_ok_iff` : when it answers without an error;
* `Client.ping` : `Ping` reads the version at `Data[Rows-1][0]` of the answer to `versionQuery`;
  `ping_panics_iff` : it panics exactly when `Query` returns a response without an error whose
  `Rows` selects no row of `Data` starting with a string, as for an application error.

The network and the server are the function `send` from a request to a response or an error.
-/

namespace Tsdb

set_option autoImplicit false

variable {P : Type}

/-- `WriteDataURL`. -/
def writeDataURL : String := "influxdb/v1/write"

/-- `ExecuteSqlURL`. -/
def executeSqlURL : String := "rest/sql"

/-- `DefaultEncoding`. -/
def defaultEncoding : String := ""

/-- `GzipEncoding`. -/
def gzipEncoding : String := "gzip"

/-- `HTTPConfig`: the fields that reach the model (timeouts, TLS and proxy settings do not). -/
structure HTTPConfig where
  addr : String
  username : String := ""
  password : String := ""
  userAgent : String := ""
  writeEncoding : String := defaultEncoding

/-- `client`. -/
structure Client where
  url : URL
  username : String
  password : String
  useragent : String
  encoding : String

/-- `NewHTTPClient`. -/
def newHTTPClient (L : Lib) (conf : HTTPConfig) : Except Error Client :=
  let userAgent := if conf.userAgent = "" then "TDEngineDBClient" else conf.userAgent
  match L.parseURL conf.addr with
  | .error e => .error e
  | .ok u =>
    if u.scheme ≠ "http" ∧ u.scheme ≠ "https" then
      .error (.new ("Unsupported protocol scheme: " ++ u.scheme ++
        ", your address must start with http:// or https://"))
    else if conf.writeEncoding ≠ defaultEncoding ∧ conf.writeEncoding ≠ gzipEncoding then
      .error (.new ("unsupported encoding " ++ conf.writeEncoding))
    else .ok ⟨u, conf.username, conf.password, userAgent, conf.writeEncoding⟩

/-- A request body: the bytes of `stream`, or of its gzip compression. -/
inductive Body where
  | plain (stream : String)
  | gzip (stream : String)
  deriving DecidableEq, Repr

/-- The stream a body carries, before compression. -/
def Body.stream : Body → String
  | .plain s => s
  | .gzip s => s

/-- An HTTP request: the URL is the client's, with `path` the arguments `path.Join` joins into its
path and `rawQuery` its query. -/
structure Request where
  method : String
  scheme : String
  user : Option Userinfo
  host : String
  path : List String
  rawQuery : List UInt8
  header : List (String × String)
  basicAuth : Option (String × String)
  body : Body
  deriving DecidableEq, Repr

/-- What the client reads of a response; reading the body is not modelled to fail. -/
structure HttpResponse where
  statusCode : Nat
  contentType : String
  body : List UInt8
  deriving DecidableEq, Repr

/-- The basic auth `Write` and `Query` attach, for a non-empty user name only. -/
def Client.auth (c : Client) : Option (String × String) :=
  if c.username ≠ "" then some (c.username, c.password) else none

/-! ## `Write` -/

/-- The loop of `Write`: the strings it writes to `w`, in order. A `nil` point is skipped; writes
into a `bytes.Buffer`, directly or through gzip, do not fail. -/
def writeLoop (precisionString : P → String → String) (precision : String) :
    List (Option P) → List String → List String
  | [], w => w
  | none :: ps, w => writeLoop precisionString precision ps w
  | some p :: ps, w => writeLoop precisionString precision ps (w ++ [precisionString p precision, "\n"])

/-- The query `Write` sends: `req.URL.Query()` of the address, with `db` and `precision` set, then
`Encode`. -/
def Client.writeQuery (c : Client) (bp : BatchPoints P) : List UInt8 :=
  (((parseQuery c.url.rawQuery).set (bytesOf "db") (bytesOf bp.database)).set (bytesOf "precision")
    (bytesOf bp.precision)).encode

/-- The query `Write` sends reads back as the address's query with `db` and `precision` set. -/
theorem get_writeQuery (c : Client) (bp : BatchPoints P) (k : List UInt8) :
    (parseQuery (c.writeQuery bp)).get k =
      if k = bytesOf "precision" then [bytesOf bp.precision]
      else if k = bytesOf "db" then [bytesOf bp.database] else (parseQuery c.url.rawQuery).get k := by
  simp only [Client.writeQuery, parseQuery_encode, Values.get_set]

/-- The request `Write` sends for a batch; `precisionString` is `Point.PrecisionString`. -/
def Client.writeRequest (precisionString : P → String → String) (c : Client)
    (bp : BatchPoints P) : Request :=
  let stream := String.join (writeLoop precisionString bp.precision bp.points [])
  { method := "POST"
    scheme := c.url.scheme
    user := c.url.user
    host := c.url.host
    path := [c.url.path, writeDataURL]
    rawQuery := c.writeQuery bp
    header := (if c.encoding ≠ defaultEncoding then [("Content-Encoding", c.encoding)] else []) ++
      [("Content-Type", ""), ("User-Agent", c.useragent)]
    basicAuth := c.auth
    body := if c.encoding = gzipEncoding then .gzip stream else .plain stream }

@[simp] theorem Client.writeRequest_rawQuery (precisionString : P → String → String) (c : Client)
    (bp : BatchPoints P) : (c.writeRequest precisionString bp).rawQuery = c.writeQuery bp := by
  simp only [Client.writeRequest]

/-- The part of `Write` after `c.httpClient.Do(req)`: its error, or the body as the error of a
status other than 204 and 200. -/
def writeResult : Except Error HttpResponse → Option Error
  | .error e => some e
  | .ok resp =>
    if resp.statusCode ≠ 204 ∧ resp.statusCode ≠ 200 then some (.body resp.body) else none

/-- `Write`. -/
def Client.write (send : Request → Except Error HttpResponse)
    (precisionString : P → String → String) (c : Client) (bp : BatchPoints P) : Option Error :=
  writeResult (send (c.writeRequest precisionString bp))

theorem writeResult_eq_none {r : Except Error HttpResponse} :
    writeResult r = none ↔ ∃ resp, r = .ok resp ∧ (resp.statusCode = 204 ∨ resp.statusCode = 200) := by
  rcases r with e | resp
  · simp only [writeResult, reduceCtorEq, false_and, exists_false]
  · simp only [writeResult, ite_eq_right_iff, reduceCtorEq, imp_false, Except.ok.injEq, exists_eq_left']
    omega

/-- The line of one point of the batch: nothing for `nil`. -/
def pointLine (precisionString : P → String → String) (precision : String) : Option P → List String
  | none => []
  | some p => [precisionString p precision, "\n"]

theorem writeLoop_eq (precisionString : P → String → String) (precision : String) :
    ∀ (ps : List (Option P)) (w : List String),
      writeLoop precisionString precision ps w = w ++ ps.flatMap (pointLine precisionString precision)
  | [], w => by simp [writeLoop]
  | none :: ps, w => by simp [writeLoop, pointLine, writeLoop_eq _ _ ps w]
  | some p :: ps, w => by simp [writeLoop, pointLine, writeLoop_eq _ _ ps]

theorem flatMap_pointLine (precisionString : P → String → String) (precision : String) :
    ∀ ps : List (Option P), ps.flatMap (pointLine precisionString precision) =
      (ps.filterMap id).flatMap fun p => [precisionString p precision, "\n"]
  | [] => rfl
  | none :: ps => by simp [pointLine, flatMap_pointLine _ _ ps]
  | some p :: ps => by simp [pointLine, flatMap_pointLine _ _ ps]

/-- `Write` hands `send` one request, whose body carries the lines of the non-nil points added to
the batch, in order, and reads the answer with `writeResult`. -/
theorem write_stream (precisionString : P → String → String) (c : Client) (conf : BatchPointsConfig)
    (bp : BatchPoints P) (ops : List (BatchOp P)) (h : newBatchPoints conf = .ok bp) :
    ∃ req : Request, req.body = (if c.encoding = gzipEncoding then Body.gzip else Body.plain)
        (String.join (((ops.flatMap BatchOp.added).filterMap id).flatMap
          fun p => [precisionString p (bp.run ops).precision, "\n"])) ∧
      ∀ send : Request → Except Error HttpResponse,
        c.write send precisionString (bp.run ops) = writeResult (send req) := by
  obtain ⟨rfl, -⟩ := newBatchPoints_ok h
  refine ⟨c.writeRequest precisionString (BatchPoints.run _ ops), ?_, fun _ => rfl⟩
  simp only [Client.writeRequest, writeLoop_eq, BatchPoints.points_run, flatMap_pointLine,
    List.nil_append]
  split_ifs <;> rfl

theorem write_stream_default :
    newBatchPoints (P := String) {} = .ok { precision := "ms" } ∧
      ∃ req : Request, req.body =
          (if "" = gzipEncoding then Body.gzip else Body.plain)
            (String.join ((([BatchOp.addPoints [some "x", none, some "x"]].flatMap BatchOp.added).filterMap
              id).flatMap fun p => [p, "\n"])) ∧
        ∀ send : Request → Except Error HttpResponse,
          Client.write send (fun p _ => p) ⟨⟨"http", none, "h", "", []⟩, "", "", "a", ""⟩
            (({ precision := "ms" } : BatchPoints String).run [.addPoints [some "x", none, some "x"]]) =
            writeResult (send req) :=
  ⟨rfl, @write_stream String (fun p _ => p) ⟨⟨"http", none, "h", "", []⟩, "", "", "a", ""⟩ {}
    { precision := "ms" } [.addPoints [some "x", none, some "x"]] rfl⟩

/-! ## `Query` -/

/-- `Query`. -/
structure Query where
  command : String
  database : String
  precision : String

/-- `createDefaultRequest`: the command as the body, the database as the last path element. -/
def Client.createDefaultRequest (c : Client) (q : Query) : Request :=
  { method := "POST"
    scheme := c.url.scheme
    user := c.url.user
    host := c.url.host
    path := [c.url.path, executeSqlURL] ++ (if 0 < q.database.length then [q.database] else [])
    rawQuery := c.url.rawQuery
    header := [("Content-Type", ""), ("User-Agent", c.useragent)]
    basicAuth := c.auth
    body := .plain q.command }

/-- `checkResponse`: a 5xx status, or a media type other than `application/json` (with up to 1 KiB
of the body). -/
def checkResponse (L : Lib) (resp : HttpResponse) : Option Error :=
  if 500 ≤ resp.statusCode then some (.downstream resp.statusCode resp.body)
  else if L.mediaType resp.contentType ≠ "application/json" then
    some (.notJson (L.mediaType resp.contentType) resp.statusCode (resp.body.take 1024))
  else none

/-- The decoded response and the decode error, before the `EOF` tolerance. -/
def decodeBody (L : Lib) (body : List UInt8) : Response × Option DecodeError :=
  match L.decode body with
  | .ok r => (r, none)
  | .error e => ({}, some e)

/-- `Query`: Go's `(*Response, error)` as a pair of options. -/
def Client.query (L : Lib) (send : Request → Except Error HttpResponse) (c : Client) (q : Query) :
    Option Response × Option Error :=
  match send (c.createDefaultRequest q) with
  | .error e => (none, some e)
  | .ok resp =>
    match checkResponse L resp with
    | some e => (none, some e)
    | none =>
      let (response, decErr) := decodeBody L resp.body
      -- ignore this error if we got an invalid status code
      let decErr := if decErr.map DecodeError.text = some "EOF" ∧ resp.statusCode ≠ 200 then none
        else decErr
      match decErr with
      | some e => (none, some (.new ("unable to decode json: received status code " ++
          toString resp.statusCode ++ " err: " ++ e.text)))
      | none =>
        if resp.statusCode ≠ 200 ∧ response.error.isNone then
          (some response, some (.new ("received status code " ++ toString resp.statusCode ++
            " from server")))
        else (some response, none)

/-- The error `Query` reports for a non-200 status without an application error. -/
def statusError (status : Nat) : Error :=
  .new ("received status code " ++ toString status ++ " from server")

theorem checkResponse_eq_none {L : Lib} {resp : HttpResponse} :
    checkResponse L resp = none ↔
      resp.statusCode < 500 ∧ L.mediaType resp.contentType = "application/json" := by
  unfold checkResponse
  split_ifs <;> simp_all

section Query

variable {L : Lib} {send : Request → Except Error HttpResponse} {c : Client} {q : Query}
  {resp : HttpResponse}

theorem query_of_send_error {e : Error} (h : send (c.createDefaultRequest q) = .error e) :
    c.query L send q = (none, some e) := by
  simp [Client.query, h]

theorem query_of_check {e : Error} (h : send (c.createDefaultRequest q) = .ok resp)
    (hc : checkResponse L resp = some e) : c.query L send q = (none, some e) := by
  simp [Client.query, h, hc]

theorem query_of_decode_ok {R : Response} (h : send (c.createDefaultRequest q) = .ok resp)
    (hc : checkResponse L resp = none) (hd : L.decode resp.body = .ok R) :
    c.query L send q =
      (some R, if resp.statusCode ≠ 200 ∧ R.error.isNone then some (statusError resp.statusCode)
        else none) := by
  simp only [Client.query, h, hc, decodeBody, hd, statusError]
  split_ifs <;> rfl

theorem query_of_decode_error {de : DecodeError} (h : send (c.createDefaultRequest q) = .ok resp)
    (hc : checkResponse L resp = none) (hd : L.decode resp.body = .error de) :
    c.query L send q =
      if de.text = "EOF" ∧ resp.statusCode ≠ 200 then (some {}, some (statusError resp.statusCode))
      else (none, some (.new ("unable to decode json: received status code " ++
        toString resp.statusCode ++ " err: " ++ de.text))) := by
  simp only [Client.query, h, hc, decodeBody, hd, statusError]
  by_cases he : de.text = "EOF" ∧ resp.statusCode ≠ 200
  · have : ({} : Response).error.isNone := by simp [Response.error]
    simp [he, this]
  · simp [he]

/-- `Query` hands back a response whenever it hands back no error. -/
theorem query_fst_isSome (h : (c.query L send q).2.isNone) : (c.query L send q).1.isSome := by
  rcases hs : send (c.createDefaultRequest q) with e | resp
  · simp [query_of_send_error hs] at h
  rcases hc : checkResponse L resp with _ | e
  · rcases hd : L.decode resp.body with de | R
    · rw [query_of_decode_error hs hc hd] at h ⊢
      split_ifs at h ⊢ <;> simp at h ⊢
    · rw [query_of_decode_ok hs hc hd]
      rfl
  · simp [query_of_check hs hc] at h

/-- `Query` hands back `R` without an error exactly for an answer that passes `checkResponse` and
decodes to `R`, with status 200 or an application error. -/
theorem query_eq_some_iff (R : Response) :
    c.query L send q = (some R, none) ↔
      ∃ resp, send (c.createDefaultRequest q) = .ok resp ∧ resp.statusCode < 500 ∧
        L.mediaType resp.contentType = "application/json" ∧ L.decode resp.body = .ok R ∧
        (resp.statusCode = 200 ∨ R.error.isSome) := by
  revert R
  rcases hs : send (c.createDefaultRequest q) with e | resp
  · simp [query_of_send_error hs]
  simp only [Except.ok.injEq, exists_eq_left']
  rcases hc : checkResponse L resp with _ | e
  · have hc' := checkResponse_eq_none.mp hc
    rcases hd : L.decode resp.body with de | R
    · rw [query_of_decode_error hs hc hd]
      split_ifs <;> simp
    · rw [query_of_decode_ok hs hc hd]
      by_cases h2 : resp.statusCode = 200 <;> cases h3 : R.error <;> simp_all
  · have : ¬(resp.statusCode < 500 ∧ L.mediaType resp.contentType = "application/json") :=
      fun h => by simp [checkResponse_eq_none.mpr h] at hc
    simp_all [query_of_check hs hc]

theorem query_ok_iff :
    ((c.query L send q).2.isNone → (c.query L send q).1.isSome) ∧
    (∀ R : Response, c.query L send q = (some R, none) ↔
      ∃ resp, send (c.createDefaultRequest q) = .ok resp ∧ resp.statusCode < 500 ∧
        L.mediaType resp.contentType = "application/json" ∧ L.decode resp.body = .ok R ∧
        (resp.statusCode = 200 ∨ R.error.isSome)) ∧
    (∀ resp, send (c.createDefaultRequest q) = .ok resp → resp.statusCode ≠ 200 →
      L.decode resp.body = .error .eof → (c.query L send q).2.isSome) := by
  refine ⟨query_fst_isSome, query_eq_some_iff, fun resp hs h200 hd => ?_⟩
  rcases hc : checkResponse L resp with _ | e
  · rw [query_of_decode_error hs hc hd, if_pos ⟨rfl, h200⟩]
    rfl
  · rw [query_of_check hs hc]
    rfl

end Query

/-! ## `Ping` -/

/-- The query `Ping` sends: `NewQuery("select server_version() as version", "", "")`. -/
def versionQuery : Query := ⟨"select server_version() as version", "", ""⟩

/-- `resp.Data[resp.Rows-1][0].(string)`. -/
def versionOf (R : Response) : Except Panic String :=
  match indexAt R.data (R.rows - 1) with
  | .error p => .error p
  | .ok row =>
    match indexAt row 0 with
    | .error p => .error p
    | .ok (.string v) => .ok v
    | .ok _ => .error .typeAssertion

/-- `Ping`, without the time it measures: the version and the error, or a run-time panic. -/
def Client.ping (L : Lib) (send : Request → Except Error HttpResponse) (c : Client) :
    Except Panic (String × Option Error) :=
  match c.query L send versionQuery with
  | (_, some e) => .ok ("", some e)
  | (some R, none) => (versionOf R).map fun v => (v, none)
  | (none, none) => .ok ("", some (.new "get server version response empty"))

/-- The version cell is read exactly when `Rows` selects a row of `Data` whose first cell is a
string. -/
theorem versionOf_eq_ok {R : Response} {v : String} :
    versionOf R = .ok v ↔
      ∃ row, 0 < R.rows ∧ R.data.get? (R.rows - 1).toNat = some row ∧ row.head? = some (.string v) := by
  have hcell : ∀ (row : List Value) x, indexAt row 0 = .ok x ↔ row.head? = some x := fun row x => by
    simp [indexAt_eq_ok, List.head?_eq_getElem?]
  unfold versionOf
  rcases h1 : indexAt R.data (R.rows - 1) with p | row
  · -- `Rows` selects no row
    simp only [reduceCtorEq, false_iff, not_exists, not_and]
    intro row hr hrow _
    simp [indexAt_eq_ok.mpr ⟨by omega, hrow⟩] at h1
  · -- the row `Rows` selects, then its first cell
    obtain ⟨hr, hrow⟩ := indexAt_eq_ok.mp h1
    have hr' : 0 < R.rows := by omega
    simp only [hrow, Option.some.injEq, exists_eq_left', hr', true_and, ← hcell]
    rcases indexAt row 0 with p | (_ | _ | _ | s | _ | _) <;> simp

/-- `Ping` panics exactly when `Query` hands back a response without an error whose `Rows` does
not select a row of `Data` starting with a string: `Rows` at most 0 or above `len(Data)`, an empty
row, or a first cell of another type. -/
theorem ping_panics_iff {L : Lib} {send : Request → Except Error HttpResponse} {c : Client} :
    (∃ p, c.ping L send = .error p) ↔
      ∃ R, c.query L send versionQuery = (some R, none) ∧
        ¬ ∃ v row, 0 < R.rows ∧ R.data.get? (R.rows - 1).toNat = some row ∧
          row.head? = some (.string v) := by
  unfold Client.ping
  rcases c.query L send versionQuery with ⟨_ | R, _ | e⟩ <;> simp only [reduceCtorEq, exists_false,
    Prod.mk.injEq, false_and, and_false, and_true, Option.some.injEq, exists_eq_left', exists_const]
  -- `Query` answered `R` without an error
  simp only [← versionOf_eq_ok]
  rcases versionOf R with p | v <;> simp [Except.map]

/-- An application error answered with status 200: `rows` is absent, so 0. -/
def versionErrorResponse : Response := { code := 855, desc := "Authentication failure" }

theorem ping_application_error :
    (∃ p, (⟨⟨"http", none, "127.0.0.1:6041", "", []⟩, "root", "wrong", "TDEngineDBClient", ""⟩ : Client).ping
        ⟨fun _ => .error (.new ""), id, fun _ => .ok versionErrorResponse, fun _ => none⟩
        (fun _ => .ok ⟨200, "application/json", []⟩) = .error p) ∧
    (⟨⟨"http", none, "127.0.0.1:6041", "", []⟩, "root", "wrong", "TDEngineDBClient", ""⟩ : Client).ping
        ⟨fun _ => .error (.new ""), id, fun _ => .ok versionErrorResponse, fun _ => none⟩
        (fun _ => .ok ⟨200, "application/json", []⟩) = .error (.indexOutOfRange (-1) 0) :=
  ⟨ping_panics_iff.mpr ⟨versionErrorResponse, rfl, by simp [versionErrorResponse]⟩, rfl⟩

end Tsdb
