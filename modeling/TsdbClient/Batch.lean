import TsdbClient.Duration

/-!
# `BatchPoints`: a batch and the operations on it

* `newBatchPoints` (`NewBatchPoints`) defaults the precision to `"ms"` and checks it;
* `BatchOp`, `BatchPoints.apply`, `BatchPoints.run` : the methods of `*batchpoints`, and a batch
  after a sequence of them;
* `points_run` : the points of a batch are the points added, in order, `nil` and repeats included;
* `validPrecision_run` : every reachable batch has a precision `ParseDuration("1" + p)` accepts;
  `apply_error` : a call that returns an error (only `SetPrecision` does) leaves the batch as it was;
* `newBatchPoints_hour_precision` : the check admits units beyond `ns`, `us`, `ms` and `s`.

A point is a value of the type `P` the batch is generic in; `nil` is `none`.
-/

namespace Tsdb

set_option autoImplicit false

variable {P : Type}

/-- `BatchPointsConfig`. -/
structure BatchPointsConfig where
  precision : String := ""
  database : String := ""

/-- `batchpoints`, the only implementation of `BatchPoints`. -/
structure BatchPoints (P : Type) where
  points : List (Option P) := []
  database : String := ""
  precision : String := ""
  retentionPolicy : String := ""
  writeConsistency : String := ""

/-- `NewBatchPoints`. -/
def newBatchPoints (conf : BatchPointsConfig) : Except Error (BatchPoints P) :=
  let precision := if conf.precision = "" then "ms" else conf.precision
  match parseDuration ("1" ++ precision) with
  | .error e => .error (e.toError ("1" ++ precision))
  | .ok _ => .ok { database := conf.database, precision := precision }

/-- `SetPrecision`: the batch, changed only when the check passes, and the error. -/
def BatchPoints.setPrecision (bp : BatchPoints P) (p : String) : BatchPoints P × Option Error :=
  match parseDuration ("1" ++ p) with
  | .error e => (bp, some (e.toError ("1" ++ p)))
  | .ok _ => ({ bp with precision := p }, none)

/-- A call of a method of `*batchpoints` that changes the batch. -/
inductive BatchOp (P : Type) where
  | addPoint (p : Option P)
  | addPoints (ps : List (Option P))
  | setPrecision (p : String)
  | setDatabase (db : String)
  | setWriteConsistency (wc : String)
  | setRetentionPolicy (rp : String)

/-- One call: the batch after it and the error it returns. -/
def BatchPoints.apply (bp : BatchPoints P) : BatchOp P → BatchPoints P × Option Error
  | .addPoint p => ({ bp with points := bp.points ++ [p] }, none)
  | .addPoints ps => ({ bp with points := bp.points ++ ps }, none)
  | .setPrecision p => bp.setPrecision p
  | .setDatabase db => ({ bp with database := db }, none)
  | .setWriteConsistency wc => ({ bp with writeConsistency := wc }, none)
  | .setRetentionPolicy rp => ({ bp with retentionPolicy := rp }, none)

/-- The batch after a sequence of calls. -/
def BatchPoints.run (bp : BatchPoints P) (ops : List (BatchOp P)) : BatchPoints P :=
  ops.foldl (fun b o => (b.apply o).1) bp

/-- The points a call appends. -/
def BatchOp.added : BatchOp P → List (Option P)
  | .addPoint p => [p]
  | .addPoints ps => ps
  | _ => []

@[simp] theorem BatchPoints.run_nil (bp : BatchPoints P) : bp.run [] = bp := rfl

@[simp] theorem BatchPoints.run_cons (bp : BatchPoints P) (o : BatchOp P) (ops : List (BatchOp P)) :
    bp.run (o :: ops) = (bp.apply o).1.run ops := rfl

theorem BatchPoints.setPrecision_fst (bp : BatchPoints P) (p : String) :
    (bp.setPrecision p).1 = if validPrecision p then { bp with precision := p } else bp := by
  unfold BatchPoints.setPrecision validPrecision
  split <;> simp_all [Except.toBool]

theorem BatchPoints.setPrecision_snd (bp : BatchPoints P) (p : String) :
    (bp.setPrecision p).2.isSome = !validPrecision p := by
  unfold BatchPoints.setPrecision validPrecision
  split <;> simp_all [Except.toBool]

theorem BatchPoints.apply_points (bp : BatchPoints P) (o : BatchOp P) :
    (bp.apply o).1.points = bp.points ++ o.added := by
  cases o <;> simp [BatchPoints.apply, BatchOp.added, BatchPoints.setPrecision_fst]
  split_ifs <;> rfl

theorem BatchPoints.apply_precision (bp : BatchPoints P) (o : BatchOp P) :
    (bp.apply o).1.precision = bp.precision ∨
      ∃ p, o = .setPrecision p ∧ validPrecision p ∧ (bp.apply o).1.precision = p := by
  cases o <;> simp [BatchPoints.apply, BatchPoints.setPrecision_fst]
  split_ifs <;> simp_all

theorem BatchPoints.apply_error (bp : BatchPoints P) (o : BatchOp P) (h : (bp.apply o).2.isSome) :
    (bp.apply o).1 = bp := by
  cases o <;> simp_all [BatchPoints.apply, BatchPoints.setPrecision_fst, BatchPoints.setPrecision_snd]

theorem BatchPoints.points_run (bp : BatchPoints P) (ops : List (BatchOp P)) :
    (bp.run ops).points = bp.points ++ ops.flatMap BatchOp.added := by
  induction ops generalizing bp with
  | nil => simp
  | cons o ops ih => simp [ih, BatchPoints.apply_points]

theorem BatchPoints.validPrecision_run (bp : BatchPoints P) (ops : List (BatchOp P))
    (h : validPrecision bp.precision) : validPrecision (bp.run ops).precision := by
  induction ops generalizing bp with
  | nil => exact h
  | cons o ops ih =>
    apply ih
    rcases bp.apply_precision o with e | ⟨p, -, hp, e⟩ <;> rw [e] <;> assumption

theorem newBatchPoints_ok {conf : BatchPointsConfig} {bp : BatchPoints P}
    (h : newBatchPoints conf = .ok bp) :
    bp = { database := conf.database,
           precision := if conf.precision = "" then "ms" else conf.precision } ∧
      validPrecision bp.precision := by
  unfold newBatchPoints at h
  dsimp only at h
  generalize (if conf.precision = "" then "ms" else conf.precision) = prec at h ⊢
  split at h
  · cases h
  · cases h; simp_all [validPrecision, Except.toBool]

theorem newBatchPoints_of_valid {conf : BatchPointsConfig} (h : validPrecision conf.precision) :
    newBatchPoints (P := P) conf = .ok { database := conf.database, precision := conf.precision } := by
  have hne : conf.precision ≠ "" := fun he => absurd (he ▸ h) (by decide)
  unfold newBatchPoints
  unfold validPrecision at h
  simp only [hne, if_false]
  split <;> simp_all [Except.toBool]

/-- `NewBatchPoints` takes the unit `h`, which is none of `ns`, `us`, `ms`, `s`. -/
theorem newBatchPoints_hour_precision :
    newBatchPoints (P := Unit) { precision := "h" } = .ok { precision := "h" } ∧
      "h" ∉ ["ns", "us", "ms", "s"] :=
  ⟨rfl, by decide⟩

theorem batch_precision_valid {conf : BatchPointsConfig} {bp : BatchPoints P}
    (h : newBatchPoints conf = .ok bp) (ops : List (BatchOp P)) :
    validPrecision (bp.run ops).precision ∧
      ∀ (b : BatchPoints P) (p : String), (b.setPrecision p).2.isSome → (b.setPrecision p).1 = b :=
  ⟨bp.validPrecision_run ops (newBatchPoints_ok h).2, fun b p => b.apply_error (.setPrecision p)⟩

theorem batch_precision_valid_default :
    newBatchPoints (P := Unit) {} = .ok { precision := "ms" } ∧
      validPrecision (({ precision := "ms" } : BatchPoints Unit).run [.setPrecision "m"]).precision :=
  ⟨rfl, (@batch_precision_valid Unit {} { precision := "ms" } rfl [.setPrecision "m"]).1⟩

end Tsdb
