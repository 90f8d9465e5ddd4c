import GoPg.Query

/-!
# The data readers on a well-formed response

`readSimpleQueryData` and `readExtQueryData` also create the caller's model and hand it
every DataRow, and each of those calls can fail. What a stretch of the response leads to is
kept in a `DataTrace`: the model, every error that arose in stream order (server errors and
the errors of the model's and scanner's calls), the calls made, and the column names. The
readers keep only the first error; `dataVarsOf` relates their loop variables to the trace,
and the run theorems say that they return the Result of the last CommandComplete, the model
and the first error of the trace, leaving the connection with the trace's calls and columns.

The calls a case makes are answered from the calls before them, so every case is a pure
function of the stream and the calls made so far: `newModelRun`, `ensureModelRun` and
`rowRun` say which calls, which errors, and the spec lemmas next to them that the monadic
code makes exactly those.
-/

namespace GoPg

/-! ## The calls of one case -/

/-- The calls `newModel mod` makes after the calls `log`, each answered in turn: the error it
returns and the log after them. -/
def newModelRun (env : Env) (log : List Call) : Mod → Option Err × List Call
  | .model => (env.answer log .reset, .reset :: log)
  | .value =>
    match env.answer log .ormNewModel with
    | some err => (some err, .ormNewModel :: log)
    | none => (env.answer (.ormNewModel :: log) .reset, .reset :: .ormNewModel :: log)

/-- What `ensureModel` does when the model is `model`, after the calls `log`: the model after
it, the errors that arise, and the log after its calls. -/
def ensureModelRun (env : Env) (mod : Mod) (model : Option ModelRef) (log : List Call) :
    Option ModelRef × List Err × List Call :=
  match model with
  | some m => (some m, [], log)
  | none =>
    let run := newModelRun env log mod
    (some (if run.1.isSome then .discard else .user), run.1.toList, run.2)

/-- What the DataRow case does for a row of `vals` on model `m`, read against `columns`, after
the calls `log`: a row target, one scan a value, and the row added to the model when no scan
failed; the errors that arise, and the log after its calls. -/
def rowRun (env : Env) (m : ModelRef) (columns : Columns) (vals : List (Option Bytes))
    (log : List Call) : List Err × List Call :=
  let scan := scanCalls env m columns 0 vals (.newRow m :: log)
  if scan.2 = [] then ((env.answer scan.1 (.addModel m)).toList, .addModel m :: scan.1)
  else (scan.2, scan.1)

section Calls

variable {e : Env} {cn : Conn} {r : Bytes}

/-- `newModel` returns the model `newModelRun` computes and logs its calls. -/
theorem newModel_run (mod : Mod) :
    newModel mod e cn =
      .ok (newModelRun e cn.log mod).1 { cn with log := (newModelRun e cn.log mod).2 } := by
  cases mod with
  | model => rfl
  | value =>
    show (call .ormNewModel >>= _) e cn = _
    rw [Go.bind_ok (call_apply _ _ _)]
    cases h : e.answer cn.log .ormNewModel <;> simp [newModelRun, h]

/-- `ensureModel` keeps a model there is and makes one otherwise. -/
theorem ensureModel_run (mod : Mod) (v : DataVars) :
    ensureModel mod v e cn =
      .ok { v with model := (ensureModelRun e mod v.model cn.log).1,
                   retErr := v.retErr.or (ensureModelRun e mod v.model cn.log).2.1.head? }
        { cn with log := (ensureModelRun e mod v.model cn.log).2.2 } := by
  rcases v with ⟨rows, res, _ | m, retErr⟩
  · show (newModel mod >>= _) e cn = _
    rw [Go.bind_ok (newModel_run mod)]
    cases h : (newModelRun e cn.log mod).1 <;> simp [ensureModelRun, h, setErr_eq_or]
  · simp [ensureModel, ensureModelRun]

/-- A DataRow no wider than the columns goes to the model, counts one row and keeps the first error.
-/
theorem addDataRow_run {v : DataVars} {m : ModelRef} (hm : v.model = some m) (columns : Columns)
    {vals : List (Option Bytes)} (h : cn.rd = (Backend.dataRow vals).payload ++ r)
    (hok : (Backend.dataRow vals).ContentOk) (hfit : (Backend.dataRow vals).payload.length < 2 ^ 31)
    (hw : vals.length ≤ columns.len) :
    addDataRow v columns e cn =
      .ok { v with rows := v.rows + 1, retErr := v.retErr.or (rowRun e m columns vals cn.log).1.head? }
        { cn with rd := r, log := (rowRun e m columns vals cn.log).2 } := by
  have hrow : readDataRow m columns e { cn with log := .newRow m :: cn.log } = _ :=
    readDataRow_dataRow m columns h hok hfit hw
  rcases v with ⟨rows, res, _ | m', retErr⟩
  · cases hm
  · cases hm
    show (call (.newRow m) >>= _) e cn = _
    rw [call_bind, Go.bind_ok hrow]
    cases hs : (scanCalls e m columns 0 vals (.newRow m :: cn.log)).2 with
    | nil => simp [rowRun, hs, setErrIf_eq_head]
    | cons err errs => simp [rowRun, hs, setErr_eq_or]

end Calls

/-! ## What a stretch of the response leads to -/

/-- What the data readers keep of a stretch of the stream: the model, every error that arose,
in stream order, the calls made, and the column names DataRows are read against. -/
structure DataTrace where
  model : Option ModelRef
  errs : List Err
  log : List Call
  columns : Columns

namespace DataTrace

/-- The trace before any message, on connection `cn`. -/
def start (cn : Conn) : DataTrace := ⟨none, [], cn.log, cn.columns⟩

/-- The connection as the trace leaves it. -/
def onConn (t : DataTrace) (cn : Conn) : Conn := { cn with log := t.log, columns := t.columns }

/-- The model is created if there is none yet. -/
def ensureModel (env : Env) (mod : Mod) (t : DataTrace) : DataTrace :=
  let run := ensureModelRun env mod t.model t.log
  { t with model := run.1, errs := t.errs ++ run.2.1, log := run.2.2 }

/-- A DataRow of `vals` read against `columns` goes to the model; nothing happens without one. -/
def addRow (env : Env) (columns : Columns) (vals : List (Option Bytes)) (t : DataTrace) :
    DataTrace :=
  let run := match t.model with
    | none => ([], t.log)
    | some m => rowRun env m columns vals t.log
  { t with errs := t.errs ++ run.1, log := run.2 }

/-- An error that arose, if any. -/
def addError (err : Option Err) (t : DataTrace) : DataTrace := { t with errs := t.errs ++ err.toList }

/-- Before any message the trace leaves the connection as it was. -/
theorem start_onConn (cn : Conn) : (start cn).onConn cn = cn := rfl

variable (env : Env) (mod : Mod) (t : DataTrace)

/-- After `ensureModel` there is a model. -/
theorem ensureModel_isSome : (t.ensureModel env mod).model.isSome := by
  simp only [ensureModel, ensureModelRun]
  split <;> rfl

/-- Making the model keeps the columns. -/
@[simp] theorem ensureModel_columns : (t.ensureModel env mod).columns = t.columns := rfl

/-- A row keeps the model. -/
@[simp] theorem addRow_model (columns : Columns) (vals : List (Option Bytes)) :
    (t.addRow env columns vals).model = t.model := rfl

/-- A row keeps the columns. -/
@[simp] theorem addRow_columns (columns : Columns) (vals : List (Option Bytes)) :
    (t.addRow env columns vals).columns = t.columns := rfl

/-- An error keeps the model. -/
@[simp] theorem addError_model (err : Option Err) : (t.addError err).model = t.model := rfl

/-- An error keeps the columns. -/
@[simp] theorem addError_columns (err : Option Err) : (t.addError err).columns = t.columns := rfl

end DataTrace

/-- One message's effect on what `readSimpleQueryData` keeps: a RowDescription replaces the
column names and creates the model the first time, a DataRow goes to the model against the
current column names, and a server error is kept. -/
def simpleDataStep (env : Env) (mod : Mod) (remoteAddr : Bytes) (t : DataTrace) :
    Backend → DataTrace
  | .rowDescription fields =>
    DataTrace.ensureModel env mod
      { t with columns := (t.columns.slice0.resize fields.length).setFrom 0 (fields.map Prod.fst) }
  | .dataRow vals => t.addRow env t.columns vals
  | m => t.addError (m.serverError? remoteAddr)

/-- One message's effect on what `readExtQueryData` keeps: a DataRow creates the model the
first time and goes to it against `columns`, and a server error is kept. -/
def extDataStep (env : Env) (mod : Mod) (columns : Columns) (remoteAddr : Bytes) (t : DataTrace) :
    Backend → DataTrace
  | .dataRow vals => (t.ensureModel env mod).addRow env columns vals
  | m => t.addError (m.serverError? remoteAddr)

/-- What `readSimpleQueryData` keeps of a stream `ms` on connection `cn`. -/
def simpleDataTrace (env : Env) (mod : Mod) (cn : Conn) (ms : List Backend) : DataTrace :=
  ms.foldl (simpleDataStep env mod cn.remoteAddr) (DataTrace.start cn)

/-- What `readExtQueryData` keeps of a stream `ms` on connection `cn`. -/
def extDataTrace (env : Env) (mod : Mod) (columns : Columns) (cn : Conn) (ms : List Backend) :
    DataTrace :=
  ms.foldl (extDataStep env mod columns cn.remoteAddr) (DataTrace.start cn)

/-- The width of the last RowDescription, after message `m`. -/
def Backend.nextWidth (w : Option Nat) : Backend → Option Nat
  | rowDescription fields => some fields.length
  | _ => w

/-- A DataRow is no wider than `w`, the width of the RowDescription it is read against; there
is none before the first RowDescription. Other messages always fit. -/
def Backend.rowFits (w : Option Nat) : Backend → Bool
  | dataRow vals => w.any fun n => vals.length ≤ n
  | _ => true

/-- Every DataRow of the stream fits the last RowDescription before it; `w` is the width of
the last one before the stream. -/
def rowsDescribed : Option Nat → List Backend → Bool
  | _, [] => true
  | w, m :: ms => m.rowFits w && rowsDescribed (m.nextWidth w) ms

/-- What `readSimpleQueryData` knows of its columns, with `w` the width of the last
RowDescription: nothing before the first one; after it, a model and column names as wide. -/
def Described (w : Option Nat) (t : DataTrace) : Prop :=
  w = none ∨ (t.model.isSome ∧ w = some t.columns.len)

/-- A step of `readSimpleQueryData` keeps what it knows of its columns in step with the last
RowDescription. -/
theorem described_step (env : Env) (mod : Mod) (remoteAddr : Bytes) {w : Option Nat}
    {t : DataTrace} (m : Backend) (hd : Described w t) :
    Described (m.nextWidth w) (simpleDataStep env mod remoteAddr t m) := by
  cases m with
  | rowDescription fields =>
    exact .inr ⟨DataTrace.ensureModel_isSome .., by simp [Backend.nextWidth, simpleDataStep]⟩
  | dataRow vals => simpa [Described, Backend.nextWidth, simpleDataStep] using hd
  | _ => simpa [Described, Backend.nextWidth, simpleDataStep] using hd

/-- A DataRow that fits the last RowDescription finds a model and columns as wide. -/
theorem described_fits {w : Option Nat} {t : DataTrace} {vals : List (Option Bytes)}
    (hd : Described w t) (hf : (Backend.dataRow vals).rowFits w) :
    ∃ m, t.model = some m ∧ vals.length ≤ t.columns.len := by
  rcases hd with rfl | ⟨hm, rfl⟩
  · simp [Backend.rowFits] at hf
  · obtain ⟨m, hm⟩ := Option.isSome_iff_exists.mp hm
    exact ⟨m, hm, by simpa [Backend.rowFits] using hf⟩

/-- The loop variables of a data reader after a stretch `pre` of the stream that led to `t`:
the reader keeps the first error. -/
def dataVarsOf (pre : List Backend) (t : DataTrace) : DataVars :=
  ⟨countRows pre, lastResult pre, t.model, t.errs.head?⟩

/-- A message's effect on the loop variables the data readers share with the query readers:
a CommandComplete replaces the Result, and the first server error is kept. -/
def tailStep (remoteAddr : Bytes) (v : DataVars) (m : Backend) : DataVars :=
  { v with res := (m.commandTag?.map fun p => newResult p v.rows).or v.res,
           retErr := v.retErr.or (m.serverError? remoteAddr) }

/-- A message other than DataRow at the end does to the loop variables what `dataTail` does. -/
theorem dataVarsOf_snoc_tail (remoteAddr : Bytes) (pre : List Backend) (t : DataTrace)
    {m : Backend} (hm : m.isDataRow = false) :
    dataVarsOf (pre ++ [m]) (t.addError (m.serverError? remoteAddr)) =
      tailStep remoteAddr (dataVarsOf pre t) m := by
  cases h : m.serverError? remoteAddr <;>
    simp [dataVarsOf, tailStep, DataTrace.addError, countRows_snoc, lastResult_snoc, hm, h]

/-! ## One pass -/

/-- The message types `dataTail` goes round on. -/
def tailTags : List UInt8 :=
  [commandCompleteMsg, errorResponseMsg, noticeResponseMsg, parameterStatusMsg]

section Body

variable {reader : String} {e : Env} {cn : Conn} {r : Bytes}

/-- The data readers hand NoticeResponse and ParameterStatus to `sideChannel`. -/
theorem dataTail_drops : DropsSideChannel (dataTail reader) := by
  rintro e v cn r n ⟨p, rfl | rfl⟩
  · simp +decide only [dataTail, Backend.tag, if_false]
    exact sideChannel_drops (.other noticeResponseMsg p) ⟨p, .inl rfl⟩
  · simp +decide only [dataTail, Backend.tag, if_false]
    exact sideChannel_drops (.other parameterStatusMsg p) ⟨p, .inr rfl⟩

/-- A side-channel message leaves the loop variables as they were. -/
theorem tailStep_sideChannel {remoteAddr : Bytes} {v : DataVars} {n : Backend}
    (hn : n.IsSideChannel) : tailStep remoteAddr v n = v := by
  obtain ⟨p, rfl | rfl⟩ := hn <;> simp +decide [tailStep, Backend.commandTag?, Backend.serverError?]

/-- One pass of `dataTail` over a well-formed message it goes round on. -/
theorem dataTail_pass {m : Backend} (hm : m.WellFormed) (ht : m.tag ∈ tailTags) (v : DataVars) :
    dataTail reader v m.tag m.payload.length e { cn with rd := m.payload ++ r } =
      .ok (.next (tailStep cn.remoteAddr v m)) { cn with rd := r } := by
  cases m with
  | errorResponse fields =>
    have herr : readError e { cn with rd := (Backend.errorResponse fields).payload ++ r } = _ :=
      readError_errorResponse rfl hm.content
    simp +decide only [dataTail, Backend.tag, if_false, if_true]
    simpa [tailStep, Backend.commandTag?, Backend.serverError?, setErr_eq_or] using Go.bind_ok herr
  | other t p =>
    obtain ⟨hcE, -, -, -⟩ := hm.content
    simp only [tailTags, Backend.tag, List.mem_cons, List.not_mem_nil, or_false] at ht
    rcases ht with rfl | rfl | rfl | rfl
    · have hb : readN p.length e { cn with rd := p ++ r } = _ := readN_append rfl rfl
      simp +decide only [dataTail, Backend.tag, if_true]
      simpa [tailStep, Backend.commandTag?, Backend.serverError?] using Go.bind_ok hb
    · exact absurd rfl hcE
    · rw [tailStep_sideChannel ⟨p, .inl rfl⟩]
      exact dataTail_drops e v cn r _ ⟨p, .inl rfl⟩
    · rw [tailStep_sideChannel ⟨p, .inr rfl⟩]
      exact dataTail_drops e v cn r _ ⟨p, .inr rfl⟩
  | _ => simp +decide [tailTags, Backend.tag] at ht

/-- The types `dataTail` goes round on are none of the types the data readers handle first. -/
theorem tailTags_ne {c : UInt8} (h : c ∈ tailTags) :
    c ≠ rowDescriptionMsg ∧ c ≠ dataRowMsg ∧ c ≠ bindCompleteMsg := by
  simp only [tailTags, List.mem_cons, List.not_mem_nil, or_false] at h
  rcases h with rfl | rfl | rfl | rfl <;> decide

/-- Past the type it drops first and DataRow, a data reader's types are those of `dataTail`. -/
theorem mem_tailTags {skip c : UInt8} (ht : c ∈ queryTags skip) (hs : c ≠ skip)
    (hD : c ≠ dataRowMsg) : c ∈ tailTags :=
  (List.mem_cons.mp ((List.mem_cons.mp ht).resolve_left hs)).resolve_left hD

/-- A message of a type `dataTail` goes round on is not a DataRow. -/
theorem isDataRow_of_tail {m : Backend} (ht : m.tag ∈ tailTags) : m.isDataRow = false := by
  cases m <;> simp_all +decide [tailTags, Backend.tag, Backend.isDataRow]

/-- One pass of `dataTail`, on the loop variables and the connection of a trace. -/
theorem dataTail_pass_trace {m : Backend} (hm : m.WellFormed) (ht : m.tag ∈ tailTags)
    (pre : List Backend) (t : DataTrace) :
    dataTail reader (dataVarsOf pre t) m.tag m.payload.length e
        { cn with rd := m.payload ++ r, log := t.log, columns := t.columns } =
      .ok (.next (dataVarsOf (pre ++ [m]) (t.addError (m.serverError? cn.remoteAddr))))
        { cn with rd := r, log := t.log, columns := t.columns } := by
  rw [dataVarsOf_snoc_tail _ _ _ (isDataRow_of_tail ht)]
  exact @dataTail_pass reader e { cn with log := t.log, columns := t.columns } r m hm ht _

/-- The data readers return at ReadyForQuery, with the Result, the model and the first error. -/
theorem dataTail_readyForQuery (v : DataVars) (p : Bytes) :
    dataTail reader v readyForQueryMsg p.length e { cn with rd := p ++ r } =
      .ok (.done (v.res, v.model, v.retErr)) { cn with rd := r } := by
  simp +decide only [dataTail, if_false, if_true]
  exact Go.bind_ok (discardN_append rfl)

/-- `ensureModel` on the loop variables of a trace does what the trace's step says. -/
theorem ensureModel_trace {c : Conn} (mod : Mod) (pre : List Backend) (t : DataTrace)
    (hlog : c.log = t.log) :
    ensureModel mod (dataVarsOf pre t) e c =
      .ok (dataVarsOf pre (t.ensureModel e mod)) { c with log := (t.ensureModel e mod).log } := by
  rw [ensureModel_run, hlog]
  simp [dataVarsOf, DataTrace.ensureModel]

/-- The DataRow case on the loop variables of a trace with a model does what the trace's step
says. -/
theorem addDataRow_trace {c : Conn} (pre : List Backend) {t : DataTrace} {m : ModelRef}
    (hm : t.model = some m) (columns : Columns) {vals : List (Option Bytes)}
    (h : c.rd = (Backend.dataRow vals).payload ++ r) (hlog : c.log = t.log)
    (hok : (Backend.dataRow vals).WellFormed) (hw : vals.length ≤ columns.len) :
    addDataRow (dataVarsOf pre t) columns e c =
      .ok (dataVarsOf (pre ++ [.dataRow vals]) (t.addRow e columns vals))
        { c with rd := r, log := (t.addRow e columns vals).log } := by
  rw [addDataRow_run hm columns h hok.content (by have := hok.fits; omega) hw, hlog]
  simp [dataVarsOf, DataTrace.addRow, hm, countRows_snoc, lastResult_snoc, Backend.isDataRow,
    Backend.commandTag?]

/-- On any type but RowDescription and DataRow, `readSimpleQueryData` runs the shared cases. -/
theorem readSimpleQueryDataBody_tail {mod : Mod} {v : DataVars} {c : UInt8} {l : Int}
    (hT : c ≠ rowDescriptionMsg) (hD : c ≠ dataRowMsg) :
    readSimpleQueryDataBody mod v c l = dataTail "readSimpleQueryData" v c l := by
  simp [readSimpleQueryDataBody, hT, hD]

/-- On any type but BindComplete and DataRow, `readExtQueryData` runs the shared cases. -/
theorem readExtQueryDataBody_tail {mod : Mod} {columns : Columns} {v : DataVars} {c : UInt8}
    {l : Int} (h2 : c ≠ bindCompleteMsg) (hD : c ≠ dataRowMsg) :
    readExtQueryDataBody mod columns v c l = dataTail "readExtQueryData" v c l := by
  simp [readExtQueryDataBody, h2, hD]

/-- The data readers reject every message type they have no case for. -/
theorem dataTail_unexpected {c : UInt8}
    (hc : c ∉ [commandCompleteMsg, readyForQueryMsg, errorResponseMsg, noticeResponseMsg,
      parameterStatusMsg]) (v : DataVars) (l : Int) :
    dataTail reader v c l e cn = .stop (.err (unexpectedMessage reader c)) cn := by
  simp only [List.mem_cons, List.not_mem_nil, or_false, not_or] at hc
  obtain ⟨hC, hZ, hE, hN, hS⟩ := hc
  simp [dataTail, sideChannel, hC, hZ, hE, hN, hS]

/-- A type `readSimpleQueryData` does not handle ends it with its unexpected-message error. -/
theorem readSimpleQueryDataBody_unexpected {mod : Mod} {c : UInt8}
    (hc : c ∉ readyForQueryMsg :: queryTags rowDescriptionMsg) (v : DataVars) (l : Int) :
    readSimpleQueryDataBody mod v c l e cn =
      .stop (.err (unexpectedMessage "readSimpleQueryData" c)) cn := by
  simp only [queryTags, List.mem_cons, List.not_mem_nil, or_false, not_or] at hc
  obtain ⟨hZ, hT, hD, hC, hE, hN, hS⟩ := hc
  rw [readSimpleQueryDataBody_tail hT hD]
  exact dataTail_unexpected (by simp [hC, hZ, hE, hN, hS]) v l

/-- A type `readExtQueryData` does not handle ends it with its unexpected-message error. -/
theorem readExtQueryDataBody_unexpected {mod : Mod} {columns : Columns} {c : UInt8}
    (hc : c ∉ readyForQueryMsg :: queryTags bindCompleteMsg) (v : DataVars) (l : Int) :
    readExtQueryDataBody mod columns v c l e cn =
      .stop (.err (unexpectedMessage "readExtQueryData" c)) cn := by
  simp only [queryTags, List.mem_cons, List.not_mem_nil, or_false, not_or] at hc
  obtain ⟨hZ, h2, hD, hC, hE, hN, hS⟩ := hc
  rw [readExtQueryDataBody_tail h2 hD]
  exact dataTail_unexpected (by simp [hC, hZ, hE, hN, hS]) v l

/-- ReadyForQuery ends `readSimpleQueryData` after its payload. -/
theorem readSimpleQueryDataBody_readyForQuery (mod : Mod) (v : DataVars) (p : Bytes) :
    readSimpleQueryDataBody mod v readyForQueryMsg p.length e { cn with rd := p ++ r } =
      .ok (.done (v.res, v.model, v.retErr)) { cn with rd := r } := by
  rw [readSimpleQueryDataBody_tail (by decide) (by decide)]
  exact dataTail_readyForQuery v p

/-- ReadyForQuery ends `readExtQueryData` after its payload. -/
theorem readExtQueryDataBody_readyForQuery (mod : Mod) (columns : Columns) (v : DataVars)
    (p : Bytes) :
    readExtQueryDataBody mod columns v readyForQueryMsg p.length e { cn with rd := p ++ r } =
      .ok (.done (v.res, v.model, v.retErr)) { cn with rd := r } := by
  rw [readExtQueryDataBody_tail (by decide) (by decide)]
  exact dataTail_readyForQuery v p

/-- One pass of `readSimpleQueryData` over a well-formed message it goes round on, from the
loop variables and connection of a trace to those of the trace one message longer. -/
theorem readSimpleQueryDataBody_pass (mod : Mod) {m : Backend} (hm : m.WellFormed)
    (ht : m.tag ∈ queryTags rowDescriptionMsg) (pre : List Backend) (t : DataTrace)
    (hrow : ∀ vals, m = .dataRow vals → ∃ m', t.model = some m' ∧ vals.length ≤ t.columns.len) :
    readSimpleQueryDataBody mod (dataVarsOf pre t) m.tag m.payload.length e
        { cn with rd := m.payload ++ r, log := t.log, columns := t.columns } =
      .ok (.next (dataVarsOf (pre ++ [m]) (simpleDataStep e mod cn.remoteAddr t m)))
        { cn with rd := r, log := (simpleDataStep e mod cn.remoteAddr t m).log,
                   columns := (simpleDataStep e mod cn.remoteAddr t m).columns } := by
  cases m with
  | rowDescription fields =>
    have hrd : readRowDescription t.columns.slice0 e
        { cn with rd := (Backend.rowDescription fields).payload ++ r, log := t.log,
                  columns := t.columns } = _ :=
      readRowDescription_rowDescription _ rfl hm.content
    simp only [readSimpleQueryDataBody, Backend.tag, if_true]
    rw [Go.bind_ok Go.conn_apply, Go.bind_ok (Go.tryCatch_ok hrd), Go.bind_ok (Go.modify_apply _),
      Go.bind_ok (ensureModel_run mod _)]
    simp [dataVarsOf, simpleDataStep, DataTrace.ensureModel, countRows_snoc, lastResult_snoc,
      Backend.isDataRow, Backend.commandTag?]
  | dataRow vals =>
    obtain ⟨m', hm', hw⟩ := hrow vals rfl
    simp +decide only [readSimpleQueryDataBody, Backend.tag, if_false, if_true]
    rw [Go.bind_ok Go.conn_apply]
    exact Go.bind_ok (addDataRow_trace pre hm' t.columns rfl rfl hm hw)
  | errorResponse fields =>
    rw [readSimpleQueryDataBody_tail (by simp +decide [Backend.tag]) (by simp +decide [Backend.tag])]
    exact dataTail_pass_trace hm (by simp +decide [tailTags, Backend.tag]) pre t
  | notificationResponse pid channel payload => simp +decide [queryTags, Backend.tag] at ht
  | other c p =>
    obtain ⟨hcE, hcT, hcD, -⟩ := hm.content
    have htail : c ∈ tailTags := mem_tailTags ht hcT hcD
    rw [show (Backend.other c p).tag = c from rfl, readSimpleQueryDataBody_tail hcT hcD]
    exact dataTail_pass_trace hm htail pre t

/-- One pass of `readExtQueryData` over a well-formed message it goes round on, from the
loop variables and connection of a trace to those of the trace one message longer. -/
theorem readExtQueryDataBody_pass (mod : Mod) (columns : Columns) {m : Backend}
    (hm : m.WellFormed) (ht : m.tag ∈ queryTags bindCompleteMsg)
    (hfits : m.rowFits (some columns.len)) (pre : List Backend) (t : DataTrace) :
    readExtQueryDataBody mod columns (dataVarsOf pre t) m.tag m.payload.length e
        { cn with rd := m.payload ++ r, log := t.log, columns := t.columns } =
      .ok (.next (dataVarsOf (pre ++ [m]) (extDataStep e mod columns cn.remoteAddr t m)))
        { cn with rd := r, log := (extDataStep e mod columns cn.remoteAddr t m).log,
                   columns := (extDataStep e mod columns cn.remoteAddr t m).columns } := by
  cases m with
  | dataRow vals =>
    obtain ⟨m', hm'⟩ := Option.isSome_iff_exists.mp (DataTrace.ensureModel_isSome e mod t)
    simp +decide only [readExtQueryDataBody, Backend.tag, if_false, if_true]
    rw [Go.bind_ok (ensureModel_trace mod pre t rfl)]
    exact Go.bind_ok (addDataRow_trace pre hm' columns rfl rfl hm
      (by simpa [Backend.rowFits] using hfits))
  | errorResponse fields =>
    rw [readExtQueryDataBody_tail (by simp +decide [Backend.tag]) (by simp +decide [Backend.tag])]
    exact dataTail_pass_trace hm (by simp +decide [tailTags, Backend.tag]) pre t
  | other c p =>
    obtain ⟨hcE, -, hcD, -⟩ := hm.content
    by_cases h2 : c = bindCompleteMsg
    · subst h2
      have hv : dataVarsOf (pre ++ [.other bindCompleteMsg p])
          (extDataStep e mod columns cn.remoteAddr t (.other bindCompleteMsg p)) = dataVarsOf pre t := by
        simp +decide [dataVarsOf, extDataStep, DataTrace.addError, countRows_snoc, lastResult_snoc,
          Backend.isDataRow, Backend.commandTag?, Backend.serverError?]
      simp only [readExtQueryDataBody, Backend.tag, if_true]
      rw [hv]
      exact Go.bind_ok (discardN_append rfl)
    · have htail : c ∈ tailTags := mem_tailTags ht h2 hcD
      rw [show (Backend.other c p).tag = c from rfl,
        readExtQueryDataBody_tail (tailTags_ne htail).2.2 (tailTags_ne htail).2.1]
      exact dataTail_pass_trace hm htail pre t
  | _ => simp +decide [queryTags, Backend.tag] at ht

end Body

/-! ## Runs -/

section Runs

variable {e : Env} {cn : Conn}

/-- `readSimpleQueryData` goes round on every stretch of well-formed messages it accepts whose
DataRows fit the RowDescriptions before them, from the loop variables and connection of a
trace to those of the trace the stretch leads to. -/
theorem simpleData_passes (mod : Mod) (ms : List Backend)
    (hms : ∀ m ∈ ms, m.WellFormed ∧ m.tag ∈ queryTags rowDescriptionMsg) :
    ∀ (pre : List Backend) (t : DataTrace) (w : Option Nat), rowsDescribed w ms → Described w t →
      Passes (readSimpleQueryDataBody mod) e (dataVarsOf pre t) (t.onConn cn) ms
        (dataVarsOf (pre ++ ms) (ms.foldl (simpleDataStep e mod cn.remoteAddr) t))
        ((ms.foldl (simpleDataStep e mod cn.remoteAddr) t).onConn cn) := by
  induction ms with
  | nil => intro pre t w _ _; simpa using Passes.nil _ _
  | cons m ms ih =>
    intro pre t w hrows hd
    simp only [rowsDescribed, Bool.and_eq_true] at hrows
    have hm := hms m (List.mem_cons_self m ms)
    have hpass : ∀ r, readSimpleQueryDataBody mod (dataVarsOf pre t) m.tag m.payload.length e
        { t.onConn cn with rd := m.payload ++ r } =
        .ok (.next (dataVarsOf (pre ++ [m]) (simpleDataStep e mod cn.remoteAddr t m)))
          { (simpleDataStep e mod cn.remoteAddr t m).onConn cn with rd := r } := fun r =>
      readSimpleQueryDataBody_pass mod hm.1 hm.2 pre t fun _ hv => described_fits hd (hv ▸ hrows.1)
    refine .cons hm.1.fits hpass ?_
    simpa using ih (fun m' h => hms m' (List.mem_cons_of_mem m h)) (pre ++ [m]) _ _ hrows.2
      (described_step e mod cn.remoteAddr m hd)

/-- `readExtQueryData` goes round on every stretch of well-formed messages it accepts whose
DataRows fit `columns`, from the loop variables and connection of a trace to those of the
trace the stretch leads to. -/
theorem extData_passes (mod : Mod) (columns : Columns) (ms : List Backend)
    (hms : ∀ m ∈ ms, m.WellFormed ∧ m.tag ∈ queryTags bindCompleteMsg ∧ m.rowFits (some columns.len)) :
    ∀ (pre : List Backend) (t : DataTrace),
      Passes (readExtQueryDataBody mod columns) e (dataVarsOf pre t) (t.onConn cn) ms
        (dataVarsOf (pre ++ ms) (ms.foldl (extDataStep e mod columns cn.remoteAddr) t))
        ((ms.foldl (extDataStep e mod columns cn.remoteAddr) t).onConn cn) := by
  induction ms with
  | nil => intro pre t; simpa using Passes.nil _ _
  | cons m ms ih =>
    intro pre t
    have hm := hms m (List.mem_cons_self m ms)
    have hpass : ∀ r, readExtQueryDataBody mod columns (dataVarsOf pre t) m.tag m.payload.length e
        { t.onConn cn with rd := m.payload ++ r } =
        .ok (.next (dataVarsOf (pre ++ [m]) (extDataStep e mod columns cn.remoteAddr t m)))
          { (extDataStep e mod columns cn.remoteAddr t m).onConn cn with rd := r } := fun r =>
      readExtQueryDataBody_pass mod columns hm.1 hm.2.1 hm.2.2 pre t
    refine .cons hm.1.fits hpass ?_
    simpa using ih (fun m' h => hms m' (List.mem_cons_of_mem m h)) (pre ++ [m]) _

/-- `readSimpleQueryData` on well-formed messages it accepts whose DataRows fit the
RowDescriptions before them, then ReadyForQuery: it returns the Result of the last
CommandComplete, the model and the first error of the trace, leaves the connection with the
trace's calls and column names, and leaves the rest unread. -/
theorem readSimpleQueryData_response (mod : Mod) {ms : List Backend} {p rest : Bytes}
    (hms : ∀ m ∈ ms, m.WellFormed ∧ m.tag ∈ queryTags rowDescriptionMsg)
    (hrows : rowsDescribed none ms) (hp : p.length + 4 < 2 ^ 31)
    (h : cn.rd = stream ms ++ (Backend.other readyForQueryMsg p).bytes ++ rest) :
    readSimpleQueryData mod e cn =
      .ok (lastResult ms, (simpleDataTrace e mod cn ms).model,
          (simpleDataTrace e mod cn ms).errs.head?)
        { cn with rd := rest, log := (simpleDataTrace e mod cn ms).log,
                   columns := (simpleDataTrace e mod cn ms).columns } := by
  conv_lhs => rw [Conn.eq_with_rd h]
  exact (simpleData_passes mod ms hms [] (DataTrace.start cn) none hrows (.inl rfl)).runReader hp
    (readSimpleQueryDataBody_readyForQuery mod _ p) rfl

/-- `readExtQueryData` leaves the column names of the connection alone. -/
theorem foldl_extDataStep_columns (mod : Mod) (columns : Columns) (remoteAddr : Bytes)
    (ms : List Backend) :
    ∀ t, (ms.foldl (extDataStep e mod columns remoteAddr) t).columns = t.columns := by
  induction ms with
  | nil => intro t; rfl
  | cons m ms ih =>
    intro t
    rw [List.foldl_cons, ih]
    cases m <;> rfl

/-- `readExtQueryData` on well-formed messages it accepts whose DataRows fit `columns`, then
ReadyForQuery: it returns the Result of the last CommandComplete, the model and the first error
of the trace, leaves the connection with the trace's calls, and leaves the rest unread. -/
theorem readExtQueryData_response (mod : Mod) (columns : Columns) {ms : List Backend}
    {p rest : Bytes}
    (hms : ∀ m ∈ ms, m.WellFormed ∧ m.tag ∈ queryTags bindCompleteMsg ∧ m.rowFits (some columns.len))
    (hp : p.length + 4 < 2 ^ 31)
    (h : cn.rd = stream ms ++ (Backend.other readyForQueryMsg p).bytes ++ rest) :
    readExtQueryData mod columns e cn =
      .ok (lastResult ms, (extDataTrace e mod columns cn ms).model,
          (extDataTrace e mod columns cn ms).errs.head?)
        { cn with rd := rest, log := (extDataTrace e mod columns cn ms).log } := by
  conv_lhs => rw [Conn.eq_with_rd h]
  exact (extData_passes mod columns ms hms [] (DataTrace.start cn)).runReader hp
    (readExtQueryDataBody_readyForQuery mod columns _ p)
    (by simp [Res.exit, DataTrace.onConn, extDataTrace, foldl_extDataStep_columns, DataTrace.start,
      dataVarsOf])

end Runs

/-! ## The four query readers -/

/-- On a response of well-formed messages each reader accepts, with its DataRows fitting the
column names they are read against, then ReadyForQuery, each query reader returns the Result
of the last CommandComplete and the first error that arose, and stops right after the
ReadyForQuery. -/
theorem queryReaders_response (e : Env) (cn : Conn) (ms : List Backend) (p rest : Bytes)
    (hp : p.length + 4 < 2 ^ 31)
    (h : cn.rd = stream ms ++ (Backend.other readyForQueryMsg p).bytes ++ rest) :
    ((∀ m ∈ ms, m.WellFormed ∧ m.tag ∈ queryTags rowDescriptionMsg) →
      readSimpleQuery e cn =
        .ok (lastResult ms, firstError cn.remoteAddr ms) { cn with rd := rest }) ∧
    ((∀ m ∈ ms, m.WellFormed ∧ m.tag ∈ queryTags bindCompleteMsg) →
      readExtQuery e cn =
        .ok (lastResult ms, firstError cn.remoteAddr ms) { cn with rd := rest }) ∧
    (∀ mod, (∀ m ∈ ms, m.WellFormed ∧ m.tag ∈ queryTags rowDescriptionMsg) →
      rowsDescribed none ms →
      readSimpleQueryData mod e cn =
        .ok (lastResult ms, (simpleDataTrace e mod cn ms).model,
            (simpleDataTrace e mod cn ms).errs.head?)
          { cn with rd := rest, log := (simpleDataTrace e mod cn ms).log,
                     columns := (simpleDataTrace e mod cn ms).columns }) ∧
    (∀ mod columns,
      (∀ m ∈ ms, m.WellFormed ∧ m.tag ∈ queryTags bindCompleteMsg ∧ m.rowFits (some columns.len)) →
      readExtQueryData mod columns e cn =
        .ok (lastResult ms, (extDataTrace e mod columns cn ms).model,
            (extDataTrace e mod columns cn ms).errs.head?)
          { cn with rd := rest, log := (extDataTrace e mod columns cn ms).log }) :=
  ⟨fun hms => queryReader_response skipTag_rowDescription hms hp h,
   fun hms => queryReader_response skipTag_bindComplete hms hp h,
   fun mod hms hrows => readSimpleQueryData_response mod hms hrows hp h,
   fun mod columns hms => readExtQueryData_response mod columns hms hp h⟩

/-- A server error, a CommandComplete and ReadyForQuery, on collaborators that never fail:
the readers return the command tag and the error. -/
theorem queryReaders_response_errorThenComplete :
    readSimpleQuery Env.succeeding (Conn.ofInput (stream
        [.errorResponse [(83, [69])], .other commandCompleteMsg (ascii "SELECT 0")] ++
      (Backend.other readyForQueryMsg [73]).bytes)) =
      .ok (some ⟨ascii "SELECT 0", 0⟩, some (errorOf [] [(83, [69])])) (Conn.ofInput []) ∧
    readExtQueryData .model Columns.nil Env.succeeding (Conn.ofInput (stream
        [.errorResponse [(83, [69])], .other commandCompleteMsg (ascii "SELECT 0")] ++
      (Backend.other readyForQueryMsg [73]).bytes)) =
      .ok (some ⟨ascii "SELECT 0", 0⟩, none, some (errorOf [] [(83, [69])])) (Conn.ofInput []) :=
  ⟨(queryReaders_response _ _
      [.errorResponse [(83, [69])], .other commandCompleteMsg (ascii "SELECT 0")] [73] []
      (by decide) rfl).1 (by decide),
   (queryReaders_response _ _
      [.errorResponse [(83, [69])], .other commandCompleteMsg (ascii "SELECT 0")] [73] []
      (by decide) rfl).2.2.2 .model Columns.nil (by decide)⟩

/-- EmptyQueryResponse and NotificationResponse are neither accepted nor a ReadyForQuery for
any query reader. -/
theorem not_mem_queryTags {t skip : UInt8} (ht : t ∈ [emptyQueryResponseMsg, notificationResponseMsg])
    (hs : skip ∈ [rowDescriptionMsg, bindCompleteMsg]) : t ∉ readyForQueryMsg :: queryTags skip := by
  simp only [List.mem_cons, List.not_mem_nil, or_false] at ht hs
  rcases ht with rfl | rfl <;> rcases hs with rfl | rfl <;> decide

/-- The query readers have no case for EmptyQueryResponse, which the server sends in place of
a CommandComplete for an empty query, nor for NotificationResponse: wherever one comes in a
response, after any stretch the reader goes round on, the reader returns an unexpected-message
error and leaves the rest of the response, its ReadyForQuery included, unread. -/
theorem queryReaders_reject_emptyQuery (e : Env) (cn : Conn) (ms : List Backend) {z : Backend}
    (hz : z.tag ∈ [emptyQueryResponseMsg, notificationResponseMsg])
    (hfit : z.payload.length + 4 < 2 ^ 31) (rest : Bytes) :
    (∀ v cn', Passes (queryBody "readSimpleQuery" rowDescriptionMsg) e ⟨0, none, none⟩ cn ms v cn' →
      readSimpleQuery e { cn with rd := stream ms ++ z.bytes ++ rest } =
        .stop (.err (unexpectedMessage "readSimpleQuery" z.tag)) { cn' with rd := z.payload ++ rest }) ∧
    (∀ v cn', Passes (queryBody "readExtQuery" bindCompleteMsg) e ⟨0, none, none⟩ cn ms v cn' →
      readExtQuery e { cn with rd := stream ms ++ z.bytes ++ rest } =
        .stop (.err (unexpectedMessage "readExtQuery" z.tag)) { cn' with rd := z.payload ++ rest }) ∧
    (∀ mod v cn', Passes (readSimpleQueryDataBody mod) e ⟨0, none, none, none⟩ cn ms v cn' →
      readSimpleQueryData mod e { cn with rd := stream ms ++ z.bytes ++ rest } =
        .stop (.err (unexpectedMessage "readSimpleQueryData" z.tag))
          { cn' with rd := z.payload ++ rest }) ∧
    (∀ mod columns v cn',
      Passes (readExtQueryDataBody mod columns) e ⟨0, none, none, none⟩ cn ms v cn' →
      readExtQueryData mod columns e { cn with rd := stream ms ++ z.bytes ++ rest } =
        .stop (.err (unexpectedMessage "readExtQueryData" z.tag))
          { cn' with rd := z.payload ++ rest }) :=
  ⟨fun v _ hp => hp.runReader hfit (queryBody_unexpected (not_mem_queryTags hz (by decide)) v _) rfl,
   fun v _ hp => hp.runReader hfit (queryBody_unexpected (not_mem_queryTags hz (by decide)) v _) rfl,
   fun _ v _ hp =>
    hp.runReader hfit (readSimpleQueryDataBody_unexpected (not_mem_queryTags hz (by decide)) v _) rfl,
   fun _ _ v _ hp =>
    hp.runReader hfit (readExtQueryDataBody_unexpected (not_mem_queryTags hz (by decide)) v _) rfl⟩

/-- The response to an empty query string: EmptyQueryResponse, then ReadyForQuery. -/
theorem readSimpleQuery_emptyQuery :
    readSimpleQuery Env.succeeding (Conn.ofInput ((Backend.other emptyQueryResponseMsg []).bytes ++
        (Backend.other readyForQueryMsg [73]).bytes)) =
      .stop (.err (unexpectedMessage "readSimpleQuery" emptyQueryResponseMsg))
        (Conn.ofInput (Backend.other readyForQueryMsg [73]).bytes) :=
  (queryReaders_reject_emptyQuery Env.succeeding (Conn.ofInput []) []
    (z := .other emptyQueryResponseMsg []) (by decide) (by decide) _).1 _ _ (.nil _ _)

end GoPg
