import GoPg.QueryData

/-!
# How the data readers use the caller's model

`ModelUse` says in the spec's words how a data reader uses the caller's model over a response. It
creates the model once, at the first message that calls for it: the first RowDescription for
`readSimpleQueryData`, the first DataRow for `readExtQueryData`. When `newModel` fails there,
`Discard` takes the model's place. Every DataRow takes a row target from that model, is decoded
by `readDataRow`, and is added to the model exactly when `readDataRow` returned nil. No other
message calls the model, and the model returned is the one created, or none.

Both readers' steps do to the model and the calls what `afterMessage` says
(`simpleDataStep_after`, `extDataStep_after`). `StepsAfter.modelUse` derives `ModelUse` from that by
induction over the stream, and `dataReaders_modelUse` joins it to the readers' run theorems.
-/

namespace GoPg

/-! ## The spec's account -/

/-- A call `newModel` makes: `orm.NewModel` or `Reset`. -/
def Call.isCreate : Call → Bool
  | .ormNewModel | .reset => true
  | _ => false

/-- The calls `newModel mod` makes after the calls `log`, in the order made. -/
def newModelCalls (env : Env) (log : List Call) : Mod → List Call
  | .model => [.reset]
  | .value => .ormNewModel :: if (env.answer log .ormNewModel).isSome then [] else [.reset]

/-- Whether the message is a RowDescription. -/
def Backend.isRowDescription : Backend → Bool
  | .rowDescription _ => true
  | _ => false

/-- The stretch of `ms` before the first message `creates` picks, if there is one. -/
def firstCreate (creates : Backend → Bool) : List Backend → Option (List Backend)
  | [] => none
  | b :: ms => if creates b then some [] else (firstCreate creates ms).map (b :: ·)

/-- The calls made while message `b` is read after the stretch `pre`, in the order made, given
what `T` keeps of each stretch. -/
def callsAt (T : List Backend → DataTrace) (pre : List Backend) (b : Backend) : List Call :=
  ((T (pre ++ [b])).log.take ((T (pre ++ [b])).log.length - (T pre).log.length)).reverse

/-- Modelled from the spec: how a data reader uses the caller's model over the messages `ms` of a
response. `T pre` is what it keeps of a stretch `pre` of them, `creates` picks the messages at
which it creates the model if there is none yet, and a DataRow after `pre` is decoded against
the column names `colsAt pre`. -/
structure ModelUse (env : Env) (mod : Mod) (creates : Backend → Bool)
    (colsAt : List Backend → Columns) (T : List Backend → DataTrace) (cn : Conn)
    (ms : List Backend) : Prop where
  /-- Each message only adds calls, made while it is read: the calls come in stream order. -/
  appends : ∀ pre b post, ms = pre ++ b :: post →
    (T (pre ++ [b])).log = (callsAt T pre b).reverse ++ (T pre).log
  /-- The model is created at the first message `creates` picks, as `Discard` when `newModel`
  failed there, and is the model the reader returns; with no such message there is none. -/
  model : (T ms).model = (firstCreate creates ms).map fun pre =>
    if (newModelRun env (T pre).log mod).1.isSome then .discard else .user
  /-- `newModel` runs once, while that message is read, and at no other message. -/
  creations : ∀ pre b post, ms = pre ++ b :: post →
    (callsAt T pre b).filter Call.isCreate =
      if firstCreate creates ms = some pre then newModelCalls env (T pre).log mod else []
  /-- Past the model's creation, a DataRow takes a row target from the model, is decoded by
  `readDataRow`, which reads exactly its payload and scans each value, and is added to the
  model exactly when `readDataRow` returned nil. -/
  rows : ∀ pre vals post, ms = pre ++ .dataRow vals :: post → ∃ m c₀ err,
    (T ms).model = some m ∧ (∀ k ∈ c₀, k.isCreate) ∧
    readDataRow m (colsAt pre) env
        { cn with rd := (Backend.dataRow vals).payload,
                  log := .newRow m :: c₀.reverse ++ (T pre).log } =
      .ok err { cn with rd := [], log := (scanColumnCalls m (colsAt pre) 0 vals).reverse ++
                  (.newRow m :: c₀.reverse ++ (T pre).log) } ∧
    callsAt T pre (.dataRow vals) = c₀ ++ .newRow m :: scanColumnCalls m (colsAt pre) 0 vals ++
      if err = none then [.addModel m] else []
  /-- Other messages call the model only to create it. -/
  others : ∀ pre b post, ms = pre ++ b :: post → b.isDataRow = false →
    ∀ k ∈ callsAt T pre b, k.isCreate

/-! ## One message -/

/-- The calls made to create the model while `b` is read after `t`. -/
def createCalls (env : Env) (mod : Mod) (creates : Backend → Bool) (t : DataTrace)
    (b : Backend) : List Call :=
  if creates b ∧ t.model = none then newModelCalls env t.log mod else []

/-- The log after the DataRow case, if `b` is a DataRow and there is a model, decoded against
`columns`. -/
def dataRowLog (env : Env) (columns : Columns) : Backend → Option ModelRef → List Call → List Call
  | .dataRow vals, some m, log => (rowRun env m columns vals log).2
  | _, _, log => log

/-- What a message does to the model and the calls of a data reader: the model is created
first if `creates` picks the message, then a DataRow goes to the model, decoded against
`columns`. -/
def afterMessage (env : Env) (mod : Mod) (creates : Backend → Bool) (columns : Columns)
    (t : DataTrace) (b : Backend) : Option ModelRef × List Call :=
  let model := if creates b then (ensureModelRun env mod t.model t.log).1 else t.model
  (model, dataRowLog env columns b model ((createCalls env mod creates t b).reverse ++ t.log))

section Step

variable {env : Env} {mod : Mod} {creates : Backend → Bool} {columns : Columns} {t : DataTrace}
  {b : Backend}

/-- `newModel` logs its calls in order. -/
theorem newModelRun_log (log : List Call) (mod : Mod) :
    (newModelRun env log mod).2 = (newModelCalls env log mod).reverse ++ log := by
  cases mod with
  | model => rfl
  | value => cases h : env.answer log .ormNewModel <;> simp [newModelRun, newModelCalls, h]

/-- Every call of `newModel` creates the model. -/
theorem isCreate_of_mem_newModelCalls {log : List Call} {k : Call}
    (hk : k ∈ newModelCalls env log mod) : k.isCreate := by
  cases mod with
  | model => obtain rfl := List.mem_singleton.mp hk; rfl
  | value =>
    simp only [newModelCalls, List.mem_cons] at hk
    rcases hk with rfl | hk
    · rfl
    · split at hk <;> simp_all [Call.isCreate]

/-- No call of the value loop creates the model. -/
theorem not_isCreate_of_mem_scanColumnCalls {m : ModelRef} {i : Nat} {vals : List (Option Bytes)}
    {k : Call} (hk : k ∈ scanColumnCalls m columns i vals) : k.isCreate = false := by
  induction vals generalizing i with
  | nil => cases hk
  | cons v vals ih =>
    rcases List.mem_cons.mp hk with rfl | hk
    · rfl
    · exact ih hk

/-- Making the model on the first row logs `newModel`'s calls only when there is no model yet. -/
theorem ensureModelRun_log (model : Option ModelRef) (log : List Call) :
    (ensureModelRun env mod model log).2.2 =
      (if model = none then newModelCalls env log mod else []).reverse ++ log := by
  cases model <;> simp [ensureModelRun, newModelRun_log]

/-- `ensureModel` makes the calls that create the model, if it makes any. -/
theorem ensureModelRun_createCalls (hc : creates b) :
    (ensureModelRun env mod t.model t.log).2.2 = (createCalls env mod creates t b).reverse ++ t.log := by
  rw [ensureModelRun_log]
  simp [createCalls, hc]

/-- The DataRow case: its row target, its scans, and the row added when no scan failed. -/
theorem rowRun_log (m : ModelRef) (vals : List (Option Bytes)) (log : List Call) :
    (rowRun env m columns vals log).2 =
      (Call.newRow m :: scanColumnCalls m columns 0 vals ++
        if env.firstError (.newRow m :: log) (scanColumnCalls m columns 0 vals) = none then
          [Call.addModel m] else []).reverse ++ log := by
  obtain ⟨h₁, h₂⟩ := scanCalls_eq env m columns vals 0 (.newRow m :: log)
  unfold rowRun
  by_cases hs : (scanCalls env m columns 0 vals (.newRow m :: log)).2 = []
  · have : env.firstError (.newRow m :: log) (scanColumnCalls m columns 0 vals) = none := by
      rw [← h₂, hs]; rfl
    simp [hs, h₁, this]
  · have : env.firstError (.newRow m :: log) (scanColumnCalls m columns 0 vals) ≠ none := by
      rw [← h₂]; simpa [List.head?_eq_none_iff] using hs
    simp [hs, h₁, this]

/-- A DataRow with no model makes no call. -/
theorem dataRowLog_none {log : List Call} :
    dataRowLog env columns b none log = log := by
  cases b <;> rfl

/-- A message other than DataRow makes no scanner call. -/
theorem dataRowLog_other {model : Option ModelRef} {log : List Call} (hb : b.isDataRow = false) :
    dataRowLog env columns b model log = log := by
  cases b <;> simp_all [dataRowLog, Backend.isDataRow]

end Step

/-! ## Where the model is created -/

section First

variable {creates : Backend → Bool}

/-- The first message picked in two stretches is in the first, or else in the second. -/
theorem firstCreate_append (l₁ l₂ : List Backend) :
    firstCreate creates (l₁ ++ l₂) =
      (firstCreate creates l₁).or ((firstCreate creates l₂).map (l₁ ++ ·)) := by
  induction l₁ with
  | nil => cases h : firstCreate creates l₂ <;> simp [firstCreate, h]
  | cons b l₁ ih =>
    by_cases hb : creates b
    · simp [firstCreate, hb]
    · cases h : firstCreate creates l₁ <;> simp_all [firstCreate, Option.map_or, Function.comp_def]

/-- What comes before the message picked is shorter than the list. -/
theorem length_lt_of_firstCreate {l q : List Backend} (h : firstCreate creates l = some q) :
    q.length < l.length := by
  induction l generalizing q with
  | nil => cases h
  | cons b l ih =>
    simp only [firstCreate] at h
    split at h
    · cases h; exact Nat.succ_pos _
    · obtain ⟨q', hq', rfl⟩ := Option.map_eq_some'.mp h
      exact Nat.succ_lt_succ (ih hq')

/-- The first message `creates` picks is `b` exactly when it picks `b` and none before it. -/
theorem firstCreate_eq_split {pre post : List Backend} {b : Backend} :
    firstCreate creates (pre ++ b :: post) = some pre ↔
      creates b ∧ firstCreate creates pre = none := by
  rw [firstCreate_append]
  cases h : firstCreate creates pre with
  | none =>
    by_cases hb : creates b <;> simp [firstCreate, hb]
  | some q =>
    have := length_lt_of_firstCreate h
    simp only [Option.or_some, Option.some.injEq, reduceCtorEq, and_false, iff_false]
    rintro rfl
    omega

end First

/-! ## A whole response -/

/-- What a data reader whose step is `step` keeps of a stretch `pre` of the stream, on `cn`. -/
def DataTrace.run (step : DataTrace → Backend → DataTrace) (cn : Conn) (pre : List Backend) :
    DataTrace :=
  pre.foldl step (.start cn)

/-- A data reader's step does to the model and the calls what `afterMessage` says, with DataRows
decoded against `colsOf t`. -/
def StepsAfter (env : Env) (mod : Mod) (creates : Backend → Bool) (colsOf : DataTrace → Columns)
    (step : DataTrace → Backend → DataTrace) : Prop :=
  ∀ t b, ((step t b).model, (step t b).log) = afterMessage env mod creates (colsOf t) t b

section Response

variable {env : Env} {mod : Mod} {creates : Backend → Bool} {colsOf : DataTrace → Columns}
  {step : DataTrace → Backend → DataTrace} {cn : Conn} {pre : List Backend} {b : Backend}

/-- A run over one message more is one step more. -/
theorem DataTrace.run_snoc : DataTrace.run step cn (pre ++ [b]) = step (DataTrace.run step cn pre) b := by
  rw [DataTrace.run, List.foldl_append, List.foldl_cons, List.foldl_nil]
  rfl

/-- The calls made while a message is read, when the log grows by exactly them. -/
theorem callsAt_of_log {T : List Backend → DataTrace} {cs : List Call}
    (h : (T (pre ++ [b])).log = cs.reverse ++ (T pre).log) : callsAt T pre b = cs := by
  unfold callsAt
  rw [h, List.length_append, List.length_reverse, Nat.add_sub_cancel,
    List.take_left' (List.length_reverse cs), List.reverse_reverse]

/-- Every call made on a message that creates the model creates it. -/
theorem isCreate_of_mem_createCalls {t : DataTrace} {k : Call}
    (hk : k ∈ createCalls env mod creates t b) : k.isCreate := by
  unfold createCalls at hk
  split at hk
  · exact isCreate_of_mem_newModelCalls hk
  · cases hk

namespace StepsAfter

variable (h : StepsAfter env mod creates colsOf step)
include h

/-- The model after one message more: made on the message that creates it, kept otherwise. -/
theorem model_snoc : (DataTrace.run step cn (pre ++ [b])).model =
    if creates b then
      (ensureModelRun env mod (DataTrace.run step cn pre).model (DataTrace.run step cn pre).log).1
    else (DataTrace.run step cn pre).model := by
  rw [DataTrace.run_snoc]
  exact congrArg Prod.fst (h _ b)

/-- The calls after one message more: those that create the model, then the scanner's on a DataRow.
-/
theorem log_snoc : (DataTrace.run step cn (pre ++ [b])).log =
    dataRowLog env (colsOf (DataTrace.run step cn pre)) b (DataTrace.run step cn (pre ++ [b])).model
      ((createCalls env mod creates (DataTrace.run step cn pre) b).reverse ++
        (DataTrace.run step cn pre).log) := by
  rw [h.model_snoc, DataTrace.run_snoc]
  exact congrArg Prod.snd (h _ b)

/-- A message other than a DataRow makes only the calls that create the model. -/
theorem callsAt_other (hb : b.isDataRow = false) :
    callsAt (DataTrace.run step cn) pre b = createCalls env mod creates (DataTrace.run step cn pre) b :=
  callsAt_of_log (h.log_snoc.trans (dataRowLog_other hb))

/-- A DataRow that finds model `m` makes the calls that create it, then those of the DataRow
case. -/
theorem callsAt_dataRow {vals : List (Option Bytes)} {m : ModelRef}
    (hm : (DataTrace.run step cn (pre ++ [.dataRow vals])).model = some m) :
    callsAt (DataTrace.run step cn) pre (.dataRow vals) =
      createCalls env mod creates (DataTrace.run step cn pre) (.dataRow vals) ++
        Call.newRow m :: scanColumnCalls m (colsOf (DataTrace.run step cn pre)) 0 vals ++
        if env.firstError (.newRow m :: (createCalls env mod creates (DataTrace.run step cn pre)
            (.dataRow vals)).reverse ++ (DataTrace.run step cn pre).log)
          (scanColumnCalls m (colsOf (DataTrace.run step cn pre)) 0 vals) = none then
          [Call.addModel m] else [] :=
  callsAt_of_log (by rw [h.log_snoc, hm, dataRowLog, rowRun_log]; simp)

/-- Each message only adds calls. -/
theorem log_appends :
    (DataTrace.run step cn (pre ++ [b])).log =
      (callsAt (DataTrace.run step cn) pre b).reverse ++ (DataTrace.run step cn pre).log := by
  cases hb : b.isDataRow
  · rw [h.callsAt_other hb, h.log_snoc, dataRowLog_other hb]
  · obtain ⟨vals, rfl⟩ := Backend.isDataRow_iff.mp hb
    cases hm : (DataTrace.run step cn (pre ++ [.dataRow vals])).model with
    | none =>
      have hlog : (DataTrace.run step cn (pre ++ [.dataRow vals])).log = _ := h.log_snoc
      rw [hm, dataRowLog_none] at hlog
      rw [callsAt_of_log hlog, hlog]
    | some m => rw [h.callsAt_dataRow hm, h.log_snoc, hm, dataRowLog, rowRun_log]; simp

/-- The model after every stretch: created at the first message `creates` picks. -/
theorem model_run (pre : List Backend) :
    (DataTrace.run step cn pre).model = (firstCreate creates pre).map fun q =>
      if (newModelRun env (DataTrace.run step cn q).log mod).1.isSome then .discard else .user := by
  induction pre using List.reverseRecOn with
  | nil => rfl
  | append_singleton pre b ih =>
    rw [h.model_snoc, firstCreate_append]
    cases hq : firstCreate creates pre with
    | some q => rw [hq] at ih; by_cases hb : creates b <;> simp [hb, ih, ensureModelRun]
    | none =>
      rw [hq] at ih
      by_cases hb : creates b <;> simp [hb, ih, firstCreate, ensureModelRun]

/-- The calls that create the model are `newModel`'s at the first message `creates` picks, and
there are none elsewhere. -/
theorem createCalls_eq {ms post : List Backend} (hms : ms = pre ++ b :: post) :
    createCalls env mod creates (DataTrace.run step cn pre) b =
      if firstCreate creates ms = some pre then
        newModelCalls env (DataTrace.run step cn pre).log mod else [] := by
  rw [hms, createCalls]
  congr 1
  rw [firstCreate_eq_split, h.model_run, Option.map_eq_none']

/-- Once created, the model stays. -/
theorem model_append {q : List Backend} {m : ModelRef}
    (hm : (DataTrace.run step cn pre).model = some m) :
    (DataTrace.run step cn (pre ++ q)).model = some m := by
  rw [h.model_run] at hm ⊢
  rw [firstCreate_append]
  cases hq : firstCreate creates pre with
  | none => rw [hq] at hm; cases hm
  | some q => rw [hq] at hm; simpa using hm

/-- `ModelUse` holds of every data reader whose step does what `afterMessage` says, on a stream
whose DataRows are well formed, find a model and fit the column names they are decoded
against. -/
theorem modelUse (ms : List Backend)
    (hrow : ∀ pre vals post, ms = pre ++ .dataRow vals :: post →
      (Backend.dataRow vals).WellFormed ∧ ∃ m,
        (DataTrace.run step cn (pre ++ [.dataRow vals])).model = some m ∧
        vals.length ≤ (colsOf (DataTrace.run step cn pre)).len) :
    ModelUse env mod creates (fun pre => colsOf (DataTrace.run step cn pre)) (DataTrace.run step cn)
      cn ms := by
  refine ⟨fun _ _ _ _ => h.log_appends, h.model_run ms, fun pre b post hms => ?_,
    fun pre vals post hms => ?_, fun pre b post hms hb k hk => ?_⟩
  · -- creations: the row calls create nothing
    rw [← h.createCalls_eq hms]
    cases hb : b.isDataRow
    · rw [h.callsAt_other hb]
      exact List.filter_eq_self.mpr fun k hk => isCreate_of_mem_createCalls hk
    · obtain ⟨vals, rfl⟩ := Backend.isDataRow_iff.mp hb
      obtain ⟨m, hm, -⟩ := (hrow pre vals post hms).2
      rw [h.callsAt_dataRow hm, List.append_assoc, List.filter_append, List.filter_eq_self.mpr
        fun k hk => isCreate_of_mem_createCalls hk, List.filter_eq_nil_iff.mpr, List.append_nil]
      intro k hk
      simp only [List.mem_cons, List.mem_append, List.mem_ite_nil_right, List.not_mem_nil, or_false]
        at hk
      rcases hk with (rfl | hk) | ⟨-, rfl⟩
      · simp [Call.isCreate]
      · simp [not_isCreate_of_mem_scanColumnCalls hk]
      · simp [Call.isCreate]
  · -- rows
    obtain ⟨hwf, m, hm, hw⟩ := hrow pre vals post hms
    have hl : ∀ b, some b ∈ vals → b.length < 2 ^ 31 := length_lt_of_valueBytes (by
      have := hwf.fits
      simp only [Backend.payload, List.length_append] at this
      omega)
    refine ⟨m, _, _, ?_, fun k hk => isCreate_of_mem_createCalls hk, ?_, h.callsAt_dataRow hm⟩
    · rw [hms, show pre ++ .dataRow vals :: post = (pre ++ [.dataRow vals]) ++ post by simp]
      exact h.model_append hm
    · obtain ⟨h₁, h₂⟩ := scanCalls_eq env m (colsOf (DataTrace.run step cn pre)) vals 0
        (.newRow m :: (createCalls env mod creates (DataTrace.run step cn pre) (.dataRow vals)).reverse ++
          (DataTrace.run step cn pre).log)
      rw [readDataRow_fields (r := []) m _ (List.append_nil _).symm hwf.content hl hw, h₁, h₂]
  · -- others
    rw [h.callsAt_other hb] at hk
    exact isCreate_of_mem_createCalls hk

end StepsAfter

end Response

/-! ## The two data readers -/

section Readers

variable (env : Env) (mod : Mod) (remoteAddr : Bytes)

/-- `readSimpleQueryData` creates the model at a RowDescription and decodes DataRows against the
column names of the last one. -/
theorem simpleDataStep_after :
    StepsAfter env mod Backend.isRowDescription DataTrace.columns
      (simpleDataStep env mod remoteAddr) := by
  intro t b
  cases b with
  | rowDescription fields =>
    simp only [simpleDataStep, DataTrace.ensureModel, afterMessage, Backend.isRowDescription,
      if_true, dataRowLog_other (b := .rowDescription fields) rfl]
    rw [← ensureModelRun_createCalls (b := .rowDescription fields) rfl]
  | dataRow vals =>
    simp only [simpleDataStep, DataTrace.addRow, afterMessage, Backend.isRowDescription, createCalls]
    cases t.model <;> rfl
  | _ => simp [simpleDataStep, DataTrace.addError, afterMessage, Backend.isRowDescription,
      createCalls, dataRowLog]

/-- `readExtQueryData` creates the model at a DataRow and decodes DataRows against its
`columns` argument. -/
theorem extDataStep_after (columns : Columns) :
    StepsAfter env mod Backend.isDataRow (fun _ => columns)
      (extDataStep env mod columns remoteAddr) := by
  intro t b
  cases b with
  | dataRow vals =>
    simp only [extDataStep, DataTrace.ensureModel, DataTrace.addRow, afterMessage,
      Backend.isDataRow, if_true]
    rw [← ensureModelRun_createCalls (b := .dataRow vals) rfl]
    cases (ensureModelRun env mod t.model t.log).1 <;> rfl
  | _ => simp [extDataStep, DataTrace.addError, afterMessage, Backend.isDataRow, createCalls,
      dataRowLog]

/-- Along a stream whose DataRows fit the RowDescriptions before them, `readSimpleQueryData` has,
at every message, a width its DataRows fit and its trace agrees with. -/
theorem described_before :
    ∀ (pre : List Backend) (b : Backend) (post : List Backend) (w : Option Nat) (t : DataTrace),
      rowsDescribed w (pre ++ b :: post) → Described w t →
      ∃ w', Described w' (pre.foldl (simpleDataStep env mod remoteAddr) t) ∧ b.rowFits w' := by
  intro pre
  induction pre with
  | nil =>
    intro b post w t hr hd
    simp only [List.nil_append, rowsDescribed, Bool.and_eq_true] at hr
    exact ⟨w, hd, hr.1⟩
  | cons m pre ih =>
    intro b post w t hr hd
    simp only [List.cons_append, rowsDescribed, Bool.and_eq_true] at hr
    exact ih b post _ _ hr.2 (described_step env mod remoteAddr m hd)

end Readers

/-- On a well-formed response, for every behaviour of the collaborators (`newModel` may fail;
`NewModel`, `ScanColumn` and `AddModel` answer anything), `readSimpleQueryData` and
`readExtQueryData` use the caller's model as `ModelUse` says: created once, at the first
RowDescription, resp. DataRow, as `Discard` when `newModel` fails; a row added for every DataRow
that `readDataRow` decoded without error, on that model, and for no other; and that model
returned. -/
theorem dataReaders_modelUse (e : Env) (mod : Mod) (cn : Conn) (ms : List Backend) (p rest : Bytes)
    (hp : p.length + 4 < 2 ^ 31)
    (h : cn.rd = stream ms ++ (Backend.other readyForQueryMsg p).bytes ++ rest) :
    ((∀ m ∈ ms, m.WellFormed ∧ m.tag ∈ queryTags rowDescriptionMsg) → rowsDescribed none ms →
      readSimpleQueryData mod e cn =
        .ok (lastResult ms, (simpleDataTrace e mod cn ms).model,
            (simpleDataTrace e mod cn ms).errs.head?)
          { cn with rd := rest, log := (simpleDataTrace e mod cn ms).log,
                     columns := (simpleDataTrace e mod cn ms).columns } ∧
      ModelUse e mod Backend.isRowDescription (fun pre => (simpleDataTrace e mod cn pre).columns)
        (simpleDataTrace e mod cn) cn ms) ∧
    (∀ columns,
      (∀ m ∈ ms, m.WellFormed ∧ m.tag ∈ queryTags bindCompleteMsg ∧ m.rowFits (some columns.len)) →
      readExtQueryData mod columns e cn =
        .ok (lastResult ms, (extDataTrace e mod columns cn ms).model,
            (extDataTrace e mod columns cn ms).errs.head?)
          { cn with rd := rest, log := (extDataTrace e mod columns cn ms).log } ∧
      ModelUse e mod Backend.isDataRow (fun _ => columns) (extDataTrace e mod columns cn) cn ms) := by
  refine ⟨fun hms hrows => ⟨readSimpleQueryData_response mod hms hrows hp h, ?_⟩,
    fun columns hms => ⟨readExtQueryData_response mod columns hms hp h, ?_⟩⟩
  · refine (simpleDataStep_after e mod cn.remoteAddr).modelUse ms fun pre vals post hsplit => ?_
    have hwf := (hms _ (hsplit ▸ List.mem_append_right _ (List.mem_cons_self _ _))).1
    obtain ⟨w, hd, hf⟩ := described_before e mod cn.remoteAddr pre _ post none _ (hsplit ▸ hrows)
      (.inl rfl)
    obtain ⟨m, hm, hw⟩ := described_fits hd hf
    refine ⟨hwf, m, ?_, hw⟩
    rw [(simpleDataStep_after e mod cn.remoteAddr).model_snoc]
    exact hm
  · refine (extDataStep_after e mod cn.remoteAddr columns).modelUse ms fun pre vals post hsplit => ?_
    obtain ⟨hwf, -, hf⟩ := hms _ (hsplit ▸ List.mem_append_right _ (List.mem_cons_self _ _))
    rw [(extDataStep_after e mod cn.remoteAddr columns).model_snoc]
    obtain ⟨m, hm⟩ := Option.isSome_iff_exists.mp
      (DataTrace.ensureModel_isSome e mod (DataTrace.run (extDataStep e mod columns cn.remoteAddr) cn pre))
    exact ⟨hwf, m, hm, by simpa [Backend.rowFits] using hf⟩

/-- One DataRow for the extended protocol's reader, on collaborators that never fail. -/
theorem readExtQueryData_oneRow_modelUse :
    (∀ m ∈ [Backend.dataRow [some [1]]], m.WellFormed ∧ m.tag ∈ queryTags bindCompleteMsg ∧
      m.rowFits (some (Columns.ofList [[97]]).len)) ∧
    readExtQueryData .model (Columns.ofList [[97]]) Env.succeeding
        (Conn.ofInput (stream [.dataRow [some [1]]] ++ (Backend.other readyForQueryMsg [73]).bytes ++ [])) =
      .ok (lastResult [.dataRow [some [1]]],
          (extDataTrace Env.succeeding .model (Columns.ofList [[97]])
            (Conn.ofInput (stream [.dataRow [some [1]]] ++ (Backend.other readyForQueryMsg [73]).bytes ++ []))
            [.dataRow [some [1]]]).model,
          (extDataTrace Env.succeeding .model (Columns.ofList [[97]])
            (Conn.ofInput (stream [.dataRow [some [1]]] ++ (Backend.other readyForQueryMsg [73]).bytes ++ []))
            [.dataRow [some [1]]]).errs.head?)
        { Conn.ofInput (stream [.dataRow [some [1]]] ++ (Backend.other readyForQueryMsg [73]).bytes ++ []) with
          rd := [],
          log := (extDataTrace Env.succeeding .model (Columns.ofList [[97]])
            (Conn.ofInput (stream [.dataRow [some [1]]] ++ (Backend.other readyForQueryMsg [73]).bytes ++ []))
            [.dataRow [some [1]]]).log } ∧
    ModelUse Env.succeeding .model Backend.isDataRow (fun _ => Columns.ofList [[97]])
      (extDataTrace Env.succeeding .model (Columns.ofList [[97]])
        (Conn.ofInput (stream [.dataRow [some [1]]] ++ (Backend.other readyForQueryMsg [73]).bytes ++ [])))
      (Conn.ofInput (stream [.dataRow [some [1]]] ++ (Backend.other readyForQueryMsg [73]).bytes ++ []))
      [.dataRow [some [1]]] :=
  have hms : ∀ m ∈ [Backend.dataRow [some [1]]], m.WellFormed ∧ m.tag ∈ queryTags bindCompleteMsg ∧
      m.rowFits (some (Columns.ofList [[97]]).len) := by decide
  ⟨hms, (dataReaders_modelUse Env.succeeding .model
    (Conn.ofInput (stream [.dataRow [some [1]]] ++ (Backend.other readyForQueryMsg [73]).bytes ++ []))
    [.dataRow [some [1]]] [73] [] (by decide) rfl).2 _ hms⟩

end GoPg
