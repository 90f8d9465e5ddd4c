import GoPg.Run

/-!
# The query readers on a well-formed response

What a response stands for, said without the loop: every server error in it
(`serverErrors`), and every CommandComplete as the Result it describes, with the DataRows
before it (`commandResults`). `readSimpleQuery` and `readExtQuery` return the first of the one
and the last of the other, and stop exactly after the ReadyForQuery.

`queryStep` is what one message does to the loop variables, `queryBody_pass` says that the
body does it and consumes exactly the message, and `queryVarsOf_snoc` that it takes the loop
variables of a stretch of the stream to those of the stretch one message longer.
-/

namespace GoPg

namespace Backend

/-- Whether the message is a DataRow. -/
def isDataRow : Backend → Bool
  | dataRow _ => true
  | _ => false

/-- A message is a DataRow exactly when it is built as one. -/
theorem isDataRow_iff {m : Backend} : m.isDataRow = true ↔ ∃ vals, m = dataRow vals := by
  cases m <;> simp [isDataRow]

/-- The command tag of a CommandComplete. -/
def commandTag? : Backend → Option Bytes
  | other t p => if t = commandCompleteMsg then some p else none
  | _ => none

/-- The error of an ErrorResponse, as `readError` builds it on a connection to `remoteAddr`. -/
def serverError? (remoteAddr : Bytes) : Backend → Option Err
  | errorResponse fields => some (errorOf remoteAddr fields)
  | _ => none

end Backend

/-- The number of DataRows of a stream. -/
def countRows (ms : List Backend) : Nat := ms.countP Backend.isDataRow

/-- Every CommandComplete of a stream, as the Result it describes: its command tag and the
number of DataRows before it, counted from `n`. -/
def commandResults : Nat → List Backend → List Result
  | _, [] => []
  | n, m :: ms =>
    (m.commandTag?.map fun p => newResult p n).toList ++
      commandResults (n + if m.isDataRow then 1 else 0) ms

/-- The Result of the last CommandComplete. -/
def lastResult (ms : List Backend) : Option Result := (commandResults 0 ms).getLast?

/-- Every server error of a stream, in order. -/
def serverErrors (remoteAddr : Bytes) (ms : List Backend) : List Err :=
  ms.filterMap (Backend.serverError? remoteAddr)

/-- The first server error of a stream. -/
def firstError (remoteAddr : Bytes) (ms : List Backend) : Option Err :=
  (serverErrors remoteAddr ms).head?

section Spec

variable (remoteAddr : Bytes) (pre : List Backend) (m : Backend)

/-- The last of an optional value is the value. -/
@[simp] theorem getLast?_optionToList {α : Type} (o : Option α) : o.toList.getLast? = o := by
  cases o <;> rfl

/-- A DataRow at the end counts one row more. -/
theorem countRows_snoc : countRows (pre ++ [m]) = countRows pre + if m.isDataRow then 1 else 0 := by
  simp [countRows, List.countP_append, List.countP_cons]

/-- The results of two stretches, the second counting rows from where the first stopped. -/
theorem commandResults_append (ms : List Backend) :
    ∀ n, commandResults n (pre ++ ms) = commandResults n pre ++ commandResults (n + countRows pre) ms := by
  induction pre with
  | nil => intro n; rfl
  | cons m pre ih =>
    intro n
    have hn : n + (if m.isDataRow then 1 else 0) + countRows pre = n + countRows (m :: pre) := by
      simp only [countRows, List.countP_cons]
      omega
    rw [List.cons_append, commandResults, commandResults, ih, List.append_assoc, hn]

/-- A CommandComplete at the end gives the result, with the rows counted before it. -/
theorem lastResult_snoc :
    lastResult (pre ++ [m]) = (m.commandTag?.map fun p => newResult p (countRows pre)).or (lastResult pre) := by
  simp [lastResult, commandResults_append, commandResults, List.getLast?_append]

/-- An ErrorResponse at the end counts only when no error came before. -/
theorem firstError_snoc :
    firstError remoteAddr (pre ++ [m]) = (firstError remoteAddr pre).or (m.serverError? remoteAddr) := by
  cases h : m.serverError? remoteAddr <;> simp [firstError, serverErrors, h]

end Spec

/-- One message's effect on the loop variables of a query reader: a DataRow is counted, a
CommandComplete replaces the Result, and the first server error is kept. -/
def queryStep (remoteAddr : Bytes) (v : QueryVars) (m : Backend) : QueryVars where
  rows := v.rows + if m.isDataRow then 1 else 0
  res := (m.commandTag?.map fun p => newResult p v.rows).or v.res
  retErr := v.retErr.or (m.serverError? remoteAddr)

/-- The loop variables of a query reader after a stretch of the stream. -/
def queryVarsOf (remoteAddr : Bytes) (pre : List Backend) : QueryVars :=
  ⟨countRows pre, lastResult pre, firstError remoteAddr pre⟩

/-- Before any message the loop variables are their zero values. -/
theorem queryVarsOf_nil (remoteAddr : Bytes) : queryVarsOf remoteAddr [] = ⟨0, none, none⟩ := rfl

/-- The step takes the loop variables of a stretch to those of the stretch one message longer. -/
theorem queryVarsOf_snoc (remoteAddr : Bytes) (pre : List Backend) (m : Backend) :
    queryVarsOf remoteAddr (pre ++ [m]) = queryStep remoteAddr (queryVarsOf remoteAddr pre) m := by
  simp only [queryVarsOf, queryStep, countRows_snoc, lastResult_snoc, firstError_snoc]

/-- `setErr` keeps the first error. -/
theorem setErr_eq_or (r : Option Err) (err : Err) : setErr r err = r.or (some err) := by
  cases r <;> rfl

/-- The message type a query reader drops ahead of the others (RowDescription, resp.
BindComplete): none of the types its `switch` handles otherwise, nor NotificationResponse. -/
structure SkipTag (skip : UInt8) : Prop where
  dataRow : dataRowMsg ≠ skip
  commandComplete : commandCompleteMsg ≠ skip
  readyForQuery : readyForQueryMsg ≠ skip
  errorResponse : errorResponseMsg ≠ skip
  notice : noticeResponseMsg ≠ skip
  parameterStatus : parameterStatusMsg ≠ skip
  notification : notificationResponseMsg ≠ skip

/-- RowDescription is what `readSimpleQuery` drops. -/
theorem skipTag_rowDescription : SkipTag rowDescriptionMsg :=
  ⟨by decide, by decide, by decide, by decide, by decide, by decide, by decide⟩

/-- BindComplete is what `readExtQuery` drops. -/
theorem skipTag_bindComplete : SkipTag bindCompleteMsg :=
  ⟨by decide, by decide, by decide, by decide, by decide, by decide, by decide⟩

/-- The message types a query reader goes round on. -/
def queryTags (skip : UInt8) : List UInt8 :=
  [skip, dataRowMsg, commandCompleteMsg, errorResponseMsg, noticeResponseMsg, parameterStatusMsg]

section Body

variable {reader : String} {skip : UInt8} {e : Env} {cn : Conn} {r : Bytes}

/-- A query reader hands NoticeResponse and ParameterStatus to `sideChannel`. -/
theorem queryBody_drops (hs : SkipTag skip) : DropsSideChannel (queryBody reader skip) := by
  rintro e v cn r n ⟨p, rfl | rfl⟩
  · simp +decide only [queryBody, Backend.tag, hs.notice, if_false]
    exact sideChannel_drops (.other noticeResponseMsg p) ⟨p, .inl rfl⟩
  · simp +decide only [queryBody, Backend.tag, hs.parameterStatus, if_false]
    exact sideChannel_drops (.other parameterStatusMsg p) ⟨p, .inr rfl⟩

/-- A side-channel message leaves the loop variables as they were. -/
theorem queryStep_sideChannel {remoteAddr : Bytes} {v : QueryVars} {n : Backend}
    (hn : n.IsSideChannel) : queryStep remoteAddr v n = v := by
  obtain ⟨p, rfl | rfl⟩ := hn <;>
    simp +decide [queryStep, Backend.isDataRow, Backend.commandTag?, Backend.serverError?]

/-- One pass of a query reader over a well-formed message it goes round on. -/
theorem queryBody_pass (hs : SkipTag skip) {m : Backend} (hm : m.WellFormed)
    (ht : m.tag ∈ queryTags skip) (v : QueryVars) :
    queryBody reader skip v m.tag m.payload.length e { cn with rd := m.payload ++ r } =
      .ok (.next (queryStep cn.remoteAddr v m)) { cn with rd := r } := by
  have hdrop : discardN m.payload.length e { cn with rd := m.payload ++ r } = _ :=
    discardN_append rfl
  cases m with
  | errorResponse fields =>
    have herr : readError e { cn with rd := (Backend.errorResponse fields).payload ++ r } = _ :=
      readError_errorResponse rfl hm.content
    simp +decide only [queryBody, Backend.tag, hs.errorResponse, if_false]
    simpa [queryStep, Backend.isDataRow, Backend.commandTag?, Backend.serverError?, setErr_eq_or]
      using Go.bind_ok herr
  | rowDescription fields =>
    have hT : rowDescriptionMsg = skip := by simpa +decide [queryTags, Backend.tag] using ht
    simp only [queryBody, Backend.tag, if_pos hT]
    simpa [queryStep, Backend.isDataRow, Backend.commandTag?, Backend.serverError?]
      using Go.bind_ok hdrop
  | dataRow vals =>
    simp +decide only [queryBody, Backend.tag, hs.dataRow, if_false, if_true]
    simpa [queryStep, Backend.isDataRow, Backend.commandTag?, Backend.serverError?]
      using Go.bind_ok hdrop
  | notificationResponse pid channel payload =>
    exact absurd (by simpa +decide [queryTags, Backend.tag] using ht) hs.notification
  | other t p =>
    obtain ⟨hcE, -, hcD, -⟩ := hm.content
    simp only [queryTags, Backend.tag, List.mem_cons, List.not_mem_nil, or_false] at ht
    rcases ht with rfl | rfl | rfl | rfl | rfl | rfl
    · simp only [queryBody, Backend.tag, if_pos rfl]
      simpa [queryStep, Backend.isDataRow, Backend.commandTag?, Backend.serverError?, hs.commandComplete.symm]
        using Go.bind_ok hdrop
    · exact absurd rfl hcD
    · simp +decide only [queryBody, Backend.tag, hs.commandComplete, if_false, if_true]
      have hb : readN p.length e { cn with rd := p ++ r } = _ := readN_append rfl rfl
      simpa [queryStep, Backend.isDataRow, Backend.commandTag?, Backend.serverError?]
        using Go.bind_ok hb
    · exact absurd rfl hcE
    · rw [queryStep_sideChannel ⟨p, .inl rfl⟩]
      exact queryBody_drops hs e v cn r _ ⟨p, .inl rfl⟩
    · rw [queryStep_sideChannel ⟨p, .inr rfl⟩]
      exact queryBody_drops hs e v cn r _ ⟨p, .inr rfl⟩

/-- A query reader returns at ReadyForQuery, with its Result and first error. -/
theorem queryBody_readyForQuery (hs : SkipTag skip) (v : QueryVars) (p : Bytes) :
    queryBody reader skip v readyForQueryMsg p.length e { cn with rd := p ++ r } =
      .ok (.done (v.res, v.retErr)) { cn with rd := r } := by
  simp +decide only [queryBody, hs.readyForQuery, if_false, if_true]
  exact Go.bind_ok (discardN_append rfl)

/-- A query reader goes round on every stretch of well-formed messages it accepts, from the
loop variables of the stretch before to those of both. -/
theorem queryBody_passes (hs : SkipTag skip) (ms : List Backend)
    (hms : ∀ m ∈ ms, m.WellFormed ∧ m.tag ∈ queryTags skip) :
    ∀ pre, Passes (queryBody reader skip) e (queryVarsOf cn.remoteAddr pre) cn ms
      (queryVarsOf cn.remoteAddr (pre ++ ms)) cn :=
  Passes.of_vars _ ms fun pre m hm => ⟨(hms m hm).1.fits, fun _ => by
    rw [queryVarsOf_snoc]
    exact queryBody_pass hs (hms m hm).1 (hms m hm).2 _⟩

/-- A query reader on well-formed messages it accepts, then ReadyForQuery: it returns the
Result of the last CommandComplete and the first server error, and leaves the rest unread. -/
theorem queryReader_response (hs : SkipTag skip) {ms : List Backend} {p rest : Bytes}
    (hms : ∀ m ∈ ms, m.WellFormed ∧ m.tag ∈ queryTags skip) (hp : p.length + 4 < 2 ^ 31)
    (h : cn.rd = stream ms ++ (Backend.other readyForQueryMsg p).bytes ++ rest) :
    runReader (queryBody reader skip) ⟨0, none, none⟩ e cn =
      .ok (lastResult ms, firstError cn.remoteAddr ms) { cn with rd := rest } := by
  conv_lhs => rw [Conn.eq_with_rd h, ← queryVarsOf_nil cn.remoteAddr]
  exact (queryBody_passes hs ms hms []).runReader hp (queryBody_readyForQuery hs _ p) rfl

/-- A query reader rejects every message type it has no case for. -/
theorem queryBody_unexpected {t : UInt8} (ht : t ∉ readyForQueryMsg :: queryTags skip)
    (v : QueryVars) (l : Int) :
    queryBody reader skip v t l e cn = .stop (.err (unexpectedMessage reader t)) cn := by
  simp only [queryTags, List.mem_cons, List.not_mem_nil, or_false, not_or] at ht
  obtain ⟨hZ, hs, hD, hC, hE, hN, hS⟩ := ht
  simp [queryBody, sideChannel, hZ, hs, hD, hC, hE, hN, hS]

end Body

end GoPg
