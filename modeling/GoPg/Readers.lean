import GoPg.Decode

/-!
# The response readers

Every reader of `messages.go` is a `for` loop that reads a message header with
`readMessageType` and switches on the type: a case either goes round again with new
loop variables or returns. `messageLoop` is that loop, given the `switch` as a body from
the loop variables, the type and the payload length to a `Step`. Every pass consumes the
five header bytes, so the stream's length bounds the passes (`runReader`).

All readers but `readNotification` end their `switch` with the same cases:
NoticeResponse and ParameterStatus are read and dropped, and any other type is an
unexpected-message error naming the reader (`sideChannel`). Readers that differ only in
their names and tags are one definition applied to each reader's own values.
-/

namespace GoPg

/-- What one pass of a reader's loop does: go round again, or return. -/
inductive Step (σ α : Type) where
  | next (s : σ)
  | done (a : α)

/-- A reader's loop with at most `fuel` passes. -/
def messageLoop {σ α : Type} (body : σ → UInt8 → Int → Go (Step σ α)) : Nat → σ → Go α
  | 0, _ => throw .io
  | fuel + 1, s => do
    let (c, msgLen) ← readMessageType
    match ← body s c msgLen with
    | .next s => messageLoop body fuel s
    | .done a => pure a

/-- A reader: its loop from the initial loop variables. -/
def runReader {σ α : Type} (body : σ → UInt8 → Int → Go (Step σ α)) (s : σ) : Go α :=
  Go.byStream fun fuel => messageLoop body fuel s

/-- The last cases of every reader's `switch`: NoticeResponse and ParameterStatus are read
and dropped, any other type is unexpected. -/
def sideChannel {σ α : Type} (reader : String) (s : σ) (c : UInt8) (msgLen : Int) :
    Go (Step σ α) :=
  if c = noticeResponseMsg then do logNotice msgLen; pure (.next s)
  else if c = parameterStatusMsg then do logParameterStatus msgLen; pure (.next s)
  else throw (unexpectedMessage reader c)

/-! ## Prepare, bind, close and COPY -/

/-- The `switch` of `readParseDescribeSync`; the loop variable is `columns`. -/
def readParseDescribeSyncBody (columns : Columns) (c : UInt8) (msgLen : Int) :
    Go (Step Columns (Columns × Option Err)) :=
  if c = parseCompleteMsg then do discardN msgLen; pure (.next columns)
  else if c = rowDescriptionMsg then do
    let columns ← readRowDescription Columns.nil
    pure (.next columns)
  else if c = parameterDescriptionMsg then do discardN msgLen; pure (.next columns)
  else if c = noDataMsg then do discardN msgLen; pure (.next columns)
  else if c = readyForQueryMsg then do
    let err ← Go.errOf (readN msgLen)
    pure (.done (columns, err))
  else if c = errorResponseMsg then do throw (← readError)
  else sideChannel "readParseDescribeSync" columns c msgLen

/-- `readParseDescribeSync`: the columns of the statement's RowDescription, if any. -/
def readParseDescribeSync : Go (Columns × Option Err) :=
  runReader readParseDescribeSyncBody Columns.nil

/-- The `switch` of `readBindMsg`. -/
def readBindMsgBody (_ : Unit) (c : UInt8) (msgLen : Int) : Go (Step Unit Unit) :=
  if c = bindCompleteMsg then do discardN msgLen; pure (.next ())
  else if c = readyForQueryMsg then do discardN msgLen; pure (.done ())
  else if c = errorResponseMsg then do throw (← readError)
  else sideChannel "readBindMsg" () c msgLen

/-- `readBindMsg`. -/
def readBindMsg : Go Unit := runReader readBindMsgBody ()

/-- The `switch` of a reader that waits for one message type and returns after it. -/
def awaitBody (reader : String) (tag : UInt8) (_ : Unit) (c : UInt8) (msgLen : Int) :
    Go (Step Unit Unit) :=
  if c = tag then do discardN msgLen; pure (.done ())
  else if c = errorResponseMsg then do throw (← readError)
  else sideChannel reader () c msgLen

/-- `readCloseCompleteMsg`. -/
def readCloseCompleteMsg : Go Unit := runReader (awaitBody "readCloseCompleteMsg" closeCompleteMsg) ()

/-- `readCopyInResponse`. -/
def readCopyInResponse : Go Unit := runReader (awaitBody "readCopyInResponse" copyInResponseMsg) ()

/-- `readCopyOutResponse`. -/
def readCopyOutResponse : Go Unit :=
  runReader (awaitBody "readCopyOutResponse" copyOutResponseMsg) ()

/-- The `switch` of `readCopyData`: CopyData goes to the sink `w`; the loop variable is `res`. -/
def readCopyDataBody (res : Option Result) (c : UInt8) (msgLen : Int) :
    Go (Step (Option Result) (Option Result × Option Err)) :=
  if c = copyDataMsg then do
    let b ← readN msgLen
    match ← call (.write b) with
    | some err => throw err
    | none => pure (.next res)
  else if c = copyDoneMsg then do discardN msgLen; pure (.next res)
  else if c = commandCompleteMsg then do
    let b ← readN msgLen
    pure (.next (some (newResult b 0)))
  else if c = readyForQueryMsg then do
    let err ← Go.errOf (readN msgLen)
    pure (.done (res, err))
  else if c = errorResponseMsg then do throw (← readError)
  else sideChannel "readCopyData" res c msgLen

/-- `readCopyData(cn, w)`. -/
def readCopyData : Go (Option Result × Option Err) := runReader readCopyDataBody none

/-! ## Queries -/

/-- The loop variables of the query readers. -/
structure QueryVars where
  rows : Nat
  res : Option Result
  retErr : Option Err
  deriving DecidableEq, Repr

/-- The `switch` of `readSimpleQuery` and `readExtQuery`, which differ only in their name and
in the one message type they drop (`skip`: RowDescription, resp. BindComplete). -/
def queryBody (reader : String) (skip : UInt8) (v : QueryVars) (c : UInt8) (msgLen : Int) :
    Go (Step QueryVars (Option Result × Option Err)) :=
  if c = skip then do discardN msgLen; pure (.next v)
  else if c = dataRowMsg then do discardN msgLen; pure (.next { v with rows := v.rows + 1 })
  else if c = commandCompleteMsg then do
    let b ← readN msgLen
    pure (.next { v with res := some (newResult b v.rows) })
  else if c = readyForQueryMsg then do discardN msgLen; pure (.done (v.res, v.retErr))
  else if c = errorResponseMsg then do
    let e ← readError
    pure (.next { v with retErr := setErr v.retErr e })
  else sideChannel reader v c msgLen

/-- `readSimpleQuery`. -/
def readSimpleQuery : Go (Option Result × Option Err) :=
  runReader (queryBody "readSimpleQuery" rowDescriptionMsg) ⟨0, none, none⟩

/-- `readExtQuery`. -/
def readExtQuery : Go (Option Result × Option Err) :=
  runReader (queryBody "readExtQuery" bindCompleteMsg) ⟨0, none, none⟩

/-- The loop variables of the data readers. -/
structure DataVars where
  rows : Nat
  res : Option Result
  model : Option ModelRef
  retErr : Option Err
  deriving DecidableEq, Repr

/-- `if model == nil { model, err = newModel(mod); if err != nil { setErr(err);
model = Discard } }`. -/
def ensureModel (mod : Mod) (v : DataVars) : Go DataVars :=
  match v.model with
  | some _ => pure v
  | none => do
    match ← newModel mod with
    | some err => pure { v with model := some .discard, retErr := setErr v.retErr err }
    | none => pure { v with model := some .user }

/-- The DataRow case of the data readers: a row target from the model, decoded against
`columns`, then added to the model; `rows++`. A nil model panics. -/
def addDataRow (v : DataVars) (columns : Columns) : Go DataVars :=
  match v.model with
  | none => Go.panic .nilModel
  | some model => do
    let _ ← call (.newRow model)
    let retErr ← do
      match ← readDataRow model columns with
      | some err => pure (setErr v.retErr err)
      | none => pure (setErrIf v.retErr (← call (.addModel model)))
    pure { v with rows := v.rows + 1, retErr := retErr }

/-- The CommandComplete, ReadyForQuery and ErrorResponse cases of the data readers. -/
def dataTail (reader : String) (v : DataVars) (c : UInt8) (msgLen : Int) :
    Go (Step DataVars (Option Result × Option ModelRef × Option Err)) :=
  if c = commandCompleteMsg then do
    let b ← readN msgLen
    pure (.next { v with res := some (newResult b v.rows) })
  else if c = readyForQueryMsg then do discardN msgLen; pure (.done (v.res, v.model, v.retErr))
  else if c = errorResponseMsg then do
    let e ← readError
    pure (.next { v with retErr := setErr v.retErr e })
  else sideChannel reader v c msgLen

/-- The `switch` of `readSimpleQueryData`: a RowDescription replaces `cn.Columns` and
creates the model the first time; DataRows are decoded against `cn.Columns`. -/
def readSimpleQueryDataBody (mod : Mod) (v : DataVars) (c : UInt8) (msgLen : Int) :
    Go (Step DataVars (Option Result × Option ModelRef × Option Err)) :=
  if c = rowDescriptionMsg then do
    let cn ← Go.conn
    let columns ← tryCatch (readRowDescription cn.columns.slice0) fun err => do
      Go.modify fun cn => { cn with columns := Columns.nil }
      throw err
    Go.modify fun cn => { cn with columns := columns }
    pure (.next (← ensureModel mod v))
  else if c = dataRowMsg then do
    let cn ← Go.conn
    pure (.next (← addDataRow v cn.columns))
  else dataTail "readSimpleQueryData" v c msgLen

/-- `readSimpleQueryData(cn, mod)`. -/
def readSimpleQueryData (mod : Mod) : Go (Option Result × Option ModelRef × Option Err) :=
  runReader (readSimpleQueryDataBody mod) ⟨0, none, none, none⟩

/-- The `switch` of `readExtQueryData`: the model is created at the first DataRow, and
DataRows are decoded against the `columns` argument. -/
def readExtQueryDataBody (mod : Mod) (columns : Columns) (v : DataVars) (c : UInt8)
    (msgLen : Int) : Go (Step DataVars (Option Result × Option ModelRef × Option Err)) :=
  if c = bindCompleteMsg then do discardN msgLen; pure (.next v)
  else if c = dataRowMsg then do
    let v ← ensureModel mod v
    pure (.next (← addDataRow v columns))
  else dataTail "readExtQueryData" v c msgLen

/-- `readExtQueryData(cn, mod, columns)`. -/
def readExtQueryData (mod : Mod) (columns : Columns) :
    Go (Option Result × Option ModelRef × Option Err) :=
  runReader (readExtQueryDataBody mod columns) ⟨0, none, none, none⟩

/-! ## After COPY, and notifications -/

/-- The `switch` of `readReadyForQuery`. An ErrorResponse replaces `retErr`. -/
def readReadyForQueryBody (v : Option Result × Option Err) (c : UInt8) (msgLen : Int) :
    Go (Step (Option Result × Option Err) (Option Result × Option Err)) :=
  if c = commandCompleteMsg then do
    let b ← readN msgLen
    pure (.next (some (newResult b 0), v.2))
  else if c = readyForQueryMsg then do discardN msgLen; pure (.done v)
  else if c = errorResponseMsg then do
    let e ← readError
    pure (.next (v.1, some e))
  else sideChannel "readReadyForQueryOrError" v c msgLen

/-- `readReadyForQuery`. -/
def readReadyForQuery : Go (Option Result × Option Err) :=
  runReader readReadyForQueryBody (none, none)

/-- The `switch` of `readNotification`, which has no ParameterStatus case. -/
def readNotificationBody (_ : Unit) (c : UInt8) (msgLen : Int) : Go (Step Unit (Bytes × Bytes)) :=
  if c = commandCompleteMsg then do discardN msgLen; pure (.next ())
  else if c = readyForQueryMsg then do discardN msgLen; pure (.next ())
  else if c = errorResponseMsg then do throw (← readError)
  else if c = noticeResponseMsg then do logNotice msgLen; pure (.next ())
  else if c = notificationResponseMsg then do
    let _ ← readInt32
    let channel ← readString
    let payload ← readString
    pure (.done (channel, payload))
  else throw (.errorf "pg: unexpected message %q" [.byte c])

/-- `readNotification`: the channel and payload of the next NotificationResponse. -/
def readNotification : Go (Bytes × Bytes) := runReader readNotificationBody ()

end GoPg
