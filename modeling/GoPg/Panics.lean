import GoPg.QueryData
import GoPg.Handshake

/-!
# Streams on which the engine panics

Nothing in the readers checks what the server sends against what the code then does with it.
A DataRow is decoded against whatever model and column list the reader has: before any
RowDescription `readSimpleQueryData` has no model, and a DataRow with more values than the
column list indexes past its end. Lengths and counts from the wire reach `ReadN` and
`setByteSliceLen` unchecked: a length field below 4, a field length below `-1`, a SASL message
shorter than its code and a RowDescription count with its top bit set all become negative
counts. Each of these stops the run with a panic, which no reader turns into an error.
-/

namespace GoPg

section Primitives

variable {e : Env} {cn : Conn} {r : Bytes}

/-- `ReadN` of a negative count panics before reading. -/
theorem readN_neg {n : Int} (h : n < 0) : readN n e cn = .stop (.panic (.readN n)) cn := by
  simp [readN, h]

/-- Discarding a negative count panics before reading. -/
theorem discardN_neg {n : Int} (h : n < 0) : discardN n e cn = .stop (.panic (.readN n)) cn :=
  Go.bind_stop (readN_neg h)

/-- `readInt32` returns the first four bytes, signed. -/
theorem readInt32_append {b : Bytes} (hb : b.length = 4) (h : cn.rd = b ++ r) :
    readInt32 e cn = .ok (toInt32 (beUint b)) { cn with rd := r } := by
  rw [readInt32, Go.bind_ok (readN_append h (by omega))]
  rfl

/-- A header is read as its type and its length field less four, whatever the field says. -/
theorem readMessageType_header {c : UInt8} {len : Bytes} (hlen : len.length = 4)
    (h : cn.rd = c :: len ++ r) :
    readMessageType e cn = .ok (c, toInt32 (beUint len) - 4) { cn with rd := r } := by
  rw [readMessageType, Go.bind_ok (readByte_cons h), Go.bind_ok (readInt32_append hlen rfl)]
  rfl

/-- A send the collaborators accept empties the buffer. -/
theorem flushWriter_ok (h : e.answer cn.log (.send cn.wr.bytes) = none) :
    flushWriter e cn =
      .ok () { cn with wr := WriteBuffer.empty, log := .send cn.wr.bytes :: cn.log } := by
  rw [flushWriter, Go.bind_ok Go.conn_apply, call_bind, h]
  rfl

/-- A reader whose body stops on the first message stops there. -/
theorem runReader_first_stop {σ α : Type} {body : σ → UInt8 → Int → Go (Step σ α)} {s : σ}
    {c : UInt8} {len : Bytes} {st : Stop} {cn' : Conn} (hlen : len.length = 4)
    (h : cn.rd = c :: len ++ r)
    (hb : body s c (toInt32 (beUint len) - 4) e { cn with rd := r } = .stop st cn') :
    runReader body s e cn = .stop st cn' := by
  rw [runReader, Go.byStream_apply, h, messageLoop, Go.bind_ok (readMessageType_header hlen h)]
  exact Go.bind_stop hb

/-- `scanColumns` over two stretches of indices is the second from where the first returned. -/
theorem scanColumns_append {m : ModelRef} {columns : Columns} {l₁ : List Nat} (l₂ : List Nat) :
    ∀ {retErr retErr' : Option Err} {cn cn' : Conn},
      scanColumns m columns l₁ retErr e cn = .ok retErr' cn' →
      scanColumns m columns (l₁ ++ l₂) retErr e cn = scanColumns m columns l₂ retErr' e cn' := by
  induction l₁ with
  | nil => intro _ _ _ _ h; cases h; rfl
  | cons i l₁ ih =>
    intro retErr retErr' cn cn' h
    obtain ⟨b, cn₁, hb, h⟩ := Go.bind_eq_ok h
    obtain ⟨column, cn₂, hc, h⟩ := Go.bind_eq_ok h
    obtain ⟨err, cn₃, hk, h⟩ := Go.bind_eq_ok h
    rw [List.cons_append, scanColumns, Go.bind_ok hb, Go.bind_ok hc, Go.bind_ok hk]
    exact ih h

/-- `readInt16` returns the first two bytes, signed. -/
theorem readInt16_append {b : Bytes} (hb : b.length = 2) (h : cn.rd = b ++ r) :
    readInt16 e cn = .ok (toInt16 (beUint b)) { cn with rd := r } := by
  rw [readInt16, Go.bind_ok (readN_append h (by omega))]
  rfl

/-- A negative count panics as a slice out of range. -/
theorem setByteSliceLen_neg (b : Columns) {n : Int} (h : n < 0) :
    setByteSliceLen b n e cn = .stop (.panic (.slice n)) cn := by
  rw [setByteSliceLen, dif_pos (by omega), dif_neg (by omega)]
  rfl

/-- A step of a negotiator with a mechanism, which the collaborators accept, returns the response.
-/
theorem saslStep_ok {mech : Bytes} {ch : Option Bytes} (hm : mech ≠ [])
    (h : e.answer cn.log (.saslStep mech ch) = none) :
    saslStep mech ch e cn =
      .ok (e.saslResponse (.saslStep mech ch :: cn.log)) { cn with log := .saslStep mech ch :: cn.log } := by
  rw [saslStep, if_neg hm, call_bind, h]
  rfl

end Primitives

/-! ## DataRows the column list or the model cannot take -/

section DataRow

variable {e : Env} {cn : Conn} {r : Bytes}

/-- A DataRow with more values than the column list: the values in range are scanned, then
`columns[colIdx]` panics at the first one past the end. -/
theorem readDataRow_wide (m : ModelRef) (columns : Columns) {pre post : List (Option Bytes)}
    {x : Option Bytes} (h : cn.rd = (Backend.dataRow (pre ++ x :: post)).payload ++ r)
    (hok : (Backend.dataRow (pre ++ x :: post)).ContentOk)
    (hfit : (Backend.dataRow (pre ++ x :: post)).payload.length < 2 ^ 31)
    (hw : pre.length = columns.len) :
    readDataRow m columns e cn =
      .stop (.panic (.index pre.length pre.length))
        { cn with rd := post.flatMap Backend.valueBytes ++ r,
                  log := (scanCalls e m columns 0 pre cn.log).1 } := by
  simp only [Backend.payload, List.length_append, putUint16_length, List.flatMap_append,
    List.flatMap_cons, List.length_cons] at h hfit
  have hn := readInt16_putUint16 (e := e)
    (r := pre.flatMap Backend.valueBytes ++ (Backend.valueBytes x ++ post.flatMap Backend.valueBytes) ++ r)
    (h.trans (by simp)) hok
  have hs := scanColumns_values (e := e)
    (r := Backend.valueBytes x ++ (post.flatMap Backend.valueBytes ++ r))
    m columns pre 0 none { cn with rd := pre.flatMap Backend.valueBytes ++
      (Backend.valueBytes x ++ post.flatMap Backend.valueBytes) ++ r } (by omega) (by omega) (by simp)
  have hx : readValue e
        { cn with rd := Backend.valueBytes x ++ (post.flatMap Backend.valueBytes ++ r),
                  log := (scanCalls e m columns 0 pre cn.log).1 } =
      .ok x { cn with rd := post.flatMap Backend.valueBytes ++ r,
                      log := (scanCalls e m columns 0 pre cn.log).1 } :=
    readValue_valueBytes rfl (by omega)
  have hrange : List.range ((pre ++ x :: post).length : Int).toNat =
      List.range' 0 pre.length ++ List.range' pre.length (post.length + 1) := by
    rw [Int.toNat_natCast, List.range_eq_range']
    simpa [Nat.add_comm] using (List.range'_append_1 0 pre.length (post.length + 1)).symm
  refine Go.tryCatch_panic ((Go.bind_ok hn).trans ?_)
  rw [hrange, scanColumns_append _ hs, List.range'_succ, scanColumns]
  exact (Go.bind_ok hx).trans ((Go.bind_stop (Columns.get_of_le hw.ge _ _)).trans (by rw [hw]))

/-- A DataRow with no model panics before reading. -/
theorem addDataRow_nilModel {v : DataVars} (hv : v.model = none) (columns : Columns) :
    addDataRow v columns e cn = .stop (.panic .nilModel) cn := by
  simp [addDataRow, hv]

/-- A DataRow wider than the columns panics at the first value past them. -/
theorem addDataRow_wide {v : DataVars} {m : ModelRef} (hv : v.model = some m) (columns : Columns)
    {pre post : List (Option Bytes)} {x : Option Bytes}
    (h : cn.rd = (Backend.dataRow (pre ++ x :: post)).payload ++ r)
    (hok : (Backend.dataRow (pre ++ x :: post)).ContentOk)
    (hfit : (Backend.dataRow (pre ++ x :: post)).payload.length < 2 ^ 31)
    (hw : pre.length = columns.len) :
    addDataRow v columns e cn =
      .stop (.panic (.index pre.length pre.length))
        { cn with rd := post.flatMap Backend.valueBytes ++ r,
                  log := (scanCalls e m columns 0 pre (.newRow m :: cn.log)).1 } := by
  have h' : ({ cn with log := .newRow m :: cn.log } : Conn).rd = _ := h
  simp only [addDataRow, hv]
  rw [Go.bind_ok (call_apply _ _ _)]
  exact Go.bind_stop (readDataRow_wide m columns h' hok hfit hw)

/-- `readSimpleQueryData` on a DataRow before any RowDescription panics. -/
theorem readSimpleQueryDataBody_nilModel (mod : Mod) {v : DataVars} (hv : v.model = none)
    (l : Int) : readSimpleQueryDataBody mod v dataRowMsg l e cn = .stop (.panic .nilModel) cn := by
  rw [readSimpleQueryDataBody, if_neg (by decide), if_pos rfl, Go.bind_ok Go.conn_apply]
  exact Go.bind_stop (addDataRow_nilModel hv _)

/-- `readSimpleQueryData` on a DataRow wider than the columns panics at the first value past them.
-/
theorem readSimpleQueryDataBody_wide (mod : Mod) {v : DataVars} {m : ModelRef}
    (hv : v.model = some m) {pre post : List (Option Bytes)} {x : Option Bytes}
    (hok : (Backend.dataRow (pre ++ x :: post)).ContentOk)
    (hfit : (Backend.dataRow (pre ++ x :: post)).payload.length < 2 ^ 31)
    (hw : pre.length = cn.columns.len) (l : Int) :
    readSimpleQueryDataBody mod v dataRowMsg l e
        { cn with rd := (Backend.dataRow (pre ++ x :: post)).payload ++ r } =
      .stop (.panic (.index pre.length pre.length))
        { cn with rd := post.flatMap Backend.valueBytes ++ r,
                  log := (scanCalls e m cn.columns 0 pre (.newRow m :: cn.log)).1 } := by
  have h : ({ cn with rd := (Backend.dataRow (pre ++ x :: post)).payload ++ r } : Conn).rd =
    (Backend.dataRow (pre ++ x :: post)).payload ++ r := rfl
  rw [readSimpleQueryDataBody, if_neg (by decide), if_pos rfl, Go.bind_ok Go.conn_apply]
  exact Go.bind_stop (addDataRow_wide hv _ h hok hfit hw)

/-- After `ensureModel` there is a model. -/
theorem ensureModelRun_some (env : Env) (mod : Mod) (model : Option ModelRef) (log : List Call) :
    ∃ m, (ensureModelRun env mod model log).1 = some m := by
  cases model <;> simp [ensureModelRun]

/-- `readExtQueryData` on a DataRow wider than the columns it was given panics at the first value
past them. -/
theorem readExtQueryDataBody_wide (mod : Mod) (columns : Columns) (v : DataVars)
    {pre post : List (Option Bytes)} {x : Option Bytes}
    (hok : (Backend.dataRow (pre ++ x :: post)).ContentOk)
    (hfit : (Backend.dataRow (pre ++ x :: post)).payload.length < 2 ^ 31)
    (hw : pre.length = columns.len) (l : Int) :
    ∃ cn', readExtQueryDataBody mod columns v dataRowMsg l e
        { cn with rd := (Backend.dataRow (pre ++ x :: post)).payload ++ r } =
      .stop (.panic (.index pre.length pre.length)) cn' := by
  have h : ({ cn with rd := (Backend.dataRow (pre ++ x :: post)).payload ++ r } : Conn).rd =
    (Backend.dataRow (pre ++ x :: post)).payload ++ r := rfl
  obtain ⟨m, hm⟩ := ensureModelRun_some e mod v.model cn.log
  rw [readExtQueryDataBody, if_neg (by decide), if_pos rfl, Go.bind_ok (ensureModel_run mod v)]
  exact ⟨_, Go.bind_stop (addDataRow_wide hm columns h hok hfit hw)⟩

/-- `sideChannel` goes round only with the loop variable it was given. -/
theorem sideChannel_next {σ α : Type} {reader : String} {s s' : σ} {c : UInt8} {l : Int}
    {cn' : Conn} (h : (sideChannel reader s c l : Go (Step σ α)) e cn = .ok (.next s') cn') :
    s' = s := by
  unfold sideChannel at h
  split at h
  · obtain ⟨_, _, _, h⟩ := Go.bind_eq_ok h; cases h; rfl
  split at h
  · obtain ⟨_, _, _, h⟩ := Go.bind_eq_ok h; cases h; rfl
  · exact absurd h Go.throw_ne_ok

/-- In `readSimpleQueryData`, a pass over anything but a RowDescription leaves the model
absent. -/
theorem dataTail_next_model {reader : String} {v v' : DataVars} {c : UInt8} {l : Int} {cn' : Conn}
    (h : dataTail reader v c l e cn = .ok (.next v') cn') : v'.model = v.model := by
  unfold dataTail at h
  split at h
  · -- CommandComplete
    obtain ⟨_, _, _, h⟩ := Go.bind_eq_ok h; cases h; rfl
  split at h
  · -- ReadyForQuery ends the loop
    obtain ⟨_, _, _, h⟩ := Go.bind_eq_ok h; cases h
  split at h
  · -- ErrorResponse
    obtain ⟨_, _, _, h⟩ := Go.bind_eq_ok h; cases h; rfl
  · rw [sideChannel_next h]

/-- A pass of `readSimpleQueryData` on any type but RowDescription makes no model. -/
theorem readSimpleQueryDataBody_model {mod : Mod} {v v' : DataVars} {c : UInt8} {l : Int}
    {cn' : Conn} (hc : c ≠ rowDescriptionMsg) (hv : v.model = none)
    (h : readSimpleQueryDataBody mod v c l e cn = .ok (.next v') cn') : v'.model = none := by
  rw [readSimpleQueryDataBody, if_neg hc] at h
  split at h
  · rw [Go.bind_ok Go.conn_apply, Go.bind_stop (addDataRow_nilModel hv _)] at h
    cases h
  · exact (dataTail_next_model h).trans hv

end DataRow

/-- Before any RowDescription, the loop of `readSimpleQueryData` keeps the model absent. -/
theorem Passes.model_none {e : Env} {mod : Mod} {v v' : DataVars} {cn cn' : Conn}
    {ms : List Backend} (hp : Passes (readSimpleQueryDataBody mod) e v cn ms v' cn')
    (hms : ∀ m ∈ ms, m.tag ≠ rowDescriptionMsg) (hv : v.model = none) : v'.model = none := by
  induction hp with
  | nil => exact hv
  | cons _ hb _ ih =>
    exact ih (fun m hm => hms m (List.mem_cons_of_mem _ hm))
      (readSimpleQueryDataBody_model (hms _ (List.mem_cons_self _ _)) hv (hb []))

/-- On a DataRow it cannot take, each data reader panics: `readSimpleQueryData` on a DataRow
before any RowDescription, and all three on a DataRow with more values than the column list
they decode it against, `cn.Columns` or the `columns` argument. -/
theorem dataReaders_panic (e : Env) (cn : Conn) (ms : List Backend) (rest : Bytes) :
    (∀ (vals : List (Option Bytes)) (mod : Mod) (v : DataVars) (cn' : Conn),
      (Backend.dataRow vals).WellFormed →
      Passes (readSimpleQueryDataBody mod) e ⟨0, none, none, none⟩ cn ms v cn' →
      (∀ m ∈ ms, m.tag ≠ rowDescriptionMsg) →
      readSimpleQueryData mod e { cn with rd := stream ms ++ (Backend.dataRow vals).bytes ++ rest } =
        .stop (.panic .nilModel) { cn' with rd := (Backend.dataRow vals).payload ++ rest }) ∧
    ∀ (pre : List (Option Bytes)) (x : Option Bytes) (post : List (Option Bytes)),
      (Backend.dataRow (pre ++ x :: post)).WellFormed →
      (∀ (m : ModelRef) (columns : Columns), pre.length = columns.len →
        readDataRow m columns e
            { cn with rd := (Backend.dataRow (pre ++ x :: post)).payload ++ rest } =
          .stop (.panic (.index pre.length pre.length))
            { cn with rd := post.flatMap Backend.valueBytes ++ rest,
                      log := (scanCalls e m columns 0 pre cn.log).1 }) ∧
      (∀ (mod : Mod) (v : DataVars) (cn' : Conn) (m : ModelRef),
        Passes (readSimpleQueryDataBody mod) e ⟨0, none, none, none⟩ cn ms v cn' →
        v.model = some m → pre.length = cn'.columns.len →
        readSimpleQueryData mod e
            { cn with rd := stream ms ++ (Backend.dataRow (pre ++ x :: post)).bytes ++ rest } =
          .stop (.panic (.index pre.length pre.length))
            { cn' with rd := post.flatMap Backend.valueBytes ++ rest,
                       log := (scanCalls e m cn'.columns 0 pre (.newRow m :: cn'.log)).1 }) ∧
      (∀ (mod : Mod) (columns : Columns) (v : DataVars) (cn' : Conn),
        Passes (readExtQueryDataBody mod columns) e ⟨0, none, none, none⟩ cn ms v cn' →
        pre.length = columns.len →
        ∃ cn'', readExtQueryData mod columns e
            { cn with rd := stream ms ++ (Backend.dataRow (pre ++ x :: post)).bytes ++ rest } =
          .stop (.panic (.index pre.length pre.length)) cn'') := by
  refine ⟨fun vals mod v cn' hok hp hms =>
    hp.runReader hok.fits (readSimpleQueryDataBody_nilModel mod (hp.model_none hms rfl) _) rfl,
    fun pre x post hok => ?_⟩
  have hfit : (Backend.dataRow (pre ++ x :: post)).payload.length < 2 ^ 31 := by
    have := hok.fits; omega
  refine ⟨fun m columns hw => readDataRow_wide m columns rfl hok.content hfit hw,
    fun mod v cn' m hp hv hw =>
      hp.runReader hok.fits (readSimpleQueryDataBody_wide mod hv hok.content hfit hw _) rfl,
    fun mod columns v cn' hp hw => ?_⟩
  obtain ⟨cn'', hb⟩ := readExtQueryDataBody_wide mod columns v hok.content hfit hw _
  exact ⟨cn'', hp.runReader hok.fits hb rfl⟩

/-- A DataRow as the first message of a simple query's response. -/
theorem readSimpleQueryData_dataRow_first :
    readSimpleQueryData .model Env.succeeding
        (Conn.ofInput ((Backend.dataRow [some [49]]).bytes ++ (Backend.other readyForQueryMsg [73]).bytes)) =
      .stop (.panic .nilModel)
        (Conn.ofInput ((Backend.dataRow [some [49]]).payload ++ (Backend.other readyForQueryMsg [73]).bytes)) :=
  (dataReaders_panic Env.succeeding (Conn.ofInput []) [] _).1 [some [49]] .model _ _ (by decide)
    (.nil _ _) (by simp)

/-! ## Negative counts from the wire -/

section Counts

variable {e : Env} {cn : Conn} {r : Bytes}

/-- Every case of a query reader that reads or drops the payload does so with the length
field less four, negative or not. -/
theorem queryBody_neg {reader : String} {skip : UInt8} (hs : SkipTag skip) (v : QueryVars)
    {c : UInt8} {n : Int} (hn : n < 0)
    (hc : c ∈ [skip, dataRowMsg, commandCompleteMsg, readyForQueryMsg, noticeResponseMsg,
      parameterStatusMsg]) :
    queryBody reader skip v c n e cn = .stop (.panic (.readN n)) cn := by
  simp only [List.mem_cons, List.not_mem_nil, or_false] at hc
  rcases hc with rfl | rfl | rfl | rfl | rfl | rfl
  · rw [queryBody, if_pos rfl]
    exact Go.bind_stop (discardN_neg hn)
  · rw [queryBody, if_neg hs.dataRow, if_pos rfl]
    exact Go.bind_stop (discardN_neg hn)
  · rw [queryBody, if_neg hs.commandComplete, if_neg (by decide), if_pos rfl]
    exact Go.bind_stop (readN_neg hn)
  · rw [queryBody, if_neg hs.readyForQuery, if_neg (by decide), if_neg (by decide), if_pos rfl]
    exact Go.bind_stop (discardN_neg hn)
  · rw [queryBody, if_neg hs.notice, if_neg (by decide), if_neg (by decide), if_neg (by decide),
      if_neg (by decide), sideChannel, if_pos rfl]
    exact Go.bind_stop (discardN_neg hn)
  · rw [queryBody, if_neg hs.parameterStatus, if_neg (by decide), if_neg (by decide),
      if_neg (by decide), if_neg (by decide), sideChannel, if_neg (by decide), if_pos rfl]
    exact Go.bind_stop (discardN_neg hn)

/-- `startup` panics on a ParameterStatus or ReadyForQuery whose length field is below 4. -/
theorem startupBody_neg {user password : Bytes} {c : UInt8} {n : Int} (hn : n < 0)
    (hc : c = parameterStatusMsg ∨ c = readyForQueryMsg) :
    startupBody user password () c n e cn = .stop (.panic (.readN n)) cn := by
  rcases hc with rfl | rfl
  · rw [startupBody, if_neg (by decide), if_pos rfl]
    exact Go.bind_stop (discardN_neg hn)
  · rw [startupBody, if_neg (by decide), if_neg (by decide), if_neg (by decide), if_pos rfl]
    exact Go.bind_stop (discardN_neg hn)

/-- A DataRow field whose length is below `-1` is read with `ReadN` of that length. -/
theorem readValue_neg {b : Bytes} (hb : b.length = 4) (h : cn.rd = b ++ r)
    (hl : toInt32 (beUint b) < -1) :
    readValue e cn = .stop (.panic (.readN (toInt32 (beUint b)))) { cn with rd := r } := by
  rw [readValue, Go.bind_ok (readInt32_append hb h), if_pos (by omega)]
  exact Go.map_stop (readN_neg (by omega))

end Counts

/-- Lengths and counts from the wire reach `ReadN` and `setByteSliceLen` unchecked, and a
negative one panics: a length field below 4 in a query reader and in `startup`, a SASLFinal or
SASLContinue shorter than its code, a DataRow field length below `-1`, and a RowDescription
count with its top bit set. With the zero mechanism the exchange panics before SASLContinue is
read, at the negotiator's first step. -/
theorem negativeCounts_panic (e : Env) (cn : Conn) (len rest : Bytes) (hlen : len.length = 4) :
    (toInt32 (beUint len) < 4 →
      (∀ c ∈ [rowDescriptionMsg, dataRowMsg, commandCompleteMsg, readyForQueryMsg,
          noticeResponseMsg, parameterStatusMsg],
        readSimpleQuery e { cn with rd := c :: len ++ rest } =
          .stop (.panic (.readN (toInt32 (beUint len) - 4))) { cn with rd := rest }) ∧
      (∀ (user password database : Bytes) (c : UInt8),
        c = parameterStatusMsg ∨ c = readyForQueryMsg →
        e.answer cn.log (.send (writeStartupMsg cn.wr user database).bytes) = none →
        startup user password database e { cn with rd := c :: len ++ rest } =
          .stop (.panic (.readN (toInt32 (beUint len) - 4)))
            { cn with rd := rest, wr := WriteBuffer.empty,
                      log := .send (writeStartupMsg cn.wr user database).bytes :: cn.log })) ∧
    (toInt32 (beUint len) < 8 →
      (∀ mech : Bytes,
        readAuthSASLFinal mech e
            { cn with rd := authenticationSASLFinalMsg :: len ++ putUint32 12 ++ rest } =
          .stop (.panic (.readN (toInt32 (beUint len) - 4 - 4))) { cn with rd := rest }) ∧
      (∀ mech : Bytes, (∀ log, e.err log = none) →
        ∃ cn', saslExchange mech e
            { cn with rd := authenticationSASLContinueMsg :: len ++ putUint32 11 ++ rest } =
          .stop (.panic (if mech = [] then .nilFunc else .readN (toInt32 (beUint len) - 4 - 4))) cn')) ∧
    (toInt32 (beUint len) < -1 →
      ∀ (m : ModelRef) (columns : Columns) (n : Nat), 0 < n → n < 2 ^ 15 →
        readDataRow m columns e { cn with rd := putUint16 n ++ len ++ rest } =
          .stop (.panic (.readN (toInt32 (beUint len)))) { cn with rd := rest }) ∧
    (∀ (columns : Columns) (k : Nat), 2 ^ 15 ≤ k → k < 2 ^ 16 →
      readRowDescription columns e { cn with rd := putUint16 k ++ rest } =
        .stop (.panic (.slice (toInt16 k))) { cn with rd := rest }) := by
  refine ⟨fun hl => ⟨fun c hc => ?_, fun user password database c hc he => ?_⟩,
    fun hl => ⟨fun mech => ?_, fun mech he => ?_⟩, fun hl m columns n hn hn' => ?_,
    fun columns k hk hk' => ?_⟩
  · -- a query reader
    exact runReader_first_stop hlen rfl (queryBody_neg skipTag_rowDescription _ (by omega) hc)
  · -- startup
    rw [startup, Go.bind_ok (modifyWr_apply _ _ _), Go.bind_ok (@flushWriter_ok e
      { cn with rd := c :: len ++ rest, wr := writeStartupMsg cn.wr user database } he)]
    exact runReader_first_stop hlen rfl (startupBody_neg (by omega) hc)
  · -- SASLFinal
    rw [List.append_assoc, readAuthSASLFinal, Go.bind_ok (readMessageType_header hlen rfl)]
    dsimp only
    rw [if_pos rfl, Go.bind_ok (readInt32_putUint32 rfl (by decide)), if_neg (by decide),
      Go.pure_bind]
    exact Go.bind_stop (readN_neg (by omega))
  · -- SASLContinue, after the first step, which panics with the zero mechanism
    by_cases hm : mech = []
    · subst hm
      exact ⟨_, rfl⟩
    have ha : ∀ log k, e.answer log k = none := fun log k => by simp [Env.answer, he]
    rw [List.append_assoc, if_neg hm]
    exact ⟨_, by
      rw [saslExchange, Go.bind_ok (saslStep_ok hm (ha _ _)), Go.bind_ok (modifyWr_apply _ _ _),
        Go.bind_ok (flushWriter_ok (ha _ _)), Go.bind_ok (readMessageType_header hlen rfl)]
      dsimp only
      rw [if_pos rfl, Go.bind_ok (readInt32_putUint32 rfl (by decide)), if_neg (by decide),
        Go.pure_bind]
      exact Go.bind_stop (readN_neg (by omega))⟩
  · -- a DataRow field
    obtain ⟨n, rfl⟩ : ∃ n', n = n' + 1 := ⟨n - 1, by omega⟩
    refine Go.tryCatch_panic ((Go.bind_ok (readInt16_putUint16 (r := len ++ rest) rfl hn')).trans ?_)
    rw [Int.toNat_natCast, List.range_eq_range', List.range'_succ, scanColumns]
    exact Go.bind_stop (readValue_neg hlen rfl hl)
  · -- a RowDescription count
    have hk16 : toInt16 (beUint (putUint16 k)) = toInt16 k := by
      rw [beUint_putUint16, Nat.mod_eq_of_lt hk']
    rw [readRowDescription, Go.bind_ok (readInt16_append (putUint16_length k) rfl), hk16]
    exact Go.bind_stop (setByteSliceLen_neg _ (by simp only [toInt16]; split <;> omega))

/-- A CommandComplete whose length field is 3. -/
theorem readSimpleQuery_shortLength :
    readSimpleQuery Env.succeeding (Conn.ofInput (commandCompleteMsg :: putUint32 3)) =
      .stop (.panic (.readN (-1))) (Conn.ofInput []) :=
  (negativeCounts_panic Env.succeeding (Conn.ofInput []) (putUint32 3) [] rfl).1 (by decide)
    |>.1 _ (by simp)

end GoPg
