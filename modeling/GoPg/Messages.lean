import GoPg.Readers

/-!
# Well-formed backend messages

The messages a server sends, with the content the readers decode from them: the fields
of an ErrorResponse, the names and metadata of a RowDescription, the values of a DataRow
and the parts of a NotificationResponse. Every other message is kept as its type and
payload. `Backend.payload` lays the content out as the protocol does, and a message is
well formed when its content can be laid out that way and its length fits the length
field.

The lemmas at the end say what `readError`, `readRowDescription` and `readDataRow` return
on a well-formed payload followed by anything: they consume exactly the payload.
-/

namespace GoPg

/-- A backend message, with the content a reader decodes from it. -/
inductive Backend
  /-- ErrorResponse: the field codes and values. -/
  | errorResponse (fields : List (UInt8 × Bytes))
  /-- RowDescription: each field's name and its 18 bytes of metadata. -/
  | rowDescription (fields : List (Bytes × Bytes))
  /-- DataRow: each value, `none` for `NULL`. -/
  | dataRow (values : List (Option Bytes))
  /-- NotificationResponse: the notifying process, the channel and the payload. -/
  | notificationResponse (pid : Int) (channel payload : Bytes)
  /-- Any other message: its type and its payload. -/
  | other (tag : UInt8) (payload : Bytes)
  deriving DecidableEq, Repr

namespace Backend

/-- The message type. -/
def tag : Backend → UInt8
  | errorResponse _ => errorResponseMsg
  | rowDescription _ => rowDescriptionMsg
  | dataRow _ => dataRowMsg
  | notificationResponse .. => notificationResponseMsg
  | other t _ => t

/-- One DataRow value on the wire: its length, `-1` for `NULL`, then its bytes. -/
def valueBytes : Option Bytes → Bytes
  | none => putUint32 (uint32 (-1))
  | some b => putUint32 b.length ++ b

/-- The payload, laid out as the protocol does. -/
def payload : Backend → Bytes
  | errorResponse fields => fields.flatMap (fun f => f.1 :: cstr f.2) ++ [0]
  | rowDescription fields =>
    putUint16 fields.length ++ fields.flatMap fun f => cstr f.1 ++ f.2
  | dataRow values => putUint16 values.length ++ values.flatMap valueBytes
  | notificationResponse pid channel payload => putUint32 (uint32 pid) ++ cstr channel ++ cstr payload
  | other _ p => p

/-- The message on the wire. -/
def bytes (m : Backend) : Bytes := frame m.tag m.payload

/-- The content can be laid out as the protocol does: codes other than zero and strings
without NUL, counts that fit sixteen signed bits, 18 bytes of metadata a field. -/
def ContentOk : Backend → Prop
  | errorResponse fields => ∀ f ∈ fields, f.1 ≠ 0 ∧ 0 ∉ f.2
  | rowDescription fields => fields.length < 2 ^ 15 ∧ ∀ f ∈ fields, 0 ∉ f.1 ∧ f.2.length = 18
  | dataRow values => values.length < 2 ^ 15
  | notificationResponse pid channel payload =>
    -2 ^ 31 ≤ pid ∧ pid < 2 ^ 31 ∧ 0 ∉ channel ∧ 0 ∉ payload
  | other t _ =>
    t ≠ errorResponseMsg ∧ t ≠ rowDescriptionMsg ∧ t ≠ dataRowMsg ∧ t ≠ notificationResponseMsg

/-- A well-formed message: its content is laid out as the protocol does, and its length
fits the length field. -/
structure WellFormed (m : Backend) : Prop where
  content : m.ContentOk
  fits : m.payload.length + 4 < 2 ^ 31

/-- Whether a message's content is laid out as the protocol does is decided. -/
instance (m : Backend) : Decidable m.ContentOk :=
  match m with
  | errorResponse fields => inferInstanceAs (Decidable (∀ f ∈ fields, f.1 ≠ 0 ∧ 0 ∉ f.2))
  | rowDescription fields =>
    inferInstanceAs (Decidable (fields.length < 2 ^ 15 ∧ ∀ f ∈ fields, 0 ∉ f.1 ∧ f.2.length = 18))
  | dataRow values => inferInstanceAs (Decidable (values.length < 2 ^ 15))
  | notificationResponse pid channel payload =>
    inferInstanceAs (Decidable (-2 ^ 31 ≤ pid ∧ pid < 2 ^ 31 ∧ 0 ∉ channel ∧ 0 ∉ payload))
  | other t _ => inferInstanceAs (Decidable
      (t ≠ errorResponseMsg ∧ t ≠ rowDescriptionMsg ∧ t ≠ dataRowMsg ∧ t ≠ notificationResponseMsg))

/-- Whether a message is well formed is decided. -/
instance (m : Backend) : Decidable m.WellFormed :=
  decidable_of_iff (m.ContentOk ∧ m.payload.length + 4 < 2 ^ 31)
    ⟨fun h => ⟨h.1, h.2⟩, fun h => ⟨h.content, h.fits⟩⟩

end Backend

/-- A stream of messages. -/
def stream (ms : List Backend) : Bytes := ms.flatMap Backend.bytes

/-- No messages are no bytes. -/
@[simp] theorem stream_nil : stream [] = [] := rfl

/-- A message's bytes, then the others'. -/
@[simp] theorem stream_cons (m : Backend) (ms : List Backend) :
    stream (m :: ms) = m.bytes ++ stream ms := rfl

/-- Two stretches of messages, one after the other. -/
theorem stream_append (ms ms' : List Backend) : stream (ms ++ ms') = stream ms ++ stream ms' :=
  List.flatMap_append ..

section Decoders

variable {e : Env} {cn : Conn} {r : Bytes}

/-- `readMessageType` returns a message's type and its payload's length. -/
theorem readMessageType_bytes {m : Backend} (h : cn.rd = m.bytes ++ r)
    (hm : m.payload.length + 4 < 2 ^ 31) :
    readMessageType e cn = .ok (m.tag, m.payload.length) { cn with rd := m.payload ++ r } :=
  readMessageType_frame h hm

/-- A list is no longer than its layout when every element takes a byte. -/
theorem length_le_length_flatMap {α : Type} (l : List α) (f : α → Bytes) (hf : ∀ a, f a ≠ []) :
    l.length ≤ (l.flatMap f).length := by
  induction l with
  | nil => simp
  | cons a l ih =>
    have := List.length_pos.mpr (hf a)
    simp only [List.flatMap_cons, List.length_append, List.length_cons]
    omega

/-- The loop of `readError` reads the fields, each consed onto the map. -/
theorem readErrorFields_fields :
    ∀ (fields m : List (UInt8 × Bytes)) (fuel : Nat) (cn : Conn),
      (∀ f ∈ fields, f.1 ≠ 0 ∧ 0 ∉ f.2) → fields.length < fuel →
      cn.rd = fields.flatMap (fun f => f.1 :: cstr f.2) ++ 0 :: r →
      readErrorFields fuel m e cn = .ok (fields.reverse ++ m) { cn with rd := r } := by
  intro fields
  induction fields with
  | nil =>
    intro m fuel cn _ hf h
    obtain ⟨fuel, rfl⟩ : ∃ k, fuel = k + 1 := ⟨fuel - 1, by simp at hf; omega⟩
    simp [readErrorFields, Go.bind_ok (readByte_cons (b := 0) (r := r) (h.trans (by simp)))]
  | cons f fields ih =>
    intro m fuel cn hok hf h
    obtain ⟨fuel, rfl⟩ : ∃ k, fuel = k + 1 := ⟨fuel - 1, by simp at hf; omega⟩
    have hf₁ := hok f (by simp)
    let rest := fields.flatMap (fun f => f.1 :: cstr f.2) ++ 0 :: r
    have hc := readByte_cons (e := e) (b := f.1) (r := cstr f.2 ++ rest) (h.trans (by simp [rest]))
    have hs : readString e { cn with rd := cstr f.2 ++ rest } = _ := readString_cstr rfl hf₁.2
    rw [readErrorFields, Go.bind_ok hc]
    simp only [hf₁.1, if_false]
    rw [Go.bind_ok hs]
    exact ih ((f.1, f.2) :: m) fuel { cn with rd := rest } (fun g hg => hok g (by simp [hg]))
      (by simp at hf; omega) rfl |>.trans (by simp)

/-- The error `readError` builds from the fields of an ErrorResponse. -/
def errorOf (remoteAddr : Bytes) (fields : List (UInt8 × Bytes)) : Err :=
  .pg (fields.reverse ++ [('a'.toUInt8, remoteAddr)])

/-- `readError` on an ErrorResponse returns its fields, in reverse, with the connection's address
after them. -/
theorem readError_errorResponse {fields : List (UInt8 × Bytes)}
    (h : cn.rd = (Backend.errorResponse fields).payload ++ r) (hok : ∀ f ∈ fields, f.1 ≠ 0 ∧ 0 ∉ f.2) :
    readError e cn = .ok (errorOf cn.remoteAddr fields) { cn with rd := r } := by
  have hlen : fields.length < cn.rd.length + 1 := by
    have := length_le_length_flatMap fields (fun f => f.1 :: cstr f.2) (by simp)
    simp only [h, Backend.payload, List.length_append]
    omega
  have hloop := readErrorFields_fields (e := e) (r := r) fields [('a'.toUInt8, cn.remoteAddr)]
    (cn.rd.length + 1) cn hok hlen (h.trans (by simp [Backend.payload]))
  rw [readError, Go.bind_ok Go.conn_apply, Go.bind_ok ((Go.byStream_apply _).trans hloop)]
  rfl

/-- The loop of `readRowDescription` sets one name a field and drops its metadata. -/
theorem readColumnNames_fields :
    ∀ (fields : List (Bytes × Bytes)) (c : Columns) (i : Nat) (cn : Conn),
      (∀ f ∈ fields, 0 ∉ f.1 ∧ f.2.length = 18) →
      cn.rd = fields.flatMap (fun f => cstr f.1 ++ f.2) ++ r →
      readColumnNames c (List.range' i fields.length) e cn =
        .ok (c.setFrom i (fields.map Prod.fst)) { cn with rd := r } := by
  intro fields
  induction fields with
  | nil =>
    intro c i cn _ h
    rw [← Conn.eq_with_rd (h.trans (List.nil_append r))]
    rfl
  | cons f fields ih =>
    intro c i cn hok h
    have hf := hok f (by simp)
    let rest := fields.flatMap (fun f => cstr f.1 ++ f.2) ++ r
    have hb := readBytes_cstr (e := e) (b := []) (r := f.2 ++ rest) (h.trans (by simp [rest])) hf.1
    have hm : readN 18 e { cn with rd := f.2 ++ rest } = _ := readN_append rfl (by simp [hf.2])
    rw [List.length_cons, List.range'_succ, readColumnNames, Go.bind_ok hb]
    simp only [List.nil_append]
    rw [Go.bind_ok hm]
    exact ih _ (i + 1) { cn with rd := rest } (fun g hg => hok g (by simp [hg])) rfl |>.trans rfl

/-- `readRowDescription` on a RowDescription sets the columns to its field names. -/
theorem readRowDescription_rowDescription {fields : List (Bytes × Bytes)} (c : Columns)
    (h : cn.rd = (Backend.rowDescription fields).payload ++ r)
    (hok : (Backend.rowDescription fields).ContentOk) :
    readRowDescription c e cn =
      .ok ((c.resize fields.length).setFrom 0 (fields.map Prod.fst)) { cn with rd := r } := by
  have hn := readInt16_putUint16 (e := e) (r := fields.flatMap (fun f => cstr f.1 ++ f.2) ++ r)
    (h.trans (by simp [Backend.payload])) hok.1
  have hl := readColumnNames_fields (e := e) (r := r) fields (c.resize fields.length) 0
    { cn with rd := fields.flatMap (fun f => cstr f.1 ++ f.2) ++ r } hok.2 rfl
  rw [readRowDescription, Go.bind_ok hn, Go.bind_ok (by rw [setByteSliceLen_ofNat]; rfl)]
  simpa [List.range_eq_range'] using hl

/-- Whatever slice it reuses (any length, capacity and entries), `readRowDescription` returns one
entry a field, each exactly that field's name, and consumes exactly the payload. -/
theorem readRowDescription_names (c : Columns) {fields : List (Bytes × Bytes)}
    (h : cn.rd = (Backend.rowDescription fields).payload ++ r)
    (hok : (Backend.rowDescription fields).ContentOk) :
    ∃ c', readRowDescription c e cn = .ok c' { cn with rd := r } ∧
      c'.len = fields.length ∧ c'.toList = fields.map Prod.fst := by
  refine ⟨_, readRowDescription_rowDescription c h hok, by simp, ?_⟩
  simpa using Columns.toList_setFrom_resize c (fields.map Prod.fst)

/-- A description of two short names read into a slice that held longer ones. -/
theorem readRowDescription_overwrites :
    (Conn.ofInput ((Backend.rowDescription [([97], List.replicate 18 0), ([98], List.replicate 18 0)]).payload
        ++ [90])).rd =
      (Backend.rowDescription [([97], List.replicate 18 0), ([98], List.replicate 18 0)]).payload ++ [90] ∧
    (Backend.rowDescription [([97], List.replicate 18 0), ([98], List.replicate 18 0)]).ContentOk ∧
    ∃ c', readRowDescription ⟨[[1, 2, 3, 4], [5, 6], [7]], 1, by decide⟩ Env.succeeding
        (Conn.ofInput ((Backend.rowDescription
          [([97], List.replicate 18 0), ([98], List.replicate 18 0)]).payload ++ [90])) =
        .ok c' (Conn.ofInput [90]) ∧ c'.len = 2 ∧ c'.toList = [[97], [98]] :=
  ⟨rfl, by decide, readRowDescription_names _ rfl (by decide :
    (Backend.rowDescription [([97], List.replicate 18 0), ([98], List.replicate 18 0)]).ContentOk)⟩

/-- The calls `readDataRow` makes on row targets of `m` for the values of columns `i`, `i + 1`,
…, each answered after the calls before it: the log after them, and every error returned, in
order. -/
def scanCalls (env : Env) (m : ModelRef) (columns : Columns) :
    Nat → List (Option Bytes) → List Call → List Call × List Err
  | _, [], log => (log, [])
  | i, v :: vs, log =>
    let k := Call.scanColumn m i (columns.arr.getD i []) v
    let rest := scanCalls env m columns (i + 1) vs (k :: log)
    (rest.1, (env.answer log k).toList ++ rest.2)

/-- The `ScanColumn` calls for the values of columns `i`, `i + 1`, …, in order: each with the
column's index, its name and the value (`nil` for `NULL`). -/
def scanColumnCalls (m : ModelRef) (columns : Columns) : Nat → List (Option Bytes) → List Call
  | _, [] => []
  | i, v :: vs => .scanColumn m i (columns.arr.getD i []) v :: scanColumnCalls m columns (i + 1) vs

/-- The error of the first of `calls` that fails, each answered after the calls before it. -/
def Env.firstError (env : Env) (log : List Call) : List Call → Option Err
  | [] => none
  | k :: ks => (env.answer log k).or (env.firstError (k :: log) ks)

/-- The first of an optional value is the value. -/
@[simp] theorem head?_optionToList {α : Type} (o : Option α) : o.toList.head? = o := by
  cases o <;> rfl

/-- The first failure of two runs of calls: of the first run, or else of the second, answered
after the first. -/
theorem Env.firstError_append (env : Env) (cs ds : List Call) :
    ∀ log, env.firstError log (cs ++ ds) =
      (env.firstError log cs).or (env.firstError (cs.reverse ++ log) ds) := by
  induction cs with
  | nil => intro log; rfl
  | cons k cs ih =>
    intro log
    rw [List.cons_append, Env.firstError, Env.firstError, ih, Option.or_assoc, List.reverse_cons,
      List.append_assoc, List.singleton_append]

/-- `scanCalls` makes the calls of `scanColumnCalls`, in order, and collects their errors. -/
theorem scanCalls_eq (env : Env) (m : ModelRef) (columns : Columns) :
    ∀ (vals : List (Option Bytes)) (i : Nat) (log : List Call),
      (scanCalls env m columns i vals log).1 = (scanColumnCalls m columns i vals).reverse ++ log ∧
      (scanCalls env m columns i vals log).2.head? =
        env.firstError log (scanColumnCalls m columns i vals) := by
  intro vals
  induction vals with
  | nil => intro i log; exact ⟨rfl, rfl⟩
  | cons v vs ih =>
    intro i log
    obtain ⟨h₁, h₂⟩ := ih (i + 1) (.scanColumn m i (columns.arr.getD i []) v :: log)
    exact ⟨by simp only [scanCalls, scanColumnCalls, List.reverse_cons, List.append_assoc,
        List.singleton_append, h₁],
      by simp only [scanCalls, scanColumnCalls, Env.firstError, List.head?_append, head?_optionToList, h₂]⟩

/-- One field reads back: `NULL`, or a value whose length fits the signed length field. -/
theorem readValue_value {v : Option Bytes} (h : cn.rd = Backend.valueBytes v ++ r)
    (hv : ∀ b, v = some b → b.length < 2 ^ 31) : readValue e cn = .ok v { cn with rd := r } := by
  cases v with
  | none =>
    rw [readValue, Go.bind_ok (readInt32_uint32 (v := -1) h (by decide) (by decide))]
    simp
  | some b =>
    have hb := hv b rfl
    simp only [Backend.valueBytes, List.append_assoc] at h
    rw [readValue, Go.bind_ok (readInt32_putUint32 (n := b.length) (r := b ++ r) h hb)]
    have : (b.length : Int) ≠ -1 := by omega
    simp only [this, ne_eq, not_false_eq_true, if_true]
    exact Go.map_ok (readN_append (r := r) rfl rfl)

/-- A DataRow value is read back as it was laid out, `NULL` included. -/
theorem readValue_valueBytes {v : Option Bytes} (h : cn.rd = Backend.valueBytes v ++ r)
    (hv : (Backend.valueBytes v).length < 2 ^ 31) : readValue e cn = .ok v { cn with rd := r } :=
  readValue_value h fun b hb => by subst hb; simp [Backend.valueBytes] at hv; omega

/-- `setErrIf` keeps the first of the errors. -/
theorem setErrIf_eq_head (retErr err : Option Err) :
    setErrIf retErr err = (retErr.toList ++ err.toList).head? := by
  cases retErr <;> cases err <;> rfl

/-- The loop of `readDataRow` scans every value and keeps the first error, a failed scan
included: every field is read whatever the scanner answers. -/
theorem scanColumns_fields (m : ModelRef) (columns : Columns) :
    ∀ (vals : List (Option Bytes)) (i : Nat) (retErr : Option Err) (cn : Conn),
      i + vals.length ≤ columns.len → (∀ b, some b ∈ vals → b.length < 2 ^ 31) →
      cn.rd = vals.flatMap Backend.valueBytes ++ r →
      scanColumns m columns (List.range' i vals.length) retErr e cn =
        .ok (retErr.toList ++ (scanCalls e m columns i vals cn.log).2).head?
          { cn with rd := r, log := (scanCalls e m columns i vals cn.log).1 } := by
  intro vals
  induction vals with
  | nil =>
    intro i retErr cn _ _ h
    cases retErr <;> exact congrArg _ (Conn.eq_with_rd (h.trans (List.nil_append r)))
  | cons v vals ih =>
    intro i retErr cn hw hl h
    simp only [List.flatMap_cons, List.length_cons] at hw h
    have hv := readValue_value (e := e) (v := v) (r := vals.flatMap Backend.valueBytes ++ r)
      (h.trans (by simp)) fun b hb => hl b (by simp [hb])
    rw [List.length_cons, List.range'_succ, scanColumns, Go.bind_ok hv,
      Go.bind_ok (Columns.get_of_lt (by omega) _ _), Go.bind_ok (call_apply _ _ _)]
    rw [ih (i + 1) _ _ (by omega) (fun b hb => hl b (by simp [hb])) rfl]
    simp [scanCalls, setErrIf_eq_head, Option.or_assoc]

/-- A value is no longer than the layout of the values it is among. -/
theorem length_lt_of_valueBytes {vals : List (Option Bytes)}
    (hfit : (vals.flatMap Backend.valueBytes).length < 2 ^ 31) :
    ∀ b, some b ∈ vals → b.length < 2 ^ 31 := fun b hb => by
  have : (Backend.valueBytes (some b)).length ≤ (vals.flatMap Backend.valueBytes).length :=
    (List.sublist_flatten_of_mem (List.mem_map_of_mem Backend.valueBytes hb)).length_le
  simp only [Backend.valueBytes, List.length_append, putUint32_length] at this
  exact lt_of_le_of_lt (by omega) hfit

/-- The value loop reads values laid out one after another and makes the scanner's calls on them,
keeping the first error. -/
theorem scanColumns_values (m : ModelRef) (columns : Columns) :
    ∀ (vals : List (Option Bytes)) (i : Nat) (retErr : Option Err) (cn : Conn),
      i + vals.length ≤ columns.len → (vals.flatMap Backend.valueBytes).length < 2 ^ 31 →
      cn.rd = vals.flatMap Backend.valueBytes ++ r →
      scanColumns m columns (List.range' i vals.length) retErr e cn =
        .ok (retErr.toList ++ (scanCalls e m columns i vals cn.log).2).head?
          { cn with rd := r, log := (scanCalls e m columns i vals cn.log).1 } :=
  fun vals i retErr cn hw hfit =>
    scanColumns_fields m columns vals i retErr cn hw (length_lt_of_valueBytes hfit)

/-- `readDataRow` on a DataRow whose every value fits its length field. -/
theorem readDataRow_fields (m : ModelRef) (columns : Columns) {vals : List (Option Bytes)}
    (h : cn.rd = (Backend.dataRow vals).payload ++ r) (hok : (Backend.dataRow vals).ContentOk)
    (hl : ∀ b, some b ∈ vals → b.length < 2 ^ 31) (hw : vals.length ≤ columns.len) :
    readDataRow m columns e cn =
      .ok (scanCalls e m columns 0 vals cn.log).2.head?
        { cn with rd := r, log := (scanCalls e m columns 0 vals cn.log).1 } := by
  simp only [Backend.payload] at h
  have hn := readInt16_putUint16 (e := e) (r := vals.flatMap Backend.valueBytes ++ r)
    (h.trans (List.append_assoc ..)) hok
  have hs := scanColumns_fields (e := e) (r := r) m columns vals 0 none
    { cn with rd := vals.flatMap Backend.valueBytes ++ r } (by omega) hl rfl
  have hs' : scanColumns m columns (List.range (vals.length : Int).toNat) none e
      { cn with rd := vals.flatMap Backend.valueBytes ++ r } =
      .ok (scanCalls e m columns 0 vals cn.log).2.head?
        { cn with rd := r, log := (scanCalls e m columns 0 vals cn.log).1 } := by
    simpa [List.range_eq_range'] using hs
  exact Go.tryCatch_ok ((Go.bind_ok hn).trans hs')

/-- `readDataRow` on a DataRow no wider than the columns reads the row and keeps the first error of
the scanner. -/
theorem readDataRow_dataRow (m : ModelRef) (columns : Columns) {vals : List (Option Bytes)}
    (h : cn.rd = (Backend.dataRow vals).payload ++ r) (hok : (Backend.dataRow vals).ContentOk)
    (hfit : (Backend.dataRow vals).payload.length < 2 ^ 31) (hw : vals.length ≤ columns.len) :
    readDataRow m columns e cn =
      .ok (scanCalls e m columns 0 vals cn.log).2.head?
        { cn with rd := r, log := (scanCalls e m columns 0 vals cn.log).1 } :=
  readDataRow_fields m columns h hok
    (length_lt_of_valueBytes (by simp only [Backend.payload, List.length_append] at hfit; omega)) hw

/-- A DataRow's payload: the count, then each field's length and, unless it is `NULL`, its bytes. -/
theorem dataRow_payload_length (vals : List (Option Bytes)) :
    (Backend.dataRow vals).payload.length =
      2 + (vals.map fun v => 4 + (v.map List.length).getD 0).foldr (· + ·) 0 := by
  simp only [Backend.payload, List.length_append, putUint16_length, Nat.add_left_cancel_iff]
  induction vals with
  | nil => rfl
  | cons v vals ih => cases v <;> simp [Backend.valueBytes, ih, Nat.add_assoc]

/-- On a DataRow of `n` fields, `n` at most the number of columns and each field `NULL` or of a
length that fits its signed length field, `readDataRow` makes the `n` calls
`ScanColumn(i, columns[i], field i)` in order, reads the whole payload whatever the scanner
answers, and returns the error of the first call that failed. -/
theorem readDataRow_scanColumn (m : ModelRef) (columns : Columns) {vals : List (Option Bytes)}
    (h : cn.rd = (Backend.dataRow vals).payload ++ r) (hn : vals.length ≤ columns.len)
    (h16 : vals.length < 2 ^ 15) (hl : ∀ b, some b ∈ vals → b.length < 2 ^ 31) :
    readDataRow m columns e cn =
      .ok (e.firstError cn.log (scanColumnCalls m columns 0 vals))
        { cn with rd := r, log := (scanColumnCalls m columns 0 vals).reverse ++ cn.log } ∧
    (Backend.dataRow vals).payload.length =
      2 + (vals.map fun v => 4 + (v.map List.length).getD 0).foldr (· + ·) 0 := by
  obtain ⟨h₁, h₂⟩ := scanCalls_eq e m columns vals 0 cn.log
  rw [readDataRow_fields m columns h h16 hl hn, h₁, h₂]
  exact ⟨rfl, dataRow_payload_length vals⟩

/-- A row of a value and a `NULL` whose first scan fails: the second column is still read and
scanned, and the first error is returned. -/
theorem readDataRow_firstScanFails :
    (Conn.ofInput ((Backend.dataRow [some [1], none]).payload ++ [90])).rd =
      (Backend.dataRow [some [1], none]).payload ++ [90] ∧
    ([some [1], none] : List (Option Bytes)).length ≤ (Columns.ofList [[97], [98]]).len ∧
    ([some [1], none] : List (Option Bytes)).length < 2 ^ 15 ∧
    (∀ b : Bytes, some b ∈ ([some [1], none] : List (Option Bytes)) → b.length < 2 ^ 31) ∧
    readDataRow .user (Columns.ofList [[97], [98]]) ⟨fun log => some (.other log.length), fun _ => [],
        fun _ => 0, id⟩ (Conn.ofInput ((Backend.dataRow [some [1], none]).payload ++ [90])) =
      .ok (some (.other 1)) { Conn.ofInput [90] with
        log := [.scanColumn .user 1 [98] none, .scanColumn .user 0 [97] (some [1])] } ∧
    (Backend.dataRow [some [1], none]).payload.length = 2 + (4 + 1) + 4 := by
  have hl : ∀ b : Bytes, some b ∈ ([some [1], none] : List (Option Bytes)) → b.length < 2 ^ 31 := by
    intro b hb
    obtain rfl : b = [1] := by simpa using hb
    decide
  have := readDataRow_scanColumn (e := ⟨fun log => some (.other log.length), fun _ => [], fun _ => 0, id⟩)
    .user (Columns.ofList [[97], [98]])
    (rfl : (Conn.ofInput ((Backend.dataRow [some [1], none]).payload ++ [90])).rd = _ ++ [90])
    (by decide) (by decide) hl
  exact ⟨rfl, by decide, by decide, hl, this.1, this.2⟩

end Decoders

/-! ## The error as a map

`readError` builds a Go map from code byte to string, seeded with the remote address under
`'a'`. The model keeps the bindings as a list, the latest first, so that `List.lookup` is the
map's lookup: each code gives the last string the server sent under it. -/

/-- The binding a reversed list gives a key: the last one the list holds for it. -/
theorem lookup_reverse (l : List (UInt8 × Bytes)) (c : UInt8) :
    l.reverse.lookup c = ((l.filter fun f => f.1 = c).map Prod.snd).getLast? := by
  induction l using List.reverseRecOn with
  | nil => rfl
  | append_singleton l f ih =>
    obtain ⟨k, v⟩ := f
    rw [List.reverse_append, List.reverse_singleton, List.singleton_append, List.filter_append,
      List.lookup_cons]
    by_cases hk : k = c
    · subst hk
      simp
    · simp [beq_false_of_ne (Ne.symm hk), hk, ih]

/-- For every well-formed ErrorResponse, the error `readError` returns gives each field code the
value of its last field, and the connection's address under `a` when no field has that code. -/
theorem readError_fieldMap (e : Env) (cn : Conn) (fields : List (UInt8 × Bytes)) (r : Bytes)
    (hok : (Backend.errorResponse fields).ContentOk) :
    ∃ m, readError e { cn with rd := (Backend.errorResponse fields).payload ++ r } =
        .ok (.pg m) { cn with rd := r } ∧
      ∀ c, m.lookup c = (((fields.filter fun f => f.1 = c).map Prod.snd).getLast?).or
        (if c = 'a'.toUInt8 then some cn.remoteAddr else none) := by
  refine ⟨_, readError_errorResponse rfl hok, fun c => ?_⟩
  rw [List.lookup_append, lookup_reverse, List.lookup_cons]
  by_cases hc : c = 'a'.toUInt8
  · simp [hc]
  · simp [beq_false_of_ne hc, hc]

/-- A message code sent twice: the second value is the one the error gives. -/
theorem readError_lastValueWins :
    (Backend.errorResponse [('M'.toUInt8, ascii "x"), ('S'.toUInt8, ascii "ERROR"),
      ('M'.toUInt8, ascii "y")]).ContentOk ∧
    ∃ m, readError Env.succeeding
        { Conn.ofInput [] with
          rd := (Backend.errorResponse [('M'.toUInt8, ascii "x"), ('S'.toUInt8, ascii "ERROR"),
            ('M'.toUInt8, ascii "y")]).payload ++ [] } = .ok (.pg m) { Conn.ofInput [] with rd := [] } ∧
      m.lookup 'M'.toUInt8 = some (ascii "y") ∧ m.lookup 'a'.toUInt8 = some (Conn.ofInput []).remoteAddr := by
  have hok : (Backend.errorResponse [('M'.toUInt8, ascii "x"), ('S'.toUInt8, ascii "ERROR"),
      ('M'.toUInt8, ascii "y")]).ContentOk := by decide
  obtain ⟨m, hrun, hm⟩ := readError_fieldMap Env.succeeding (Conn.ofInput []) _ [] hok
  exact ⟨hok, m, hrun, (hm _).trans rfl, (hm _).trans rfl⟩

end GoPg
