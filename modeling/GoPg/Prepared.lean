import GoPg.Sync

/-!
# The prepared-statement readers on their responses

The extended protocol's statement exchanges each end with one message: Parse, Describe and Sync
are answered by ParseComplete, ParameterDescription, a RowDescription or NoData, then
ReadyForQuery; Bind, Execute and Sync by BindComplete and ReadyForQuery; Close by CloseComplete.
On every such response, with NoticeResponse and ParameterStatus anywhere in it, each reader
returns what the response says and stops right after the message that ends it, so the next
reader on the connection starts at the next response (`statementReaders_response`).

`readParseDescribeSync` keeps the column names of the last RowDescription, read into a new
slice (`describedColumns`); the readers that wait for one message are one body, `awaitBody`
(`awaitBody_response`).
-/

namespace GoPg

/-- The fields of a RowDescription. -/
def Backend.rowFields? : Backend → Option (List (Bytes × Bytes))
  | .rowDescription fields => some fields
  | _ => none

/-- The column names `readParseDescribeSync` holds after a stretch of its response: what
`readRowDescription` read from the last RowDescription into a new slice, `nil` before any. -/
def describedColumns (pre : List Backend) : Columns :=
  match (pre.filterMap Backend.rowFields?).getLast? with
  | some fields => (Columns.nil.resize fields.length).setFrom 0 (fields.map Prod.fst)
  | none => Columns.nil

/-- The message types `readParseDescribeSync` goes round on. -/
def describeTags : List UInt8 :=
  [parseCompleteMsg, rowDescriptionMsg, parameterDescriptionMsg, noDataMsg, noticeResponseMsg,
    parameterStatusMsg]

/-- The message types `readBindMsg` goes round on. -/
def bindTags : List UInt8 := [bindCompleteMsg, noticeResponseMsg, parameterStatusMsg]

/-- The message types every reader drops. -/
def sideTags : List UInt8 := [noticeResponseMsg, parameterStatusMsg]

/-- A RowDescription at the end sets the columns to its names. -/
theorem describedColumns_snoc_rowDescription (pre : List Backend) (fields : List (Bytes × Bytes)) :
    describedColumns (pre ++ [.rowDescription fields]) =
      (Columns.nil.resize fields.length).setFrom 0 (fields.map Prod.fst) := by
  simp [describedColumns, Backend.rowFields?]

/-- Any other message at the end keeps the columns. -/
theorem describedColumns_snoc_other (pre : List Backend) {m : Backend} (hm : m.rowFields? = none) :
    describedColumns (pre ++ [m]) = describedColumns pre := by
  simp [describedColumns, hm]

/-- The names in view after a stretch: those of its last RowDescription, none before any. -/
theorem describedColumns_toList (pre : List Backend) :
    (describedColumns pre).toList =
      (((pre.filterMap Backend.rowFields?).getLast?).map (·.map Prod.fst)).getD [] := by
  unfold describedColumns
  split
  · rename_i fields h
    simpa [h] using Columns.toList_setFrom_resize Columns.nil (fields.map Prod.fst)
  · rename_i h
    rw [h]
    rfl

/-- A message whose type is one of the two every reader drops is a side-channel message. -/
theorem isSideChannel_of_tag {m : Backend} (hm : m.tag ∈ sideTags) : m.IsSideChannel := by
  cases m with
  | other t p =>
    simp only [sideTags, Backend.tag, List.mem_cons, List.not_mem_nil, or_false] at hm
    rcases hm with rfl | rfl
    · exact ⟨p, .inl rfl⟩
    · exact ⟨p, .inr rfl⟩
  | _ => simp +decide [sideTags, Backend.tag] at hm

section Bodies

variable {e : Env} {cn : Conn} {r : Bytes}

/-- One pass of `readParseDescribeSync` over a well-formed message it goes round on. -/
theorem readParseDescribeSyncBody_pass {m : Backend} (hm : m.WellFormed)
    (ht : m.tag ∈ describeTags) (pre : List Backend) :
    readParseDescribeSyncBody (describedColumns pre) m.tag m.payload.length e
        { cn with rd := m.payload ++ r } =
      .ok (.next (describedColumns (pre ++ [m]))) { cn with rd := r } := by
  cases m with
  | rowDescription fields =>
    simp +decide only [readParseDescribeSyncBody, Backend.tag, if_false, if_true]
    rw [describedColumns_snoc_rowDescription]
    exact Go.bind_ok (readRowDescription_rowDescription Columns.nil rfl hm.content)
  | other t p =>
    obtain ⟨-, hcT, -, -⟩ := hm.content
    rw [describedColumns_snoc_other pre (show (Backend.other t p).rowFields? = none from rfl)]
    have hdrop : discardN p.length e { cn with rd := p ++ r } = _ := discardN_append rfl
    simp only [describeTags, Backend.tag, List.mem_cons, List.not_mem_nil, or_false] at ht
    rcases ht with rfl | rfl | rfl | rfl | rfl | rfl
    · simp only [readParseDescribeSyncBody, Backend.payload, if_pos rfl]
      exact Go.bind_ok hdrop
    · exact absurd rfl hcT
    · simp +decide only [readParseDescribeSyncBody, Backend.payload, if_false, if_true]
      exact Go.bind_ok hdrop
    · simp +decide only [readParseDescribeSyncBody, Backend.payload, if_false, if_true]
      exact Go.bind_ok hdrop
    · exact readParseDescribeSyncBody_drops e _ cn r _ ⟨p, .inl rfl⟩
    · exact readParseDescribeSyncBody_drops e _ cn r _ ⟨p, .inr rfl⟩
  | _ => simp +decide [describeTags, Backend.tag] at ht

/-- `readParseDescribeSync` returns its column names at ReadyForQuery. -/
theorem readParseDescribeSyncBody_readyForQuery (columns : Columns) (p : Bytes) :
    readParseDescribeSyncBody columns readyForQueryMsg p.length e { cn with rd := p ++ r } =
      .ok (.done (columns, none)) { cn with rd := r } := by
  simp +decide only [readParseDescribeSyncBody, if_false, if_true]
  exact Go.bind_ok (Go.tryCatch_ok (Go.bind_ok (readN_append rfl rfl)))

/-- One pass of `readBindMsg` over a well-formed message it goes round on. -/
theorem readBindMsgBody_pass {m : Backend} (hm : m.WellFormed) (ht : m.tag ∈ bindTags) :
    readBindMsgBody () m.tag m.payload.length e { cn with rd := m.payload ++ r } =
      .ok (.next ()) { cn with rd := r } := by
  cases m with
  | other t p =>
    simp only [bindTags, Backend.tag, List.mem_cons, List.not_mem_nil, or_false] at ht
    rcases ht with rfl | rfl | rfl
    · simp only [readBindMsgBody, Backend.payload, if_pos rfl]
      exact Go.bind_ok (discardN_append rfl)
    · exact readBindMsgBody_drops e _ cn r _ ⟨p, .inl rfl⟩
    · exact readBindMsgBody_drops e _ cn r _ ⟨p, .inr rfl⟩
  | _ => simp +decide [bindTags, Backend.tag] at ht

end Bodies

section Responses

variable {e : Env} {cn : Conn} {ms : List Backend} {p rest : Bytes}

/-- A reader waiting for `tag` on side-channel messages, then the message it waits for: it
returns, having read exactly through that message. -/
theorem awaitBody_response {reader : String} {tag : UInt8} (hN : noticeResponseMsg ≠ tag)
    (hS : parameterStatusMsg ≠ tag) (hms : ∀ m ∈ ms, m.WellFormed ∧ m.tag ∈ sideTags)
    (hp : p.length + 4 < 2 ^ 31) :
    runReader (awaitBody reader tag) () e { cn with rd := stream ms ++ (Backend.other tag p).bytes ++ rest } =
      .ok () { cn with rd := rest } := by
  have hpass : Passes (awaitBody reader tag) e () cn ms () cn :=
    Passes.of_vars (fun _ => ()) ms (fun _ m hm => ⟨(hms m hm).1.fits, fun r =>
      awaitBody_drops hN hS e () cn r m (isSideChannel_of_tag (hms m hm).2)⟩) []
  have hz : awaitBody reader tag () (Backend.other tag p).tag (Backend.other tag p).payload.length e
      { cn with rd := (Backend.other tag p).payload ++ rest } = .ok (.done ()) { cn with rd := rest } := by
    simp only [awaitBody, Backend.tag, Backend.payload, if_pos rfl]
    exact Go.bind_ok (discardN_append rfl)
  exact hpass.runReader hp hz rfl

end Responses

/-- On every response to its request, with NoticeResponse and ParameterStatus anywhere before
the message that ends it, each statement reader returns and leaves exactly what follows that
message unread. `readParseDescribeSync`, on ParseComplete, ParameterDescription,
RowDescription and NoData messages then ReadyForQuery, returns no error and the column names
of the last RowDescription, none if there is none; `readBindMsg` returns at the ReadyForQuery
after BindComplete messages; `readCloseCompleteMsg` at the CloseComplete. -/
theorem statementReaders_response (e : Env) (cn : Conn) (ms : List Backend) (p rest : Bytes)
    (hp : p.length + 4 < 2 ^ 31) :
    ((∀ m ∈ ms, m.WellFormed ∧ m.tag ∈ describeTags) →
      ∃ columns, readParseDescribeSync e
          { cn with rd := stream ms ++ (Backend.other readyForQueryMsg p).bytes ++ rest } =
          .ok (columns, none) { cn with rd := rest } ∧
        columns.toList = (((ms.filterMap Backend.rowFields?).getLast?).map (·.map Prod.fst)).getD []) ∧
    ((∀ m ∈ ms, m.WellFormed ∧ m.tag ∈ bindTags) →
      readBindMsg e { cn with rd := stream ms ++ (Backend.other readyForQueryMsg p).bytes ++ rest } =
        .ok () { cn with rd := rest }) ∧
    ((∀ m ∈ ms, m.WellFormed ∧ m.tag ∈ sideTags) →
      readCloseCompleteMsg e { cn with rd := stream ms ++ (Backend.other closeCompleteMsg p).bytes ++ rest } =
        .ok () { cn with rd := rest }) := by
  refine ⟨fun hms => ⟨describedColumns ms, ?_, describedColumns_toList ms⟩, fun hms => ?_,
    fun hms => awaitBody_response (by decide) (by decide) hms hp⟩
  · have hpass : Passes readParseDescribeSyncBody e (describedColumns []) cn ms
        (describedColumns ([] ++ ms)) cn :=
      Passes.of_vars _ ms (fun pre m hm =>
        ⟨(hms m hm).1.fits, fun _ => readParseDescribeSyncBody_pass (hms m hm).1 (hms m hm).2 pre⟩) []
    exact hpass.runReader hp (readParseDescribeSyncBody_readyForQuery _ p) rfl
  · have hpass : Passes readBindMsgBody e () cn ms () cn :=
      Passes.of_vars (fun _ => ()) ms (fun _ m hm =>
        ⟨(hms m hm).1.fits, fun _ => readBindMsgBody_pass (hms m hm).1 (hms m hm).2⟩) []
    have hz : readBindMsgBody () readyForQueryMsg p.length e { cn with rd := p ++ rest } =
        .ok (.done ()) { cn with rd := rest } := by
      simp +decide only [readBindMsgBody, if_false, if_true]
      exact Go.bind_ok (discardN_append rfl)
    exact hpass.runReader hp hz rfl

/-- Parse, Describe and Sync of a statement with one column, `id`. -/
theorem readParseDescribeSync_oneColumn :
    (∀ m ∈ [Backend.other parseCompleteMsg [], .other parameterDescriptionMsg [0, 0],
        .rowDescription [(ascii "id", List.replicate 18 0)]], m.WellFormed ∧ m.tag ∈ describeTags) ∧
    ∃ columns, readParseDescribeSync Env.succeeding (Conn.ofInput
        (stream [.other parseCompleteMsg [], .other parameterDescriptionMsg [0, 0],
          .rowDescription [(ascii "id", List.replicate 18 0)]] ++
          (Backend.other readyForQueryMsg [73]).bytes ++ [])) =
        .ok (columns, none) (Conn.ofInput []) ∧ columns.toList = [ascii "id"] := by
  have hms : ∀ m ∈ [Backend.other parseCompleteMsg [], .other parameterDescriptionMsg [0, 0],
      .rowDescription [(ascii "id", List.replicate 18 0)]], m.WellFormed ∧ m.tag ∈ describeTags := by
    decide
  obtain ⟨columns, hrun, hnames⟩ :=
    (statementReaders_response Env.succeeding (Conn.ofInput []) _ [73] [] (by decide)).1 hms
  exact ⟨hms, columns, hrun, hnames.trans rfl⟩

end GoPg
