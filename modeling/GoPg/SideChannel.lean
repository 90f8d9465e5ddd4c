import GoPg.QueryData
import GoPg.Sync
import GoPg.Startup

/-!
# NoticeResponse and ParameterStatus change nothing a reader returns

The server may send a NoticeResponse or a ParameterStatus between any two messages of a
response. Every reader that reads a response to the end hands both to `sideChannel`, which
reads them and changes nothing else (`DropsSideChannel`); by `Passes.sideInsert` inserting any
number of them before the message at which a reader returns leaves the reader's result, and
the connection it leaves, as they were.

Any other type outside a reader's cases ends it at once with an error that names the type and,
except in `readNotification`, the reader, under the name its source text gives
(`readers_rejectOutside`); `RejectsOutside.runReader` carries this from the `switch` to the
reader after any stretch it goes round on. NotificationResponse, which the server may send
just before a ReadyForQuery, is such a type for every reader but `readNotification`
(`readers_rejectNotification`).
-/

namespace GoPg

/-- Inserting well-formed NoticeResponse and ParameterStatus messages into a stream, before the
message at which `read` returns, changes neither what `read` returns nor the connection it
leaves: its unread input, the calls made and the column names included. `body` is `read`'s
`switch`, `s₀` its first loop variables; the loop goes round on the messages before the one at
which it returns. -/
def SideChannelInvariant {σ α : Type} (read : Go α) (body : σ → UInt8 → Int → Go (Step σ α))
    (s₀ : σ) : Prop :=
  ∀ (e : Env) (cn : Conn) (ms ms' : List Backend) (s : σ) (cn' : Conn) (z : Backend) (rest : Bytes)
    (R : Res α),
    Passes body e s₀ cn ms s cn' → SideInsert ms ms' → z.payload.length + 4 < 2 ^ 31 →
    (body s z.tag z.payload.length e { cn' with rd := z.payload ++ rest }).exit = some R →
    read e { cn with rd := stream ms' ++ z.bytes ++ rest } =
      read e { cn with rd := stream ms ++ z.bytes ++ rest }

/-- A reader whose `switch` drops side-channel messages is unaffected by them. -/
theorem sideChannelInvariant_of_drops {σ α : Type} {body : σ → UInt8 → Int → Go (Step σ α)}
    (hd : DropsSideChannel body) (s₀ : σ) : SideChannelInvariant (runReader body s₀) body s₀ :=
  fun _ _ _ _ _ _ _ _ _ hp hi hz hx =>
    ((Passes.sideInsert hd hi hp).runReader hz rfl hx).trans (hp.runReader hz rfl hx).symm

/-- `readSimpleQueryData` hands NoticeResponse and ParameterStatus to `sideChannel`. -/
theorem readSimpleQueryDataBody_drops (mod : Mod) : DropsSideChannel (readSimpleQueryDataBody mod) :=
  dropsSideChannel_of_eq "readSimpleQueryData" <| by
    rintro s t l (rfl | rfl) <;> simp +decide only [readSimpleQueryDataBody, dataTail, if_false]

/-- `readExtQueryData` hands NoticeResponse and ParameterStatus to `sideChannel`. -/
theorem readExtQueryDataBody_drops (mod : Mod) (columns : Columns) :
    DropsSideChannel (readExtQueryDataBody mod columns) :=
  dropsSideChannel_of_eq "readExtQueryData" <| by
    rintro s t l (rfl | rfl) <;> simp +decide only [readExtQueryDataBody, dataTail, if_false]

/-- Every reader that reads a response to the end is unaffected by side-channel messages. -/
theorem readers_sideChannelInvariant :
    SideChannelInvariant readSimpleQuery (queryBody "readSimpleQuery" rowDescriptionMsg)
      ⟨0, none, none⟩ ∧
    SideChannelInvariant readExtQuery (queryBody "readExtQuery" bindCompleteMsg) ⟨0, none, none⟩ ∧
    (∀ mod, SideChannelInvariant (readSimpleQueryData mod) (readSimpleQueryDataBody mod)
      ⟨0, none, none, none⟩) ∧
    (∀ mod columns, SideChannelInvariant (readExtQueryData mod columns)
      (readExtQueryDataBody mod columns) ⟨0, none, none, none⟩) ∧
    SideChannelInvariant readReadyForQuery readReadyForQueryBody (none, none) ∧
    SideChannelInvariant readParseDescribeSync readParseDescribeSyncBody Columns.nil ∧
    SideChannelInvariant readBindMsg readBindMsgBody () ∧
    SideChannelInvariant readCloseCompleteMsg (awaitBody "readCloseCompleteMsg" closeCompleteMsg) () ∧
    SideChannelInvariant readCopyInResponse (awaitBody "readCopyInResponse" copyInResponseMsg) () ∧
    SideChannelInvariant readCopyOutResponse (awaitBody "readCopyOutResponse" copyOutResponseMsg) () ∧
    SideChannelInvariant readCopyData readCopyDataBody none :=
  ⟨sideChannelInvariant_of_drops (queryBody_drops skipTag_rowDescription) _,
   sideChannelInvariant_of_drops (queryBody_drops skipTag_bindComplete) _,
   fun mod => sideChannelInvariant_of_drops (readSimpleQueryDataBody_drops mod) _,
   fun mod columns => sideChannelInvariant_of_drops (readExtQueryDataBody_drops mod columns) _,
   sideChannelInvariant_of_drops readReadyForQueryBody_drops _,
   sideChannelInvariant_of_drops readParseDescribeSyncBody_drops _,
   sideChannelInvariant_of_drops readBindMsgBody_drops _,
   sideChannelInvariant_of_drops (awaitBody_drops (by decide) (by decide)) _,
   sideChannelInvariant_of_drops (awaitBody_drops (by decide) (by decide)) _,
   sideChannelInvariant_of_drops (awaitBody_drops (by decide) (by decide)) _,
   sideChannelInvariant_of_drops readCopyDataBody_drops _⟩

/-- A notice before the CommandComplete of a simple query. -/
theorem readSimpleQuery_notice_before_complete :
    readSimpleQuery Env.succeeding (Conn.ofInput (stream
        [.other noticeResponseMsg [0], .other commandCompleteMsg (ascii "SELECT 1")] ++
      (Backend.other readyForQueryMsg [73]).bytes)) =
    readSimpleQuery Env.succeeding (Conn.ofInput (stream
        [.other commandCompleteMsg (ascii "SELECT 1")] ++ (Backend.other readyForQueryMsg [73]).bytes)) :=
  readers_sideChannelInvariant.1 Env.succeeding (Conn.ofInput []) [.other commandCompleteMsg (ascii "SELECT 1")]
    [.other noticeResponseMsg [0], .other commandCompleteMsg (ascii "SELECT 1")] _ _
    (.other readyForQueryMsg [73]) [] _
    (queryBody_passes skipTag_rowDescription _ (by decide) [])
    (.insert ⟨[0], .inl rfl⟩ (by decide) (.keep _ .nil)) (by decide) rfl

/-! ## Message types outside a reader's cases -/

/-- `body` has a case for each type of `tags`; on any other type it ends with `err` of that
type, having read nothing past the header. -/
def RejectsOutside {σ α : Type} (body : σ → UInt8 → Int → Go (Step σ α)) (tags : List UInt8)
    (err : UInt8 → Err) : Prop :=
  ∀ s t l e cn, t ∉ tags → body s t l e cn = .stop (.err (err t)) cn

/-- After any stretch the reader goes round on, a message of a type outside its cases ends it
with the error for that type, the message's payload unread. -/
theorem RejectsOutside.runReader {σ α : Type} {body : σ → UInt8 → Int → Go (Step σ α)}
    {tags : List UInt8} {err : UInt8 → Err} (h : RejectsOutside body tags err) {e : Env}
    {cn cn' : Conn} {ms : List Backend} {s₀ s : σ} (hp : Passes body e s₀ cn ms s cn') {z : Backend}
    (hz : z.tag ∉ tags) (hfit : z.payload.length + 4 < 2 ^ 31) (rest : Bytes) :
    GoPg.runReader body s₀ e { cn with rd := stream ms ++ z.bytes ++ rest } =
      .stop (.err (err z.tag)) { cn' with rd := z.payload ++ rest } :=
  hp.runReader hfit (h s _ _ e _ hz) rfl

/-- A body whose other types all go to `sideChannel reader` rejects them with the reader's
name. -/
theorem rejectsOutside_of_sideChannel {σ α : Type} {body : σ → UInt8 → Int → Go (Step σ α)}
    (reader : String) {tags : List UInt8} (hside : noticeResponseMsg ∈ tags ∧ parameterStatusMsg ∈ tags)
    (h : ∀ s t l, t ∉ tags → body s t l = sideChannel reader s t l) :
    RejectsOutside body tags (unexpectedMessage reader) := by
  intro s t l e cn ht
  rw [h s t l ht, sideChannel, if_neg (fun (h : t = _) => ht (h ▸ hside.1)),
    if_neg (fun (h : t = _) => ht (h ▸ hside.2))]
  rfl

/-- The cases of every reader's `switch`, and the error its default case returns. -/
theorem readers_rejectOutside {user password : Bytes} :
    RejectsOutside (queryBody "readSimpleQuery" rowDescriptionMsg)
      (readyForQueryMsg :: queryTags rowDescriptionMsg) (unexpectedMessage "readSimpleQuery") ∧
    RejectsOutside (queryBody "readExtQuery" bindCompleteMsg)
      (readyForQueryMsg :: queryTags bindCompleteMsg) (unexpectedMessage "readExtQuery") ∧
    (∀ mod, RejectsOutside (readSimpleQueryDataBody mod)
      (readyForQueryMsg :: queryTags rowDescriptionMsg) (unexpectedMessage "readSimpleQueryData")) ∧
    (∀ mod columns, RejectsOutside (readExtQueryDataBody mod columns)
      (readyForQueryMsg :: queryTags bindCompleteMsg) (unexpectedMessage "readExtQueryData")) ∧
    RejectsOutside readReadyForQueryBody
      [commandCompleteMsg, readyForQueryMsg, errorResponseMsg, noticeResponseMsg, parameterStatusMsg]
      (unexpectedMessage "readReadyForQueryOrError") ∧
    RejectsOutside readParseDescribeSyncBody
      [parseCompleteMsg, rowDescriptionMsg, parameterDescriptionMsg, noDataMsg, readyForQueryMsg,
        errorResponseMsg, noticeResponseMsg, parameterStatusMsg]
      (unexpectedMessage "readParseDescribeSync") ∧
    RejectsOutside readBindMsgBody
      [bindCompleteMsg, readyForQueryMsg, errorResponseMsg, noticeResponseMsg, parameterStatusMsg]
      (unexpectedMessage "readBindMsg") ∧
    (∀ reader tag, RejectsOutside (awaitBody reader tag)
      [tag, errorResponseMsg, noticeResponseMsg, parameterStatusMsg] (unexpectedMessage reader)) ∧
    RejectsOutside readCopyDataBody
      [copyDataMsg, copyDoneMsg, commandCompleteMsg, readyForQueryMsg, errorResponseMsg,
        noticeResponseMsg, parameterStatusMsg]
      (unexpectedMessage "readCopyData") ∧
    RejectsOutside readNotificationBody
      [commandCompleteMsg, readyForQueryMsg, errorResponseMsg, noticeResponseMsg, notificationResponseMsg]
      (fun c => .errorf "pg: unexpected message %q" [.byte c]) ∧
    RejectsOutside (startupBody user password)
      [backendKeyDataMsg, parameterStatusMsg, authenticationOKMsg, readyForQueryMsg, errorResponseMsg]
      (fun c => .errorf "pg: unknown startup message response: %q" [.byte c]) := by
  refine ⟨fun v _ _ _ _ ht => queryBody_unexpected ht v _, fun v _ _ _ _ ht => queryBody_unexpected ht v _,
    fun _ v _ _ _ _ ht => readSimpleQueryDataBody_unexpected ht v _,
    fun _ _ v _ _ _ _ ht => readExtQueryDataBody_unexpected ht v _,
    rejectsOutside_of_sideChannel _ (by decide) fun _ _ _ ht => ?_,
    rejectsOutside_of_sideChannel _ (by decide) fun _ _ _ ht => ?_,
    rejectsOutside_of_sideChannel _ (by decide) fun _ _ _ ht => ?_,
    fun _ _ => rejectsOutside_of_sideChannel _ (by simp) fun _ _ _ ht => ?_,
    rejectsOutside_of_sideChannel _ (by decide) fun _ _ _ ht => ?_, ?_, ?_⟩
  · simp only [List.mem_cons, List.not_mem_nil, or_false, not_or] at ht
    simp only [readReadyForQueryBody, ht, if_false]
  · simp only [List.mem_cons, List.not_mem_nil, or_false, not_or] at ht
    simp only [readParseDescribeSyncBody, ht, if_false]
  · simp only [List.mem_cons, List.not_mem_nil, or_false, not_or] at ht
    simp only [readBindMsgBody, ht, if_false]
  · simp only [List.mem_cons, List.not_mem_nil, or_false, not_or] at ht
    simp only [awaitBody, ht, if_false]
  · simp only [List.mem_cons, List.not_mem_nil, or_false, not_or] at ht
    simp only [readCopyDataBody, ht, if_false]
  · intro _ t _ _ _ ht
    simp only [List.mem_cons, List.not_mem_nil, or_false, not_or] at ht
    simp only [readNotificationBody, ht, if_false]
    rfl
  · intro _ t _ _ _ ht
    simp only [List.mem_cons, List.not_mem_nil, or_false, not_or] at ht
    simp only [startupBody, ht, if_false]
    rfl

/-- A NotificationResponse after any stretch of messages a reader goes round on ends every reader
that does not read notifications, with the error that names the reader and the type, right after the
header. -/
theorem readers_rejectNotification (e : Env) (cn : Conn) (ms : List Backend) {z : Backend}
    (hz : z.tag = notificationResponseMsg) (hfit : z.payload.length + 4 < 2 ^ 31) (rest : Bytes) :
    (∀ v cn', Passes readReadyForQueryBody e (none, none) cn ms v cn' →
      readReadyForQuery e { cn with rd := stream ms ++ z.bytes ++ rest } =
        .stop (.err (unexpectedMessage "readReadyForQueryOrError" notificationResponseMsg))
          { cn' with rd := z.payload ++ rest }) ∧
    (∀ v cn', Passes readParseDescribeSyncBody e Columns.nil cn ms v cn' →
      readParseDescribeSync e { cn with rd := stream ms ++ z.bytes ++ rest } =
        .stop (.err (unexpectedMessage "readParseDescribeSync" notificationResponseMsg))
          { cn' with rd := z.payload ++ rest }) ∧
    (∀ cn', Passes readBindMsgBody e () cn ms () cn' →
      readBindMsg e { cn with rd := stream ms ++ z.bytes ++ rest } =
        .stop (.err (unexpectedMessage "readBindMsg" notificationResponseMsg))
          { cn' with rd := z.payload ++ rest }) ∧
    (∀ cn', Passes (awaitBody "readCloseCompleteMsg" closeCompleteMsg) e () cn ms () cn' →
      readCloseCompleteMsg e { cn with rd := stream ms ++ z.bytes ++ rest } =
        .stop (.err (unexpectedMessage "readCloseCompleteMsg" notificationResponseMsg))
          { cn' with rd := z.payload ++ rest }) ∧
    (∀ cn', Passes (awaitBody "readCopyInResponse" copyInResponseMsg) e () cn ms () cn' →
      readCopyInResponse e { cn with rd := stream ms ++ z.bytes ++ rest } =
        .stop (.err (unexpectedMessage "readCopyInResponse" notificationResponseMsg))
          { cn' with rd := z.payload ++ rest }) ∧
    (∀ cn', Passes (awaitBody "readCopyOutResponse" copyOutResponseMsg) e () cn ms () cn' →
      readCopyOutResponse e { cn with rd := stream ms ++ z.bytes ++ rest } =
        .stop (.err (unexpectedMessage "readCopyOutResponse" notificationResponseMsg))
          { cn' with rd := z.payload ++ rest }) ∧
    (∀ v cn', Passes readCopyDataBody e none cn ms v cn' →
      readCopyData e { cn with rd := stream ms ++ z.bytes ++ rest } =
        .stop (.err (unexpectedMessage "readCopyData" notificationResponseMsg))
          { cn' with rd := z.payload ++ rest }) := by
  obtain ⟨-, -, -, -, hready, hdescribe, hbind, hawait, hcopy, -, -⟩ :=
    @readers_rejectOutside [] []
  rw [← hz]
  exact ⟨fun _ _ hp => hready.runReader hp (by rw [hz]; decide) hfit rest,
    fun _ _ hp => hdescribe.runReader hp (by rw [hz]; decide) hfit rest,
    fun _ hp => hbind.runReader hp (by rw [hz]; decide) hfit rest,
    fun _ hp => (hawait _ _).runReader hp (by rw [hz]; decide) hfit rest,
    fun _ hp => (hawait _ _).runReader hp (by rw [hz]; decide) hfit rest,
    fun _ hp => (hawait _ _).runReader hp (by rw [hz]; decide) hfit rest,
    fun _ _ hp => hcopy.runReader hp (by rw [hz]; decide) hfit rest⟩

/-- A NotificationResponse just before ReadyForQuery ends `readReadyForQuery` with an error. -/
theorem readReadyForQuery_notificationBeforeReady :
    (Backend.notificationResponse 7 (ascii "ch") (ascii "hi")).tag = notificationResponseMsg ∧
    (Backend.notificationResponse 7 (ascii "ch") (ascii "hi")).payload.length + 4 < 2 ^ 31 ∧
    readReadyForQuery Env.succeeding
        { Conn.ofInput [] with
          rd := stream [] ++ (Backend.notificationResponse 7 (ascii "ch") (ascii "hi")).bytes ++
            (Backend.other readyForQueryMsg [73]).bytes } =
      .stop (.err (unexpectedMessage "readReadyForQueryOrError" notificationResponseMsg))
        { Conn.ofInput [] with
          rd := (Backend.notificationResponse 7 (ascii "ch") (ascii "hi")).payload ++
            (Backend.other readyForQueryMsg [73]).bytes } :=
  ⟨rfl, by decide, (readers_rejectNotification Env.succeeding (Conn.ofInput []) []
    (z := .notificationResponse 7 (ascii "ch") (ascii "hi")) rfl (by decide) _).1 _ _ (.nil _ _)⟩

end GoPg
