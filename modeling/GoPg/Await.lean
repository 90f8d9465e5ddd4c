import GoPg.Query
import GoPg.Sync

/-!
# The readers that drain to one message

`readReadyForQuery`, run after COPY, goes round on CommandComplete, ErrorResponse and the
side-channel messages until ReadyForQuery. Its ErrorResponse case assigns `retErr = e` where
the query readers call `setErr`, which keeps the first error: it returns the last server error
of the response (`readReadyForQuery_response`).

`readNotification`, run while listening, goes round on CommandComplete, ReadyForQuery and
NoticeResponse until a NotificationResponse, whose channel and payload it returns. Its `switch`
has no ParameterStatus case, which every other reader hands to `sideChannel`: a ParameterStatus
before the notification ends it with an unexpected-message error, right after that message's
header (`readNotification_stream`).

Both are stated over every stretch of the messages the reader goes round on, in any order and
number, through `Passes.of_vars`: one lemma says what the body does with one message.
-/

namespace GoPg

/-! ## After COPY -/

/-- The last server error of a stream. -/
def lastError (remoteAddr : Bytes) (ms : List Backend) : Option Err :=
  (serverErrors remoteAddr ms).getLast?

/-- The loop variables of `readReadyForQuery` after a stretch of the stream: the Result of its
last CommandComplete, with no rows counted, and its last server error. -/
def readyVarsOf (remoteAddr : Bytes) (pre : List Backend) : Option Result × Option Err :=
  ((pre.filterMap Backend.commandTag?).getLast?.map (newResult · 0), lastError remoteAddr pre)

/-- The message types `readReadyForQuery` goes round on. -/
def readyTags : List UInt8 :=
  [commandCompleteMsg, errorResponseMsg, noticeResponseMsg, parameterStatusMsg]

section Ready

variable {e : Env} {cn : Conn} {r : Bytes}

/-- A side-channel message leaves the loop variables of `readReadyForQuery` as they were. -/
theorem readyVarsOf_sideChannel (remoteAddr : Bytes) (pre : List Backend) {n : Backend}
    (hn : n.IsSideChannel) : readyVarsOf remoteAddr (pre ++ [n]) = readyVarsOf remoteAddr pre := by
  obtain ⟨p, rfl | rfl⟩ := hn <;>
    simp +decide [readyVarsOf, lastError, serverErrors, Backend.commandTag?, Backend.serverError?]

/-- One pass of `readReadyForQuery` over a well-formed message it goes round on. -/
theorem readReadyForQueryBody_pass {m : Backend} (hm : m.WellFormed) (ht : m.tag ∈ readyTags)
    (pre : List Backend) :
    readReadyForQueryBody (readyVarsOf cn.remoteAddr pre) m.tag m.payload.length e
        { cn with rd := m.payload ++ r } =
      .ok (.next (readyVarsOf cn.remoteAddr (pre ++ [m]))) { cn with rd := r } := by
  cases m with
  | errorResponse fields =>
    simp +decide only [readReadyForQueryBody, Backend.tag, if_false, if_true]
    simpa [readyVarsOf, lastError, serverErrors, Backend.commandTag?, Backend.serverError?]
      using Go.bind_ok (readError_errorResponse rfl hm.content)
  | other t p =>
    obtain ⟨hcE, -, -, -⟩ := hm.content
    simp only [readyTags, Backend.tag, List.mem_cons, List.not_mem_nil, or_false] at ht
    rcases ht with rfl | rfl | rfl | rfl
    · have hb : readN p.length e { cn with rd := p ++ r } = _ := readN_append rfl rfl
      simp only [readReadyForQueryBody, Backend.tag, if_pos rfl]
      simpa [readyVarsOf, lastError, serverErrors, Backend.commandTag?, Backend.serverError?]
        using Go.bind_ok hb
    · exact absurd rfl hcE
    · rw [readyVarsOf_sideChannel _ _ ⟨p, .inl rfl⟩]
      exact readReadyForQueryBody_drops e _ cn r _ ⟨p, .inl rfl⟩
    · rw [readyVarsOf_sideChannel _ _ ⟨p, .inr rfl⟩]
      exact readReadyForQueryBody_drops e _ cn r _ ⟨p, .inr rfl⟩
  | _ => simp +decide [readyTags, Backend.tag] at ht

/-- `readReadyForQuery` returns its loop variables at ReadyForQuery. -/
theorem readReadyForQueryBody_readyForQuery (v : Option Result × Option Err) (p : Bytes) :
    readReadyForQueryBody v readyForQueryMsg p.length e { cn with rd := p ++ r } =
      .ok (.done v) { cn with rd := r } := by
  simp +decide only [readReadyForQueryBody, if_false, if_true]
  exact Go.bind_ok (discardN_append rfl)

end Ready

/-- `readReadyForQuery` on well-formed CommandComplete, ErrorResponse, NoticeResponse and
ParameterStatus messages in any order and number, then ReadyForQuery: it returns the Result of
the last CommandComplete and the last server error, and leaves the rest unread. -/
theorem readReadyForQuery_response (e : Env) (cn : Conn) (ms : List Backend) (p rest : Bytes)
    (hms : ∀ m ∈ ms, m.WellFormed ∧ m.tag ∈ readyTags) (hp : p.length + 4 < 2 ^ 31) :
    readReadyForQuery e { cn with rd := stream ms ++ (Backend.other readyForQueryMsg p).bytes ++ rest } =
      .ok ((ms.filterMap Backend.commandTag?).getLast?.map (newResult · 0), lastError cn.remoteAddr ms)
        { cn with rd := rest } := by
  have hpass : Passes readReadyForQueryBody e (readyVarsOf cn.remoteAddr []) cn ms
      (readyVarsOf cn.remoteAddr ([] ++ ms)) cn :=
    Passes.of_vars _ ms (fun pre m hm =>
      ⟨(hms m hm).1.fits, fun _ => readReadyForQueryBody_pass (hms m hm).1 (hms m hm).2 pre⟩) []
  exact hpass.runReader hp (readReadyForQueryBody_readyForQuery _ p) rfl

/-- Two server errors before the ReadyForQuery that ends a COPY: the second is returned. -/
theorem readReadyForQuery_keepsLastError :
    (∀ m ∈ [Backend.errorResponse [(83, [49])], .errorResponse [(83, [50])]],
      m.WellFormed ∧ m.tag ∈ readyTags) ∧
    readReadyForQuery Env.succeeding (Conn.ofInput
        (stream [.errorResponse [(83, [49])], .errorResponse [(83, [50])]] ++
          (Backend.other readyForQueryMsg [73]).bytes ++ [])) =
      .ok (none, some (errorOf [] [(83, [50])])) (Conn.ofInput []) :=
  ⟨by decide, readReadyForQuery_response Env.succeeding (Conn.ofInput [])
    [.errorResponse [(83, [49])], .errorResponse [(83, [50])]] [73] [] (by decide) (by decide)⟩

/-! ## Notifications -/

/-- The message types `readNotification` goes round on. -/
def notifyTags : List UInt8 := [commandCompleteMsg, readyForQueryMsg, noticeResponseMsg]

/-- The error `readNotification` returns for a message type it has no case for. -/
def unexpectedNotification (c : UInt8) : Err := .errorf "pg: unexpected message %q" [.byte c]

section Notify

variable {e : Env} {cn : Conn} {r : Bytes}

/-- One pass of `readNotification` over a well-formed message it goes round on. -/
theorem readNotificationBody_pass {m : Backend} (hm : m.WellFormed) (ht : m.tag ∈ notifyTags) :
    readNotificationBody () m.tag m.payload.length e { cn with rd := m.payload ++ r } =
      .ok (.next ()) { cn with rd := r } := by
  cases m with
  | other t p =>
    have hdrop : discardN p.length e { cn with rd := p ++ r } = _ := discardN_append rfl
    simp only [notifyTags, Backend.tag, List.mem_cons, List.not_mem_nil, or_false] at ht
    rcases ht with rfl | rfl | rfl <;>
      simp +decide only [readNotificationBody, logNotice, Backend.payload, if_true, if_false] <;>
      exact Go.bind_ok hdrop
  | _ => simp +decide [notifyTags, Backend.tag] at ht

/-- `readNotification` goes round on every stretch of the messages it accepts. -/
theorem readNotificationBody_passes (ms : List Backend)
    (hms : ∀ m ∈ ms, m.WellFormed ∧ m.tag ∈ notifyTags) :
    Passes readNotificationBody e () cn ms () cn :=
  Passes.of_vars (fun _ => ()) ms (fun _ m hm =>
    ⟨(hms m hm).1.fits, fun _ => readNotificationBody_pass (hms m hm).1 (hms m hm).2⟩) []

/-- At a NotificationResponse `readNotification` returns its channel and payload, having read
exactly the message. -/
theorem readNotificationBody_notification {pid : Int} {channel payload : Bytes}
    (hok : (Backend.notificationResponse pid channel payload).ContentOk) (l : Int) :
    readNotificationBody () notificationResponseMsg l e
        { cn with rd := (Backend.notificationResponse pid channel payload).payload ++ r } =
      .ok (.done (channel, payload)) { cn with rd := r } := by
  obtain ⟨h₀, h₁, hc, hp⟩ := hok
  simp +decide only [readNotificationBody, if_false, if_true]
  rw [Go.bind_ok (readInt32_uint32 (r := cstr channel ++ cstr payload ++ r)
      (by simp [Backend.payload]) h₀ h₁),
    Go.bind_ok (readString_cstr (r := cstr payload ++ r) (by simp) hc),
    Go.bind_ok (readString_cstr (r := r) rfl hp)]
  rfl

/-- `readNotification` has no case for ParameterStatus. -/
theorem readNotificationBody_parameterStatus (l : Int) :
    readNotificationBody () parameterStatusMsg l e cn =
      .stop (.err (unexpectedNotification parameterStatusMsg)) cn := by
  simp +decide [readNotificationBody, unexpectedNotification]

end Notify

/-- `readNotification` on well-formed CommandComplete, ReadyForQuery, NoticeResponse and
ParameterStatus messages, then a NotificationResponse: with no ParameterStatus among them it
returns the notification's channel and payload and leaves the rest unread; otherwise it fails at
the first ParameterStatus with an unexpected-message error, right after that message's header. -/
theorem readNotification_stream (e : Env) (cn : Conn) (pre : List Backend) (pid : Int)
    (channel payload rest : Bytes)
    (hpre : ∀ m ∈ pre, m.WellFormed ∧ m.tag ∈ parameterStatusMsg :: notifyTags)
    (hn : (Backend.notificationResponse pid channel payload).WellFormed) :
    ((∀ m ∈ pre, m.tag ≠ parameterStatusMsg) →
      readNotification e
          { cn with rd := stream pre ++ (Backend.notificationResponse pid channel payload).bytes ++ rest } =
        .ok (channel, payload) { cn with rd := rest }) ∧
    (∀ ms₁ p ms₂, pre = ms₁ ++ .other parameterStatusMsg p :: ms₂ →
      (∀ m ∈ ms₁, m.tag ≠ parameterStatusMsg) →
      readNotification e
          { cn with rd := stream pre ++ (Backend.notificationResponse pid channel payload).bytes ++ rest } =
        .stop (.err (unexpectedNotification parameterStatusMsg))
          { cn with rd := p ++ stream ms₂ ++ (Backend.notificationResponse pid channel payload).bytes ++ rest }) := by
  -- without a ParameterStatus, every message of a stretch is one the loop goes round on
  have hacc : ∀ ms : List Backend, (∀ m ∈ ms, m ∈ pre) → (∀ m ∈ ms, m.tag ≠ parameterStatusMsg) →
      ∀ m ∈ ms, m.WellFormed ∧ m.tag ∈ notifyTags := fun ms hsub hS m hm =>
    ⟨(hpre m (hsub m hm)).1, (List.mem_cons.mp (hpre m (hsub m hm)).2).resolve_left (hS m hm)⟩
  refine ⟨fun hS => ?_, fun ms₁ p ms₂ hsplit hS => ?_⟩
  · exact (readNotificationBody_passes pre (hacc pre (fun _ => id) hS)).runReader hn.fits
      (readNotificationBody_notification hn.content _) rfl
  · have hsub : ∀ m ∈ ms₁, m ∈ pre := fun m hm => hsplit ▸ List.mem_append_left _ hm
    have hfit := (hpre _ (hsplit ▸ List.mem_append_right _ (List.mem_cons_self _ _))).1.fits
    have hpass : Passes readNotificationBody e () cn ms₁ () cn :=
      readNotificationBody_passes ms₁ (hacc ms₁ hsub hS)
    have hrun := hpass.runReader
      (r := stream ms₂ ++ (Backend.notificationResponse pid channel payload).bytes ++ rest) hfit
      (readNotificationBody_parameterStatus _) rfl
    subst hsplit
    simpa [stream_append, List.append_assoc] using hrun

/-- A ParameterStatus, as a server sends when a setting changes, before the notification a
listener waits for. -/
theorem readNotification_parameterStatus_first :
    (∀ m ∈ [Backend.other parameterStatusMsg [97, 0, 98, 0]],
      m.WellFormed ∧ m.tag ∈ parameterStatusMsg :: notifyTags) ∧
    (Backend.notificationResponse 1 [99] [100]).WellFormed ∧
    readNotification Env.succeeding (Conn.ofInput
        (stream [.other parameterStatusMsg [97, 0, 98, 0]] ++
          (Backend.notificationResponse 1 [99] [100]).bytes ++ [])) =
      .stop (.err (unexpectedNotification parameterStatusMsg))
        (Conn.ofInput ([97, 0, 98, 0] ++ stream [] ++ (Backend.notificationResponse 1 [99] [100]).bytes ++ [])) :=
  ⟨by decide, by decide, (readNotification_stream Env.succeeding (Conn.ofInput [])
    [.other parameterStatusMsg [97, 0, 98, 0]] 1 [99] [100] [] (by decide) (by decide)).2
    [] [97, 0, 98, 0] [] rfl (by decide)⟩

end GoPg
