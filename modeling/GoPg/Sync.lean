import GoPg.Run

/-!
# Where the prepare, bind and COPY readers stop on a server error

After an error the server skips to the next Sync and answers it with ReadyForQuery, so a
response with an ErrorResponse in it still ends with ReadyForQuery. `readParseDescribeSync`,
`readBindMsg`, `readCopyInResponse`, `readCopyOutResponse` and `readCopyData` return the error
as soon as they have read the ErrorResponse: the ReadyForQuery after it is left unread, for
the next reader on the connection to take as its own response.

The same readers hand NoticeResponse and ParameterStatus to `sideChannel` (`*_drops`).
-/

namespace GoPg

section Bodies

variable {e : Env} {cn : Conn} {r : Bytes}

/-- A body drops side-channel messages when, for their two types, it is `sideChannel`. -/
theorem dropsSideChannel_of_eq {σ α : Type} {body : σ → UInt8 → Int → Go (Step σ α)}
    (reader : String)
    (h : ∀ s t l, t = noticeResponseMsg ∨ t = parameterStatusMsg → body s t l = sideChannel reader s t l) :
    DropsSideChannel body := by
  rintro e s cn r n hn
  obtain ⟨p, hp | hp⟩ := id hn <;> subst hp
  · show body s noticeResponseMsg p.length e { cn with rd := p ++ r } = _
    rw [h _ _ _ (.inl rfl)]
    exact sideChannel_drops _ hn
  · show body s parameterStatusMsg p.length e { cn with rd := p ++ r } = _
    rw [h _ _ _ (.inr rfl)]
    exact sideChannel_drops _ hn

/-- `readParseDescribeSync` hands NoticeResponse and ParameterStatus to `sideChannel`. -/
theorem readParseDescribeSyncBody_drops : DropsSideChannel readParseDescribeSyncBody :=
  dropsSideChannel_of_eq "readParseDescribeSync" <| by
    rintro s t l (rfl | rfl) <;> simp +decide only [readParseDescribeSyncBody, if_false]

/-- `readBindMsg` hands NoticeResponse and ParameterStatus to `sideChannel`. -/
theorem readBindMsgBody_drops : DropsSideChannel readBindMsgBody :=
  dropsSideChannel_of_eq "readBindMsg" <| by
    rintro s t l (rfl | rfl) <;> simp +decide only [readBindMsgBody, if_false]

/-- A reader waiting for a type other than the side channel's hands them to `sideChannel`. -/
theorem awaitBody_drops {reader : String} {tag : UInt8} (hN : noticeResponseMsg ≠ tag)
    (hS : parameterStatusMsg ≠ tag) : DropsSideChannel (awaitBody reader tag) :=
  dropsSideChannel_of_eq reader <| by
    rintro s t l (rfl | rfl) <;> simp +decide only [awaitBody, hN, hS, if_false]

/-- `readCopyData` hands NoticeResponse and ParameterStatus to `sideChannel`. -/
theorem readCopyDataBody_drops : DropsSideChannel readCopyDataBody :=
  dropsSideChannel_of_eq "readCopyData" <| by
    rintro s t l (rfl | rfl) <;> simp +decide only [readCopyDataBody, if_false]

/-- `readReadyForQuery` hands NoticeResponse and ParameterStatus to `sideChannel`. -/
theorem readReadyForQueryBody_drops : DropsSideChannel readReadyForQueryBody :=
  dropsSideChannel_of_eq "readReadyForQueryOrError" <| by
    rintro s t l (rfl | rfl) <;> simp +decide only [readReadyForQueryBody, if_false]

/-- `throw (← readError)` on a well-formed ErrorResponse: the server's error, with exactly the
payload consumed. -/
theorem throw_readError {α : Type} {fields : List (UInt8 × Bytes)}
    (hok : (Backend.errorResponse fields).ContentOk)
    (h : cn.rd = (Backend.errorResponse fields).payload ++ r) :
    (do throw (← readError) : Go α) e cn =
      .stop (.err (errorOf cn.remoteAddr fields)) { cn with rd := r } :=
  Go.bind_ok (readError_errorResponse h hok)

/-- A body whose ErrorResponse case throws the server's error stops on a well-formed
ErrorResponse with it, having consumed exactly the message. -/
theorem errorResponse_stop {σ α : Type} {body : σ → UInt8 → Int → Go (Step σ α)} {s : σ}
    (hb : ∀ s l, body s errorResponseMsg l = (do throw (← readError) : Go (Step σ α)))
    {fields : List (UInt8 × Bytes)} (hok : (Backend.errorResponse fields).ContentOk) :
    body s (Backend.errorResponse fields).tag (Backend.errorResponse fields).payload.length e
        { cn with rd := (Backend.errorResponse fields).payload ++ r } =
      .stop (.err (errorOf cn.remoteAddr fields)) { cn with rd := r } := by
  rw [Backend.tag, hb]
  exact throw_readError hok rfl

end Bodies

/-- On a well-formed ErrorResponse, after any stretch of the response they go round on, the
five readers return the server's error at once: what follows the ErrorResponse, the
ReadyForQuery that closes the response included, is left unread. -/
theorem syncReaders_stop_at_error (e : Env) (cn : Conn) (ms : List Backend)
    {fields : List (UInt8 × Bytes)} (hok : (Backend.errorResponse fields).WellFormed)
    (rest : Bytes) :
    (∀ s cn', Passes readParseDescribeSyncBody e Columns.nil cn ms s cn' →
      readParseDescribeSync e
          { cn with rd := stream ms ++ (Backend.errorResponse fields).bytes ++ rest } =
        .stop (.err (errorOf cn'.remoteAddr fields)) { cn' with rd := rest }) ∧
    (∀ cn', Passes readBindMsgBody e () cn ms () cn' →
      readBindMsg e { cn with rd := stream ms ++ (Backend.errorResponse fields).bytes ++ rest } =
        .stop (.err (errorOf cn'.remoteAddr fields)) { cn' with rd := rest }) ∧
    (∀ cn', Passes (awaitBody "readCopyInResponse" copyInResponseMsg) e () cn ms () cn' →
      readCopyInResponse e
          { cn with rd := stream ms ++ (Backend.errorResponse fields).bytes ++ rest } =
        .stop (.err (errorOf cn'.remoteAddr fields)) { cn' with rd := rest }) ∧
    (∀ cn', Passes (awaitBody "readCopyOutResponse" copyOutResponseMsg) e () cn ms () cn' →
      readCopyOutResponse e
          { cn with rd := stream ms ++ (Backend.errorResponse fields).bytes ++ rest } =
        .stop (.err (errorOf cn'.remoteAddr fields)) { cn' with rd := rest }) ∧
    (∀ s cn', Passes readCopyDataBody e none cn ms s cn' →
      readCopyData e { cn with rd := stream ms ++ (Backend.errorResponse fields).bytes ++ rest } =
        .stop (.err (errorOf cn'.remoteAddr fields)) { cn' with rd := rest }) :=
  ⟨fun _ _ hp => hp.runReader hok.fits (errorResponse_stop
      (by intro s l; simp +decide only [readParseDescribeSyncBody, if_false, if_true]) hok.content) rfl,
   fun _ hp => hp.runReader hok.fits (errorResponse_stop
      (by intro s l; simp +decide only [readBindMsgBody, if_false, if_true]) hok.content) rfl,
   fun _ hp => hp.runReader hok.fits (errorResponse_stop
      (by intro s l; simp +decide only [awaitBody, if_false, if_true]) hok.content) rfl,
   fun _ hp => hp.runReader hok.fits (errorResponse_stop
      (by intro s l; simp +decide only [awaitBody, if_false, if_true]) hok.content) rfl,
   fun _ _ hp => hp.runReader hok.fits (errorResponse_stop
      (by intro s l; simp +decide only [readCopyDataBody, if_false, if_true]) hok.content) rfl⟩

/-- An error in answer to Bind, then the ReadyForQuery of the Sync after it. -/
theorem readBindMsg_error_leaves_readyForQuery :
    readBindMsg Env.succeeding (Conn.ofInput ((Backend.errorResponse [(83, ascii "ERROR")]).bytes ++
        (Backend.other readyForQueryMsg [73]).bytes)) =
      .stop (.err (errorOf [] [(83, ascii "ERROR")]))
        (Conn.ofInput (Backend.other readyForQueryMsg [73]).bytes) :=
  (syncReaders_stop_at_error Env.succeeding (Conn.ofInput []) [] (by decide) _).2.1 _ (.nil _ _)

end GoPg
