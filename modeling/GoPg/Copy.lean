import GoPg.Prepared
import GoPg.Query

/-!
# COPY

`COPY ... FROM STDIN` and `COPY ... TO STDOUT` start with CopyInResponse, resp.
CopyOutResponse, which `readCopyInResponse` and `readCopyOutResponse` wait for
(`copyResponseReaders_response`). During COPY TO, `readCopyData` hands the payload of every
CopyData to the sink `w`, skips CopyDone, keeps the Result of the CommandComplete and returns at
ReadyForQuery.

`readCopyData_sink` says what the sink receives over any such response: exactly the payloads of
its CopyData messages, in stream order, none lost or repeated, whatever the NoticeResponse and
ParameterStatus messages among them. The sink may fail: `readCopyData` then returns its error at
once, having read through that CopyData and no further, and the sink has received nothing after
it. Whether a write fails is read off the calls before it (`Env.firstError`).
-/

namespace GoPg

/-- The payload of a CopyData. -/
def Backend.copyData? : Backend → Option Bytes
  | .other t p => if t = copyDataMsg then some p else none
  | _ => none

/-- The writes `readCopyData` makes to its sink over a stretch of the stream: one a CopyData,
of its payload, in stream order. -/
def copyWrites (ms : List Backend) : List Call := (ms.filterMap Backend.copyData?).map .write

/-- The Result of the last CommandComplete of a stretch, with no rows counted. -/
def lastCommandResult (ms : List Backend) : Option Result :=
  (ms.filterMap Backend.commandTag?).getLast?.map (newResult · 0)

/-- The message types `readCopyData` goes round on. -/
def copyTags : List UInt8 :=
  [copyDataMsg, copyDoneMsg, commandCompleteMsg, noticeResponseMsg, parameterStatusMsg]

/-- The chunks handed to the sink for two stretches of messages, one after the other. -/
theorem copyWrites_append (ms ms' : List Backend) :
    copyWrites (ms ++ ms') = copyWrites ms ++ copyWrites ms' := by
  simp [copyWrites]

/-- A message adds at most one write. -/
theorem copyWrites_singleton_reverse (m : Backend) : (copyWrites [m]).reverse = copyWrites [m] := by
  cases h : m.copyData? <;> simp [copyWrites, h]

/-- A CommandComplete at the end replaces the result kept so far. -/
theorem lastCommandResult_snoc (pre : List Backend) (m : Backend) :
    lastCommandResult (pre ++ [m]) = (m.commandTag?.map (newResult · 0)).or (lastCommandResult pre) := by
  cases h : m.commandTag? <;> simp [lastCommandResult, h, List.getLast?_append]

section Body

variable {e : Env} {cn : Conn} {r : Bytes}

/-- One pass of `readCopyData` over a well-formed message it goes round on, the sink accepting
its write if it is a CopyData: the message's write is logged, and the Result is that of a
CommandComplete. -/
theorem readCopyDataBody_pass {m : Backend} (hm : m.WellFormed) (ht : m.tag ∈ copyTags)
    (pre : List Backend) (hw : ∀ d, m.copyData? = some d → e.answer cn.log (.write d) = none) :
    readCopyDataBody (lastCommandResult pre) m.tag m.payload.length e { cn with rd := m.payload ++ r } =
      .ok (.next (lastCommandResult (pre ++ [m])))
        { cn with rd := r, log := copyWrites [m] ++ cn.log } := by
  cases m with
  | other t p =>
    obtain ⟨hcE, -, -, -⟩ := hm.content
    have hread : readN p.length e { cn with rd := p ++ r } = _ := readN_append rfl rfl
    simp only [copyTags, Backend.tag, List.mem_cons, List.not_mem_nil, or_false] at ht
    rcases ht with rfl | rfl | rfl | rfl | rfl
    · -- CopyData: the payload goes to the sink
      simp only [readCopyDataBody, Backend.tag, Backend.payload, if_true]
      rw [Go.bind_ok hread, call_bind,
        hw p (show (Backend.other copyDataMsg p).copyData? = some p by simp [Backend.copyData?])]
      simp +decide [copyWrites, lastCommandResult_snoc, Backend.copyData?, Backend.commandTag?]
    · -- CopyDone
      simp +decide only [readCopyDataBody, Backend.tag, Backend.payload, if_false, if_true]
      rw [Go.bind_ok (discardN_append rfl)]
      simp +decide [copyWrites, lastCommandResult_snoc, Backend.copyData?, Backend.commandTag?]
    · -- CommandComplete: its Result
      simp +decide only [readCopyDataBody, Backend.tag, Backend.payload, if_false, if_true]
      rw [Go.bind_ok hread]
      simp +decide [copyWrites, lastCommandResult_snoc, Backend.copyData?, Backend.commandTag?]
    · have hs : readCopyDataBody (lastCommandResult pre) noticeResponseMsg p.length e
          { cn with rd := p ++ r } = _ := readCopyDataBody_drops e _ cn r _ ⟨p, .inl rfl⟩
      rw [Backend.tag, Backend.payload, hs]
      simp +decide [copyWrites, lastCommandResult_snoc, Backend.copyData?, Backend.commandTag?]
    · have hs : readCopyDataBody (lastCommandResult pre) parameterStatusMsg p.length e
          { cn with rd := p ++ r } = _ := readCopyDataBody_drops e _ cn r _ ⟨p, .inr rfl⟩
      rw [Backend.tag, Backend.payload, hs]
      simp +decide [copyWrites, lastCommandResult_snoc, Backend.copyData?, Backend.commandTag?]
  | _ => simp +decide [copyTags, Backend.tag] at ht

/-- A CopyData whose write the sink refuses ends `readCopyData` with the sink's error, after its
payload. -/
theorem readCopyDataBody_sinkError {res : Option Result} {d : Bytes} {err : Err}
    (hw : e.answer cn.log (.write d) = some err) :
    readCopyDataBody res copyDataMsg d.length e { cn with rd := d ++ r } =
      .stop (.err err) { cn with rd := r, log := .write d :: cn.log } := by
  simp only [readCopyDataBody, if_true]
  rw [Go.bind_ok (readN_append rfl rfl), call_bind, hw]
  rfl

/-- `readCopyData` returns its Result at ReadyForQuery. -/
theorem readCopyDataBody_readyForQuery (res : Option Result) (p : Bytes) :
    readCopyDataBody res readyForQueryMsg p.length e { cn with rd := p ++ r } =
      .ok (.done (res, none)) { cn with rd := r } := by
  simp +decide only [readCopyDataBody, if_false, if_true]
  exact Go.bind_ok (Go.tryCatch_ok (Go.bind_ok (readN_append rfl rfl)))

end Body

/-- Over a stretch of accepted writes, `readCopyData` goes round on every message, logging the
writes of the stretch before each. -/
theorem readCopyData_passes (e : Env) (cn : Conn) (ms : List Backend)
    (hms : ∀ m ∈ ms, m.WellFormed ∧ m.tag ∈ copyTags)
    (hw : e.firstError cn.log (copyWrites ms) = none) :
    Passes readCopyDataBody e (lastCommandResult []) cn ms (lastCommandResult ms)
      { cn with log := (copyWrites ms).reverse ++ cn.log } := by
  have hpass := @Passes.of_stretches _ _ readCopyDataBody e lastCommandResult
    (fun pre => { cn with log := (copyWrites pre).reverse ++ cn.log }) ms
    fun pre m post hsplit => by
      have hm := hms m (hsplit ▸ List.mem_append_right _ (List.mem_cons_self _ _))
      refine ⟨hm.1.fits, fun r => ?_⟩
      have hw' : ∀ d, m.copyData? = some d →
          e.answer ((copyWrites pre).reverse ++ cn.log) (.write d) = none := by
        intro d hd
        have hcw : copyWrites ms = copyWrites pre ++ .write d :: copyWrites post := by
          rw [hsplit, copyWrites_append]
          simp [copyWrites, hd]
        rw [hcw, Env.firstError_append, Env.firstError] at hw
        obtain ⟨-, hd', -⟩ : _ ∧ _ ∧ _ := by simpa using hw
        exact hd'
      refine (@readCopyDataBody_pass e { cn with log := (copyWrites pre).reverse ++ cn.log } r m
        hm.1 hm.2 pre hw').trans ?_
      simp only [copyWrites_append, List.reverse_append, copyWrites_singleton_reverse,
        List.append_assoc]
  simpa using hpass

/-- `readCopyData` on a COPY TO response: well-formed CopyData, CopyDone, CommandComplete,
NoticeResponse and ParameterStatus messages in any order and number, then ReadyForQuery. If
the sink accepts every write, `readCopyData` has written to it exactly the payloads of the
CopyData messages, in stream order, returns the Result of the last CommandComplete with no
error, and leaves what follows the ReadyForQuery unread. If the sink refuses a write, the
first refused one, `readCopyData` returns the sink's error right after that CopyData: the
sink has received the payloads before it and that one, and nothing after it is read. -/
theorem readCopyData_sink (e : Env) (cn : Conn) (ms : List Backend) (p rest : Bytes)
    (hms : ∀ m ∈ ms, m.WellFormed ∧ m.tag ∈ copyTags) (hp : p.length + 4 < 2 ^ 31) :
    (e.firstError cn.log (copyWrites ms) = none →
      readCopyData e { cn with rd := stream ms ++ (Backend.other readyForQueryMsg p).bytes ++ rest } =
        .ok (lastCommandResult ms, none)
          { cn with rd := rest, log := (copyWrites ms).reverse ++ cn.log }) ∧
    (∀ ms₁ d ms₂ err, ms = ms₁ ++ .other copyDataMsg d :: ms₂ →
      e.firstError cn.log (copyWrites ms₁) = none →
      e.answer ((copyWrites ms₁).reverse ++ cn.log) (.write d) = some err →
      readCopyData e { cn with rd := stream ms ++ (Backend.other readyForQueryMsg p).bytes ++ rest } =
        .stop (.err err)
          { cn with rd := stream ms₂ ++ (Backend.other readyForQueryMsg p).bytes ++ rest,
                    log := .write d :: (copyWrites ms₁).reverse ++ cn.log }) := by
  refine ⟨fun hw => ?_, fun ms₁ d ms₂ err hsplit hw herr => ?_⟩
  · exact (readCopyData_passes e cn ms hms hw).runReader hp
      (readCopyDataBody_readyForQuery _ p) rfl
  · have hsub : ∀ m ∈ ms₁, m.WellFormed ∧ m.tag ∈ copyTags :=
      fun m hm => hms m (hsplit ▸ List.mem_append_left _ hm)
    have hfit := (hms _ (hsplit ▸ List.mem_append_right _ (List.mem_cons_self _ _))).1.fits
    have hrun := (readCopyData_passes e cn ms₁ hsub hw).runReader
      (r := stream ms₂ ++ (Backend.other readyForQueryMsg p).bytes ++ rest) hfit
      (readCopyDataBody_sinkError herr) rfl
    subst hsplit
    simpa [stream_append, List.append_assoc] using hrun

/-- Two rows of COPY TO output and the command tag, to a sink that accepts every write. -/
theorem readCopyData_twoRows :
    (∀ m ∈ [Backend.other copyDataMsg [49, 10], .other copyDataMsg [50, 10], .other copyDoneMsg [],
        .other commandCompleteMsg (ascii "COPY 2")], m.WellFormed ∧ m.tag ∈ copyTags) ∧
    readCopyData Env.succeeding (Conn.ofInput
        (stream [.other copyDataMsg [49, 10], .other copyDataMsg [50, 10], .other copyDoneMsg [],
          .other commandCompleteMsg (ascii "COPY 2")] ++ (Backend.other readyForQueryMsg [73]).bytes ++ [])) =
      .ok (some (newResult (ascii "COPY 2") 0), none)
        { Conn.ofInput [] with log := [.write [50, 10], .write [49, 10]] } := by
  have hms : ∀ m ∈ [Backend.other copyDataMsg [49, 10], .other copyDataMsg [50, 10],
      .other copyDoneMsg [], .other commandCompleteMsg (ascii "COPY 2")],
      m.WellFormed ∧ m.tag ∈ copyTags := by decide
  exact ⟨hms, (readCopyData_sink Env.succeeding (Conn.ofInput []) _ [73] [] hms (by decide)).1 rfl⟩

/-- `readCopyInResponse` and `readCopyOutResponse` on NoticeResponse and ParameterStatus
messages, then the response they wait for: they return, having read exactly through it. -/
theorem copyResponseReaders_response (e : Env) (cn : Conn) (ms : List Backend) (p rest : Bytes)
    (hms : ∀ m ∈ ms, m.WellFormed ∧ m.tag ∈ sideTags) (hp : p.length + 4 < 2 ^ 31) :
    readCopyInResponse e { cn with rd := stream ms ++ (Backend.other copyInResponseMsg p).bytes ++ rest } =
        .ok () { cn with rd := rest } ∧
      readCopyOutResponse e
          { cn with rd := stream ms ++ (Backend.other copyOutResponseMsg p).bytes ++ rest } =
        .ok () { cn with rd := rest } :=
  ⟨awaitBody_response (by decide) (by decide) hms hp, awaitBody_response (by decide) (by decide) hms hp⟩

/-- A NoticeResponse before the CopyOutResponse of a COPY TO. -/
theorem readCopyOutResponse_afterNotice :
    (∀ m ∈ [Backend.other noticeResponseMsg [0]], m.WellFormed ∧ m.tag ∈ sideTags) ∧
    readCopyOutResponse Env.succeeding (Conn.ofInput
        (stream [.other noticeResponseMsg [0]] ++ (Backend.other copyOutResponseMsg [0, 0, 0]).bytes ++ [])) =
      .ok () (Conn.ofInput []) := by
  have hms : ∀ m ∈ [Backend.other noticeResponseMsg [0]], m.WellFormed ∧ m.tag ∈ sideTags := by
    decide
  exact ⟨hms, (copyResponseReaders_response Env.succeeding (Conn.ofInput []) _ [0, 0, 0] [] hms
    (by decide)).2⟩

end GoPg
