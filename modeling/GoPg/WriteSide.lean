import GoPg.Lookahead

/-!
# The readers send nothing

The response readers only read: whatever the stream holds, they leave the write buffer as they
found it, and the only calls they make are on the caller's model and scanner and on the COPY
sink (`readers_sendNothing`). In particular no reader writes to the server or starts TLS in the
middle of a response, and a request being built in the buffer survives any reader. Only
`startup`, which sends the StartupMessage and the password messages, writes.

`Go.SendsNothing` is closed under the monad's operations; the stream primitives change nothing
but the unread bytes.
-/

namespace GoPg

variable {α β σ : Type}

/-- The calls a reader may make: on the caller's model and scanner, and on the COPY sink. -/
def Call.OnCaller : Call → Bool
  | .ormNewModel | .reset | .newRow _ | .scanColumn .. | .addModel _ | .write _ => true
  | .send _ | .saslStep .. | .saslState | .startTLS => false

/-- Engine code that sends nothing to the server: it leaves the write buffer as it found it, and
every call it makes is on the caller's model, scanner or COPY sink. -/
def Go.SendsNothing (x : Go α) : Prop :=
  ∀ e cn, (x e cn).conn.wr = cn.wr ∧
    ∃ calls, (x e cn).conn.log = calls ++ cn.log ∧ ∀ k ∈ calls, k.OnCaller

namespace Go.SendsNothing

/-- Code that changes neither the write buffer nor the log. -/
theorem of_frame {x : Go α} (h : ∀ e cn, (x e cn).conn.wr = cn.wr ∧ (x e cn).conn.log = cn.log) :
    x.SendsNothing := fun e cn =>
  ⟨(h e cn).1, [], (h e cn).2, fun _ hk => absurd hk (List.not_mem_nil _)⟩

/-- A step, then the rest: the calls of both are on the caller's side. -/
theorem bind {x : Go α} {f : α → Go β} (hx : x.SendsNothing) (hf : ∀ a, (f a).SendsNothing) :
    (x >>= f).SendsNothing := fun e cn => by
  obtain ⟨hw₁, c₁, hl₁, hc₁⟩ := hx e cn
  cases h : x e cn with
  | stop s cn₁ =>
    rw [h] at hw₁ hl₁
    rw [bind_stop h]
    exact ⟨hw₁, c₁, hl₁, hc₁⟩
  | ok a cn₁ =>
    rw [h] at hw₁ hl₁
    rw [bind_ok h]
    obtain ⟨hw₂, c₂, hl₂, hc₂⟩ := hf a e cn₁
    refine ⟨hw₂.trans hw₁, c₂ ++ c₁, by rw [hl₂, List.append_assoc, ← hl₁]; rfl, fun k hk => ?_⟩
    exact (List.mem_append.mp hk).elim (hc₂ k) (hc₁ k)

/-- Code and the handler of its errors. -/
theorem tryCatch {x : Go α} {h : Err → Go α} (hx : x.SendsNothing) (hh : ∀ err, (h err).SendsNothing) :
    (tryCatch x h : Go α).SendsNothing := fun e cn => by
  obtain ⟨hw₁, c₁, hl₁, hc₁⟩ := hx e cn
  cases hr : x e cn with
  | ok a cn₁ =>
    rw [hr] at hw₁ hl₁
    rw [tryCatch_ok hr]
    exact ⟨hw₁, c₁, hl₁, hc₁⟩
  | stop s cn₁ =>
    rw [hr] at hw₁ hl₁
    cases s with
    | panic q =>
      rw [tryCatch_panic hr]
      exact ⟨hw₁, c₁, hl₁, hc₁⟩
    | err err =>
      rw [Go.tryCatch_err hr]
      obtain ⟨hw₂, c₂, hl₂, hc₂⟩ := hh err e cn₁
      refine ⟨hw₂.trans hw₁, c₂ ++ c₁, by rw [hl₂, List.append_assoc, ← hl₁]; rfl, fun k hk => ?_⟩
      exact (List.mem_append.mp hk).elim (hc₂ k) (hc₁ k)

/-- Either branch of an `if`. -/
theorem ite {p : Prop} [Decidable p] {x y : Go α} (hx : x.SendsNothing) (hy : y.SendsNothing) :
    (if p then x else y).SendsNothing := by
  split <;> assumption

/-- The same for an `if` whose branches use the condition. -/
theorem dite {p : Prop} [Decidable p] {x : p → Go α} {y : ¬p → Go α}
    (hx : ∀ h, (x h).SendsNothing) (hy : ∀ h, (y h).SendsNothing) : (dite p x y).SendsNothing := by
  by_cases h : p
  · rw [dif_pos h]; exact hx h
  · rw [dif_neg h]; exact hy h

/-- A loop run with the stream's length as fuel, whatever the fuel. -/
theorem byStream {loop : Nat → Go α} (h : ∀ n, (loop n).SendsNothing) :
    (Go.byStream loop).SendsNothing := fun e cn => h _ e cn

end Go.SendsNothing

/-! ## The primitives -/

section Primitives

/-- `pure` changes nothing. -/
theorem pure_sendsNothing (a : α) : (pure a : Go α).SendsNothing := .of_frame fun _ _ => ⟨rfl, rfl⟩

/-- An error changes nothing. -/
theorem throw_sendsNothing (err : Err) : (throw err : Go α).SendsNothing :=
  .of_frame fun _ _ => ⟨rfl, rfl⟩

/-- A panic changes nothing. -/
theorem panic_sendsNothing (p : Panic) : (Go.panic p : Go α).SendsNothing :=
  .of_frame fun _ _ => ⟨rfl, rfl⟩

/-- Looking at the connection changes nothing. -/
theorem conn_sendsNothing : Go.conn.SendsNothing := .of_frame fun _ _ => ⟨rfl, rfl⟩

/-- A change of the connection that keeps its write side. -/
theorem modify_sendsNothing {f : Conn → Conn} (h : ∀ c, (f c).wr = c.wr ∧ (f c).log = c.log) :
    (Go.modify f).SendsNothing :=
  .of_frame fun _ => h

/-- A call on the caller's model, scanner or COPY sink. -/
theorem call_sendsNothing {k : Call} (hk : k.OnCaller) : (call k).SendsNothing := fun _ _ =>
  ⟨rfl, [k], rfl, fun _ h => (List.mem_singleton.mp h) ▸ hk⟩

/-- Mapping over a result sends what the code sent. -/
theorem Go.SendsNothing.map {x : Go α} {f : α → β} (hx : x.SendsNothing) : (f <$> x).SendsNothing :=
  hx.bind fun _ => pure_sendsNothing _

/-- `ReadByte` changes only the unread bytes. -/
theorem readByte_sendsNothing : readByte.SendsNothing := .of_frame fun e cn => by
  unfold readByte
  split <;> exact ⟨rfl, rfl⟩

/-- `ReadN` changes only the unread bytes. -/
theorem readN_sendsNothing (n : Int) : (readN n).SendsNothing := .of_frame fun e cn => by
  unfold readN
  split_ifs <;> exact ⟨rfl, rfl⟩

/-- `readString` changes only the unread bytes. -/
theorem readString_sendsNothing : readString.SendsNothing := .of_frame fun e cn => by
  unfold readString
  split <;> exact ⟨rfl, rfl⟩

/-- `ReadSlice` changes only the unread bytes. -/
theorem readSlice_sendsNothing : readSlice.SendsNothing := .of_frame fun e cn => by
  unfold readSlice
  split
  · exact ⟨rfl, rfl⟩
  · split_ifs <;> exact ⟨rfl, rfl⟩

/-- `readInt16` changes only the unread bytes. -/
theorem readInt16_sendsNothing : readInt16.SendsNothing :=
  (readN_sendsNothing _).bind fun _ => pure_sendsNothing _

/-- `readInt32` changes only the unread bytes. -/
theorem readInt32_sendsNothing : readInt32.SendsNothing :=
  (readN_sendsNothing _).bind fun _ => pure_sendsNothing _

/-- `readMessageType` changes only the unread bytes. -/
theorem readMessageType_sendsNothing : readMessageType.SendsNothing :=
  readByte_sendsNothing.bind fun _ => readInt32_sendsNothing.bind fun _ => pure_sendsNothing _

/-- Discarding a payload changes only the unread bytes. -/
theorem discardN_sendsNothing (l : Int) : (discardN l).SendsNothing :=
  (readN_sendsNothing _).bind fun _ => pure_sendsNothing _

/-- The chunk loop of `readBytes` sends nothing. -/
theorem readBytesLoop_sendsNothing : ∀ fuel b, (readBytesLoop fuel b).SendsNothing
  | 0, _ => throw_sendsNothing _
  | fuel + 1, _ => readSlice_sendsNothing.bind fun _ =>
    .ite (readBytesLoop_sendsNothing fuel _) (pure_sendsNothing _)

/-- The field loop of `readError` sends nothing. -/
theorem readErrorFields_sendsNothing : ∀ fuel m, (readErrorFields fuel m).SendsNothing
  | 0, _ => throw_sendsNothing _
  | fuel + 1, _ => readByte_sendsNothing.bind fun _ =>
    .ite (pure_sendsNothing _)
      (readString_sendsNothing.bind fun _ => readErrorFields_sendsNothing fuel _)

/-- `readError` sends nothing. -/
theorem readError_sendsNothing : readError.SendsNothing :=
  conn_sendsNothing.bind fun _ =>
    (Go.SendsNothing.byStream fun _ => readErrorFields_sendsNothing _ _).bind fun _ =>
      pure_sendsNothing _

/-- The column loop of `readRowDescription` sends nothing. -/
theorem readColumnNames_sendsNothing :
    ∀ (columns : Columns) is, (readColumnNames columns is).SendsNothing
  | _, [] => pure_sendsNothing _
  | _, _ :: rest =>
    (Go.SendsNothing.byStream fun _ => readBytesLoop_sendsNothing _ _).bind fun _ =>
      (readN_sendsNothing _).bind fun _ => readColumnNames_sendsNothing _ rest

/-- `readRowDescription` sends nothing. -/
theorem readRowDescription_sendsNothing (columns : Columns) :
    (readRowDescription columns).SendsNothing :=
  readInt16_sendsNothing.bind fun _ =>
    (Go.SendsNothing.dite (fun _ => .dite (fun _ => pure_sendsNothing _) fun _ => panic_sendsNothing _)
      fun _ => pure_sendsNothing _).bind fun _ => readColumnNames_sendsNothing _ _

/-- Reading a DataRow value sends nothing. -/
theorem readValue_sendsNothing : readValue.SendsNothing :=
  readInt32_sendsNothing.bind fun _ => .ite (readN_sendsNothing _).map (pure_sendsNothing _)

/-- The value loop of `readDataRow` calls only the scanner. -/
theorem scanColumns_sendsNothing (m : ModelRef) (columns : Columns) :
    ∀ is retErr, (scanColumns m columns is retErr).SendsNothing
  | [], _ => pure_sendsNothing _
  | _ :: rest, _ => readValue_sendsNothing.bind fun _ =>
    (Go.SendsNothing.dite (fun _ => pure_sendsNothing _) fun _ => panic_sendsNothing _).bind fun _ =>
      (call_sendsNothing (by rfl)).bind fun _ => scanColumns_sendsNothing m columns rest _

end Primitives

/-! ## The readers -/

section Readers

/-- `readDataRow` calls only the scanner. -/
theorem readDataRow_sendsNothing (m : ModelRef) (columns : Columns) :
    (readDataRow m columns).SendsNothing :=
  (readInt16_sendsNothing.bind fun _ => scanColumns_sendsNothing _ _ _ _).tryCatch fun _ =>
    pure_sendsNothing _

/-- `newModel` calls only the caller's model. -/
theorem newModel_sendsNothing : ∀ mod, (newModel mod).SendsNothing
  | .model => call_sendsNothing (by rfl)
  | .value => (call_sendsNothing (by rfl)).bind fun err => by
    cases err
    · exact call_sendsNothing (by rfl)
    · exact pure_sendsNothing _

/-- Making the model on the first row calls only the caller's model. -/
theorem ensureModel_sendsNothing (mod : Mod) (v : DataVars) : (ensureModel mod v).SendsNothing := by
  unfold ensureModel
  split
  · exact pure_sendsNothing _
  · exact (newModel_sendsNothing _).bind fun err => by
      cases err
      · exact pure_sendsNothing _
      · exact pure_sendsNothing _

/-- A DataRow case calls only the caller's model and scanner. -/
theorem addDataRow_sendsNothing (v : DataVars) (columns : Columns) :
    (addDataRow v columns).SendsNothing := by
  unfold addDataRow
  split
  · exact panic_sendsNothing _
  · refine (call_sendsNothing (by rfl)).bind fun _ => (readDataRow_sendsNothing _ _).bind fun err => ?_
    cases err
    · exact (call_sendsNothing (by rfl)).bind fun _ => (pure_sendsNothing _).bind fun _ =>
        pure_sendsNothing _
    · exact (pure_sendsNothing _).bind fun _ => pure_sendsNothing _

/-- The side-channel cases send nothing. -/
theorem sideChannel_sendsNothing (reader : String) (s : σ) (c : UInt8) (l : Int) :
    (sideChannel reader s c l : Go (Step σ α)).SendsNothing :=
  .ite ((discardN_sendsNothing _).bind fun _ => pure_sendsNothing _) <|
    .ite ((discardN_sendsNothing _).bind fun _ => pure_sendsNothing _) (throw_sendsNothing _)

/-- The `switch` of `readSimpleQuery` and `readExtQuery` sends nothing. -/
theorem queryBody_sendsNothing (reader : String) (skip : UInt8) (v : QueryVars) (c : UInt8)
    (l : Int) : (queryBody reader skip v c l).SendsNothing :=
  .ite ((discardN_sendsNothing _).bind fun _ => pure_sendsNothing _) <|
  .ite ((discardN_sendsNothing _).bind fun _ => pure_sendsNothing _) <|
  .ite ((readN_sendsNothing _).bind fun _ => pure_sendsNothing _) <|
  .ite ((discardN_sendsNothing _).bind fun _ => pure_sendsNothing _) <|
  .ite (readError_sendsNothing.bind fun _ => pure_sendsNothing _) (sideChannel_sendsNothing _ _ _ _)

/-- The cases the data readers share send nothing. -/
theorem dataTail_sendsNothing (reader : String) (v : DataVars) (c : UInt8) (l : Int) :
    (dataTail reader v c l).SendsNothing :=
  .ite ((readN_sendsNothing _).bind fun _ => pure_sendsNothing _) <|
  .ite ((discardN_sendsNothing _).bind fun _ => pure_sendsNothing _) <|
  .ite (readError_sendsNothing.bind fun _ => pure_sendsNothing _) (sideChannel_sendsNothing _ _ _ _)

/-- The `switch` of `readSimpleQueryData` calls only the caller's model and scanner. -/
theorem readSimpleQueryDataBody_sendsNothing (mod : Mod) (v : DataVars) (c : UInt8) (l : Int) :
    (readSimpleQueryDataBody mod v c l).SendsNothing :=
  .ite (conn_sendsNothing.bind fun _ =>
      ((readRowDescription_sendsNothing _).tryCatch fun _ =>
        (modify_sendsNothing fun _ => by exact ⟨rfl, rfl⟩).bind fun _ => throw_sendsNothing _).bind fun _ =>
      (modify_sendsNothing fun _ => by exact ⟨rfl, rfl⟩).bind fun _ =>
        (ensureModel_sendsNothing _ _).bind fun _ => pure_sendsNothing _) <|
  .ite (conn_sendsNothing.bind fun _ => (addDataRow_sendsNothing _ _).bind fun _ =>
      pure_sendsNothing _)
    (dataTail_sendsNothing _ _ _ _)

/-- The `switch` of `readExtQueryData` calls only the caller's model and scanner. -/
theorem readExtQueryDataBody_sendsNothing (mod : Mod) (columns : Columns) (v : DataVars)
    (c : UInt8) (l : Int) : (readExtQueryDataBody mod columns v c l).SendsNothing :=
  .ite ((discardN_sendsNothing _).bind fun _ => pure_sendsNothing _) <|
  .ite ((ensureModel_sendsNothing _ _).bind fun _ =>
      (addDataRow_sendsNothing _ _).bind fun _ => pure_sendsNothing _)
    (dataTail_sendsNothing _ _ _ _)

/-- The `switch` of `readReadyForQuery` sends nothing. -/
theorem readReadyForQueryBody_sendsNothing (v : Option Result × Option Err) (c : UInt8) (l : Int) :
    (readReadyForQueryBody v c l).SendsNothing :=
  .ite ((readN_sendsNothing _).bind fun _ => pure_sendsNothing _) <|
  .ite ((discardN_sendsNothing _).bind fun _ => pure_sendsNothing _) <|
  .ite (readError_sendsNothing.bind fun _ => pure_sendsNothing _) (sideChannel_sendsNothing _ _ _ _)

/-- Catching an error sends what the code sent. -/
theorem errOf_sendsNothing {x : Go α} (hx : x.SendsNothing) : (Go.errOf x).SendsNothing :=
  (hx.bind fun _ => pure_sendsNothing _).tryCatch fun _ => pure_sendsNothing _

/-- The `switch` of `readParseDescribeSync` sends nothing. -/
theorem readParseDescribeSyncBody_sendsNothing (columns : Columns) (c : UInt8) (l : Int) :
    (readParseDescribeSyncBody columns c l).SendsNothing :=
  .ite ((discardN_sendsNothing _).bind fun _ => pure_sendsNothing _) <|
  .ite ((readRowDescription_sendsNothing _).bind fun _ => pure_sendsNothing _) <|
  .ite ((discardN_sendsNothing _).bind fun _ => pure_sendsNothing _) <|
  .ite ((discardN_sendsNothing _).bind fun _ => pure_sendsNothing _) <|
  .ite ((errOf_sendsNothing (readN_sendsNothing _)).bind fun _ => pure_sendsNothing _) <|
  .ite (readError_sendsNothing.bind fun _ => throw_sendsNothing _) (sideChannel_sendsNothing _ _ _ _)

/-- The `switch` of `readBindMsg` sends nothing. -/
theorem readBindMsgBody_sendsNothing (u : Unit) (c : UInt8) (l : Int) :
    (readBindMsgBody u c l).SendsNothing :=
  .ite ((discardN_sendsNothing _).bind fun _ => pure_sendsNothing _) <|
  .ite ((discardN_sendsNothing _).bind fun _ => pure_sendsNothing _) <|
  .ite (readError_sendsNothing.bind fun _ => throw_sendsNothing _) (sideChannel_sendsNothing _ _ _ _)

/-- The `switch` of the readers that wait for one message sends nothing. -/
theorem awaitBody_sendsNothing (reader : String) (tag : UInt8) (u : Unit) (c : UInt8) (l : Int) :
    (awaitBody reader tag u c l).SendsNothing :=
  .ite ((discardN_sendsNothing _).bind fun _ => pure_sendsNothing _) <|
  .ite (readError_sendsNothing.bind fun _ => throw_sendsNothing _) (sideChannel_sendsNothing _ _ _ _)

/-- CopyData goes to the sink, the one call of a COPY reader. -/
theorem readCopyDataBody_sendsNothing (res : Option Result) (c : UInt8) (l : Int) :
    (readCopyDataBody res c l).SendsNothing :=
  .ite ((readN_sendsNothing _).bind fun _ => (call_sendsNothing (by rfl)).bind fun err => by
      cases err
      · exact pure_sendsNothing _
      · exact throw_sendsNothing _) <|
  .ite ((discardN_sendsNothing _).bind fun _ => pure_sendsNothing _) <|
  .ite ((readN_sendsNothing _).bind fun _ => pure_sendsNothing _) <|
  .ite ((errOf_sendsNothing (readN_sendsNothing _)).bind fun _ => pure_sendsNothing _) <|
  .ite (readError_sendsNothing.bind fun _ => throw_sendsNothing _) (sideChannel_sendsNothing _ _ _ _)

/-- The `switch` of `readNotification` sends nothing. -/
theorem readNotificationBody_sendsNothing (u : Unit) (c : UInt8) (l : Int) :
    (readNotificationBody u c l).SendsNothing :=
  .ite ((discardN_sendsNothing _).bind fun _ => pure_sendsNothing _) <|
  .ite ((discardN_sendsNothing _).bind fun _ => pure_sendsNothing _) <|
  .ite (readError_sendsNothing.bind fun _ => throw_sendsNothing _) <|
  .ite ((discardN_sendsNothing _).bind fun _ => pure_sendsNothing _) <|
  .ite (readInt32_sendsNothing.bind fun _ => readString_sendsNothing.bind fun _ =>
      readString_sendsNothing.bind fun _ => pure_sendsNothing _) (throw_sendsNothing _)

variable {body : σ → UInt8 → Int → Go (Step σ α)}

/-- A loop over messages whose `switch` sends nothing sends nothing, under every fuel. -/
theorem messageLoop_sendsNothing (hb : ∀ s c l, (body s c l).SendsNothing) :
    ∀ fuel s, (messageLoop body fuel s).SendsNothing
  | 0, _ => throw_sendsNothing _
  | fuel + 1, s => readMessageType_sendsNothing.bind fun _ => (hb s _ _).bind fun st => by
    cases st
    · exact messageLoop_sendsNothing hb fuel _
    · exact pure_sendsNothing _

/-- A reader whose `switch` sends nothing sends nothing. -/
theorem runReader_sendsNothing (hb : ∀ s c l, (body s c l).SendsNothing) (s : σ) :
    (runReader body s).SendsNothing :=
  .byStream fun fuel => messageLoop_sendsNothing hb fuel s

end Readers

/-- For every stream and every behaviour of the collaborators, no response reader writes to the
buffer or sends, and the only calls it makes are on the caller's model, scanner and COPY sink. -/
theorem readers_sendNothing (mod : Mod) (columns : Columns) :
    readSimpleQuery.SendsNothing ∧ readExtQuery.SendsNothing ∧
    (readSimpleQueryData mod).SendsNothing ∧ (readExtQueryData mod columns).SendsNothing ∧
    readReadyForQuery.SendsNothing ∧ readParseDescribeSync.SendsNothing ∧
    readBindMsg.SendsNothing ∧ readCloseCompleteMsg.SendsNothing ∧
    readCopyInResponse.SendsNothing ∧ readCopyOutResponse.SendsNothing ∧
    readCopyData.SendsNothing ∧ readNotification.SendsNothing :=
  ⟨runReader_sendsNothing (queryBody_sendsNothing _ _) _,
    runReader_sendsNothing (queryBody_sendsNothing _ _) _,
    runReader_sendsNothing (readSimpleQueryDataBody_sendsNothing _) _,
    runReader_sendsNothing (readExtQueryDataBody_sendsNothing _ _) _,
    runReader_sendsNothing readReadyForQueryBody_sendsNothing _,
    runReader_sendsNothing readParseDescribeSyncBody_sendsNothing _,
    runReader_sendsNothing readBindMsgBody_sendsNothing _,
    runReader_sendsNothing (awaitBody_sendsNothing _ _) _,
    runReader_sendsNothing (awaitBody_sendsNothing _ _) _,
    runReader_sendsNothing (awaitBody_sendsNothing _ _) _,
    runReader_sendsNothing readCopyDataBody_sendsNothing _,
    runReader_sendsNothing readNotificationBody_sendsNothing _⟩

end GoPg
