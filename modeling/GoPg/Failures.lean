import GoPg.Lookahead

/-!
# How the query readers can fail

A server's ErrorResponse inside the response to a query is drained, not returned at once: the
query readers and `readReadyForQuery` read it with `readError`, keep the first one and go on to
the ReadyForQuery; the errors of the caller's model and scanner are kept as values the same way.
This module shows that, for every input stream and every behaviour of the collaborators, these
readers stop with an error only when the stream ends (`Err.io`) or on a message type they do not
handle, with their own unexpected-message error (`queryReaders_failures`). They never stop with
the server's error, nor with an error a collaborator returned; what remains is a run-time panic
(module `GoPg.Panics`).

`Go.ThrowsOnly P` says that every error a run stops with satisfies `P`. It is closed under the
monad's operations, and a handler that rethrows only needs `P` of the errors the handled code
can raise.
-/

namespace GoPg

variable {α β σ : Type} {P : Err → Prop}

/-- Engine code whose every error stop is an error satisfying `P`. -/
def Go.ThrowsOnly (P : Err → Prop) (x : Go α) : Prop :=
  ∀ e cn err cn', x e cn = .stop (.err err) cn' → P err

/-- The errors a query reader named `reader` can stop with: the stream ended, or a message type
it does not handle. -/
def TransportOrUnexpected (reader : String) (err : Err) : Prop :=
  err = .io ∨ ∃ c, err = unexpectedMessage reader c

namespace Go.ThrowsOnly

/-- Code that never stops with an error. -/
theorem of_ok {x : Go α} (h : ∀ e cn, ∃ a cn', x e cn = .ok a cn') : x.ThrowsOnly P := by
  intro e cn err cn' hx
  obtain ⟨a, cn₁, h⟩ := h e cn
  rw [h] at hx
  cases hx

/-- Every error a run stops with satisfies `True`. -/
theorem any (x : Go α) : x.ThrowsOnly fun _ => True := fun _ _ _ _ _ => True.intro

/-- A step, then the rest: each error comes from one of them. -/
theorem bind {x : Go α} {f : α → Go β} (hx : x.ThrowsOnly P) (hf : ∀ a, (f a).ThrowsOnly P) :
    (x >>= f).ThrowsOnly P := by
  intro e cn err cn' h
  cases hr : x e cn with
  | ok a cn₁ => rw [bind_ok hr] at h; exact hf a e cn₁ err cn' h
  | stop s cn₁ =>
    rw [bind_stop hr] at h
    cases h
    exact hx e cn err cn' hr

/-- A handler runs only on an error the handled code raised, so it may rethrow it. -/
theorem tryCatch {Q : Err → Prop} {x : Go α} {h : Err → Go α} (hx : x.ThrowsOnly Q)
    (hh : ∀ err, Q err → (h err).ThrowsOnly P) : (tryCatch x h : Go α).ThrowsOnly P := by
  intro e cn err cn' hr
  cases hc : x e cn with
  | ok a cn₁ => rw [tryCatch_ok hc] at hr; cases hr
  | stop s cn₁ =>
    cases s with
    | err err₁ => rw [Go.tryCatch_err hc] at hr; exact hh err₁ (hx e cn err₁ cn₁ hc) e cn₁ err cn' hr
    | panic q => rw [tryCatch_panic hc] at hr; cases hr

/-- Either branch of an `if`. -/
theorem ite {p : Prop} [Decidable p] {x y : Go α} (hx : x.ThrowsOnly P) (hy : y.ThrowsOnly P) :
    (if p then x else y).ThrowsOnly P := by
  split <;> assumption

/-- The same for an `if` whose branches use the condition. -/
theorem dite {p : Prop} [Decidable p] {x : p → Go α} {y : ¬p → Go α}
    (hx : ∀ h, (x h).ThrowsOnly P) (hy : ∀ h, (y h).ThrowsOnly P) : (dite p x y).ThrowsOnly P := by
  by_cases h : p
  · rw [dif_pos h]; exact hx h
  · rw [dif_neg h]; exact hy h

/-- A loop run with the stream's length as fuel, whatever the fuel. -/
theorem byStream {loop : Nat → Go α} (h : ∀ n, (loop n).ThrowsOnly P) :
    (Go.byStream loop).ThrowsOnly P := fun e cn => h _ e cn

end Go.ThrowsOnly

/-! ## The primitives -/

section Primitives

/-- `pure` never stops. -/
theorem pure_throwsOnly (a : α) : (pure a : Go α).ThrowsOnly P := .of_ok fun _ _ => ⟨_, _, rfl⟩

/-- An error of the kind allowed. -/
theorem throw_throwsOnly {err : Err} (h : P err) : (throw err : Go α).ThrowsOnly P := by
  intro e cn err' cn' hr
  cases hr
  exact h

/-- A panic is not an error stop. -/
theorem panic_throwsOnly (p : Panic) : (Go.panic p : Go α).ThrowsOnly P := by
  intro e cn err cn' hr
  cases hr

/-- Looking at the connection never stops. -/
theorem conn_throwsOnly : Go.conn.ThrowsOnly P := .of_ok fun _ _ => ⟨_, _, rfl⟩

/-- Changing the connection never stops. -/
theorem modify_throwsOnly (f : Conn → Conn) : (Go.modify f).ThrowsOnly P :=
  .of_ok fun _ _ => ⟨_, _, rfl⟩

/-- A collaborator call is logged and never stops: its answer is a value. -/
theorem call_throwsOnly (k : Call) : (call k).ThrowsOnly P := .of_ok fun _ _ => ⟨_, _, rfl⟩

variable (hio : P .io)
include hio

/-- `ReadByte` stops only when the stream ends. -/
theorem readByte_throwsOnly : readByte.ThrowsOnly P := by
  intro e cn err cn' hr
  unfold readByte at hr
  split at hr <;> cases hr
  exact hio

/-- `ReadN` stops only when the stream ends. -/
theorem readN_throwsOnly (n : Int) : (readN n).ThrowsOnly P := by
  intro e cn err cn' hr
  unfold readN at hr
  split_ifs at hr <;> cases hr
  exact hio

/-- `readString` stops only when the stream ends. -/
theorem readString_throwsOnly : readString.ThrowsOnly P := by
  intro e cn err cn' hr
  unfold readString at hr
  split at hr <;> cases hr
  exact hio

/-- `ReadSlice` stops only when the stream ends. -/
theorem readSlice_throwsOnly : readSlice.ThrowsOnly P := by
  intro e cn err cn' hr
  unfold readSlice at hr
  split at hr
  · cases hr
  · split_ifs at hr
    cases hr
    exact hio

/-- `readInt16` stops only when the stream ends. -/
theorem readInt16_throwsOnly : readInt16.ThrowsOnly P :=
  (readN_throwsOnly hio _).bind fun _ => pure_throwsOnly _

/-- `readInt32` stops only when the stream ends. -/
theorem readInt32_throwsOnly : readInt32.ThrowsOnly P :=
  (readN_throwsOnly hio _).bind fun _ => pure_throwsOnly _

/-- `readMessageType` stops only when the stream ends. -/
theorem readMessageType_throwsOnly : readMessageType.ThrowsOnly P :=
  (readByte_throwsOnly hio).bind fun _ => (readInt32_throwsOnly hio).bind fun _ => pure_throwsOnly _

/-- Discarding a payload stops only when the stream ends. -/
theorem discardN_throwsOnly (l : Int) : (discardN l).ThrowsOnly P :=
  (readN_throwsOnly hio _).bind fun _ => pure_throwsOnly _

/-- The chunk loop of `readBytes` stops only when the stream or its fuel ends. -/
theorem readBytesLoop_throwsOnly : ∀ fuel b, (readBytesLoop fuel b).ThrowsOnly P
  | 0, _ => throw_throwsOnly hio
  | fuel + 1, _ => (readSlice_throwsOnly hio).bind fun _ =>
    .ite (readBytesLoop_throwsOnly fuel _) (pure_throwsOnly _)

/-- The field loop of `readError` stops only when the stream or its fuel ends. -/
theorem readErrorFields_throwsOnly : ∀ fuel m, (readErrorFields fuel m).ThrowsOnly P
  | 0, _ => throw_throwsOnly hio
  | fuel + 1, _ => (readByte_throwsOnly hio).bind fun _ =>
    .ite (pure_throwsOnly _)
      ((readString_throwsOnly hio).bind fun _ => readErrorFields_throwsOnly fuel _)

/-- `readError` returns the server's error as a value: it stops only when the stream ends. -/
theorem readError_throwsOnly : readError.ThrowsOnly P :=
  conn_throwsOnly.bind fun _ =>
    (Go.ThrowsOnly.byStream fun _ => readErrorFields_throwsOnly hio _ _).bind fun _ =>
      pure_throwsOnly _

/-- The column loop of `readRowDescription` stops only when the stream ends. -/
theorem readColumnNames_throwsOnly :
    ∀ (columns : Columns) is, (readColumnNames columns is).ThrowsOnly P
  | _, [] => pure_throwsOnly _
  | _, _ :: rest =>
    (Go.ThrowsOnly.byStream fun _ => readBytesLoop_throwsOnly hio _ _).bind fun _ =>
      (readN_throwsOnly hio _).bind fun _ => readColumnNames_throwsOnly _ rest

/-- `readRowDescription` stops with an error only when the stream ends; a negative count panics. -/
theorem readRowDescription_throwsOnly (columns : Columns) :
    (readRowDescription columns).ThrowsOnly P :=
  (readInt16_throwsOnly hio).bind fun _ =>
    (Go.ThrowsOnly.dite (fun _ => .dite (fun _ => pure_throwsOnly _) fun _ => panic_throwsOnly _)
      fun _ => pure_throwsOnly _).bind fun _ => readColumnNames_throwsOnly hio _ _

end Primitives

/-! ## The query readers -/

section Readers

/-- A DataRow is read in full, its errors kept as a value. -/
theorem readDataRow_throwsOnly (m : ModelRef) (columns : Columns) :
    (readDataRow m columns).ThrowsOnly P :=
  (Go.ThrowsOnly.any _).tryCatch fun _ _ => pure_throwsOnly _

/-- `newModel` never stops with an error: the model's error is a value. -/
theorem newModel_throwsOnly : ∀ mod, (newModel mod).ThrowsOnly P
  | .model => call_throwsOnly _
  | .value => (call_throwsOnly _).bind fun err => by
    cases err
    · exact call_throwsOnly _
    · exact pure_throwsOnly _

/-- Making the model on the first row never stops with an error. -/
theorem ensureModel_throwsOnly (mod : Mod) (v : DataVars) : (ensureModel mod v).ThrowsOnly P := by
  unfold ensureModel
  split
  · exact pure_throwsOnly _
  · exact (newModel_throwsOnly _).bind fun err => by
      cases err
      · exact pure_throwsOnly _
      · exact pure_throwsOnly _

/-- A DataRow case never stops with an error: the row's errors are kept. -/
theorem addDataRow_throwsOnly (v : DataVars) (columns : Columns) :
    (addDataRow v columns).ThrowsOnly P := by
  unfold addDataRow
  split
  · exact panic_throwsOnly _
  · refine (call_throwsOnly _).bind fun _ => (readDataRow_throwsOnly _ _).bind fun err => ?_
    cases err
    · exact (call_throwsOnly _).bind fun _ => (pure_throwsOnly _).bind fun _ => pure_throwsOnly _
    · exact (pure_throwsOnly _).bind fun _ => pure_throwsOnly _

variable {reader : String}

/-- Side-channel messages are dropped; any other type is the reader's unexpected message. -/
theorem sideChannel_throwsOnly (s : σ) (c : UInt8) (l : Int) :
    (sideChannel reader s c l : Go (Step σ α)).ThrowsOnly (TransportOrUnexpected reader) :=
  .ite ((discardN_throwsOnly (.inl rfl) _).bind fun _ => pure_throwsOnly _) <|
    .ite ((discardN_throwsOnly (.inl rfl) _).bind fun _ => pure_throwsOnly _)
      (throw_throwsOnly (.inr ⟨c, rfl⟩))

/-- The `switch` of `readSimpleQuery` and `readExtQuery` stops with the stream's end or its own
unexpected-message error. -/
theorem queryBody_throwsOnly (skip : UInt8) (v : QueryVars) (c : UInt8) (l : Int) :
    (queryBody reader skip v c l).ThrowsOnly (TransportOrUnexpected reader) :=
  .ite ((discardN_throwsOnly (.inl rfl) _).bind fun _ => pure_throwsOnly _) <|
  .ite ((discardN_throwsOnly (.inl rfl) _).bind fun _ => pure_throwsOnly _) <|
  .ite ((readN_throwsOnly (.inl rfl) _).bind fun _ => pure_throwsOnly _) <|
  .ite ((discardN_throwsOnly (.inl rfl) _).bind fun _ => pure_throwsOnly _) <|
  .ite ((readError_throwsOnly (.inl rfl)).bind fun _ => pure_throwsOnly _)
    (sideChannel_throwsOnly _ _ _)

/-- The cases the data readers share stop with the stream's end or the reader's unexpected-message
error. -/
theorem dataTail_throwsOnly (v : DataVars) (c : UInt8) (l : Int) :
    (dataTail reader v c l).ThrowsOnly (TransportOrUnexpected reader) :=
  .ite ((readN_throwsOnly (.inl rfl) _).bind fun _ => pure_throwsOnly _) <|
  .ite ((discardN_throwsOnly (.inl rfl) _).bind fun _ => pure_throwsOnly _) <|
  .ite ((readError_throwsOnly (.inl rfl)).bind fun _ => pure_throwsOnly _)
    (sideChannel_throwsOnly _ _ _)

/-- A RowDescription that fails to decode is rethrown after `cn.Columns` is reset: its error is
the stream's end. -/
theorem readSimpleQueryDataBody_throwsOnly (mod : Mod) (v : DataVars) (c : UInt8) (l : Int) :
    (readSimpleQueryDataBody mod v c l).ThrowsOnly (TransportOrUnexpected "readSimpleQueryData") :=
  .ite (conn_throwsOnly.bind fun _ =>
      ((readRowDescription_throwsOnly (P := (· = Err.io)) rfl _).tryCatch fun _ hio =>
        (modify_throwsOnly _).bind fun _ => throw_throwsOnly (.inl hio)).bind fun _ =>
      (modify_throwsOnly _).bind fun _ => (ensureModel_throwsOnly _ _).bind fun _ =>
        pure_throwsOnly _) <|
  .ite (conn_throwsOnly.bind fun _ => (addDataRow_throwsOnly _ _).bind fun _ => pure_throwsOnly _)
    (dataTail_throwsOnly _ _ _)

/-- The `switch` of `readExtQueryData` stops with the stream's end or its own unexpected-message
error. -/
theorem readExtQueryDataBody_throwsOnly (mod : Mod) (columns : Columns) (v : DataVars) (c : UInt8)
    (l : Int) :
    (readExtQueryDataBody mod columns v c l).ThrowsOnly (TransportOrUnexpected "readExtQueryData") :=
  .ite ((discardN_throwsOnly (.inl rfl) _).bind fun _ => pure_throwsOnly _) <|
  .ite ((ensureModel_throwsOnly _ _).bind fun _ =>
      (addDataRow_throwsOnly _ _).bind fun _ => pure_throwsOnly _)
    (dataTail_throwsOnly _ _ _)

/-- The `switch` of `readReadyForQuery` stops with the stream's end or its own unexpected-message
error. -/
theorem readReadyForQueryBody_throwsOnly (v : Option Result × Option Err) (c : UInt8) (l : Int) :
    (readReadyForQueryBody v c l).ThrowsOnly (TransportOrUnexpected "readReadyForQueryOrError") :=
  .ite ((readN_throwsOnly (.inl rfl) _).bind fun _ => pure_throwsOnly _) <|
  .ite ((discardN_throwsOnly (.inl rfl) _).bind fun _ => pure_throwsOnly _) <|
  .ite ((readError_throwsOnly (.inl rfl)).bind fun _ => pure_throwsOnly _)
    (sideChannel_throwsOnly _ _ _)

variable {body : σ → UInt8 → Int → Go (Step σ α)}

/-- A reader's loop stops with an error only where its header reads or its `switch` do. -/
theorem messageLoop_throwsOnly (hb : ∀ s c l, (body s c l).ThrowsOnly (TransportOrUnexpected reader)) :
    ∀ fuel s, (messageLoop body fuel s).ThrowsOnly (TransportOrUnexpected reader)
  | 0, _ => throw_throwsOnly (.inl rfl)
  | fuel + 1, s => (readMessageType_throwsOnly (.inl rfl)).bind fun _ => (hb s _ _).bind fun st => by
    cases st
    · exact messageLoop_throwsOnly hb fuel _
    · exact pure_throwsOnly _

/-- A reader whose `switch` stops only so, under every fuel, stops only so. -/
theorem runReader_throwsOnly (hb : ∀ s c l, (body s c l).ThrowsOnly (TransportOrUnexpected reader))
    (s : σ) : (runReader body s).ThrowsOnly (TransportOrUnexpected reader) :=
  .byStream fun fuel => messageLoop_throwsOnly hb fuel s

end Readers

/-- For every stream and every behaviour of the collaborators, the query readers and
`readReadyForQuery` stop with an error only when the stream ends or on a message type they do not
handle, never with the server's or a collaborator's error. -/
theorem queryReaders_failures (mod : Mod) (columns : Columns) :
    readSimpleQuery.ThrowsOnly (TransportOrUnexpected "readSimpleQuery") ∧
    readExtQuery.ThrowsOnly (TransportOrUnexpected "readExtQuery") ∧
    (readSimpleQueryData mod).ThrowsOnly (TransportOrUnexpected "readSimpleQueryData") ∧
    (readExtQueryData mod columns).ThrowsOnly (TransportOrUnexpected "readExtQueryData") ∧
    readReadyForQuery.ThrowsOnly (TransportOrUnexpected "readReadyForQueryOrError") :=
  ⟨runReader_throwsOnly (queryBody_throwsOnly _) _, runReader_throwsOnly (queryBody_throwsOnly _) _,
    runReader_throwsOnly (readSimpleQueryDataBody_throwsOnly _) _,
    runReader_throwsOnly (readExtQueryDataBody_throwsOnly _ _) _,
    runReader_throwsOnly readReadyForQueryBody_throwsOnly _⟩

end GoPg
