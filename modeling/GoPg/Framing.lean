import GoPg.Lookahead
import GoPg.Panics

/-!
# Framing: the readers read whole messages

`readMessageType` returns each message's length, but the cases that decode a message read it by
its structure and never compare what they read with that length: an ErrorResponse up to the NUL
that ends its fields, a RowDescription and a DataRow by their counts, a NotificationResponse by
its strings, BackendKeyData as two 32-bit values, an Authentication request by its code.

On a framed stream, where the content of every message, as the client decodes it, ends exactly at
its declared length (`Backend.Framed`), structure and length agree. Every pass of a reader's loop
that returns has read exactly the message it was handed, whatever the loop variables
(`Go.ReadsExactly`), so a reader started at a message boundary reads every header at one and
returns at one (`Go.ReadsWhole`). A pass of `startup`'s loop reads the exchange an Authentication
request opens, several messages, each of them whole. Both properties are closed under the monad's
operations, so each function gets them from the functions it calls, in the order of the source.

Where the content ends elsewhere, the two part: bytes the length covers beyond the fields are
read as the next message's header, and a length shorter than the fields lets the case read into
the next message (`structuralReads_ignore_length`).
-/

namespace GoPg

variable {α β σ : Type}

/-! ## Framed messages -/

/-- What follows the code of an Authentication request, as `authenticate` reads it: nothing after
AuthenticationOk and AuthenticationCleartextPassword, the 4-byte salt after
AuthenticationMD5Password, and after AuthenticationSASL mechanism names, none of them empty, then
the empty name. SASLContinue and SASLFinal are read by their length, and other codes are
refused. -/
def AuthRest (code : Int) (rest : Bytes) : Prop :=
  (code = authenticationOK ∨ code = authenticationCleartextPassword → rest = []) ∧
  (code = authenticationMD5Password → rest.length = 4) ∧
  (code = authenticationSASL →
    ∃ names : List Bytes, (∀ n ∈ names, n ≠ [] ∧ 0 ∉ n) ∧ rest = mechanismList names)

/-- A message whose content, as the client decodes it, ends exactly at its declared length: a
well-formed message whose BackendKeyData holds two 32-bit values and whose Authentication payload
is a 32-bit code and what `authenticate` reads after it. -/
structure Backend.Framed (m : Backend) : Prop where
  wellFormed : m.WellFormed
  keyData : m.tag = backendKeyDataMsg → m.payload.length = 8
  auth : m.tag = authenticationOKMsg →
    ∃ b rest, b.length = 4 ∧ m.payload = b ++ rest ∧ AuthRest (toInt32 (beUint b)) rest

namespace Backend

variable {m : Backend}

/-- A well-formed message of a type the startup exchange does not decode is framed. -/
theorem framed_of_wellFormed (hm : m.WellFormed) (hk : m.tag ≠ backendKeyDataMsg)
    (ha : m.tag ≠ authenticationOKMsg) : m.Framed :=
  ⟨hm, fun h => absurd h hk, fun h => absurd h ha⟩

/-- Content laid out as the protocol does, under the ErrorResponse type, is an ErrorResponse. -/
theorem eq_errorResponse (hm : m.ContentOk) (h : m.tag = errorResponseMsg) :
    ∃ fields, m = .errorResponse fields := by
  cases m <;> first | exact ⟨_, rfl⟩ | exact absurd h hm.1 | exact absurd h (by simp only [Backend.tag]; decide)

/-- The same for a RowDescription. -/
theorem eq_rowDescription (hm : m.ContentOk) (h : m.tag = rowDescriptionMsg) :
    ∃ fields, m = .rowDescription fields := by
  cases m <;> first | exact ⟨_, rfl⟩ | exact absurd h hm.2.1 | exact absurd h (by simp only [Backend.tag]; decide)

/-- The same for a DataRow. -/
theorem eq_dataRow (hm : m.ContentOk) (h : m.tag = dataRowMsg) : ∃ values, m = .dataRow values := by
  cases m <;> first | exact ⟨_, rfl⟩ | exact absurd h hm.2.2.1 | exact absurd h (by simp only [Backend.tag]; decide)

/-- The same for a NotificationResponse. -/
theorem eq_notificationResponse (hm : m.ContentOk) (h : m.tag = notificationResponseMsg) :
    ∃ pid channel payload, m = .notificationResponse pid channel payload := by
  cases m <;> first | exact ⟨_, _, _, rfl⟩ | exact absurd h hm.2.2.2 | exact absurd h (by simp only [Backend.tag]; decide)

end Backend

/-! ## Reading exactly a payload -/

/-- Handed `p` and whatever follows it, `x` returns, if it does, with exactly what follows `p`
unread. -/
def Go.ReadsExactly (p : Bytes) (x : Go α) : Prop :=
  ∀ (e : Env) (cn : Conn) (r : Bytes) (a : α) (cn' : Conn),
    x e { cn with rd := p ++ r } = .ok a cn' → cn'.rd = r

namespace Go.ReadsExactly

variable {p q : Bytes} {x : Go α} {f : α → Go β}

/-- Code that returns only with the stream it found reads nothing. -/
theorem of_keep (h : ∀ e cn a cn', x e cn = .ok a cn' → cn'.rd = cn.rd) : x.ReadsExactly [] :=
  fun e _ _ a cn' hx => h e _ a cn' hx

/-- Code that never returns reads exactly anything. -/
theorem of_ne_ok (h : ∀ e cn a cn', x e cn ≠ .ok a cn') : x.ReadsExactly p :=
  fun _ _ _ _ _ hx => (h _ _ _ _ hx).elim

/-- Sequencing: what the first step reads, then what the rest reads. -/
theorem bind (hx : x.ReadsExactly p) (hf : ∀ a, (f a).ReadsExactly q) :
    (x >>= f).ReadsExactly (p ++ q) := fun e cn r b cn'' h => by
  obtain ⟨a, cn', h₁, h₂⟩ := Go.bind_eq_ok h
  rw [List.append_assoc] at h₁
  have hrd := hx e cn _ a cn' h₁
  exact hf a e cn' r b cn'' (by rwa [← Conn.eq_with_rd hrd])

/-- A step that reads `p`, then code that reads nothing. -/
theorem bind_nil (hx : x.ReadsExactly p) (hf : ∀ a, (f a).ReadsExactly []) :
    (x >>= f).ReadsExactly p := by
  simpa using hx.bind hf

/-- Code that reads nothing, then a step that reads `p`. -/
theorem nil_bind (hx : x.ReadsExactly []) (hf : ∀ a, (f a).ReadsExactly p) :
    (x >>= f).ReadsExactly p :=
  hx.bind hf

/-- Either branch of an `if`, the first only where its condition holds. -/
theorem ite {c : Prop} [Decidable c] {y : Go α} (hx : c → x.ReadsExactly p) (hy : y.ReadsExactly p) :
    (if c then x else y).ReadsExactly p := by
  split
  · exact hx ‹_›
  · exact hy

/-- A caught error whose handler never returns. -/
theorem tryCatch {h : Err → Go α} (hx : x.ReadsExactly p) (hh : ∀ err e cn a cn', h err e cn ≠ .ok a cn') :
    (tryCatch x h : Go α).ReadsExactly p := fun e cn r a cn' hr => by
  cases hxr : x e { cn with rd := p ++ r } with
  | ok b cn₁ =>
    rw [Go.tryCatch_ok hxr] at hr
    cases hr
    exact hx e cn r _ _ hxr
  | stop s cn₁ =>
    cases s with
    | err err => exact absurd (by rwa [Go.tryCatch_err hxr] at hr) (hh err e cn₁ a cn')
    | panic q => rw [Go.tryCatch_panic hxr] at hr; cases hr

/-- A loop run with the fuel of `Go.byStream`. -/
theorem byStream {loop : Nat → Go α} (h : ∀ fuel, (loop fuel).ReadsExactly p) :
    (Go.byStream loop).ReadsExactly p :=
  fun e cn r a cn' hr => h _ e cn r a cn' hr

end Go.ReadsExactly

section Primitives

/-- `pure` reads nothing. -/
theorem pure_readsExactly (a : α) : (pure a : Go α).ReadsExactly [] :=
  .of_keep fun _ _ _ _ h => by cases h; rfl

/-- An error never returns. -/
theorem throw_readsExactly (err : Err) (p : Bytes) : (throw err : Go α).ReadsExactly p :=
  .of_ne_ok fun _ _ _ _ h => nomatch h

/-- A panic never returns. -/
theorem panic_readsExactly (q : Panic) (p : Bytes) : (Go.panic q : Go α).ReadsExactly p :=
  .of_ne_ok fun _ _ _ _ h => nomatch h

/-- Looking at the connection reads nothing. -/
theorem conn_readsExactly : Go.conn.ReadsExactly [] := .of_keep fun _ _ _ _ h => by cases h; rfl

/-- Asking the collaborators reads nothing. -/
theorem env_readsExactly : Go.env.ReadsExactly [] := .of_keep fun _ _ _ _ h => by cases h; rfl

/-- A collaborator call reads nothing. -/
theorem call_readsExactly (k : Call) : (call k).ReadsExactly [] :=
  .of_keep fun _ _ _ _ h => by cases h; rfl

/-- A change of the connection that leaves the stream alone. -/
theorem modify_readsExactly {f : Conn → Conn} (hf : ∀ c, (f c).rd = c.rd) :
    (Go.modify f).ReadsExactly [] :=
  .of_keep fun _ c _ _ h => by cases h; exact hf c

/-- Writing to the buffer reads nothing. -/
theorem modifyWr_readsExactly (f : WriteBuffer → WriteBuffer) : (modifyWr f).ReadsExactly [] :=
  modify_readsExactly fun _ => rfl

/-- Sending the buffer reads nothing. -/
theorem flushWriter_readsExactly : flushWriter.ReadsExactly [] :=
  conn_readsExactly.nil_bind fun _ => (call_readsExactly _).nil_bind fun err =>
    (modifyWr_readsExactly _).nil_bind fun _ => by
      cases err
      · exact pure_readsExactly _
      · exact throw_readsExactly _ _

/-- `ReadN` of a payload's length reads the payload. -/
theorem readN_readsExactly (p : Bytes) : (readN p.length).ReadsExactly p :=
  fun _ _ _ _ _ h => by rw [readN_append rfl rfl] at h; cases h; rfl

/-- A count computed to be the length of `p`. -/
theorem readN_readsExactly_of {n : Int} {p : Bytes} (hn : n = p.length) : (readN n).ReadsExactly p :=
  hn ▸ readN_readsExactly p

/-- Discarding a payload reads the payload. -/
theorem discardN_readsExactly (p : Bytes) : (discardN p.length).ReadsExactly p :=
  fun _ _ _ _ _ h => by rw [discardN_append rfl] at h; cases h; rfl

/-- `ReadN` whose error is kept as a value reads the payload. -/
theorem errOf_readN_readsExactly (p : Bytes) : (Go.errOf (readN p.length)).ReadsExactly p :=
  fun e cn r _ _ h => by
    have hx : (readN (p.length : Int) >>= fun _ => (pure none : Go (Option Err))) e
        { cn with rd := p ++ r } = .ok none { cn with rd := r } := Go.bind_ok (readN_append rfl rfl)
    rw [Go.errOf, Go.tryCatch_ok hx] at h
    cases h; rfl

/-- `readInt32` reads four bytes. -/
theorem readInt32_readsExactly {b : Bytes} (hb : b.length = 4) : readInt32.ReadsExactly b :=
  fun _ _ _ _ _ h => by rw [readInt32_append hb rfl] at h; cases h; rfl

/-- `readString` reads a string without NUL and its NUL. -/
theorem readString_readsExactly {s : Bytes} (hs : 0 ∉ s) : readString.ReadsExactly (cstr s) :=
  fun _ _ _ _ _ h => by rw [readString_cstr rfl hs] at h; cases h; rfl

/-- A negotiator step reads nothing. -/
theorem saslStep_readsExactly (mech : Bytes) (challenge : Option Bytes) :
    (saslStep mech challenge).ReadsExactly [] :=
  .ite (fun _ => panic_readsExactly _ _) <| (call_readsExactly _).nil_bind fun err => by
    cases err
    · exact env_readsExactly.nil_bind fun _ => conn_readsExactly.nil_bind fun _ => pure_readsExactly _
    · exact throw_readsExactly _ _

/-- Asking the negotiator's state reads nothing. -/
theorem saslState_readsExactly : saslState.ReadsExactly [] :=
  (call_readsExactly _).nil_bind fun _ => env_readsExactly.nil_bind fun _ =>
    conn_readsExactly.nil_bind fun _ => pure_readsExactly _

/-- Making the model on the first row reads nothing. -/
theorem ensureModel_readsExactly (mod : Mod) (v : DataVars) : (ensureModel mod v).ReadsExactly [] :=
  .of_keep fun _ _ _ _ h => by rw [ensureModel_run] at h; cases h; rfl

end Primitives

/-! ## The decoders on framed payloads -/

section Decoders

variable {m : Backend}

/-- `readError` reads an ErrorResponse's payload whole. -/
theorem readError_readsExactly (hm : m.ContentOk) (h : m.tag = errorResponseMsg) :
    readError.ReadsExactly m.payload := by
  obtain ⟨fields, rfl⟩ := Backend.eq_errorResponse hm h
  exact fun _ _ _ _ _ hr => by rw [readError_errorResponse rfl hm] at hr; cases hr; rfl

/-- `readRowDescription` reads a RowDescription's payload whole. -/
theorem readRowDescription_readsExactly (hm : m.ContentOk) (h : m.tag = rowDescriptionMsg) (c : Columns) :
    (readRowDescription c).ReadsExactly m.payload := by
  obtain ⟨fields, rfl⟩ := Backend.eq_rowDescription hm h
  exact fun _ _ _ _ _ hr => by rw [readRowDescription_rowDescription c rfl hm] at hr; cases hr; rfl

/-- The DataRow case reads the whole row, or panics: on a nil model, or at the first value past
the column list. -/
theorem addDataRow_readsExactly (hm : m.WellFormed) (h : m.tag = dataRowMsg) (v : DataVars)
    (columns : Columns) : (addDataRow v columns).ReadsExactly m.payload := by
  obtain ⟨vals, rfl⟩ := Backend.eq_dataRow hm.content h
  intro e cn r a cn' hr
  have hfit := hm.fits
  cases hv : v.model with
  | none => rw [addDataRow_nilModel hv] at hr; cases hr
  | some model =>
    by_cases hw : vals.length ≤ columns.len
    · rw [addDataRow_run hv columns rfl hm.content (by omega) hw] at hr
      cases hr; rfl
    · obtain ⟨x, post, hd⟩ := List.exists_cons_of_ne_nil (l := vals.drop columns.len)
        (by simp only [ne_eq, List.drop_eq_nil_iff]; omega)
      have hvals : vals = vals.take columns.len ++ x :: post := by rw [← hd, List.take_append_drop]
      rw [hvals] at hr hm hfit
      rw [addDataRow_wide hv columns rfl hm.content (by omega) (by simp only [List.length_take]; omega)] at hr
      cases hr

/-- The case of `readNotification` for a NotificationResponse. -/
theorem readNotification_readsExactly (hm : m.ContentOk) (h : m.tag = notificationResponseMsg) :
    (do let _ ← readInt32; let channel ← readString; let payload ← readString
        pure (Step.done (channel, payload)) : Go (Step Unit (Bytes × Bytes))).ReadsExactly m.payload := by
  obtain ⟨pid, channel, payload, rfl⟩ := Backend.eq_notificationResponse hm h
  rw [Backend.payload, List.append_assoc]
  exact (readInt32_readsExactly (putUint32_length _)).bind fun _ =>
    (readString_readsExactly hm.2.2.1).bind fun _ =>
    (readString_readsExactly hm.2.2.2).bind_nil fun _ => pure_readsExactly _

end Decoders

/-! ## The readers' passes -/

section Bodies

variable {m : Backend}

/-- The side-channel cases read the payload by its length. -/
theorem sideChannel_readsExactly (reader : String) (s : σ) (m : Backend) :
    (sideChannel reader s m.tag m.payload.length : Go (Step σ α)).ReadsExactly m.payload :=
  .ite (fun _ => (discardN_readsExactly _).bind_nil fun _ => pure_readsExactly _) <|
  .ite (fun _ => (discardN_readsExactly _).bind_nil fun _ => pure_readsExactly _)
    (throw_readsExactly _ _)

/-- A pass of `readSimpleQuery` or `readExtQuery` reads the message it was handed. -/
theorem queryBody_readsExactly (reader : String) (skip : UInt8) (v : QueryVars) (hm : m.ContentOk) :
    (queryBody reader skip v m.tag m.payload.length).ReadsExactly m.payload :=
  .ite (fun _ => (discardN_readsExactly _).bind_nil fun _ => pure_readsExactly _) <|
  .ite (fun _ => (discardN_readsExactly _).bind_nil fun _ => pure_readsExactly _) <|
  .ite (fun _ => (readN_readsExactly _).bind_nil fun _ => pure_readsExactly _) <|
  .ite (fun _ => (discardN_readsExactly _).bind_nil fun _ => pure_readsExactly _) <|
  .ite (fun h => (readError_readsExactly hm h).bind_nil fun _ => pure_readsExactly _)
    (sideChannel_readsExactly _ _ _)

/-- The cases the data readers share read the message they were handed. -/
theorem dataTail_readsExactly (reader : String) (v : DataVars) (hm : m.ContentOk) :
    (dataTail reader v m.tag m.payload.length).ReadsExactly m.payload :=
  .ite (fun _ => (readN_readsExactly _).bind_nil fun _ => pure_readsExactly _) <|
  .ite (fun _ => (discardN_readsExactly _).bind_nil fun _ => pure_readsExactly _) <|
  .ite (fun h => (readError_readsExactly hm h).bind_nil fun _ => pure_readsExactly _)
    (sideChannel_readsExactly _ _ _)

/-- A pass of `readSimpleQueryData` reads the message it was handed. -/
theorem readSimpleQueryDataBody_readsExactly (mod : Mod) (v : DataVars) (hm : m.WellFormed) :
    (readSimpleQueryDataBody mod v m.tag m.payload.length).ReadsExactly m.payload :=
  .ite (fun h => conn_readsExactly.nil_bind fun _ =>
      ((readRowDescription_readsExactly hm.content h _).tryCatch fun _ _ _ _ _ h =>
          Go.throw_ne_ok ((Go.bind_ok (Go.modify_apply _)).symm.trans h)).bind_nil
        fun _ => (modify_readsExactly fun _ => by rfl).nil_bind fun _ =>
        (ensureModel_readsExactly _ _).nil_bind fun _ => pure_readsExactly _) <|
  .ite (fun h => conn_readsExactly.nil_bind fun _ =>
      (addDataRow_readsExactly hm h _ _).bind_nil fun _ => pure_readsExactly _)
    (dataTail_readsExactly _ _ hm.content)

/-- A pass of `readExtQueryData` reads the message it was handed. -/
theorem readExtQueryDataBody_readsExactly (mod : Mod) (columns : Columns) (v : DataVars)
    (hm : m.WellFormed) :
    (readExtQueryDataBody mod columns v m.tag m.payload.length).ReadsExactly m.payload :=
  .ite (fun _ => (discardN_readsExactly _).bind_nil fun _ => pure_readsExactly _) <|
  .ite (fun h => (ensureModel_readsExactly _ _).nil_bind fun _ =>
      (addDataRow_readsExactly hm h _ _).bind_nil fun _ => pure_readsExactly _)
    (dataTail_readsExactly _ _ hm.content)

/-- A pass of `readReadyForQuery` reads the message it was handed. -/
theorem readReadyForQueryBody_readsExactly (v : Option Result × Option Err) (hm : m.ContentOk) :
    (readReadyForQueryBody v m.tag m.payload.length).ReadsExactly m.payload :=
  .ite (fun _ => (readN_readsExactly _).bind_nil fun _ => pure_readsExactly _) <|
  .ite (fun _ => (discardN_readsExactly _).bind_nil fun _ => pure_readsExactly _) <|
  .ite (fun h => (readError_readsExactly hm h).bind_nil fun _ => pure_readsExactly _)
    (sideChannel_readsExactly _ _ _)

/-- A pass of `readParseDescribeSync` reads the message it was handed. -/
theorem readParseDescribeSyncBody_readsExactly (columns : Columns) (hm : m.ContentOk) :
    (readParseDescribeSyncBody columns m.tag m.payload.length).ReadsExactly m.payload :=
  .ite (fun _ => (discardN_readsExactly _).bind_nil fun _ => pure_readsExactly _) <|
  .ite (fun h => (readRowDescription_readsExactly hm h _).bind_nil fun _ => pure_readsExactly _) <|
  .ite (fun _ => (discardN_readsExactly _).bind_nil fun _ => pure_readsExactly _) <|
  .ite (fun _ => (discardN_readsExactly _).bind_nil fun _ => pure_readsExactly _) <|
  .ite (fun _ => (errOf_readN_readsExactly _).bind_nil fun _ => pure_readsExactly _) <|
  .ite (fun h => (readError_readsExactly hm h).bind_nil fun _ => throw_readsExactly _ _)
    (sideChannel_readsExactly _ _ _)

/-- A pass of `readBindMsg` reads the message it was handed. -/
theorem readBindMsgBody_readsExactly (u : Unit) (hm : m.ContentOk) :
    (readBindMsgBody u m.tag m.payload.length).ReadsExactly m.payload :=
  .ite (fun _ => (discardN_readsExactly _).bind_nil fun _ => pure_readsExactly _) <|
  .ite (fun _ => (discardN_readsExactly _).bind_nil fun _ => pure_readsExactly _) <|
  .ite (fun h => (readError_readsExactly hm h).bind_nil fun _ => throw_readsExactly _ _)
    (sideChannel_readsExactly _ _ _)

/-- A pass of the readers that wait for one message reads the message it was handed. -/
theorem awaitBody_readsExactly (reader : String) (tag : UInt8) (u : Unit) (hm : m.ContentOk) :
    (awaitBody reader tag u m.tag m.payload.length).ReadsExactly m.payload :=
  .ite (fun _ => (discardN_readsExactly _).bind_nil fun _ => pure_readsExactly _) <|
  .ite (fun h => (readError_readsExactly hm h).bind_nil fun _ => throw_readsExactly _ _)
    (sideChannel_readsExactly _ _ _)

/-- A pass of `readCopyData` reads the message it was handed. -/
theorem readCopyDataBody_readsExactly (res : Option Result) (hm : m.ContentOk) :
    (readCopyDataBody res m.tag m.payload.length).ReadsExactly m.payload :=
  .ite (fun _ => (readN_readsExactly _).bind_nil fun _ => (call_readsExactly _).nil_bind fun err => by
      cases err
      · exact pure_readsExactly _
      · exact throw_readsExactly _ _) <|
  .ite (fun _ => (discardN_readsExactly _).bind_nil fun _ => pure_readsExactly _) <|
  .ite (fun _ => (readN_readsExactly _).bind_nil fun _ => pure_readsExactly _) <|
  .ite (fun _ => (errOf_readN_readsExactly _).bind_nil fun _ => pure_readsExactly _) <|
  .ite (fun h => (readError_readsExactly hm h).bind_nil fun _ => throw_readsExactly _ _)
    (sideChannel_readsExactly _ _ _)

/-- A pass of `readNotification` reads the message it was handed. -/
theorem readNotificationBody_readsExactly (u : Unit) (hm : m.ContentOk) :
    (readNotificationBody u m.tag m.payload.length).ReadsExactly m.payload :=
  .ite (fun _ => (discardN_readsExactly _).bind_nil fun _ => pure_readsExactly _) <|
  .ite (fun _ => (discardN_readsExactly _).bind_nil fun _ => pure_readsExactly _) <|
  .ite (fun h => (readError_readsExactly hm h).bind_nil fun _ => throw_readsExactly _ _) <|
  .ite (fun _ => (discardN_readsExactly _).bind_nil fun _ => pure_readsExactly _) <|
  .ite (fun h => readNotification_readsExactly hm h) (throw_readsExactly _ _)

end Bodies

/-! ## Whole messages -/

/-- Handed `p` and then a stream of framed messages, `x` returns, if it does, at the start of one
of those messages. -/
def Go.ReadsWhole (p : Bytes) (x : Go α) : Prop :=
  ∀ (e : Env) (cn : Conn) (ms : List Backend) (a : α) (cn' : Conn), (∀ m ∈ ms, m.Framed) →
    x e { cn with rd := p ++ stream ms } = .ok a cn' → ∃ post, post <:+ ms ∧ cn'.rd = stream post

/-- Reading exactly the rest of the current message ends at the next message. -/
theorem Go.ReadsExactly.readsWhole {x : Go α} {p : Bytes} (hx : x.ReadsExactly p) : x.ReadsWhole p :=
  fun e cn ms a cn' _ h => ⟨ms, List.suffix_refl ms, hx e cn _ a cn' h⟩

namespace Go.ReadsWhole

variable {p q : Bytes} {x : Go α} {f : α → Go β}

/-- Code that never returns. -/
theorem of_ne_ok (h : ∀ e cn a cn', x e cn ≠ .ok a cn') : x.ReadsWhole p :=
  (Go.ReadsExactly.of_ne_ok h).readsWhole

/-- A step that ends at a message boundary, then code that starts at one. -/
theorem bind (hx : x.ReadsWhole p) (hf : ∀ a, (f a).ReadsWhole []) : (x >>= f).ReadsWhole p :=
  fun e cn ms b cn'' hms h => by
    obtain ⟨a, cn', h₁, h₂⟩ := Go.bind_eq_ok h
    obtain ⟨post, hpost, hrd⟩ := hx e cn ms a cn' hms h₁
    rw [Conn.eq_with_rd hrd] at h₂
    obtain ⟨post', hpost', hrd'⟩ := hf a e cn' post b cn'' (fun m hm => hms m (hpost.subset hm)) h₂
    exact ⟨post', hpost'.trans hpost, hrd'⟩

/-- Either branch of an `if`, the first only where its condition holds. -/
theorem ite {c : Prop} [Decidable c] {y : Go α} (hx : c → x.ReadsWhole p) (hy : y.ReadsWhole p) :
    (if c then x else y).ReadsWhole p := by
  split
  · exact hx ‹_›
  · exact hy

/-- A header read at a message boundary, then code that reads the rest of that message and whole
messages after it. -/
theorem readMessageType_bind {k : UInt8 × Int → Go α}
    (hk : ∀ m : Backend, m.Framed → (k (m.tag, m.payload.length)).ReadsWhole m.payload) :
    (readMessageType >>= k).ReadsWhole [] := fun e cn ms a cn' hms h => by
  cases ms with
  | nil => cases h
  | cons m ms =>
    have hm := hms m (List.mem_cons_self _ _)
    rw [List.nil_append, stream_cons, Go.bind_ok (readMessageType_bytes rfl hm.wellFormed.fits)] at h
    obtain ⟨post, hpost, hrd⟩ := hk m hm e cn ms a cn' (fun m' h' => hms m' (List.mem_cons_of_mem _ h')) h
    exact ⟨post, hpost.trans (List.suffix_cons m ms), hrd⟩

/-- A 32-bit code at the start of a message, then what the rest of the message leads to. -/
theorem readInt32_bind {b : Bytes} {f : Int → Go α} (hb : b.length = 4)
    (hf : (f (toInt32 (beUint b))).ReadsWhole q) : (readInt32 >>= f).ReadsWhole (b ++ q) :=
  fun e cn ms a cn' hms h => by
    rw [List.append_assoc, Go.bind_ok (readInt32_append hb rfl)] at h
    exact hf e cn ms a cn' hms h

/-- A loop run with the fuel of `Go.byStream`. -/
theorem byStream {loop : Nat → Go α} (h : ∀ fuel, (loop fuel).ReadsWhole p) :
    (Go.byStream loop).ReadsWhole p :=
  fun e cn ms a cn' hms hr => h _ e cn ms a cn' hms hr

end Go.ReadsWhole

section

variable {p : Bytes} {x : Go α} {f : α → Go β}

/-- Code that reads nothing, then code that reads whole messages. -/
theorem Go.ReadsExactly.nil_bind_whole (hx : x.ReadsExactly []) (hf : ∀ a, (f a).ReadsWhole p) :
    (x >>= f).ReadsWhole p := fun e cn ms b cn'' hms h => by
  obtain ⟨a, cn', h₁, h₂⟩ := Go.bind_eq_ok h
  rw [Conn.eq_with_rd (hx e cn _ a cn' h₁)] at h₂
  exact hf a e cn' ms b cn'' hms h₂

/-- The rest of the current message, then code that starts at a message boundary. -/
theorem Go.ReadsExactly.bind_whole (hx : x.ReadsExactly p) (hf : ∀ a, (f a).ReadsWhole []) :
    (x >>= f).ReadsWhole p :=
  hx.readsWhole.bind hf

end

/-- A reader's loop whose every pass, handed a framed message after its header, ends at a message
boundary: from one, every pass starts at one, and the loop returns at one. -/
theorem messageLoop_readsWhole {body : σ → UInt8 → Int → Go (Step σ α)}
    (hb : ∀ s (m : Backend), m.Framed → (body s m.tag m.payload.length).ReadsWhole m.payload) :
    ∀ fuel s, (messageLoop body fuel s).ReadsWhole []
  | 0, _ => (throw_readsExactly _ _).readsWhole
  | fuel + 1, s => .readMessageType_bind fun m hm => (hb s m hm).bind fun st => by
    cases st
    · exact messageLoop_readsWhole hb fuel _
    · exact (pure_readsExactly _).readsWhole

/-- A reader that reads whole messages: handed a framed message after its header, each pass that
returns has read exactly that message, whatever the loop variables; so the reader, started at a
message boundary of a framed stream, reads every header at one and returns at one. -/
structure ReadsMessages (body : σ → UInt8 → Int → Go (Step σ α)) (s : σ) : Prop where
  pass : ∀ (s' : σ) (m : Backend), m.Framed → (body s' m.tag m.payload.length).ReadsExactly m.payload
  run : (runReader body s).ReadsWhole []

/-- Passes that read exactly their message make a reader that reads whole messages. -/
theorem ReadsMessages.of_pass {body : σ → UInt8 → Int → Go (Step σ α)}
    (h : ∀ (s' : σ) (m : Backend), m.Framed → (body s' m.tag m.payload.length).ReadsExactly m.payload)
    (s : σ) : ReadsMessages body s :=
  ⟨h, .byStream fun fuel => messageLoop_readsWhole (fun s m hm => (h s m hm).readsWhole) fuel s⟩

/-! ## Startup -/

section Startup

/-- The answer to a password is read whole: AuthenticationOk is its code alone. -/
theorem expectAuthOK_readsWhole (msg : String) : (expectAuthOK msg).ReadsWhole [] :=
  .readMessageType_bind fun m hm => .ite (fun h => by
      obtain ⟨b, rest, hb, hp, h0, -, -⟩ := hm.auth h
      rw [hp]
      refine .readInt32_bind hb ?_
      split
      · exact (throw_readsExactly _ _).readsWhole
      · rw [h0 (.inl (not_not.mp ‹_›))]
        exact (pure_readsExactly _).readsWhole) <|
    .ite (fun h => ((readError_readsExactly hm.wellFormed.content h).bind_nil fun _ =>
        throw_readsExactly _ _).readsWhole)
      (throw_readsExactly _ _).readsWhole

/-- SASLFinal is read by its length, then AuthenticationOk. -/
theorem readAuthSASLFinal_readsWhole (mech : Bytes) : (readAuthSASLFinal mech).ReadsWhole [] :=
  .readMessageType_bind fun m hm => .ite (fun h => by
      obtain ⟨b, rest, hb, hp, -⟩ := hm.auth h
      rw [hp]
      exact .readInt32_bind hb <| .ite (fun _ => .of_ne_ok fun _ _ _ _ => Go.throw_bind_ne_ok) <|
        (pure_readsExactly _).nil_bind_whole fun _ =>
        (readN_readsExactly_of (by simp [hb])).bind_whole fun _ =>
        (saslStep_readsExactly _ _).nil_bind_whole fun _ => saslState_readsExactly.nil_bind_whole fun _ =>
        .ite (fun _ => saslState_readsExactly.nil_bind_whole fun _ =>
            .of_ne_ok fun _ _ _ _ => Go.throw_bind_ne_ok) <|
          (pure_readsExactly _).nil_bind_whole fun _ => expectAuthOK_readsWhole _) <|
    .ite (fun h => ((readError_readsExactly hm.wellFormed.content h).bind_nil fun _ =>
        throw_readsExactly _ _).readsWhole)
      (throw_readsExactly _ _).readsWhole

/-- The SASL exchange: SASLContinue is read by its length, then `readAuthSASLFinal`. -/
theorem saslExchange_readsWhole (mech : Bytes) : (saslExchange mech).ReadsWhole [] :=
  (saslStep_readsExactly _ _).nil_bind_whole fun _ => (modifyWr_readsExactly _).nil_bind_whole fun _ =>
  flushWriter_readsExactly.nil_bind_whole fun _ => .readMessageType_bind fun m hm => .ite (fun h => by
      obtain ⟨b, rest, hb, hp, -⟩ := hm.auth h
      rw [hp]
      exact .readInt32_bind hb <| .ite (fun _ => .of_ne_ok fun _ _ _ _ => Go.throw_bind_ne_ok) <|
        (pure_readsExactly _).nil_bind_whole fun _ =>
        (readN_readsExactly_of (by simp [hb])).bind_whole fun _ =>
        (saslStep_readsExactly _ _).nil_bind_whole fun _ => (modifyWr_readsExactly _).nil_bind_whole fun _ =>
        flushWriter_readsExactly.nil_bind_whole fun _ => readAuthSASLFinal_readsWhole _) <|
    .ite (fun h => ((readError_readsExactly hm.wellFormed.content h).bind_nil fun _ =>
        throw_readsExactly _ _).readsWhole)
      (throw_readsExactly _ _).readsWhole

/-- The mechanism loop reads a list of nonempty names exactly, up to the empty one. -/
theorem readSASLMechanisms_readsExactly {names : List Bytes} (hn : ∀ n ∈ names, n ≠ [] ∧ 0 ∉ n) :
    ∀ fuel sel, (readSASLMechanisms fuel sel).ReadsExactly (mechanismList names) := by
  induction names with
  | nil =>
    rintro (_ | fuel) sel e cn r a cn' h
    · cases h
    · rw [readSASLMechanisms_cstr (n := []) rfl (by simp), if_pos rfl] at h
      cases h
      rfl
  | cons n names ih =>
    have hn₁ := hn n (List.mem_cons_self _ _)
    have ih := ih fun n' h' => hn n' (List.mem_cons_of_mem _ h')
    rintro (_ | fuel) sel e cn r a cn' h
    · cases h
    · rw [mechanismList_cons, List.append_assoc, readSASLMechanisms_cstr rfl hn₁.2, if_neg hn₁.1] at h
      split_ifs at h <;> exact ih fuel _ e cn r a cn' h

/-- An Authentication request whose payload is framed is read with the exchange it opens, each
message whole. -/
theorem authenticate_readsWhole (user password : Bytes) {p : Bytes}
    (hp : ∃ b rest, b.length = 4 ∧ p = b ++ rest ∧ AuthRest (toInt32 (beUint b)) rest) :
    (authenticate user password).ReadsWhole p := by
  obtain ⟨b, rest, hb, rfl, h0, h5, h10⟩ := hp
  refine .readInt32_bind hb (.ite (fun hk => ?_) <| .ite (fun hk => ?_) <| .ite (fun hk => ?_) <|
    .ite (fun hk => ?_) (throw_readsExactly _ _).readsWhole)
  · -- AuthenticationOk
    rw [h0 (.inl hk)]
    exact (pure_readsExactly _).readsWhole
  · -- AuthenticationCleartextPassword
    rw [h0 (.inr hk)]
    exact (modifyWr_readsExactly _).nil_bind_whole fun _ => flushWriter_readsExactly.nil_bind_whole fun _ =>
      expectAuthOK_readsWhole _
  · -- AuthenticationMD5Password
    exact (readN_readsExactly_of (by simp [h5 hk])).bind_whole fun _ =>
      env_readsExactly.nil_bind_whole fun _ => (modifyWr_readsExactly _).nil_bind_whole fun _ =>
      flushWriter_readsExactly.nil_bind_whole fun _ => expectAuthOK_readsWhole _
  · -- AuthenticationSASL
    obtain ⟨names, hn, rfl⟩ := h10 hk
    exact (Go.ReadsExactly.byStream fun fuel => readSASLMechanisms_readsExactly hn fuel []).bind_whole
      fun _ => saslExchange_readsWhole _

/-- A pass of `startup`'s loop on a framed message ends at a message boundary. -/
theorem startupBody_readsWhole (user password : Bytes) (u : Unit) {m : Backend} (hm : m.Framed) :
    (startupBody user password u m.tag m.payload.length).ReadsWhole m.payload :=
  .ite (fun h => by
      have h8 := hm.keyData h
      rw [← List.take_append_drop 4 m.payload]
      exact ((readInt32_readsExactly (by simp [h8])).bind fun _ =>
        (readInt32_readsExactly (by simp [h8])).bind_nil fun _ =>
        (modify_readsExactly fun _ => by rfl).nil_bind fun _ => pure_readsExactly _).readsWhole) <|
  .ite (fun _ => ((discardN_readsExactly _).bind_nil fun _ => pure_readsExactly _).readsWhole) <|
  .ite (fun h => (authenticate_readsWhole user password (hm.auth h)).bind fun _ =>
      (pure_readsExactly _).readsWhole) <|
  .ite (fun _ => ((discardN_readsExactly _).bind_nil fun _ => pure_readsExactly _).readsWhole) <|
  .ite (fun h => ((readError_readsExactly hm.wellFormed.content h).bind_nil fun _ =>
      throw_readsExactly _ _).readsWhole)
    (throw_readsExactly _ _).readsWhole

end Startup

/-- On framed streams the readers read whole messages. For each reader, a pass over a framed
message that returns has read exactly that message, whatever the loop variables, so the reader,
started at a message boundary, reads every header at one and returns at one. A pass of
`startup`'s loop, with the exchange an Authentication request opens, ends at a message boundary,
and so does a `startup` that returns. -/
theorem framedStreams_readWhole (user password database : Bytes) (mod : Mod) (columns : Columns) :
    ReadsMessages (queryBody "readSimpleQuery" rowDescriptionMsg) ⟨0, none, none⟩ ∧
    ReadsMessages (queryBody "readExtQuery" bindCompleteMsg) ⟨0, none, none⟩ ∧
    ReadsMessages (readSimpleQueryDataBody mod) ⟨0, none, none, none⟩ ∧
    ReadsMessages (readExtQueryDataBody mod columns) ⟨0, none, none, none⟩ ∧
    ReadsMessages readReadyForQueryBody (none, none) ∧
    ReadsMessages readParseDescribeSyncBody Columns.nil ∧
    ReadsMessages readBindMsgBody () ∧
    ReadsMessages (awaitBody "readCloseCompleteMsg" closeCompleteMsg) () ∧
    ReadsMessages (awaitBody "readCopyInResponse" copyInResponseMsg) () ∧
    ReadsMessages (awaitBody "readCopyOutResponse" copyOutResponseMsg) () ∧
    ReadsMessages readCopyDataBody none ∧
    ReadsMessages readNotificationBody () ∧
    (∀ m : Backend, m.Framed →
      (startupBody user password () m.tag m.payload.length).ReadsWhole m.payload) ∧
    (startup user password database).ReadsWhole [] :=
  ⟨.of_pass (fun v _ hm => queryBody_readsExactly _ _ v hm.wellFormed.content) _,
    .of_pass (fun v _ hm => queryBody_readsExactly _ _ v hm.wellFormed.content) _,
    .of_pass (fun v _ hm => readSimpleQueryDataBody_readsExactly mod v hm.wellFormed) _,
    .of_pass (fun v _ hm => readExtQueryDataBody_readsExactly mod columns v hm.wellFormed) _,
    .of_pass (fun v _ hm => readReadyForQueryBody_readsExactly v hm.wellFormed.content) _,
    .of_pass (fun c _ hm => readParseDescribeSyncBody_readsExactly c hm.wellFormed.content) _,
    .of_pass (fun u _ hm => readBindMsgBody_readsExactly u hm.wellFormed.content) _,
    .of_pass (fun u _ hm => awaitBody_readsExactly _ _ u hm.wellFormed.content) _,
    .of_pass (fun u _ hm => awaitBody_readsExactly _ _ u hm.wellFormed.content) _,
    .of_pass (fun u _ hm => awaitBody_readsExactly _ _ u hm.wellFormed.content) _,
    .of_pass (fun res _ hm => readCopyDataBody_readsExactly res hm.wellFormed.content) _,
    .of_pass (fun u _ hm => readNotificationBody_readsExactly u hm.wellFormed.content) _,
    fun _ hm => startupBody_readsWhole user password () hm,
    (modifyWr_readsExactly _).nil_bind_whole fun _ => flushWriter_readsExactly.nil_bind_whole fun _ =>
      .byStream fun fuel => messageLoop_readsWhole (fun u _ hm => startupBody_readsWhole user password u hm) fuel ()⟩

/-- A CommandComplete and a ReadyForQuery, followed by a NoticeResponse that belongs to what comes
next: `readSimpleQuery` returns right before the NoticeResponse. -/
theorem readSimpleQuery_framedResponse :
    (∀ m ∈ [Backend.other commandCompleteMsg (ascii "SELECT 1"), .other readyForQueryMsg [73],
        .other noticeResponseMsg [0]], m.Framed) ∧
    readSimpleQuery Env.succeeding (Conn.ofInput (stream [.other commandCompleteMsg (ascii "SELECT 1"),
        .other readyForQueryMsg [73], .other noticeResponseMsg [0]])) =
      .ok (some (newResult (ascii "SELECT 1") 0), none) (Conn.ofInput (stream [.other noticeResponseMsg [0]])) ∧
    ∃ post, post <:+ [Backend.other commandCompleteMsg (ascii "SELECT 1"), .other readyForQueryMsg [73],
        .other noticeResponseMsg [0]] ∧
      (Conn.ofInput (stream [.other noticeResponseMsg [0]])).rd = stream post := by
  have hf : ∀ m ∈ [Backend.other commandCompleteMsg (ascii "SELECT 1"), .other readyForQueryMsg [73],
      .other noticeResponseMsg [0]], m.Framed := by
    intro m hm
    simp only [List.mem_cons, List.mem_singleton, List.not_mem_nil, or_false] at hm
    rcases hm with rfl | rfl | rfl <;> exact Backend.framed_of_wellFormed (by decide) (by decide) (by decide)
  have hrun : readSimpleQuery Env.succeeding (Conn.ofInput (stream [.other commandCompleteMsg (ascii "SELECT 1"),
        .other readyForQueryMsg [73], .other noticeResponseMsg [0]])) =
      .ok (some (newResult (ascii "SELECT 1") 0), none) (Conn.ofInput (stream [.other noticeResponseMsg [0]])) := rfl
  exact ⟨hf, hrun, (framedStreams_readWhole [] [] [] .model Columns.nil).1.run Env.succeeding
    (Conn.ofInput []) _ _ _ hf hrun⟩

/-! ## Payloads whose content ends elsewhere -/

section Passes

variable {e : Env} {cn : Conn} {r : Bytes}

/-- An ErrorResponse case reads the fields and their NUL, whatever the length field says. -/
theorem queryBody_errorResponse {reader : String} {skip : UInt8} (hs : SkipTag skip)
    (v : QueryVars) {fields : List (UInt8 × Bytes)} (hok : (Backend.errorResponse fields).ContentOk)
    (l : Int) :
    queryBody reader skip v errorResponseMsg l e
        { cn with rd := (Backend.errorResponse fields).payload ++ r } =
      .ok (.next { v with retErr := setErr v.retErr (errorOf cn.remoteAddr fields) })
        { cn with rd := r } := by
  rw [queryBody, if_neg hs.errorResponse, if_neg (by decide), if_neg (by decide),
    if_neg (by decide), if_pos rfl, Go.bind_ok (readError_errorResponse rfl hok)]
  rfl

/-- A BackendKeyData case reads two 32-bit values, whatever the length field says. -/
theorem startupBody_backendKeyData {user password pid key : Bytes} (hpid : pid.length = 4)
    (hkey : key.length = 4) (l : Int) :
    startupBody user password () backendKeyDataMsg l e { cn with rd := pid ++ key ++ r } =
      .ok (.next ()) { cn with rd := r, processId := toInt32 (beUint pid),
                               secretKey := toInt32 (beUint key) } := by
  rw [startupBody, if_pos rfl, Go.bind_ok (readInt32_append hpid (List.append_assoc ..)),
    Go.bind_ok (readInt32_append hkey rfl), Go.bind_ok (Go.modify_apply _)]
  rfl

/-- An AuthenticationOk case reads its 32-bit code, whatever the length field says. -/
theorem startupBody_authenticationOk {user password : Bytes} (l : Int) :
    startupBody user password () authenticationOKMsg l e { cn with rd := putUint32 0 ++ r } =
      .ok (.next ()) { cn with rd := r } := by
  have ha : authenticate user password e { cn with rd := putUint32 0 ++ r } =
      .ok () { cn with rd := r } := by
    rw [authenticate, Go.bind_ok (readInt32_putUint32 rfl (by decide)),
      if_pos (show ((0 : Nat) : Int) = authenticationOK from rfl)]
    rfl
  rw [startupBody, if_neg (by decide), if_neg (by decide), if_pos rfl, Go.bind_ok ha]
  rfl

/-- A pass of a reader loop on a message of any length field whose case reads `x` and goes
round: the next pass starts right after `x`. -/
theorem messageLoop_header {σ α : Type} {body : σ → UInt8 → Int → Go (Step σ α)} {s s' : σ}
    {c : UInt8} {len x : Bytes} {cn' : Conn} {fuel : Nat} (hlen : len.length = 4)
    (hb : body s c (toInt32 (beUint len) - 4) e { cn with rd := x ++ r } = .ok (.next s') cn') :
    messageLoop body (fuel + 1) s e { cn with rd := c :: len ++ x ++ r } =
      messageLoop body fuel s' e cn' := by
  rw [List.append_assoc, messageLoop, Go.bind_ok (readMessageType_header hlen rfl)]
  exact Go.bind_ok hb

end Passes

/-- Whatever the length field of an ErrorResponse, BackendKeyData or AuthenticationOk says, the
query readers and `startup` consume its fields and nothing else, and the next pass of the loop
reads its header from the bytes right after them. -/
theorem structuralReads_ignore_length (e : Env) (cn : Conn) (len r : Bytes) (hlen : len.length = 4)
    (fuel : Nat) :
    (∀ (reader : String) (skip : UInt8) (v : QueryVars) (fields : List (UInt8 × Bytes)),
      SkipTag skip → (Backend.errorResponse fields).ContentOk →
      messageLoop (queryBody reader skip) (fuel + 1) v e
          { cn with rd := errorResponseMsg :: len ++ (Backend.errorResponse fields).payload ++ r } =
        messageLoop (queryBody reader skip) fuel
          { v with retErr := setErr v.retErr (errorOf cn.remoteAddr fields) } e { cn with rd := r }) ∧
    (∀ user password pid key : Bytes, pid.length = 4 → key.length = 4 →
      messageLoop (startupBody user password) (fuel + 1) () e
          { cn with rd := backendKeyDataMsg :: len ++ (pid ++ key) ++ r } =
        messageLoop (startupBody user password) fuel () e
          { cn with rd := r, processId := toInt32 (beUint pid), secretKey := toInt32 (beUint key) }) ∧
    (∀ user password : Bytes,
      messageLoop (startupBody user password) (fuel + 1) () e
          { cn with rd := authenticationOKMsg :: len ++ putUint32 0 ++ r } =
        messageLoop (startupBody user password) fuel () e { cn with rd := r }) :=
  ⟨fun _ _ v _ hs hok => messageLoop_header hlen (queryBody_errorResponse hs v hok _),
   fun _ _ _ _ hpid hkey => messageLoop_header hlen (startupBody_backendKeyData hpid hkey _),
   fun _ _ => messageLoop_header hlen (startupBody_authenticationOk _)⟩

/-- An ErrorResponse whose payload carries a CommandComplete after its fields: the loop takes
the CommandComplete inside it for the query's result. -/
theorem readSimpleQuery_smuggledCommandComplete :
    readSimpleQuery Env.succeeding (Conn.ofInput (frame errorResponseMsg
        ([0] ++ (Backend.other commandCompleteMsg (ascii "SELECT 1")).bytes) ++
        (Backend.other readyForQueryMsg [73]).bytes)) =
      .ok (some (newResult (ascii "SELECT 1") 0), some (errorOf [] [])) (Conn.ofInput []) := by
  have hE := (structuralReads_ignore_length Env.succeeding (Conn.ofInput []) (putUint32 18)
    ((Backend.other commandCompleteMsg (ascii "SELECT 1")).bytes ++
      (Backend.other readyForQueryMsg [73]).bytes) rfl 25).1 "readSimpleQuery" rowDescriptionMsg
    ⟨0, none, none⟩ [] skipTag_rowDescription (by decide)
  have hC : Passes (queryBody "readSimpleQuery" rowDescriptionMsg) Env.succeeding
      (queryVarsOf (Conn.ofInput []).remoteAddr [.errorResponse []]) (Conn.ofInput [])
      [.other commandCompleteMsg (ascii "SELECT 1")]
      (queryVarsOf (Conn.ofInput []).remoteAddr
        ([.errorResponse []] ++ [.other commandCompleteMsg (ascii "SELECT 1")]))
      (Conn.ofInput []) :=
    queryBody_passes skipTag_rowDescription [.other commandCompleteMsg (ascii "SELECT 1")]
      (by decide) [.errorResponse []]
  rw [readSimpleQuery, runReader, Go.byStream_apply]
  refine hE.trans ((hC.loop (Backend.other readyForQueryMsg [73]).bytes 24).trans ?_)
  exact messageLoop_exit (by decide)
    (queryBody_readyForQuery skipTag_rowDescription _ [73]) rfl

end GoPg
