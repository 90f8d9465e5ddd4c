import GoPg.Panics
import GoPg.Requests
import GoPg.Sync

/-!
# `startup` accepts every handshake

What a returning `startup` consumed is a handshake (module `GoPg.Handshake`). This module shows
the converse on the server transcripts of the protocol: BackendKeyData, ParameterStatus and the
Authentication exchanges (none, a cleartext or MD5 password, SASL with SCRAM-SHA-256), in any
number and order, then ReadyForQuery. With collaborators that do not fail, and a negotiator that
takes the server's SASLFinal as valid, `startup` returns on every such transcript, stops right
after its ReadyForQuery, and keeps the process id and secret key of the last BackendKeyData
(`startup_accepts`), which a CancelRequest then sends back byte for byte (`startup_cancelKey`).
Where the server puts an ErrorResponse in place of the next message of a step (at the top of the
loop, after a password, or in place of SASLContinue, SASLFinal or the last AuthenticationOk),
`startup` returns the server's error and stops right after it (`startup_rejects`).

In the SASL exchange the negotiator sees the server's data as it came, and its responses reach
the server framed as SASLInitialResponse, with the mechanism and the length, and SASLResponse
(`authenticate_saslMessages`). The MD5 exchange answers with `md5` followed by hexadecimal
digits, so the PasswordMessage it sends parses back as its secret whatever the user and the
password (`authenticate_md5`), unlike the cleartext one, whose password may hold a NUL.
-/

namespace GoPg

/-- An Authentication request: the code, then what follows it. -/
def authRequest (code : Nat) (rest : Bytes) : Backend :=
  .other authenticationOKMsg (putUint32 code ++ rest)

/-- One step of the server's side of a startup before ReadyForQuery, with the messages that
answer the client within it. -/
inductive ServerStep
  /-- BackendKeyData: the process id and the secret key. -/
  | keyData (pid key : Bytes)
  /-- ParameterStatus. -/
  | parameterStatus (p : Bytes)
  /-- AuthenticationOk. -/
  | authOk
  /-- AuthenticationCleartextPassword, then AuthenticationOk once the password is sent. -/
  | cleartext
  /-- AuthenticationMD5Password with its salt, then AuthenticationOk. -/
  | md5 (salt : Bytes)
  /-- AuthenticationSASL with its mechanism names, SASLContinue and SASLFinal with the server's
  data, then AuthenticationOk. -/
  | sasl (names : List Bytes) (cont final : Bytes)
  deriving DecidableEq, Repr

namespace ServerStep

/-- The messages the server sends in a step. -/
def messages : ServerStep → List Backend
  | keyData pid key => [.other backendKeyDataMsg (pid ++ key)]
  | parameterStatus p => [.other parameterStatusMsg p]
  | authOk => [authRequest 0 []]
  | cleartext => [authRequest 3 [], authRequest 0 []]
  | md5 salt => [authRequest 5 salt, authRequest 0 []]
  | sasl names cont final =>
    [authRequest 10 (mechanismList names), .other authenticationSASLContinueMsg (putUint32 11 ++ cont),
      .other authenticationSASLFinalMsg (putUint32 12 ++ final), authRequest 0 []]

/-- The content the client takes: a key of two 32-bit values, a salt of four bytes, and a
mechanism list of names its loop accepts that offers SCRAM-SHA-256. -/
def ContentOk : ServerStep → Prop
  | keyData pid key => pid.length = 4 ∧ key.length = 4
  | md5 salt => salt.length = 4
  | sasl names _ _ => scramSha256 ∈ names ∧ ∀ n ∈ names, n = scramSha256 ∨ n = scramSha256Plus
  | parameterStatus _ | authOk | cleartext => True

/-- Whether a step's content is laid out as `authenticate` reads it is decided. -/
instance (s : ServerStep) : Decidable s.ContentOk :=
  match s with
  | keyData pid key => inferInstanceAs (Decidable (pid.length = 4 ∧ key.length = 4))
  | md5 salt => inferInstanceAs (Decidable (salt.length = 4))
  | sasl names _ _ => inferInstanceAs
      (Decidable (scramSha256 ∈ names ∧ ∀ n ∈ names, n = scramSha256 ∨ n = scramSha256Plus))
  | parameterStatus _ | authOk | cleartext => inferInstanceAs (Decidable True)

/-- A well-formed step: its content, and messages whose lengths fit the length field. -/
structure WellFormed (s : ServerStep) : Prop where
  content : s.ContentOk
  fits : ∀ m ∈ s.messages, m.payload.length + 4 < 2 ^ 31

/-- Whether a step is well formed is decided. -/
instance (s : ServerStep) : Decidable s.WellFormed :=
  decidable_of_iff (s.ContentOk ∧ ∀ m ∈ s.messages, m.payload.length + 4 < 2 ^ 31)
    ⟨fun h => ⟨h.1, h.2⟩, fun h => ⟨h.content, h.fits⟩⟩

/-- What `startup` keeps of a step: the process id and the secret key of a BackendKeyData, read
as `int32`. -/
def storeKey : ServerStep → Int × Int → Int × Int
  | keyData pid key, _ => (toInt32 (beUint pid), toInt32 (beUint key))
  | _, k => k

/-- The BackendKeyData of a step. -/
def key? : ServerStep → Option (Bytes × Bytes)
  | keyData pid key => some (pid, key)
  | _ => none

/-- Every step sends at least one message. -/
theorem messages_ne_nil (s : ServerStep) : s.messages ≠ [] := by
  cases s <;> simp [ServerStep.messages]

/-- Only a BackendKeyData carries a key. -/
theorem eq_keyData_of_key? {s : ServerStep} {pid key : Bytes} (h : s.key? = some (pid, key)) :
    s = .keyData pid key := by
  cases s <;> cases h
  rfl

end ServerStep

/-- The bytes of a server transcript. -/
def transcript (steps : List ServerStep) : Bytes := stream (steps.flatMap ServerStep.messages)

/-- The transcript of a step and the steps after it: the step's messages come first. -/
theorem transcript_cons (s : ServerStep) (steps : List ServerStep) :
    transcript (s :: steps) = stream s.messages ++ transcript steps := by
  rw [transcript, List.flatMap_cons, stream_append, transcript]

/-- A transcript has at least as many bytes as steps. -/
theorem length_le_length_transcript (steps : List ServerStep) : steps.length ≤ (transcript steps).length := by
  induction steps with
  | nil => exact Nat.le_refl _
  | cons s steps ih =>
    have h := length_le_length_stream s.messages
    have hs := List.length_pos.2 s.messages_ne_nil
    rw [transcript_cons, List.length_append, List.length_cons]
    omega

/-- The key after a fold over the steps: that of the last BackendKeyData, read as `int32`. -/
theorem foldl_storeKey (steps : List ServerStep) (k : Int × Int) :
    steps.foldl (fun k s => s.storeKey k) k =
      ((steps.filterMap ServerStep.key?).getLast?.map
        fun b => (toInt32 (beUint b.1), toInt32 (beUint b.2))).getD k := by
  induction steps using List.reverseRecOn with
  | nil => rfl
  | append_singleton steps s ih =>
    rw [List.foldl_append, List.foldl_cons, List.foldl_nil, ih, List.filterMap_append]
    cases s <;> simp [ServerStep.storeKey, ServerStep.key?]

/-! ## The client's side of each exchange

Each lemma takes an exchange up to the next message the client reads, so that what the server
answers there, the message the client expects or an ErrorResponse, is a lemma of its own. -/

section Exchanges

/-- `int32(len(resp))` written for a length, as the length itself modulo `2 ^ 32`. -/
theorem putUint32_uint32_natCast (n : Nat) : putUint32 (uint32 n) = putUint32 n := by
  have h : uint32 n = beUint (putUint32 n) := by
    rw [beUint_putUint32, uint32]
    omega
  rw [h, putUint32_beUint (putUint32_length n)]

/-- The SASLInitialResponse: the mechanism, the length of the response, the response. -/
theorem saslInitialResponse_bytes (buf : WriteBuffer) (mech resp : Bytes) :
    ((((buf.startMessage saslInitialResponseMsg).writeString mech).writeInt32 resp.length).write
        resp).finishMessage.bytes =
      buf.bytes ++ frame saslInitialResponseMsg (cstr mech ++ putUint32 resp.length ++ resp) := by
  simp only [WriteBuffer.writeString_eq, WriteBuffer.writeInt32_eq, WriteBuffer.write_eq,
    WriteBuffer.append_append, putUint32_uint32_natCast]
  exact WriteBuffer.finishMessage_tagged buf (by decide) _

/-- The SASLResponse, written after a flush: the response alone. -/
theorem saslResponse_bytes (resp : Bytes) :
    ((WriteBuffer.empty.startMessage saslResponseMsg).write resp).finishMessage.bytes =
      frame saslResponseMsg resp := by
  rw [WriteBuffer.write_eq]
  exact WriteBuffer.finishMessage_tagged _ (by decide) _

/-- SCRAM-SHA-256 is not the zero mechanism. -/
theorem scramSha256_ne_nil : scramSha256 ≠ [] := by decide

variable {e : Env} {cn : Conn} {r : Bytes}

/-- Collaborators that never fail answer every call with `nil`. -/
theorem Env.answer_of_err (he : ∀ log, e.err log = none) (log : List Call) (k : Call) :
    e.answer log k = none := by
  simp [Env.answer, he]

/-- AuthenticationOk after a password or the SASL exchange. -/
theorem expectAuthOK_authOk {msg : String} (h : cn.rd = (authRequest 0 []).bytes ++ r) :
    expectAuthOK msg e cn = .ok () { cn with rd := r } := by
  rw [expectAuthOK, Go.bind_ok (readMessageType_bytes h (by decide))]
  simp only [authRequest, Backend.tag, Backend.payload, List.append_nil, if_true]
  rw [Go.bind_ok (readInt32_putUint32 rfl (by decide))]
  rfl

/-- An ErrorResponse in place of the AuthenticationOk: the server's error. -/
theorem expectAuthOK_errorResponse {msg : String} {fields : List (UInt8 × Bytes)}
    (hm : (Backend.errorResponse fields).WellFormed) (h : cn.rd = (Backend.errorResponse fields).bytes ++ r) :
    expectAuthOK msg e cn = .stop (.err (errorOf cn.remoteAddr fields)) { cn with rd := r } := by
  rw [expectAuthOK, Go.bind_ok (readMessageType_bytes h hm.fits)]
  simp +decide only [Backend.tag, if_false, if_true]
  exact throw_readError hm.content rfl

/-- SASLFinal, which the negotiator takes as valid: then the AuthenticationOk is read. -/
theorem readAuthSASLFinal_final {mech final : Bytes} (hm : mech ≠ []) (he : ∀ log, e.err log = none)
    (hv : ∀ log, e.saslState log = validServerResponse)
    (hf : (putUint32 12 ++ final).length + 4 < 2 ^ 31)
    (h : cn.rd = (Backend.other authenticationSASLFinalMsg (putUint32 12 ++ final)).bytes ++ r) :
    readAuthSASLFinal mech e cn =
      readAuthOK e { cn with rd := r, log := .saslState :: .saslStep mech (some final) :: cn.log } := by
  rw [readAuthSASLFinal, Go.bind_ok (readMessageType_bytes h hf)]
  simp only [Backend.tag, Backend.payload, if_true]
  rw [Go.bind_ok (readInt32_putUint32 (List.append_assoc _ _ _) (by decide))]
  simp +decide only [ne_eq, not_true_eq_false, if_false]
  rw [Go.pure_bind, Go.bind_ok (readN_append rfl (by simp)),
    Go.bind_ok (saslStep_ok hm (Env.answer_of_err he _ _)),
    Go.bind_ok (show saslState e _ = .ok (e.saslState _) _ from rfl), hv]
  simp only [not_true_eq_false, if_false, Go.pure_bind]

/-- An ErrorResponse in place of the SASLFinal: the server's error. -/
theorem readAuthSASLFinal_errorResponse {mech : Bytes} {fields : List (UInt8 × Bytes)}
    (hm : (Backend.errorResponse fields).WellFormed) (h : cn.rd = (Backend.errorResponse fields).bytes ++ r) :
    readAuthSASLFinal mech e cn = .stop (.err (errorOf cn.remoteAddr fields)) { cn with rd := r } := by
  rw [readAuthSASLFinal, Go.bind_ok (readMessageType_bytes h hm.fits)]
  simp +decide only [Backend.tag, if_false, if_true]
  exact throw_readError hm.content rfl

/-- SASLContinue after the client's first message: the client answers it, then reads the SASLFinal. The
negotiator gets the server's data as it came, and its responses go out framed as SASLInitialResponse and
SASLResponse. -/
theorem saslExchange_continue {mech cont : Bytes} (hm : mech ≠ []) (he : ∀ log, e.err log = none)
    (hc : (putUint32 11 ++ cont).length + 4 < 2 ^ 31)
    (h : cn.rd = (Backend.other authenticationSASLContinueMsg (putUint32 11 ++ cont)).bytes ++ r) :
    saslExchange mech e cn =
      readAuthSASLFinal mech e { cn with
        rd := r, wr := WriteBuffer.empty,
        log := .send (frame saslResponseMsg (e.saslResponse (.saslStep mech (some cont) ::
                  .send (cn.wr.bytes ++ frame saslInitialResponseMsg (cstr mech ++
                    putUint32 (e.saslResponse (.saslStep mech none :: cn.log)).length ++
                    e.saslResponse (.saslStep mech none :: cn.log))) :: .saslStep mech none :: cn.log))) ::
                .saslStep mech (some cont) ::
                .send (cn.wr.bytes ++ frame saslInitialResponseMsg (cstr mech ++
                    putUint32 (e.saslResponse (.saslStep mech none :: cn.log)).length ++
                    e.saslResponse (.saslStep mech none :: cn.log))) :: .saslStep mech none :: cn.log } := by
  rw [saslExchange, Go.bind_ok (saslStep_ok hm (Env.answer_of_err he _ _)),
    Go.bind_ok (modifyWr_apply _ _ _), Go.bind_ok (flushWriter_ok (Env.answer_of_err he _ _)),
    Go.bind_ok (readMessageType_bytes (by exact h) (by exact hc))]
  simp only [Backend.tag, Backend.payload, if_true]
  rw [Go.bind_ok (readInt32_putUint32 (List.append_assoc _ _ _) (by decide))]
  simp +decide only [ne_eq, not_true_eq_false, if_false]
  rw [Go.pure_bind, Go.bind_ok (readN_append rfl (by simp)),
    Go.bind_ok (saslStep_ok hm (Env.answer_of_err he _ _)), Go.bind_ok (modifyWr_apply _ _ _),
    Go.bind_ok (flushWriter_ok (Env.answer_of_err he _ _))]
  simp only [saslInitialResponse_bytes, saslResponse_bytes]

/-- An ErrorResponse in place of the SASLContinue: the server's error. -/
theorem saslExchange_errorResponse {mech : Bytes} {fields : List (UInt8 × Bytes)} (hmech : mech ≠ [])
    (he : ∀ log, e.err log = none) (hm : (Backend.errorResponse fields).WellFormed)
    (h : cn.rd = (Backend.errorResponse fields).bytes ++ r) :
    ∃ log, saslExchange mech e cn =
      .stop (.err (errorOf cn.remoteAddr fields)) { cn with rd := r, wr := WriteBuffer.empty, log := log } := by
  rw [saslExchange, Go.bind_ok (saslStep_ok hmech (Env.answer_of_err he _ _)),
    Go.bind_ok (modifyWr_apply _ _ _), Go.bind_ok (flushWriter_ok (Env.answer_of_err he _ _)),
    Go.bind_ok (readMessageType_bytes (by exact h) (by exact hm.fits))]
  simp +decide only [Backend.tag, if_false, if_true]
  exact ⟨_, throw_readError hm.content rfl⟩

variable {user password : Bytes}

/-- AuthenticationOk: there is nothing to answer. -/
theorem authenticate_authOk (h : cn.rd = putUint32 0 ++ r) :
    authenticate user password e cn = .ok () { cn with rd := r } := by
  rw [authenticate, Go.bind_ok (readInt32_putUint32 h (by decide))]
  rfl

/-- AuthenticationCleartextPassword: the password goes out as it is, then the answer is read. -/
theorem authenticate_cleartext (he : ∀ log, e.err log = none) (h : cn.rd = putUint32 3 ++ r) :
    authenticate user password e cn =
      expectAuthOK "pg: unexpected authentication code: %d" e
        { cn with rd := r, wr := WriteBuffer.empty,
                  log := .send (writePasswordMsg cn.wr password).bytes :: cn.log } := by
  rw [authenticate, Go.bind_ok (readInt32_putUint32 h (by decide))]
  simp +decide only [authenticationOK, authenticationCleartextPassword, if_false, if_true]
  rw [Go.bind_ok (modifyWr_apply _ _ _), Go.bind_ok (flushWriter_ok (Env.answer_of_err he _ _))]

/-- AuthenticationMD5Password: the salted double MD5 digest goes out, then the answer is read. -/
theorem authenticate_md5Password {salt : Bytes} (he : ∀ log, e.err log = none)
    (hs : salt.length = 4) (h : cn.rd = putUint32 5 ++ (salt ++ r)) :
    authenticate user password e cn =
      expectAuthOK "pg: unexpected authentication code: %d" e
        { cn with
          rd := r, wr := WriteBuffer.empty,
          log := .send (writePasswordMsg cn.wr
                    (ascii "md5" ++ md5s e.md5 (md5s e.md5 (password ++ user) ++ salt))).bytes :: cn.log } := by
  rw [authenticate, Go.bind_ok (readInt32_putUint32 h (by decide))]
  simp +decide only [authenticationOK, authenticationCleartextPassword, authenticationMD5Password,
    if_false, if_true]
  rw [Go.bind_ok (readN_append rfl (by simp [hs])), Go.bind_ok Go.env_apply,
    Go.bind_ok (modifyWr_apply _ _ _), Go.bind_ok (flushWriter_ok (Env.answer_of_err he _ _))]

/-- AuthenticationSASL with mechanisms the loop takes, SCRAM-SHA-256 among them: then the SASL
exchange with SCRAM-SHA-256. -/
theorem authenticate_sasl {names : List Bytes} (hS : scramSha256 ∈ names)
    (hn : ∀ n ∈ names, n = scramSha256 ∨ n = scramSha256Plus)
    (h : cn.rd = putUint32 10 ++ (mechanismList names ++ r)) :
    authenticate user password e cn = saslExchange scramSha256 e { cn with rd := r } := by
  rw [authenticate, Go.bind_ok (readInt32_putUint32 h (by decide))]
  simp +decide only [authenticationOK, authenticationCleartextPassword, authenticationMD5Password,
    authenticationSASL, if_false, if_true]
  have hlen := length_lt_mechanismList names
  rw [Go.bind_ok ((Go.byStream_apply _).trans
    (readSASLMechanisms_accept hn (by simp only [List.length_append]; omega) rfl)), if_pos hS]

end Exchanges

/-! ## The startup loop over a transcript -/

section Loop

variable {e : Env} {user password : Bytes}

/-- The branch of `startupBody` for an Authentication request is `authenticate`. -/
theorem startupBody_auth (l : Int) :
    startupBody user password () authenticationOKMsg l = (do authenticate user password; pure (.next ())) := by
  simp +decide only [startupBody, if_false, if_true]

/-- An Authentication request whose exchange returns: one pass of the loop. -/
theorem messageLoop_authRequest {code : Nat} {rest r : Bytes} {cn cn' : Conn} {fuel : Nat}
    (hm : (authRequest code rest).payload.length + 4 < 2 ^ 31)
    (h : authenticate user password e { cn with rd := putUint32 code ++ rest ++ r } = .ok () cn') :
    messageLoop (startupBody user password) (fuel + 1) () e { cn with rd := (authRequest code rest).bytes ++ r } =
      messageLoop (startupBody user password) fuel () e cn' :=
  messageLoop_next hm (by
    show startupBody user password () authenticationOKMsg _ e _ = _
    rw [startupBody_auth]
    exact Go.bind_ok h)

/-- An Authentication request whose exchange stops: the loop stops with it. -/
theorem messageLoop_authRequest_stop {code : Nat} {rest r : Bytes} {cn cn' : Conn} {fuel : Nat} {s : Stop}
    (hm : (authRequest code rest).payload.length + 4 < 2 ^ 31)
    (h : authenticate user password e { cn with rd := putUint32 code ++ rest ++ r } = .stop s cn') :
    messageLoop (startupBody user password) (fuel + 1) () e { cn with rd := (authRequest code rest).bytes ++ r } =
      .stop s cn' :=
  messageLoop_exit (x := .stop s cn') hm (by
    show startupBody user password () authenticationOKMsg _ e _ = _
    rw [startupBody_auth]
    exact Go.bind_stop h) rfl

/-- One step of the server moves the loop past its messages; only a BackendKeyData changes the
key. -/
theorem messageLoop_serverStep (user password : Bytes) (he : ∀ log, e.err log = none)
    (hv : ∀ log, e.saslState log = validServerResponse) {s : ServerStep} (hs : s.WellFormed)
    (fuel : Nat) {cn : Conn} {r : Bytes} (h : cn.rd = stream s.messages ++ r) :
    ∃ cn₁, messageLoop (startupBody user password) (fuel + 1) () e cn =
        messageLoop (startupBody user password) fuel () e cn₁ ∧
      cn₁.rd = r ∧ cn₁.remoteAddr = cn.remoteAddr ∧
      (cn₁.processId, cn₁.secretKey) = s.storeKey (cn.processId, cn.secretKey) := by
  obtain ⟨hc, hfit⟩ := hs
  rw [Conn.eq_with_rd h]
  cases s with
  | keyData pid key =>
    have hm := hfit _ (List.mem_cons_self _ _)
    simp only [ServerStep.messages, stream_cons, stream_nil, List.append_nil]
    refine ⟨{ cn with rd := r, processId := toInt32 (beUint pid), secretKey := toInt32 (beUint key) },
      messageLoop_next hm ?_, rfl, rfl, rfl⟩
    simp +decide only [startupBody, Backend.tag, Backend.payload, if_true]
    rw [Go.bind_ok (readInt32_append hc.1 (List.append_assoc _ _ _)), Go.bind_ok (readInt32_append hc.2 rfl),
      Go.bind_ok (Go.modify_apply _)]
    rfl
  | parameterStatus p =>
    have hm := hfit _ (List.mem_cons_self _ _)
    simp only [ServerStep.messages, stream_cons, stream_nil, List.append_nil]
    refine ⟨{ cn with rd := r }, messageLoop_next hm ?_, rfl, rfl, rfl⟩
    simp +decide only [startupBody, logParameterStatus, Backend.tag, Backend.payload, if_false, if_true]
    rw [Go.bind_ok (discardN_append rfl)]
    rfl
  | authOk =>
    have hm := hfit _ (List.mem_cons_self _ _)
    simp only [ServerStep.messages, stream_cons, stream_nil, List.append_nil]
    exact ⟨_, messageLoop_authRequest hm (authenticate_authOk rfl), rfl, rfl, rfl⟩
  | cleartext =>
    have hm := hfit _ (List.mem_cons_self _ _)
    simp only [ServerStep.messages, stream_cons, stream_nil, List.append_nil, List.append_assoc]
    exact ⟨_, messageLoop_authRequest hm ((authenticate_cleartext he rfl).trans (expectAuthOK_authOk rfl)),
      rfl, rfl, rfl⟩
  | md5 salt =>
    have hm := hfit _ (List.mem_cons_self _ _)
    simp only [ServerStep.messages, stream_cons, stream_nil, List.append_nil, List.append_assoc]
    exact ⟨_, messageLoop_authRequest hm
      ((authenticate_md5Password he hc rfl).trans (expectAuthOK_authOk rfl)), rfl, rfl, rfl⟩
  | sasl names cont final =>
    have hm := hfit _ (List.mem_cons_self _ _)
    have hcont := hfit _ (List.mem_cons_of_mem _ (List.mem_cons_self _ _))
    have hfin := hfit _ (List.mem_cons_of_mem _ (List.mem_cons_of_mem _ (List.mem_cons_self _ _)))
    simp only [ServerStep.messages, stream_cons, stream_nil, List.append_nil, List.append_assoc]
    exact ⟨_, messageLoop_authRequest hm ((authenticate_sasl hc.1 hc.2 rfl).trans
      ((saslExchange_continue scramSha256_ne_nil he hcont rfl).trans
        ((readAuthSASLFinal_final scramSha256_ne_nil he hv hfin rfl).trans (expectAuthOK_authOk rfl)))), rfl, rfl, rfl⟩

/-- An ErrorResponse in place of the next message of a step: the loop stops with the server's
error right after it. -/
theorem messageLoop_rejected (user password : Bytes) (he : ∀ log, e.err log = none)
    (hv : ∀ log, e.saslState log = validServerResponse) {s : ServerStep} (hs : s.WellFormed) {k : Nat}
    (hk : k < s.messages.length) {fields : List (UInt8 × Bytes)}
    (hm : (Backend.errorResponse fields).WellFormed) (fuel : Nat) {cn : Conn} {r : Bytes}
    (h : cn.rd = stream (s.messages.take k ++ [.errorResponse fields]) ++ r) :
    ∃ cn', messageLoop (startupBody user password) (fuel + 1) () e cn =
      .stop (.err (errorOf cn.remoteAddr fields)) cn' ∧ cn'.rd = r := by
  obtain ⟨hc, hfit⟩ := hs
  rw [Conn.eq_with_rd h]
  rcases k with _ | k
  · have hb : ∀ (u : Unit) l, startupBody user password u errorResponseMsg l =
        (do throw (← readError) : Go (Step Unit Unit)) := by
      intro _ _
      simp +decide only [startupBody, if_false, if_true]
    simp only [List.take_zero, List.nil_append, stream_cons, stream_nil, List.append_nil]
    exact ⟨_, messageLoop_exit hm.fits (errorResponse_stop hb hm.content) rfl, rfl⟩
  · cases s with
    | cleartext =>
      obtain rfl : k = 0 := by simp only [ServerStep.messages, List.length_cons, List.length_nil] at hk; omega
      have hreq := hfit _ (List.mem_cons_self _ _)
      simp only [ServerStep.messages, List.take, stream_cons, stream_nil, List.append_nil,
        List.cons_append, List.nil_append, List.append_assoc]
      exact ⟨_, messageLoop_authRequest_stop hreq
        ((authenticate_cleartext he rfl).trans (expectAuthOK_errorResponse hm rfl)), rfl⟩
    | md5 salt =>
      obtain rfl : k = 0 := by simp only [ServerStep.messages, List.length_cons, List.length_nil] at hk; omega
      have hreq := hfit _ (List.mem_cons_self _ _)
      simp only [ServerStep.messages, List.take, stream_cons, stream_nil, List.append_nil,
        List.cons_append, List.nil_append, List.append_assoc]
      exact ⟨_, messageLoop_authRequest_stop hreq
        ((authenticate_md5Password he hc rfl).trans (expectAuthOK_errorResponse hm rfl)), rfl⟩
    | sasl names cont final =>
      have hreq := hfit _ (List.mem_cons_self _ _)
      have hcont := hfit _ (List.mem_cons_of_mem _ (List.mem_cons_self _ _))
      have hfin := hfit _ (List.mem_cons_of_mem _ (List.mem_cons_of_mem _ (List.mem_cons_self _ _)))
      rcases k with _ | _ | _ | k
      · simp only [ServerStep.messages, List.take, stream_cons, stream_nil, List.append_nil,
          List.cons_append, List.nil_append, List.append_assoc]
        exact ⟨_, messageLoop_authRequest_stop hreq (by
          rw [authenticate_sasl hc.1 hc.2 (by rfl)]
          exact (saslExchange_errorResponse scramSha256_ne_nil he hm rfl).choose_spec), by rfl⟩
      · simp only [ServerStep.messages, List.take, stream_cons, stream_nil, List.append_nil,
          List.cons_append, List.nil_append, List.append_assoc]
        exact ⟨_, messageLoop_authRequest_stop hreq ((authenticate_sasl hc.1 hc.2 rfl).trans
          ((saslExchange_continue scramSha256_ne_nil he hcont rfl).trans (readAuthSASLFinal_errorResponse hm rfl))), rfl⟩
      · simp only [ServerStep.messages, List.take, stream_cons, stream_nil, List.append_nil,
          List.cons_append, List.nil_append, List.append_assoc]
        exact ⟨_, messageLoop_authRequest_stop hreq ((authenticate_sasl hc.1 hc.2 rfl).trans
          ((saslExchange_continue scramSha256_ne_nil he hcont rfl).trans
            ((readAuthSASLFinal_final scramSha256_ne_nil he hv hfin rfl).trans (expectAuthOK_errorResponse hm rfl)))), rfl⟩
      · simp only [ServerStep.messages, List.length_cons, List.length_nil] at hk
        omega
    | keyData _ _ | parameterStatus _ | authOk =>
      simp only [ServerStep.messages, List.length_cons, List.length_nil] at hk
      omega

/-- ReadyForQuery ends the loop right after itself. -/
theorem messageLoop_readyForQuery {p : Bytes} (hp : p.length + 4 < 2 ^ 31) {fuel : Nat} {cn : Conn}
    {r : Bytes} (h : cn.rd = (Backend.other readyForQueryMsg p).bytes ++ r) :
    messageLoop (startupBody user password) (fuel + 1) () e cn = .ok () { cn with rd := r } := by
  have hz : startupBody user password () readyForQueryMsg p.length e { cn with rd := p ++ r } =
      .ok (.done ()) { cn with rd := r } := by
    simp +decide only [startupBody, if_false, if_true]
    rw [Go.bind_ok (discardN_append rfl)]
    rfl
  rw [Conn.eq_with_rd h]
  exact messageLoop_exit hp hz rfl

/-- The loop over a transcript: one pass a message, and the key folded over the steps. -/
theorem messageLoop_steps (he : ∀ log, e.err log = none)
    (hv : ∀ log, e.saslState log = validServerResponse) (r : Bytes) (steps : List ServerStep)
    (hsteps : ∀ s ∈ steps, s.WellFormed) :
    ∀ fuel (cn : Conn), cn.rd = transcript steps ++ r →
      ∃ cn₁, messageLoop (startupBody user password) (fuel + steps.length) () e cn =
          messageLoop (startupBody user password) fuel () e cn₁ ∧
        cn₁.rd = r ∧ cn₁.remoteAddr = cn.remoteAddr ∧
        (cn₁.processId, cn₁.secretKey) = steps.foldl (fun k s => s.storeKey k) (cn.processId, cn.secretKey) := by
  induction steps with
  | nil => exact fun fuel cn h => ⟨cn, rfl, h, rfl, rfl⟩
  | cons s steps ih =>
    intro fuel cn h
    rw [transcript_cons, List.append_assoc] at h
    obtain ⟨cn₁, hstep, hrd, haddr, hkey⟩ :=
      messageLoop_serverStep user password he hv (hsteps s (List.mem_cons_self _ _)) (fuel + steps.length) h
    obtain ⟨cn', hrun, hrd', haddr', hkey'⟩ := ih (fun s' hs' => hsteps s' (List.mem_cons_of_mem _ hs')) fuel cn₁ hrd
    refine ⟨cn', hstep.trans hrun, hrd', haddr'.trans haddr, ?_⟩
    rw [hkey', hkey, List.foldl_cons]

/-- A whole transcript then ReadyForQuery: the loop returns right after the ReadyForQuery. -/
theorem messageLoop_transcript (he : ∀ log, e.err log = none)
    (hv : ∀ log, e.saslState log = validServerResponse) {p : Bytes} (hp : p.length + 4 < 2 ^ 31)
    (r : Bytes) (steps : List ServerStep) (hsteps : ∀ s ∈ steps, s.WellFormed) (fuel : Nat) (cn : Conn)
    (h : cn.rd = transcript steps ++ (Backend.other readyForQueryMsg p).bytes ++ r) (hfuel : steps.length ≤ fuel) :
    ∃ cn', messageLoop (startupBody user password) (fuel + 1) () e cn = .ok () cn' ∧ cn'.rd = r ∧
      (cn'.processId, cn'.secretKey) = steps.foldl (fun k s => s.storeKey k) (cn.processId, cn.secretKey) := by
  obtain ⟨f, rfl⟩ := Nat.exists_eq_add_of_le hfuel
  obtain ⟨cn₁, hrun, hrd, -, hkey⟩ := messageLoop_steps he hv _ steps hsteps (f + 1) cn
    (h.trans (List.append_assoc _ _ _))
  rw [show steps.length + f + 1 = f + 1 + steps.length by omega, hrun]
  exact ⟨_, messageLoop_readyForQuery hp hrd, rfl, hkey⟩

/-- A whole transcript then an ErrorResponse in place of a step's next message: the loop stops
with the server's error right after it. -/
theorem messageLoop_transcript_rejected (he : ∀ log, e.err log = none)
    (hv : ∀ log, e.saslState log = validServerResponse) {s : ServerStep} (hs : s.WellFormed) {k : Nat}
    (hk : k < s.messages.length) {fields : List (UInt8 × Bytes)}
    (hm : (Backend.errorResponse fields).WellFormed) (r : Bytes) (steps : List ServerStep)
    (hsteps : ∀ s ∈ steps, s.WellFormed) (fuel : Nat) (cn : Conn)
    (h : cn.rd = transcript steps ++ stream (s.messages.take k ++ [.errorResponse fields]) ++ r)
    (hfuel : steps.length ≤ fuel) :
    ∃ cn', messageLoop (startupBody user password) (fuel + 1) () e cn =
      .stop (.err (errorOf cn.remoteAddr fields)) cn' ∧ cn'.rd = r := by
  obtain ⟨f, rfl⟩ := Nat.exists_eq_add_of_le hfuel
  obtain ⟨cn₁, hrun, hrd, haddr, -⟩ := messageLoop_steps he hv _ steps hsteps (f + 1) cn
    (h.trans (List.append_assoc _ _ _))
  rw [show steps.length + f + 1 = f + 1 + steps.length by omega, hrun, ← haddr]
  exact messageLoop_rejected user password he hv hs hk hm f hrd

/-- `startup` sends the StartupMessage, then runs its loop over what it reads. -/
theorem startup_eq (he : ∀ log, e.err log = none) (database : Bytes) (cn : Conn) :
    startup user password database e cn =
      messageLoop (startupBody user password) (cn.rd.length + 1) () e
        { cn with wr := WriteBuffer.empty, log := .send (writeStartupMsg cn.wr user database).bytes :: cn.log } := by
  rw [startup, Go.bind_ok (modifyWr_apply _ _ _), Go.bind_ok (flushWriter_ok (Env.answer_of_err he _ _))]
  rfl

/-- `startup` on a transcript: it sends the StartupMessage, then reads up to the ReadyForQuery. -/
theorem startup_transcript (he : ∀ log, e.err log = none)
    (hv : ∀ log, e.saslState log = validServerResponse) (database : Bytes) {p : Bytes}
    (hp : p.length + 4 < 2 ^ 31) (steps : List ServerStep) (hsteps : ∀ s ∈ steps, s.WellFormed)
    (cn : Conn) (rest : Bytes) :
    ∃ cn', startup user password database e
        { cn with rd := transcript steps ++ (Backend.other readyForQueryMsg p).bytes ++ rest } = .ok () cn' ∧
      cn'.rd = rest ∧
      (cn'.processId, cn'.secretKey) = steps.foldl (fun k s => s.storeKey k) (cn.processId, cn.secretKey) := by
  have hlen := length_le_length_transcript steps
  rw [startup_eq he]
  exact messageLoop_transcript he hv hp rest steps hsteps _ _ rfl (by simp only [List.length_append]; omega)

end Loop

/-! ## Accepted handshakes -/

/-- Collaborators that never fail, a negotiator that takes the server's SASLFinal as valid, and a
digest of sixteen zero bytes. -/
def Env.accepting : Env :=
  ⟨fun _ => none, fun _ => [], fun _ => validServerResponse, fun _ => List.replicate 16 0⟩

/-- On every transcript of BackendKeyData, ParameterStatus and complete Authentication exchanges
followed by ReadyForQuery, with collaborators that never fail and a negotiator that takes SASLFinal
as valid, `startup` returns right after the ReadyForQuery and keeps the last key the server sent, or
its own if there is none. -/
theorem startup_accepts (user password database : Bytes) (e : Env) (cn : Conn)
    (steps : List ServerStep) (p rest : Bytes) (hsteps : ∀ s ∈ steps, s.WellFormed)
    (hp : p.length + 4 < 2 ^ 31) (he : ∀ log, e.err log = none)
    (hv : ∀ log, e.saslState log = validServerResponse) :
    ∃ cn', startup user password database e
        { cn with rd := transcript steps ++ (Backend.other readyForQueryMsg p).bytes ++ rest } = .ok () cn' ∧
      cn'.rd = rest ∧
      (cn'.processId, cn'.secretKey) =
        ((steps.filterMap ServerStep.key?).getLast?.map
          fun b => (toInt32 (beUint b.1), toInt32 (beUint b.2))).getD (cn.processId, cn.secretKey) := by
  obtain ⟨cn', hrun, hrd, hkey⟩ := startup_transcript he hv database hp steps hsteps cn rest
  exact ⟨cn', hrun, hrd, hkey.trans (foldl_storeKey steps _)⟩

/-- A key, a parameter and an MD5 exchange, then ReadyForQuery: the key is kept. -/
theorem startup_keyThenMd5 :
    (∀ s ∈ [ServerStep.keyData [0, 0, 0, 7] [0, 0, 1, 0], .parameterStatus (ascii "a\x00b\x00"),
        .md5 [1, 2, 3, 4]], s.WellFormed) ∧
    ∃ cn', startup [117] [] [100] Env.accepting
        { Conn.ofInput [] with
          rd := transcript [.keyData [0, 0, 0, 7] [0, 0, 1, 0], .parameterStatus (ascii "a\x00b\x00"),
            .md5 [1, 2, 3, 4]] ++ (Backend.other readyForQueryMsg [73]).bytes ++ [] } = .ok () cn' ∧
      cn'.rd = [] ∧ (cn'.processId, cn'.secretKey) = (7, 256) := by
  have hsteps : ∀ s ∈ [ServerStep.keyData [0, 0, 0, 7] [0, 0, 1, 0], .parameterStatus (ascii "a\x00b\x00"),
      .md5 [1, 2, 3, 4]], s.WellFormed := by decide
  obtain ⟨cn', hrun, hrd, hkey⟩ := startup_accepts [117] [] [100] Env.accepting (Conn.ofInput []) _ [73] []
    hsteps (by decide) (fun _ => rfl) (fun _ => rfl)
  exact ⟨hsteps, cn', hrun, hrd, hkey.trans rfl⟩

/-- A key read from four bytes is written back as those bytes. -/
theorem putUint32_uint32_toInt32 {b : Bytes} (hb : b.length = 4) :
    putUint32 (uint32 (toInt32 (beUint b))) = b := by
  have hlt := beUint_lt hb
  have hround : uint32 (toInt32 (beUint b)) = beUint b := by
    simp only [uint32, toInt32]
    split <;> omega
  rw [hround, putUint32_beUint hb]

/-- After such a `startup`, a CancelRequest carries back the eight bytes of the last BackendKeyData
as the server sent them. -/
theorem startup_cancelKey (user password database : Bytes) (e : Env) (cn : Conn)
    (steps : List ServerStep) (p rest : Bytes) (buf : WriteBuffer) {pid key : Bytes}
    (hsteps : ∀ s ∈ steps, s.WellFormed) (hp : p.length + 4 < 2 ^ 31) (he : ∀ log, e.err log = none)
    (hv : ∀ log, e.saslState log = validServerResponse)
    (hkey : (steps.filterMap ServerStep.key?).getLast? = some (pid, key)) :
    ∃ cn', startup user password database e
        { cn with rd := transcript steps ++ (Backend.other readyForQueryMsg p).bytes ++ rest } = .ok () cn' ∧
      (writeCancelRequestMsg buf cn'.processId cn'.secretKey).bytes =
        buf.bytes ++ putUint32 16 ++ putUint32 80877102 ++ pid ++ key := by
  obtain ⟨s, hs, hsk⟩ := List.mem_filterMap.1 (List.mem_of_getLast?_eq_some hkey)
  obtain rfl := ServerStep.eq_keyData_of_key? hsk
  obtain ⟨⟨hpid, hkl⟩, -⟩ := hsteps _ hs
  obtain ⟨cn', hrun, -, hk⟩ := startup_transcript he hv database hp steps hsteps cn rest
  rw [foldl_storeKey, hkey, Option.map_some', Option.getD_some, Prod.mk.injEq] at hk
  refine ⟨cn', hrun, ?_⟩
  rw [writeCancelRequestMsg_bytes, hk.1, hk.2]
  simp only [Frontend.encode, Frontend.tag?, Frontend.body, putUint32_uint32_toInt32 hpid,
    putUint32_uint32_toInt32 hkl, List.length_append, putUint32_length, hpid, hkl, List.append_assoc]

/-- Two keys, the second negative as an int32: the CancelRequest carries the second. -/
theorem startup_cancelKey_afterTwoKeys :
    (∀ s ∈ [ServerStep.keyData [0, 0, 0, 1] [0, 0, 0, 2], .authOk, .keyData [255, 0, 0, 7] [0, 0, 1, 0]],
        s.WellFormed) ∧
    ∃ cn', startup [117] [] [100] Env.accepting
        { Conn.ofInput [] with
          rd := transcript [.keyData [0, 0, 0, 1] [0, 0, 0, 2], .authOk, .keyData [255, 0, 0, 7] [0, 0, 1, 0]] ++
            (Backend.other readyForQueryMsg [73]).bytes ++ [] } = .ok () cn' ∧
      (writeCancelRequestMsg WriteBuffer.empty cn'.processId cn'.secretKey).bytes =
        WriteBuffer.empty.bytes ++ putUint32 16 ++ putUint32 80877102 ++ [255, 0, 0, 7] ++ [0, 0, 1, 0] := by
  have hsteps : ∀ s ∈ [ServerStep.keyData [0, 0, 0, 1] [0, 0, 0, 2], .authOk,
      .keyData [255, 0, 0, 7] [0, 0, 1, 0]], s.WellFormed := by decide
  exact ⟨hsteps, startup_cancelKey [117] [] [100] Env.accepting (Conn.ofInput []) _ [73] [] WriteBuffer.empty
    hsteps (by decide) (fun _ => rfl) (fun _ => rfl) rfl⟩

/-! ## Rejected handshakes -/

/-- An ErrorResponse in place of any message of an exchange, after accepted steps, is the error
`startup` returns, with the connection's address, and `startup` stops right after it. -/
theorem startup_rejects (user password database : Bytes) (e : Env) (cn : Conn)
    (steps : List ServerStep) (s : ServerStep) (k : Nat) (fields : List (UInt8 × Bytes)) (rest : Bytes)
    (hsteps : ∀ s ∈ steps, s.WellFormed) (hs : s.WellFormed) (hk : k < s.messages.length)
    (hm : (Backend.errorResponse fields).WellFormed) (he : ∀ log, e.err log = none)
    (hv : ∀ log, e.saslState log = validServerResponse) :
    ∃ cn', startup user password database e
        { cn with rd := transcript steps ++ stream (s.messages.take k ++ [.errorResponse fields]) ++ rest } =
        .stop (.err (errorOf cn.remoteAddr fields)) cn' ∧ cn'.rd = rest := by
  have hlen := length_le_length_transcript steps
  rw [startup_eq he]
  exact messageLoop_transcript_rejected he hv hs hk hm rest steps hsteps _ _ rfl
    (by simp only [List.length_append]; omega)

/-- A key, then an MD5 password the server refuses. -/
theorem startup_md5Rejected :
    (∀ s ∈ [ServerStep.keyData [0, 0, 0, 7] [0, 0, 1, 0]], s.WellFormed) ∧
    (ServerStep.md5 [1, 2, 3, 4]).WellFormed ∧ 1 < (ServerStep.md5 [1, 2, 3, 4]).messages.length ∧
    (Backend.errorResponse [('M'.toUInt8, ascii "denied")]).WellFormed ∧
    ∃ cn', startup [117] [0, 1] [100] Env.accepting
        { Conn.ofInput [] with
          rd := transcript [.keyData [0, 0, 0, 7] [0, 0, 1, 0]] ++
            stream ((ServerStep.md5 [1, 2, 3, 4]).messages.take 1 ++
              [.errorResponse [('M'.toUInt8, ascii "denied")]]) ++ [] } =
        .stop (.err (errorOf (Conn.ofInput []).remoteAddr [('M'.toUInt8, ascii "denied")])) cn' ∧
      cn'.rd = [] := by
  have hsteps : ∀ s ∈ [ServerStep.keyData [0, 0, 0, 7] [0, 0, 1, 0]], s.WellFormed := by decide
  have hs : (ServerStep.md5 [1, 2, 3, 4]).WellFormed := by decide
  have hm : (Backend.errorResponse [('M'.toUInt8, ascii "denied")]).WellFormed := by decide
  exact ⟨hsteps, hs, by decide, hm, startup_rejects [117] [0, 1] [100] Env.accepting (Conn.ofInput []) _ _ 1 _ []
    hsteps hs (by decide) hm (fun _ => rfl) (fun _ => rfl)⟩

/-! ## The SASL messages -/

/-- On AuthenticationSASL offering SCRAM-SHA-256, then SASLContinue, SASLFinal and AuthenticationOk,
with collaborators that never fail and a negotiator that takes the SASLFinal as valid,
`authenticate` makes exactly the calls of the exchange, in order: the first step, the
SASLInitialResponse naming SCRAM-SHA-256 with the response's length, the step on the SASLContinue
data, the SASLResponse, the step on the SASLFinal data and the state check. -/
theorem authenticate_saslMessages (user password : Bytes) (e : Env) (cn : Conn) (names : List Bytes)
    (cont final r : Bytes) (hS : scramSha256 ∈ names) (hn : ∀ n ∈ names, n = scramSha256 ∨ n = scramSha256Plus)
    (hc : (putUint32 11 ++ cont).length + 4 < 2 ^ 31) (hf : (putUint32 12 ++ final).length + 4 < 2 ^ 31)
    (he : ∀ log, e.err log = none) (hv : ∀ log, e.saslState log = validServerResponse) :
    let clientFirst := e.saslResponse (.saslStep scramSha256 none :: cn.log)
    let sent := cn.wr.bytes ++
      frame saslInitialResponseMsg (cstr scramSha256 ++ putUint32 clientFirst.length ++ clientFirst)
    let clientFinal := e.saslResponse
      (.saslStep scramSha256 (some cont) :: .send sent :: .saslStep scramSha256 none :: cn.log)
    authenticate user password e
        { cn with
          rd := putUint32 10 ++ (mechanismList names ++
            ((Backend.other authenticationSASLContinueMsg (putUint32 11 ++ cont)).bytes ++
              ((Backend.other authenticationSASLFinalMsg (putUint32 12 ++ final)).bytes ++
                ((authRequest 0 []).bytes ++ r)))) } =
      .ok () { cn with
        rd := r, wr := WriteBuffer.empty,
        log := .saslState :: .saslStep scramSha256 (some final) :: .send (frame saslResponseMsg clientFinal) ::
          .saslStep scramSha256 (some cont) :: .send sent :: .saslStep scramSha256 none :: cn.log } := by
  intro clientFirst sent clientFinal
  rw [authenticate_sasl hS hn (by rfl), saslExchange_continue scramSha256_ne_nil he hc (by rfl),
    readAuthSASLFinal_final scramSha256_ne_nil he hv hf (by rfl)]
  exact expectAuthOK_authOk (by rfl)

/-- SCRAM-SHA-256 offered after SCRAM-SHA-256-PLUS, with a negotiator whose responses are one byte
holding the number of calls made so far. -/
theorem authenticate_saslMessages_scram :
    scramSha256 ∈ [scramSha256Plus, scramSha256] ∧
    (∀ n ∈ [scramSha256Plus, scramSha256], n = scramSha256 ∨ n = scramSha256Plus) ∧
    (putUint32 11 ++ ascii "r=n").length + 4 < 2 ^ 31 ∧ (putUint32 12 ++ ascii "v=s").length + 4 < 2 ^ 31 ∧
    authenticate [117] [112] { Env.accepting with saslResponse := fun log => [UInt8.ofNat log.length] }
        { Conn.ofInput [] with
          rd := putUint32 10 ++ (mechanismList [scramSha256Plus, scramSha256] ++
            ((Backend.other authenticationSASLContinueMsg (putUint32 11 ++ ascii "r=n")).bytes ++
              ((Backend.other authenticationSASLFinalMsg (putUint32 12 ++ ascii "v=s")).bytes ++
                ((authRequest 0 []).bytes ++ [])))) } =
      .ok () { Conn.ofInput [] with
        rd := [], wr := WriteBuffer.empty,
        log := [.saslState, .saslStep scramSha256 (some (ascii "v=s")), .send (frame saslResponseMsg [3]),
          .saslStep scramSha256 (some (ascii "r=n")),
          .send (frame saslInitialResponseMsg (cstr scramSha256 ++ putUint32 1 ++ [1])),
          .saslStep scramSha256 none] } :=
  ⟨by decide, by decide, by decide, by decide,
    authenticate_saslMessages [117] [112] { Env.accepting with saslResponse := fun log => [UInt8.ofNat log.length] }
      (Conn.ofInput []) [scramSha256Plus, scramSha256] (ascii "r=n") (ascii "v=s") [] (by decide) (by decide)
      (by decide) (by decide) (fun _ => rfl) (fun _ => rfl)⟩

/-! ## The MD5 answer -/

/-- `hex.EncodeToString` writes only digits, never a NUL. -/
theorem zero_not_mem_hexEncode (b : Bytes) : 0 ∉ hexEncode b := by
  have hdigit : ∀ i < 16, (ascii "0123456789abcdef").getD i 0 ≠ 0 := by decide
  simp only [hexEncode, List.mem_flatMap, List.mem_cons, List.mem_singleton, List.not_mem_nil, or_false,
    not_exists, not_and]
  intro x _ h
  have := uint8_toNat_lt x
  rcases h with h | h
  · exact hdigit _ (by omega) h.symm
  · exact hdigit _ (Nat.mod_lt _ (by decide)) h.symm

/-- `hex.EncodeToString` writes two digits for each byte. -/
theorem length_hexEncode (b : Bytes) : (hexEncode b).length = 2 * b.length := by
  induction b with
  | nil => rfl
  | cons x b ih =>
    rw [hexEncode, List.flatMap_cons, List.length_append, ← hexEncode, ih]
    simp only [List.length_cons, List.length_nil, List.length_cons]
    omega

/-- On AuthenticationMD5Password with a 4-byte salt, then AuthenticationOk, `authenticate` sends one
PasswordMessage of "md5" and the hex digest of the password, user and salt, which parses back as
that message. -/
theorem authenticate_md5 (user password salt r : Bytes) (e : Env) (cn : Conn) (hs : salt.length = 4)
    (he : ∀ log, e.err log = none) (hmd5 : ∀ b, (e.md5 b).length = 16) :
    ∃ sent, authenticate user password e
        { cn with rd := putUint32 5 ++ (salt ++ ((authRequest 0 []).bytes ++ r)) } =
        .ok () { cn with rd := r, wr := WriteBuffer.empty, log := .send (cn.wr.bytes ++ sent) :: cn.log } ∧
      decodeRequests sent =
        some [.password (ascii "md5" ++ md5s e.md5 (md5s e.md5 (password ++ user) ++ salt))] := by
  refine ⟨_, ((authenticate_md5Password he hs rfl).trans (expectAuthOK_authOk rfl)).trans
    (by rw [writePasswordMsg_bytes]),
    decodeRequests_encodeAll fun m hm => ?_⟩
  rw [List.mem_singleton.1 hm]
  have hlen : (md5s e.md5 (md5s e.md5 (password ++ user) ++ salt)).length = 32 := by
    rw [md5s, length_hexEncode, hmd5]
  refine ⟨rfl, ?_, ?_⟩
  · show 0 ∉ ascii "md5" ++ md5s e.md5 _
    rw [List.mem_append, md5s]
    exact fun h => h.elim (by decide) (zero_not_mem_hexEncode _)
  · simp only [Frontend.body, cstr_length, List.length_append, hlen]
    decide

/-- A password holding a NUL: the digest the PasswordMessage carries holds none. -/
theorem authenticate_md5_nulPassword :
    [1, 2, 3, 4].length = 4 ∧ (∀ log, Env.accepting.err log = none) ∧
    (∀ b, (Env.accepting.md5 b).length = 16) ∧
    ∃ sent, authenticate [117] [0, 1] Env.accepting
        { Conn.ofInput [] with rd := putUint32 5 ++ ([1, 2, 3, 4] ++ ((authRequest 0 []).bytes ++ [])) } =
        .ok () { Conn.ofInput [] with
          rd := [], wr := WriteBuffer.empty, log := .send ((Conn.ofInput []).wr.bytes ++ sent) :: [] } ∧
      decodeRequests sent = some [.password (ascii "md5" ++ md5s Env.accepting.md5
        (md5s Env.accepting.md5 ([0, 1] ++ [117]) ++ [1, 2, 3, 4]))] :=
  ⟨rfl, fun _ => rfl, fun _ => List.length_replicate _ _,
    authenticate_md5 [117] [0, 1] [1, 2, 3, 4] [] Env.accepting (Conn.ofInput []) rfl (fun _ => rfl)
      (fun _ => List.length_replicate _ _)⟩

end GoPg
