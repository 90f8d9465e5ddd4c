import GoPg.Inversion
import GoPg.Startup

/-!
# A startup that succeeds has authenticated

`startup` returns only at ReadyForQuery, and only after every Authentication request the
server made was completed: a password answered by AuthenticationOk, or a SASL exchange whose
SASLFinal the negotiator took as a valid server response, then AuthenticationOk.

`Handshake` is the server's side of such a startup as a grammar over the bytes `startup`
consumes. It threads the calls made on collaborators, since the negotiator's verdict is read
from them. `startup_handshake` says that whatever `startup` consumed when it returned is a word
of the grammar; it is proved from one inversion lemma per function of the handshake.
-/

namespace GoPg

/-- An Authentication message as `authenticate` and `readAuthOK` read it: a length field they
do not check, then the code. -/
def authMsg (len : Bytes) (code : Nat) : Bytes := authenticationOKMsg :: len ++ putUint32 code

/-- The mechanism list of AuthenticationSASL: NUL-terminated names, then the empty name. -/
def mechanismList (names : List Bytes) : Bytes := names.flatMap cstr ++ [0]

/-- The mechanism the loop of `authenticate` selects from a list it accepts. -/
def selectedMechanism (names : List Bytes) : Bytes :=
  if scramSha256 ∈ names then scramSha256 else []

/-- A completed Authentication exchange, from the calls `log` made before it to those made by
its end. The bytes written in answer (`b`, `b₁`, `b₂`) are left free. -/
inductive AuthCompleted (e : Env) : List Call → Bytes → List Call → Prop
  /-- AuthenticationOk. -/
  | ok (log : List Call) (len : Bytes) :
    len.length = 4 → AuthCompleted e log (authMsg len 0) log
  /-- AuthenticationCleartextPassword, or AuthenticationMD5Password and its salt; the password
  is sent, and AuthenticationOk follows. -/
  | password (log : List Call) (len len' salt b : Bytes) (code : Nat) :
    len.length = 4 → len'.length = 4 → code = 3 ∧ salt = [] ∨ code = 5 ∧ salt.length = 4 →
    AuthCompleted e log (authMsg len code ++ salt ++ authMsg len' 0) (.send b :: log)
  /-- AuthenticationSASL offering SCRAM-SHA-256 and SCRAM-SHA-256-PLUS only, SASLContinue and
  SASLFinal, after whose data the negotiator is in state ValidServerResponse, then
  AuthenticationOk. -/
  | sasl (log : List Call) (len len' cont final b₁ b₂ : Bytes) (names : List Bytes) :
    len.length = 4 → len'.length = 4 →
    (∀ n ∈ names, n = scramSha256 ∨ n = scramSha256Plus) →
    e.saslState (.saslState :: .saslStep (selectedMechanism names) (some final) :: .send b₂ ::
      .saslStep (selectedMechanism names) (some cont) :: .send b₁ ::
      .saslStep (selectedMechanism names) none :: log) = validServerResponse →
    AuthCompleted e log
      (authMsg len 10 ++ mechanismList names ++
        frame authenticationSASLContinueMsg (putUint32 11 ++ cont) ++
        frame authenticationSASLFinalMsg (putUint32 12 ++ final) ++ authMsg len' 0)
      (.saslState :: .saslStep (selectedMechanism names) (some final) :: .send b₂ ::
        .saslStep (selectedMechanism names) (some cont) :: .send b₁ ::
        .saslStep (selectedMechanism names) none :: log)

/-- One message of a startup before ReadyForQuery, with the exchange it opens. -/
inductive StartupStep (e : Env) : List Call → Bytes → List Call → Prop
  | keyData (log : List Call) (len pid key : Bytes) :
    len.length = 4 → pid.length = 4 → key.length = 4 →
    StartupStep e log (backendKeyDataMsg :: len ++ pid ++ key) log
  | parameterStatus (log : List Call) (p : Bytes) :
    StartupStep e log (frame parameterStatusMsg p) log
  | auth {log log' : List Call} {x : Bytes} : AuthCompleted e log x log' → StartupStep e log x log'

/-- The server's side of a startup that succeeds: steps in any number and order, then
ReadyForQuery. -/
inductive Handshake (e : Env) : List Call → Bytes → List Call → Prop
  | ready (log : List Call) (p : Bytes) : Handshake e log (frame readyForQueryMsg p) log
  | step {log log₁ log' : List Call} {x rest : Bytes} :
    StartupStep e log x log₁ → Handshake e log₁ rest log' → Handshake e log (x ++ rest) log'

/-- The last message of a handshake is ReadyForQuery. -/
theorem Handshake.ends_ready {e : Env} {log log' : List Call} {x : Bytes}
    (h : Handshake e log x log') : ∃ pre p, x = pre ++ frame readyForQueryMsg p := by
  induction h with
  | ready _ p => exact ⟨[], p, rfl⟩
  | @step _ _ _ x _ _ _ ih =>
    obtain ⟨pre, p, rfl⟩ := ih
    exact ⟨x ++ pre, p, by simp⟩

section Inversion

variable {e : Env} {cn cn' : Conn}

/-- A negotiator step that returned was answered without an error and only logged. -/
theorem saslStep_eq_ok {mech : Bytes} {ch : Option Bytes} {resp : Bytes}
    (h : saslStep mech ch e cn = .ok resp cn') :
    e.answer cn.log (.saslStep mech ch) = none ∧
      cn' = { cn with log := .saslStep mech ch :: cn.log } := by
  rw [saslStep] at h
  split at h
  · cases h
  rw [call_bind] at h
  cases ha : e.answer cn.log (.saslStep mech ch) <;> rw [ha] at h
  · cases h
    exact ⟨rfl, rfl⟩
  · exact absurd h Go.throw_ne_ok

/-- Asking the state returns the negotiator's answer and only logs. -/
theorem saslState_eq_ok {st : UInt8} (h : saslState e cn = .ok st cn') :
    st = e.saslState (.saslState :: cn.log) ∧ cn' = { cn with log := .saslState :: cn.log } := by
  cases h
  exact ⟨rfl, rfl⟩

/-- `expectAuthOK` returns only after AuthenticationOk. -/
theorem expectAuthOK_eq_ok {msg : String} (h : expectAuthOK msg e cn = .ok () cn') :
    ∃ len r, len.length = 4 ∧ cn.rd = authMsg len 0 ++ r ∧ cn' = { cn with rd := r } := by
  obtain ⟨⟨c, l⟩, cn₁, hm, h⟩ := Go.bind_eq_ok h
  obtain ⟨len, r₁, hlen, -, hrd₁, rfl⟩ := readMessageType_eq_ok hm
  dsimp only at h
  split at h
  · obtain ⟨num, cn₂, hn, h⟩ := Go.bind_eq_ok h
    obtain ⟨b, r, hb, rfl, hrd₂, rfl⟩ := readInt32_eq_ok hn
    split at h
    · exact absurd h Go.throw_ne_ok
    · cases h
      subst c
      have hb0 := eq_putUint32_of_toInt32 hb (by omega) le_rfl
      exact ⟨len, r, hlen, by rw [hrd₁, show r₁ = _ from hrd₂, hb0]; simp [authMsg], rfl⟩
  · split at h
    · obtain ⟨_, _, _, h⟩ := Go.bind_eq_ok h
      exact absurd h Go.throw_ne_ok
    · exact absurd h Go.throw_ne_ok

/-- The mechanism loop returns only after a list of the two SCRAM-SHA-256 names. -/
theorem readSASLMechanisms_eq_ok {fuel : Nat} {sel mech : Bytes}
    (h : readSASLMechanisms fuel sel e cn = .ok mech cn') :
    ∃ names r, (∀ n ∈ names, n = scramSha256 ∨ n = scramSha256Plus) ∧
      cn.rd = mechanismList names ++ r ∧
      mech = (if scramSha256 ∈ names then scramSha256 else sel) ∧ cn' = { cn with rd := r } := by
  induction fuel generalizing sel cn with
  | zero => exact absurd h Go.throw_ne_ok
  | succ fuel ih =>
    obtain ⟨s, cn₁, hs, h⟩ := Go.bind_eq_ok h
    obtain ⟨r₁, -, hrd, rfl⟩ := readString_eq_ok hs
    split at h
    · cases h
      subst s
      exact ⟨[], r₁, by simp, by simp [hrd, mechanismList], by simp, rfl⟩
    · split at h
      · obtain ⟨names, r, hn, hrd₁, rfl, rfl⟩ := ih h
        subst s
        refine ⟨scramSha256 :: names, r, by simpa using hn, ?_, by split <;> simp, rfl⟩
        rw [hrd, show r₁ = _ from hrd₁]
        simp [mechanismList, cstr]
      · split at h
        · obtain ⟨names, r, hn, hrd₁, rfl, rfl⟩ := ih h
          subst s
          have hne : scramSha256 ≠ scramSha256Plus := by decide
          refine ⟨scramSha256Plus :: names, r, by simpa using hn, ?_, by simp [hne], rfl⟩
          rw [hrd, show r₁ = _ from hrd₁]
          simp [mechanismList, cstr]
        · exact absurd h Go.throw_ne_ok

/-- `readAuthSASLFinal` returns only after SASLFinal, with the negotiator then in state
ValidServerResponse, and AuthenticationOk. -/
theorem readAuthSASLFinal_eq_ok {mech : Bytes} (h : readAuthSASLFinal mech e cn = .ok () cn') :
    ∃ final len' r, len'.length = 4 ∧
      cn.rd = frame authenticationSASLFinalMsg (putUint32 12 ++ final) ++ authMsg len' 0 ++ r ∧
      cn'.log = .saslState :: .saslStep mech (some final) :: cn.log ∧
      e.saslState cn'.log = validServerResponse ∧ cn'.rd = r := by
  obtain ⟨⟨c, n⟩, cn₁, hm, h⟩ := Go.bind_eq_ok h
  obtain ⟨len, r₁, hlen, rfl, hrd₁, rfl⟩ := readMessageType_eq_ok hm
  dsimp only at h
  split at h
  · subst c
    obtain ⟨c12, cn₂, hc, h⟩ := Go.bind_eq_ok h
    obtain ⟨b12, r₂, hb12, rfl, hrd₂, rfl⟩ := readInt32_eq_ok hc
    split at h
    · exact absurd h Go.throw_bind_ne_ok
    rw [Go.pure_bind] at h
    obtain ⟨final, cn₃, hf, h⟩ := Go.bind_eq_ok h
    obtain ⟨r₃, hfl, hrd₃, rfl⟩ := readN_eq_ok hf
    obtain ⟨_, cn₄, hs, h⟩ := Go.bind_eq_ok h
    obtain ⟨-, rfl⟩ := saslStep_eq_ok hs
    obtain ⟨st, cn₅, hst, h⟩ := Go.bind_eq_ok h
    obtain ⟨rfl, rfl⟩ := saslState_eq_ok hst
    split at h
    · obtain ⟨_, _, _, h⟩ := Go.bind_eq_ok h
      exact absurd h Go.throw_bind_ne_ok
    rename_i hv
    rw [Go.pure_bind] at h
    obtain ⟨len', r, hlen', hrd, rfl⟩ := expectAuthOK_eq_ok h
    refine ⟨final, len', r, hlen', ?_, rfl, of_not_not hv, rfl⟩
    rw [hrd₁, show r₁ = _ from hrd₂, show r₂ = _ from hrd₃, show r₃ = _ from hrd, ← List.append_assoc,
      ← List.append_assoc, ← frame_of_code hlen hb12 (by omega) (by omega)]
    simp
  · split at h
    · obtain ⟨_, _, _, h⟩ := Go.bind_eq_ok h
      exact absurd h Go.throw_ne_ok
    · exact absurd h Go.throw_ne_ok

/-- The SASL exchange returns only after SASLContinue, then SASLFinal with the negotiator in
state ValidServerResponse, then AuthenticationOk. -/
theorem saslExchange_eq_ok {mech : Bytes} (h : saslExchange mech e cn = .ok () cn') :
    ∃ cont final len' b₁ b₂ r, len'.length = 4 ∧
      cn.rd = frame authenticationSASLContinueMsg (putUint32 11 ++ cont) ++
        frame authenticationSASLFinalMsg (putUint32 12 ++ final) ++ authMsg len' 0 ++ r ∧
      cn'.log = .saslState :: .saslStep mech (some final) :: .send b₂ ::
        .saslStep mech (some cont) :: .send b₁ :: .saslStep mech none :: cn.log ∧
      e.saslState cn'.log = validServerResponse ∧ cn'.rd = r := by
  obtain ⟨_, cn₁, hs, h⟩ := Go.bind_eq_ok h
  obtain ⟨-, rfl⟩ := saslStep_eq_ok hs
  obtain ⟨_, cn₂, hw, h⟩ := Go.bind_eq_ok h
  cases hw
  obtain ⟨_, cn₃, hf, h⟩ := Go.bind_eq_ok h
  obtain ⟨-, rfl⟩ := flushWriter_eq_ok hf
  obtain ⟨⟨c, n⟩, cn₄, hm, h⟩ := Go.bind_eq_ok h
  obtain ⟨len, r₁, hlen, rfl, hrd₁, rfl⟩ := readMessageType_eq_ok hm
  dsimp only at h
  split at h
  · subst c
    obtain ⟨c11, cn₅, hc, h⟩ := Go.bind_eq_ok h
    obtain ⟨b11, r₂, hb11, rfl, hrd₂, rfl⟩ := readInt32_eq_ok hc
    split at h
    · exact absurd h Go.throw_bind_ne_ok
    rw [Go.pure_bind] at h
    obtain ⟨cont, cn₆, hb, h⟩ := Go.bind_eq_ok h
    obtain ⟨r₃, hcl, hrd₃, rfl⟩ := readN_eq_ok hb
    obtain ⟨_, cn₇, hs, h⟩ := Go.bind_eq_ok h
    obtain ⟨-, rfl⟩ := saslStep_eq_ok hs
    obtain ⟨_, cn₈, hw, h⟩ := Go.bind_eq_ok h
    cases hw
    obtain ⟨_, cn₉, hf, h⟩ := Go.bind_eq_ok h
    obtain ⟨-, rfl⟩ := flushWriter_eq_ok hf
    obtain ⟨final, len', r, hlen', hrd, hlog, hv, hr⟩ := readAuthSASLFinal_eq_ok h
    refine ⟨cont, final, len', _, _, r, hlen', ?_, hlog, hv, hr⟩
    rw [show cn.rd = _ from hrd₁, show r₁ = _ from hrd₂, show r₂ = _ from hrd₃,
      show r₃ = _ from hrd, ← frame_of_code hlen hb11 (by omega) hcl]
    simp
  · split at h
    · obtain ⟨_, _, _, h⟩ := Go.bind_eq_ok h
      exact absurd h Go.throw_ne_ok
    · exact absurd h Go.throw_ne_ok

/-- The header of an Authentication request, then the code `readInt32` took. -/
theorem authMsg_of_code {len b : Bytes} {k : Int} (hb : b.length = 4)
    (hk : toInt32 (beUint b) = k) (h0 : 0 ≤ k) : authenticationOKMsg :: len ++ b = authMsg len k.toNat := by
  rw [eq_putUint32_of_toInt32 hb hk h0, authMsg]

/-- `authenticate` returns only after an Authentication exchange it completed; its bytes follow
the header of the request. -/
theorem authenticate_eq_ok {user password : Bytes} (h : authenticate user password e cn = .ok () cn') :
    ∃ y, cn.rd = y ++ cn'.rd ∧ ∀ len : Bytes, len.length = 4 →
      AuthCompleted e cn.log (authenticationOKMsg :: len ++ y) cn'.log := by
  obtain ⟨num, cn₁, hn, h⟩ := Go.bind_eq_ok h
  obtain ⟨b, r₁, hb, rfl, hrd₁, rfl⟩ := readInt32_eq_ok hn
  split at h
  · -- AuthenticationOk
    cases h
    refine ⟨b, hrd₁, fun len hlen => ?_⟩
    rw [authMsg_of_code hb ‹_› (by decide)]
    exact .ok _ len hlen
  split at h
  · -- AuthenticationCleartextPassword
    obtain ⟨_, cn₂, hw, h⟩ := Go.bind_eq_ok h
    cases hw
    obtain ⟨_, cn₃, hf, h⟩ := Go.bind_eq_ok h
    obtain ⟨-, rfl⟩ := flushWriter_eq_ok hf
    obtain ⟨len', r, hlen', hrd, rfl⟩ := expectAuthOK_eq_ok h
    refine ⟨b ++ [] ++ authMsg len' 0, by rw [hrd₁, show r₁ = _ from hrd]; simp, fun len hlen => ?_⟩
    simp only [← List.append_assoc]
    rw [authMsg_of_code hb ‹_› (by decide)]
    exact .password _ len len' [] _ 3 hlen hlen' (.inl ⟨rfl, rfl⟩)
  split at h
  · -- AuthenticationMD5Password
    obtain ⟨salt, cn₂, hs, h⟩ := Go.bind_eq_ok h
    obtain ⟨r₂, hsl, hrd₂, rfl⟩ := readN_eq_ok hs
    obtain ⟨_, cn₃, he, h⟩ := Go.bind_eq_ok h
    cases he
    obtain ⟨_, cn₄, hw, h⟩ := Go.bind_eq_ok h
    cases hw
    obtain ⟨_, cn₅, hf, h⟩ := Go.bind_eq_ok h
    obtain ⟨-, rfl⟩ := flushWriter_eq_ok hf
    obtain ⟨len', r, hlen', hrd, rfl⟩ := expectAuthOK_eq_ok h
    refine ⟨b ++ salt ++ authMsg len' 0,
      by rw [hrd₁, show r₁ = _ from hrd₂, show r₂ = _ from hrd]; simp, fun len hlen => ?_⟩
    simp only [← List.append_assoc]
    rw [authMsg_of_code hb ‹_› (by decide)]
    exact .password _ len len' salt _ 5 hlen hlen' (.inr ⟨rfl, by omega⟩)
  split at h
  · -- AuthenticationSASL
    obtain ⟨mech, cn₂, hm, h⟩ := Go.bind_eq_ok h
    obtain ⟨names, r₂, hn, hrd₂, rfl, rfl⟩ := readSASLMechanisms_eq_ok (Go.byStream_eq_ok hm)
    obtain ⟨cont, final, len', b₁, b₂, r, hlen', hrd, hlog, hv, hr⟩ := saslExchange_eq_ok h
    refine ⟨b ++ mechanismList names ++ frame authenticationSASLContinueMsg (putUint32 11 ++ cont) ++
      frame authenticationSASLFinalMsg (putUint32 12 ++ final) ++ authMsg len' 0,
      by rw [hrd₁, show r₁ = _ from hrd₂, show r₂ = _ from hrd, hr]; simp, fun len hlen => ?_⟩
    simp only [← List.append_assoc]
    rw [authMsg_of_code hb ‹_› (by decide), hlog]
    rw [hlog] at hv
    exact .sasl _ len len' cont final b₁ b₂ names hlen hlen' hn hv
  · exact absurd h Go.throw_ne_ok

/-- One pass of the startup loop, after the header of its message: a step of the handshake,
or the ReadyForQuery that ends it. -/
theorem startupBody_eq_ok {user password len : Bytes} {c : UInt8} {st : Step Unit Unit}
    (hlen : len.length = 4)
    (h : startupBody user password () c (toInt32 (beUint len) - 4) e cn = .ok st cn') :
    ∃ x, cn.rd = x ++ cn'.rd ∧
      (st = .next () ∧ StartupStep e cn.log (c :: len ++ x) cn'.log ∨
        st = .done () ∧ c :: len ++ x = frame readyForQueryMsg x ∧ cn'.log = cn.log) := by
  unfold startupBody at h
  split at h
  · -- BackendKeyData
    obtain ⟨_, cn₁, hp, h⟩ := Go.bind_eq_ok h
    obtain ⟨pid, r₁, hpid, rfl, hrd₁, rfl⟩ := readInt32_eq_ok hp
    obtain ⟨_, cn₂, hk, h⟩ := Go.bind_eq_ok h
    obtain ⟨key, r₂, hkey, rfl, hrd₂, rfl⟩ := readInt32_eq_ok hk
    obtain ⟨_, cn₃, hm, h⟩ := Go.bind_eq_ok h
    cases hm
    cases h
    subst c
    refine ⟨pid ++ key, by rw [hrd₁, show r₁ = _ from hrd₂]; simp, .inl ⟨rfl, ?_⟩⟩
    rw [← List.append_assoc]
    exact .keyData _ len pid key hlen hpid hkey
  split at h
  · -- ParameterStatus
    obtain ⟨_, cn₁, hd, h⟩ := Go.bind_eq_ok h
    obtain ⟨p, r, hp, hrd, rfl⟩ := discardN_eq_ok hd
    cases h
    subst c
    refine ⟨p, hrd, .inl ⟨rfl, ?_⟩⟩
    rw [frame_of_length hlen hp]
    exact .parameterStatus _ p
  split at h
  · -- Authentication
    obtain ⟨_, cn₁, ha, h⟩ := Go.bind_eq_ok h
    obtain ⟨y, hrd, hauth⟩ := authenticate_eq_ok ha
    cases h
    subst c
    exact ⟨y, hrd, .inl ⟨rfl, .auth (hauth len hlen)⟩⟩
  split at h
  · -- ReadyForQuery
    obtain ⟨_, cn₁, hd, h⟩ := Go.bind_eq_ok h
    obtain ⟨p, r, hp, hrd, rfl⟩ := discardN_eq_ok hd
    cases h
    subst c
    exact ⟨p, hrd, .inr ⟨rfl, frame_of_length hlen hp, rfl⟩⟩
  split at h
  · obtain ⟨_, _, _, h⟩ := Go.bind_eq_ok h
    exact absurd h Go.throw_ne_ok
  · exact absurd h Go.throw_ne_ok

/-- The startup loop returns only at the end of a handshake. -/
theorem messageLoop_startupBody_eq_ok {user password : Bytes} {fuel : Nat}
    (h : messageLoop (startupBody user password) fuel () e cn = .ok () cn') :
    ∃ x, cn.rd = x ++ cn'.rd ∧ Handshake e cn.log x cn'.log := by
  induction fuel generalizing cn with
  | zero => exact absurd h Go.throw_ne_ok
  | succ fuel ih =>
    obtain ⟨⟨c, l⟩, cn₁, hm, h⟩ := Go.bind_eq_ok h
    obtain ⟨len, r₁, hlen, rfl, hrd₁, rfl⟩ := readMessageType_eq_ok hm
    obtain ⟨st, cn₂, hb, h⟩ := Go.bind_eq_ok h
    obtain ⟨x, hrd₂, ⟨rfl, hstep⟩ | ⟨rfl, hx, hlog⟩⟩ := startupBody_eq_ok hlen hb
    · obtain ⟨x', hrd', hh⟩ := ih h
      exact ⟨c :: len ++ x ++ x', by rw [hrd₁, show r₁ = _ from hrd₂, hrd']; simp, .step hstep hh⟩
    · cases h
      refine ⟨c :: len ++ x, by rw [hrd₁, show r₁ = _ from hrd₂]; simp, ?_⟩
      rw [hx, hlog]
      exact .ready _ x

end Inversion

/-- If `startup` returns, what it consumed is a handshake from the calls made up to its
StartupMessage: every Authentication request in it was completed, and its last message is
ReadyForQuery. -/
theorem startup_handshake {e : Env} {cn cn' : Conn} {user password database : Bytes}
    (h : startup user password database e cn = .ok () cn') :
    ∃ x, cn.rd = x ++ cn'.rd ∧
      Handshake e (.send (writeStartupMsg cn.wr user database).bytes :: cn.log) x cn'.log ∧
      ∃ pre p, x = pre ++ frame readyForQueryMsg p := by
  obtain ⟨_, cn₁, hw, h⟩ := Go.bind_eq_ok h
  cases hw
  obtain ⟨_, cn₂, hf, h⟩ := Go.bind_eq_ok h
  obtain ⟨-, rfl⟩ := flushWriter_eq_ok hf
  obtain ⟨x, hrd, hh⟩ := messageLoop_startupBody_eq_ok (Go.byStream_eq_ok h)
  exact ⟨x, hrd, hh, hh.ends_ready⟩

/-- A server that asks for no password. -/
theorem startup_authOk_handshake :
    startup (ascii "u") (ascii "pw") (ascii "db") Env.succeeding
        (Conn.ofInput (authMsg (putUint32 8) 0 ++ frame readyForQueryMsg [73])) =
      .ok () { Conn.ofInput [] with
        log := [.send (writeStartupMsg WriteBuffer.empty (ascii "u") (ascii "db")).bytes] } ∧
    ∃ x, authMsg (putUint32 8) 0 ++ frame readyForQueryMsg [73] = x ++ [] ∧
      Handshake Env.succeeding [.send (writeStartupMsg WriteBuffer.empty (ascii "u") (ascii "db")).bytes]
        x [.send (writeStartupMsg WriteBuffer.empty (ascii "u") (ascii "db")).bytes] ∧
      ∃ pre p, x = pre ++ frame readyForQueryMsg p :=
  have h : startup (ascii "u") (ascii "pw") (ascii "db") Env.succeeding
      (Conn.ofInput (authMsg (putUint32 8) 0 ++ frame readyForQueryMsg [73])) =
      .ok () { Conn.ofInput [] with
        log := [.send (writeStartupMsg WriteBuffer.empty (ascii "u") (ascii "db")).bytes] } := rfl
  ⟨h, startup_handshake h⟩

/-! ## The mechanism list -/

section Mechanisms

variable {e : Env} {cn : Conn} {r : Bytes}

/-- An empty mechanism list is the empty name alone. -/
@[simp] theorem mechanismList_nil : mechanismList [] = [0] := rfl

/-- A mechanism name with its NUL, then the others. -/
@[simp] theorem mechanismList_cons (n : Bytes) (names : List Bytes) :
    mechanismList (n :: names) = cstr n ++ mechanismList names := by
  simp [mechanismList]

/-- Each name is at least its NUL. -/
theorem length_lt_mechanismList (names : List Bytes) :
    names.length < (mechanismList names).length + 1 := by
  induction names with
  | nil => simp
  | cons n names ih => simp [cstr]; omega

/-- One pass of the mechanism loop over a name. -/
theorem readSASLMechanisms_cstr {fuel : Nat} {sel n rest : Bytes} (h : cn.rd = cstr n ++ rest)
    (h0 : 0 ∉ n) :
    readSASLMechanisms (fuel + 1) sel e cn =
      if n = [] then .ok sel { cn with rd := rest }
      else if n = scramSha256 then readSASLMechanisms fuel scramSha256 e { cn with rd := rest }
      else if n = scramSha256Plus then readSASLMechanisms fuel sel e { cn with rd := rest }
      else .stop (.err (.errorf "got %q, wanted %q" [.str n, .str scramSha256])) { cn with rd := rest } := by
  rw [readSASLMechanisms, Go.bind_ok (readString_cstr h h0)]
  split_ifs <;> rfl

/-- On a list of the two SCRAM-SHA-256 names, the loop returns SCRAM-SHA-256 if it is there,
and the mechanism it started from if not. -/
theorem readSASLMechanisms_accept {names : List Bytes}
    (hn : ∀ n ∈ names, n = scramSha256 ∨ n = scramSha256Plus) :
    ∀ {fuel : Nat} {sel : Bytes} {cn : Conn}, names.length < fuel → cn.rd = mechanismList names ++ r →
      readSASLMechanisms fuel sel e cn =
        .ok (if scramSha256 ∈ names then scramSha256 else sel) { cn with rd := r } := by
  induction names with
  | nil =>
    rintro (_ | fuel) sel cn hf h
    · omega
    · rw [readSASLMechanisms_cstr (n := []) h (by simp)]
      simp
  | cons n names ih =>
    rintro (_ | fuel) sel cn hf h
    · omega
    have hc : cn.rd = cstr n ++ (mechanismList names ++ r) := by rw [h]; simp
    have hrest := @ih (fun m hm => hn m (List.mem_cons_of_mem _ hm)) fuel
    have hf' : names.length < fuel := by simp at hf; omega
    rcases hn n (List.mem_cons_self _ _) with rfl | rfl
    · rw [readSASLMechanisms_cstr hc (by decide), if_neg (by decide), if_pos rfl, hrest hf' rfl]
      simp
    · rw [readSASLMechanisms_cstr hc (by decide), if_neg (by decide), if_neg (by decide),
        if_pos rfl, hrest hf' rfl]
      simp [show scramSha256 ≠ scramSha256Plus by decide]

/-- The first name that is neither SCRAM-SHA-256 nor SCRAM-SHA-256-PLUS ends the loop with an
error, having consumed it. -/
theorem readSASLMechanisms_reject {pre post : List Bytes} {n : Bytes}
    (hpre : ∀ m ∈ pre, m = scramSha256 ∨ m = scramSha256Plus) (hn : n ≠ []) (h0 : 0 ∉ n)
    (hS : n ≠ scramSha256) (hP : n ≠ scramSha256Plus) :
    ∀ {fuel : Nat} {sel : Bytes} {cn : Conn}, pre.length < fuel →
      cn.rd = mechanismList (pre ++ n :: post) ++ r →
      readSASLMechanisms fuel sel e cn =
        .stop (.err (.errorf "got %q, wanted %q" [.str n, .str scramSha256]))
          { cn with rd := mechanismList post ++ r } := by
  induction pre with
  | nil =>
    rintro (_ | fuel) sel cn hf h
    · omega
    · have hc : cn.rd = cstr n ++ (mechanismList post ++ r) := by rw [h]; simp
      rw [readSASLMechanisms_cstr hc h0, if_neg hn, if_neg hS, if_neg hP]
  | cons m pre ih =>
    rintro (_ | fuel) sel cn hf h
    · omega
    have hc : cn.rd = cstr m ++ (mechanismList (pre ++ n :: post) ++ r) := by rw [h]; simp
    have hrest := @ih (fun m hm => hpre m (List.mem_cons_of_mem _ hm)) fuel
    have hf' : pre.length < fuel := by simp at hf; omega
    rcases hpre m (List.mem_cons_self _ _) with rfl | rfl
    · rw [readSASLMechanisms_cstr hc (by decide), if_neg (by decide), if_pos rfl, hrest hf' rfl]
    · rw [readSASLMechanisms_cstr hc (by decide), if_neg (by decide), if_neg (by decide),
        if_pos rfl, hrest hf' rfl]

end Mechanisms

/-- The exchange with the zero mechanism panics at the negotiator's first step, before any call
or write. -/
theorem saslExchange_zeroMechanism (e : Env) (cn : Conn) :
    saslExchange [] e cn = .stop (.panic .nilFunc) cn := rfl

/-- On AuthenticationSASL, `authenticate` reads the mechanism list. A list of SCRAM-SHA-256 and
SCRAM-SHA-256-PLUS names that offers SCRAM-SHA-256 leads to the exchange with SCRAM-SHA-256. A list
of SCRAM-SHA-256-PLUS names alone, the empty list included, leaves the zero mechanism selected,
and the negotiator built from it panics at its first step, before any write. Otherwise the first
other name is an error, raised before any call or write. -/
theorem authenticate_saslMechanisms (user password : Bytes) (e : Env) (cn : Conn) (r : Bytes) :
    (∀ names : List Bytes, (∀ n ∈ names, n = scramSha256 ∨ n = scramSha256Plus) → scramSha256 ∈ names →
      authenticate user password e { cn with rd := putUint32 10 ++ mechanismList names ++ r } =
        saslExchange scramSha256 e { cn with rd := r }) ∧
    (∀ names : List Bytes, (∀ n ∈ names, n = scramSha256Plus) →
      authenticate user password e { cn with rd := putUint32 10 ++ mechanismList names ++ r } =
        .stop (.panic .nilFunc) { cn with rd := r }) ∧
    (∀ (pre : List Bytes) (n : Bytes) (post : List Bytes),
      (∀ m ∈ pre, m = scramSha256 ∨ m = scramSha256Plus) → n ≠ [] → 0 ∉ n →
      n ≠ scramSha256 → n ≠ scramSha256Plus →
      authenticate user password e
          { cn with rd := putUint32 10 ++ mechanismList (pre ++ n :: post) ++ r } =
        .stop (.err (.errorf "got %q, wanted %q" [.str n, .str scramSha256]))
          { cn with rd := mechanismList post ++ r }) := by
  have hsasl : ∀ x, (authenticate user password e { cn with rd := putUint32 10 ++ x }) =
      (Go.byStream (fun fuel => readSASLMechanisms fuel []) >>= saslExchange) e { cn with rd := x } := by
    intro x
    rw [authenticate, Go.bind_ok (readInt32_putUint32 rfl (by decide))]
    simp +decide only [authenticationOK, authenticationCleartextPassword, authenticationMD5Password,
      authenticationSASL, if_false, if_true]
  have hloop : ∀ names : List Bytes, (∀ n ∈ names, n = scramSha256 ∨ n = scramSha256Plus) →
      authenticate user password e { cn with rd := putUint32 10 ++ mechanismList names ++ r } =
        saslExchange (selectedMechanism names) e { cn with rd := r } := fun names hn => by
    rw [List.append_assoc, hsasl, Go.bind_ok ((Go.byStream_apply _).trans
      (readSASLMechanisms_accept hn (by have := length_lt_mechanismList names; simp; omega) rfl))]
    rfl
  refine ⟨fun names hn hS => ?_, fun names hn => ?_, fun pre n post hpre hn h0 hS hP => ?_⟩
  · rw [hloop names hn, selectedMechanism, if_pos hS]
  · have hS : scramSha256 ∉ names := fun h => absurd (hn _ h) (by decide)
    rw [hloop names fun n h => .inr (hn n h), selectedMechanism, if_neg hS]
    exact saslExchange_zeroMechanism e _
  · rw [List.append_assoc, hsasl, Go.bind_stop ((Go.byStream_apply _).trans
      (readSASLMechanisms_reject hpre hn h0 hS hP (by
        have := length_lt_mechanismList (pre ++ n :: post)
        simp only [List.length_append, List.length_cons, List.length_append] at this ⊢
        omega) rfl))]

/-- A server offering SCRAM-SHA-256-PLUS alone: no mechanism is selected, and `authenticate`
panics at the negotiator's first step, having written nothing. -/
theorem authenticate_plusOnly :
    (∀ n ∈ [scramSha256Plus], n = scramSha256Plus) ∧
    authenticate (ascii "u") (ascii "pw") Env.succeeding
        (Conn.ofInput (putUint32 10 ++ mechanismList [scramSha256Plus])) =
      .stop (.panic .nilFunc) (Conn.ofInput []) :=
  ⟨by decide, (authenticate_saslMechanisms (ascii "u") (ascii "pw") Env.succeeding (Conn.ofInput []) []).2.1
    [scramSha256Plus] (by decide)⟩

end GoPg
