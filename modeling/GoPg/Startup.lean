import GoPg.Readers

/-!
# Startup and authentication

`startup` sends the StartupMessage and runs a reader loop until ReadyForQuery, storing
BackendKeyData and handing every Authentication request to `authenticate`: cleartext
and MD5 passwords, each answered by one PasswordMessage, and SASL, whose mechanism list
selects SCRAM-SHA-256 before the SCRAM exchange with the negotiator.

The negotiator (`mellium.im/sasl`) and `md5.Sum` are outside the repository: the
negotiator is a collaborator answered by the `Env`, and the digest is the `Env`'s.
-/

namespace GoPg

/-- `sasl.ScramSha256.Name`. -/
def scramSha256 : Bytes := ascii "SCRAM-SHA-256"

/-- `sasl.ScramSha256Plus.Name`. -/
def scramSha256Plus : Bytes := ascii "SCRAM-SHA-256-PLUS"

/-- `sasl.ValidServerResponse`. -/
def validServerResponse : UInt8 := 3

/-- `hex.EncodeToString`: two lowercase hexadecimal digits a byte. -/
def hexEncode (b : Bytes) : Bytes :=
  b.flatMap fun x => [(ascii "0123456789abcdef").getD (x.toNat / 16) 0,
    (ascii "0123456789abcdef").getD (x.toNat % 16) 0]

/-- `md5s`: the hexadecimal MD5 digest. -/
def md5s (md5 : Bytes → Bytes) (s : Bytes) : Bytes := hexEncode (md5 s)

/-- `client.Step(challenge)`: the negotiator's response, or its error. A negotiator built from
the zero `sasl.Mechanism`, whose name is empty, calls its nil `Start` or `Next` and panics. -/
def saslStep (mech : Bytes) (challenge : Option Bytes) : Go Bytes :=
  if mech = [] then Go.panic .nilFunc
  else do
    match ← call (.saslStep mech challenge) with
    | some err => throw err
    | none => do
      let env ← Go.env
      let cn ← Go.conn
      pure (env.saslResponse cn.log)

/-- `client.State()`. -/
def saslState : Go UInt8 := do
  let _ ← call .saslState
  let env ← Go.env
  let cn ← Go.conn
  pure (env.saslState cn.log)

/-- The answer to a password: AuthenticationOk with code `0`, or the server's error. The two
password cases of `authenticate` and `readAuthOK` differ only in the verb that prints an
unexpected code. -/
def expectAuthOK (unexpectedCode : String) : Go Unit := do
  let (c, _) ← readMessageType
  if c = authenticationOKMsg then do
    let num ← readInt32
    if num ≠ 0 then throw (.errorf unexpectedCode [.int num])
  else if c = errorResponseMsg then throw (← readError)
  else throw (.errorf "pg: unknown password message response: %q" [.byte c])

/-- `readAuthOK`. -/
def readAuthOK : Go Unit := expectAuthOK "pg: unexpected authentication code: %q"

/-- `readAuthSASLFinal(cn, client)`: SASLFinal, checked by the negotiator, then
AuthenticationOk. A state other than ValidServerResponse is asked for a second time to print
it. -/
def readAuthSASLFinal (mech : Bytes) : Go Unit := do
  let (c, n) ← readMessageType
  if c = authenticationSASLFinalMsg then do
    let c12 ← readInt32
    if c12 ≠ 12 then throw (.errorf "pg: SASL: got %q, wanted %q" [.byte c, .int 12])
    let b ← readN (n - 4)
    let _ ← saslStep mech (some b)
    let st ← saslState
    if st ≠ validServerResponse then
      throw (.errorf "pg: SASL: state=%q, wanted %q" [.byte (← saslState), .byte validServerResponse])
    readAuthOK
  else if c = errorResponseMsg then throw (← readError)
  else throw (.errorf "pg: SASL: got %q, wanted %q" [.byte c, .byte authenticationSASLFinalMsg])

/-- The mechanism loop of `authenticate`, at most `fuel` names: SCRAM-SHA-256 is selected,
SCRAM-SHA-256-PLUS ignored, the empty name ends the list and any other name is an error. -/
def readSASLMechanisms : Nat → Bytes → Go Bytes
  | 0, _ => throw .io
  | fuel + 1, saslMech => do
    let s ← readString
    if s = [] then pure saslMech
    else if s = scramSha256 then readSASLMechanisms fuel scramSha256
    else if s = scramSha256Plus then readSASLMechanisms fuel saslMech
    else throw (.errorf "got %q, wanted %q" [.str s, .str scramSha256])

/-- The SASL exchange after the mechanism list: SASLInitialResponse, SASLContinue answered by
SASLResponse, then `readAuthSASLFinal`. -/
def saslExchange (saslMech : Bytes) : Go Unit := do
  let resp ← saslStep saslMech none
  modifyWr fun wr => wr.startMessage saslInitialResponseMsg |>.writeString saslMech
    |>.writeInt32 resp.length |>.write resp |>.finishMessage
  flushWriter
  let (typ, n) ← readMessageType
  if typ = authenticationSASLContinueMsg then do
    let c11 ← readInt32
    if c11 ≠ 11 then throw (.errorf "pg: SASL: got %q, wanted %q" [.byte typ, .int 11])
    let b ← readN (n - 4)
    let resp ← saslStep saslMech (some b)
    modifyWr fun wr => wr.startMessage saslResponseMsg |>.write resp |>.finishMessage
    flushWriter
    readAuthSASLFinal saslMech
  else if typ = errorResponseMsg then throw (← readError)
  else throw (.errorf "pg: SASL: got %q, wanted %q" [.byte typ, .byte authenticationSASLContinueMsg])

/-- `authenticate(cn, user, password)`, after the Authentication header. -/
def authenticate (user password : Bytes) : Go Unit := do
  let num ← readInt32
  if num = authenticationOK then pure ()
  else if num = authenticationCleartextPassword then do
    modifyWr (writePasswordMsg · password)
    flushWriter
    expectAuthOK "pg: unexpected authentication code: %d"
  else if num = authenticationMD5Password then do
    let b ← readN 4
    let env ← Go.env
    let secret := ascii "md5" ++ md5s env.md5 (md5s env.md5 (password ++ user) ++ b)
    modifyWr (writePasswordMsg · secret)
    flushWriter
    expectAuthOK "pg: unexpected authentication code: %d"
  else if num = authenticationSASL then do
    let saslMech ← Go.byStream fun fuel => readSASLMechanisms fuel []
    saslExchange saslMech
  else throw (.errorf "pg: unknown authentication message response: %d" [.int num])

/-- The `switch` of `startup`. -/
def startupBody (user password : Bytes) (_ : Unit) (c : UInt8) (msgLen : Int) :
    Go (Step Unit Unit) :=
  if c = backendKeyDataMsg then do
    let processId ← readInt32
    let secretKey ← readInt32
    Go.modify fun cn => { cn with processId := processId, secretKey := secretKey }
    pure (.next ())
  else if c = parameterStatusMsg then do logParameterStatus msgLen; pure (.next ())
  else if c = authenticationOKMsg then do authenticate user password; pure (.next ())
  else if c = readyForQueryMsg then do discardN msgLen; pure (.done ())
  else if c = errorResponseMsg then do throw (← readError)
  else throw (.errorf "pg: unknown startup message response: %q" [.byte c])

/-- `startup(cn, user, password, database)`. -/
def startup (user password database : Bytes) : Go Unit := do
  modifyWr (writeStartupMsg · user database)
  flushWriter
  runReader (startupBody user password) ()

/-- `enableSSL(cn, tlsConf)`: the SSLRequest, answered by one byte. -/
def enableSSL : Go Unit := do
  modifyWr writeSSLMsg
  flushWriter
  let c ← readByte
  if c ≠ 'S'.toUInt8 then throw .sslNotSupported
  let _ ← call .startTLS

/-- `terminateMessage`: Terminate, five bytes. -/
def terminateMessage : Bytes := [terminateMsg, 0, 0, 0, 4]

/-- `terminateConn(cn)`: Terminate written to the network connection directly. -/
def terminateConn : Go (Option Err) := call (.send terminateMessage)

end GoPg
