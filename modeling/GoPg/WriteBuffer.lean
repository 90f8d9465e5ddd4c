import GoPg.Errors

/-!
# The write buffer and the request writers

`pool.WriteBuffer` belongs to the repository's `internal/pool` package, which is not
among the files here; it is modelled from the spec's FrameCodec: `startMessage` records
where the message starts and appends the tag (unless it is `0`) and a four-byte
placeholder, every `write*` appends, `finishMessage` back-patches the placeholder with
the number of bytes from it to the end, and `reset` truncates to the start of the
current message. Parameters are wrapped the same way by `startParam` and
`finishParam`, or `finishNullParam`, which writes `-1`.

The `write*Msg` functions of `messages.go` are then plain functions on the buffer.
Those that call a collaborator (`writeQueryMsg`, `writeBindExecuteMsg`) take what the
collaborator appends as an argument.
-/

namespace GoPg

/-- Modelled from the spec: `pool.WriteBuffer`, the FrameCodec's growable write buffer that
back-patches message and parameter lengths. -/
structure WriteBuffer where
  /-- The bytes written so far. -/
  bytes : Bytes
  /-- Where the current message starts. -/
  msgStart : Nat
  /-- Where the current message's length field is. -/
  lenAt : Nat
  /-- Where the current parameter's length field is. -/
  paramStart : Nat
  deriving DecidableEq, Repr

namespace WriteBuffer

/-- An empty buffer. -/
def empty : WriteBuffer := ⟨[], 0, 0, 0⟩

/-- `buf.Bytes = append(buf.Bytes, b...)`: every `write*` is one of these. -/
def append (buf : WriteBuffer) (b : Bytes) : WriteBuffer := { buf with bytes := buf.bytes ++ b }

/-- Modelled from the spec: `StartMessage(c)` appends the tag, unless it is `0`, and a
placeholder for the length. -/
def startMessage (buf : WriteBuffer) (c : UInt8) : WriteBuffer :=
  if c = 0 then
    { buf with msgStart := buf.bytes.length, lenAt := buf.bytes.length,
               bytes := buf.bytes ++ [0, 0, 0, 0] }
  else
    { buf with msgStart := buf.bytes.length, lenAt := buf.bytes.length + 1,
               bytes := buf.bytes ++ [c, 0, 0, 0, 0] }

/-- Overwrite four bytes at `pos` with the big-endian `v`. -/
def patch32 (bs : Bytes) (pos : Nat) (v : Nat) : Bytes :=
  bs.take pos ++ putUint32 v ++ bs.drop (pos + 4)

/-- Modelled from the spec: `FinishMessage()` back-patches the length field with the number of
bytes from it to the end, which counts itself. -/
def finishMessage (buf : WriteBuffer) : WriteBuffer :=
  { buf with bytes := patch32 buf.bytes buf.lenAt (buf.bytes.length - buf.lenAt) }

/-- `StartParam()`: a placeholder for the parameter's length. -/
def startParam (buf : WriteBuffer) : WriteBuffer :=
  { buf with paramStart := buf.bytes.length, bytes := buf.bytes ++ [0, 0, 0, 0] }

/-- `FinishParam()`: the parameter's length, not counting the length field. -/
def finishParam (buf : WriteBuffer) : WriteBuffer :=
  { buf with bytes := patch32 buf.bytes buf.paramStart (buf.bytes.length - buf.paramStart - 4) }

/-- `FinishNullParam()`: length `-1`, SQL `NULL`. -/
def finishNullParam (buf : WriteBuffer) : WriteBuffer :=
  { buf with bytes := patch32 buf.bytes buf.paramStart (uint32 (-1)) }

/-- `WriteString(s)`: the string and a NUL. -/
def writeString (buf : WriteBuffer) (s : Bytes) : WriteBuffer := buf.append (cstr s)

/-- `WriteByte(c)`. -/
def writeByte (buf : WriteBuffer) (c : UInt8) : WriteBuffer := buf.append [c]

/-- `WriteInt16(num)`. -/
def writeInt16 (buf : WriteBuffer) (n : Int) : WriteBuffer := buf.append (putUint16 (uint16 n))

/-- `WriteInt32(num)`. -/
def writeInt32 (buf : WriteBuffer) (n : Int) : WriteBuffer := buf.append (putUint32 (uint32 n))

/-- `Write(b)`. -/
def write (buf : WriteBuffer) (b : Bytes) : WriteBuffer := buf.append b

/-- `Reset()`, as the spec defines it: back to the start of the current message. -/
def reset (buf : WriteBuffer) : WriteBuffer := { buf with bytes := buf.bytes.take buf.msgStart }

end WriteBuffer

/-! ## Request writers -/

/-- `writeStartupMsg`: protocol 3.0, then the `user` and `database` parameters. -/
def writeStartupMsg (buf : WriteBuffer) (user database : Bytes) : WriteBuffer :=
  buf.startMessage 0 |>.writeInt32 196608
    |>.writeString (ascii "user") |>.writeString user
    |>.writeString (ascii "database") |>.writeString database
    |>.writeString [] |>.finishMessage

/-- `writeSSLMsg`: the SSLRequest code. -/
def writeSSLMsg (buf : WriteBuffer) : WriteBuffer :=
  buf.startMessage 0 |>.writeInt32 80877103 |>.finishMessage

/-- `writePasswordMsg`. -/
def writePasswordMsg (buf : WriteBuffer) (password : Bytes) : WriteBuffer :=
  buf.startMessage passwordMessageMsg |>.writeString password |>.finishMessage

/-- `writeFlushMsg`. -/
def writeFlushMsg (buf : WriteBuffer) : WriteBuffer :=
  buf.startMessage flushMsg |>.finishMessage

/-- `writeCancelRequestMsg`: the CancelRequest code, then the key of the connection to cancel. -/
def writeCancelRequestMsg (buf : WriteBuffer) (processId secretKey : Int) : WriteBuffer :=
  buf.startMessage 0 |>.writeInt32 80877102 |>.writeInt32 processId
    |>.writeInt32 secretKey |>.finishMessage

/-- The `query interface{}` argument, as far as `appendQuery` looks at it. -/
inductive QueryArg
  /-- An `orm.QueryAppender`: what its `AppendQuery(dst, params...)` returns. -/
  | appender (appendQuery : Bytes → Except Err Bytes)
  /-- A `string`, for the `orm.QueryFormatter` to format. -/
  | string (query : Bytes)
  /-- A value of any other type, known by the type's name. -/
  | other (typeName : Bytes)

/-- `appendQuery(dst, fmter, query, params...)`; `formatQuery dst query` is
`fmter.FormatQuery(dst, query, params...)`. -/
def appendQuery (formatQuery : Bytes → Bytes → Bytes) : QueryArg → Bytes → Except Err Bytes
  | .appender f, dst => f dst
  | .string query, dst => .ok (formatQuery dst query)
  | .other typeName, _ => .error (.errorf "pg: can\x27t append %T" [.str typeName])

/-- `writeQueryMsg`, given what `appendQuery` returns when called on the buffer's bytes:
the extended bytes or an error. On an error the buffer is reset. -/
def writeQueryMsg (buf : WriteBuffer) (appendQuery : Bytes → Except Err Bytes) :
    WriteBuffer × Option Err :=
  let buf := buf.startMessage queryMsg
  match appendQuery buf.bytes with
  | .error e => (buf.reset, some e)
  | .ok bytes => ({ buf with bytes := bytes }.writeByte 0 |>.finishMessage, none)

/-- `writeSyncMsg`. -/
def writeSyncMsg (buf : WriteBuffer) : WriteBuffer :=
  buf.startMessage syncMsg |>.finishMessage

/-- `writeParseDescribeSyncMsg`: Parse, Describe of the statement, and Sync. -/
def writeParseDescribeSyncMsg (buf : WriteBuffer) (name q : Bytes) : WriteBuffer :=
  let buf := buf.startMessage parseMsg |>.writeString name |>.writeString q
    |>.writeInt16 0 |>.finishMessage
  let buf := buf.startMessage describeMsg |>.writeByte 'S'.toUInt8 |>.writeString name
    |>.finishMessage
  writeSyncMsg buf

/-- One pass of the parameter loop of `writeBindExecuteMsg`: a placeholder for the length, then
what `types.Append` wrote and its length, or length `-1` for `NULL`. -/
def writeParam (buf : WriteBuffer) (param : Option Bytes) : WriteBuffer :=
  let buf := buf.startParam
  match param with
  | some bytes => (buf.append bytes).finishParam
  | none => buf.finishNullParam

/-- `writeBindExecuteMsg`, given each parameter as `types.Append` encodes it (`none` for
`NULL`): Bind, Execute of the unnamed portal, and Sync. -/
def writeBindExecuteMsg (buf : WriteBuffer) (name : Bytes) (params : List (Option Bytes)) :
    WriteBuffer :=
  let buf := buf.startMessage bindMsg |>.writeString [] |>.writeString name
    |>.writeInt16 0 |>.writeInt16 params.length
  let buf := params.foldl writeParam buf
  let buf := buf.writeInt16 0 |>.finishMessage
  let buf := buf.startMessage executeMsg |>.writeString [] |>.writeInt32 0 |>.finishMessage
  writeSyncMsg buf

/-- `writeCloseMsg`: Close of the statement. -/
def writeCloseMsg (buf : WriteBuffer) (name : Bytes) : WriteBuffer :=
  buf.startMessage closeMsg |>.writeByte 'S'.toUInt8 |>.writeString name |>.finishMessage

/-- `writeCopyDone`. -/
def writeCopyDone (buf : WriteBuffer) : WriteBuffer :=
  buf.startMessage copyDoneMsg |>.finishMessage

end GoPg
