import GoPg.WriteBuffer

/-!
# The connection and the engine's monad

Engine code runs on a connection (`pool.Conn`): the bytes its buffered reader has not
yet delivered, its write buffer, the process identity captured at startup and the
reused column list. Collaborators (the caller's model and scanner, the COPY sink, the
SASL negotiator, the network writer) are black boxes: every call is logged on the
connection and answered by an `Env` from the log, so that a statement over every `Env`
is a statement over every behaviour of the collaborators.

`Go α` is engine code returning `α`; it stops early with an error (a Go
`return ..., err`) or a run-time panic. The stream primitives at the end come with one
lemma each saying what they return on a stream that starts with what they expect.
-/

namespace GoPg

/-- Modelled from the spec: `types.Result`, the command tag and the row count the reader
accumulated. -/
structure Result where
  tag : Bytes
  rows : Nat
  deriving DecidableEq, Repr

/-- `types.NewResult(b, rows)`. -/
def newResult (b : Bytes) (rows : Nat) : Result := ⟨b, rows⟩

/-- The model a data reader holds: the caller's, or `Discard` once creating it failed. -/
inductive ModelRef
  | user
  | discard
  deriving DecidableEq, Repr

/-- The `mod interface{}` argument, as far as `newModel` looks at it. -/
inductive Mod
  /-- It implements `orm.Model` itself. -/
  | model
  /-- Anything else, for `orm.NewModel` to wrap. -/
  | value
  deriving DecidableEq, Repr

/-- A call the engine makes on a collaborator. -/
inductive Call
  /-- One write of these bytes to the network connection. -/
  | send (b : Bytes)
  /-- `orm.NewModel(mod)`. -/
  | ormNewModel
  /-- `m.Reset()`. -/
  | reset
  /-- `model.NewModel()`, a row target. -/
  | newRow (m : ModelRef)
  /-- `ScanColumn(colIdx, colName, b)` on a row target of `m`; `b` is `nil` for `NULL`. -/
  | scanColumn (m : ModelRef) (colIdx : Nat) (colName : Bytes) (b : Option Bytes)
  /-- `model.AddModel(row)`. -/
  | addModel (m : ModelRef)
  /-- `w.Write(b)` on the COPY sink. -/
  | write (b : Bytes)
  /-- `client.Step(challenge)` of the SASL negotiator of a mechanism. -/
  | saslStep (mech : Bytes) (challenge : Option Bytes)
  /-- `client.State()`. -/
  | saslState
  /-- `cn.SetNetConn(tls.Client(cn.NetConn(), tlsConf))`. -/
  | startTLS
  deriving DecidableEq, Repr

/-- Modelled from the spec: the calls received by `Discard`, a model that ignores all rows and
whose methods succeed. -/
def Call.toDiscard : Call → Bool
  | .newRow .discard | .scanColumn .discard .. | .addModel .discard => true
  | _ => false

/-- The collaborators' behaviour: a call is answered from the calls made so far, the call
itself first. -/
structure Env where
  /-- The error a call returns, if any. -/
  err : List Call → Option Err
  /-- The response of `client.Step`. -/
  saslResponse : List Call → Bytes
  /-- What `client.State()` reports. -/
  saslState : List Call → UInt8
  /-- `md5.Sum` of the standard library. -/
  md5 : Bytes → Bytes

/-- A `[][]byte` slice: the backing array, whose length is the capacity, and the length. -/
structure Columns where
  arr : List Bytes
  len : Nat
  len_le : len ≤ arr.length
  deriving DecidableEq

namespace Columns

/-- The `nil` slice. -/
def nil : Columns := ⟨[], 0, le_refl 0⟩

/-- The entries in view. -/
def toList (b : Columns) : List Bytes := b.arr.take b.len

/-- `b[:0]`: no entries in view, the same backing array. -/
def slice0 (b : Columns) : Columns := ⟨b.arr, 0, Nat.zero_le _⟩

/-- A slice over a list, with no spare capacity. -/
def ofList (l : List Bytes) : Columns := ⟨l, l.length, le_refl _⟩

end Columns

/-- `pool.Conn` as the engine uses it, and the calls made on collaborators so far. -/
structure Conn where
  /-- The bytes `cn.Rd` has not delivered yet. -/
  rd : Bytes
  /-- The size of `cn.Rd`'s buffer, which bounds one `ReadSlice`. -/
  rdSize : Nat
  rdSize_pos : 0 < rdSize
  /-- `cn.Wr`. -/
  wr : WriteBuffer
  /-- `cn.ProcessId`. -/
  processId : Int
  /-- `cn.SecretKey`. -/
  secretKey : Int
  /-- `cn.Columns`. -/
  columns : Columns
  /-- `cn.RemoteAddr().String()`. -/
  remoteAddr : Bytes
  /-- The calls made on collaborators, the latest first. -/
  log : List Call

/-- Collaborators whose calls all succeed. -/
def Env.succeeding : Env := ⟨fun _ => none, fun _ => [], fun _ => 0, id⟩

/-- A connection nothing has been read from or written to yet, whose unread input is `rd`,
with a read buffer of `bufio`'s default size. -/
def Conn.ofInput (rd : Bytes) : Conn :=
  ⟨rd, 4096, by decide, WriteBuffer.empty, 0, 0, Columns.nil, [], []⟩

/-- How running engine code on a connection ends. -/
inductive Res (α : Type) where
  | ok (a : α) (cn : Conn)
  | stop (s : Stop) (cn : Conn)

/-- Engine code returning `α`. -/
def Go (α : Type) : Type := Env → Conn → Res α

/-- Sequencing: a stop ends the run where it happened. -/
instance : Monad Go where
  pure a := fun _ cn => .ok a cn
  bind x f := fun env cn =>
    match x env cn with
    | .ok a cn' => f a env cn'
    | .stop s cn' => .stop s cn'

/-- A Go error: `return ..., err`, and a handler that sees it where it left the connection. -/
instance : MonadExceptOf Err Go where
  throw e := fun _ cn => .stop (.err e) cn
  tryCatch x h := fun env cn =>
    match x env cn with
    | .stop (.err e) cn' => h e env cn'
    | r => r

namespace Go

variable {α β : Type} {e : Env} {cn cn' : Conn}

/-- A run-time panic. -/
def panic (p : Panic) : Go α := fun _ cn => .stop (.panic p) cn

/-- The collaborators. -/
def env : Go Env := fun env cn => .ok env cn

/-- The connection. -/
def conn : Go Conn := fun _ cn => .ok cn cn

/-- Change the connection. -/
def modify (f : Conn → Conn) : Go Unit := fun _ cn => .ok () (f cn)

/-- Run a loop whose every pass consumes a byte, with one pass more than the stream has
bytes. -/
def byStream (loop : Nat → Go α) : Go α := fun e cn => loop (cn.rd.length + 1) e cn

/-- `_, err := x`: the error `x` returns, as a value. -/
def errOf (x : Go α) : Go (Option Err) :=
  tryCatch (do let _ ← x; pure none) fun err => pure (some err)

/-- `pure` returns with the connection as it was. -/
@[simp] theorem pure_apply (a : α) : (pure a : Go α) e cn = .ok a cn := rfl

/-- An error stops with the connection as it was. -/
@[simp] theorem throw_apply (r : Err) : (throw r : Go α) e cn = .stop (.err r) cn := rfl

/-- A panic stops with the connection as it was. -/
@[simp] theorem panic_apply (p : Panic) : (panic p : Go α) e cn = .stop (.panic p) cn := rfl

/-- The collaborators. -/
@[simp] theorem env_apply : Go.env e cn = .ok e cn := rfl

/-- The connection. -/
@[simp] theorem conn_apply : conn e cn = .ok cn cn := rfl

/-- A change of the connection. -/
@[simp] theorem modify_apply (f : Conn → Conn) : modify f e cn = .ok () (f cn) := rfl

/-- A loop gets one pass more than the stream has unread bytes. -/
@[simp] theorem byStream_apply (loop : Nat → Go α) :
    byStream loop e cn = loop (cn.rd.length + 1) e cn := rfl

/-- A value, then the rest. -/
@[simp] theorem pure_bind (a : α) (f : α → Go β) : (pure a >>= f) e cn = f a e cn := rfl

/-- `f <$> x` returns `f` of what `x` returns. -/
theorem map_ok {x : Go α} {f : α → β} {a : α} (h : x e cn = .ok a cn') :
    (f <$> x) e cn = .ok (f a) cn' := by
  show (match x e cn with | .ok a cn' => Res.ok (f a) cn' | .stop s cn' => .stop s cn') = _
  rw [h]

/-- `f <$> x` stops where `x` stops. -/
theorem map_stop {x : Go α} {f : α → β} {s : Stop} (h : x e cn = .stop s cn') :
    (f <$> x) e cn = .stop s cn' := by
  show (match x e cn with | .ok a cn' => Res.ok (f a) cn' | .stop s cn' => .stop s cn') = _
  rw [h]

/-- A step that returns lets the rest run from where it left the connection. -/
theorem bind_ok {x : Go α} {f : α → Go β} {a : α} (h : x e cn = .ok a cn') :
    (x >>= f) e cn = f a e cn' := by
  show (match x e cn with | .ok a cn' => f a e cn' | .stop s cn' => .stop s cn') = _
  rw [h]

/-- A step that returns is not caught. -/
theorem tryCatch_ok {x : Go α} {h : Err → Go α} {a : α} (hx : x e cn = .ok a cn') :
    (tryCatch x h : Go α) e cn = .ok a cn' := by
  show (match x e cn with | .stop (.err r) cn' => h r e cn' | r => r) = _
  rw [hx]

/-- A panic is not caught. -/
theorem tryCatch_panic {x : Go α} {h : Err → Go α} {p : Panic} (hx : x e cn = .stop (.panic p) cn') :
    (tryCatch x h : Go α) e cn = .stop (.panic p) cn' := by
  show (match x e cn with | .stop (.err r) cn' => h r e cn' | r => r) = _
  rw [hx]

/-- A step that stops stops the rest. -/
theorem bind_stop {x : Go α} {f : α → Go β} {s : Stop} (h : x e cn = .stop s cn') :
    (x >>= f) e cn = .stop s cn' := by
  show (match x e cn with | .ok a cn' => f a e cn' | .stop s cn' => .stop s cn') = _
  rw [h]

end Go

/-- Setting the stream to what it is changes nothing. -/
theorem Conn.eq_with_rd {cn : Conn} {r : Bytes} (h : cn.rd = r) : cn = { cn with rd := r } := by
  cases cn; cases h; rfl

/-! ## Collaborators -/

/-- The answer to a call made after the calls `log`: `Discard` answers `nil`. -/
def Env.answer (env : Env) (log : List Call) (k : Call) : Option Err :=
  if k.toDiscard then none else env.err (k :: log)

/-- Call a collaborator: the call is logged and answered from the log. -/
def call (k : Call) : Go (Option Err) := fun env cn =>
  .ok (env.answer cn.log k) { cn with log := k :: cn.log }

/-- A call is logged and answered from the log before it. -/
@[simp] theorem call_apply (k : Call) (e : Env) (cn : Conn) :
    call k e cn = .ok (e.answer cn.log k) { cn with log := k :: cn.log } := rfl

/-- A call, then the rest, which sees the answer. -/
@[simp] theorem call_bind {β : Type} (k : Call) (f : Option Err → Go β) (e : Env) (cn : Conn) :
    (call k >>= f) e cn = f (e.answer cn.log k) e { cn with log := k :: cn.log } := rfl

/-- Change the write buffer. -/
def modifyWr (f : WriteBuffer → WriteBuffer) : Go Unit :=
  Go.modify fun cn => { cn with wr := f cn.wr }

/-- A change of the write buffer. -/
@[simp] theorem modifyWr_apply (f : WriteBuffer → WriteBuffer) (e : Env) (cn : Conn) :
    modifyWr f e cn = .ok () { cn with wr := f cn.wr } := rfl

/-- Modelled from the spec: `cn.FlushWriter()`. The buffered messages go out in one write,
which may fail, and the buffer starts again empty. -/
def flushWriter : Go Unit := do
  let cn ← Go.conn
  let e ← call (.send cn.wr.bytes)
  modifyWr fun _ => WriteBuffer.empty
  match e with
  | some e => throw e
  | none => pure ()

/-! ## Reading the stream -/

/-- The bytes before the first NUL, and those after it. -/
def splitNul : Bytes → Option (Bytes × Bytes)
  | [] => none
  | b :: rest => if b = 0 then some ([], rest) else (splitNul rest).map fun p => (b :: p.1, p.2)

/-- `cn.Rd.ReadByte()`. -/
def readByte : Go UInt8 := fun _ cn =>
  match cn.rd with
  | [] => .stop (.err .io) cn
  | b :: rest => .ok b { cn with rd := rest }

/-- Modelled from the spec: `cn.ReadN(n)`. `read_exact(n)` returns exactly `n` bytes and fails
on a short read; the spec gives a negative count no meaning, and the run stops there with
the count. -/
def readN (n : Int) : Go Bytes := fun _ cn =>
  if n < 0 then .stop (.panic (.readN n)) cn
  else if n.toNat ≤ cn.rd.length then
    .ok (cn.rd.take n.toNat) { cn with rd := cn.rd.drop n.toNat }
  else .stop (.err .io) { cn with rd := [] }

/-- `readInt16`: two bytes, big-endian, as a signed value. -/
def readInt16 : Go Int := do
  let b ← readN 2
  pure (toInt16 (beUint b))

/-- `readInt32`: four bytes, big-endian, as a signed value. -/
def readInt32 : Go Int := do
  let b ← readN 4
  pure (toInt32 (beUint b))

/-- `readString`: `cn.Rd.ReadString(0)` without its NUL. -/
def readString : Go Bytes := fun _ cn =>
  match splitNul cn.rd with
  | some (s, rest) => .ok s { cn with rd := rest }
  | none => .stop (.err .io) { cn with rd := [] }

/-- `cn.Rd.ReadSlice(0)`: through the first NUL when it lies within one buffer, else a full
buffer and `bufio.ErrBufferFull` (`true`). -/
def readSlice : Go (Bytes × Bool) := fun _ cn =>
  match splitNul (cn.rd.take cn.rdSize) with
  | some (s, _) => .ok (s ++ [0], false) { cn with rd := cn.rd.drop (s.length + 1) }
  | none =>
    if cn.rdSize ≤ cn.rd.length then
      .ok (cn.rd.take cn.rdSize, true) { cn with rd := cn.rd.drop cn.rdSize }
    else .stop (.err .io) { cn with rd := [] }

/-- The loop of `readBytes`, with at most `fuel` passes. -/
def readBytesLoop : Nat → Bytes → Go Bytes
  | 0, _ => throw .io
  | fuel + 1, b => do
    let (line, full) ← readSlice
    if full then readBytesLoop fuel (b ++ line) else pure (b ++ line).dropLast

/-- `readBytes(cn, b)`: `b` followed by the bytes before the next NUL. Every pass consumes a
byte, so the stream's length bounds the passes. -/
def readBytes (b : Bytes) : Go Bytes := Go.byStream fun fuel => readBytesLoop fuel b

/-- `readMessageType`: the tag and the payload length, `length - 4`, unchecked. -/
def readMessageType : Go (UInt8 × Int) := do
  let c ← readByte
  let l ← readInt32
  pure (c, l - 4)

/-- Read and drop `msgLen` bytes. -/
def discardN (msgLen : Int) : Go Unit := do
  let _ ← readN msgLen

/-- `logNotice`. -/
def logNotice (msgLen : Int) : Go Unit := discardN msgLen

/-- `logParameterStatus`. -/
def logParameterStatus (msgLen : Int) : Go Unit := discardN msgLen

/-! ## What the primitives read -/

section Reads

variable {e : Env} {cn : Conn} {r : Bytes}

/-- A string and its NUL, then what follows. -/
@[simp] theorem cstr_append (s r : Bytes) : cstr s ++ r = s ++ 0 :: r := by simp [cstr]

/-- A string without NUL is found whole before its terminator. -/
theorem splitNul_cstr {s : Bytes} (hs : 0 ∉ s) (r : Bytes) : splitNul (s ++ 0 :: r) = some (s, r) := by
  induction s with
  | nil => simp [splitNul]
  | cons b s ih =>
    simp only [List.mem_cons, not_or] at hs
    simp [splitNul, Ne.symm hs.1, ih hs.2]

/-- Without a NUL there is no terminator to find. -/
theorem splitNul_eq_none {s : Bytes} (hs : 0 ∉ s) : splitNul s = none := by
  induction s with
  | nil => rfl
  | cons b s ih =>
    simp only [List.mem_cons, not_or] at hs
    simp [splitNul, Ne.symm hs.1, ih hs.2]

/-- `ReadByte` returns the first byte. -/
theorem readByte_cons {b : UInt8} (h : cn.rd = b :: r) :
    readByte e cn = .ok b { cn with rd := r } := by
  simp [readByte, h]

/-- `ReadN` of a length returns that many bytes. -/
theorem readN_append {p : Bytes} {n : Int} (h : cn.rd = p ++ r) (hn : n = p.length) :
    readN n e cn = .ok p { cn with rd := r } := by
  subst hn
  have : ¬ ((p.length : Int) < 0) := by omega
  simp [readN, h, this]

/-- `readInt16` returns a value below `2 ^ 15` as written. -/
theorem readInt16_putUint16 {n : Nat} (h : cn.rd = putUint16 n ++ r) (hn : n < 2 ^ 15) :
    readInt16 e cn = .ok n { cn with rd := r } := by
  rw [readInt16, Go.bind_ok (readN_append (n := 2) h rfl)]
  simp only [Go.pure_apply, beUint_putUint16, toInt16]
  congr 1
  split <;> omega

/-- `readInt32` returns a value below `2 ^ 31` as written. -/
theorem readInt32_putUint32 {n : Nat} (h : cn.rd = putUint32 n ++ r) (hn : n < 2 ^ 31) :
    readInt32 e cn = .ok n { cn with rd := r } := by
  rw [readInt32, Go.bind_ok (readN_append (n := 4) h rfl)]
  simp only [Go.pure_apply, beUint_putUint32, toInt32]
  congr 1
  split <;> omega

/-- A signed value written by `WriteInt32` reads back. -/
theorem readInt32_uint32 {v : Int} (h : cn.rd = putUint32 (uint32 v) ++ r)
    (h₀ : -2 ^ 31 ≤ v) (h₁ : v < 2 ^ 31) : readInt32 e cn = .ok v { cn with rd := r } := by
  rw [readInt32, Go.bind_ok (readN_append (n := 4) h rfl)]
  simp only [Go.pure_apply, beUint_putUint32, toInt32_uint32 h₀ h₁]

/-- `readString` returns a string without NUL and consumes its NUL. -/
theorem readString_cstr {s : Bytes} (h : cn.rd = cstr s ++ r) (hs : 0 ∉ s) :
    readString e cn = .ok s { cn with rd := r } := by
  simp [readString, h, splitNul_cstr hs]

/-- The loop of `readBytes` collects a string without NUL, one buffer at a time. -/
theorem readBytesLoop_cstr :
    ∀ (fuel : Nat) (b s : Bytes) (cn : Conn), 0 ∉ s → cn.rd = s ++ 0 :: r →
      s.length < fuel * cn.rdSize →
      readBytesLoop fuel b e cn = .ok (b ++ s) { cn with rd := r } := by
  intro fuel
  induction fuel with
  | zero => intro b s cn _ _ hlt; simp at hlt
  | succ fuel ih =>
    intro b s cn hs h hlt
    by_cases hfit : s.length < cn.rdSize
    · obtain ⟨k, hk⟩ : ∃ k, cn.rdSize - s.length = k + 1 := ⟨_, (Nat.succ_pred_eq_of_pos (by omega)).symm⟩
      have htake : cn.rd.take cn.rdSize = s ++ 0 :: r.take k := by
        rw [h, List.take_append_eq_append_take, List.take_of_length_le hfit.le, hk]
        rfl
      have hdrop : cn.rd.drop (s.length + 1) = r := by simp [h]
      have hslice : readSlice e cn = .ok (s ++ [0], false) { cn with rd := r } := by
        simp [readSlice, htake, splitNul_cstr hs, hdrop]
      rw [readBytesLoop, Go.bind_ok hslice]
      simp
    · have htake : cn.rd.take cn.rdSize = s.take cn.rdSize := by
        rw [h, List.take_append_of_le_length (by omega)]
      have hdrop : cn.rd.drop cn.rdSize = s.drop cn.rdSize ++ 0 :: r := by
        rw [h, List.drop_append_of_le_length (by omega)]
      have hnone : splitNul (s.take cn.rdSize) = none :=
        splitNul_eq_none fun hm => hs (List.mem_of_mem_take hm)
      have hslice : readSlice e cn =
          .ok (s.take cn.rdSize, true) { cn with rd := s.drop cn.rdSize ++ 0 :: r } := by
        have hle : cn.rdSize ≤ cn.rd.length := by simp [h]; omega
        simp [readSlice, htake, hdrop, hnone, hle]
      rw [readBytesLoop, Go.bind_ok hslice]
      have hrest := ih (b ++ s.take cn.rdSize) (s.drop cn.rdSize)
        { cn with rd := s.drop cn.rdSize ++ 0 :: r } (fun hm => hs (List.mem_of_mem_drop hm)) rfl
        (by simp only [List.length_drop, Nat.succ_mul] at hlt ⊢; omega)
      simpa using hrest

/-- `readBytes` appends a string without NUL to its buffer and consumes its NUL. -/
theorem readBytes_cstr {s b : Bytes} (h : cn.rd = cstr s ++ r) (hs : 0 ∉ s) :
    readBytes b e cn = .ok (b ++ s) { cn with rd := r } := by
  rw [cstr_append] at h
  apply readBytesLoop_cstr _ b s cn hs h
  have := Nat.le_mul_of_pos_right (cn.rd.length + 1) cn.rdSize_pos
  have hlen : s.length < cn.rd.length + 1 := by simp [h]; omega
  omega

/-- `readMessageType` returns a frame's tag and its payload's length. -/
theorem readMessageType_frame {tag : UInt8} {p : Bytes} (h : cn.rd = frame tag p ++ r)
    (hp : p.length + 4 < 2 ^ 31) :
    readMessageType e cn = .ok (tag, p.length) { cn with rd := p ++ r } := by
  rw [readMessageType, Go.bind_ok (readByte_cons (b := tag) (r := putUint32 (p.length + 4) ++ p ++ r)
    (by simp [h, frame])), Go.bind_ok (readInt32_putUint32 (r := p ++ r) (by simp) hp)]
  simp

end Reads

end GoPg
