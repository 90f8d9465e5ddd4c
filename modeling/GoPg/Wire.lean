import Mathlib.Data.List.Basic
import Mathlib.Data.UInt

/-!
# Bytes on the wire

The vocabulary `messages.go` shares with the protocol: Go strings as byte strings,
the `binary.BigEndian` conversions, Go's reinterpretation `int16(u)` and `int32(u)` of
the unsigned values read, and the message type constants of the source.

A backend message is framed as its tag byte, a big-endian 32-bit length that counts
its own four bytes, and the payload. `frame` is that layout; the readers decode it in
`Conn.lean`, and well-formed payloads are described in `Messages.lean`.
-/

namespace GoPg

/-- Bytes of the stream, and Go strings, which are byte strings. -/
abbrev Bytes := List UInt8

/-- The bytes of an ASCII string literal of the source. -/
def ascii (s : String) : Bytes := s.toList.map Char.toUInt8

/-- `binary.BigEndian.Uint16` and `Uint32`: the number the bytes spell, most significant
first. -/
def beUint (b : Bytes) : Nat := b.foldl (fun n x => n * 256 + x.toNat) 0

/-- `binary.BigEndian.PutUint16` of a value taken modulo `2 ^ 16`. -/
def putUint16 (n : Nat) : Bytes := [UInt8.ofNat (n / 256), UInt8.ofNat n]

/-- `binary.BigEndian.PutUint32` of a value taken modulo `2 ^ 32`. -/
def putUint32 (n : Nat) : Bytes :=
  [UInt8.ofNat (n / 2 ^ 24), UInt8.ofNat (n / 2 ^ 16), UInt8.ofNat (n / 256), UInt8.ofNat n]

/-- Go's `int16(u)` of an unsigned 16-bit value. -/
def toInt16 (u : Nat) : Int := if u < 2 ^ 15 then u else u - 2 ^ 16

/-- Go's `int32(u)` of an unsigned 32-bit value. -/
def toInt32 (u : Nat) : Int := if u < 2 ^ 31 then u else u - 2 ^ 32

/-- Go's `uint16(n)` of a signed value. -/
def uint16 (n : Int) : Nat := (n % 2 ^ 16).toNat

/-- Go's `uint32(n)` of a signed value. -/
def uint32 (n : Int) : Nat := (n % 2 ^ 32).toNat

/-- A NUL-terminated string, as `WriteString` writes it and `readString` reads it. -/
def cstr (s : Bytes) : Bytes := s ++ [0]

/-- A byte keeps its value modulo 256. -/
@[simp] theorem uint8_toNat_ofNat (n : Nat) : (UInt8.ofNat n).toNat = n % 256 := by
  simp [UInt8.toNat, UInt8.ofNat]

/-- `PutUint16` writes two bytes. -/
@[simp] theorem putUint16_length (n : Nat) : (putUint16 n).length = 2 := rfl

/-- `PutUint32` writes four bytes. -/
@[simp] theorem putUint32_length (n : Nat) : (putUint32 n).length = 4 := rfl

/-- A string and its NUL. -/
@[simp] theorem cstr_length (s : Bytes) : (cstr s).length = s.length + 1 := by simp [cstr]

/-- Reading back two written bytes gives the value modulo `2 ^ 16`. -/
theorem beUint_putUint16 (n : Nat) : beUint (putUint16 n) = n % 2 ^ 16 := by
  simp [beUint, putUint16]
  omega

/-- Reading back four written bytes gives the value modulo `2 ^ 32`. -/
theorem beUint_putUint32 (n : Nat) : beUint (putUint32 n) = n % 2 ^ 32 := by
  simp [beUint, putUint32]
  omega

/-- A signed 16-bit value survives `uint16` and `int16`. -/
theorem toInt16_uint16 {n : Int} (h₀ : -2 ^ 15 ≤ n) (h₁ : n < 2 ^ 15) :
    toInt16 (uint16 n % 2 ^ 16) = n := by
  simp only [toInt16, uint16]
  split <;> omega

/-- A signed 32-bit value survives `uint32` and `int32`. -/
theorem toInt32_uint32 {n : Int} (h₀ : -2 ^ 31 ≤ n) (h₁ : n < 2 ^ 31) :
    toInt32 (uint32 n % 2 ^ 32) = n := by
  simp only [toInt32, uint32]
  split <;> omega

/-- Bytes with the same value are equal. -/
theorem uint8_ext {x y : UInt8} (h : x.toNat = y.toNat) : x = y := UInt8.eq_of_val_eq (Fin.ext h)

/-- A byte is below 256. -/
theorem uint8_toNat_lt (x : UInt8) : x.toNat < 256 := x.toNat_lt_size

/-- Four bytes are the big-endian encoding of what they decode to. -/
theorem putUint32_beUint {b : Bytes} (hb : b.length = 4) : putUint32 (beUint b) = b := by
  match b, hb with
  | [x₀, x₁, x₂, x₃], _ =>
    have := uint8_toNat_lt x₀; have := uint8_toNat_lt x₁
    have := uint8_toNat_lt x₂; have := uint8_toNat_lt x₃
    simp only [putUint32, beUint, List.foldl, List.cons.injEq, and_true]
    refine ⟨?_, ?_, ?_, ?_⟩ <;> apply uint8_ext <;> simp <;> omega

/-- Four bytes decode below `2 ^ 32`. -/
theorem beUint_lt {b : Bytes} (hb : b.length = 4) : beUint b < 2 ^ 32 := by
  rw [← putUint32_beUint hb, beUint_putUint32]
  omega

/-- Four bytes read as a non-negative `int32` are the encoding of that value. -/
theorem eq_putUint32_of_toInt32 {b : Bytes} {n : Int} (hb : b.length = 4)
    (h : toInt32 (beUint b) = n) (hn : 0 ≤ n) : b = putUint32 n.toNat := by
  have hlt := beUint_lt hb
  have hv : beUint b = n.toNat := by
    simp only [toInt32] at h
    split at h <;> omega
  rw [← hv, putUint32_beUint hb]

/-! ## Message types -/

/-- Backend `CommandComplete`. -/
def commandCompleteMsg : UInt8 := 'C'.toUInt8
/-- Backend `ErrorResponse`. -/
def errorResponseMsg : UInt8 := 'E'.toUInt8
/-- Backend `NoticeResponse`. -/
def noticeResponseMsg : UInt8 := 'N'.toUInt8
/-- Backend `ParameterStatus`. -/
def parameterStatusMsg : UInt8 := 'S'.toUInt8
/-- Backend `Authentication*`. -/
def authenticationOKMsg : UInt8 := 'R'.toUInt8
/-- Backend `BackendKeyData`. -/
def backendKeyDataMsg : UInt8 := 'K'.toUInt8
/-- Backend `NoData`. -/
def noDataMsg : UInt8 := 'n'.toUInt8
/-- Frontend `PasswordMessage`. -/
def passwordMessageMsg : UInt8 := 'p'.toUInt8
/-- Frontend `Terminate`. -/
def terminateMsg : UInt8 := 'X'.toUInt8
/-- Frontend `SASLInitialResponse`. -/
def saslInitialResponseMsg : UInt8 := 'p'.toUInt8
/-- Backend `AuthenticationSASLContinue`. -/
def authenticationSASLContinueMsg : UInt8 := 'R'.toUInt8
/-- Frontend `SASLResponse`. -/
def saslResponseMsg : UInt8 := 'p'.toUInt8
/-- Backend `AuthenticationSASLFinal`. -/
def authenticationSASLFinalMsg : UInt8 := 'R'.toUInt8
/-- Backend `NotificationResponse`. -/
def notificationResponseMsg : UInt8 := 'A'.toUInt8
/-- Frontend `Describe`. -/
def describeMsg : UInt8 := 'D'.toUInt8
/-- Backend `ParameterDescription`. -/
def parameterDescriptionMsg : UInt8 := 't'.toUInt8
/-- Frontend `Query`. -/
def queryMsg : UInt8 := 'Q'.toUInt8
/-- Backend `ReadyForQuery`. -/
def readyForQueryMsg : UInt8 := 'Z'.toUInt8
/-- Backend `EmptyQueryResponse`; the source declares it and no reader dispatches on it. -/
def emptyQueryResponseMsg : UInt8 := 'I'.toUInt8
/-- Backend `RowDescription`. -/
def rowDescriptionMsg : UInt8 := 'T'.toUInt8
/-- Backend `DataRow`. -/
def dataRowMsg : UInt8 := 'D'.toUInt8
/-- Frontend `Parse`. -/
def parseMsg : UInt8 := 'P'.toUInt8
/-- Backend `ParseComplete`. -/
def parseCompleteMsg : UInt8 := '1'.toUInt8
/-- Frontend `Bind`. -/
def bindMsg : UInt8 := 'B'.toUInt8
/-- Backend `BindComplete`. -/
def bindCompleteMsg : UInt8 := '2'.toUInt8
/-- Frontend `Execute`. -/
def executeMsg : UInt8 := 'E'.toUInt8
/-- Frontend `Sync`. -/
def syncMsg : UInt8 := 'S'.toUInt8
/-- Frontend `Flush`. -/
def flushMsg : UInt8 := 'H'.toUInt8
/-- Frontend `Close`. -/
def closeMsg : UInt8 := 'C'.toUInt8
/-- Backend `CloseComplete`. -/
def closeCompleteMsg : UInt8 := '3'.toUInt8
/-- Backend `CopyInResponse`. -/
def copyInResponseMsg : UInt8 := 'G'.toUInt8
/-- Backend `CopyOutResponse`. -/
def copyOutResponseMsg : UInt8 := 'H'.toUInt8
/-- `CopyData`, in both directions. -/
def copyDataMsg : UInt8 := 'd'.toUInt8
/-- `CopyDone`, in both directions. -/
def copyDoneMsg : UInt8 := 'c'.toUInt8

/-- Authentication sub-code `AuthenticationOk`. -/
def authenticationOK : Int := 0
/-- Authentication sub-code `AuthenticationCleartextPassword`. -/
def authenticationCleartextPassword : Int := 3
/-- Authentication sub-code `AuthenticationMD5Password`. -/
def authenticationMD5Password : Int := 5
/-- Authentication sub-code `AuthenticationSASL`. -/
def authenticationSASL : Int := 10

/-! ## Framing -/

/-- A backend message as it is framed on the wire: its tag, and its length field counting
itself. -/
def frame (tag : UInt8) (payload : Bytes) : Bytes :=
  tag :: putUint32 (payload.length + 4) ++ payload

/-- A frame is its payload and five header bytes. -/
@[simp] theorem frame_length (tag : UInt8) (payload : Bytes) :
    (frame tag payload).length = payload.length + 5 := by
  simp [frame]; omega

end GoPg
