import GoPg.Wire

/-!
# The errors of the engine

What a call of the engine can end in besides its values: an error it returns, or a
run-time panic of the Go code. Errors created with `fmt.Errorf` keep their format string
and arguments as the source writes them, so that a statement about a message is a
statement about the source's text. The readers coalesce errors with `setErr`, which keeps
the first one.
-/

namespace GoPg

/-- An argument of `fmt.Errorf`. -/
inductive Arg
  | byte (b : UInt8)
  | int (n : Int)
  | str (s : Bytes)
  deriving DecidableEq, Repr

/-- The errors the engine returns. -/
inductive Err
  /-- The stream ended before the bytes asked for (`io.EOF`, `io.ErrUnexpectedEOF`). -/
  | io
  /-- `internal.NewPGError(m)`: the fields of an ErrorResponse, the latest binding first. -/
  | pg (fields : List (UInt8 × Bytes))
  /-- `fmt.Errorf(format, args...)`. -/
  | errorf (format : String) (args : List Arg)
  /-- `errSSLNotSupported`. -/
  | sslNotSupported
  /-- An error value a collaborator returns, known only by its identity. -/
  | other (id : Nat)
  deriving DecidableEq, Repr

/-- The run-time panics the engine's code can reach. -/
inductive Panic
  /-- A method called on a nil `orm.Model`. -/
  | nilModel
  /-- `columns[i]` with `i` at or past the slice's length `n`. -/
  | index (i n : Nat)
  /-- `b[:n]` with a negative `n`. -/
  | slice (n : Int)
  /-- `ReadN(n)` with a negative `n`. -/
  | readN (n : Int)
  /-- A call of a nil function value: `client.Step` on a negotiator built from the zero
  `sasl.Mechanism`, whose `Start` and `Next` are nil. -/
  | nilFunc
  deriving DecidableEq, Repr

/-- How a call ends early: it returns an error, or the Go code panics. -/
inductive Stop
  | err (e : Err)
  | panic (p : Panic)
  deriving DecidableEq, Repr

/-- The readers' `setErr` closure: the first error is kept. -/
def setErr : Option Err → Err → Option Err
  | none, e => some e
  | some r, _ => some r

/-- The first error is kept. -/
@[simp] theorem setErr_none (e : Err) : setErr none e = some e := rfl

/-- A later error is dropped. -/
@[simp] theorem setErr_some (r e : Err) : setErr (some r) e = some r := rfl

/-- Keeping the first error is taking the head of every error seen. -/
theorem setErr_eq_head (r : Option Err) (e : Err) : setErr r e = (r.toList ++ [e]).head? := by
  cases r <;> rfl

/-- The error a reader returns for a message type it does not handle:
`fmt.Errorf("pg: <reader>: unexpected message %#x", c)`. -/
def unexpectedMessage (reader : String) (c : UInt8) : Err :=
  .errorf ("pg: " ++ reader ++ ": unexpected message %#x") [.byte c]

end GoPg
