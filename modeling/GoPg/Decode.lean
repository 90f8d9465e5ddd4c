import GoPg.Conn

/-!
# Structured payloads

The decoders of `messages.go` that read a payload by its structure rather than by its
declared length: `readError` (ErrorResponse and NoticeResponse fields),
`readRowDescription` with `setByteSliceLen`, and `readDataRow`, which hands every field
to the row's scanner. `newModel` creates the caller's model for the data readers.
-/

namespace GoPg

/-! ## ErrorResponse -/

/-- The loop of `readError`: fields `m[c] = s` until a zero code, at most `fuel` of them. -/
def readErrorFields : Nat → List (UInt8 × Bytes) → Go (List (UInt8 × Bytes))
  | 0, _ => throw .io
  | fuel + 1, m => do
    let c ← readByte
    if c = 0 then pure m
    else do
      let s ← readString
      readErrorFields fuel ((c, s) :: m)

/-- `readError`: the server's fields, and the connection's remote address under `'a'`. -/
def readError : Go Err := do
  let cn ← Go.conn
  let m ← Go.byStream fun fuel => readErrorFields fuel [('a'.toUInt8, cn.remoteAddr)]
  pure (.pg m)

/-! ## RowDescription -/

namespace Columns

/-- `b[i] = v` for an index in view. -/
def set (b : Columns) (i : Nat) (v : Bytes) : Columns :=
  ⟨b.arr.set i v, b.len, by simpa using b.len_le⟩

/-- `b[i]`, which panics past the length. -/
def get (b : Columns) (i : Nat) : Go Bytes :=
  if h : i < b.len then pure (b.arr.get ⟨i, by have := b.len_le; omega⟩)
  else Go.panic (.index i b.len)

/-- `c` with the entries from index `i` on set to `names`. -/
def setFrom (c : Columns) (i : Nat) : List Bytes → Columns
  | [] => c
  | n :: ns => (c.set i n).setFrom (i + 1) ns

/-- `setByteSliceLen` for a count that is not negative: `b[:n]` within the capacity, else `b`
grown with `nil` entries. -/
def resize (b : Columns) (n : Nat) : Columns :=
  if h : n ≤ b.arr.length then ⟨b.arr, n, h⟩
  else ofList (b.arr ++ List.replicate (n - b.arr.length) [])

/-- Setting names keeps the number of columns. -/
@[simp] theorem setFrom_len (names : List Bytes) :
    ∀ (c : Columns) (i : Nat), (c.setFrom i names).len = c.len := by
  induction names with
  | nil => intro c i; rfl
  | cons n ns ih => intro c i; exact (ih _ _).trans rfl

/-- Setting consecutive entries replaces that stretch of the backing array. -/
theorem setFrom_arr (names : List Bytes) :
    ∀ (c : Columns) (i : Nat), i + names.length ≤ c.arr.length →
      (c.setFrom i names).arr = c.arr.take i ++ names ++ c.arr.drop (i + names.length) := by
  induction names with
  | nil => intro c i _; simp [setFrom]
  | cons n ns ih =>
    intro c i hi
    simp only [List.length_cons] at hi
    have hset : (c.set i n).arr = c.arr.take i ++ n :: c.arr.drop (i + 1) := by
      simp only [set, List.set_eq_take_append_cons_drop, if_pos (show i < c.arr.length by omega)]
    rw [setFrom, ih _ _ (by simp [set]; omega), hset]
    -- the prefix before `i` is left alone: name it, with `i` its length
    obtain ⟨A, hA, rfl⟩ : ∃ A, c.arr.take i = A ∧ A.length = i :=
      ⟨_, rfl, List.length_take_of_le (by omega)⟩
    rw [hA, Nat.add_assoc, List.take_append, List.drop_append, Nat.add_comm 1, List.drop_succ_cons,
      List.drop_drop]
    simp only [List.take_succ_cons, List.take_zero, List.nil_append, List.length_cons,
      List.append_assoc, List.cons_append, Nat.add_assoc, Nat.add_comm 1]

/-- A resize gives as many columns as asked for. -/
@[simp] theorem resize_len (b : Columns) (n : Nat) : (b.resize n).len = n := by
  unfold resize; split <;> simp [ofList]; omega

/-- After a resize the backing list holds at least the columns asked for. -/
theorem le_resize_arr_length (b : Columns) (n : Nat) : n ≤ (b.resize n).arr.length := by
  unfold resize; split <;> simp [ofList] <;> omega

/-- Names set over every entry in view are what is in view. -/
theorem toList_setFrom_resize (b : Columns) (names : List Bytes) :
    ((b.resize names.length).setFrom 0 names).toList = names := by
  have h := setFrom_arr names (b.resize names.length) 0 (by simpa using le_resize_arr_length ..)
  simp [toList, h]

/-- A column within the length is its name. -/
theorem get_of_lt {b : Columns} {i : Nat} (h : i < b.len) (e : Env) (cn : Conn) :
    b.get i e cn = .ok (b.arr.getD i []) cn := by
  have : i < b.arr.length := Nat.lt_of_lt_of_le h b.len_le
  simp [get, h, List.getElem?_eq_getElem this]

/-- A column past the length panics with an index out of range. -/
theorem get_of_le {b : Columns} {i : Nat} (h : b.len ≤ i) (e : Env) (cn : Conn) :
    b.get i e cn = .stop (.panic (.index i b.len)) cn := by
  simp [get, Nat.not_lt.mpr h]

end Columns

/-- `setByteSliceLen`: `b[:n]` within the capacity, which panics for a negative `n`, else
`b` grown with `nil` entries. Modelled from the spec where Go leaves it open: the grown
slice has no spare capacity. -/
def setByteSliceLen (b : Columns) (n : Int) : Go Columns :=
  if hn : n ≤ b.arr.length then
    if h : 0 ≤ n then pure ⟨b.arr, n.toNat, by omega⟩ else Go.panic (.slice n)
  else pure (Columns.ofList (b.arr ++ List.replicate (n.toNat - b.arr.length) []))

/-- A count that is not negative resizes. -/
theorem setByteSliceLen_ofNat (b : Columns) (n : Nat) : setByteSliceLen b n = pure (b.resize n) := by
  unfold setByteSliceLen Columns.resize
  by_cases h : n ≤ b.arr.length
  · simp [h, Int.ofNat_nonneg]
  · simp [h]

/-- The loop of `readRowDescription` over the column indices: each name, then 18 bytes of
metadata dropped. -/
def readColumnNames (columns : Columns) : List Nat → Go Columns
  | [] => pure columns
  | i :: rest => do
    let name ← readBytes []
    let columns := columns.set i name
    let _ ← readN 18
    readColumnNames columns rest

/-- `readRowDescription(cn, columns)`. -/
def readRowDescription (columns : Columns) : Go Columns := do
  let colNum ← readInt16
  let columns ← setByteSliceLen columns colNum
  readColumnNames columns (List.range colNum.toNat)

/-! ## DataRow -/

/-- `if err != nil { setErr(err) }`. -/
def setErrIf (retErr : Option Err) : Option Err → Option Err
  | some err => setErr retErr err
  | none => retErr

/-- One field of a DataRow: its length, then its bytes unless the length is `-1` (`NULL`). -/
def readValue : Go (Option Bytes) := do
  let l ← readInt32
  if l ≠ -1 then some <$> readN l else pure none

/-- The loop of `readDataRow` over the column indices: each field, and the scanner's verdict
on it. -/
def scanColumns (m : ModelRef) (columns : Columns) : List Nat → Option Err → Go (Option Err)
  | [], retErr => pure retErr
  | colIdx :: rest, retErr => do
    let b ← readValue
    let column ← columns.get colIdx
    let err ← call (.scanColumn m colIdx column b)
    scanColumns m columns rest (setErrIf retErr err)

/-- `readDataRow(cn, scanner, columns)`, the scanner being a row target of `m`. Its errors,
of the stream as of the scanner, are returned as a value. -/
def readDataRow (m : ModelRef) (columns : Columns) : Go (Option Err) :=
  tryCatch (do
    let colNum ← readInt16
    scanColumns m columns (List.range colNum.toNat) none)
    fun err => pure (some err)

/-- `newModel(mod)`: `mod` itself when it is an `orm.Model`, else `orm.NewModel(mod)`; then
`Reset()`. -/
def newModel : Mod → Go (Option Err)
  | .model => call .reset
  | .value => do
    match ← call .ormNewModel with
    | some err => pure (some err)
    | none => call .reset

end GoPg
