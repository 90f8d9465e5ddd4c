import GoPg.Conn

/-!
# What a step that succeeded did

The spec lemmas of `Conn` say what the primitives return on a given input. The lemmas here go
the other way: from a run that returned a value, what the primitive read, and that it changed
nothing but the read buffer (or, for `call` and `flushWriter`, the log and the write buffer).
Proofs about every run of a reader, on any input, peel its binds with `Go.bind_eq_ok` and
cite these.
-/

namespace GoPg

namespace Go

variable {α β : Type} {e : Env} {cn cn' cn'' : Conn}

/-- A bind that returned a value ran both its steps to a value. -/
theorem bind_eq_ok {x : Go α} {f : α → Go β} {b : β} (h : (x >>= f) e cn = .ok b cn'') :
    ∃ a cn', x e cn = .ok a cn' ∧ f a e cn' = .ok b cn'' := by
  cases hx : x e cn with
  | ok a cn' => exact ⟨a, cn', rfl, by rwa [bind_ok hx] at h⟩
  | stop s cn' => rw [bind_stop hx] at h; cases h

/-- An error never returns. -/
theorem throw_ne_ok {err : Err} {a : α} : (throw err : Go α) e cn ≠ .ok a cn' := by
  simp

/-- An error, then anything, never returns. -/
theorem throw_bind_ne_ok {err : Err} {f : α → Go β} {b : β} :
    (throw err >>= f) e cn ≠ .ok b cn'' := fun h =>
  let ⟨_, _, h, _⟩ := bind_eq_ok h
  throw_ne_ok h

/-- A panic never returns. -/
theorem panic_ne_ok {p : Panic} {a : α} : (panic p : Go α) e cn ≠ .ok a cn' := by
  simp

/-- A loop run by the stream's length returned under that fuel. -/
theorem byStream_eq_ok {loop : Nat → Go α} {a : α} (h : byStream loop e cn = .ok a cn') :
    loop (cn.rd.length + 1) e cn = .ok a cn' := h

end Go

section Primitives

variable {e : Env} {cn cn' : Conn}

/-- What a found terminator splits off. -/
theorem splitNul_eq_some {l s r : Bytes} (h : splitNul l = some (s, r)) : 0 ∉ s ∧ l = s ++ 0 :: r := by
  induction l generalizing s with
  | nil => cases h
  | cons b l ih =>
    simp only [splitNul] at h
    split at h
    · cases h
      simp_all
    · obtain ⟨⟨s', r'⟩, hs, hp⟩ := Option.map_eq_some'.mp h
      cases hp
      obtain ⟨h0, rfl⟩ := ih hs
      simp_all [Ne.symm ‹¬b = 0›]

/-- A byte that was read is the first one. -/
theorem readByte_eq_ok {c : UInt8} (h : readByte e cn = .ok c cn') :
    ∃ r, cn.rd = c :: r ∧ cn' = { cn with rd := r } := by
  unfold readByte at h
  split at h
  · cases h
  · cases h
    exact ⟨_, by simp_all, rfl⟩

/-- Bytes that were read are the first ones, as many as asked for. -/
theorem readN_eq_ok {n : Int} {b : Bytes} (h : readN n e cn = .ok b cn') :
    ∃ r, (b.length : Int) = n ∧ cn.rd = b ++ r ∧ cn' = { cn with rd := r } := by
  unfold readN at h
  split at h
  · cases h
  · split at h
    · cases h
      refine ⟨_, ?_, by simp, rfl⟩
      simp only [List.length_take]
      omega
    · cases h

/-- A 32-bit value that was read is the first four bytes, signed. -/
theorem readInt32_eq_ok {v : Int} (h : readInt32 e cn = .ok v cn') :
    ∃ b r, b.length = 4 ∧ v = toInt32 (beUint b) ∧ cn.rd = b ++ r ∧ cn' = { cn with rd := r } := by
  obtain ⟨b, cn₁, hb, hv⟩ := Go.bind_eq_ok h
  obtain ⟨r, hl, hrd, rfl⟩ := readN_eq_ok hb
  cases hv
  exact ⟨b, r, by omega, rfl, hrd, rfl⟩

/-- A string that was read runs up to the first NUL. -/
theorem readString_eq_ok {s : Bytes} (h : readString e cn = .ok s cn') :
    ∃ r, 0 ∉ s ∧ cn.rd = s ++ 0 :: r ∧ cn' = { cn with rd := r } := by
  unfold readString at h
  split at h
  · rename_i s' r hs
    cases h
    exact ⟨r, (splitNul_eq_some hs).1, (splitNul_eq_some hs).2, rfl⟩
  · cases h

/-- A header that was read is the tag and the length field, less its own four bytes. -/
theorem readMessageType_eq_ok {c : UInt8} {l : Int} (h : readMessageType e cn = .ok (c, l) cn') :
    ∃ len r, len.length = 4 ∧ l = toInt32 (beUint len) - 4 ∧ cn.rd = c :: len ++ r ∧
      cn' = { cn with rd := r } := by
  obtain ⟨c', cn₁, hc, h⟩ := Go.bind_eq_ok h
  obtain ⟨v, cn₂, hv, h⟩ := Go.bind_eq_ok h
  cases h
  obtain ⟨r₁, hrd₁, rfl⟩ := readByte_eq_ok hc
  obtain ⟨len, r, hlen, rfl, hrd₂, rfl⟩ := readInt32_eq_ok hv
  exact ⟨len, r, hlen, rfl, hrd₁.trans (congrArg (List.cons c) hrd₂), rfl⟩

/-- A discard that returned consumed as many bytes as asked for. -/
theorem discardN_eq_ok {l : Int} (h : discardN l e cn = .ok () cn') :
    ∃ p r, (p.length : Int) = l ∧ cn.rd = p ++ r ∧ cn' = { cn with rd := r } := by
  obtain ⟨p, cn₁, hp, h⟩ := Go.bind_eq_ok h
  cases h
  exact ⟨p, readN_eq_ok hp⟩

/-- A send that returned was answered without an error, logged and emptied the buffer. -/
theorem flushWriter_eq_ok (h : flushWriter e cn = .ok () cn') :
    e.answer cn.log (.send cn.wr.bytes) = none ∧
      cn' = { cn with wr := WriteBuffer.empty, log := .send cn.wr.bytes :: cn.log } := by
  rw [flushWriter, Go.bind_ok Go.conn_apply, call_bind] at h
  obtain ⟨_, cn₁, hm, h⟩ := Go.bind_eq_ok h
  cases hm
  cases ha : e.answer cn.log (.send cn.wr.bytes) <;> simp_all

end Primitives

section Frames

/-- A header whose length field `readMessageType` turned into the length of the payload read
after it is the frame of that payload. -/
theorem frame_of_length {c : UInt8} {len p : Bytes} (hlen : len.length = 4)
    (hp : (p.length : Int) = toInt32 (beUint len) - 4) : c :: len ++ p = frame c p := by
  rw [eq_putUint32_of_toInt32 hlen (by omega : toInt32 (beUint len) = Nat.cast (p.length + 4))
    (by omega)]
  simp only [frame]
  congr

/-- The same, for a payload that starts with a code read by `readInt32`. -/
theorem frame_of_code {c : UInt8} {len b p : Bytes} {k : Nat} (hlen : len.length = 4)
    (hb : b.length = 4) (hk : toInt32 (beUint b) = k)
    (hp : (p.length : Int) = toInt32 (beUint len) - 4 - 4) :
    c :: len ++ b ++ p = frame c (putUint32 k ++ p) := by
  rw [List.append_assoc, frame_of_length hlen (by rw [List.length_append, hb]; push_cast; omega),
    eq_putUint32_of_toInt32 hb hk (by omega)]
  simp

end Frames


section Chunks

/-! ## The chunked string reader

`readBytes` reads a string one `ReadSlice` at a time, each at most a buffer long, while
`readString` finds the terminator in the whole stream. Whatever the buffer size, the two agree:
the chunking is invisible to the caller. -/

variable {e : Env}

/-- No terminator is found exactly when there is no NUL. -/
theorem splitNul_eq_none_iff {l : Bytes} : splitNul l = none ↔ 0 ∉ l := by
  refine ⟨fun h => ?_, splitNul_eq_none⟩
  induction l with
  | nil => simp
  | cons b l ih =>
    simp only [splitNul] at h
    split at h
    · cases h
    · simp_all [Ne.symm ‹¬b = 0›]

/-- On a stream without NUL the loop reads full buffers until a short one ends the stream. -/
theorem readBytesLoop_noNul : ∀ (fuel : Nat) (b : Bytes) (cn : Conn), 0 ∉ cn.rd →
    cn.rd.length < fuel * cn.rdSize →
    readBytesLoop fuel b e cn = .stop (.err .io) { cn with rd := [] } := by
  intro fuel
  induction fuel with
  | zero => intro b cn _ hlt; simp at hlt
  | succ fuel ih =>
    intro b cn hs hlt
    have hnone : splitNul (cn.rd.take cn.rdSize) = none :=
      splitNul_eq_none fun hm => hs (List.mem_of_mem_take hm)
    by_cases hle : cn.rdSize ≤ cn.rd.length
    · have hslice : readSlice e cn =
          .ok (cn.rd.take cn.rdSize, true) { cn with rd := cn.rd.drop cn.rdSize } := by
        simp [readSlice, hnone, hle]
      rw [readBytesLoop, Go.bind_ok hslice]
      have hrest := ih (b ++ cn.rd.take cn.rdSize) { cn with rd := cn.rd.drop cn.rdSize }
        (fun hm => hs (List.mem_of_mem_drop hm))
        (by simp only [List.length_drop, Nat.succ_mul] at hlt ⊢; omega)
      simpa using hrest
    · have hslice : readSlice e cn = .stop (.err .io) { cn with rd := [] } := by
        simp [readSlice, hnone, hle]
      rw [readBytesLoop, Go.bind_stop hslice]

/-- `readString` fails on a stream without NUL, having consumed all of it. -/
theorem readString_noNul {cn : Conn} (h : 0 ∉ cn.rd) :
    readString e cn = .stop (.err .io) { cn with rd := [] } := by
  simp [readString, splitNul_eq_none h]

/-- The chunked reader refines the whole-stream one: `readBytes(b)` is `b` followed by what
`readString` returns, on every stream and for every buffer size. -/
theorem readBytes_eq_map_readString (b : Bytes) : readBytes b = (b ++ ·) <$> readString := by
  funext e cn
  have hfuel := Nat.le_mul_of_pos_right (cn.rd.length + 1) cn.rdSize_pos
  cases h : splitNul cn.rd with
  | none =>
    rw [readBytes, Go.byStream_apply,
      readBytesLoop_noNul _ b cn (splitNul_eq_none_iff.mp h) (by omega),
      Go.map_stop (readString_noNul (splitNul_eq_none_iff.mp h))]
  | some p =>
    obtain ⟨hs, hrd⟩ := splitNul_eq_some h
    rw [readBytes_cstr (by simpa using hrd) hs, Go.map_ok (readString_cstr (by simpa using hrd) hs)]

/-- `readBytes(b)` consumes exactly through the first NUL and returns `b` followed by the bytes
before it, fails exactly when the stream ends before a NUL, and agrees with `readString` from
`nil`; whatever the buffer size `cn.rdSize`. -/
theorem readBytes_spec (b : Bytes) (e : Env) (cn : Conn) :
    (∀ s r, 0 ∉ s → cn.rd = s ++ 0 :: r → readBytes b e cn = .ok (b ++ s) { cn with rd := r }) ∧
    (0 ∉ cn.rd ↔ readBytes b e cn = .stop (.err .io) { cn with rd := [] }) ∧
    readString e cn = readBytes [] e cn := by
  rw [readBytes_eq_map_readString, readBytes_eq_map_readString]
  refine ⟨fun s r hs hrd => Go.map_ok (readString_cstr (by simpa using hrd) hs),
    ⟨fun hs => Go.map_stop (readString_noNul hs), ?_⟩, ?_⟩
  · intro h
    rw [← splitNul_eq_none_iff]
    cases hp : splitNul cn.rd with
    | none => rfl
    | some p =>
      obtain ⟨hs, hrd⟩ := splitNul_eq_some hp
      rw [Go.map_ok (readString_cstr (by simpa using hrd) hs)] at h
      cases h
  · cases h : readString e cn with
    | ok s c => rw [Go.map_ok h, List.nil_append]
    | stop s c => rw [Go.map_stop h]

end Chunks

end GoPg
