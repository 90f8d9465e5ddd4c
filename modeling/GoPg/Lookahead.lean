import GoPg.Startup
import GoPg.Inversion

/-!
# The readers read only what they consume

Two facts about what engine code reads, for every input stream.

The `for` loops of `messages.go` have no bound, while the model runs each with one pass more
than the stream has unread bytes (`Go.byStream`): the readers' loop over messages, the chunk
loop of `readBytes`, the field loop of `readError` and the mechanism loop of `authenticate`.
That bound is never what ends a loop: each gives the same result under every fuel beyond the
stream's length (`Shrinks.byStream`), because each pass reads at
least one byte before it goes round again.

No reader looks ahead (`Go.NoLookahead`): a run that ends with bytes left unread read only the
bytes before them, and ends the same way on every stream that starts with those bytes, whatever
follows (`readers_noLookahead`). What follows a response can never change how it is read. A run
that consumed the whole stream may have met its end, and is left out: a ReadyForQuery whose
status byte is missing is read by `readParseDescribeSync` as an error value that a longer stream
does not give.

Both properties are closed under the monad's operations, so each function gets them from the
functions it calls, in the order of the source.
-/

namespace GoPg

variable {α β σ : Type} {e : Env} {cn cn' : Conn} {r : Bytes}

/-- The connection a run ends on. -/
def Res.conn : Res α → Conn
  | .ok _ cn => cn
  | .stop _ cn => cn

/-- The same run, with other bytes left unread. -/
def Res.setRd (r : Bytes) : Res α → Res α
  | .ok a cn => .ok a { cn with rd := r }
  | .stop s cn => .stop s { cn with rd := r }

/-- Engine code that never gives bytes back to the stream: whether it returns or stops, the
bytes it leaves unread are a suffix of those it found. -/
def Go.Consumes (x : Go α) : Prop := ∀ e cn, (x e cn).conn.rd <:+ cn.rd

/-- Engine code that reads only what it consumes: it leaves unread what follows some prefix
`p` of the stream, and when it leaves something, it ends the same way on every stream that
starts with `p`, leaving whatever follows. -/
def Go.NoLookahead (x : Go α) : Prop :=
  ∀ e cn, ∃ p, cn.rd = p ++ (x e cn).conn.rd ∧
    ((x e cn).conn.rd ≠ [] → ∀ r, x e { cn with rd := p ++ r } = (x e cn).setRd r)

/-- What a run of consuming code left unread is a suffix of what it found. -/
theorem Go.Consumes.of_eq {x : Go α} {res : Res α} (hx : x.Consumes) (h : x e cn = res) :
    res.conn.rd <:+ cn.rd :=
  h ▸ hx e cn

/-- An error is caught by the handler, which runs from where the error left the connection. -/
theorem Go.tryCatch_err {x : Go α} {h : Err → Go α} {err : Err} (hx : x e cn = .stop (.err err) cn') :
    (tryCatch x h : Go α) e cn = h err e cn' := by
  show (match x e cn with | .stop (.err r) cn' => h r e cn' | r => r) = _
  rw [hx]

/-- Two continuations that agree wherever `x` can return make the same program. -/
theorem Go.bind_congr_ok {x : Go α} {f f' : α → Go β}
    (h : ∀ a cn', x e cn = .ok a cn' → f a e cn' = f' a e cn') :
    (x >>= f) e cn = (x >>= f') e cn := by
  cases hx : x e cn with
  | ok a cn' => rw [Go.bind_ok hx, Go.bind_ok hx, h a cn' hx]
  | stop s cn' => rw [Go.bind_stop hx, Go.bind_stop hx]

/-! ## Closure under the monad's operations -/

namespace Go.NoLookahead

/-- Code that reads only what it consumes never gives bytes back. -/
theorem consumes {x : Go α} (h : x.NoLookahead) : x.Consumes := fun e cn =>
  let ⟨p, hp, _⟩ := h e cn
  ⟨p, hp.symm⟩

/-- Code that leaves the stream alone, and whose run does not depend on it. -/
theorem of_keep {x : Go α} (hrd : ∀ e cn, (x e cn).conn.rd = cn.rd)
    (h : ∀ e cn r, x e { cn with rd := r } = (x e cn).setRd r) : x.NoLookahead := fun e cn =>
  ⟨[], (hrd e cn).symm, fun _ r => h e cn r⟩

/-- Sequencing: what the two steps consumed, one after the other. -/
theorem bind {x : Go α} {f : α → Go β} (hx : x.NoLookahead) (hf : ∀ a, (f a).NoLookahead) :
    (x >>= f).NoLookahead := fun e cn => by
  obtain ⟨p₁, hp₁, hx₁⟩ := hx e cn
  cases h : x e cn with
  | stop s cn₁ =>
    rw [h] at hp₁ hx₁
    rw [bind_stop h]
    exact ⟨p₁, hp₁, fun hne r => bind_stop (hx₁ hne r)⟩
  | ok a cn₁ =>
    rw [h] at hp₁ hx₁
    rw [bind_ok h]
    obtain ⟨p₂, hp₂, hf₂⟩ := hf a e cn₁
    refine ⟨p₁ ++ p₂, by rw [hp₁, List.append_assoc, ← hp₂]; rfl, fun hne r => ?_⟩
    have hne₁ : cn₁.rd ≠ [] := by
      rw [hp₂]
      exact fun h => hne (List.append_eq_nil.mp h).2
    rw [List.append_assoc, bind_ok (hx₁ hne₁ (p₂ ++ r))]
    exact hf₂ hne r

/-- A caught error: what the code consumed, then what the handler consumed. -/
theorem tryCatch {x : Go α} {h : Err → Go α} (hx : x.NoLookahead) (hh : ∀ err, (h err).NoLookahead) :
    (tryCatch x h : Go α).NoLookahead := fun e cn => by
  obtain ⟨p₁, hp₁, hx₁⟩ := hx e cn
  cases hr : x e cn with
  | ok a cn₁ =>
    rw [hr] at hp₁ hx₁
    rw [tryCatch_ok hr]
    exact ⟨p₁, hp₁, fun hne r => tryCatch_ok (hx₁ hne r)⟩
  | stop s cn₁ =>
    rw [hr] at hp₁ hx₁
    cases s with
    | panic q =>
      rw [tryCatch_panic hr]
      exact ⟨p₁, hp₁, fun hne r => tryCatch_panic (hx₁ hne r)⟩
    | err err =>
      rw [tryCatch_err hr]
      obtain ⟨p₂, hp₂, hh₂⟩ := hh err e cn₁
      refine ⟨p₁ ++ p₂, by rw [hp₁, List.append_assoc, ← hp₂]; rfl, fun hne r => ?_⟩
      have hne₁ : cn₁.rd ≠ [] := by
        rw [hp₂]
        exact fun h => hne (List.append_eq_nil.mp h).2
      rw [List.append_assoc, tryCatch_err (hx₁ hne₁ (p₂ ++ r))]
      exact hh₂ hne r

/-- Either branch of an `if` reads only what it consumes. -/
theorem ite {p : Prop} [Decidable p] {x y : Go α} (hx : x.NoLookahead) (hy : y.NoLookahead) :
    (if p then x else y).NoLookahead := by
  split <;> assumption

/-- The same for an `if` whose branches use the condition. -/
theorem dite {p : Prop} [Decidable p] {x : p → Go α} {y : ¬p → Go α}
    (hx : ∀ h, (x h).NoLookahead) (hy : ∀ h, (y h).NoLookahead) : (dite p x y).NoLookahead := by
  by_cases h : p
  · rw [dif_pos h]; exact hx h
  · rw [dif_neg h]; exact hy h

/-- Code that looks at the connection, but not at its stream. -/
theorem conn_bind {f : Conn → Go β} (hf : ∀ c, (f c).NoLookahead)
    (hrd : ∀ c r, f { c with rd := r } = f c) : (Go.conn >>= f).NoLookahead := fun e cn => by
  obtain ⟨p, hp, hl⟩ := hf cn e cn
  refine ⟨p, hp, fun hne r => ?_⟩
  show f { cn with rd := p ++ r } e { cn with rd := p ++ r } = (f cn e cn).setRd r
  rw [hrd]
  exact hl hne r

end Go.NoLookahead

/-! ## The primitives -/

section Primitives

/-- `pure` reads nothing. -/
theorem pure_noLookahead (a : α) : (pure a : Go α).NoLookahead :=
  .of_keep (fun _ _ => rfl) fun _ _ _ => rfl

/-- An error reads nothing. -/
theorem throw_noLookahead (err : Err) : (throw err : Go α).NoLookahead :=
  .of_keep (fun _ _ => rfl) fun _ _ _ => rfl

/-- A panic reads nothing. -/
theorem panic_noLookahead (p : Panic) : (Go.panic p : Go α).NoLookahead :=
  .of_keep (fun _ _ => rfl) fun _ _ _ => rfl

/-- Asking the collaborators reads nothing. -/
theorem env_noLookahead : Go.env.NoLookahead := .of_keep (fun _ _ => rfl) fun _ _ _ => rfl

/-- A collaborator call reads nothing. -/
theorem call_noLookahead (k : Call) : (call k).NoLookahead :=
  .of_keep (fun _ _ => rfl) fun _ _ _ => rfl

/-- Writing to the buffer reads nothing. -/
theorem modifyWr_noLookahead (f : WriteBuffer → WriteBuffer) : (modifyWr f).NoLookahead :=
  .of_keep (fun _ _ => rfl) fun _ _ _ => rfl

/-- A change of the connection that leaves the stream alone. -/
theorem modify_noLookahead {f : Conn → Conn} (hrd : ∀ c, (f c).rd = c.rd)
    (hf : ∀ c r, f { c with rd := r } = { f c with rd := r }) : (Go.modify f).NoLookahead :=
  .of_keep (fun _ => hrd) fun _ c r => congrArg (Res.ok ()) (hf c r)

/-- `if p then throw err` before the rest `k` of a block, as Lean compiles it: through a join
point. -/
theorem Go.NoLookahead.throwIf {p : Prop} [Decidable p] {err : Err} {k : PUnit → Go α}
    (hk : ∀ y, (k y).NoLookahead) :
    (if p then throw err >>= k else pure PUnit.unit >>= k).NoLookahead :=
  .ite ((throw_noLookahead err).bind hk) ((pure_noLookahead _).bind hk)

/-- Mapping over a result reads what the code read. -/
theorem Go.NoLookahead.map {x : Go α} {f : α → β} (hx : x.NoLookahead) : (f <$> x).NoLookahead :=
  hx.bind fun _ => pure_noLookahead _

/-- Sending the buffer reads nothing. -/
theorem flushWriter_noLookahead : flushWriter.NoLookahead :=
  .conn_bind (fun _ => (call_noLookahead _).bind fun err => (modifyWr_noLookahead _).bind fun _ => by
      cases err
      · exact pure_noLookahead _
      · exact throw_noLookahead _)
    fun _ _ => by rfl

/-- `ReadByte` reads one byte, or fails on an empty stream. -/
theorem readByte_noLookahead : readByte.NoLookahead := fun e cn => by
  cases h : cn.rd with
  | nil =>
    have hnil : readByte e cn = .stop (.err .io) cn := by simp [readByte, h]
    rw [hnil]
    exact ⟨[], h.symm ▸ rfl, fun hne => absurd h hne⟩
  | cons b rest =>
    rw [readByte_cons h]
    exact ⟨[b], rfl, fun _ r => readByte_cons rfl⟩

/-- `ReadN` reads the bytes it returns, or fails on a short stream. -/
theorem readN_noLookahead (n : Int) : (readN n).NoLookahead := fun e cn => by
  by_cases hn : n < 0
  · have hneg : ∀ c : Conn, readN n e c = .stop (.panic (.readN n)) c := fun _ => by simp [readN, hn]
    rw [hneg]
    exact ⟨[], rfl, fun _ r => hneg _⟩
  · by_cases hle : n.toNat ≤ cn.rd.length
    · have hp : n = (cn.rd.take n.toNat).length := by rw [List.length_take, Nat.min_eq_left hle]; omega
      rw [readN_append (List.take_append_drop _ _).symm hp]
      exact ⟨_, (List.take_append_drop _ _).symm, fun _ r => readN_append (by rfl) hp⟩
    · have hio : readN n e cn = .stop (.err .io) { cn with rd := [] } := by simp [readN, hn, hle]
      rw [hio]
      exact ⟨cn.rd, (List.append_nil _).symm, fun hne => absurd rfl hne⟩

/-- `readString` reads up to its NUL, or fails on a stream without one. -/
theorem readString_noLookahead : readString.NoLookahead := fun e cn => by
  cases h : splitNul cn.rd with
  | none =>
    have hio : readString e cn = .stop (.err .io) { cn with rd := [] } := by simp [readString, h]
    rw [hio]
    exact ⟨cn.rd, (List.append_nil _).symm, fun hne => absurd rfl hne⟩
  | some st =>
    obtain ⟨s, rest⟩ := st
    obtain ⟨hs, hrd⟩ := splitNul_eq_some h
    rw [readString_cstr (by simpa using hrd) hs]
    exact ⟨cstr s, by simpa using hrd, fun _ r => readString_cstr (by rfl) hs⟩

/-- A slice that ends at a NUL within the buffer. -/
theorem readSlice_nul {s : Bytes} (hs : 0 ∉ s) (hlt : s.length < cn.rdSize) (h : cn.rd = s ++ 0 :: r) :
    readSlice e cn = .ok (s ++ [0], false) { cn with rd := r } := by
  obtain ⟨k, hk⟩ : ∃ k, cn.rdSize - s.length = k + 1 := ⟨_, (Nat.succ_pred_eq_of_pos (by omega)).symm⟩
  have htake : cn.rd.take cn.rdSize = s ++ 0 :: r.take k := by
    rw [h, List.take_append_eq_append_take, List.take_of_length_le hlt.le, hk]
    rfl
  have hdrop : cn.rd.drop (s.length + 1) = r := by simp [h]
  simp [readSlice, htake, splitNul_cstr hs, hdrop]

/-- A slice that fills the buffer without a NUL. -/
theorem readSlice_full {p : Bytes} (hp : 0 ∉ p) (hlen : p.length = cn.rdSize) (h : cn.rd = p ++ r) :
    readSlice e cn = .ok (p, true) { cn with rd := r } := by
  have htake : cn.rd.take cn.rdSize = p := by simp [h, ← hlen]
  have hdrop : cn.rd.drop cn.rdSize = r := by simp [h, ← hlen]
  have hle : cn.rdSize ≤ cn.rd.length := by rw [h, List.length_append]; omega
  simp [readSlice, htake, hdrop, splitNul_eq_none hp, hle]

/-- `ReadSlice` reads up to its NUL or a full buffer. -/
theorem readSlice_noLookahead : readSlice.NoLookahead := fun e cn => by
  cases h : splitNul (cn.rd.take cn.rdSize) with
  | some st =>
    obtain ⟨s, t⟩ := st
    obtain ⟨hs, ht⟩ := splitNul_eq_some h
    have hlen := congrArg List.length ht
    simp only [List.length_take, List.length_append, List.length_cons] at hlen
    have hlt : s.length < cn.rdSize := by omega
    have htake : cn.rd.take (s.length + 1) = s ++ [0] := by
      rw [← Nat.min_eq_left (show s.length + 1 ≤ cn.rdSize by omega), ← List.take_take, ht,
        List.take_append_eq_append_take]
      simp
    have hrd : cn.rd = s ++ 0 :: cn.rd.drop (s.length + 1) := by
      conv_lhs => rw [← List.take_append_drop (s.length + 1) cn.rd, htake]
      simp
    rw [readSlice_nul hs hlt hrd]
    exact ⟨s ++ [0], by simpa using hrd, fun _ r => readSlice_nul hs (by exact hlt) (by simp)⟩
  | none =>
    by_cases hle : cn.rdSize ≤ cn.rd.length
    · have hp : 0 ∉ cn.rd.take cn.rdSize := splitNul_eq_none_iff.mp h
      have hlen : (cn.rd.take cn.rdSize).length = cn.rdSize := List.length_take_of_le hle
      rw [readSlice_full hp hlen (List.take_append_drop _ _).symm]
      exact ⟨_, (List.take_append_drop _ _).symm, fun _ r => readSlice_full hp (by exact hlen) (by rfl)⟩
    · have hio : readSlice e cn = .stop (.err .io) { cn with rd := [] } := by simp [readSlice, h, hle]
      rw [hio]
      exact ⟨cn.rd, (List.append_nil _).symm, fun hne => absurd rfl hne⟩

/-- `readInt16` reads its two bytes. -/
theorem readInt16_noLookahead : readInt16.NoLookahead :=
  (readN_noLookahead _).bind fun _ => pure_noLookahead _

/-- `readInt32` reads its four bytes. -/
theorem readInt32_noLookahead : readInt32.NoLookahead :=
  (readN_noLookahead _).bind fun _ => pure_noLookahead _

/-- `readMessageType` reads the five header bytes. -/
theorem readMessageType_noLookahead : readMessageType.NoLookahead :=
  readByte_noLookahead.bind fun _ => readInt32_noLookahead.bind fun _ => pure_noLookahead _

/-- Discarding a payload reads it. -/
theorem discardN_noLookahead (l : Int) : (discardN l).NoLookahead :=
  (readN_noLookahead _).bind fun _ => pure_noLookahead _

end Primitives

/-! ## Every pass shortens the stream -/

section Passes

/-- A byte that was read shortens the stream. -/
theorem readByte_shortens {c : UInt8} (h : readByte e cn = .ok c cn') :
    cn'.rd.length < cn.rd.length := by
  obtain ⟨r, hrd, rfl⟩ := readByte_eq_ok h
  simp [hrd]

/-- A string that was read shortens the stream by its NUL at least. -/
theorem readString_shortens {s : Bytes} (h : readString e cn = .ok s cn') :
    cn'.rd.length < cn.rd.length := by
  obtain ⟨r, -, hrd, rfl⟩ := readString_eq_ok h
  simp only [hrd, List.length_append, List.length_cons]
  omega

/-- A header that was read shortens the stream. -/
theorem readMessageType_shortens {c : UInt8} {l : Int} (h : readMessageType e cn = .ok (c, l) cn') :
    cn'.rd.length < cn.rd.length := by
  obtain ⟨len, r, -, -, hrd, rfl⟩ := readMessageType_eq_ok h
  simp only [hrd, List.length_append, List.length_cons]
  omega

/-- A slice that was read is not empty: it ends at a NUL, or it fills the buffer. -/
theorem readSlice_shortens {v : Bytes × Bool} (h : readSlice e cn = .ok v cn') :
    cn'.rd.length < cn.rd.length := by
  unfold readSlice at h
  split at h
  · rename_i s rest hs
    cases h
    have hlen := congrArg List.length (splitNul_eq_some hs).2
    simp only [List.length_take, List.length_append, List.length_cons] at hlen
    simp only [List.length_drop]
    omega
  · split_ifs at h with hle
    cases h
    simp only [List.length_drop]
    have := cn.rdSize_pos
    omega

end Passes

/-- One pass of a fuelled loop runs the rest of the loop only on a stream shorter than the one
it found: two fuels whose loops agree on every shorter stream give the same pass. -/
def Shrinks (loop : Nat → σ → Go α) : Prop :=
  ∀ n m s e cn, (∀ s' cn', cn'.rd.length < cn.rd.length → loop n s' e cn' = loop m s' e cn') →
    loop (n + 1) s e cn = loop (m + 1) s e cn

namespace Shrinks

variable {loop : Nat → σ → Go α} {g : Nat}

/-- A loop whose passes shrink the stream gives the same result under every fuel beyond the
stream's length. -/
theorem fuel_eq (h : Shrinks loop) :
    ∀ n g s e (cn : Conn), cn.rd.length < n → n ≤ g → loop g s e cn = loop n s e cn := by
  intro n
  induction n with
  | zero => intro _ _ _ cn hn; exact absurd hn (Nat.not_lt_zero _)
  | succ n ih =>
    intro g s e cn hn hg
    obtain ⟨g, rfl⟩ : ∃ g', g = g' + 1 := ⟨g - 1, by omega⟩
    exact h g n s e cn fun s' cn' hlt => ih g s' e cn' (by omega) (by omega)

/-- The fuel `Go.byStream` gives such a loop is as good as any larger one. -/
theorem byStream (h : Shrinks loop) (s : σ) (hg : cn.rd.length < g) :
    Go.byStream (fun n => loop n s) e cn = loop g s e cn :=
  (h.fuel_eq _ g s e cn (Nat.lt_succ_self _) hg).symm

/-- Such a loop, run with the fuel of `Go.byStream`, does not look ahead when each of its
fuels does not: a fuel beyond both streams' lengths gives both runs. -/
theorem byStream_noLookahead (h : Shrinks loop) (hl : ∀ n s, (loop n s).NoLookahead) (s : σ) :
    (Go.byStream fun n => loop n s).NoLookahead := fun e cn => by
  obtain ⟨p, hp, hl₁⟩ := hl (cn.rd.length + 1) s e cn
  refine ⟨p, hp, fun hne r => ?_⟩
  have h₁ : cn.rd.length < cn.rd.length + (p ++ r).length + 1 := by omega
  have h₂ : ({ cn with rd := p ++ r } : Conn).rd.length < cn.rd.length + (p ++ r).length + 1 := by
    show (p ++ r).length < _
    omega
  have hG := h.byStream (e := e) s h₁
  obtain ⟨p', hp', hl'⟩ := hl (cn.rd.length + (p ++ r).length + 1) s e cn
  rw [← hG] at hp' hl'
  obtain rfl : p' = p := List.append_cancel_right (hp'.symm.trans hp)
  rw [h.byStream (e := e) s h₂]
  exact hl' hne r

end Shrinks

/-! ## The loops inside the readers -/

section Loops

/-- A pass of `readBytes` reads a slice before it goes round again. -/
theorem readBytesLoop_shrinks : Shrinks readBytesLoop := by
  intro n m b e cn hk
  refine Go.bind_congr_ok fun ⟨line, full⟩ cn₁ h₁ => ?_
  cases full
  · rfl
  · exact hk _ cn₁ (readSlice_shortens h₁)

/-- The chunk loop of `readBytes` reads only its chunks. -/
theorem readBytesLoop_noLookahead : ∀ fuel b, (readBytesLoop fuel b).NoLookahead
  | 0, _ => throw_noLookahead _
  | fuel + 1, _ => readSlice_noLookahead.bind fun _ =>
    .ite (readBytesLoop_noLookahead fuel _) (pure_noLookahead _)

/-- `readBytes` reads only what it returns and its NUL. -/
theorem readBytes_noLookahead (b : Bytes) : (readBytes b).NoLookahead :=
  readBytesLoop_shrinks.byStream_noLookahead readBytesLoop_noLookahead b

/-- A pass of `readError` reads a field code, and a string before it goes round again. -/
theorem readErrorFields_shrinks : Shrinks readErrorFields := by
  intro n m fields e cn hk
  refine Go.bind_congr_ok fun c cn₁ h₁ => ?_
  split_ifs
  · rfl
  · exact Go.bind_congr_ok fun s cn₂ h₂ => hk _ cn₂
      ((readString_noLookahead.consumes.of_eq h₂).length_le.trans_lt (readByte_shortens h₁))

/-- The field loop of `readError` reads only its fields. -/
theorem readErrorFields_noLookahead : ∀ fuel m, (readErrorFields fuel m).NoLookahead
  | 0, _ => throw_noLookahead _
  | fuel + 1, _ => readByte_noLookahead.bind fun _ =>
    .ite (pure_noLookahead _)
      (readString_noLookahead.bind fun _ => readErrorFields_noLookahead fuel _)

/-- `readError` reads only its fields and the NUL that ends them. -/
theorem readError_noLookahead : readError.NoLookahead :=
  .conn_bind (fun _ => (readErrorFields_shrinks.byStream_noLookahead readErrorFields_noLookahead
      _).bind fun _ => pure_noLookahead _)
    fun _ _ => by rfl

/-- A pass of `authenticate`'s mechanism loop reads a name. -/
theorem readSASLMechanisms_shrinks : Shrinks readSASLMechanisms := by
  intro n m mech e cn hk
  refine Go.bind_congr_ok fun s cn₁ h₁ => ?_
  have hk₁ := fun mech' => hk mech' cn₁ (readString_shortens h₁)
  split_ifs
  · rfl
  · exact hk₁ _
  · exact hk₁ _
  · rfl

/-- The mechanism loop reads only the names it goes through. -/
theorem readSASLMechanisms_noLookahead : ∀ fuel mech, (readSASLMechanisms fuel mech).NoLookahead
  | 0, _ => throw_noLookahead _
  | fuel + 1, _ => readString_noLookahead.bind fun _ =>
    .ite (pure_noLookahead _) <| .ite (readSASLMechanisms_noLookahead fuel _) <|
      .ite (readSASLMechanisms_noLookahead fuel _) (throw_noLookahead _)

/-- The column loop of `readRowDescription` reads only its fields. -/
theorem readColumnNames_noLookahead :
    ∀ (columns : Columns) is, (readColumnNames columns is).NoLookahead
  | _, [] => pure_noLookahead _
  | _, _ :: rest => (readBytes_noLookahead _).bind fun _ =>
    (readN_noLookahead _).bind fun _ => readColumnNames_noLookahead _ rest

/-- A DataRow value is read by its length. -/
theorem readValue_noLookahead : readValue.NoLookahead :=
  readInt32_noLookahead.bind fun _ => .ite (readN_noLookahead _).map (pure_noLookahead _)

/-- The value loop of `readDataRow` reads only its values. -/
theorem scanColumns_noLookahead (m : ModelRef) (columns : Columns) :
    ∀ is retErr, (scanColumns m columns is retErr).NoLookahead
  | [], _ => pure_noLookahead _
  | _ :: rest, _ => readValue_noLookahead.bind fun _ =>
    (Go.NoLookahead.dite (fun _ => pure_noLookahead _) fun _ => panic_noLookahead _).bind fun _ =>
      (call_noLookahead _).bind fun _ => scanColumns_noLookahead m columns rest _

end Loops

/-! ## Every reader's `switch` -/

section Decoders

/-- `readRowDescription` reads only its count and its fields. -/
theorem readRowDescription_noLookahead (columns : Columns) : (readRowDescription columns).NoLookahead :=
  readInt16_noLookahead.bind fun _ =>
    (Go.NoLookahead.dite (fun _ => .dite (fun _ => pure_noLookahead _) fun _ => panic_noLookahead _)
      fun _ => pure_noLookahead _).bind fun _ => readColumnNames_noLookahead _ _

/-- `readDataRow` reads only its count and its values. -/
theorem readDataRow_noLookahead (m : ModelRef) (columns : Columns) :
    (readDataRow m columns).NoLookahead :=
  (readInt16_noLookahead.bind fun _ => scanColumns_noLookahead _ _ _ _).tryCatch fun _ =>
    pure_noLookahead _

/-- `newModel` reads nothing. -/
theorem newModel_noLookahead : ∀ mod, (newModel mod).NoLookahead
  | .model => call_noLookahead _
  | .value => (call_noLookahead _).bind fun err => by
    cases err
    · exact call_noLookahead _
    · exact pure_noLookahead _

/-- The side-channel cases read only the payloads they discard. -/
theorem sideChannel_noLookahead (reader : String) (s : σ) (c : UInt8) (l : Int) :
    (sideChannel reader s c l : Go (Step σ α)).NoLookahead :=
  .ite ((discardN_noLookahead _).bind fun _ => pure_noLookahead _) <|
    .ite ((discardN_noLookahead _).bind fun _ => pure_noLookahead _) (throw_noLookahead _)

/-- Catching an error keeps what the code read. -/
theorem errOf_noLookahead {x : Go α} (hx : x.NoLookahead) : (Go.errOf x).NoLookahead :=
  (hx.bind fun _ => pure_noLookahead _).tryCatch fun _ => pure_noLookahead _

end Decoders

section Bodies

/-- The `switch` of `readParseDescribeSync` reads only what it consumes. -/
theorem readParseDescribeSyncBody_noLookahead (columns : Columns) (c : UInt8) (l : Int) :
    (readParseDescribeSyncBody columns c l).NoLookahead :=
  .ite ((discardN_noLookahead _).bind fun _ => pure_noLookahead _) <|
  .ite ((readRowDescription_noLookahead _).bind fun _ => pure_noLookahead _) <|
  .ite ((discardN_noLookahead _).bind fun _ => pure_noLookahead _) <|
  .ite ((discardN_noLookahead _).bind fun _ => pure_noLookahead _) <|
  .ite ((errOf_noLookahead (readN_noLookahead _)).bind fun _ => pure_noLookahead _) <|
  .ite (readError_noLookahead.bind fun _ => throw_noLookahead _) (sideChannel_noLookahead _ _ _ _)

/-- The `switch` of `readBindMsg` reads only what it consumes. -/
theorem readBindMsgBody_noLookahead (u : Unit) (c : UInt8) (l : Int) :
    (readBindMsgBody u c l).NoLookahead :=
  .ite ((discardN_noLookahead _).bind fun _ => pure_noLookahead _) <|
  .ite ((discardN_noLookahead _).bind fun _ => pure_noLookahead _) <|
  .ite (readError_noLookahead.bind fun _ => throw_noLookahead _) (sideChannel_noLookahead _ _ _ _)

/-- The `switch` of the readers that wait for one message reads only what it consumes. -/
theorem awaitBody_noLookahead (reader : String) (tag : UInt8) (u : Unit) (c : UInt8) (l : Int) :
    (awaitBody reader tag u c l).NoLookahead :=
  .ite ((discardN_noLookahead _).bind fun _ => pure_noLookahead _) <|
  .ite (readError_noLookahead.bind fun _ => throw_noLookahead _) (sideChannel_noLookahead _ _ _ _)

/-- The `switch` of `readCopyData` reads only what it consumes. -/
theorem readCopyDataBody_noLookahead (res : Option Result) (c : UInt8) (l : Int) :
    (readCopyDataBody res c l).NoLookahead :=
  .ite ((readN_noLookahead _).bind fun _ => (call_noLookahead _).bind fun err => by
      cases err
      · exact pure_noLookahead _
      · exact throw_noLookahead _) <|
  .ite ((discardN_noLookahead _).bind fun _ => pure_noLookahead _) <|
  .ite ((readN_noLookahead _).bind fun _ => pure_noLookahead _) <|
  .ite ((errOf_noLookahead (readN_noLookahead _)).bind fun _ => pure_noLookahead _) <|
  .ite (readError_noLookahead.bind fun _ => throw_noLookahead _) (sideChannel_noLookahead _ _ _ _)

/-- The `switch` of `readSimpleQuery` and `readExtQuery` reads only what it consumes. -/
theorem queryBody_noLookahead (reader : String) (skip : UInt8) (v : QueryVars) (c : UInt8) (l : Int) :
    (queryBody reader skip v c l).NoLookahead :=
  .ite ((discardN_noLookahead _).bind fun _ => pure_noLookahead _) <|
  .ite ((discardN_noLookahead _).bind fun _ => pure_noLookahead _) <|
  .ite ((readN_noLookahead _).bind fun _ => pure_noLookahead _) <|
  .ite ((discardN_noLookahead _).bind fun _ => pure_noLookahead _) <|
  .ite (readError_noLookahead.bind fun _ => pure_noLookahead _) (sideChannel_noLookahead _ _ _ _)

/-- Making the model on the first row reads nothing. -/
theorem ensureModel_noLookahead (mod : Mod) (v : DataVars) : (ensureModel mod v).NoLookahead := by
  unfold ensureModel
  split
  · exact pure_noLookahead _
  · exact (newModel_noLookahead _).bind fun err => by
      cases err
      · exact pure_noLookahead _
      · exact pure_noLookahead _

/-- A DataRow case reads only the row. -/
theorem addDataRow_noLookahead (v : DataVars) (columns : Columns) :
    (addDataRow v columns).NoLookahead := by
  unfold addDataRow
  split
  · exact panic_noLookahead _
  · refine (call_noLookahead _).bind fun _ => (readDataRow_noLookahead _ _).bind fun err => ?_
    cases err
    · exact (call_noLookahead _).bind fun _ => (pure_noLookahead _).bind fun _ => pure_noLookahead _
    · exact (pure_noLookahead _).bind fun _ => pure_noLookahead _

/-- The cases the data readers share read only what they consume. -/
theorem dataTail_noLookahead (reader : String) (v : DataVars) (c : UInt8) (l : Int) :
    (dataTail reader v c l).NoLookahead :=
  .ite ((readN_noLookahead _).bind fun _ => pure_noLookahead _) <|
  .ite ((discardN_noLookahead _).bind fun _ => pure_noLookahead _) <|
  .ite (readError_noLookahead.bind fun _ => pure_noLookahead _) (sideChannel_noLookahead _ _ _ _)

/-- The `switch` of `readSimpleQueryData` reads only what it consumes. -/
theorem readSimpleQueryDataBody_noLookahead (mod : Mod) (v : DataVars) (c : UInt8) (l : Int) :
    (readSimpleQueryDataBody mod v c l).NoLookahead :=
  .ite (.conn_bind (fun _ =>
      ((readRowDescription_noLookahead _).tryCatch fun _ =>
        (modify_noLookahead (fun _ => by rfl) fun _ _ => by rfl).bind fun _ =>
          throw_noLookahead _).bind fun _ =>
      (modify_noLookahead (fun _ => by rfl) fun _ _ => by rfl).bind fun _ =>
        (ensureModel_noLookahead _ _).bind fun _ => pure_noLookahead _) fun _ _ => by rfl) <|
  .ite (.conn_bind (fun _ => (addDataRow_noLookahead _ _).bind fun _ => pure_noLookahead _)
      fun _ _ => by rfl)
    (dataTail_noLookahead _ _ _ _)

/-- The `switch` of `readExtQueryData` reads only what it consumes. -/
theorem readExtQueryDataBody_noLookahead (mod : Mod) (columns : Columns) (v : DataVars) (c : UInt8)
    (l : Int) : (readExtQueryDataBody mod columns v c l).NoLookahead :=
  .ite ((discardN_noLookahead _).bind fun _ => pure_noLookahead _) <|
  .ite ((ensureModel_noLookahead _ _).bind fun _ =>
      (addDataRow_noLookahead _ _).bind fun _ => pure_noLookahead _)
    (dataTail_noLookahead _ _ _ _)

/-- The `switch` of `readReadyForQuery` reads only what it consumes. -/
theorem readReadyForQueryBody_noLookahead (v : Option Result × Option Err) (c : UInt8) (l : Int) :
    (readReadyForQueryBody v c l).NoLookahead :=
  .ite ((readN_noLookahead _).bind fun _ => pure_noLookahead _) <|
  .ite ((discardN_noLookahead _).bind fun _ => pure_noLookahead _) <|
  .ite (readError_noLookahead.bind fun _ => pure_noLookahead _) (sideChannel_noLookahead _ _ _ _)

/-- The `switch` of `readNotification` reads only what it consumes. -/
theorem readNotificationBody_noLookahead (u : Unit) (c : UInt8) (l : Int) :
    (readNotificationBody u c l).NoLookahead :=
  .ite ((discardN_noLookahead _).bind fun _ => pure_noLookahead _) <|
  .ite ((discardN_noLookahead _).bind fun _ => pure_noLookahead _) <|
  .ite (readError_noLookahead.bind fun _ => throw_noLookahead _) <|
  .ite ((discardN_noLookahead _).bind fun _ => pure_noLookahead _) <|
  .ite (readInt32_noLookahead.bind fun _ => readString_noLookahead.bind fun _ =>
      readString_noLookahead.bind fun _ => pure_noLookahead _) (throw_noLookahead _)

end Bodies

section Handshake

/-- A negotiator step reads nothing. -/
theorem saslStep_noLookahead (mech : Bytes) (challenge : Option Bytes) :
    (saslStep mech challenge).NoLookahead :=
  .ite (panic_noLookahead _) <| (call_noLookahead _).bind fun err => by
    cases err
    · exact env_noLookahead.bind fun _ =>
        .conn_bind (fun _ => pure_noLookahead _) fun _ _ => by rfl
    · exact throw_noLookahead _

/-- Asking the negotiator's state reads nothing. -/
theorem saslState_noLookahead : saslState.NoLookahead :=
  (call_noLookahead _).bind fun _ => env_noLookahead.bind fun _ =>
    .conn_bind (fun _ => pure_noLookahead _) fun _ _ => by rfl

/-- Waiting for AuthenticationOk reads only the answer. -/
theorem expectAuthOK_noLookahead (unexpectedCode : String) : (expectAuthOK unexpectedCode).NoLookahead :=
  readMessageType_noLookahead.bind fun _ =>
    .ite (readInt32_noLookahead.bind fun _ => .ite (throw_noLookahead _) (pure_noLookahead _)) <|
    .ite (readError_noLookahead.bind fun _ => throw_noLookahead _) (throw_noLookahead _)

/-- `readAuthSASLFinal` reads only SASLFinal and the answer after it. -/
theorem readAuthSASLFinal_noLookahead (mech : Bytes) : (readAuthSASLFinal mech).NoLookahead :=
  readMessageType_noLookahead.bind fun _ =>
    .ite (readInt32_noLookahead.bind fun _ =>
        .throwIf fun _ => (readN_noLookahead _).bind fun _ => (saslStep_noLookahead _ _).bind fun _ =>
          saslState_noLookahead.bind fun _ =>
          .ite (saslState_noLookahead.bind fun _ => (throw_noLookahead _).bind fun _ =>
              expectAuthOK_noLookahead _)
            ((pure_noLookahead _).bind fun _ => expectAuthOK_noLookahead _)) <|
    .ite (readError_noLookahead.bind fun _ => throw_noLookahead _) (throw_noLookahead _)

/-- The SASL exchange reads only the messages it consumes. -/
theorem saslExchange_noLookahead (mech : Bytes) : (saslExchange mech).NoLookahead :=
  (saslStep_noLookahead _ _).bind fun _ => (modifyWr_noLookahead _).bind fun _ =>
    flushWriter_noLookahead.bind fun _ => readMessageType_noLookahead.bind fun _ =>
    .ite (readInt32_noLookahead.bind fun _ =>
        .throwIf fun _ => (readN_noLookahead _).bind fun _ => (saslStep_noLookahead _ _).bind fun _ =>
          (modifyWr_noLookahead _).bind fun _ => flushWriter_noLookahead.bind fun _ =>
          readAuthSASLFinal_noLookahead _) <|
    .ite (readError_noLookahead.bind fun _ => throw_noLookahead _) (throw_noLookahead _)

/-- `authenticate` reads only the exchange it consumes. -/
theorem authenticate_noLookahead (user password : Bytes) : (authenticate user password).NoLookahead :=
  readInt32_noLookahead.bind fun _ =>
    .ite (pure_noLookahead _) <|
    .ite ((modifyWr_noLookahead _).bind fun _ => flushWriter_noLookahead.bind fun _ =>
        expectAuthOK_noLookahead _) <|
    .ite ((readN_noLookahead _).bind fun _ => env_noLookahead.bind fun _ =>
        (modifyWr_noLookahead _).bind fun _ => flushWriter_noLookahead.bind fun _ =>
        expectAuthOK_noLookahead _) <|
    .ite ((readSASLMechanisms_shrinks.byStream_noLookahead readSASLMechanisms_noLookahead _).bind fun _ =>
        saslExchange_noLookahead _) (throw_noLookahead _)

/-- The `switch` of `startup` reads only what it consumes. -/
theorem startupBody_noLookahead (user password : Bytes) (u : Unit) (c : UInt8) (l : Int) :
    (startupBody user password u c l).NoLookahead :=
  .ite (readInt32_noLookahead.bind fun _ => readInt32_noLookahead.bind fun _ =>
      (modify_noLookahead (fun _ => by rfl) fun _ _ => by rfl).bind fun _ => pure_noLookahead _) <|
  .ite ((discardN_noLookahead _).bind fun _ => pure_noLookahead _) <|
  .ite ((authenticate_noLookahead _ _).bind fun _ => pure_noLookahead _) <|
  .ite ((discardN_noLookahead _).bind fun _ => pure_noLookahead _) <|
  .ite (readError_noLookahead.bind fun _ => throw_noLookahead _) (throw_noLookahead _)

end Handshake

/-! ## The readers -/

section Readers

variable {body : σ → UInt8 → Int → Go (Step σ α)}

/-- A reader's pass reads a header, then runs a `switch` that consumes. -/
theorem messageLoop_shrinks (hb : ∀ s c l, (body s c l).Consumes) : Shrinks (messageLoop body) := by
  intro n m s e cn hk
  refine Go.bind_congr_ok fun ⟨c, l⟩ cn₁ h₁ => Go.bind_congr_ok fun st cn₂ h₂ => ?_
  cases st with
  | next s' =>
    exact hk s' cn₂ (((hb s c l).of_eq h₂).length_le.trans_lt (readMessageType_shortens h₁))
  | done a => rfl

/-- A loop over messages whose `switch` reads only what it consumes does the same, under every fuel.
-/
theorem messageLoop_noLookahead (hb : ∀ s c l, (body s c l).NoLookahead) :
    ∀ fuel s, (messageLoop body fuel s).NoLookahead
  | 0, _ => throw_noLookahead _
  | fuel + 1, s => readMessageType_noLookahead.bind fun _ => (hb s _ _).bind fun st => by
    cases st
    · exact messageLoop_noLookahead hb fuel _
    · exact pure_noLookahead _

/-- A reader whose `switch` reads only what it consumes does the same. -/
theorem runReader_noLookahead (hb : ∀ s c l, (body s c l).NoLookahead) (s : σ) :
    (runReader body s).NoLookahead :=
  (messageLoop_shrinks fun s c l => (hb s c l).consumes).byStream_noLookahead
    (messageLoop_noLookahead hb) s

end Readers

/-- No reader and not `startup` looks ahead: a run that leaves bytes unread ends the same way on
every stream that starts with the bytes it read. -/
theorem readers_noLookahead (user password database : Bytes) (mod : Mod) (columns : Columns) :
    readSimpleQuery.NoLookahead ∧ readExtQuery.NoLookahead ∧
    (readSimpleQueryData mod).NoLookahead ∧ (readExtQueryData mod columns).NoLookahead ∧
    readReadyForQuery.NoLookahead ∧ readParseDescribeSync.NoLookahead ∧
    readBindMsg.NoLookahead ∧ readCloseCompleteMsg.NoLookahead ∧
    readCopyInResponse.NoLookahead ∧ readCopyOutResponse.NoLookahead ∧
    readCopyData.NoLookahead ∧ readNotification.NoLookahead ∧
    (startup user password database).NoLookahead :=
  ⟨runReader_noLookahead (queryBody_noLookahead _ _) _,
    runReader_noLookahead (queryBody_noLookahead _ _) _,
    runReader_noLookahead (readSimpleQueryDataBody_noLookahead _) _,
    runReader_noLookahead (readExtQueryDataBody_noLookahead _ _) _,
    runReader_noLookahead readReadyForQueryBody_noLookahead _,
    runReader_noLookahead readParseDescribeSyncBody_noLookahead _,
    runReader_noLookahead readBindMsgBody_noLookahead _,
    runReader_noLookahead (awaitBody_noLookahead _ _) _,
    runReader_noLookahead (awaitBody_noLookahead _ _) _,
    runReader_noLookahead (awaitBody_noLookahead _ _) _,
    runReader_noLookahead readCopyDataBody_noLookahead _,
    runReader_noLookahead readNotificationBody_noLookahead _,
    (modifyWr_noLookahead _).bind fun _ => flushWriter_noLookahead.bind fun _ =>
      runReader_noLookahead (startupBody_noLookahead _ _) _⟩

end GoPg
