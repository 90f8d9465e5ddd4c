import GoPg.Messages

/-!
# Reader loops over message streams

A reader's loop, run on a stream of well-formed messages, goes round once a message and
consumes exactly it, until the message where its body returns. `Passes` records the
messages the loop goes round on, from which loop variables and connection to which;
`Passes.loop` says that the loop on `stream ms ++ rest` is the loop from the state `ms`
leads to, on `rest`, and `Passes.runReader` gives a reader's result at the message where it
returns.

NoticeResponse and ParameterStatus go through every reader's `sideChannel`, which drops
them and changes nothing else; `Passes.sideInsert` lifts this to any number of them
inserted at message boundaries.
-/

namespace GoPg

/-- A server notice or a parameter status report: the messages a reader drops. -/
def Backend.IsSideChannel (m : Backend) : Prop :=
  ∃ p, m = .other noticeResponseMsg p ∨ m = .other parameterStatusMsg p

/-- What a pass of the loop returns, if the loop returns with it. -/
def Res.exit {σ α : Type} : Res (Step σ α) → Option (Res α)
  | .ok (.next _) _ => none
  | .ok (.done a) cn => some (.ok a cn)
  | .stop s cn => some (.stop s cn)

section Loop

variable {σ α : Type} {body : σ → UInt8 → Int → Go (Step σ α)} {e : Env}
  {s s' : σ} {cn cn' : Conn} {m : Backend} {r : Bytes}

/-- One pass over a well-formed message that goes round. -/
theorem messageLoop_next {fuel : Nat} (hm : m.payload.length + 4 < 2 ^ 31)
    (hb : body s m.tag m.payload.length e { cn with rd := m.payload ++ r } = .ok (.next s') cn') :
    messageLoop body (fuel + 1) s e { cn with rd := m.bytes ++ r } =
      messageLoop body fuel s' e cn' := by
  rw [messageLoop, Go.bind_ok (readMessageType_bytes rfl hm)]
  exact Go.bind_ok hb

/-- The pass over a well-formed message at which the loop returns. -/
theorem messageLoop_exit {fuel : Nat} {x : Res (Step σ α)} {R : Res α}
    (hm : m.payload.length + 4 < 2 ^ 31)
    (hb : body s m.tag m.payload.length e { cn with rd := m.payload ++ r } = x)
    (hx : x.exit = some R) :
    messageLoop body (fuel + 1) s e { cn with rd := m.bytes ++ r } = R := by
  rw [messageLoop, Go.bind_ok (readMessageType_bytes rfl hm)]
  show (body s m.tag m.payload.length >>= _) e _ = R
  match x, hx with
  | .ok (.done a) cn', rfl => exact Go.bind_ok hb
  | .stop st cn', rfl => exact Go.bind_stop hb

/-- `Passes body e s cn ms s' cn'`: from loop variables `s` and connection `cn`, the loop goes
round once on each message of `ms`, consuming exactly it, and reaches `s'` and `cn'`. The
read buffer of `cn` and `cn'` is not part of it. -/
inductive Passes (body : σ → UInt8 → Int → Go (Step σ α)) (e : Env) :
    σ → Conn → List Backend → σ → Conn → Prop
  | nil (s : σ) (cn : Conn) : Passes body e s cn [] s cn
  | cons {s s₁ s' : σ} {cn cn₁ cn' : Conn} {m : Backend} {ms : List Backend} :
    m.payload.length + 4 < 2 ^ 31 →
    (∀ r, body s m.tag m.payload.length e { cn with rd := m.payload ++ r } =
      .ok (.next s₁) { cn₁ with rd := r }) →
    Passes body e s₁ cn₁ ms s' cn' → Passes body e s cn (m :: ms) s' cn'

/-- The loop on a stream the loop goes round on is the loop from the state it reaches. -/
theorem Passes.loop {ms : List Backend} (hp : Passes body e s cn ms s' cn') (r : Bytes)
    (fuel : Nat) :
    messageLoop body (fuel + ms.length) s e { cn with rd := stream ms ++ r } =
      messageLoop body fuel s' e { cn' with rd := r } := by
  induction hp generalizing fuel with
  | nil => rfl
  | cons hm hb _ ih =>
    rw [List.length_cons, ← Nat.add_assoc, stream_cons, List.append_assoc,
      messageLoop_next hm (hb _), ih]

/-- Every message takes at least its five header bytes. -/
theorem length_le_length_stream (ms : List Backend) : ms.length ≤ (stream ms).length :=
  length_le_length_flatMap ms Backend.bytes (by simp [Backend.bytes, frame])

/-- A reader on a stream it goes round on, up to a message at which it returns. -/
theorem Passes.runReader {ms : List Backend} {z : Backend} {x : Res (Step σ α)} {R : Res α}
    (hp : Passes body e s cn ms s' cn') (hz : z.payload.length + 4 < 2 ^ 31)
    (hb : body s' z.tag z.payload.length e { cn' with rd := z.payload ++ r } = x)
    (hx : x.exit = some R) :
    runReader body s e { cn with rd := stream ms ++ z.bytes ++ r } = R := by
  have hms := length_le_length_stream ms
  have hzb : z.bytes.length = z.payload.length + 5 := by simp [Backend.bytes]
  obtain ⟨k, hk⟩ : ∃ k, (stream ms ++ z.bytes ++ r).length + 1 = k + 1 + ms.length :=
    ⟨(stream ms).length - ms.length + z.payload.length + 5 + r.length, by
      simp only [List.length_append]; omega⟩
  rw [GoPg.runReader, Go.byStream_apply]
  show messageLoop body ((stream ms ++ z.bytes ++ r).length + 1) s e
    { cn with rd := stream ms ++ z.bytes ++ r } = R
  rw [hk, List.append_assoc]
  rw [hp.loop, messageLoop_exit hz hb hx]

/-- The loop goes round on a stretch of messages when the body takes the loop variables of the
stream before each message to those of the stream one message longer, consuming exactly it. -/
theorem Passes.of_vars (varsOf : List Backend → σ) (ms : List Backend)
    (h : ∀ pre, ∀ m ∈ ms, m.payload.length + 4 < 2 ^ 31 ∧ ∀ r,
      body (varsOf pre) m.tag m.payload.length e { cn with rd := m.payload ++ r } =
        .ok (.next (varsOf (pre ++ [m]))) { cn with rd := r }) :
    ∀ pre, Passes body e (varsOf pre) cn ms (varsOf (pre ++ ms)) cn := by
  induction ms with
  | nil => intro pre; simpa using Passes.nil (varsOf pre) cn
  | cons m ms ih =>
    intro pre
    obtain ⟨hfit, hb⟩ := h pre m (List.mem_cons_self m ms)
    refine .cons hfit hb ?_
    simpa using ih (fun pre' m' hm' => h pre' m' (List.mem_cons_of_mem m hm')) (pre ++ [m])

/-- The same for a reader whose connection changes as it goes (its calls are logged): the body
takes the loop variables and connection of each stretch `pre` of `ms` to those of the stretch one
message longer, at the message that follows `pre` in `ms`. -/
theorem Passes.of_stretches (varsOf : List Backend → σ) (connOf : List Backend → Conn)
    (ms : List Backend)
    (h : ∀ pre m post, ms = pre ++ m :: post → m.payload.length + 4 < 2 ^ 31 ∧ ∀ r,
      body (varsOf pre) m.tag m.payload.length e { connOf pre with rd := m.payload ++ r } =
        .ok (.next (varsOf (pre ++ [m]))) { connOf (pre ++ [m]) with rd := r }) :
    Passes body e (varsOf []) (connOf []) ms (varsOf ms) (connOf ms) := by
  suffices H : ∀ post pre, ms = pre ++ post →
      Passes body e (varsOf pre) (connOf pre) post (varsOf ms) (connOf ms) from H ms [] rfl
  intro post
  induction post with
  | nil => intro pre hms; rw [hms, List.append_nil]; exact .nil _ _
  | cons m post ih =>
    intro pre hms
    obtain ⟨hfit, hb⟩ := h pre m post hms
    exact .cons hfit hb (ih (pre ++ [m]) (by rw [hms, List.append_assoc, List.singleton_append]))

/-- The loop goes round on consecutive stretches of a stream. -/
theorem Passes.append {ms ms' : List Backend} {s₁ : σ} {cn₁ : Conn}
    (hp : Passes body e s cn ms s₁ cn₁) (hp' : Passes body e s₁ cn₁ ms' s' cn') :
    Passes body e s cn (ms ++ ms') s' cn' := by
  induction hp with
  | nil => exact hp'
  | cons hm hb _ ih => exact .cons hm hb (ih hp')

end Loop

/-! ## Side-channel messages -/

/-- `ms'` is `ms` with well-formed NoticeResponse and ParameterStatus messages inserted at
message boundaries. -/
inductive SideInsert : List Backend → List Backend → Prop
  | nil : SideInsert [] []
  | keep (m : Backend) {ms ms' : List Backend} : SideInsert ms ms' → SideInsert (m :: ms) (m :: ms')
  | insert {n : Backend} {ms ms' : List Backend} : n.IsSideChannel → n.payload.length + 4 < 2 ^ 31 →
    SideInsert ms ms' → SideInsert ms (n :: ms')

section SideChannel

variable {σ α : Type} {e : Env} {cn : Conn} {r : Bytes}

/-- Discarding a payload consumes exactly it. -/
theorem discardN_append {p : Bytes} (h : cn.rd = p ++ r) :
    discardN p.length e cn = .ok () { cn with rd := r } :=
  Go.map_ok (readN_append h rfl)

/-- `sideChannel` drops a NoticeResponse or a ParameterStatus and changes nothing else. -/
theorem sideChannel_drops {reader : String} {s : σ} (n : Backend) (hn : n.IsSideChannel) :
    (sideChannel reader s n.tag n.payload.length : Go (Step σ α)) e { cn with rd := n.payload ++ r } =
      .ok (.next s) { cn with rd := r } := by
  obtain ⟨p, rfl | rfl⟩ := hn
  · simp only [sideChannel, Backend.tag, Backend.payload, if_pos rfl]
    exact Go.bind_ok (discardN_append rfl)
  · have : parameterStatusMsg ≠ noticeResponseMsg := by decide
    simp only [sideChannel, Backend.tag, Backend.payload, if_neg this, if_pos rfl]
    exact Go.bind_ok (discardN_append rfl)

/-- A body drops side-channel messages when it hands them to `sideChannel`, with no effect. -/
def DropsSideChannel (body : σ → UInt8 → Int → Go (Step σ α)) : Prop :=
  ∀ (e : Env) (s : σ) (cn : Conn) (r : Bytes) (n : Backend), n.IsSideChannel →
    body s n.tag n.payload.length e { cn with rd := n.payload ++ r } = .ok (.next s) { cn with rd := r }

/-- Inserting side-channel messages keeps what the loop goes round on, and where it gets. -/
theorem Passes.sideInsert {body : σ → UInt8 → Int → Go (Step σ α)} (hd : DropsSideChannel body)
    {ms ms' : List Backend} (hi : SideInsert ms ms') :
    ∀ {s s' : σ} {cn cn' : Conn}, Passes body e s cn ms s' cn' → Passes body e s cn ms' s' cn' := by
  induction hi with
  | nil => exact id
  | keep m _ ih =>
    intro s s' cn cn' hp
    cases hp with
    | cons hm hb hrest => exact .cons hm hb (ih hrest)
  | insert hn hfit _ ih => exact fun hp => .cons hfit (fun r => hd e _ _ r _ hn) (ih hp)

end SideChannel

end GoPg
