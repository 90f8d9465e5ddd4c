import GoPg.Startup

/-!
# The request writers against the spec's message layouts

The spec's RequestWriter table gives each outbound message its fields and its layout.
`Frontend` is that list of messages, `Frontend.encode` their layout with the length that counts
itself and the body, and `decodeRequests` and `decodeUntagged` the parsers a server applies
to them. The round trip `decodeRequests (encodeAll ms) = some ms` holds for messages whose
strings have no NUL and whose length fits the signed 32-bit length field.

The writers of `messages.go` are then shown to append exactly the encoding of their
messages. `WriteBuffer` is modelled from the spec, so everything here rests on its
back-patching discipline.
-/

namespace GoPg

/-! ## The buffer discipline -/

namespace WriteBuffer

variable (buf : WriteBuffer)

/-- Appending adds the bytes at the end. -/
@[simp] theorem append_bytes (b : Bytes) : (buf.append b).bytes = buf.bytes ++ b := rfl

/-- Two appends are one. -/
@[simp] theorem append_append (a b : Bytes) : (buf.append a).append b = buf.append (a ++ b) := by
  simp [append]

/-- `WriteString` appends the string and its NUL. -/
@[simp] theorem writeString_eq (s : Bytes) : buf.writeString s = buf.append (cstr s) := rfl

/-- `WriteByte` appends the byte. -/
@[simp] theorem writeByte_eq (c : UInt8) : buf.writeByte c = buf.append [c] := rfl

/-- `WriteInt16` appends the value's low sixteen bits, high byte first. -/
@[simp] theorem writeInt16_eq (n : Int) : buf.writeInt16 n = buf.append (putUint16 (uint16 n)) := rfl

/-- `WriteInt32` appends the value's low 32 bits, high byte first. -/
@[simp] theorem writeInt32_eq (n : Int) : buf.writeInt32 n = buf.append (putUint32 (uint32 n)) := rfl

/-- `Write` appends the bytes. -/
@[simp] theorem write_eq (b : Bytes) : buf.write b = buf.append b := rfl

/-- `FinishMessage` over the placeholder `StartMessage` wrote. -/
theorem patch32_placeholder (p b : Bytes) (v : Nat) :
    patch32 (p ++ [0, 0, 0, 0] ++ b) p.length v = p ++ putUint32 v ++ b := by
  simp [patch32, List.take_append_eq_append_take, List.drop_append_eq_append_drop]

/-- Appending keeps the position of the length field. -/
@[simp] theorem append_lenAt (b : Bytes) : (buf.append b).lenAt = buf.lenAt := rfl

/-- `StartMessage` of a tag appends the tag and a zero length placeholder. -/
theorem startMessage_bytes {c : UInt8} (hc : c ≠ 0) :
    (buf.startMessage c).bytes = buf.bytes ++ [c, 0, 0, 0, 0] := by
  simp [startMessage, hc]

/-- `StartMessage` of a tag puts the length field right after the tag. -/
theorem startMessage_lenAt {c : UInt8} (hc : c ≠ 0) :
    (buf.startMessage c).lenAt = buf.bytes.length + 1 := by
  simp [startMessage, hc]

/-- `Reset` right after `StartMessage` gives back the bytes before the message. -/
theorem startMessage_reset (c : UInt8) : (buf.startMessage c).reset.bytes = buf.bytes := by
  unfold startMessage reset
  split <;> simp

/-- `FinishMessage` after whatever kept the length field where `StartMessage` put it. -/
theorem finishMessage_of_placeholder {buf' : WriteBuffer} {c : UInt8} {b : Bytes}
    (hb : buf'.bytes = buf.bytes ++ [c, 0, 0, 0, 0] ++ b) (hl : buf'.lenAt = buf.bytes.length + 1) :
    buf'.finishMessage.bytes = buf.bytes ++ frame c b := by
  have h := patch32_placeholder (buf.bytes ++ [c]) b (b.length + 4)
  simp only [List.length_append, List.length_singleton, List.append_assoc, List.singleton_append,
    List.cons_append, List.nil_append] at h hb
  simp only [finishMessage, hb, hl, frame, List.length_append, List.length_cons, List.length_nil,
    List.cons_append, List.nil_append]
  convert h using 2
  omega

/-- A tagged message: the tag, then the length counting itself and the body, then the body. -/
theorem finishMessage_tagged {c : UInt8} (hc : c ≠ 0) (b : Bytes) :
    ((buf.startMessage c).append b).finishMessage.bytes = buf.bytes ++ frame c b :=
  finishMessage_of_placeholder buf (by simp [startMessage_bytes _ hc])
    (by simp [startMessage_lenAt _ hc])

/-- A tagged message without a body. -/
theorem finishMessage_tagged_nil {c : UInt8} (hc : c ≠ 0) :
    (buf.startMessage c).finishMessage.bytes = buf.bytes ++ frame c [] := by
  simpa [append] using finishMessage_tagged buf hc []

/-- A message without a tag: the length counting itself and the body, then the body. -/
theorem finishMessage_untagged (b : Bytes) :
    ((buf.startMessage 0).append b).finishMessage.bytes =
      buf.bytes ++ putUint32 (b.length + 4) ++ b := by
  have h := patch32_placeholder buf.bytes b (b.length + 4)
  simp only [finishMessage, startMessage, append, if_true, eq_self_iff_true]
  convert h using 2
  simp

end WriteBuffer

/-! ## The messages and their layouts -/

/-- Modelled from the spec: the requests the writers compose, with the fields of the spec's
RequestWriter table. -/
inductive Frontend
  | startup (params : List (Bytes × Bytes))
  | sslRequest
  | cancelRequest (processId secretKey : Int)
  | password (password : Bytes)
  | query (sqlText : Bytes)
  | parse (stmtName sqlText : Bytes)
  | describe (stmtName : Bytes)
  | sync
  | flush
  | bind (stmtName : Bytes) (params : List (Option Bytes))
  | execute
  | close (stmtName : Bytes)
  | copyData (data : Bytes)
  | copyDone
  | terminate
  deriving DecidableEq, Repr

namespace Frontend

/-- The tag, for the messages that have one. -/
def tag? : Frontend → Option UInt8
  | startup _ | sslRequest | cancelRequest .. => none
  | password _ => some passwordMessageMsg
  | query _ => some queryMsg
  | parse .. => some parseMsg
  | describe _ => some describeMsg
  | sync => some syncMsg
  | flush => some flushMsg
  | bind .. => some bindMsg
  | execute => some executeMsg
  | close _ => some closeMsg
  | copyData _ => some copyDataMsg
  | copyDone => some copyDoneMsg
  | terminate => some terminateMsg

/-- One parameter of Bind: its length and its bytes, or length `-1` for `NULL`. -/
def paramValue : Option Bytes → Bytes
  | some v => putUint32 v.length ++ v
  | none => putUint32 (uint32 (-1))

/-- The body, laid out as the table says. -/
def body : Frontend → Bytes
  | startup params => putUint32 196608 ++ params.flatMap (fun p => cstr p.1 ++ cstr p.2) ++ [0]
  | sslRequest => putUint32 80877103
  | cancelRequest pid key => putUint32 80877102 ++ putUint32 (uint32 pid) ++ putUint32 (uint32 key)
  | password p => cstr p
  | query q => cstr q
  | parse name q => cstr name ++ cstr q ++ putUint16 0
  | describe name => 'S'.toUInt8 :: cstr name
  | sync | flush | copyDone | terminate => []
  | bind name params =>
    cstr [] ++ cstr name ++ putUint16 0 ++ putUint16 params.length ++ params.flatMap paramValue ++
      putUint16 0
  | execute => cstr [] ++ putUint32 0
  | close name => 'S'.toUInt8 :: cstr name
  | copyData data => data

/-- The message on the wire: its tag if it has one, its length, which counts itself and the
body, and the body. -/
def encode (m : Frontend) : Bytes :=
  match m.tag? with
  | some t => frame t m.body
  | none => putUint32 (m.body.length + 4) ++ m.body

/-- Messages one after another. -/
def encodeAll (ms : List Frontend) : Bytes := ms.flatMap encode

/-- The fields can be laid out as the table says: strings without NUL, non-empty parameter
names, the process key in `int32` and a parameter count in the 16 bits the server reads
unsigned. -/
def FieldsOk : Frontend → Prop
  | startup params => ∀ p ∈ params, p.1 ≠ [] ∧ 0 ∉ p.1 ∧ 0 ∉ p.2
  | cancelRequest pid key => -2 ^ 31 ≤ pid ∧ pid < 2 ^ 31 ∧ -2 ^ 31 ≤ key ∧ key < 2 ^ 31
  | password s | query s | describe s | close s => 0 ∉ s
  | parse name q => 0 ∉ name ∧ 0 ∉ q
  | bind name params => 0 ∉ name ∧ params.length < 2 ^ 16
  | sslRequest | sync | flush | execute | copyData _ | copyDone | terminate => True

/-- A message the layout can carry: its fields, and a length that fits the signed 32-bit
length field. -/
structure WellFormed (m : Frontend) : Prop where
  fields : m.FieldsOk
  fits : m.body.length + 4 < 2 ^ 31

/-- Whether the fields can be laid out is decided. -/
instance (m : Frontend) : Decidable m.FieldsOk :=
  match m with
  | startup params => inferInstanceAs (Decidable (∀ p ∈ params, p.1 ≠ [] ∧ 0 ∉ p.1 ∧ 0 ∉ p.2))
  | cancelRequest pid key =>
    inferInstanceAs (Decidable (-2 ^ 31 ≤ pid ∧ pid < 2 ^ 31 ∧ -2 ^ 31 ≤ key ∧ key < 2 ^ 31))
  | password s | query s | describe s | close s => inferInstanceAs (Decidable (0 ∉ s))
  | parse name q => inferInstanceAs (Decidable (0 ∉ name ∧ 0 ∉ q))
  | bind name params => inferInstanceAs (Decidable (0 ∉ name ∧ params.length < 2 ^ 16))
  | sslRequest | sync | flush | execute | copyData _ | copyDone | terminate =>
    inferInstanceAs (Decidable True)

/-- Whether the layout can carry a message is decided. -/
instance (m : Frontend) : Decidable m.WellFormed :=
  decidable_of_iff (m.FieldsOk ∧ m.body.length + 4 < 2 ^ 31)
    ⟨fun h => ⟨h.1, h.2⟩, fun h => ⟨h.fields, h.fits⟩⟩

end Frontend

/-! ## The server's parsers, after the spec's message layouts -/

/-- `n` parameters of Bind, each its length and its bytes or length `-1`, and what follows
them. -/
def decodeValues : Nat → Bytes → Option (List (Option Bytes) × Bytes)
  | 0, b => some ([], b)
  | n + 1, b =>
    let l := toInt32 (beUint (b.take 4))
    if 4 ≤ b.length ∧ l = -1 then (decodeValues n (b.drop 4)).map fun p => (none :: p.1, p.2)
    else if 4 ≤ b.length ∧ 0 ≤ l ∧ l.toNat ≤ b.length - 4 then
      (decodeValues n ((b.drop 4).drop l.toNat)).map
        fun p => (some ((b.drop 4).take l.toNat) :: p.1, p.2)
    else none

/-- The body of a tagged message, laid out as the table says for its tag, and nothing after
it. -/
def decodeBody (t : UInt8) (b : Bytes) : Option Frontend :=
  if t = passwordMessageMsg then
    match splitNul b with
    | some (p, []) => some (.password p)
    | _ => none
  else if t = queryMsg then
    match splitNul b with
    | some (q, []) => some (.query q)
    | _ => none
  else if t = parseMsg then
    match splitNul b with
    | some (name, r) =>
      match splitNul r with
      | some (q, [0, 0]) => some (.parse name q)
      | _ => none
    | none => none
  else if t = describeMsg ∨ t = closeMsg then
    match b with
    | k :: r =>
      if k = 'S'.toUInt8 then
        match splitNul r with
        | some (name, []) => some (if t = describeMsg then .describe name else .close name)
        | _ => none
      else none
    | [] => none
  else if t = syncMsg ∧ b = [] then some .sync
  else if t = flushMsg ∧ b = [] then some .flush
  else if t = bindMsg then
    match splitNul b with
    | some ([], r) =>
      match splitNul r with
      | some (name, r') =>
        if r'.take 2 = [0, 0] then
          match decodeValues (beUint ((r'.drop 2).take 2)) (r'.drop 4) with
          | some (params, [0, 0]) => some (.bind name params)
          | _ => none
        else none
      | none => none
    | _ => none
  else if t = executeMsg then
    match splitNul b with
    | some ([], r) => if r.length = 4 ∧ toInt32 (beUint r) = 0 then some .execute else none
    | _ => none
  else if t = copyDataMsg then some (.copyData b)
  else if t = copyDoneMsg ∧ b = [] then some .copyDone
  else if t = terminateMsg ∧ b = [] then some .terminate
  else none

/-- Tagged messages one after another, each as long as its length field says, with at most
`fuel` of them. -/
def decodeTagged : Nat → Bytes → Option (List Frontend)
  | _, [] => some []
  | 0, _ :: _ => none
  | fuel + 1, t :: rest =>
    let l := toInt32 (beUint (rest.take 4))
    if 4 ≤ rest.length ∧ 4 ≤ l ∧ (l - 4).toNat ≤ rest.length - 4 then
      match decodeBody t ((rest.drop 4).take (l - 4).toNat) with
      | some m => (decodeTagged fuel ((rest.drop 4).drop (l - 4).toNat)).map (m :: ·)
      | none => none
    else none

/-- The tagged messages in `b`, which must be all of it. -/
def decodeRequests (b : Bytes) : Option (List Frontend) := decodeTagged b.length b

/-- The parameters of a StartupMessage: name and value pairs up to the empty name, which ends
the message. -/
def decodeParams : Nat → Bytes → Option (List (Bytes × Bytes))
  | 0, _ => none
  | fuel + 1, b =>
    match splitNul b with
    | some (k, r) =>
      if k = [] then (if r = [] then some [] else none)
      else
        match splitNul r with
        | some (v, r') => (decodeParams fuel r').map ((k, v) :: ·)
        | none => none
    | none => none

/-- A message without a tag, which must be all of `b`: StartupMessage, SSLRequest or
CancelRequest, told apart by their code. -/
def decodeUntagged (b : Bytes) : Option Frontend :=
  if 8 ≤ toInt32 (beUint (b.take 4)) ∧ (b.length : Int) = toInt32 (beUint (b.take 4)) then
    let body := b.drop 4
    if beUint (body.take 4) = 196608 then (decodeParams body.length (body.drop 4)).map .startup
    else if beUint (body.take 4) = 80877103 ∧ body.length = 4 then some .sslRequest
    else if beUint (body.take 4) = 80877102 ∧ body.length = 12 then
      some (.cancelRequest (toInt32 (beUint ((body.drop 4).take 4))) (toInt32 (beUint (body.drop 8))))
    else none
  else none

/-! ## Round trips -/

section RoundTrip

/-- A zero count is two zero bytes. -/
@[simp] theorem putUint16_zero : putUint16 0 = [0, 0] := rfl

/-- A length that fits the signed field is read back as itself. -/
theorem toInt32_beUint_putUint32 {n : Nat} (h : n < 2 ^ 31) : toInt32 (beUint (putUint32 n)) = n := by
  rw [beUint_putUint32, Nat.mod_eq_of_lt (by omega), toInt32, if_pos h]

/-- Bind's parameter values, each shorter than the signed length field, parse back with what follows
them. -/
theorem decodeValues_values {params : List (Option Bytes)}
    (hp : ∀ v, some v ∈ params → v.length < 2 ^ 31) (r : Bytes) :
    decodeValues params.length (params.flatMap Frontend.paramValue ++ r) = some (params, r) := by
  induction params with
  | nil => rfl
  | cons p params ih =>
    have hrest := ih (fun v hv => hp v (List.mem_cons_of_mem _ hv))
    rw [List.length_cons, List.flatMap_cons, decodeValues.eq_2, List.append_assoc]
    cases p with
    | none =>
      have hnull : toInt32 (beUint (putUint32 (uint32 (-1)))) = -1 := by decide
      simp only [Frontend.paramValue, List.take_left' (putUint32_length _), hnull,
        List.drop_left' (putUint32_length _), hrest]
      rw [if_pos (by simp)]
      rfl
    | some v =>
      have hv := toInt32_beUint_putUint32 (hp v (List.mem_cons_self _ _))
      simp only [Frontend.paramValue, List.append_assoc, List.take_left' (putUint32_length _), hv,
        List.drop_left' (putUint32_length _)]
      rw [if_neg (by omega), if_pos ⟨by simp, by omega, by simp⟩, Int.toNat_natCast,
        List.take_left, List.drop_left, hrest]
      rfl

/-- A Bind that fits its length field has values that fit theirs. -/
theorem Frontend.value_lt_of_fits {name : Bytes} {params : List (Option Bytes)}
    (h : (Frontend.bind name params).body.length + 4 < 2 ^ 31) (v : Bytes) (hv : some v ∈ params) :
    v.length < 2 ^ 31 := by
  have hle : (Frontend.paramValue (some v)).length ≤ (params.flatMap Frontend.paramValue).length :=
    (List.sublist_flatten_of_mem (List.mem_map_of_mem _ hv)).length_le
  simp only [Frontend.body, Frontend.paramValue, List.length_append] at h hle
  omega

/-- A Bind with fewer than `2 ^ 16` parameters whose values fit parses back. -/
theorem decodeBody_bind {name : Bytes} {params : List (Option Bytes)} (hn : 0 ∉ name)
    (hc : params.length < 2 ^ 16) (hp : ∀ v, some v ∈ params → v.length < 2 ^ 31) :
    decodeBody bindMsg (Frontend.bind name params).body = some (.bind name params) := by
  have hcount : beUint (putUint16 params.length) = params.length := by
    rw [beUint_putUint16]; omega
  simp +decide [decodeBody, Frontend.body, cstr, splitNul_cstr hn, splitNul,
    List.take_left' (putUint16_length _), List.drop_left' (putUint16_length _), hcount,
    decodeValues_values hp]

/-- A Bind's body: the portal, the name, the two counts, the values and the result format
count. -/
theorem Frontend.body_bind_length (name : Bytes) (params : List (Option Bytes)) :
    (Frontend.bind name params).body.length =
      name.length + 8 + (params.flatMap Frontend.paramValue).length := by
  simp [Frontend.body, cstr]
  omega

/-- With `2 ^ 16` parameters the count field wraps to zero: the parser takes no parameter
values, and the bytes of the values are left where the result format count should be. -/
theorem decodeBody_bind_wrapped {name : Bytes} {params : List (Option Bytes)} (hn : 0 ∉ name)
    (hc : params.length = 2 ^ 16) : decodeBody bindMsg (Frontend.bind name params).body = none := by
  obtain ⟨p, ps, rfl⟩ : ∃ p ps, params = p :: ps :=
    List.exists_cons_of_ne_nil (by rintro rfl; simp at hc)
  have hcount : beUint (putUint16 (ps.length + 1)) = 0 := by
    rw [beUint_putUint16]; simp only [List.length_cons] at hc; omega
  cases p <;> simp +decide [decodeBody, Frontend.body, cstr, splitNul_cstr hn, splitNul, hcount,
    decodeValues, Frontend.paramValue, putUint32]

/-- The body of a tagged message the layout can carry parses back as the message. -/
theorem decodeBody_body {m : Frontend} {t : UInt8} (ht : m.tag? = some t) (hm : m.WellFormed) :
    decodeBody t m.body = some m := by
  have hf := hm.fields
  cases m <;> simp only [Frontend.tag?, Option.some.injEq, reduceCtorEq] at ht <;> subst ht <;>
    simp only [Frontend.FieldsOk] at hf
  case bind name params => exact decodeBody_bind hf.1 hf.2 (Frontend.value_lt_of_fits hm.fits)
  all_goals simp +decide [decodeBody, Frontend.body, cstr, splitNul_cstr, hf]

/-- A header whose length field says `l`: the decoder takes the `l - 4` bytes after it as the
body, and goes on after them. -/
theorem decodeTagged_header {fuel : Nat} {t : UInt8} {len rest : Bytes} {l : Int}
    (hlen : len.length = 4) (hl : toInt32 (beUint len) = l) (h4 : 4 ≤ l)
    (hfit : (l - 4).toNat ≤ rest.length) :
    decodeTagged (fuel + 1) (t :: (len ++ rest)) =
      (decodeBody t (rest.take (l - 4).toNat)).bind fun m =>
        (decodeTagged fuel (rest.drop (l - 4).toNat)).map (m :: ·) := by
  rw [decodeTagged.eq_3, List.take_left' hlen, hl, if_pos ⟨by simp; omega, h4, by simp [hlen]; omega⟩,
    List.drop_left' hlen]
  cases decodeBody t (rest.take (l - 4).toNat) <;> rfl

/-- One tagged message at the front: its body is decoded, then the rest. -/
theorem decodeTagged_frame {fuel : Nat} {t : UInt8} {b : Bytes} (rest : Bytes)
    (hb : b.length + 4 < 2 ^ 31) :
    decodeTagged (fuel + 1) (frame t b ++ rest) =
      (decodeBody t b).bind fun m => (decodeTagged fuel rest).map (m :: ·) := by
  have hk : ((↑(b.length + 4) : Int) - 4).toNat = b.length := by omega
  rw [frame, List.cons_append, List.cons_append, List.append_assoc,
    decodeTagged_header (putUint32_length _) (toInt32_beUint_putUint32 hb) (by omega)
      (by simp only [hk, List.length_append]; omega), hk, List.take_left, List.drop_left]

/-- Tagged messages the layout can carry parse back, given fuel for each. -/
theorem decodeTagged_encodeAll {ms : List Frontend}
    (hms : ∀ m ∈ ms, m.tag?.isSome ∧ m.WellFormed) :
    ∀ {fuel : Nat}, ms.length ≤ fuel → decodeTagged fuel (Frontend.encodeAll ms) = some ms := by
  induction ms with
  | nil => intro fuel _; cases fuel <;> rfl
  | cons m ms ih =>
    rintro (_ | fuel) hf
    · simp at hf
    obtain ⟨hsome, hwf⟩ := hms m (List.mem_cons_self _ _)
    obtain ⟨t, ht⟩ := Option.isSome_iff_exists.mp hsome
    have henc : Frontend.encodeAll (m :: ms) = frame t m.body ++ Frontend.encodeAll ms := by
      simp [Frontend.encodeAll, Frontend.encode, ht]
    rw [henc, decodeTagged_frame _ hwf.fits, decodeBody_body ht hwf, Option.some_bind,
      ih (fun m hm => hms m (List.mem_cons_of_mem _ hm)) (by simp at hf; omega)]
    rfl

/-- Every tagged message takes at least its five header bytes. -/
theorem length_le_encodeAll {ms : List Frontend} (hms : ∀ m ∈ ms, m.tag?.isSome) :
    ms.length ≤ (Frontend.encodeAll ms).length := by
  induction ms with
  | nil => simp
  | cons m ms ih =>
    obtain ⟨t, ht⟩ := Option.isSome_iff_exists.mp (hms m (List.mem_cons_self _ _))
    have := ih (fun m hm => hms m (List.mem_cons_of_mem _ hm))
    simp [Frontend.encodeAll, Frontend.encode, ht] at this ⊢
    omega

/-- Tagged messages that the layout can carry parse back as themselves. -/
theorem decodeRequests_encodeAll {ms : List Frontend}
    (hms : ∀ m ∈ ms, m.tag?.isSome ∧ m.WellFormed) :
    decodeRequests (Frontend.encodeAll ms) = some ms :=
  decodeTagged_encodeAll hms (length_le_encodeAll fun m hm => (hms m hm).1)

/-- A StartupMessage's parameters with non-empty names parse back, given fuel for each. -/
theorem decodeParams_params {params : List (Bytes × Bytes)}
    (hp : ∀ p ∈ params, p.1 ≠ [] ∧ 0 ∉ p.1 ∧ 0 ∉ p.2) :
    ∀ {fuel : Nat}, params.length < fuel →
      decodeParams fuel (params.flatMap (fun p => cstr p.1 ++ cstr p.2) ++ [0]) = some params := by
  induction params with
  | nil => rintro (_ | fuel) hf; · simp at hf
           · simp [decodeParams, splitNul]
  | cons p params ih =>
    rintro (_ | fuel) hf
    · simp at hf
    obtain ⟨hne, hk, hv⟩ := hp p (List.mem_cons_self _ _)
    have hrest := @ih (fun p hm => hp p (List.mem_cons_of_mem _ hm)) fuel (by simp at hf; omega)
    simp only [List.flatMap_cons, cstr, List.append_assoc, List.singleton_append] at hrest ⊢
    simp [decodeParams, splitNul_cstr hk, splitNul_cstr hv, hne, hrest]

/-- Each parameter takes at least one byte. -/
theorem length_le_params (params : List (Bytes × Bytes)) :
    params.length ≤ (params.flatMap fun p => cstr p.1 ++ cstr p.2).length := by
  induction params with
  | nil => simp
  | cons p params ih =>
    have : 1 ≤ (cstr p.1 ++ cstr p.2).length := by simp [cstr]; omega
    rw [List.flatMap_cons, List.length_append, List.length_cons]
    omega

/-- The length field of an untagged message, read back: what is left is told apart by its
code. -/
theorem decodeUntagged_header {b : Bytes} (h4 : 4 ≤ b.length) (hb : b.length + 4 < 2 ^ 31) :
    decodeUntagged (putUint32 (b.length + 4) ++ b) =
      if beUint (b.take 4) = 196608 then (decodeParams b.length (b.drop 4)).map .startup
      else if beUint (b.take 4) = 80877103 ∧ b.length = 4 then some .sslRequest
      else if beUint (b.take 4) = 80877102 ∧ b.length = 12 then
        some (.cancelRequest (toInt32 (beUint ((b.drop 4).take 4))) (toInt32 (beUint (b.drop 8))))
      else none := by
  rw [decodeUntagged, List.take_left' (putUint32_length _), toInt32_beUint_putUint32 hb,
    if_pos (by simp; omega), List.drop_left' (putUint32_length _)]

/-- StartupMessage and CancelRequest parse back as themselves. -/
theorem decodeUntagged_encode {m : Frontend} (hm : m.tag? = none) (hwf : m.WellFormed) :
    decodeUntagged m.encode = some m := by
  have hfits := hwf.fits
  have hfields := hwf.fields
  cases m <;> simp only [Frontend.tag?, reduceCtorEq] at hm <;>
    simp only [Frontend.encode, Frontend.tag?] <;> rw [decodeUntagged_header (by simp [Frontend.body]) hfits]
  case startup params =>
    have hp := @decodeParams_params params hfields (Frontend.startup params).body.length
      (by simp only [Frontend.body, List.length_append, putUint32_length, List.length_singleton]
          have := length_le_params params; omega)
    simp only [Frontend.body, List.append_assoc, List.take_left' (putUint32_length _),
      List.drop_left' (putUint32_length _), beUint_putUint32] at hp ⊢
    rw [if_pos (by decide), hp]
    rfl
  case cancelRequest pid key =>
    obtain ⟨hp₀, hp₁, hk₀, hk₁⟩ := hfields
    have h8 : ∀ a b c, List.drop 8 (putUint32 a ++ (putUint32 b ++ putUint32 c)) = putUint32 c :=
      fun _ _ _ => rfl
    simp only [Frontend.body, h8, List.append_assoc, List.take_left' (putUint32_length _),
      List.drop_left' (putUint32_length _), beUint_putUint32, toInt32_uint32 hp₀ hp₁,
      toInt32_uint32 hk₀ hk₁]
    rw [if_neg (by decide), if_neg (fun h => absurd h.1 (by decide)), if_pos ⟨by decide, rfl⟩]
  case sslRequest => rfl

end RoundTrip

/-! ## What the writers append -/

section Writers

variable (buf : WriteBuffer)

namespace Frontend

/-- No messages lay out as no bytes. -/
@[simp] theorem encodeAll_nil : encodeAll [] = [] := rfl

/-- A message, then the others. -/
@[simp] theorem encodeAll_cons (m : Frontend) (ms : List Frontend) :
    encodeAll (m :: ms) = m.encode ++ encodeAll ms := rfl

/-- A tagged message on the wire: its tag, then its length and body. -/
theorem encode_tagged {m : Frontend} {t : UInt8} (ht : m.tag? = some t) : m.encode = frame t m.body := by
  simp [encode, ht]

end Frontend

/-- `writeStartupMsg` appends the StartupMessage of the user and the database. -/
theorem writeStartupMsg_bytes (user database : Bytes) :
    (writeStartupMsg buf user database).bytes =
      buf.bytes ++ (Frontend.startup [(ascii "user", user), (ascii "database", database)]).encode := by
  simp only [writeStartupMsg, WriteBuffer.writeInt32_eq, WriteBuffer.writeString_eq,
    WriteBuffer.append_append, WriteBuffer.finishMessage_untagged]
  simp [Frontend.encode, Frontend.tag?, Frontend.body, cstr, uint32]

/-- `writeCancelRequestMsg` appends the CancelRequest of the key. -/
theorem writeCancelRequestMsg_bytes (processId secretKey : Int) :
    (writeCancelRequestMsg buf processId secretKey).bytes =
      buf.bytes ++ (Frontend.cancelRequest processId secretKey).encode := by
  simp only [writeCancelRequestMsg, WriteBuffer.writeInt32_eq, WriteBuffer.append_append,
    WriteBuffer.finishMessage_untagged]
  simp [Frontend.encode, Frontend.tag?, Frontend.body, uint32]

/-- `writePasswordMsg` appends the PasswordMessage. -/
theorem writePasswordMsg_bytes (password : Bytes) :
    (writePasswordMsg buf password).bytes = buf.bytes ++ Frontend.encodeAll [.password password] := by
  simp [writePasswordMsg, WriteBuffer.finishMessage_tagged buf (by decide : passwordMessageMsg ≠ 0),
    Frontend.encode, Frontend.tag?, Frontend.body]

/-- When `appendQuery` appends the query text, `writeQueryMsg` appends the Query message of it. -/
theorem writeQueryMsg_ok {appendQuery : Bytes → Except Err Bytes} {sqlText : Bytes}
    (hq : ∀ dst, appendQuery dst = .ok (dst ++ sqlText)) :
    (writeQueryMsg buf appendQuery).2 = none ∧
      (writeQueryMsg buf appendQuery).1.bytes = buf.bytes ++ Frontend.encodeAll [.query sqlText] := by
  refine ⟨by simp [writeQueryMsg, hq], ?_⟩
  have h := WriteBuffer.finishMessage_tagged buf (by decide : queryMsg ≠ 0) (cstr sqlText)
  simp only [writeQueryMsg, hq, WriteBuffer.writeByte_eq]
  simp [WriteBuffer.append, cstr] at h ⊢
  simp [h, Frontend.encode, Frontend.tag?, Frontend.body, cstr]

/-- When `appendQuery` fails, because a `QueryAppender` returned an error or the query has a
type it cannot append, `writeQueryMsg` returns that error and the buffer holds exactly the bytes
it held before: no part of the Query message is left. -/
theorem writeQueryMsg_error (formatQuery : Bytes → Bytes → Bytes) (query : QueryArg) {err : Err}
    (h : appendQuery formatQuery query (buf.startMessage queryMsg).bytes = .error err) :
    (writeQueryMsg buf (appendQuery formatQuery query)).2 = some err ∧
      (writeQueryMsg buf (appendQuery formatQuery query)).1.bytes = buf.bytes := by
  simp [writeQueryMsg, h, WriteBuffer.startMessage_reset]

/-- A query of a type `appendQuery` does not know, written after a finished Sync. -/
theorem writeQueryMsg_unsupported :
    appendQuery (fun dst _ => dst) (.other (ascii "int"))
        ((writeSyncMsg .empty).startMessage queryMsg).bytes =
      .error (.errorf "pg: can\x27t append %T" [.str (ascii "int")]) ∧
    (writeQueryMsg (writeSyncMsg .empty) (appendQuery (fun dst _ => dst) (.other (ascii "int")))).2 =
      some (.errorf "pg: can\x27t append %T" [.str (ascii "int")]) ∧
    (writeQueryMsg (writeSyncMsg .empty)
      (appendQuery (fun dst _ => dst) (.other (ascii "int")))).1.bytes = (writeSyncMsg .empty).bytes :=
  ⟨rfl, writeQueryMsg_error (writeSyncMsg .empty) (fun dst _ => dst) (.other (ascii "int")) rfl⟩

/-- `writeParseDescribeSyncMsg` appends Parse, Describe and Sync. -/
theorem writeParseDescribeSyncMsg_bytes (stmtName sqlText : Bytes) :
    (writeParseDescribeSyncMsg buf stmtName sqlText).bytes =
      buf.bytes ++ Frontend.encodeAll [.parse stmtName sqlText, .describe stmtName, .sync] := by
  simp only [writeParseDescribeSyncMsg, writeSyncMsg, WriteBuffer.writeString_eq,
    WriteBuffer.writeInt16_eq, WriteBuffer.writeByte_eq, WriteBuffer.append_append]
  rw [WriteBuffer.finishMessage_tagged_nil _ (by decide : syncMsg ≠ 0),
    WriteBuffer.finishMessage_tagged _ (by decide : describeMsg ≠ 0),
    WriteBuffer.finishMessage_tagged _ (by decide : parseMsg ≠ 0)]
  simp [Frontend.encode, Frontend.tag?, Frontend.body, uint16]

/-- `writeCloseMsg` appends the Close of the statement. -/
theorem writeCloseMsg_bytes (stmtName : Bytes) :
    (writeCloseMsg buf stmtName).bytes = buf.bytes ++ Frontend.encodeAll [.close stmtName] := by
  simp only [writeCloseMsg, WriteBuffer.writeString_eq, WriteBuffer.writeByte_eq,
    WriteBuffer.append_append, WriteBuffer.finishMessage_tagged _ (by decide : closeMsg ≠ 0)]
  simp [Frontend.encode, Frontend.tag?, Frontend.body]

/-- `writeSyncMsg` appends Sync. -/
theorem writeSyncMsg_bytes : (writeSyncMsg buf).bytes = buf.bytes ++ Frontend.encodeAll [.sync] := by
  simp [writeSyncMsg, WriteBuffer.finishMessage_tagged_nil _ (by decide : syncMsg ≠ 0),
    Frontend.encode, Frontend.tag?, Frontend.body]

/-- `writeFlushMsg` appends Flush. -/
theorem writeFlushMsg_bytes : (writeFlushMsg buf).bytes = buf.bytes ++ Frontend.encodeAll [.flush] := by
  simp [writeFlushMsg, WriteBuffer.finishMessage_tagged_nil _ (by decide : flushMsg ≠ 0),
    Frontend.encode, Frontend.tag?, Frontend.body]

/-- `writeCopyDone` appends CopyDone. -/
theorem writeCopyDone_bytes : (writeCopyDone buf).bytes = buf.bytes ++ Frontend.encodeAll [.copyDone] := by
  simp [writeCopyDone, WriteBuffer.finishMessage_tagged_nil _ (by decide : copyDoneMsg ≠ 0),
    Frontend.encode, Frontend.tag?, Frontend.body]

/-- A pass of the parameter loop appends the parameter's layout and keeps the message's length
field where it was. -/
theorem writeParam_bytes (param : Option Bytes) :
    (writeParam buf param).bytes = buf.bytes ++ Frontend.paramValue param ∧
      (writeParam buf param).lenAt = buf.lenAt := by
  refine ⟨?_, by cases param <;> rfl⟩
  cases param with
  | some v =>
    have hlen : (buf.bytes ++ [0, 0, 0, 0] ++ v).length - buf.bytes.length - 4 = v.length := by
      simp only [List.length_append, List.length_cons, List.length_nil]; omega
    simp only [writeParam, WriteBuffer.startParam, WriteBuffer.append, WriteBuffer.finishParam]
    rw [hlen, WriteBuffer.patch32_placeholder, Frontend.paramValue, List.append_assoc]
  | none =>
    simpa using WriteBuffer.patch32_placeholder buf.bytes [] (uint32 (-1))

/-- The parameter loop appends each parameter's layout in order and keeps the message's length field
where it was. -/
theorem foldl_writeParam_bytes (params : List (Option Bytes)) :
    ∀ buf : WriteBuffer, (params.foldl writeParam buf).bytes =
      buf.bytes ++ params.flatMap Frontend.paramValue ∧ (params.foldl writeParam buf).lenAt = buf.lenAt := by
  induction params with
  | nil => simp
  | cons p params ih =>
    intro buf
    obtain ⟨hb, hl⟩ := ih (writeParam buf p)
    obtain ⟨hb', hl'⟩ := writeParam_bytes buf p
    simp only [List.foldl_cons, List.flatMap_cons, hb, hb', hl, hl', List.append_assoc, and_self]

/-- `PutUint16` keeps only the low sixteen bits. -/
theorem putUint16_uint16 (n : Nat) : putUint16 (uint16 n) = putUint16 n := by
  simp only [putUint16, uint16, List.cons.injEq, and_true]
  exact ⟨uint8_ext (by simp; omega), uint8_ext (by simp; omega)⟩

/-- `writeBindExecuteMsg` appends Bind, Execute and Sync. -/
theorem writeBindExecuteMsg_bytes (stmtName : Bytes) (params : List (Option Bytes)) :
    (writeBindExecuteMsg buf stmtName params).bytes =
      buf.bytes ++ Frontend.encodeAll [.bind stmtName params, .execute, .sync] := by
  have hB : bindMsg ≠ 0 := by decide
  obtain ⟨hb, hl⟩ := foldl_writeParam_bytes params ((buf.startMessage bindMsg).append
    (cstr [] ++ cstr stmtName ++ putUint16 (uint16 0) ++ putUint16 (uint16 params.length)))
  have hbind : ((params.foldl writeParam ((buf.startMessage bindMsg).append
      (cstr [] ++ cstr stmtName ++ putUint16 (uint16 0) ++ putUint16 (uint16 params.length)))).append
        (putUint16 (uint16 0))).finishMessage.bytes = buf.bytes ++ frame bindMsg
      (cstr [] ++ cstr stmtName ++ putUint16 (uint16 0) ++ putUint16 (uint16 params.length) ++
        params.flatMap Frontend.paramValue ++ putUint16 (uint16 0)) :=
    WriteBuffer.finishMessage_of_placeholder buf
      (by rw [WriteBuffer.append_bytes, hb, WriteBuffer.append_bytes,
        WriteBuffer.startMessage_bytes _ hB]; simp)
      (by rw [WriteBuffer.append_lenAt, hl, WriteBuffer.append_lenAt,
        WriteBuffer.startMessage_lenAt _ hB])
  simp only [writeBindExecuteMsg, writeSyncMsg, WriteBuffer.writeString_eq,
    WriteBuffer.writeInt16_eq, WriteBuffer.writeInt32_eq, WriteBuffer.append_append]
  rw [WriteBuffer.finishMessage_tagged_nil _ (by decide : syncMsg ≠ 0),
    WriteBuffer.finishMessage_tagged _ (by decide : executeMsg ≠ 0), hbind]
  simp [Frontend.encode, Frontend.tag?, Frontend.body, putUint16_uint16, uint32,
    show uint16 0 = 0 from rfl]

end Writers

/-! ## The writers against the layouts -/

/-- `buf'` is `buf` with the tagged messages `ms` appended and nothing else, and the server's
parser reads those bytes back as `ms`. -/
def AppendsRequests (buf buf' : WriteBuffer) (ms : List Frontend) : Prop :=
  buf'.bytes = buf.bytes ++ Frontend.encodeAll ms ∧ decodeRequests (Frontend.encodeAll ms) = some ms

/-- The same for a message without a tag. -/
def AppendsUntagged (buf buf' : WriteBuffer) (m : Frontend) : Prop :=
  buf'.bytes = buf.bytes ++ m.encode ∧ decodeUntagged m.encode = some m

/-- The StartupMessage `writeStartupMsg` composes. -/
def startupRequest (user database : Bytes) : Frontend :=
  .startup [(ascii "user", user), (ascii "database", database)]

/-- Bytes appended as the layout of messages it can carry are read back. -/
theorem appendsRequests_of_bytes {buf buf' : WriteBuffer} {ms : List Frontend}
    (h : buf'.bytes = buf.bytes ++ Frontend.encodeAll ms)
    (hms : ∀ m ∈ ms, m.tag?.isSome ∧ m.WellFormed) : AppendsRequests buf buf' ms :=
  ⟨h, decodeRequests_encodeAll hms⟩

/-- Every request writer appends the layout of its messages with the fields it was given and
nothing else, and the server's parser reads them back, for fields without NUL whose messages'
lengths fit the signed 32-bit length field. -/
theorem requestWriters_roundTrip (buf : WriteBuffer) :
    (∀ user database, (startupRequest user database).WellFormed →
      AppendsUntagged buf (writeStartupMsg buf user database) (startupRequest user database)) ∧
    (∀ processId secretKey, (Frontend.cancelRequest processId secretKey).WellFormed →
      AppendsUntagged buf (writeCancelRequestMsg buf processId secretKey)
        (.cancelRequest processId secretKey)) ∧
    (∀ password, (Frontend.password password).WellFormed →
      AppendsRequests buf (writePasswordMsg buf password) [.password password]) ∧
    (∀ appendQuery sqlText, (∀ dst, appendQuery dst = .ok (dst ++ sqlText)) →
      (Frontend.query sqlText).WellFormed →
      (writeQueryMsg buf appendQuery).2 = none ∧
        AppendsRequests buf (writeQueryMsg buf appendQuery).1 [.query sqlText]) ∧
    (∀ stmtName sqlText, (Frontend.parse stmtName sqlText).WellFormed →
      (Frontend.describe stmtName).WellFormed →
      AppendsRequests buf (writeParseDescribeSyncMsg buf stmtName sqlText)
        [.parse stmtName sqlText, .describe stmtName, .sync]) ∧
    (∀ stmtName, (Frontend.close stmtName).WellFormed →
      AppendsRequests buf (writeCloseMsg buf stmtName) [.close stmtName]) ∧
    AppendsRequests buf (writeSyncMsg buf) [.sync] ∧
    AppendsRequests buf (writeFlushMsg buf) [.flush] ∧
    AppendsRequests buf (writeCopyDone buf) [.copyDone] := by
  refine ⟨fun user database h => ⟨writeStartupMsg_bytes buf user database,
      decodeUntagged_encode rfl h⟩,
    fun pid key h => ⟨writeCancelRequestMsg_bytes buf pid key, decodeUntagged_encode rfl h⟩,
    fun password h => appendsRequests_of_bytes (writePasswordMsg_bytes buf password) ?_,
    fun appendQuery sqlText hq h => ⟨(writeQueryMsg_ok buf hq).1,
      appendsRequests_of_bytes (writeQueryMsg_ok buf hq).2 ?_⟩,
    fun stmtName sqlText hp hd =>
      appendsRequests_of_bytes (writeParseDescribeSyncMsg_bytes buf stmtName sqlText) ?_,
    fun stmtName h => appendsRequests_of_bytes (writeCloseMsg_bytes buf stmtName) ?_,
    appendsRequests_of_bytes (writeSyncMsg_bytes buf) ?_,
    appendsRequests_of_bytes (writeFlushMsg_bytes buf) ?_,
    appendsRequests_of_bytes (writeCopyDone_bytes buf) ?_⟩ <;>
  simp only [List.forall_mem_cons, List.forall_mem_singleton, List.not_mem_nil, false_imp_iff,
    implies_true, and_true] <;>
  first
  | exact ⟨rfl, h⟩
  | exact ⟨⟨rfl, hp⟩, ⟨rfl, hd⟩, rfl, by decide⟩
  | exact ⟨rfl, by decide⟩

/-- Bind, Execute and Sync as `writeBindExecuteMsg` appends them, and they parse back. -/
theorem writeBindExecuteMsg_appends (buf : WriteBuffer) (stmtName : Bytes) (params : List (Option Bytes))
    (h : (Frontend.bind stmtName params).WellFormed) :
    AppendsRequests buf (writeBindExecuteMsg buf stmtName params) [.bind stmtName params, .execute, .sync] :=
  appendsRequests_of_bytes (writeBindExecuteMsg_bytes buf stmtName params) <| by
    simp only [List.forall_mem_cons, List.forall_mem_singleton, List.not_mem_nil, false_imp_iff,
      implies_true, and_true]
    exact ⟨⟨rfl, h⟩, ⟨rfl, by decide⟩, rfl, by decide⟩

/-- A Bind with `2 ^ 16` parameters does not parse, whatever follows it. -/
theorem decodeRequests_bind_wrapped {name : Bytes} {params : List (Option Bytes)} (hn : 0 ∉ name)
    (hc : params.length = 2 ^ 16) (hfit : (Frontend.bind name params).body.length + 4 < 2 ^ 31)
    (rest : List Frontend) : decodeRequests (Frontend.encodeAll (.bind name params :: rest)) = none := by
  rw [Frontend.encodeAll_cons, Frontend.encode_tagged (m := .bind name params) (t := bindMsg) rfl]
  obtain ⟨k, hk⟩ : ∃ k,
      (frame bindMsg (Frontend.bind name params).body ++ Frontend.encodeAll rest).length = k + 1 :=
    ⟨_, rfl⟩
  rw [decodeRequests, hk, decodeTagged_frame _ hfit, decodeBody_bind_wrapped hn hc]
  rfl

/-- For a statement name without NUL, fewer than `2 ^ 16` parameters and a Bind whose length fits
the length field, `writeBindExecuteMsg` appends Bind, Execute and Sync laid out as the spec says,
which parse back into exactly those messages; the parameter count it writes as `int16`, read
unsigned as the server reads it, is the number of parameters. -/
theorem writeBindExecuteMsg_roundTrip (buf : WriteBuffer) (stmtName : Bytes)
    (params : List (Option Bytes)) (h : (Frontend.bind stmtName params).WellFormed) :
    AppendsRequests buf (writeBindExecuteMsg buf stmtName params)
        [.bind stmtName params, .execute, .sync] ∧
      beUint (putUint16 (uint16 params.length)) = params.length :=
  ⟨writeBindExecuteMsg_appends buf stmtName params h, by
    rw [putUint16_uint16, beUint_putUint16]; exact Nat.mod_eq_of_lt h.fields.2⟩

/-- A Bind of a value and a `NULL` on a named statement. -/
theorem writeBindExecuteMsg_valueAndNull :
    (Frontend.bind (ascii "s1") [some [49], none]).WellFormed ∧
      AppendsRequests WriteBuffer.empty (writeBindExecuteMsg WriteBuffer.empty (ascii "s1") [some [49], none])
        [.bind (ascii "s1") [some [49], none], .execute, .sync] ∧
      beUint (putUint16 (uint16 ([some [49], none] : List (Option Bytes)).length)) = 2 :=
  have h : (Frontend.bind (ascii "s1") [some [49], none]).WellFormed := by decide
  ⟨h, writeBindExecuteMsg_roundTrip _ _ _ h⟩

/-- `2 ^ 16` parameters: the count `int16(len(params))` writes reads back as 0, and the bytes
`writeBindExecuteMsg` appends do not parse. -/
theorem writeBindExecuteMsg_wrapsCount :
    beUint (putUint16 (uint16 (List.replicate (2 ^ 16) (none : Option Bytes)).length)) = 0 ∧
      decodeRequests (writeBindExecuteMsg WriteBuffer.empty [] (List.replicate (2 ^ 16) none)).bytes =
        none := by
  have hnull : ∀ n, ((List.replicate n (none : Option Bytes)).flatMap Frontend.paramValue).length =
      4 * n := by
    intro n
    induction n with
    | zero => rfl
    | succ n ih =>
      rw [List.replicate_succ, List.flatMap_cons, List.length_append, ih, Frontend.paramValue,
        putUint32_length]
      omega
  have hfit : (Frontend.bind [] (List.replicate (2 ^ 16) none)).body.length + 4 < 2 ^ 31 := by
    rw [Frontend.body_bind_length, hnull, List.length_nil]
    decide
  refine ⟨by rw [List.length_replicate]; rfl, ?_⟩
  rw [writeBindExecuteMsg_bytes]
  show decodeRequests ([] ++ _) = none
  rw [List.nil_append]
  exact decodeRequests_bind_wrapped (by decide) (List.length_replicate _ _) hfit _

/-- The composite request on a named statement: the three messages parse back. -/
theorem writeParseDescribeSyncMsg_roundTrip :
    (Frontend.parse (ascii "s1") (ascii "SELECT 1")).WellFormed ∧
      (Frontend.describe (ascii "s1")).WellFormed ∧
      AppendsRequests WriteBuffer.empty
        (writeParseDescribeSyncMsg WriteBuffer.empty (ascii "s1") (ascii "SELECT 1"))
        [.parse (ascii "s1") (ascii "SELECT 1"), .describe (ascii "s1"), .sync] :=
  have hp : (Frontend.parse (ascii "s1") (ascii "SELECT 1")).WellFormed := by decide
  have hd : (Frontend.describe (ascii "s1")).WellFormed := by decide
  ⟨hp, hd, (requestWriters_roundTrip WriteBuffer.empty).2.2.2.2.1 _ _ hp hd⟩

/-- A password of `2 ^ 32` bytes: `FinishMessage` writes the length modulo `2 ^ 32`, so the
length field says 5, and the bytes `writePasswordMsg` appends do not parse. -/
theorem writePasswordMsg_overlong :
    0 ∉ List.replicate (2 ^ 32) (65 : UInt8) ∧
      decodeRequests (writePasswordMsg WriteBuffer.empty (List.replicate (2 ^ 32) 65)).bytes = none := by
  have hlen : (cstr (List.replicate (2 ^ 32) (65 : UInt8))).length = 2 ^ 32 + 1 := by
    rw [cstr, List.length_append, List.length_replicate]
    rfl
  have hl : toInt32 (beUint (putUint32 ((cstr (List.replicate (2 ^ 32) (65 : UInt8))).length + 4))) =
      (5 : Int) := by
    rw [beUint_putUint32, hlen]
    rfl
  have htake : (cstr (List.replicate (2 ^ 32) (65 : UInt8))).take 1 = [65] := by
    rw [cstr, List.take_append_of_le_length (by rw [List.length_replicate]; decide),
      List.take_replicate]
    rfl
  have henc : WriteBuffer.empty.bytes ++ Frontend.encodeAll [.password (List.replicate (2 ^ 32) 65)] =
      passwordMessageMsg :: (putUint32 ((cstr (List.replicate (2 ^ 32) (65 : UInt8))).length + 4) ++
        cstr (List.replicate (2 ^ 32) 65)) := by
    rw [Frontend.encodeAll_cons, Frontend.encodeAll_nil, List.append_nil,
      Frontend.encode_tagged (m := .password _) (t := passwordMessageMsg) rfl, Frontend.body, frame,
      List.cons_append]
    exact List.nil_append _
  refine ⟨fun h => absurd (List.eq_of_mem_replicate h) (by decide), ?_⟩
  rw [writePasswordMsg_bytes, decodeRequests, henc, List.length_cons,
    decodeTagged_header (putUint32_length _) hl (by decide) (by rw [hlen]; decide),
    show ((5 : Int) - 4).toNat = 1 from rfl, htake]
  rfl

end GoPg
