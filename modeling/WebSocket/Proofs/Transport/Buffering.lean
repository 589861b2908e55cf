import WebSocket.Proofs.Transport.Scan
import WebSocket.Transport.Intake

/-
How much of what a peer sends is held before it is used.  The buffer is looked at before every
read, and only a buffer that decides nothing is read on (`Codec.asks_iff`).  Such a buffer is short:
as a part of a head it is within the limit of a head, and as a part of a frame it is shorter than
the longest header and the largest payload together, because the header has been judged as soon as
it was there.  So at each of its reads a connection holds no more than that, and after the read at most
one chunk more (`Intake.buffer_of_asks`).
-/
namespace WebSocket

/-! ## Headers -/

namespace FrameHeader

theorem position_le_ten {bits length position : Nat} {d : Bytes}
    (h : readLength bits d = .ok (length, position)) : position ≤ 10 := by
  unfold readLength at h
  simp only [need_eq] at h
  split at h
  · split at h <;> cases h
    omega
  · split at h
    · split at h
      · simp only [bind, Except.bind] at h
        split at h <;> cases h
        omega
      · cases h
    · cases h
      omega

theorem length_lt_ten {bits n : Nat} {d : Bytes}
    (h : readLength bits d = .error (.incompleteFrame n)) : d.length < 10 := by
  unfold readLength at h
  simp only [need_eq] at h
  split at h
  · split at h <;> cases h
    omega
  · split at h
    · split at h
      · simp only [bind, Except.bind] at h
        split at h <;> cases h
      · omega
    · cases h

theorem size_le_of_position {masked : Bool} {position size : Nat} {key : Option MaskKey}
    {d : Bytes} (h : readKey masked position d = .ok (key, size)) : size ≤ position + 4 := by
  unfold readKey at h
  simp only [need_eq] at h
  split at h
  · split at h <;> cases h
    omega
  · cases h
    omega

theorem length_lt_of_position {masked : Bool} {position n : Nat} {d : Bytes}
    (h : readKey masked position d = .error (.incompleteFrame n)) : d.length < position + 4 := by
  unfold readKey at h
  simp only [need_eq] at h
  split at h
  · split at h <;> cases h
    omega
  · cases h

theorem size_le_fourteen {d : Bytes} {h : FrameHeader} (hd : decode d = .ok h) :
    h.size ≤ 14 := by
  match d with
  | [] => cases hd
  | [_] => cases hd
  | first :: second :: rest =>
    obtain ⟨opcode, position, -, hl, hk⟩ := decode_eq_ok hd
    have hposition := position_le_ten hl
    have hsize := size_le_of_position hk
    omega

theorem length_lt_fourteen {d : Bytes} {n : Nat} (hd : decode d = .error (.incompleteFrame n)) :
    d.length < 14 := by
  match d with
  | [] => decide
  | [_] => simp
  | first :: second :: rest =>
    simp only [decode] at hd
    cases ho : Opcode.ofValue (first &&& 0x0F).toNat with
    | error e =>
      rw [ho] at hd
      cases hd
      exact absurd ho (Opcode.decided_ofValue _ _)
    | ok opcode =>
      rw [ho] at hd
      replace hd : (readLength (second &&& 0x7F).toNat (first :: second :: rest) >>= _) = _ := hd
      cases hl : readLength (second &&& 0x7F).toNat (first :: second :: rest) with
      | error e =>
        rw [hl] at hd
        cases hd
        have := length_lt_ten hl
        omega
      | ok lengthAndPosition =>
        rw [hl] at hd
        replace hd : (readKey (bit second 0x80) lengthAndPosition.2 (first :: second :: rest) >>= _)
          = _ := hd
        cases hk : readKey (bit second 0x80) lengthAndPosition.2 (first :: second :: rest) with
        | error e =>
          rw [hk] at hd
          cases hd
          have hposition := position_le_ten hl
          have := length_lt_of_position hk
          omega
        | ok keyAndSize =>
          rw [hk] at hd
          cases hd

end FrameHeader

/-! ## Scans -/

theorem length_le_of_check {limits : Limits} {h : FrameHeader} (hc : h.check limits = .ok ()) :
    h.length ≤ limits.maxFrameSize := by
  unfold FrameHeader.check Frame.checkIncoming Limits.checkFrameSize at hc
  split at hc
  · cases hc
  split at hc
  · cases hc
  split at hc
  · cases hc
  split at hc
  · cases hc
  split at hc
  · cases hc
  · omega

/-- A frame that is incomplete behind its header lacks bytes of its payload. -/
theorem Frame.length_lt_of_decode {d : Bytes} {h : FrameHeader} {n : Nat}
    (hd : FrameHeader.decode d = .ok h) (hb : decode d = .error (.incompleteFrame n)) :
    d.length < h.size + h.length := by
  have hbody : decode d = decodeBody h d := by
    simp only [decode, hd]
    rfl
  rw [hbody, decodeBody] at hb
  split at hb
  · rename_i hlt
    rw [List.length_take, List.length_drop] at hlt
    omega
  · cases hb

/-- A scan for a frame that wants more has judged the header, if that is there. -/
theorem scanFrame_eq_wanting {limits : Limits} {d : Bytes} (h : scanFrame limits d = .wanting) :
    (∃ n, FrameHeader.decode d = .error (.incompleteFrame n)) ∨
      ∃ header, FrameHeader.decode d = .ok header ∧ header.check limits = .ok () ∧
        d.length < header.size + header.length := by
  have hs := frameScan limits d
  rw [h] at hs
  cases hs with
  | headerWanting header => exact .inl ⟨_, header⟩
  | bodyWanting header check body =>
    exact .inr ⟨_, header, check, Frame.length_lt_of_decode header body⟩

theorem length_lt_of_scanFrame_eq_wanting {limits : Limits} {d : Bytes}
    (h : scanFrame limits d = .wanting) : d.length < 14 + limits.maxFrameSize := by
  rcases scanFrame_eq_wanting h with ⟨n, hd⟩ | ⟨header, hd, hc, hlt⟩
  · have := FrameHeader.length_lt_fourteen hd
    omega
  · have hsize := FrameHeader.size_le_fourteen hd
    have hlength := length_le_of_check hc
    omega

/-! ## Reads -/

namespace Codec

variable {α : Type} {scan : Bytes → Scan α} {c next : Codec}

/-- Whether a step turns to the connection for more: if nothing had arrived, it would wait. -/
def Asks (scan : Bytes → Scan α) (c : Codec) : Prop :=
  step scan { c with inbox := .empty } = .waiting

theorem asks_iff : c.Asks scan ↔ scan c.buffer = .wanting := by
  unfold Asks step
  cases scan c.buffer <;> simp [Inbox.empty]

/-- A step that does not turn to the connection is the same whatever has arrived, and leaves it. -/
theorem exists_step_of_not_asks (h : ¬ c.Asks scan) :
    ∃ result buffer, ∀ inbox,
      step scan { c with inbox } = .done result { c with buffer, inbox } := by
  rw [asks_iff] at h
  cases hs : scan c.buffer with
  | wanting => exact absurd hs h
  | found item rest => exact ⟨.ok item, rest, fun inbox => by simp [step, hs]⟩
  | refused e => exact ⟨.error e, c.buffer, fun inbox => by simp [step, hs]⟩

/-- A reading side that has read on: it holds no more than before, or one chunk more, for which it
has asked. -/
structure Advances (scan : Bytes → Scan α) (c next : Codec) : Prop where
  reads : c.Reads next
  buffer : next.buffer.length ≤ c.buffer.length ∨
    c.Asks scan ∧ ∃ chunk, .bytes chunk ∈ c.inbox.queue ∧ next.buffer = c.buffer ++ chunk
  inbox : ¬ c.Asks scan → next.inbox = c.inbox

theorem Advances.refl (scan : Bytes → Scan α) (c : Codec) : c.Advances scan c :=
  ⟨.refl c, .inl (Nat.le_refl _), fun _ => rfl⟩

theorem advances_of_step_done {r : Except Error α}
    (hscan : ∀ item rest, scan c.buffer = .found item rest → rest.length < c.buffer.length)
    (h : c.step scan = .done r next) : c.Advances scan next := by
  refine ⟨reads_of_step_done h, .inl ?_, fun hasks => ?_⟩
  · cases r with
    | ok item =>
      obtain ⟨rest, hfound, rfl⟩ := step_ok h
      exact Nat.le_of_lt (hscan item rest hfound)
    | error e =>
      rcases step_error h with ⟨-, rfl⟩ | ⟨-, failure, queue, -, -, rfl⟩ | ⟨-, -, -, -, rfl⟩ <;>
        exact Nat.le_refl _
  · obtain ⟨result, buffer, hstep⟩ := exists_step_of_not_asks hasks
    rw [hstep c.inbox] at h
    cases h
    rfl

theorem advances_of_step_more (h : c.step scan = .more next) : c.Advances scan next := by
  obtain ⟨hwanting, chunk, queue, hq, rfl⟩ := step_more h
  have hasks : c.Asks scan := asks_iff.mpr hwanting
  refine ⟨reads_of_step_more h, .inr ⟨hasks, chunk, ?_, rfl⟩, fun hnot => absurd hasks hnot⟩
  rw [hq]
  exact List.mem_cons_self

end Codec

namespace Intake

/-- Nothing has been read yet of what has arrived, which may be all that will. -/
def start (limits : Limits) (inbox : Inbox) : Intake :=
  { codec := { limits, buffer := [], inbox }
    head := none
    frames := [] }

/-- Whether the next step turns to the connection for more. -/
def Asks (i : Intake) : Prop :=
  match i.head with
  | none => i.codec.Asks (scanHead i.codec.limits)
  | some _ => i.codec.Asks (scanFrame i.codec.limits)

/-- The most that the buffer holds when a step turns to the connection for more. -/
def room (limits : Limits) : Nat :=
  max limits.maxRequestSize (13 + limits.maxFrameSize)

variable {i : Intake} {limits : Limits} {most : Nat}

theorem length_le_of_asks_head (hhead : i.head = none) (h : i.Asks) :
    i.codec.buffer.length ≤ i.codec.limits.maxRequestSize := by
  simp only [Asks, hhead] at h
  exact (scanHead_eq_wanting_iff.mp (Codec.asks_iff.mp h)).2

theorem scanFrame_of_asks (hhead : i.head ≠ none) (h : i.Asks) :
    scanFrame i.codec.limits i.codec.buffer = .wanting := by
  obtain ⟨head, hsome⟩ := Option.ne_none_iff_exists'.mp hhead
  simp only [Asks, hsome] at h
  exact Codec.asks_iff.mp h

theorem length_le_room (h : i.Asks) : i.codec.buffer.length ≤ room i.codec.limits := by
  unfold room
  by_cases hhead : i.head = none
  · have hlength := length_le_of_asks_head hhead h
    omega
  · have hlength := length_lt_of_scanFrame_eq_wanting (scanFrame_of_asks hhead h)
    omega

/-! ## Steps -/

theorem advance_cases (i : Intake) :
    ∃ α, ∃ scan : Bytes → Scan α, (i.Asks ↔ i.codec.Asks scan) ∧
      i.codec.Advances scan i.advance.codec := by
  unfold advance Asks
  cases i.head with
  | none =>
    have hscan : ∀ head rest, scanHead i.codec.limits i.codec.buffer = .found head rest →
        rest.length < i.codec.buffer.length := fun _ _ => length_lt_of_scanHead
    refine ⟨_, scanHead i.codec.limits, Iff.rfl, ?_⟩
    simp only
    split <;> rename_i hread
    · exact Codec.advances_of_step_done hscan hread
    · exact Codec.advances_of_step_done hscan hread
    · exact Codec.advances_of_step_more hread
    · exact .refl _ _
  | some head =>
    have hscan : ∀ frame rest, scanFrame i.codec.limits i.codec.buffer = .found frame rest →
        rest.length < i.codec.buffer.length := fun _ _ => length_lt_of_scanFrame
    refine ⟨_, scanFrame i.codec.limits, Iff.rfl, ?_⟩
    simp only
    split <;> rename_i hread
    · exact Codec.advances_of_step_done hscan hread
    · exact Codec.advances_of_step_done hscan hread
    · exact Codec.advances_of_step_more hread
    · exact .refl _ _

theorem inbox_advance (h : ¬ i.Asks) : i.advance.codec.inbox = i.codec.inbox := by
  obtain ⟨α, scan, hasks, hadvances⟩ := i.advance_cases
  exact hadvances.inbox fun hscan => h (hasks.mpr hscan)

theorem limits_advanceBy (i : Intake) (steps : Nat) :
    (i.advanceBy steps).codec.limits = i.codec.limits := by
  induction steps generalizing i with
  | zero => rfl
  | succ steps ih =>
    obtain ⟨α, scan, -, hadvances⟩ := i.advance_cases
    exact (ih i.advance).trans hadvances.reads.limits

/-- What arrives comes in chunks of at most `most` bytes, and the buffer exceeds the room that a
read may start from by no more than one of them. -/
structure Holds (most : Nat) (i : Intake) : Prop where
  chunks : ∀ chunk, .bytes chunk ∈ i.codec.inbox.queue → chunk.length ≤ most
  buffer : i.codec.buffer.length ≤ room i.codec.limits + most

theorem Holds.advance (h : i.Holds most) : i.advance.Holds most := by
  obtain ⟨α, scan, hasks, hreads, hbuffer, -⟩ := i.advance_cases
  refine ⟨fun chunk hchunk => h.chunks chunk (hreads.queue.mem hchunk), ?_⟩
  rw [hreads.limits]
  -- the buffer grows only where a step asks, and there it is within the room
  rcases hbuffer with hle | ⟨hscan, chunk, hmem, heq⟩
  · exact Nat.le_trans hle h.buffer
  · have hroom := length_le_room (hasks.mpr hscan)
    have hchunk := h.chunks chunk hmem
    rw [heq, List.length_append]
    omega

theorem Holds.advanceBy (h : i.Holds most) (steps : Nat) : (i.advanceBy steps).Holds most := by
  induction steps generalizing i with
  | zero => exact h
  | succ steps ih => exact ih h.advance

/-! ## Whole runs -/

theorem length_buffer_le (limits : Limits) {inbox : Inbox}
    (h : ∀ chunk, .bytes chunk ∈ inbox.queue → chunk.length ≤ most) (steps : Nat) :
    ((start limits inbox).advanceBy steps).codec.buffer.length ≤ room limits + most := by
  have hstart : (start limits inbox).Holds most := ⟨h, Nat.zero_le _⟩
  have hbuffer := (hstart.advanceBy steps).buffer
  rwa [limits_advanceBy] at hbuffer

/-- Whenever a step turns to the connection for more, the buffer is within the limit of a head, or
shorter than a header and a payload within their limits; then the header is not there yet, or it has
passed the check and the payload is not whole.  No other step takes anything of what arrives, so that
the buffer never exceeds these bounds by more than a chunk. -/
theorem buffer_of_asks (limits : Limits) (inbox : Inbox) (steps : Nat) :
    let i := (start limits inbox).advanceBy steps
    (i.Asks → i.head = none → i.codec.buffer.length ≤ limits.maxRequestSize) ∧
      (i.Asks → i.head ≠ none → i.codec.buffer.length < 14 + limits.maxFrameSize ∧
        ((∃ n, FrameHeader.decode i.codec.buffer = .error (.incompleteFrame n)) ∨
          ∃ header, FrameHeader.decode i.codec.buffer = .ok header ∧
            header.check limits = .ok () ∧
              i.codec.buffer.length < header.size + header.length)) ∧
        (¬ i.Asks → i.advance.codec.inbox = i.codec.inbox) ∧
          ∀ most, (∀ chunk, .bytes chunk ∈ inbox.queue → chunk.length ≤ most) →
            i.codec.buffer.length ≤ max limits.maxRequestSize (13 + limits.maxFrameSize) + most := by
  intro i
  have hlimits : i.codec.limits = limits := limits_advanceBy (start limits inbox) steps
  refine ⟨fun hasks hhead => ?_, fun hasks hhead => ?_, inbox_advance,
    fun most hchunks => length_buffer_le limits hchunks steps⟩
  · rw [← hlimits]
    exact length_le_of_asks_head hhead hasks
  · have hscan := scanFrame_of_asks hhead hasks
    rw [hlimits] at hscan
    exact ⟨length_lt_of_scanFrame_eq_wanting hscan, scanFrame_eq_wanting hscan⟩

/-- Two bytes of a frame have come along with the head, and the rest of its header is asked for. -/
theorem buffer_of_asks_pipelined :
    let limits : Limits := { maxFrameSize := 4, maxRequestSize := 64 }
    let chunks := [Bytes.ofText "GET / HTTP/1.1\r\n", Bytes.ofText "\r\n" ++ [0x81, 0x85]]
    let i := (ofChunks limits chunks).advanceBy 3
    i.Asks ∧ i.head ≠ none ∧ i.codec.buffer.length < 18 := by
  intro limits chunks i
  have hasks : i.Asks := by rfl
  have hhead : i.head ≠ none := by decide
  exact ⟨hasks, hhead, ((buffer_of_asks limits _ 3).2.1 hasks hhead).1⟩

end Intake
end WebSocket
