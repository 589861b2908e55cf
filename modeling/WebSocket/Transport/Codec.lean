import WebSocket.Frame.Encoder
import WebSocket.Frame.Incoming
import WebSocket.Http.Head
import WebSocket.Transport.Inbox

/-
Reading a connection: first the head of the upgrade request, then frames.  What has been read and
not yet used is kept in a buffer, which is scanned before every further read; a scan finds the next
item, finds that there can be none, or wants more bytes.  Bytes read past an item stay for the
next one, and an item that is refused by its header stays in the buffer.
-/
namespace WebSocket

/-- What a scan of the buffer finds. -/
inductive Scan (α : Type)
  | found (item : α) (rest : Bytes)
  | refused (error : Error)
  | wanting

/-- Looks for the head of a request. -/
def scanHead (limits : Limits) (buffer : Bytes) : Scan Bytes :=
  match Http.headSize? buffer with
  | some size =>
    match limits.checkRequestSize size with
    | .ok () => .found (buffer.take size) (buffer.drop size)
    | .error e => .refused e
  | none =>
    match limits.checkRequestSize buffer.length with
    | .ok () => .wanting
    | .error e => .refused e

/-- Looks for a frame.  Its header is judged as soon as it is there. -/
def scanFrame (limits : Limits) (buffer : Bytes) : Scan Frame :=
  match FrameHeader.decode buffer with
  | .error (.incompleteFrame _) => .wanting
  | .error e => .refused e
  | .ok h =>
    match h.check limits with
    | .error e => .refused e
    | .ok () =>
      match Frame.decodeBody h buffer with
      | .ok (frame, size) => .found frame (buffer.drop size)
      | .error (.incompleteFrame _) => .wanting
      | .error e => .refused e

/-- What follows a frame that was found is shorter than the buffer. -/
theorem length_lt_of_scanFrame {limits : Limits} {buffer rest : Bytes} {frame : Frame}
    (h : scanFrame limits buffer = .found frame rest) : rest.length < buffer.length := by
  unfold scanFrame at h
  split at h
  · simp at h
  · simp at h
  · rename_i header hd
    split at h
    · simp at h
    · split at h
      · rename_i hb
        simp only [Scan.found.injEq] at h
        obtain ⟨rfl, rfl⟩ := h
        exact Frame.length_drop_lt_of_decodeBody hd hb
      · simp at h
      · simp at h

/-- What follows a head that was found is shorter than the buffer. -/
theorem length_lt_of_scanHead {limits : Limits} {buffer head rest : Bytes}
    (h : scanHead limits buffer = .found head rest) : rest.length < buffer.length := by
  unfold scanHead at h
  split at h
  · rename_i size hs
    split at h
    · simp only [Scan.found.injEq] at h
      obtain ⟨rfl, rfl⟩ := h
      have h1 := Http.headSize?_le hs
      have h2 := Http.four_le_headSize? hs
      simp only [List.length_drop]
      omega
    · simp at h
  · split at h <;> simp at h

/-- The reading side of a connection. -/
structure Codec where
  limits : Limits
  buffer : Bytes
  inbox : Inbox
deriving DecidableEq

/-- What one step of reading an item leads to. -/
inductive Reading (α : Type)
  | done (result : Except Error α) (codec : Codec)
  | more (codec : Codec)
  | waiting

namespace Codec

/-- A connection from which nothing has been read. -/
def new (limits : Limits) : Codec :=
  { limits
    buffer := []
    inbox := .empty }

/-- One step of reading an item: the item or the error that the buffer holds, else one read. -/
def step (scan : Bytes → Scan α) (c : Codec) : Reading α :=
  match scan c.buffer with
  | .found item rest => .done (.ok item) { c with buffer := rest }
  | .refused e => .done (.error e) c
  | .wanting =>
    match c.inbox.queue with
    | .bytes chunk :: queue =>
      .more { c with buffer := c.buffer ++ chunk, inbox := { c.inbox with queue } }
    | .failure failure :: queue =>
      .done (.error (.ofFailure failure)) { c with inbox := { c.inbox with queue } }
    | [] => if c.inbox.ended then .done (.error (.connectionClosed none)) c else .waiting

/-- The step that reads the head of the request. -/
def stepHead (c : Codec) : Reading Bytes :=
  c.step (scanHead c.limits)

/-- The step that reads a frame. -/
def stepFrame (c : Codec) : Reading Frame :=
  c.step (scanFrame c.limits)

/-- Reads an item from a buffer and a queue: the item or the error, unless the queue is used up
before, and what is left. -/
def readFrom (scan : Bytes → Scan α) (ended : Bool) :
    (buffer : Bytes) → (queue : List Arrival) → Option (Except Error α) × Bytes × List Arrival
  | buffer, [] =>
    match scan buffer with
    | .found item rest => (some (.ok item), rest, [])
    | .refused e => (some (.error e), buffer, [])
    | .wanting =>
      (if ended then some (.error (.connectionClosed none)) else none, buffer, [])
  | buffer, .failure failure :: queue =>
    match scan buffer with
    | .found item rest => (some (.ok item), rest, .failure failure :: queue)
    | .refused e => (some (.error e), buffer, .failure failure :: queue)
    | .wanting => (some (.error (.ofFailure failure)), buffer, queue)
  | buffer, .bytes chunk :: queue =>
    match scan buffer with
    | .found item rest => (some (.ok item), rest, .bytes chunk :: queue)
    | .refused e => (some (.error e), buffer, .bytes chunk :: queue)
    | .wanting => readFrom scan ended (buffer ++ chunk) queue

/-- Reads an item: the item or the error, or nothing if more has to arrive first. -/
def read (scan : Bytes → Scan α) (c : Codec) : Option (Except Error α) × Codec :=
  let (result, buffer, queue) := readFrom scan c.inbox.ended c.buffer c.inbox.queue
  (result, { c with buffer, inbox := { c.inbox with queue } })

/-- Reads the head of the request. -/
def readHead (c : Codec) : Option (Except Error Bytes) × Codec :=
  c.read (scanHead c.limits)

/-- Reads a frame. -/
def readFrame (c : Codec) : Option (Except Error Frame) × Codec :=
  c.read (scanFrame c.limits)

/-- The connection that a peer has closed after the given chunks. -/
def ofChunks (limits : Limits) (chunks : List Bytes) : Codec :=
  { limits
    buffer := []
    inbox := (Inbox.empty.deliver chunks).finish }

/-- The bytes that have arrived and have not been used. -/
def unread (c : Codec) : Bytes :=
  c.buffer ++ c.inbox.bytes

/-- How much is left to use: the buffer and what is queued. -/
def load (c : Codec) : Nat :=
  c.buffer.length + c.inbox.load

/-! ## Steps

A step uses up the item that it finds, and nothing else. -/

theorem step_ok {scan : Bytes → Scan α} {c next : Codec} {item : α}
    (h : c.step scan = .done (.ok item) next) :
    ∃ rest, scan c.buffer = .found item rest ∧ next = { c with buffer := rest } := by
  unfold step at h
  split at h
  · rename_i hf
    cases h
    exact ⟨_, hf, rfl⟩
  · cases h
  · split at h
    · cases h
    · cases h
    · split at h <;> cases h

/-- An error is a refusal by the scan, a failure of the connection or its end. -/
theorem step_error {scan : Bytes → Scan α} {c next : Codec} {e : Error}
    (h : c.step scan = .done (.error e) next) :
    (scan c.buffer = .refused e ∧ next = c) ∨
      (scan c.buffer = .wanting ∧ ∃ failure queue, c.inbox.queue = .failure failure :: queue ∧
        e = .ofFailure failure ∧ next = { c with inbox := { c.inbox with queue } }) ∨
      (scan c.buffer = .wanting ∧ c.inbox.queue = [] ∧ c.inbox.ended = true ∧
        e = .connectionClosed none ∧ next = c) := by
  unfold step at h
  split at h
  · cases h
  · rename_i hr
    cases h
    exact .inl ⟨hr, rfl⟩
  · rename_i hw
    split at h
    · cases h
    · rename_i hq
      cases h
      exact .inr (.inl ⟨hw, _, _, hq, rfl, rfl⟩)
    · rename_i hq
      split at h
      · rename_i he
        cases h
        exact .inr (.inr ⟨hw, hq, he, rfl, rfl⟩)
      · cases h

theorem step_more {scan : Bytes → Scan α} {c next : Codec} (h : c.step scan = .more next) :
    scan c.buffer = .wanting ∧ ∃ chunk queue, c.inbox.queue = .bytes chunk :: queue ∧
      next = { c with buffer := c.buffer ++ chunk, inbox := { c.inbox with queue } } := by
  unfold step at h
  split at h
  · cases h
  · cases h
  · rename_i hw
    split at h
    · rename_i hq
      cases h
      exact ⟨hw, _, _, hq, rfl⟩
    · cases h
    · split at h <;> cases h

theorem step_waiting {scan : Bytes → Scan α} {c : Codec} (h : c.step scan = .waiting) :
    scan c.buffer = .wanting ∧ c.inbox.queue = [] ∧ c.inbox.ended = false := by
  unfold step at h
  split at h
  · cases h
  · cases h
  · rename_i hw
    split at h
    · cases h
    · cases h
    · rename_i hq
      split at h
      · cases h
      · rename_i he
        exact ⟨hw, hq, Bool.not_eq_true _ ▸ he⟩

/-- A reading side that has read on: its inbox has lost at most what stood at the front. -/
structure Reads (c next : Codec) : Prop where
  limits : next.limits = c.limits
  ended : next.inbox.ended = c.inbox.ended
  queue : next.inbox.queue <:+ c.inbox.queue

theorem Reads.refl (c : Codec) : c.Reads c :=
  ⟨rfl, rfl, List.suffix_refl _⟩

theorem reads_of_step_done {scan : Bytes → Scan α} {c next : Codec} {r : Except Error α}
    (h : c.step scan = .done r next) : c.Reads next := by
  cases r with
  | ok item =>
    obtain ⟨rest, -, rfl⟩ := step_ok h
    exact ⟨rfl, rfl, List.suffix_refl _⟩
  | error e =>
    rcases step_error h with ⟨-, rfl⟩ | ⟨-, failure, queue, hq, -, rfl⟩ | ⟨-, -, -, -, rfl⟩
    · exact .refl _
    · exact ⟨rfl, rfl, hq ▸ List.suffix_cons _ _⟩
    · exact .refl _

theorem reads_of_step_more {scan : Bytes → Scan α} {c next : Codec}
    (h : c.step scan = .more next) : c.Reads next := by
  obtain ⟨-, chunk, queue, hq, rfl⟩ := step_more h
  exact ⟨rfl, rfl, hq ▸ List.suffix_cons _ _⟩

/-- An error leaves what is unread. -/
theorem unread_of_step_error {scan : Bytes → Scan α} {c next : Codec} {e : Error}
    (h : c.step scan = .done (.error e) next) : next.unread = c.unread := by
  rcases step_error h with ⟨-, rfl⟩ | ⟨-, failure, queue, hq, -, rfl⟩ | ⟨-, -, -, -, rfl⟩
  · rfl
  · simp [unread, Inbox.bytes, hq]
  · rfl

/-- A read moves bytes into the buffer and leaves what is unread. -/
theorem unread_of_step_more {scan : Bytes → Scan α} {c next : Codec}
    (h : c.step scan = .more next) : next.unread = c.unread := by
  obtain ⟨-, chunk, queue, hq, rfl⟩ := step_more h
  simp [unread, Inbox.bytes, hq]

/-! ## Progress

Every step of reading leaves less to use, but for an error, which may leave all of it. -/

/-- An item that is found uses up part of the buffer. -/
theorem load_lt_of_step_ok {scan : Bytes → Scan α} {c next : Codec} {item : α}
    (hs : ∀ item rest, scan c.buffer = .found item rest → rest.length < c.buffer.length)
    (h : c.step scan = .done (.ok item) next) : next.load < c.load := by
  obtain ⟨rest, hf, rfl⟩ := step_ok h
  exact Nat.add_lt_add_right (hs item rest hf) _

/-- An error adds nothing. -/
theorem load_le_of_step_error {scan : Bytes → Scan α} {c next : Codec} {e : Error}
    (h : c.step scan = .done (.error e) next) : next.load ≤ c.load := by
  rcases step_error h with ⟨-, rfl⟩ | ⟨-, failure, queue, hq, -, rfl⟩ | ⟨-, -, -, -, rfl⟩
  · exact Nat.le_refl _
  · simp [load, Inbox.load, Sequence.total, hq]
  · exact Nat.le_refl _

/-- A read makes an arrival part of the buffer. -/
theorem load_lt_of_step_more {scan : Bytes → Scan α} {c next : Codec}
    (h : c.step scan = .more next) : next.load < c.load := by
  obtain ⟨-, chunk, queue, hq, rfl⟩ := step_more h
  simp only [load, Inbox.load, hq, List.length_append, Sequence.total, Inbox.weight]
  omega

/-- An item that is read leaves less to use. -/
theorem length_lt_of_readFrom {scan : Bytes → Scan α}
    (hs : ∀ b item rest, scan b = .found item rest → rest.length < b.length) {ended : Bool}
    {buffer : Bytes} {queue : List Arrival} {item : α} {rest : Bytes} {left : List Arrival}
    (h : readFrom scan ended buffer queue = (some (.ok item), rest, left)) :
    rest.length + Sequence.total Inbox.weight left <
      buffer.length + Sequence.total Inbox.weight queue := by
  fun_induction readFrom scan ended buffer queue with
  | case1 buffer item' rest' hf =>
    cases h
    have := hs _ _ _ hf
    omega
  | case2 => cases h
  | case3 =>
    split at h <;> cases h
  | case4 buffer failure queue item' rest' hf =>
    cases h
    have := hs _ _ _ hf
    omega
  | case5 => cases h
  | case6 => cases h
  | case7 buffer chunk queue item' rest' hf =>
    cases h
    have := hs _ _ _ hf
    omega
  | case8 => cases h
  | case9 buffer chunk queue hf ih =>
    have := ih h
    simp only [List.length_append, Sequence.total, Inbox.weight] at this ⊢
    omega

theorem load_lt_of_readFrame {c next : Codec} {frame : Frame}
    (h : c.readFrame = (some (.ok frame), next)) : next.load < c.load := by
  simp only [readFrame, read, Prod.mk.injEq] at h
  obtain ⟨hr, rfl⟩ := h
  exact length_lt_of_readFrom (fun _ _ _ => length_lt_of_scanFrame) (Prod.ext hr rfl)

/-! ## All frames -/

/-- Reads frames until there is an error, or until more has to arrive first. -/
def readFrames (c : Codec) : List Frame × Option Error :=
  match _h : c.readFrame with
  | (some (.ok frame), next) =>
    let (frames, e) := next.readFrames
    (frame :: frames, e)
  | (some (.error e), _) => ([], some e)
  | (none, _) => ([], none)
termination_by c.load
decreasing_by exact load_lt_of_readFrame _h

end Codec
end WebSocket
