import Mathlib.Data.List.Forall2
import WebSocket.Proofs.Transport.Scan
import WebSocket.Transport.Intake

/-
Reading does not depend on how a stream is cut into chunks, and loses nothing of it.

A read takes chunks until its scan decides (`readFrom_cases`).  As the scans are persistent, what
is decided on the chunks taken is what is decided on the whole stream, so a read finds what a scan
of all unread bytes finds (`read_of_found`, `read_of_refused`, `read_of_wanting`), and the frames
that are read one after the other are those of the stream (`readFrames_eq`).  What is read, step by
step, together with the buffer and what has not arrived makes up the stream (`Intake.Whole`).
-/
namespace WebSocket
namespace Codec

variable {α : Type} {alike : Error → Error → Prop} {scan : Bytes → Scan α}

/-! ## One read -/

/-- What a read gives when its scan of a buffer has come out and a queue is left. -/
def conclude (ended : Bool) (buffer : Bytes) (queue : List Arrival) :
    Scan α → Option (Except Error α) × Bytes × List Arrival
  | .found item rest => (some (.ok item), rest, queue)
  | .refused e => (some (.error e), buffer, queue)
  | .wanting => (if ended then some (.error (.connectionClosed none)) else none, buffer, queue)

/-- A read takes chunks until the scan decides, or until there is none left. -/
theorem readFrom_cases (scan : Bytes → Scan α) (ended : Bool) (buffer : Bytes)
    (chunks : List Bytes) :
    ∃ taken left, taken ++ left = chunks ∧
      (scan (buffer ++ taken.flatten) = .wanting → left = []) ∧
        readFrom scan ended buffer (chunks.map .bytes) =
          conclude ended (buffer ++ taken.flatten) (left.map .bytes)
            (scan (buffer ++ taken.flatten)) := by
  induction chunks generalizing buffer with
  | nil =>
    refine ⟨[], [], rfl, fun _ => rfl, ?_⟩
    rw [List.flatten_nil, List.append_nil, List.map_nil, readFrom]
    cases scan buffer <;> rfl
  | cons chunk chunks ih =>
    cases hs : scan buffer with
    | wanting =>
      obtain ⟨taken, left, hsplit, hleft, hread⟩ := ih (buffer ++ chunk)
      refine ⟨chunk :: taken, left, by rw [← hsplit, List.cons_append], ?_, ?_⟩
      · rw [List.flatten_cons, ← List.append_assoc]
        exact hleft
      · rw [List.flatten_cons, ← List.append_assoc, ← hread, List.map_cons, readFrom, hs]
    | found item rest =>
      refine ⟨[], chunk :: chunks, rfl, ?_, ?_⟩
      · rw [List.flatten_nil, List.append_nil, hs]
        intro h
        cases h
      · rw [List.flatten_nil, List.append_nil, hs, List.map_cons, readFrom, hs]
        rfl
    | refused e =>
      refine ⟨[], chunk :: chunks, rfl, ?_, ?_⟩
      · rw [List.flatten_nil, List.append_nil, hs]
        intro h
        cases h
      · rw [List.flatten_nil, List.append_nil, hs, List.map_cons, readFrom, hs]
        rfl

/-- A read goes on by steps until one of them is the last. -/
theorem read_eq_step (scan : Bytes → Scan α) (c : Codec) :
    c.read scan =
      match c.step scan with
      | .done r next => (some r, next)
      | .more next => next.read scan
      | .waiting => (none, c) := by
  obtain ⟨limits, buffer, queue, ended⟩ := c
  match queue with
  | [] =>
    simp only [read, readFrom, step]
    cases scan buffer <;> cases ended <;> rfl
  | .failure failure :: queue =>
    simp only [read, readFrom, step]
    cases scan buffer <;> rfl
  | .bytes chunk :: queue =>
    simp only [read, readFrom, step]
    cases scan buffer <;> rfl

/-- The peer has closed a connection, and no read of it will fail. -/
structure Closed (c : Codec) : Prop where
  ended : c.inbox.ended = true
  bytes : ∃ chunks, c.inbox.queue = List.map Arrival.bytes chunks

theorem closed_ofChunks (limits : Limits) (chunks : List Bytes) :
    (ofChunks limits chunks).Closed where
  ended := rfl
  bytes := ⟨_, rfl⟩

theorem unread_ofChunks (limits : Limits) (chunks : List Bytes) :
    (ofChunks limits chunks).unread = chunks.flatten := by
  rw [unread, ofChunks, Inbox.bytes_finish, Inbox.bytes_deliver]
  rfl

/-- A read of a closed connection comes out as the scan of some of the unread bytes, of all of them
if that scan wants more. -/
theorem read_cases {c : Codec} (hc : c.Closed) (scan : Bytes → Scan α) :
    ∃ seen unseen, c.unread = seen ++ unseen ∧ (scan seen = .wanting → unseen = []) ∧
      ∃ next, next.Closed ∧ next.limits = c.limits ∧ next.inbox.bytes = unseen ∧
        match scan seen with
        | .found item rest => c.read scan = (some (.ok item), next) ∧ next.buffer = rest
        | .refused e => c.read scan = (some (.error e), next) ∧ next.buffer = seen
        | .wanting =>
          c.read scan = (some (.error (.connectionClosed none)), next) ∧ next.buffer = seen := by
  obtain ⟨limits, buffer, queue, ended⟩ := c
  obtain ⟨hended, chunks, hq⟩ := hc
  simp only at hended hq
  subst hended hq
  obtain ⟨taken, left, hsplit, hleft, hread⟩ := readFrom_cases scan true buffer chunks
  refine ⟨buffer ++ taken.flatten, left.flatten, ?_, fun h => ?_, ?_⟩
  · rw [unread, Inbox.bytes_map_bytes, ← hsplit, List.flatten_append, List.append_assoc]
  · rw [hleft h, List.flatten_nil]
  · simp only [read, hread]
    cases scan (buffer ++ taken.flatten) with
    | found item rest =>
      exact ⟨⟨limits, rest, left.map .bytes, true⟩, ⟨rfl, left, rfl⟩, rfl,
        Inbox.bytes_map_bytes .., rfl, rfl⟩
    | refused e =>
      exact ⟨⟨limits, buffer ++ taken.flatten, left.map .bytes, true⟩, ⟨rfl, left, rfl⟩, rfl,
        Inbox.bytes_map_bytes .., rfl, rfl⟩
    | wanting =>
      exact ⟨⟨limits, buffer ++ taken.flatten, left.map .bytes, true⟩, ⟨rfl, left, rfl⟩, rfl,
        Inbox.bytes_map_bytes .., rfl, rfl⟩

/-- An item at the front of the unread bytes is read, and the bytes behind it stay unread. -/
theorem read_of_found {c : Codec} (hc : c.Closed) (hp : Persistent alike scan) {item : α}
    {rest : Bytes} (h : scan c.unread = .found item rest) :
    ∃ next, c.read scan = (some (.ok item), next) ∧ next.Closed ∧ next.limits = c.limits ∧
      next.unread = rest := by
  obtain ⟨seen, unseen, hsplit, hall, next, hnext, hlimits, hbytes, hread⟩ := read_cases hc scan
  rw [hsplit] at h
  cases hs : scan seen with
  | found item' rest' =>
    rw [hs] at hread
    rw [hp.found hs] at h
    cases h
    exact ⟨next, hread.1, hnext, hlimits, by rw [unread, hread.2, hbytes]⟩
  | refused e =>
    obtain ⟨other, ho, -⟩ := hp.refused hs unseen
    rw [ho] at h
    cases h
  | wanting =>
    rw [hall hs, List.append_nil, hs] at h
    cases h

/-- A refusal of the unread bytes is what a read of them comes to, at the latest when all of them
have been taken. -/
theorem read_of_refused {c : Codec} (hc : c.Closed) (hp : Persistent alike scan) {e : Error}
    (h : scan c.unread = .refused e) :
    ∃ other next, c.read scan = (some (.error other), next) ∧ (other = e ∨ alike other e) := by
  obtain ⟨seen, unseen, hsplit, hall, next, -, -, -, hread⟩ := read_cases hc scan
  rw [hsplit] at h
  cases hs : scan seen with
  | found item rest =>
    rw [hp.found hs] at h
    cases h
  | refused other =>
    rw [hs] at hread
    obtain ⟨last, hl, halike⟩ := hp.refused hs unseen
    rw [hl] at h
    cases h
    exact ⟨other, next, hread.1, .inr halike⟩
  | wanting =>
    rw [hall hs, List.append_nil, hs] at h
    cases h

/-- A read that never finds enough comes to the end of the connection. -/
theorem read_of_wanting {c : Codec} (hc : c.Closed) (hp : Persistent alike scan)
    (h : scan c.unread = .wanting) :
    ∃ next, c.read scan = (some (.error (.connectionClosed none)), next) := by
  obtain ⟨seen, unseen, hsplit, hall, next, -, -, -, hread⟩ := read_cases hc scan
  rw [hsplit] at h
  cases hs : scan seen with
  | found item rest =>
    rw [hp.found hs] at h
    cases h
  | refused e =>
    obtain ⟨other, ho, -⟩ := hp.refused hs unseen
    rw [ho] at h
    cases h
  | wanting =>
    rw [hs] at hread
    exact ⟨next, hread.1⟩

/-! ## All frames -/

/-- The frames that are read from a closed connection, and what ends them, are those of the unread
bytes. -/
theorem readFrames_eq {c : Codec} (hc : c.Closed) :
    c.readFrames =
      ((Frame.ofStream c.limits c.unread).1, some (Frame.ofStream c.limits c.unread).2) := by
  have hp := persistent_scanFrame c.limits
  cases hs : scanFrame c.limits c.unread with
  | found frame rest =>
    obtain ⟨next, hread, hnext, hlimits, hunread⟩ := read_of_found hc hp hs
    replace hread : c.readFrame = (some (.ok frame), next) := hread
    have hless := load_lt_of_readFrame hread
    rw [readFrames]
    split
    · rename_i he
      rw [hread] at he
      cases he
      rw [readFrames_eq hnext, hlimits, hunread, Frame.ofStream_of_found hs]
    · rename_i he
      rw [hread] at he
      cases he
    · rename_i he
      rw [hread] at he
      cases he
  | refused e =>
    obtain ⟨other, next, hread, ho⟩ := read_of_refused hc hp hs
    have hoe : other = e := ho.elim id id
    subst hoe
    replace hread : c.readFrame = (some (.error other), next) := hread
    rw [readFrames, Frame.ofStream_of_refused hs]
    split <;> rename_i he <;> rw [hread] at he <;> cases he
    rfl
  | wanting =>
    obtain ⟨next, hread⟩ := read_of_wanting hc hp hs
    replace hread : c.readFrame = (some (.error (.connectionClosed none)), next) := hread
    rw [readFrames, Frame.ofStream_of_wanting hs]
    split <;> rename_i he <;> rw [hread] at he <;> cases he
    rfl
termination_by c.load

/-- A read fails because the scan refuses, because the connection does, or at its end. -/
theorem error_of_readFrom {ended : Bool} {buffer rest : Bytes} {queue left : List Arrival}
    {e : Error} (h : readFrom scan ended buffer queue = (some (.error e), rest, left)) :
    (∃ d, scan d = .refused e) ∨ (∃ failure, e = .ofFailure failure) ∨
      e = .connectionClosed none := by
  fun_induction readFrom scan ended buffer queue with
  | case1 => cases h
  | case2 _ _ hs =>
    cases h
    exact .inl ⟨_, hs⟩
  | case3 =>
    split at h <;> cases h
    exact .inr (.inr rfl)
  | case4 => cases h
  | case5 _ _ _ _ hs =>
    cases h
    exact .inl ⟨_, hs⟩
  | case6 _ failure =>
    cases h
    exact .inr (.inl ⟨failure, rfl⟩)
  | case7 => cases h
  | case8 _ _ _ _ hs =>
    cases h
    exact .inl ⟨_, hs⟩
  | case9 _ _ _ _ ih => exact ih h

/-- A read finds what its scan finds in the buffer that it has come to. -/
theorem found_of_readFrom {ended : Bool} {buffer rest : Bytes} {queue left : List Arrival}
    {item : α} (h : readFrom scan ended buffer queue = (some (.ok item), rest, left)) :
    ∃ d, scan d = .found item rest := by
  fun_induction readFrom scan ended buffer queue with
  | case1 _ _ _ hs =>
    cases h
    exact ⟨_, hs⟩
  | case2 => cases h
  | case3 => split at h <;> cases h
  | case4 _ _ _ _ _ hs =>
    cases h
    exact ⟨_, hs⟩
  | case5 => cases h
  | case6 => cases h
  | case7 _ _ _ _ _ hs =>
    cases h
    exact ⟨_, hs⟩
  | case8 => cases h
  | case9 _ _ _ _ ih => exact ih h

theorem found_of_readFrame {c next : Codec} {frame : Frame}
    (h : c.readFrame = (some (.ok frame), next)) :
    ∃ d rest, scanFrame c.limits d = .found frame rest := by
  simp only [readFrame, read, Prod.mk.injEq] at h
  obtain ⟨d, hs⟩ := found_of_readFrom (Prod.ext h.1 rfl)
  exact ⟨d, _, hs⟩

/-- Reading a frame never fails for want of bytes. -/
theorem ne_incompleteFrame_of_readFrame {c next : Codec} {e : Error}
    (h : c.readFrame = (some (.error e), next)) (n : Nat) : e ≠ .incompleteFrame n := by
  simp only [readFrame, read, Prod.mk.injEq] at h
  rcases error_of_readFrom (Prod.ext h.1 rfl) with ⟨d, hs⟩ | ⟨failure, rfl⟩ | rfl
  · exact ne_incompleteFrame_of_scanFrame hs n
  · unfold Error.ofFailure
    split <;> intro he <;> cases he
  · intro he
    cases he

end Codec

/-! ## What has been read -/

namespace Intake

/-- What has been read, the buffer, and what has not arrived make up a stream; and each frame was
read from bytes of its own. -/
def Whole (stream : Bytes) (i : Intake) : Prop :=
  ∃ wires : List Bytes,
    List.Forall₂ (fun wire frame => Frame.decode wire = .ok (frame, wire.length)) wires i.frames ∧
      i.head.getD [] ++ wires.flatten ++ i.codec.buffer ++ i.codec.inbox.bytes = stream ∧
        (i.head = none → i.frames = [])

theorem whole_ofChunks (limits : Limits) (chunks : List Bytes) :
    (ofChunks limits chunks).Whole chunks.flatten :=
  ⟨[], .nil, Codec.unread_ofChunks limits chunks, fun _ => rfl⟩

/-- No step of reading loses a byte or makes one up. -/
theorem Whole.advance {stream : Bytes} {i : Intake} (h : i.Whole stream) :
    i.advance.Whole stream := by
  obtain ⟨wires, hwires, hstream, hempty⟩ := h
  have hkeep : ∀ codec : Codec, codec.unread = i.codec.unread →
      Whole stream { i with codec } := by
    intro codec hu
    refine ⟨wires, hwires, ?_, hempty⟩
    rw [List.append_assoc] at hstream ⊢
    show i.head.getD [] ++ wires.flatten ++ codec.unread = stream
    rw [hu]
    exact hstream
  simp only [Intake.advance]
  split
  · rename_i hhead
    split
    · -- the head is what stood at the front of the buffer
      rename_i head codec hc
      obtain ⟨rest, hfound, rfl⟩ := Codec.step_ok hc
      obtain ⟨n, -, -, rfl, rfl⟩ := scanHead_eq_found_iff.mp hfound
      have hnone := hempty hhead
      rw [hnone] at hwires
      cases hwires
      refine ⟨[], hnone ▸ .nil, ?_, fun he => nomatch he⟩
      rw [hhead] at hstream
      simpa using hstream
    · rename_i hc
      exact hkeep _ (Codec.unread_of_step_error hc)
    · rename_i hc
      exact hkeep _ (Codec.unread_of_step_more hc)
    · exact ⟨wires, hwires, hstream, hempty⟩
  · rename_i head hhead
    split
    · rename_i frame codec hc
      obtain ⟨rest, hfound, rfl⟩ := Codec.step_ok hc
      obtain ⟨wire, hbuffer, hwire⟩ := wire_of_scanFrame hfound
      refine ⟨wires ++ [wire], List.rel_append hwires (.cons hwire .nil), ?_, fun he => ?_⟩
      · rw [← hstream, hbuffer]
        simp
      · rw [hhead] at he
        cases he
    · rename_i hc
      exact hkeep _ (Codec.unread_of_step_error hc)
    · rename_i hc
      exact hkeep _ (Codec.unread_of_step_more hc)
    · exact ⟨wires, hwires, hstream, hempty⟩

theorem Whole.advanceBy {stream : Bytes} {i : Intake} (h : i.Whole stream) (steps : Nat) :
    (i.advanceBy steps).Whole stream := by
  induction steps generalizing i with
  | zero => exact h
  | succ steps ih => exact ih h.advance

/-- A call is a number of steps. -/
theorem exists_advanceBy_eq_call (i : Intake) : ∃ steps, i.advanceBy steps = i.call := by
  cases hhead : i.head with
  | none =>
    cases hc : i.codec.stepHead with
    | done r codec =>
      have hread : i.codec.readHead = (some r, codec) := by
        rw [Codec.readHead, Codec.read_eq_step, ← Codec.stepHead, hc]
      refine ⟨1, ?_⟩
      simp only [advanceBy, advance, call, hhead, hc, hread]
      cases r <;> rfl
    | more codec =>
      have hless := Codec.load_lt_of_step_more hc
      have hread : i.codec.readHead = codec.readHead := by
        obtain ⟨-, chunk, queue, -, rfl⟩ := Codec.step_more hc
        rw [Codec.readHead, Codec.read_eq_step, ← Codec.stepHead, hc]
        rfl
      obtain ⟨steps, hsteps⟩ := exists_advanceBy_eq_call { i with codec }
      refine ⟨steps + 1, ?_⟩
      simp only [advanceBy, advance, call, hhead, hc, hread] at hsteps ⊢
      exact hsteps
    | waiting =>
      have hread : i.codec.readHead = (none, i.codec) := by
        rw [Codec.readHead, Codec.read_eq_step, ← Codec.stepHead, hc]
      refine ⟨0, ?_⟩
      simp only [advanceBy, call, hhead, hread]
      rw [← hhead]
  | some head =>
    cases hc : i.codec.stepFrame with
    | done r codec =>
      have hread : i.codec.readFrame = (some r, codec) := by
        rw [Codec.readFrame, Codec.read_eq_step, ← Codec.stepFrame, hc]
      refine ⟨1, ?_⟩
      simp only [advanceBy, advance, call, hhead, hc, hread]
      cases r <;> rfl
    | more codec =>
      have hless := Codec.load_lt_of_step_more hc
      have hread : i.codec.readFrame = codec.readFrame := by
        obtain ⟨-, chunk, queue, -, rfl⟩ := Codec.step_more hc
        rw [Codec.readFrame, Codec.read_eq_step, ← Codec.stepFrame, hc]
        rfl
      obtain ⟨steps, hsteps⟩ := exists_advanceBy_eq_call { i with codec }
      refine ⟨steps + 1, ?_⟩
      simp only [advanceBy, advance, call, hhead, hc, hread] at hsteps ⊢
      exact hsteps
    | waiting =>
      have hread : i.codec.readFrame = (none, i.codec) := by
        rw [Codec.readFrame, Codec.read_eq_step, ← Codec.stepFrame, hc]
      refine ⟨0, ?_⟩
      simp only [advanceBy, call, hhead, hread]
      rw [← hhead]
termination_by i.codec.load

end Intake

/-! ## Chunks -/

/-- However a stream is cut into chunks: the head is read up to the first blank line, if that ends
within the limit; a longer head, and too many bytes without a blank line, are refused; and if
neither comes the connection has closed.  The frames after the head, and what ends them, are those
of the rest of the stream, and no frame fails for want of bytes.  After any number of steps, of
which every call is made up, what has been received is the head, the bytes of the frames and the
buffer, in this order. -/
theorem reading_of_chunks (limits : Limits) (chunks : List Bytes) :
    let stream := chunks.flatten
    let codec := Codec.ofChunks limits chunks
    (∀ n, Http.HeadEndsAt stream n → n ≤ limits.maxRequestSize →
      ∃ next, codec.readHead = (some (.ok (stream.take n)), next) ∧
        next.readFrames = ((Frame.ofStream limits (stream.drop n)).1,
          some (Frame.ofStream limits (stream.drop n)).2)) ∧
    (∀ n, Http.HeadEndsAt stream n → limits.maxRequestSize < n →
      ∃ size next, codec.readHead =
        (some (.error (.requestTooLarge size limits.maxRequestSize)), next)) ∧
    (¬ Http.headEnd <:+: stream → limits.maxRequestSize < stream.length →
      ∃ size next, codec.readHead =
        (some (.error (.requestTooLarge size limits.maxRequestSize)), next)) ∧
    (¬ Http.headEnd <:+: stream → stream.length ≤ limits.maxRequestSize →
      ∃ next, codec.readHead = (some (.error (.connectionClosed none)), next)) ∧
    (∀ (c next : Codec) e n, c.readFrame = (some (.error e), next) → e ≠ .incompleteFrame n) ∧
    (∀ i : Intake, ∃ steps, i.advanceBy steps = i.call) ∧
    ∀ steps, ∃ received wires,
      received ++ ((Intake.ofChunks limits chunks).advanceBy steps).codec.inbox.bytes = stream ∧
      received = ((Intake.ofChunks limits chunks).advanceBy steps).head.getD [] ++
        List.flatten wires ++ ((Intake.ofChunks limits chunks).advanceBy steps).codec.buffer ∧
      List.Forall₂ (fun wire frame => Frame.decode wire = .ok (frame, wire.length)) wires
        ((Intake.ofChunks limits chunks).advanceBy steps).frames := by
  intro stream codec
  have hclosed : codec.Closed := Codec.closed_ofChunks limits chunks
  have hunread : codec.unread = stream := Codec.unread_ofChunks limits chunks
  have hp := persistent_scanHead limits
  have hlarge : limits.maxRequestSize < (Http.headSize? stream).getD stream.length →
      ∃ size next, codec.readHead =
        (some (.error (.requestTooLarge size limits.maxRequestSize)), next) := by
    intro hlt
    have hs := scanHead_eq_refused_iff.mpr ⟨hlt, rfl⟩
    obtain ⟨other, next, hread, ho⟩ :=
      Codec.read_of_refused hclosed hp (hunread ▸ hs)
    rcases ho with rfl | ⟨size, -, rfl, -⟩
    · exact ⟨_, next, hread⟩
    · exact ⟨size, next, hread⟩
  refine ⟨fun n hn hle => ?_, fun n hn hlt => ?_, fun hn hlt => ?_, fun hn hle => ?_,
    fun c next e n h => Codec.ne_incompleteFrame_of_readFrame h n,
    Intake.exists_advanceBy_eq_call, fun steps => ?_⟩
  · have hsize := Http.headSize?_eq_some_iff.mpr hn
    have hs : scanHead limits codec.unread = .found (stream.take n) (stream.drop n) :=
      scanHead_eq_found_iff.mpr ⟨n, hunread ▸ hsize, hle, by rw [hunread], by rw [hunread]⟩
    obtain ⟨next, hread, hnext, hlimits, hrest⟩ := Codec.read_of_found hclosed hp hs
    refine ⟨next, hread, ?_⟩
    rw [Codec.readFrames_eq hnext, hrest, hlimits]
    rfl
  · apply hlarge
    rw [Http.headSize?_eq_some_iff.mpr hn]
    exact hlt
  · apply hlarge
    rw [Http.headSize?_eq_none_iff.mpr hn]
    exact hlt
  · have hs : scanHead limits codec.unread = .wanting := by
      rw [hunread, scanHead, Http.headSize?_eq_none_iff.mpr hn]
      simp only [Limits.checkRequestSize]
      rw [if_neg (Nat.not_lt_of_le hle)]
    exact Codec.read_of_wanting hclosed hp hs
  · obtain ⟨wires, hwires, hstream, -⟩ :=
      (Intake.whole_ofChunks limits chunks).advanceBy steps
    exact ⟨_, wires, hstream, rfl, hwires⟩

end WebSocket
