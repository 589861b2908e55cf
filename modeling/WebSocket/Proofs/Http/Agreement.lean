import WebSocket.Http.Guarded
import WebSocket.Proofs.Http.Complete
import WebSocket.Proofs.Http.Response

/-
Completeness and decoding agree.  Bytes are known to hold a whole response exactly when they are
decoded to one whose fields say how its body ends; only the status line is not looked at, and so it
has to be in order (`Response.isComplete_agrees`).  Both depend on the decoding of chunks, which
goes the same way on a machine: every round leaves less to read, the sums are taken of places inside
the bytes, except for one that is checked, and no range reaches beyond them (`Guarded.decode_eq`).
-/
namespace WebSocket
namespace Http

/-! ## Chunks on a machine -/

namespace Chunked
namespace Guarded

variable {d : Bytes} {size place : Nat}

theorem add_eq {a b : Nat} (h : a + b < Text.bound64) : add a b = .ok (a + b) :=
  if_pos h

theorem slice_front (h : place ≤ d.length) : slice d 0 place = .ok (d.take place) := by
  rw [slice, if_pos ⟨Nat.zero_le place, h⟩, List.drop_zero, Nat.sub_zero]

theorem slice_back (h : place ≤ d.length) : slice d place d.length = .ok (d.drop place) := by
  rw [slice, if_pos ⟨h, Nat.le_refl _⟩, List.take_of_length_le (by rw [List.length_drop])]

/-- No chunk is taken from outside the bytes, however large a size is stated. -/
theorem takeChunk_eq (size : Nat) (d : Bytes) :
    takeChunk size d = .ok (Chunked.takeChunk size d) := by
  have htwo : lineEnd.length = 2 := rfl
  rw [takeChunk, Chunked.takeChunk]
  by_cases hbound : size + lineEnd.length < Text.bound64
  · rw [add_eq hbound, if_neg (Nat.not_le_of_lt hbound)]
    simp only [List.splitAt_eq]
    by_cases hroom : d.length < size + lineEnd.length
    · have hshort : ((d.drop size).take lineEnd.length).length < lineEnd.length := by
        rw [List.length_take, List.length_drop]
        omega
      rw [if_pos hroom, if_pos hshort]
      rfl
    · have hlong : ¬ ((d.drop size).take lineEnd.length).length < lineEnd.length := by
        rw [List.length_take, List.length_drop]
        omega
      have hmark : slice d size (size + lineEnd.length) =
          .ok ((d.drop size).take lineEnd.length) := by
        rw [slice, if_pos ⟨Nat.le_add_right _ _, Nat.le_of_not_lt hroom⟩, Nat.add_sub_cancel_left]
      have hfront : slice d 0 size = .ok (d.take size) := slice_front (by omega)
      have hback := slice_back (Nat.le_of_not_lt hroom)
      rw [if_neg hroom, if_neg hlong, hmark, hfront, hback, List.drop_drop]
      by_cases hend : (d.drop size).take lineEnd.length = lineEnd
      · rw [if_pos hend]
        simp [bind, Except.bind, pure, Except.pure, hend]
      · rw [if_neg hend]
        simp [bind, Except.bind, pure, Except.pure, hend]
  · have hadd : add size lineEnd.length = .error .overflow := if_neg hbound
    rw [hadd, if_pos (Nat.le_of_not_lt hbound)]
    rfl

theorem readChunk_eq (h : d.length < Text.bound64) : readChunk d = .ok (Chunked.readChunk d) := by
  rw [readChunk, Chunked.readChunk, Sequence.cut?]
  cases hfind : Sequence.find? lineEnd d with
  | none => rfl
  | some place =>
    have hinside := Sequence.find?_add_length_le hfind
    have hline : slice d 0 place = .ok (d.take place) := slice_front (by omega)
    have hrest := slice_back hinside
    have hadd := add_eq (Nat.lt_of_le_of_lt hinside h)
    simp only [Option.map_some, hline, hadd, hrest, takeChunk_eq, bind, Except.bind, pure,
      Except.pure]
    cases readSize (d.take place) with
    | error e => rfl
    | ok size =>
      by_cases hzero : size = 0
      · simp [hzero]
      · simp [hzero]

/-- A round for each byte is enough, and no round is trapped. -/
theorem decode_eq {fuel : Nat} (hfuel : d.length < fuel) (h : d.length < Text.bound64)
    (found : List Bytes) :
    decode fuel found.reverse.flatten d = .ok ((decodeFrom found d).map List.flatten) := by
  induction fuel generalizing found d with
  | zero => omega
  | succ fuel ih =>
    rw [decode, readChunk_eq h]
    cases hread : Chunked.readChunk d with
    | error e =>
      rw [decodeFrom_of_error hread]
      rfl
    | ok next =>
      cases next with
      | none =>
        rw [decodeFrom_of_none hread]
        rfl
      | some next =>
        obtain ⟨chunk, rest⟩ := next
        have hless := length_lt_of_readChunk hread
        have hnext := ih (d := rest) (by omega) (by omega) (chunk :: found)
        rw [decodeFrom_of_some hread, ← hnext]
        simp [bind, Except.bind]

end Guarded
end Chunked

/-! ## Complete responses -/

/-- A body whose end is announced is complete when it can be read. -/
theorem Framing.isComplete_iff {framing : Framing} {d : Bytes} :
    framing.isComplete d = true ↔ framing ≠ .untilEnd ∧ ∃ body, framing.readBody d = .ok body := by
  cases framing with
  | chunked =>
    simp only [isComplete, readBody]
    cases Chunked.decode d with
    | error e => simp [Except.isOk, Except.toBool]
    | ok body => simp [Except.isOk, Except.toBool]
  | sized length =>
    simp only [isComplete, readBody, decide_eq_true_eq]
    by_cases h : d.length < length
    · simp [h]
    · simp [h, Nat.le_of_not_lt h]
  | untilEnd => simp [isComplete]

/-- The end of a body is announced by one of two fields. -/
theorem Framing.ne_untilEnd_iff {h : Headers} {framing : Framing}
    (hread : ofHeaders h = .ok framing) : framing ≠ .untilEnd ↔
      h.hasToken "transfer-encoding" "chunked" = true ∨ h.contains "content-length" = true := by
  unfold ofHeaders at hread
  by_cases htoken : h.hasToken "transfer-encoding" "chunked" = true
  · rw [if_pos htoken] at hread
    cases hread
    simp [htoken]
  · rw [if_neg htoken] at hread
    cases hlength : h.get? "content-length" with
    | none =>
      simp only [hlength] at hread
      cases hread
      simp [htoken, Headers.contains, hlength]
    | some value =>
      simp only [hlength] at hread
      split at hread
      · cases hread
        simp [Headers.contains, hlength]
      · cases hread

namespace Response

variable {d : Bytes}

/-- A response that is read has been read part by part. -/
theorem exists_of_read {r : Response} (h : read d = .ok r) :
    ∃ line lines rest framing, readHead d = .ok (line, lines, rest) ∧
      readHeaders lines = .ok r.headers ∧ Framing.ofHeaders r.headers = .ok framing ∧
        framing.readBody rest = .ok r.body := by
  obtain ⟨⟨line, lines, rest⟩, hhead, h⟩ := bind_eq_ok_iff.mp h
  obtain ⟨⟨status, reason⟩, -, h⟩ := bind_eq_ok_iff.mp h
  obtain ⟨headers, hheaders, h⟩ := bind_eq_ok_iff.mp h
  obtain ⟨framing, hframing, h⟩ := bind_eq_ok_iff.mp h
  obtain ⟨body, hbody, h⟩ := bind_eq_ok_iff.mp h
  cases h
  exact ⟨line, lines, rest, framing, hhead, hheaders, hframing, hbody⟩

theorem isComplete_of_parts {line : String} {lines : List String} {rest : Bytes} {headers : Headers}
    {framing : Framing} (hhead : readHead d = .ok (line, lines, rest))
    (hheaders : readHeaders lines = .ok headers)
    (hframing : Framing.ofHeaders headers = .ok framing) :
    isComplete d = framing.isComplete rest := by
  simp [isComplete, hhead, hheaders, hframing, bind, Except.bind, pure, Except.pure]

theorem decode_eq_ok_iff {r : Response} : decode d = .ok r ↔ read d = .ok r := by
  rw [decode]
  cases read d <;> simp [Except.mapError]

/-- Where the status line of a head that ends is in order, the bytes are complete exactly when they
are decoded to a response whose fields announce the end of its body.  On a machine chunks are decoded
as they are here, without a trap. -/
theorem isComplete_agrees (d : Bytes)
    (hstatus : ∀ line lines rest, readHead d = .ok (line, lines, rest) →
      ∃ found, readStatusLine line = .ok found) :
    (isComplete d = true ↔ ∃ r, decode d = .ok r ∧
      (r.headers.hasToken "transfer-encoding" "chunked" = true ∨
        r.headers.contains "content-length" = true)) ∧
    ∀ b : Bytes, b.length < Text.bound64 →
      Chunked.Guarded.decode (b.length + 1) [] b = .ok (Chunked.decode b) := by
  refine ⟨⟨fun hcomplete => ?_, ?_⟩, fun b hb => ?_⟩
  · obtain ⟨line, lines, rest, headers, framing, hhead, hheaders, hframing, hend⟩ :=
      exists_of_isComplete hcomplete
    obtain ⟨⟨status, reason⟩, hline⟩ := hstatus line lines rest hhead
    obtain ⟨hannounced, body, hbody⟩ := Framing.isComplete_iff.mp hend
    exact ⟨_, decode_eq_ok_iff.mpr (read_eq_ok hhead hline hheaders hframing hbody),
      (Framing.ne_untilEnd_iff hframing).mp hannounced⟩
  · rintro ⟨r, hdecode, hannounced⟩
    obtain ⟨line, lines, rest, framing, hhead, hheaders, hframing, hbody⟩ :=
      exists_of_read (decode_eq_ok_iff.mp hdecode)
    rw [isComplete_of_parts hhead hheaders hframing]
    exact Framing.isComplete_iff.mpr
      ⟨(Framing.ne_untilEnd_iff hframing).mpr hannounced, r.body, hbody⟩
  · exact Chunked.Guarded.decode_eq (Nat.lt_succ_self _) hb []

/-- A chunk is announced that no machine could hold: nothing is decoded, the bytes are not complete,
and no sum overflows. -/
theorem isComplete_agrees_of_overflow :
    let chunks := Bytes.ofText "ffffffffffffffff\r\nabc\r\n0\r\n\r\n"
    let d := Bytes.ofText "HTTP/1.1 200 OK\r\nTransfer-Encoding: chunked\r\n\r\n" ++ chunks
    (∀ line lines rest, readHead d = .ok (line, lines, rest) →
        ∃ found, readStatusLine line = .ok found) ∧
      isComplete d = false ∧ decode d = .error (.http .chunkSizeTooLarge) ∧
      Chunked.Guarded.decode (chunks.length + 1) [] chunks = .ok (.error .chunkSizeTooLarge) := by
  intro chunks d
  have hhead : readHead d =
      .ok ("HTTP/1.1 200 OK", ["Transfer-Encoding: chunked", "", ""], chunks) := by
    have hlines : ∀ l ∈ ["HTTP/1.1 200 OK", "Transfer-Encoding: chunked"],
        l ≠ "" ∧ ¬ "\r\n".toList <:+: l.toList := by decide
    exact readHead_lines hlines chunks
  have hstatus : ∀ line lines rest, readHead d = .ok (line, lines, rest) →
      ∃ found, readStatusLine line = .ok found := by
    intro line lines rest hline
    rw [hhead] at hline
    cases hline
    exact ⟨(200, "OK"), by decide⟩
  have hheaders : readHeaders ["Transfer-Encoding: chunked", "", ""] =
      .ok ⟨[("Transfer-Encoding", "chunked")]⟩ := by decide
  have hchunks : Chunked.decode chunks = .error .chunkSizeTooLarge := by
    have hread : Chunked.readChunk chunks = .error .chunkSizeTooLarge := by decide
    rw [Chunked.decode, Chunked.decodeFrom_of_error hread]
    rfl
  have hdecode : decode d = .error (.http .chunkSizeTooLarge) := by
    have hframing : Framing.ofHeaders ⟨[("Transfer-Encoding", "chunked")]⟩ = .ok .chunked := by
      decide
    have hline : readStatusLine "HTTP/1.1 200 OK" = .ok (200, "OK") := by decide
    simp only [decode, read, hhead, hline, hheaders, hframing, Framing.readBody, hchunks, bind,
      Except.bind, Except.mapError]
  obtain ⟨hagrees, hguarded⟩ := isComplete_agrees d hstatus
  refine ⟨hstatus, Bool.eq_false_iff.mpr fun hcomplete => ?_, hdecode, ?_⟩
  · obtain ⟨r, hr, -⟩ := hagrees.mp hcomplete
    rw [hdecode] at hr
    cases hr
  · rw [hguarded chunks (by decide), hchunks]

end Response
end Http
end WebSocket
