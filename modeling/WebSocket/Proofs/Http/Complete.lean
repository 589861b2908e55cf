import WebSocket.Http.Response
import WebSocket.Proofs.Http.Head

/-
A response that is complete does not change when more bytes come.  Its head has ended, and so has
its body: the last chunk has been read, or as many bytes as were announced.  What is then read of
the whole is what was read before, be it a response or what is wrong with the status line, which
completeness does not look at (`Response.read_append`).
-/
namespace WebSocket
namespace Http

namespace Chunked

theorem cut?_lineEnd_iff {d line rest : Bytes} : Sequence.cut? lineEnd d = some (line, rest) ↔
    d = line ++ (lineEnd ++ rest) ∧ ¬ lineEnd <:+: line :=
  Sequence.cut?_eq_some_iff unbordered_lineEndBytes (List.cons_ne_nil _ _)

/-- A chunk that is taken stands at the front, with the line end behind it. -/
theorem takeChunk_eq_ok_iff {size : Nat} {d chunk rest : Bytes} :
    takeChunk size d = .ok (chunk, rest) ↔ size + lineEnd.length < Text.bound64 ∧
      chunk.length = size ∧ d = chunk ++ (lineEnd ++ rest) := by
  unfold takeChunk
  simp only [List.splitAt_eq]
  constructor
  · intro h
    split at h
    · cases h
    · rename_i hbound
      split at h
      · cases h
      · rename_i hwhole
        split at h
        · rename_i hmark
          cases h
          have hlength : size ≤ d.length := by
            have hlong : lineEnd.length ≤ (d.drop size).length := by
              rw [← hmark]
              exact List.length_take_le' _ _
            have htwo : lineEnd.length = 2 := rfl
            rw [List.length_drop] at hlong
            omega
          have htail := List.take_append_drop lineEnd.length (d.drop size)
          rw [hmark] at htail
          refine ⟨Nat.lt_of_not_le hbound, List.length_take_of_le hlength, ?_⟩
          rw [htail, List.take_append_drop]
        · cases h
  · rintro ⟨hbound, rfl, rfl⟩
    rw [if_neg (Nat.not_le_of_lt hbound), List.take_left' rfl, List.drop_left' rfl,
      List.take_left' rfl, List.drop_left' rfl, if_neg (Nat.lt_irrefl _), if_pos rfl]

theorem readChunk_append {d : Bytes} {found : Option (Bytes × Bytes)}
    (h : readChunk d = .ok found) (t : Bytes) :
    readChunk (d ++ t) = .ok (found.map fun (chunk, rest) => (chunk, rest ++ t)) := by
  unfold readChunk at h ⊢
  cases hcut : Sequence.cut? lineEnd d with
  | none => simp [hcut] at h
  | some parts =>
    obtain ⟨line, rest⟩ := parts
    obtain ⟨rfl, hline⟩ := cut?_lineEnd_iff.mp hcut
    have hcut' : Sequence.cut? lineEnd (line ++ (lineEnd ++ rest) ++ t) = some (line, rest ++ t) :=
      cut?_lineEnd_iff.mpr ⟨by simp only [List.append_assoc], hline⟩
    simp only [hcut] at h
    simp only [hcut']
    cases hsize : readSize line with
    | error e => simp [hsize] at h
    | ok size =>
      simp only [hsize] at h ⊢
      by_cases hzero : size = 0
      · rw [if_pos hzero] at h ⊢
        cases h
        rfl
      · rw [if_neg hzero] at h ⊢
        cases htake : takeChunk size rest with
        | error e => simp [htake, Except.map] at h
        | ok parts =>
          obtain ⟨chunk, after⟩ := parts
          rw [htake] at h
          cases h
          obtain ⟨hbound, hlength, rfl⟩ := takeChunk_eq_ok_iff.mp htake
          have htake' : takeChunk size (chunk ++ (lineEnd ++ after) ++ t) = .ok (chunk, after ++ t) :=
            takeChunk_eq_ok_iff.mpr ⟨hbound, hlength, by simp only [List.append_assoc]⟩
          rw [htake']
          rfl

theorem decodeFrom_of_error {found : List Bytes} {d : Bytes} {e : ResponseFault}
    (h : readChunk d = .error e) : decodeFrom found d = .error e := by
  rw [decodeFrom]
  split <;> rename_i hread <;> rw [h] at hread <;> cases hread
  rfl

theorem decodeFrom_of_none {found : List Bytes} {d : Bytes} (h : readChunk d = .ok none) :
    decodeFrom found d = .ok found.reverse := by
  rw [decodeFrom]
  split <;> rename_i hread <;> rw [h] at hread <;> cases hread

theorem decodeFrom_of_some {found : List Bytes} {d chunk rest : Bytes}
    (h : readChunk d = .ok (some (chunk, rest))) :
    decodeFrom found d = decodeFrom (chunk :: found) rest := by
  rw [decodeFrom]
  split <;> rename_i hread <;> rw [h] at hread <;> cases hread
  rfl

/-- What follows the last chunk counts for nothing. -/
theorem decodeFrom_append {found chunks : List Bytes} {d : Bytes}
    (h : decodeFrom found d = .ok chunks) (t : Bytes) : decodeFrom found (d ++ t) = .ok chunks := by
  induction found, d using decodeFrom.induct with
  | case1 found d e hread =>
    rw [decodeFrom_of_error hread] at h
    cases h
  | case2 found d hread =>
    rw [decodeFrom_of_none hread] at h
    rw [decodeFrom_of_none (readChunk_append hread t), h]
  | case3 found d chunk rest hread ih =>
    rw [decodeFrom_of_some hread] at h
    rw [decodeFrom_of_some (readChunk_append hread t)]
    exact ih h

theorem decode_append {d body : Bytes} (h : decode d = .ok body) (t : Bytes) :
    decode (d ++ t) = .ok body := by
  unfold decode at h ⊢
  cases hd : decodeFrom [] d with
  | error e =>
    rw [hd] at h
    cases h
  | ok chunks => rw [decodeFrom_append hd t, ← h, hd]

end Chunked

/-- A body that is complete is the same whatever follows it. -/
theorem Framing.readBody_append {framing : Framing} {d : Bytes} (h : framing.isComplete d = true)
    (t : Bytes) : framing.readBody (d ++ t) = framing.readBody d := by
  cases framing with
  | chunked =>
    simp only [isComplete] at h
    simp only [readBody]
    cases hd : Chunked.decode d with
    | error e =>
      rw [hd] at h
      cases h
    | ok body => exact Chunked.decode_append hd t
  | sized length =>
    have hle : length ≤ d.length := of_decide_eq_true h
    simp only [readBody, List.length_append]
    rw [if_neg (by omega), if_neg (by omega), List.take_append_of_le_length hle]
  | untilEnd => cases h

namespace Response

variable {d rest : Bytes} {line : String} {lines : List String}

/-- A head that has ended is read the same whatever follows it. -/
theorem readHead_append (h : readHead d = .ok (line, lines, rest)) (t : Bytes) :
    readHead (d ++ t) = .ok (line, lines, rest ++ t) := by
  unfold readHead at h ⊢
  cases hsize : headSize? d with
  | none => simp [hsize] at h
  | some size =>
    have hle := headSize?_le hsize
    simp only [hsize] at h
    simp only [headSize?_append hsize t, List.take_append_of_le_length hle,
      List.drop_append_of_le_length hle]
    cases htext : Bytes.text? (d.take size) with
    | none => simp [htext] at h
    | some head =>
      simp only [htext] at h ⊢
      cases h
      rfl

/-- Of a complete response the head, the fields and the framing can be read, and the body is
complete. -/
theorem exists_of_isComplete (h : isComplete d = true) :
    ∃ line lines rest headers framing, readHead d = .ok (line, lines, rest) ∧
      readHeaders lines = .ok headers ∧ Framing.ofHeaders headers = .ok framing ∧
        framing.isComplete rest = true := by
  unfold isComplete at h
  cases hhead : readHead d with
  | error e => simp [hhead, bind, Except.bind] at h
  | ok parts =>
    obtain ⟨line, lines, rest⟩ := parts
    cases hheaders : readHeaders lines with
    | error e => simp [hhead, hheaders, bind, Except.bind] at h
    | ok headers =>
      cases hframing : Framing.ofHeaders headers with
      | error e => simp [hhead, hheaders, hframing, bind, Except.bind] at h
      | ok framing =>
        simp only [hhead, hheaders, hframing, bind, Except.bind, pure, Except.pure] at h
        exact ⟨line, lines, rest, headers, framing, rfl, hheaders, hframing, h⟩

/-- What is read of a complete response, or is wrong with it, is the same whatever follows. -/
theorem read_append (h : isComplete d = true) (t : Bytes) : read (d ++ t) = read d := by
  obtain ⟨line, lines, rest, headers, framing, hhead, hheaders, hframing, hcomplete⟩ :=
    exists_of_isComplete h
  simp only [read, hhead, readHead_append hhead t, hheaders, hframing, bind, Except.bind,
    framing.readBody_append hcomplete t]

end Response
end Http
end WebSocket
