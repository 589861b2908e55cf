import WebSocket.Frame.Stream
import WebSocket.Proofs.Frame.Prefix
import WebSocket.Transport.Codec

/-
What a scan finds in the front of a stream it finds in the whole stream.  `Persistent` is that law:
an item that has been found, and a refusal, stay when more bytes follow.  Scans for frames have it
(`persistent_scanFrame`), and so have scans for heads, where the size that a refusal names is the
one thing that may grow (`persistent_scanHead`).  A scan for a frame also says how the frames of
the whole stream begin (`Frame.ofStream_of_found` and the two statements after it).
-/
namespace WebSocket

/-- How a scan for a frame comes out, and why. -/
inductive FrameScan (limits : Limits) (d : Bytes) : Scan Frame → Prop
  | headerWanting {n : Nat} (header : FrameHeader.decode d = .error (.incompleteFrame n)) :
    FrameScan limits d .wanting
  | headerRefused {e : Error} (header : FrameHeader.decode d = .error e)
    (decided : Decided (FrameHeader.decode d)) : FrameScan limits d (.refused e)
  | checkRefused {h : FrameHeader} {e : Error} (header : FrameHeader.decode d = .ok h)
    (check : h.check limits = .error e) : FrameScan limits d (.refused e)
  | bodyWanting {h : FrameHeader} {n : Nat} (header : FrameHeader.decode d = .ok h)
    (check : h.check limits = .ok ()) (body : Frame.decode d = .error (.incompleteFrame n)) :
    FrameScan limits d .wanting
  | found {h : FrameHeader} {frame : Frame} {size : Nat} (header : FrameHeader.decode d = .ok h)
    (check : h.check limits = .ok ()) (body : Frame.decode d = .ok (frame, size)) :
    FrameScan limits d (.found frame (d.drop size))

/-- A header that cannot be read is refused, whatever the limits are. -/
theorem scanFrame_of_headerRefused {limits : Limits} {d : Bytes} {e : Error}
    (hd : FrameHeader.decode d = .error e) (hdec : Decided (FrameHeader.decode d)) :
    scanFrame limits d = .refused e := by
  simp only [scanFrame, hd]
  split
  · rename_i he
    cases he
    exact absurd hd (hdec _)
  · rename_i he
    cases he
    rfl
  · rename_i he
    cases he

theorem frameScan (limits : Limits) (d : Bytes) : FrameScan limits d (scanFrame limits d) := by
  cases hd : FrameHeader.decode d with
  | error e =>
    rcases decided_or (FrameHeader.decode d) with hdec | ⟨n, hn⟩
    · exact scanFrame_of_headerRefused hd hdec ▸ .headerRefused hd hdec
    · have hs : scanFrame limits d = .wanting := by
        simp only [scanFrame, hn]
      exact hs ▸ .headerWanting hn
  | ok h =>
    have hbody : Frame.decode d = Frame.decodeBody h d := by
      simp only [Frame.decode, hd]
      rfl
    cases hc : h.check limits with
    | error e =>
      have hs : scanFrame limits d = .refused e := by
        simp only [scanFrame, hd, hc]
      exact hs ▸ .checkRefused hd hc
    | ok =>
      by_cases hl : ((d.drop h.size).take h.length).length < h.length
      · have hb : Frame.decodeBody h d =
            .error (.incompleteFrame (h.length - ((d.drop h.size).take h.length).length)) := by
          simp only [Frame.decodeBody]
          rw [if_pos hl]
        have hs : scanFrame limits d = .wanting := by
          simp only [scanFrame, hd, hc, hb]
        exact hs ▸ .bodyWanting hd hc (hbody.trans hb)
      · have hb : Frame.decodeBody h d =
            .ok (Frame.ofHeader h ((d.drop h.size).take h.length), h.size + h.length) := by
          simp only [Frame.decodeBody]
          rw [if_neg hl]
        have hs : scanFrame limits d =
            .found (Frame.ofHeader h ((d.drop h.size).take h.length))
              (d.drop (h.size + h.length)) := by
          simp only [scanFrame, hd, hc, hb]
        exact hs ▸ .found hd hc (hbody.trans hb)

/-! ## Scans of a longer buffer -/

/-- What a scan has found it finds as well when more bytes follow, and what it has refused it
refuses, with an error that is alike. -/
structure Persistent {α : Type} (alike : Error → Error → Prop) (scan : Bytes → Scan α) :
    Prop where
  found : ∀ {d : Bytes} {item : α} {rest : Bytes}, scan d = .found item rest →
    ∀ t, scan (d ++ t) = .found item (rest ++ t)
  refused : ∀ {d : Bytes} {e : Error}, scan d = .refused e →
    ∀ t, ∃ other, scan (d ++ t) = .refused other ∧ alike e other

/-- A header that has been read is there as well when more bytes follow. -/
theorem FrameHeader.decode_append_of_ok {d : Bytes} {h : FrameHeader} (hd : decode d = .ok h)
    (t : Bytes) : decode (d ++ t) = .ok h := by
  rw [decode_append (hd ▸ decided_ok h) t, hd]

theorem scanFrame_append_of_found {limits : Limits} {d rest : Bytes} {frame : Frame}
    (h : scanFrame limits d = .found frame rest) (t : Bytes) :
    scanFrame limits (d ++ t) = .found frame (rest ++ t) := by
  have hs := frameScan limits d
  rw [h] at hs
  cases hs with
  | found header check body =>
    rename_i size
    have hb := Frame.decode_append (body ▸ decided_ok _) t
    rw [body, Frame.decode, FrameHeader.decode_append_of_ok header t] at hb
    replace hb : Frame.decodeBody _ (d ++ t) = _ := hb
    simp only [scanFrame, FrameHeader.decode_append_of_ok header t, check, hb]
    rw [List.drop_append_of_le_length (Frame.size_le_length body)]

theorem scanFrame_append_of_refused {limits : Limits} {d : Bytes} {e : Error}
    (h : scanFrame limits d = .refused e) (t : Bytes) :
    scanFrame limits (d ++ t) = .refused e := by
  have hs := frameScan limits d
  rw [h] at hs
  cases hs with
  | headerRefused header decided =>
    have hd := FrameHeader.decode_append decided t
    exact scanFrame_of_headerRefused (hd.trans header) (hd ▸ decided)
  | checkRefused header check =>
    simp only [scanFrame, FrameHeader.decode_append_of_ok header t, check]

theorem persistent_scanFrame (limits : Limits) : Persistent (· = ·) (scanFrame limits) where
  found h t := scanFrame_append_of_found h t
  refused h t := ⟨_, scanFrame_append_of_refused h t, rfl⟩

/-- Two refusals of a head that exceeds the limit. -/
def BothTooLarge (limits : Limits) (e other : Error) : Prop :=
  ∃ size larger, e = .requestTooLarge size limits.maxRequestSize ∧
    other = .requestTooLarge larger limits.maxRequestSize

theorem checkRequestSize_cases (limits : Limits) (size : Nat) :
    (size ≤ limits.maxRequestSize ∧ limits.checkRequestSize size = .ok ()) ∨
      (limits.maxRequestSize < size ∧
        limits.checkRequestSize size = .error (.requestTooLarge size limits.maxRequestSize)) := by
  unfold Limits.checkRequestSize
  by_cases h : size > limits.maxRequestSize
  · exact .inr ⟨h, if_pos h⟩
  · exact .inl ⟨Nat.le_of_not_lt h, if_neg h⟩

/-- A scan finds a head that is not too large. -/
theorem scanHead_eq_found_iff {limits : Limits} {d head rest : Bytes} :
    scanHead limits d = .found head rest ↔
      ∃ n, Http.headSize? d = some n ∧ n ≤ limits.maxRequestSize ∧
        head = d.take n ∧ rest = d.drop n := by
  simp only [scanHead]
  cases hs : Http.headSize? d with
  | some n =>
    rcases checkRequestSize_cases limits n with ⟨hle, hc⟩ | ⟨hlt, hc⟩
    · simp only [hc, Scan.found.injEq]
      constructor
      · rintro ⟨rfl, rfl⟩
        exact ⟨n, rfl, hle, rfl, rfl⟩
      · rintro ⟨m, hm, -, rfl, rfl⟩
        cases hm
        exact ⟨rfl, rfl⟩
    · simp only [hc]
      constructor
      · intro h
        cases h
      · rintro ⟨m, hm, hle, -⟩
        cases hm
        omega
  | none =>
    rcases checkRequestSize_cases limits d.length with ⟨-, hc⟩ | ⟨-, hc⟩ <;> simp [hc]

/-- A scan refuses a head that is too large, and bytes that are too many for any head. -/
theorem scanHead_eq_refused_iff {limits : Limits} {d : Bytes} {e : Error} :
    scanHead limits d = .refused e ↔
      limits.maxRequestSize < (Http.headSize? d).getD d.length ∧
        e = .requestTooLarge ((Http.headSize? d).getD d.length) limits.maxRequestSize := by
  simp only [scanHead]
  cases hs : Http.headSize? d with
  | some n =>
    rcases checkRequestSize_cases limits n with ⟨hle, hc⟩ | ⟨hlt, hc⟩
    · simp only [hc, Option.getD_some, reduceCtorEq, false_iff]
      omega
    · simp only [hc, Option.getD_some, Scan.refused.injEq, hlt, true_and]
      exact eq_comm
  | none =>
    rcases checkRequestSize_cases limits d.length with ⟨hle, hc⟩ | ⟨hlt, hc⟩
    · simp only [hc, Option.getD_none, reduceCtorEq, false_iff]
      omega
    · simp only [hc, Option.getD_none, Scan.refused.injEq, hlt, true_and]
      exact eq_comm

/-- A scan wants more of bytes that hold no end of a head, as long as they are not too many. -/
theorem scanHead_eq_wanting_iff {limits : Limits} {d : Bytes} :
    scanHead limits d = .wanting ↔
      Http.headSize? d = none ∧ d.length ≤ limits.maxRequestSize := by
  simp only [scanHead]
  cases hs : Http.headSize? d with
  | some n =>
    rcases checkRequestSize_cases limits n with ⟨-, hc⟩ | ⟨-, hc⟩ <;> simp [hc]
  | none =>
    rcases checkRequestSize_cases limits d.length with ⟨hle, hc⟩ | ⟨hlt, hc⟩
    · simp [hc, hle]
    · simp [hc, hlt]

theorem persistent_scanHead (limits : Limits) :
    Persistent (BothTooLarge limits) (scanHead limits) where
  found h t := by
    obtain ⟨n, hn, hle, rfl, rfl⟩ := scanHead_eq_found_iff.mp h
    have hlen := Http.headSize?_le hn
    refine scanHead_eq_found_iff.mpr ⟨n, Http.headSize?_append hn t, hle, ?_, ?_⟩
    · rw [List.take_append_of_le_length hlen]
    · rw [List.drop_append_of_le_length hlen]
  refused {d e} h t := by
    obtain ⟨hlt, rfl⟩ := scanHead_eq_refused_iff.mp h
    have hgrow : limits.maxRequestSize <
        (Http.headSize? (d ++ t)).getD (d ++ t).length := by
      cases hs : Http.headSize? d with
      | some n =>
        rw [Http.headSize?_append hs t]
        rwa [hs] at hlt
      | none =>
        rw [hs, Option.getD_none] at hlt
        cases hs' : Http.headSize? (d ++ t) with
        | some m => exact Nat.lt_trans hlt (Http.lt_headSize?_append hs hs')
        | none =>
          rw [Option.getD_none, List.length_append]
          omega
    exact ⟨_, scanHead_eq_refused_iff.mpr ⟨hgrow, rfl⟩, _, _, rfl, rfl⟩

/-! ## What a scan gives -/

/-- The bytes that a frame was found in are those of one frame, and the rest follows them. -/
theorem wire_of_scanFrame {limits : Limits} {d rest : Bytes} {frame : Frame}
    (h : scanFrame limits d = .found frame rest) :
    ∃ wire, d = wire ++ rest ∧ Frame.decode wire = .ok (frame, wire.length) := by
  have hs := frameScan limits d
  rw [h] at hs
  cases hs with
  | found header check body =>
    rename_i size
    have hlen : (d.take size).length = size := List.length_take_of_le (Frame.size_le_length body)
    refine ⟨d.take size, (List.take_append_drop size d).symm, ?_⟩
    rw [hlen]
    exact Frame.decode_take body

/-- A check of a header never asks for more bytes. -/
theorem FrameHeader.decided_check (limits : Limits) (h : FrameHeader) :
    Decided (h.check limits) := by
  intro n
  simp only [check, Frame.checkIncoming, Limits.checkFrameSize]
  split
  · intro he
    cases he
  split
  · intro he
    cases he
  split
  · intro he
    cases he
  split
  · intro he
    cases he
  split <;> intro he <;> cases he

/-- A refusal does not ask for more bytes. -/
theorem ne_incompleteFrame_of_scanFrame {limits : Limits} {d : Bytes} {e : Error}
    (h : scanFrame limits d = .refused e) (n : Nat) : e ≠ .incompleteFrame n := by
  have hs := frameScan limits d
  rw [h] at hs
  rintro rfl
  cases hs with
  | headerRefused header decided => exact decided n header
  | checkRefused header check => exact FrameHeader.decided_check limits _ n check

/-! ## Scans and whole streams -/

namespace Frame

variable {limits : Limits} {d rest : Bytes} {frame : Frame} {e : Error}

/-- A frame that is found is the first one of the stream. -/
theorem ofStream_of_found (h : scanFrame limits d = .found frame rest) :
    ofStream limits d = (frame :: (ofStream limits rest).1, (ofStream limits rest).2) := by
  have hs := frameScan limits d
  rw [h] at hs
  cases hs with
  | found header check body =>
    rw [ofStream]
    simp only [header, check]
    split
    · rename_i he
      rw [body] at he
      cases he
      rfl
    · rename_i he
      rw [body] at he
      cases he

/-- A frame that is refused ends the stream. -/
theorem ofStream_of_refused (h : scanFrame limits d = .refused e) :
    ofStream limits d = ([], e) := by
  have hs := frameScan limits d
  rw [h] at hs
  cases hs with
  | headerRefused header decided =>
    rw [ofStream, header]
    have hne : ending e = e := by
      unfold ending
      split
      · rename_i n
        exact absurd header (decided n)
      · rfl
    simp only [hne]
  | checkRefused header check =>
    rw [ofStream]
    simp only [header, check]

/-- A stream that ends before its first frame does is a connection that has closed. -/
theorem ofStream_of_wanting (h : scanFrame limits d = .wanting) :
    ofStream limits d = ([], .connectionClosed none) := by
  have hs := frameScan limits d
  rw [h] at hs
  cases hs with
  | headerWanting header => rw [ofStream, header]; rfl
  | bodyWanting header check body =>
    rw [ofStream]
    simp only [header, check]
    split
    · rename_i he
      rw [body] at he
      cases he
    · rename_i he
      rw [body] at he
      cases he
      rfl

end Frame
end WebSocket
