import WebSocket.Proofs.Http.Complete
import WebSocket.Proofs.Http.Entries
import WebSocket.Proofs.Http.Response
import WebSocket.Proofs.Text.Numeral

/-
Responses as they are sent, and what is read of them.  A reply is a status line, header fields and
what stands behind the blank line; which body that is depends on the field that says how the body
ends (`Framing.Sends`).  The bytes of the body may look like anything, also like the end of a chunk:
only sizes tell where it ends.  What is read of a reply is what it means, down to the order of its
fields (`Reply.decode_of_means`).
-/
namespace WebSocket
namespace Http

open Text (IsNumeral IsSolid IsUnbroken)

/-! ## Chunks -/

namespace Chunked

/-- The line that states the size of a chunk: a numeral, and perhaps an extension behind a
semicolon. -/
structure SizeLine where
  numeral : String
  extension? : Option String
deriving DecidableEq

namespace SizeLine

/-- A size line as it is written. -/
def text (l : SizeLine) : String :=
  match l.extension? with
  | none => l.numeral
  | some extension => l.numeral ++ ";" ++ extension

/-- A line that states a size, in hexadecimal digits of either letter case. -/
structure States (l : SizeLine) (size : Nat) : Prop where
  numeral : IsNumeral 16 size l.numeral
  unbroken : ∀ extension, l.extension? = some extension → IsUnbroken extension

variable {l : SizeLine} {size : Nat}

theorem States.isUnbroken_text (h : l.States size) : IsUnbroken l.text := by
  have hnumeral := (h.numeral.isSolid (by decide) (Nat.le_refl 16)).unbroken
  have hmark : IsUnbroken ";" := by decide
  unfold text
  cases hext : l.extension? with
  | none => exact hnumeral
  | some extension => exact (hnumeral.append hmark).append (h.unbroken extension hext)

/-- In front of the first semicolon stands the numeral. -/
theorem States.headD_pieces (h : l.States size) :
    (Text.pieces ";" l.text).headD "" = l.numeral := by
  have hfree : ';' ∉ l.numeral.toList := h.numeral.not_mem (by decide) (Nat.le_refl 16) (by decide)
  have hone : Text.pieces ";" l.numeral = [l.numeral] := by
    refine (Text.pieces_eq_iff_of_char rfl).mpr
      ⟨List.cons_ne_nil _ _, by simp, fun piece hpiece => ?_⟩
    rwa [List.mem_singleton.mp hpiece]
  unfold text
  cases l.extension? with
  | none => simp [hone]
  | some extension =>
    have hsemicolon : Sequence.Unbordered ";".toList := Sequence.unbordered_singleton ';'
    simp [Text.pieces_append hsemicolon (List.cons_ne_nil _ _), hone]

theorem States.readSize_text (h : l.States size) (hsize : size < Text.bound64) :
    readSize (Bytes.ofText l.text) = .ok size := by
  have htrim : Text.trim l.numeral = l.numeral :=
    Text.trim_eq_self (h.numeral.isDense (by decide) (Nat.le_refl 16))
  have hnumber : Text.number? 16 Text.bound64 l.numeral = some size :=
    h.numeral.number?_eq (by decide) (Nat.le_refl 16) hsize
  simp only [readSize, Bytes.text?_ofText, h.headD_pieces, htrim, hnumber]

end SizeLine

/-- A chunk as it is sent. -/
structure Chunk where
  line : SizeLine
  data : Bytes
deriving DecidableEq

namespace Chunk

/-- The bytes of a chunk: its size line and its data, each with a line end behind it. -/
def bytes (c : Chunk) : Bytes :=
  Bytes.ofText c.line.text ++ lineEnd ++ (c.data ++ lineEnd)

/-- A chunk that states its size and is not the last one. -/
structure IsProper (c : Chunk) : Prop where
  stated : c.line.States c.data.length
  nonempty : c.data ≠ []

end Chunk

/-- A size line is what stands before the first line end. -/
theorem cut?_text_append {l : SizeLine} {size : Nat} (h : l.States size) (rest : Bytes) :
    Sequence.cut? lineEnd (Bytes.ofText l.text ++ lineEnd ++ rest) =
      some (Bytes.ofText l.text, rest) := by
  refine cut?_lineEnd_iff.mpr ⟨by rw [List.append_assoc], ?_⟩
  exact Bytes.not_lineEnd_infix h.isUnbroken_text.whole

/-- The chunk at the front is read, whatever its data look like. -/
theorem readChunk_bytes_append {c : Chunk} (h : c.IsProper) {rest : Bytes}
    (hsize : (c.bytes ++ rest).length < Text.bound64) :
    readChunk (c.bytes ++ rest) = .ok (some (c.data, rest)) := by
  have hshape : c.bytes ++ rest =
      Bytes.ofText c.line.text ++ lineEnd ++ (c.data ++ (lineEnd ++ rest)) := by
    simp only [Chunk.bytes, List.append_assoc]
  have hroom : c.data.length + lineEnd.length < Text.bound64 := by
    rw [hshape] at hsize
    simp only [List.length_append] at hsize
    omega
  have hread : readSize (Bytes.ofText c.line.text) = .ok c.data.length :=
    h.stated.readSize_text (by omega)
  have htake : takeChunk c.data.length (c.data ++ (lineEnd ++ rest)) = .ok (c.data, rest) :=
    takeChunk_eq_ok_iff.mpr ⟨hroom, rfl, rfl⟩
  have hzero : c.data.length ≠ 0 := fun hz => h.nonempty (List.length_eq_zero_iff.mp hz)
  rw [hshape, readChunk, cut?_text_append h.stated]
  simp only [hread, if_neg hzero, htake]
  rfl

theorem readChunk_last {l : SizeLine} (h : l.States 0) (rest : Bytes) :
    readChunk (Bytes.ofText l.text ++ lineEnd ++ rest) = .ok none := by
  have hread := h.readSize_text (by decide)
  rw [readChunk, cut?_text_append h]
  simp only [hread, if_pos]

/-- The data of the chunks are read one after the other, up to the chunk of size zero. -/
theorem decodeFrom_bytes {chunks : List Chunk} {last : SizeLine} {extra : Bytes}
    (hchunks : ∀ c ∈ chunks, c.IsProper) (hlast : last.States 0) (found : List Bytes)
    (hsize : (chunks.flatMap Chunk.bytes ++
      (Bytes.ofText last.text ++ lineEnd ++ extra)).length < Text.bound64) :
    decodeFrom found (chunks.flatMap Chunk.bytes ++ (Bytes.ofText last.text ++ lineEnd ++ extra)) =
      .ok (found.reverse ++ chunks.map Chunk.data) := by
  induction chunks generalizing found with
  | nil =>
    rw [List.flatMap_nil, List.nil_append, decodeFrom_of_none (readChunk_last hlast extra)]
    simp
  | cons c chunks ih =>
    obtain ⟨hc, hrest⟩ := List.forall_mem_cons.mp hchunks
    rw [List.flatMap_cons, List.append_assoc] at hsize ⊢
    have hless : (chunks.flatMap Chunk.bytes ++
        (Bytes.ofText last.text ++ lineEnd ++ extra)).length < Text.bound64 := by
      rw [List.length_append] at hsize
      omega
    rw [decodeFrom_of_some (readChunk_bytes_append hc hsize), ih hrest (c.data :: found) hless]
    simp

/-- A body that is sent in chunks is read as the data of all of them. -/
theorem decode_bytes {chunks : List Chunk} {last : SizeLine} {extra : Bytes}
    (hchunks : ∀ c ∈ chunks, c.IsProper) (hlast : last.States 0)
    (hsize : (chunks.flatMap Chunk.bytes ++
      (Bytes.ofText last.text ++ lineEnd ++ extra)).length < Text.bound64) :
    decode (chunks.flatMap Chunk.bytes ++ (Bytes.ofText last.text ++ lineEnd ++ extra)) =
      .ok (chunks.flatMap Chunk.data) := by
  rw [decode, decodeFrom_bytes hchunks hlast [] hsize]
  rfl

end Chunked

/-! ## Bodies -/

/-- Whether a field says how a body ends. -/
def Field.frames (f : Field) : Bool :=
  f.isNamed "content-length" || f.isNamed "transfer-encoding"

/-- How a body is sent: the fields that say how it ends, of which there is one at most, the body,
and the bytes behind the head. -/
inductive Framing.Sends : (announced : List Field) → (body sent : Bytes) → Prop
  /-- The length of the body is stated, and more bytes may follow. -/
  | sized {f : Field} {body : Bytes} (named : f.isNamed "content-length" = true)
      (stated : IsNumeral 10 body.length (Text.trim f.value)) (extra : Bytes) :
      Sends [f] body (body ++ extra)
  /-- The body comes in chunks, cut wherever the sender likes, and more bytes may follow the last
  one. -/
  | chunked {f : Field} (listed : Field.Lists "transfer-encoding" "chunked" [f])
      {chunks : List Chunked.Chunk} (proper : ∀ c ∈ chunks, c.IsProper)
      {last : Chunked.SizeLine} (ended : last.States 0) (extra : Bytes) :
      Sends [f] (chunks.flatMap Chunked.Chunk.data)
        (chunks.flatMap Chunked.Chunk.bytes ++ (Bytes.ofText last.text ++ lineEnd ++ extra))
  /-- The body lasts as long as bytes come. -/
  | untilEnd (body : Bytes) : Sends [] body body

/-- Only the fields that say how a body ends count for how it ends. -/
theorem Framing.ofHeaders_filter (fields : List Field) :
    ofHeaders (Field.headers (fields.filter Field.frames)) = ofHeaders (Field.headers fields) := by
  have hlength : Field.last? "content-length" (fields.filter Field.frames) =
      Field.last? "content-length" fields :=
    Field.last?_filter (fun f hf => by rw [Field.frames, hf, Bool.true_or]) fields
  have hencoding : Field.last? "transfer-encoding" (fields.filter Field.frames) =
      Field.last? "transfer-encoding" fields :=
    Field.last?_filter (fun f hf => by rw [Field.frames, hf, Bool.or_true]) fields
  have hone : Headers.isList "content-length" = false := by decide
  have hone' : Headers.isList "transfer-encoding" = false := by decide
  simp only [ofHeaders, Headers.hasToken, Field.get?_headers hone, Field.get?_headers hone', hlength,
    hencoding]

/-- The fields that announce a body lead to reading it. -/
theorem Framing.Sends.exists_framing {announced : List Field} {body sent : Bytes}
    (h : Sends announced body sent) (hsize : sent.length < Text.bound64) :
    ∃ framing, ofHeaders (Field.headers announced) = .ok framing ∧
      framing.readBody sent = .ok body := by
  have hone : Headers.isList "content-length" = false := by decide
  have hone' : Headers.isList "transfer-encoding" = false := by decide
  cases h with
  | @sized f body named stated extra =>
    have hother : f.isNamed "transfer-encoding" = false := by
      have hsame : Text.same f.name "transfer-encoding" =
          Text.same "content-length" "transfer-encoding" := Headers.same_congr named _
      rw [Field.isNamed, hsame]
      decide
    have hnumber : Text.number? 10 Text.bound64 (Text.trim f.value) = some body.length := by
      refine stated.number?_eq (by decide) (by decide) ?_
      rw [List.length_append] at hsize
      omega
    refine ⟨.sized body.length, ?_, ?_⟩
    · simp [ofHeaders, Headers.hasToken, Field.get?_headers hone, Field.get?_headers hone',
        Field.last?, named, hother, hnumber]
    · simp [readBody]
  | @chunked f listed chunks proper last ended extra =>
    obtain ⟨g, hg, named, piece, hpiece, htoken⟩ := listed
    obtain rfl := List.mem_singleton.mp hg
    have hlist : Text.listHas "chunked" (Text.trim g.value) = true :=
      List.any_eq_true.mpr ⟨piece, hpiece, htoken⟩
    refine ⟨.chunked, ?_, Chunked.decode_bytes proper ended hsize⟩
    simp [ofHeaders, Headers.hasToken, Field.get?_headers hone', Field.last?, named, hlist]
  | untilEnd =>
    refine ⟨.untilEnd, ?_, rfl⟩
    simp [ofHeaders, Headers.hasToken, Field.get?_headers hone, Field.get?_headers hone',
      Field.last?]

/-! ## Replies -/

/-- A response as it is sent: the parts of its status line, its header fields, and what stands
behind the blank line. -/
structure Reply where
  minor : String
  code : String
  reason : String
  fields : List Field
  rest : Bytes
deriving DecidableEq

namespace Reply

/-- The status line. -/
def statusLine (r : Reply) : String :=
  "HTTP/1." ++ r.minor ++ " " ++ r.code ++ " " ++ r.reason

/-- The bytes of a reply, with CR LF between the lines of its head. -/
def bytes (r : Reply) : Bytes :=
  Bytes.ofText ("\r\n".intercalate (r.statusLine :: r.fields.map Field.line ++ ["", ""])) ++ r.rest

/-- The response that a reply means.  Its fields have different names, their values count without
the blanks around them, and what stands behind the head is the body as the fields announce it. -/
structure Means (r : Reply) (response : Response) : Prop where
  minor : IsSolid r.minor
  code : IsNumeral 10 response.status r.code
  status : response.status ≤ 65535
  reason : r.reason = response.reason
  unbroken : IsUnbroken r.reason
  proper : ∀ f ∈ r.fields, f.IsProper
  distinct : Headers.Distinct (r.fields.map Field.name)
  headers : response.headers.entries = r.fields.map Field.entry
  body : Framing.Sends (r.fields.filter Field.frames) response.body r.rest

variable {r : Reply} {response : Response}

theorem Means.isUnbroken_statusLine (h : r.Means response) : IsUnbroken r.statusLine := by
  have hversion : IsUnbroken "HTTP/1." := by decide
  have hspace : IsUnbroken " " := by decide
  have hcode := (h.code.isSolid (by decide) (by decide)).unbroken
  exact (((((hversion.append h.minor.unbroken).append hspace).append hcode).append hspace).append
    h.unbroken)

theorem Means.readStatusLine_statusLine (h : r.Means response) :
    Response.readStatusLine r.statusLine = .ok (response.status, response.reason) := by
  have hversion : ' ' ∉ ("HTTP/1." ++ r.minor).toList := by
    have hsolid : IsSolid ("HTTP/1." ++ r.minor) := IsSolid.append (by decide) h.minor
    exact fun hspace => (hsolid ' ' hspace).1 rfl
  have hcode : ' ' ∉ r.code.toList := fun hspace =>
    (h.code.isSolid (by decide) (by decide) ' ' hspace).1 rfl
  have hfirst : Text.cut? " " r.statusLine =
      some ("HTTP/1." ++ r.minor, r.code ++ " " ++ r.reason) :=
    (Text.cut?_eq_some_iff_of_char rfl).mpr
      ⟨by simp only [statusLine, String.append_assoc], hversion⟩
  have hsecond : Text.cut? " " (r.code ++ " " ++ r.reason) = some (r.code, r.reason) :=
    (Text.cut?_eq_some_iff_of_char rfl).mpr ⟨rfl, hcode⟩
  have hstart : Text.startsWith "HTTP/1." ("HTTP/1." ++ r.minor) = true :=
    Text.startsWith_iff.mpr ⟨r.minor, rfl⟩
  have hnumber : Text.number? 10 Text.bound16 r.code = some response.status :=
    h.code.number?_eq (by decide) (by decide) (Nat.lt_succ_of_le h.status)
  rw [← h.reason]
  simp [Response.readStatusLine, hfirst, hsecond, hstart, hnumber]

theorem Means.headers_eq (h : r.Means response) : Field.headers r.fields = response.headers := by
  rw [Field.headers_of_distinct h.distinct, ← h.headers]

/-- What is read of a reply is the response that it means.  The bytes of a reply are as many as a
size of 64 bits can tell. -/
theorem decode_of_means (h : r.Means response) (hsize : r.bytes.length < Text.bound64) :
    Response.decode r.bytes = .ok response := by
  have hlines : ∀ l ∈ r.statusLine :: r.fields.map Field.line,
      l ≠ "" ∧ ¬ "\r\n".toList <:+: l.toList := by
    intro l hl
    rcases List.mem_cons.mp hl with rfl | hl
    · exact ⟨by simp [statusLine], h.isUnbroken_statusLine.whole⟩
    · obtain ⟨f, hf, rfl⟩ := List.mem_map.mp hl
      exact ⟨(h.proper f hf).line_ne, (h.proper f hf).whole⟩
  have hhead : Response.readHead r.bytes =
      .ok (r.statusLine, r.fields.map Field.line ++ ["", ""], r.rest) :=
    Response.readHead_lines hlines r.rest
  have hheaders : Response.readHeaders (r.fields.map Field.line ++ ["", ""]) =
      .ok response.headers := by
    rw [Response.readHeaders, Field.ofLines_lines h.proper [""], h.headers_eq]
    rfl
  have hrest : r.rest.length < Text.bound64 := by
    rw [bytes, List.length_append] at hsize
    omega
  obtain ⟨framing, hframing, hbody⟩ := h.body.exists_framing hrest
  rw [Framing.ofHeaders_filter, h.headers_eq] at hframing
  rw [Response.decode,
    Response.read_eq_ok hhead h.readStatusLine_statusLine hheaders hframing hbody]
  rfl

/-- A chunk may hold what looks like the end of the body, and a size may be written in large letters
and with zeros before it. -/
theorem decode_of_means_of_chunks :
    let r : Reply :=
      { minor := "1"
        code := "200"
        reason := "OK"
        fields := [⟨"Transfer-Encoding", " chunked"⟩, ⟨"X-Trace", " 1"⟩]
        rest := Bytes.ofText "0B;ext=1\r\nWiki0\r\n\r\n\r\n\r\n4\r\npedi\r\n0\r\n\r\nmore" }
    let response : Response :=
      { status := 200
        reason := "OK"
        headers := ⟨[("Transfer-Encoding", "chunked"), ("X-Trace", "1")]⟩
        body := Bytes.ofText "Wiki0\r\n\r\n\r\npedi" }
    r.Means response ∧ r.bytes.length < Text.bound64 ∧
      Response.decode r.bytes = .ok response := by
  intro r response
  let chunks : List Chunked.Chunk :=
    [⟨⟨"0B", some "ext=1"⟩, Bytes.ofText "Wiki0\r\n\r\n\r\n"⟩, ⟨⟨"4", none⟩, Bytes.ofText "pedi"⟩]
  have hproper : ∀ c ∈ chunks, c.IsProper := by
    intro c hc
    simp only [chunks, List.mem_cons, List.not_mem_nil, or_false] at hc
    rcases hc with rfl | rfl
    · exact ⟨⟨⟨1, by decide⟩, fun e he => Option.some.inj he ▸ by decide⟩, by decide⟩
    · exact ⟨⟨⟨0, by decide⟩, nofun⟩, by decide⟩
  have hlast : Chunked.SizeLine.States ⟨"0", none⟩ 0 := ⟨⟨0, by decide⟩, nofun⟩
  have hlisted : Field.Lists "transfer-encoding" "chunked" [⟨"Transfer-Encoding", " chunked"⟩] :=
    ⟨_, List.mem_singleton_self _, by decide, "chunked", by decide, by decide⟩
  have hmeans : r.Means response := by
    refine ⟨by decide, ⟨0, by decide⟩, by decide, rfl, by decide, ?_, by decide, by decide, ?_⟩
    · intro f hf
      simp only [r, List.mem_cons, List.not_mem_nil, or_false] at hf
      rcases hf with rfl | rfl
      · exact Field.isProper_of_isName (by decide) (by decide) (by decide)
      · exact Field.isProper_of_isName (by decide) (by decide) (by decide)
    · have hsends := Framing.Sends.chunked hlisted hproper hlast (Bytes.ofText "\r\nmore")
      have hannounced : r.fields.filter Field.frames =
          [⟨"Transfer-Encoding", " chunked"⟩] := by decide
      have hbody : response.body = chunks.flatMap Chunked.Chunk.data := by decide
      have hrest : r.rest = chunks.flatMap Chunked.Chunk.bytes ++
          (Bytes.ofText "0" ++ lineEnd ++ Bytes.ofText "\r\nmore") := by decide
      rw [hannounced, hbody, hrest]
      exact hsends
  have hsize : r.bytes.length < Text.bound64 := by decide
  exact ⟨hmeans, hsize, decode_of_means hmeans hsize⟩

end Reply
end Http
end WebSocket
