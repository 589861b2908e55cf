import WebSocket.Proofs.Http.Response
import WebSocket.Proofs.Text.Base64
import WebSocket.Upgrade.Request

/-
What a client reads in the response that accepts its request: the status 101, no body, and the
digest of its key in the field that proves the acceptance (`Request.decode_acceptResponse`).  A
digest is written in characters that print, so it neither ends its line nor loses anything at its
ends when the value of the field is trimmed.
-/
namespace WebSocket
namespace Base64

theorem toNat_symbol : ∀ n < 64, 32 < (symbol n).toNat ∧ (symbol n).toNat < 127 := by
  decide

/-- What writes bytes is printed, and is no space. -/
theorem toNat_of_mem_encode {b : Bytes} {c : Char} (h : c ∈ encode b) :
    32 < c.toNat ∧ c.toNat < 127 := by
  have hgroup : ∀ count n, ∀ d ∈ group count n, 32 < d.toNat ∧ d.toNat < 127 := by
    intro count n d hd
    have hdigit := List.mem_of_mem_take hd
    simp only [List.mem_cons, List.not_mem_nil, or_false] at hdigit
    rcases hdigit with rfl | rfl | rfl | rfl <;>
      exact toNat_symbol _ (Nat.mod_lt _ (by decide))
  have hpad : 32 < '='.toNat ∧ '='.toNat < 127 := by decide
  induction b using encode.induct with
  | case1 => cases h
  | case2 x =>
    rcases List.mem_append.mp h with h | h
    · exact hgroup _ _ c h
    · have hc : c = '=' := by simpa using h
      exact hc ▸ hpad
  | case3 x y =>
    rcases List.mem_append.mp h with h | h
    · exact hgroup _ _ c h
    · have hc : c = '=' := by simpa using h
      exact hc ▸ hpad
  | case4 x y z rest ih =>
    rcases List.mem_append.mp h with h | h
    · exact hgroup _ _ c h
    · exact ih h

end Base64

namespace Text

theorem not_isBlank : ∀ n < 127, 32 < n → isBlank (Char.ofNat n) = false := by
  decide

end Text

namespace Upgrade

open Http (Field Headers Response)

theorem toNat_of_mem_acceptance {key : String} {c : Char} (h : c ∈ (acceptance key).toList) :
    32 < c.toNat ∧ c.toNat < 127 := by
  rw [acceptance, String.toList_ofList] at h
  exact Base64.toNat_of_mem_encode h

namespace Request

/-- The fields of the response that accepts a request. -/
def acceptFields (r : Request) : List Field :=
  [⟨"Upgrade", " websocket"⟩, ⟨"Connection", " Upgrade"⟩,
    ⟨"Sec-WebSocket-Accept", " " ++ acceptance r.key⟩]

theorem acceptResponse_eq (r : Request) : r.acceptResponse = "\r\n".intercalate
    ("HTTP/1.1 101 Switching Protocols" :: r.acceptFields.map Field.line ++ ["", ""]) := by
  have hstatus : "HTTP/1.1 101 Switching Protocols\r\n" =
      "HTTP/1.1 101 Switching Protocols" ++ "\r\n" := by decide
  have hupgrade : "Upgrade: websocket\r\n" = "Upgrade" ++ (":" ++ (" websocket" ++ "\r\n")) := by
    decide
  have hconnection : "Connection: Upgrade\r\n" =
      "Connection" ++ (":" ++ (" Upgrade" ++ "\r\n")) := by decide
  have haccept : "Sec-WebSocket-Accept: " = "Sec-WebSocket-Accept" ++ (":" ++ " ") := by decide
  have hend : "\r\n\r\n" = "\r\n" ++ ("" ++ ("\r\n" ++ "")) := by decide
  unfold acceptResponse acceptFields
  rw [hstatus, hupgrade, hconnection, haccept, hend]
  rw [List.map_cons, List.map_cons, List.map_cons, List.map_nil, List.cons_append, List.cons_append,
    List.cons_append, List.cons_append, List.nil_append]
  simp only [String.intercalate_cons_cons, String.intercalate_singleton]
  simp only [Field.line, String.append_assoc]

theorem name_of_mem_acceptFields {r : Request} {f : Field} (hf : f ∈ r.acceptFields) :
    f.name ∈ ["Upgrade", "Connection", "Sec-WebSocket-Accept"] :=
  List.mem_map_of_mem (f := Field.name) hf

theorem isProper_of_mem_acceptFields {r : Request} {f : Field} (hf : f ∈ r.acceptFields) :
    f.IsProper := by
  have hnames : ∀ name ∈ ["Upgrade", "Connection", "Sec-WebSocket-Accept"], name ≠ "" ∧
      (name.toList.all fun c => !Text.isBlank c) = true ∧ ':' ∉ name.toList := by decide
  obtain ⟨hnamed, hall, hparted⟩ := hnames f.name (name_of_mem_acceptFields hf)
  have hsolid : ∀ c ∈ f.name.toList, Text.isBlank c = false := by simpa using hall
  have hunbroken : Text.IsUnbroken f.line := by
    simp only [acceptFields, List.mem_cons, List.not_mem_nil, or_false] at hf
    rcases hf with rfl | rfl | rfl
    · decide
    · decide
    · have hname : Text.IsUnbroken ("Sec-WebSocket-Accept" ++ ":" ++ " ") := by decide
      have hdigest : Text.IsUnbroken (acceptance r.key) := by
        intro c hc
        have hlow := (toNat_of_mem_acceptance hc).1
        refine ⟨?_, ?_⟩ <;> rintro rfl <;> exact absurd hlow (by decide)
      rw [Field.line, ← String.append_assoc]
      exact hname.append hdigest
  exact ⟨hnamed, hsolid, hparted, hunbroken.whole⟩

theorem get?_acceptFields {name : String} (r : Request) (hone : Headers.isList name = false)
    (hother : ∀ known ∈ ["Upgrade", "Connection", "Sec-WebSocket-Accept"],
      Text.same known name = false) :
    (Field.headers r.acceptFields).get? name = none := by
  rw [Field.get?_headers hone, Field.last?, Option.map_eq_none_iff, List.find?_eq_none]
  intro f hf
  rw [List.mem_reverse] at hf
  rw [Field.isNamed, hother f.name (name_of_mem_acceptFields hf)]
  exact Bool.false_ne_true

/-- What accepts a request is read back as a response without a body, which has the digest of the
key in the field that is for it. -/
theorem decode_acceptResponse (r : Request) :
    ∃ response, Response.decode (Bytes.ofText r.acceptResponse) = .ok response ∧
      response.status = 101 ∧ response.body = [] ∧
        response.headers.get? "Sec-WebSocket-Accept" = some (acceptance r.key) := by
  have hfields : ∀ f ∈ r.acceptFields, f.IsProper := fun f => isProper_of_mem_acceptFields
  have hhead : Response.readHead (Bytes.ofText r.acceptResponse) =
      .ok ("HTTP/1.1 101 Switching Protocols", r.acceptFields.map Field.line ++ ["", ""], []) := by
    have hlines : ∀ l ∈ "HTTP/1.1 101 Switching Protocols" :: r.acceptFields.map Field.line,
        l ≠ "" ∧ ¬ "\r\n".toList <:+: l.toList := by
      intro l hl
      rcases List.mem_cons.mp hl with rfl | hl
      · exact ⟨by decide, by decide⟩
      · obtain ⟨f, hf, rfl⟩ := List.mem_map.mp hl
        exact ⟨(hfields f hf).line_ne, (hfields f hf).whole⟩
    rw [acceptResponse_eq, ← Response.readHead_lines hlines [], List.append_nil]
  have hstatus : Response.readStatusLine "HTTP/1.1 101 Switching Protocols" =
      .ok (101, "Switching Protocols") := by decide
  have hheaders : Response.readHeaders (r.acceptFields.map Field.line ++ ["", ""]) =
      .ok (Field.headers r.acceptFields) := by
    rw [Response.readHeaders, Field.ofLines_lines hfields [""]]
    rfl
  have hframing : Http.Framing.ofHeaders (Field.headers r.acceptFields) = .ok .untilEnd := by
    have hencoding : (Field.headers r.acceptFields).get? "transfer-encoding" = none :=
      r.get?_acceptFields (by decide) (by decide)
    have hlength : (Field.headers r.acceptFields).get? "content-length" = none :=
      r.get?_acceptFields (by decide) (by decide)
    simp [Http.Framing.ofHeaders, Headers.hasToken, hencoding, hlength]
  refine ⟨⟨101, "Switching Protocols", Field.headers r.acceptFields, []⟩, ?_, rfl, rfl, ?_⟩
  · rw [Response.decode, Response.read_eq_ok hhead hstatus hheaders hframing rfl]
    rfl
  · have hlast : Field.last? "Sec-WebSocket-Accept" r.acceptFields =
        some (Text.trim (" " ++ acceptance r.key)) := by
      simp [Field.last?, Field.isNamed, acceptFields]
    have hsolid : ∀ c ∈ (acceptance r.key).toList, Text.isBlank c = false := by
      intro c hc
      obtain ⟨hlow, hhigh⟩ := toNat_of_mem_acceptance hc
      have hblank := Text.not_isBlank c.toNat hhigh hlow
      rwa [Char.ofNat_toNat] at hblank
    rw [Field.get?_headers (by decide), hlast, Headers.trim_space, Text.trim_eq_self hsolid]

end Request
end Upgrade
end WebSocket
