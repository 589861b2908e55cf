import WebSocket.Http.Client
import WebSocket.Proofs.Http.Response

/-
The lines of a request.  The head of a request is written line by line, and each line ends where it
is meant to as long as no line break stands in what the line is made of.  Of what a caller gives,
the values of fields are checked for line breaks (`Client.encodeRequest_eq`) and their names are
not, so a name can hold what looks like the end of its line.  `Client.lines_encodeRequest` says
that nothing else can: the lines are those that were meant exactly when no name holds a line end.
-/
namespace WebSocket
namespace Http
namespace Client

open Text (IsUnbroken IsSolid)

/-! ## What is checked -/

/-- Whether a value would break its line. -/
def isBroken (field : String × String) : Bool :=
  field.2.toList.any fun c => c == '\r' || c == '\n'

theorem isBroken_eq_false_iff {field : String × String} :
    isBroken field = false ↔ IsUnbroken field.2 := by
  simp [isBroken, IsUnbroken]

theorem checkFields_eq (fields : List (String × String)) :
    checkFields fields =
      match fields.find? isBroken with
      | some field => .error (.invalidHeaderValue field.1 .lineBreak)
      | none => .ok () := by
  induction fields with
  | nil => rfl
  | cons field rest ih =>
    obtain ⟨name, value⟩ := field
    have hcheck : Headers.checkValue name value =
        if isBroken (name, value) then .error (.invalidHeaderValue name .lineBreak) else .ok () :=
      rfl
    rw [checkFields, List.find?_cons, hcheck]
    cases isBroken (name, value) with
    | true => rfl
    | false => exact ih

/-- A request is written unless a value would break its line: the client's own name, or the value
of a field of the caller's.  The first such field is reported. -/
theorem encodeRequest_eq (c : Client) (method : String) (t : Target) (h : Headers) (body : Bytes) :
    c.encodeRequest method t h body =
      match (("User-Agent", c.userAgent) :: callerFields h).find? isBroken with
      | some field => .error (.invalidHeaderValue field.1 .lineBreak)
      | none => .ok (Bytes.ofText (c.head method t h body) ++ body) := by
  have hchecks : c.encodeRequest method t h body =
      (checkFields (("User-Agent", c.userAgent) :: callerFields h)).bind fun _ =>
        .ok (Bytes.ofText (c.head method t h body) ++ body) := by
    rw [checkFields, encodeRequest]
    cases Headers.checkValue "User-Agent" c.userAgent <;> rfl
  rw [hchecks, checkFields_eq]
  cases (("User-Agent", c.userAgent) :: callerFields h).find? isBroken <;> rfl

/-! ## The lines -/

/-- A field as a request writes it, without the end of its line. -/
def fieldText (field : String × String) : String :=
  field.1 ++ ": " ++ field.2

/-- A target whose parts hold neither spaces nor line breaks. -/
structure Target.IsSolid (t : Target) : Prop where
  host : Text.IsSolid t.host.text
  path : Text.IsSolid t.path
  query : ∀ query, t.query = some query → Text.IsSolid query

theorem Target.IsSolid.line {t : Target} (h : t.IsSolid) : Text.IsSolid t.line := by
  have hmark : Text.IsSolid "?" := by decide
  unfold Target.line
  cases hq : t.query with
  | none => exact h.path
  | some query => exact (h.path.append hmark).append (h.query query hq)

theorem Target.IsSolid.hostField {t : Target} (h : t.IsSolid) : Text.IsSolid t.hostField := by
  have hcolon : Text.IsSolid ":" := by decide
  unfold Target.hostField
  cases t.port with
  | none => exact h.host
  | some port => exact (h.host.append hcolon).append (Text.isSolid_toString port)

theorem isSolid_of_isMethod {method : String} (h : isMethod method = true) : IsSolid method := by
  intro c hc
  have hupper := List.all_eq_true.mp (Bool.and_eq_true_iff.mp h).2 c hc
  refine ⟨?_, ?_, ?_⟩ <;> rintro rfl <;> exact absurd hupper (by decide)

/-- The first line of a request. -/
def requestLine (method : String) (t : Target) : String :=
  method ++ " " ++ t.line ++ " HTTP/1.1"

/-- The request line is the method, the target and the version, with spaces between them. -/
theorem pieces_requestLine {method : String} {t : Target} (hm : IsSolid method) (ht : t.IsSolid) :
    Text.pieces " " (requestLine method t) = [method, t.line, "HTTP/1.1"] := by
  refine (Text.pieces_eq_iff_of_char rfl).mpr ⟨List.cons_ne_nil _ _, ?_, fun piece hpiece => ?_⟩
  · rw [← String.toList_inj]
    simp [requestLine]
  · simp only [List.mem_cons, List.not_mem_nil, or_false] at hpiece
    rcases hpiece with rfl | rfl | rfl
    · exact fun hspace => (hm ' ' hspace).1 rfl
    · exact fun hspace => (ht.line ' ' hspace).1 rfl
    · decide

theorem isUnbroken_requestLine {method : String} {t : Target} (hm : IsSolid method)
    (ht : t.IsSolid) : IsUnbroken (requestLine method t) := by
  have hspace : IsUnbroken " " := by decide
  have hversion : IsUnbroken " HTTP/1.1" := by decide
  exact ((hm.unbroken.append hspace).append ht.line.unbroken).append hversion

/-- The line of a field whose value is unbroken ends too early only if the name holds a line
end. -/
theorem infix_fieldText_iff {field : String × String} (h : IsUnbroken field.2) :
    "\r\n".toList <:+: (fieldText field).toList ↔ "\r\n".toList <:+: field.1.toList := by
  have hcolon : IsUnbroken ": " := by decide
  rw [fieldText, Text.whole_append_iff h, Text.whole_append_iff hcolon]

/-- The lines of the fields that the client writes itself end where they are meant to. -/
theorem not_infix_fieldText_of_own {name value : String}
    (hname : name ∈ ["Host", "User-Agent", "Connection", "Content-Length"])
    (hvalue : IsUnbroken value) : ¬ "\r\n".toList <:+: (fieldText (name, value)).toList := by
  have hnames : ∀ own ∈ ["Host", "User-Agent", "Connection", "Content-Length"],
      ¬ "\r\n".toList <:+: own.toList := by
    decide
  exact fun hin => hnames name hname ((infix_fieldText_iff hvalue).mp hin)

theorem fieldText_ne (field : String × String) : fieldText field ≠ "" := by
  intro h
  have hcolon := (String.append_eq_empty_iff.mp (String.append_eq_empty_iff.mp h).1).2
  exact absurd hcolon (by decide)

theorem head_eq (c : Client) (method : String) (t : Target) (h : Headers) (body : Bytes) :
    c.head method t h body = "\r\n".intercalate
      (requestLine method t :: (c.fields method t h body).map fieldText ++ ["", ""]) := by
  have hfields : ∀ (line : String) (fields : List (String × String)),
      line ++ "\r\n" ++ String.join (fields.map fieldLine) ++ "\r\n" =
        "\r\n".intercalate (line :: fields.map fieldText ++ ["", ""]) := by
    intro line fields
    induction fields generalizing line with
    | nil =>
      rw [← String.toList_inj]
      simp
    | cons field rest ih =>
      rw [List.map_cons, List.map_cons, List.cons_append, List.cons_append,
        String.intercalate_cons_cons, ← List.cons_append, ← ih (fieldText field),
        ← String.toList_inj]
      simp [fieldLine, fieldText, String.join_cons]
  rw [← hfields, head, requestLine, ← String.toList_inj]
  simp

/-- The lines that a request is meant to have, with those that are left blank at its end. -/
def headLines (c : Client) (method : String) (t : Target) (h : Headers) (body : Bytes) :
    List String :=
  [requestLine method t, "Host: " ++ t.hostField, "User-Agent: " ++ c.userAgent,
    "Connection: close"] ++
    (callerFields h).map fieldText ++ (lengthField method body).map fieldText ++ ["", ""]

theorem headLines_eq (c : Client) (method : String) (t : Target) (h : Headers) (body : Bytes) :
    c.headLines method t h body =
      requestLine method t :: (c.fields method t h body).map fieldText ++ ["", ""] := by
  have hhost : "Host: " ++ t.hostField = fieldText ("Host", t.hostField) := rfl
  have hagent : "User-Agent: " ++ c.userAgent = fieldText ("User-Agent", c.userAgent) := rfl
  have hconnection : "Connection: close" = fieldText ("Connection", "close") := by decide
  simp only [headLines, fields, hhost, hagent, hconnection, List.map_append, List.map_cons,
    List.cons_append, List.nil_append, List.append_assoc]

section Lines

variable {c : Client} {method : String} {t : Target} {h : Headers} {body : Bytes}

/-- When a request is written, only the name of a field of the caller's can break a line. -/
theorem infix_mem_fields_iff (ht : t.IsSolid)
    (hwritten : (("User-Agent", c.userAgent) :: callerFields h).find? isBroken = none)
    (method : String) (body : Bytes) :
    (∃ field ∈ c.fields method t h body, "\r\n".toList <:+: (fieldText field).toList) ↔
      ∃ field ∈ callerFields h, "\r\n".toList <:+: field.1.toList := by
  have hvalues := List.find?_eq_none.mp hwritten
  have hunbroken : ∀ field ∈ ("User-Agent", c.userAgent) :: callerFields h, IsUnbroken field.2 :=
    fun field hfield => isBroken_eq_false_iff.mp (Bool.eq_false_iff.mpr (hvalues field hfield))
  have hlength : ∀ field ∈ lengthField method body,
      ¬ "\r\n".toList <:+: (fieldText field).toList := by
    intro field hfield hin
    unfold lengthField at hfield
    split at hfield
    · obtain rfl := List.mem_singleton.mp hfield
      exact not_infix_fieldText_of_own (by simp) (Text.isSolid_toString _).unbroken hin
    · exact absurd hfield List.not_mem_nil
  have hclose : IsUnbroken "close" := by decide
  constructor
  · rintro ⟨field, hfield, hin⟩
    simp only [fields, List.mem_append, List.mem_cons, List.not_mem_nil, or_false] at hfield
    rcases hfield with ((rfl | rfl | rfl) | hcaller) | hlast
    · exact absurd hin (not_infix_fieldText_of_own (by simp) ht.hostField.unbroken)
    · exact absurd hin (not_infix_fieldText_of_own (by simp) (hunbroken _ List.mem_cons_self))
    · exact absurd hin (not_infix_fieldText_of_own (by simp) hclose)
    · rw [infix_fieldText_iff (hunbroken _ (List.mem_cons_of_mem _ hcaller))] at hin
      exact ⟨field, hcaller, hin⟩
    · exact absurd hin (hlength field hlast)
  · rintro ⟨field, hcaller, hin⟩
    refine ⟨field, ?_, ?_⟩
    · simp only [fields, List.mem_append]
      exact .inl (.inr hcaller)
    · exact (infix_fieldText_iff (hunbroken _ (List.mem_cons_of_mem _ hcaller))).mpr hin

/-- The lines of a head are those that were meant exactly when no field breaks its line. -/
theorem lines_head_iff (hm : IsSolid method) (ht : t.IsSolid) :
    Text.lines (c.head method t h body) = c.headLines method t h body ↔
      ∀ field ∈ c.fields method t h body, ¬ "\r\n".toList <:+: (fieldText field).toList := by
  rw [Text.lines, Text.pieces_eq_iff unbordered_lineEnd (List.cons_ne_nil _ _), headLines_eq,
    ← head_eq]
  have hfirst := (isUnbroken_requestLine hm ht).whole
  constructor
  · intro hpieces field hfield
    exact hpieces.2.2 _ (by simp [List.mem_map_of_mem hfield])
  · intro hfields
    refine ⟨by simp, rfl, fun piece hpiece => ?_⟩
    simp only [List.cons_append, List.mem_cons, List.mem_append, List.mem_map, List.not_mem_nil,
      or_false] at hpiece
    rcases hpiece with rfl | ⟨field, hfield, rfl⟩ | rfl | rfl
    · exact hfirst
    · exact hfields field hfield
    · decide
    · decide

/-- No line in front of the blank one is empty, and each keeps to itself when the fields do. -/
theorem whole_of_mem_lines (hm : IsSolid method) (ht : t.IsSolid)
    (hfields : ∀ field ∈ c.fields method t h body, ¬ "\r\n".toList <:+: (fieldText field).toList) :
    ∀ line ∈ requestLine method t :: (c.fields method t h body).map fieldText,
      line ≠ "" ∧ ¬ "\r\n".toList <:+: line.toList := by
  intro line hline
  rcases List.mem_cons.mp hline with rfl | hmem
  · exact ⟨by simp [requestLine], (isUnbroken_requestLine hm ht).whole⟩
  · obtain ⟨field, hfield, rfl⟩ := List.mem_map.mp hmem
    exact ⟨fieldText_ne field, hfields field hfield⟩

/-- The first blank line of a request whose fields keep to their lines ends the head. -/
theorem headSize?_head (hm : IsSolid method) (ht : t.IsSolid)
    (hfields : ∀ field ∈ c.fields method t h body, ¬ "\r\n".toList <:+: (fieldText field).toList) :
    headSize? (Bytes.ofText (c.head method t h body) ++ body) =
      some (Bytes.ofText (c.head method t h body)).length := by
  refine headSize?_append ?_ body
  have hbytes : Bytes.ofText (c.head method t h body) =
      lineEnd.intercalate ((requestLine method t ::
        (c.fields method t h body).map fieldText).map Bytes.ofText ++ [[], []]) := by
    rw [head_eq, Bytes.ofText_intercalate, List.map_append]
    rfl
  rw [hbytes]
  refine headSize?_intercalate (List.cons_ne_nil _ _) fun line hline => ?_
  obtain ⟨text, htext, rfl⟩ := List.mem_map.mp hline
  have hmade := whole_of_mem_lines hm ht hfields text htext
  exact ⟨fun hnil => hmade.1 (Bytes.ofText_inj hnil), Bytes.not_lineEnd_infix hmade.2⟩

/-- What a caller can do to the head of a request.  A value that would break its line is refused,
whether it is that of a field or the client's own name.  Of a request that is written the lines are
the request line, the client's own fields, the caller's fields and at most one length, and the
first blank line ends them, with the body behind it, exactly as long as no name holds a line
end. -/
theorem lines_encodeRequest (c : Client) (method : String) (t : Target) (h : Headers)
    (body : Bytes) (hm : isMethod method = true) (ht : t.IsSolid) :
    (∀ e, c.encodeRequest method t h body = .error e ↔
      ∃ field, (("User-Agent", c.userAgent) :: callerFields h).find? isBroken = some field ∧
        e = .invalidHeaderValue field.1 .lineBreak) ∧
    Text.pieces " " (requestLine method t) = [method, t.line, "HTTP/1.1"] ∧
    (lengthField method body).length ≤ 1 ∧
    ∀ bytes, c.encodeRequest method t h body = .ok bytes →
      ∃ head, bytes = Bytes.ofText head ++ body ∧
        (Text.lines head = c.headLines method t h body ↔
          ∀ field ∈ callerFields h, ¬ "\r\n".toList <:+: field.1.toList) ∧
        ((∀ field ∈ callerFields h, ¬ "\r\n".toList <:+: field.1.toList) →
          headSize? bytes = some (Bytes.ofText head).length) := by
  have hmethod := isSolid_of_isMethod hm
  refine ⟨fun e => ?_, pieces_requestLine hmethod ht, ?_, fun bytes hbytes => ?_⟩
  · rw [encodeRequest_eq]
    cases (("User-Agent", c.userAgent) :: callerFields h).find? isBroken with
    | none => simp
    | some field => simp [eq_comm]
  · unfold lengthField
    split <;> simp
  · rw [encodeRequest_eq] at hbytes
    cases hwritten : (("User-Agent", c.userAgent) :: callerFields h).find? isBroken with
    | some field => simp [hwritten] at hbytes
    | none =>
      simp only [hwritten, Except.ok.injEq] at hbytes
      have hnames : (∀ field ∈ c.fields method t h body,
            ¬ "\r\n".toList <:+: (fieldText field).toList) ↔
          ∀ field ∈ callerFields h, ¬ "\r\n".toList <:+: field.1.toList := by
        have hexists := not_congr (infix_mem_fields_iff ht hwritten method body)
        push Not at hexists
        exact hexists
      refine ⟨c.head method t h body, hbytes.symm, ?_, fun hwhole => ?_⟩
      · rw [← hnames]
        exact lines_head_iff hmethod ht
      · rw [← hbytes]
        exact headSize?_head hmethod ht (hnames.mpr hwhole)

end Lines

/-- The root of a server on this machine. -/
def rootTarget : Target :=
  { host := .ipv4 ⟨127, 0, 0, 1⟩, port := none, path := "/", query := none }

theorem rootTarget_isSolid : rootTarget.IsSolid where
  host := by decide
  path := by decide
  query := nofun

/-- A request with a field of the caller's has five lines in front of the blank one. -/
theorem lines_encodeRequest_of_trace :
    let h := Headers.empty.insert "X-Trace" "1"
    isMethod "GET" = true ∧ rootTarget.IsSolid ∧
      ∃ head, default.encodeRequest "GET" rootTarget h [] = .ok (Bytes.ofText head ++ []) ∧
        Text.lines head =
          ["GET / HTTP/1.1", "Host: 127.0.0.1", "User-Agent: wsgate/0.1.0", "Connection: close",
            "X-Trace: 1", "", ""] ∧
        headSize? (Bytes.ofText head ++ []) = some (Bytes.ofText head).length := by
  intro h
  have hm : isMethod "GET" = true := by decide
  obtain ⟨-, -, -, hwritten⟩ := lines_encodeRequest default "GET" rootTarget h [] hm
    rootTarget_isSolid
  have hok : default.encodeRequest "GET" rootTarget h [] =
      .ok (Bytes.ofText (default.head "GET" rootTarget h []) ++ []) := by
    rw [encodeRequest_eq]
    rfl
  obtain ⟨head, hbytes, hlines, hsize⟩ := hwritten _ hok
  have hnames : ∀ field ∈ callerFields h, ¬ "\r\n".toList <:+: field.1.toList := by
    decide
  refine ⟨hm, rootTarget_isSolid, head, hbytes ▸ hok, (hlines.mpr hnames).trans (by decide), ?_⟩
  rw [← hbytes]
  exact hsize hnames

/-- A name can put a line of its own among those that were meant. -/
theorem not_forall_lines_head_eq :
    ¬ ∀ (c : Client) (method : String) (t : Target) (h : Headers) (body bytes : Bytes),
      isMethod method = true → t.IsSolid → c.encodeRequest method t h body = .ok bytes →
      ∃ head, bytes = Bytes.ofText head ++ body ∧
        Text.lines head = c.headLines method t h body := by
  intro hall
  have hok : default.encodeRequest "GET" rootTarget
      (Headers.empty.insert "X-A: 1\r\nInjected" "2") [] =
      .ok (Bytes.ofText (default.head "GET" rootTarget
        (Headers.empty.insert "X-A: 1\r\nInjected" "2") []) ++ []) := by
    rw [encodeRequest_eq]
    rfl
  obtain ⟨head, hbytes, hlines⟩ := hall _ _ _ _ _ _ (by decide) rootTarget_isSolid hok
  rw [List.append_nil, List.append_nil] at hbytes
  rw [← Bytes.ofText_inj hbytes] at hlines
  revert hlines
  decide

end Client
end Http
end WebSocket
