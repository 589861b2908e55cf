import WebSocket.Proofs.Http.Entries
import WebSocket.Proofs.Http.Request

/-
What a server reads of a request.  Every field is written on a line from which it is read back, and
no two of them have the same name: the client's own names differ, the caller's do since they come
from headers, and a caller's field is only forwarded when its name is none of the client's own.  So
nothing is merged or replaced when the lines are read, and the entries are those that were written
(`Client.ofLines_encodeRequest`).
-/
namespace WebSocket
namespace Http

namespace Client

open Text (IsUnbroken)

/-! ## Fields on their lines -/

/-- A field that can be read from its line.  A name is not empty and holds no blank. -/
structure IsReadable (field : String × String) : Prop where
  named : Headers.isName field.1 = true
  parted : ':' ∉ field.1.toList
  unbroken : IsUnbroken field.2

/-- A field as it stands on its line, with a space in front of the value. -/
def lineField (field : String × String) : Field :=
  ⟨field.1, " " ++ field.2⟩

theorem line_lineField (field : String × String) : (lineField field).line = fieldText field := by
  rw [← String.toList_inj]
  simp [lineField, Field.line, fieldText]

theorem IsReadable.whole {field : String × String} (h : IsReadable field) :
    ¬ "\r\n".toList <:+: (fieldText field).toList := by
  intro hin
  have hreturn : '\r' ∈ field.1.toList :=
    ((infix_fieldText_iff h.unbroken).mp hin).subset List.mem_cons_self
  exact absurd ((Field.isName_iff.mp h.named).2 '\r' hreturn) (by decide)

theorem IsReadable.isProper {field : String × String} (h : IsReadable field) :
    (lineField field).IsProper := by
  refine Field.isProper_of_isName h.named h.parted ?_
  rw [line_lineField]
  exact h.whole

/-! ## Names -/

section Names

variable {own name : String}

theorem isOwn_congr (h : Text.same own name = true) : isOwn own = isOwn name := by
  unfold isOwn
  congr 1
  funext known
  rw [Text.same_comm, Headers.same_congr h, Text.same_comm]

theorem same_eq_false_of_isOwn (hown : isOwn own = true) (hname : isOwn name = false) :
    Text.same own name = false := by
  rw [Bool.eq_false_iff]
  intro hsame
  rw [isOwn_congr hsame, hname] at hown
  cases hown

theorem isOwn_of_mem_callerFields {h : Headers} (hname : name ∈ (callerFields h).map Prod.fst) :
    isOwn name = false := by
  obtain ⟨field, hfield, rfl⟩ := List.mem_map.mp hname
  simpa using (List.mem_filter.mp hfield).2

theorem eq_of_mem_lengthField {method : String} {body : Bytes} {field : String × String}
    (h : field ∈ lengthField method body) : field = ("Content-Length", toString body.length) := by
  unfold lengthField at h
  split at h
  · exact List.mem_singleton.mp h
  · exact absurd h List.not_mem_nil

end Names

section Request

variable {c : Client} {method : String} {t : Target} {h : Headers} {body : Bytes}

/-- The names of the fields of a request differ. -/
theorem distinct_fields (hd : Headers.Distinct h.names) :
    Headers.Distinct ((c.fields method t h body).map Prod.fst) := by
  have hcaller : Headers.Distinct ((callerFields h).map Prod.fst) :=
    List.Pairwise.sublist (List.filter_sublist.map Prod.fst) hd
  have hfirst : Headers.Distinct ["Host", "User-Agent", "Connection"] := by decide
  have hown : ∀ own ∈ ["Host", "User-Agent", "Connection"],
      isOwn own = true ∧ Text.same own "Content-Length" = false := by decide
  have hlast : isOwn "Content-Length" = true := by decide
  have hlength : Headers.Distinct ((lengthField method body).map Prod.fst) := by
    unfold lengthField
    split
    · exact List.pairwise_singleton _ _
    · exact List.Pairwise.nil
  have hnames : (c.fields method t h body).map Prod.fst =
      ["Host", "User-Agent", "Connection"] ++ (callerFields h).map Prod.fst ++
        (lengthField method body).map Prod.fst := by
    simp only [fields, List.map_append, List.map_cons, List.map_nil]
  rw [hnames]
  refine List.pairwise_append.mpr ⟨List.pairwise_append.mpr ⟨hfirst, hcaller, ?_⟩, hlength, ?_⟩
  · exact fun own ho name hname =>
      same_eq_false_of_isOwn (hown own ho).1 (isOwn_of_mem_callerFields hname)
  · intro name hname stated hstated
    obtain ⟨field, hfield, rfl⟩ := List.mem_map.mp hstated
    rw [eq_of_mem_lengthField hfield]
    rcases List.mem_append.mp hname with hfront | hforwarded
    · exact (hown name hfront).2
    · rw [Text.same_comm]
      exact same_eq_false_of_isOwn hlast (isOwn_of_mem_callerFields hforwarded)

theorem isReadable_of_mem_fields (ht : t.IsSolid) (hagent : IsUnbroken c.userAgent)
    (hcaller : ∀ field ∈ callerFields h, IsReadable field) :
    ∀ field ∈ c.fields method t h body, IsReadable field := by
  have hown : ∀ name ∈ ["Host", "User-Agent", "Connection", "Content-Length"],
      Headers.isName name = true ∧ ':' ∉ name.toList := by decide
  have hread : ∀ {name value : String},
      name ∈ ["Host", "User-Agent", "Connection", "Content-Length"] → IsUnbroken value →
        IsReadable (name, value) :=
    fun hname hvalue => ⟨(hown _ hname).1, (hown _ hname).2, hvalue⟩
  intro field hfield
  simp only [fields, List.mem_append, List.mem_cons, List.not_mem_nil, or_false] at hfield
  rcases hfield with ((rfl | rfl | rfl) | hforwarded) | hlast
  · exact hread (by simp) ht.hostField.unbroken
  · exact hread (by simp) hagent
  · exact hread (by simp) (by decide)
  · exact hcaller field hforwarded
  · rw [eq_of_mem_lengthField hlast]
    exact hread (by simp) (Text.isSolid_toString _).unbroken

/-- The lines of a request, and what stands behind them. -/
theorem readHead_head (hm : isMethod method = true) (ht : t.IsSolid)
    (hfields : ∀ field ∈ c.fields method t h body, IsReadable field) :
    Response.readHead (Bytes.ofText (c.head method t h body) ++ body) =
      .ok (requestLine method t, (c.fields method t h body).map fieldText ++ ["", ""], body) := by
  have hlines := whole_of_mem_lines (isSolid_of_isMethod hm) ht fun field hfield =>
    (hfields field hfield).whole
  rw [head_eq]
  exact Response.readHead_lines hlines body

/-- The fields of a request are read from their lines. -/
theorem ofLines_fields (hd : Headers.Distinct h.names)
    (hfields : ∀ field ∈ c.fields method t h body, IsReadable field) :
    Headers.ofLines ((c.fields method t h body).map fieldText ++ ["", ""]) =
      .ok ⟨(c.fields method t h body).map fun field => (field.1, Text.trim field.2)⟩ := by
  have hproper : ∀ f ∈ (c.fields method t h body).map lineField, f.IsProper := by
    intro f hf
    obtain ⟨field, hfield, rfl⟩ := List.mem_map.mp hf
    exact (hfields field hfield).isProper
  have hnames : Headers.Distinct (((c.fields method t h body).map lineField).map Field.name) := by
    rw [List.map_map]
    exact distinct_fields hd
  have hlines : (c.fields method t h body).map fieldText =
      ((c.fields method t h body).map lineField).map Field.line := by
    rw [List.map_map]
    exact List.map_congr_left fun field _ => (line_lineField field).symm
  have hentries : ((c.fields method t h body).map lineField).map Field.entry =
      (c.fields method t h body).map fun field => (field.1, Text.trim field.2) := by
    rw [List.map_map]
    refine List.map_congr_left fun field _ => ?_
    simp only [Function.comp_apply, Field.entry, lineField, Headers.trim_space]
  rw [hlines, Field.ofLines_lines hproper, Field.headers_of_distinct hnames, hentries]

end Request

/-! ## What is read -/

/-- The length that a request states. -/
def statedLength (method : String) (body : Bytes) : Option String :=
  if body ≠ [] ∨ method ∈ ["POST", "PUT", "PATCH"] then some (toString body.length) else none

/-- The entries that a server reads: those of the client, those that are forwarded for the caller,
and the length. -/
def readEntries (c : Client) (method : String) (t : Target) (h : Headers) (body : Bytes) :
    List (String × String) :=
  [("Host", Text.trim t.hostField), ("User-Agent", Text.trim c.userAgent),
    ("Connection", "close")] ++
    ((h.entries.filter fun field =>
      ["host", "user-agent", "connection", "content-length"].all fun own =>
        !Text.same own field.1).map fun field => (field.1, Text.trim field.2)) ++
    (statedLength method body).toList.map fun length => ("Content-Length", length)

theorem lengthField_eq (method : String) (body : Bytes) : lengthField method body =
    (statedLength method body).toList.map fun length => ("Content-Length", length) := by
  have hcond : (!body.isEmpty || bodyMethods.contains method) = true ↔
      body ≠ [] ∨ method ∈ ["POST", "PUT", "PATCH"] := by
    rw [Bool.or_eq_true, Bool.not_eq_true', List.isEmpty_eq_false_iff, List.contains_iff_mem]
    rfl
  rw [lengthField, statedLength]
  by_cases hlength : body ≠ [] ∨ method ∈ ["POST", "PUT", "PATCH"]
  · rw [if_pos hlength, if_pos (hcond.mpr hlength)]
    rfl
  · rw [if_neg hlength, if_neg (mt hcond.mp hlength)]
    rfl

theorem callerFields_eq (h : Headers) : callerFields h = h.entries.filter fun field =>
    ["host", "user-agent", "connection", "content-length"].all fun own =>
      !Text.same own field.1 := by
  refine List.filter_congr fun field _ => ?_
  rw [isOwn, ownNames, ← List.not_any_eq_all_not]

theorem map_trim_fields (c : Client) (method : String) (t : Target) (h : Headers) (body : Bytes) :
    ((c.fields method t h body).map fun field => (field.1, Text.trim field.2)) =
      c.readEntries method t h body := by
  have hclose : Text.trim "close" = "close" := by decide
  have hlength : ∀ field ∈ lengthField method body, (field.1, Text.trim field.2) = field := by
    intro field hfield
    rw [eq_of_mem_lengthField hfield, Text.trim_toString]
  rw [fields, List.map_append, List.map_append, List.map_congr_left hlength, List.map_id',
    callerFields_eq, lengthField_eq, readEntries]
  simp only [List.map_cons, List.map_nil, hclose]

theorem distinct_readEntries {h : Headers} (hd : Headers.Distinct h.names) (c : Client)
    (method : String) (t : Target) (body : Bytes) :
    Headers.Distinct ((c.readEntries method t h body).map Prod.fst) := by
  rw [← map_trim_fields, List.map_map]
  exact distinct_fields hd

/-- Under a name of the client's own a server reads what the client wrote. -/
theorem get?_of_readEntries {h read : Headers} {c : Client} {method : String} {t : Target}
    {body : Bytes} (hd : Headers.Distinct h.names)
    (hread : read.entries = c.readEntries method t h body) :
    read.get? "host" = some (Text.trim t.hostField) ∧
      read.get? "user-agent" = some (Text.trim c.userAgent) ∧
      read.get? "connection" = some "close" ∧
      read.get? "content-length" = statedLength method body := by
  have hdistinct := distinct_readEntries hd c method t body
  have hhost : ("Host", Text.trim t.hostField) ∈ c.readEntries method t h body := by
    simp [readEntries]
  have hagent : ("User-Agent", Text.trim c.userAgent) ∈ c.readEntries method t h body := by
    simp [readEntries]
  have hclose : ("Connection", "close") ∈ c.readEntries method t h body := by simp [readEntries]
  simp only [Headers.get?, hread]
  refine ⟨Headers.valueAmong?_of_mem hdistinct hhost (by decide),
    Headers.valueAmong?_of_mem hdistinct hagent (by decide),
    Headers.valueAmong?_of_mem hdistinct hclose (by decide), ?_⟩
  cases hlength : statedLength method body with
  | some length =>
    have hmem : ("Content-Length", length) ∈ c.readEntries method t h body := by
      simp [readEntries, hlength]
    exact Headers.valueAmong?_of_mem hdistinct hmem (by decide)
  | none =>
    have hfirst : ∀ own ∈ ["Host", "User-Agent", "Connection"],
        Text.same own "content-length" = false := by decide
    refine Headers.valueAmong?_eq_none fun known hknown => ?_
    rw [← map_trim_fields, List.map_map, fields, lengthField_eq, hlength] at hknown
    simp only [List.map_append, List.mem_append, Option.toList_none, List.map_nil, List.not_mem_nil,
      or_false] at hknown
    rcases hknown with hown | hforwarded
    · exact hfirst known hown
    · rw [Text.same_comm]
      exact same_eq_false_of_isOwn (by decide) (isOwn_of_mem_callerFields hforwarded)

/-- What a server reads of a request.  A request whose fields can be read from their lines is
written, its first line is the method, the target and the version, the lines behind it are read as
the entries that were to be sent, and the body stands behind them.  Of the entries no two have the
same name, and those under the client's own names are the client's, whatever the caller gave. -/
theorem ofLines_encodeRequest (c : Client) (method : String) (t : Target)
    (changes : List Headers.Change) (body : Bytes) (hm : isMethod method = true) (ht : t.IsSolid)
    (hagent : IsUnbroken c.userAgent)
    (hcaller : ∀ field ∈ (Headers.after changes).entries, IsReadable field) :
    ∃ (bytes : Bytes) (lines : List String) (read : Headers),
      c.encodeRequest method t (Headers.after changes) body = .ok bytes ∧
      Response.readHead bytes = .ok (method ++ " " ++ t.line ++ " HTTP/1.1", lines, body) ∧
      Headers.ofLines lines = .ok read ∧
      read.entries = c.readEntries method t (Headers.after changes) body ∧
      Headers.Distinct read.names ∧
      read.get? "host" = some (Text.trim t.hostField) ∧
      read.get? "user-agent" = some (Text.trim c.userAgent) ∧
      read.get? "connection" = some "close" ∧
      read.get? "content-length" = statedLength method body := by
  have hd := Headers.distinct_after changes
  generalize Headers.after changes = h at hcaller hd ⊢
  have hforwarded : ∀ field ∈ callerFields h, IsReadable field :=
    fun field hfield => hcaller field (List.mem_of_mem_filter hfield)
  have hfields : ∀ field ∈ c.fields method t h body, IsReadable field :=
    isReadable_of_mem_fields ht hagent hforwarded
  have hwritten : c.encodeRequest method t h body =
      .ok (Bytes.ofText (c.head method t h body) ++ body) := by
    have hunbroken : (("User-Agent", c.userAgent) :: callerFields h).find? isBroken = none := by
      refine List.find?_eq_none.mpr fun field hfield => Bool.eq_false_iff.mp ?_
      refine isBroken_eq_false_iff.mpr ?_
      rcases List.mem_cons.mp hfield with rfl | hmem
      · exact hagent
      · exact (hforwarded field hmem).unbroken
    rw [encodeRequest_eq, hunbroken]
  have hread := ofLines_fields hd hfields
  rw [map_trim_fields] at hread
  exact ⟨_, _, _, hwritten, readHead_head hm ht hfields, hread, rfl,
    distinct_readEntries hd c method t body, get?_of_readEntries hd rfl⟩

/-- Of three fields that a caller gives, one of them twice, the client forwards one. -/
theorem ofLines_encodeRequest_of_host :
    let changes : List Headers.Change := [.insert "hOST" "elsewhere", .insert "X-Trace" "1",
      .insert "content-LENGTH" "9", .insert "x-trace" " 2 "]
    let body := Bytes.ofText "hi"
    isMethod "POST" = true ∧ rootTarget.IsSolid ∧ IsUnbroken default.userAgent ∧
      (∀ field ∈ (Headers.after changes).entries, IsReadable field) ∧
      ∃ (bytes : Bytes) (lines : List String) (read : Headers),
        default.encodeRequest "POST" rootTarget (Headers.after changes) body = .ok bytes ∧
        Response.readHead bytes = .ok ("POST / HTTP/1.1", lines, body) ∧
        Headers.ofLines lines = .ok read ∧
        read.entries = [("Host", "127.0.0.1"), ("User-Agent", "wsgate/0.1.0"),
          ("Connection", "close"), ("X-Trace", "2"), ("Content-Length", "2")] := by
  intro changes body
  have hm : isMethod "POST" = true := by decide
  have hagent : IsUnbroken default.userAgent := by decide
  have hentries : (Headers.after changes).entries =
      [("hOST", "elsewhere"), ("X-Trace", " 2 "), ("content-LENGTH", "9")] := by decide
  have hcaller : ∀ field ∈ (Headers.after changes).entries, IsReadable field := by
    intro field hfield
    simp only [hentries, List.mem_cons, List.not_mem_nil, or_false] at hfield
    rcases hfield with rfl | rfl | rfl <;> exact ⟨by decide, by decide, by decide⟩
  obtain ⟨bytes, lines, read, hwritten, hhead, hlines, hread, -⟩ :=
    ofLines_encodeRequest default "POST" rootTarget changes body hm rootTarget_isSolid hagent
      hcaller
  exact ⟨hm, rootTarget_isSolid, hagent, hcaller, bytes, lines, read, hwritten, hhead, hlines,
    hread.trans (by decide)⟩

end Client
end Http
end WebSocket
