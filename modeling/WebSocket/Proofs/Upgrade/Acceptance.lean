import WebSocket.Proofs.Http.Fields
import WebSocket.Proofs.Http.Head
import WebSocket.Proofs.Text.Base64
import WebSocket.Proofs.Text.Numeral
import WebSocket.Upgrade.Proposal

/-
Which upgrade requests are accepted.  A byte string is accepted exactly when it starts with the
text of a proposal, small enough, that is legible, asks for the protocol and is tolerated by the
policy (`Policy.exists_judge_eq_ok_iff`).  The request line and the header lines are each read as
the parts that stand on them, and each check is one demand on those parts.
-/
namespace WebSocket
namespace Upgrade

open Http (Field Headers)

/-! ## The request line -/

theorem cut?_dot_iff {s before after : String} :
    Text.cut? "." s = some (before, after) ↔ s = before ++ "." ++ after ∧ '.' ∉ before.toList :=
  Text.cut?_eq_some_iff_of_char rfl

theorem readVersion?_eq_some_iff {version : String} {numbers : Nat × Nat} :
    readVersion? version = some numbers ↔ ∃ major minor, version = "HTTP/" ++ major ++ "." ++ minor ∧
      Text.number? 10 Text.bound32 major = some numbers.1 ∧
      Text.number? 10 Text.bound32 minor = some numbers.2 := by
  unfold readVersion?
  constructor
  · intro h
    split at h
    · rename_i hstart
      obtain ⟨rest, rfl⟩ := Text.startsWith_iff.mp hstart
      have hrest : String.ofList (("HTTP/" ++ rest).toList.drop 5) = rest := by
        simp
      rw [hrest] at h
      cases hcut : Text.cut? "." rest with
      | none => simp [hcut] at h
      | some parts =>
        obtain ⟨major, minor⟩ := parts
        obtain ⟨rfl, -⟩ := cut?_dot_iff.mp hcut
        simp only [hcut] at h
        split at h
        · rename_i a b ha hb
          cases h
          exact ⟨major, minor, by simp only [String.append_assoc], ha, hb⟩
        · cases h
    · cases h
  · rintro ⟨major, minor, rfl, hmajor, hminor⟩
    have hstart : Text.startsWith "HTTP/" ("HTTP/" ++ major ++ "." ++ minor) = true :=
      Text.startsWith_iff.mpr ⟨major ++ "." ++ minor, by simp only [String.append_assoc]⟩
    have hrest : String.ofList (("HTTP/" ++ major ++ "." ++ minor).toList.drop 5) =
        major ++ "." ++ minor := by
      rw [← String.toList_inj]
      simp
    have hcut : Text.cut? "." (major ++ "." ++ minor) = some (major, minor) :=
      cut?_dot_iff.mpr ⟨rfl, Text.not_mem_of_number? hmajor (by decide) (by decide)⟩
    rw [if_pos hstart, hrest, hcut]
    simp [hmajor, hminor]

theorem isRecent_iff {numbers : Nat × Nat} :
    isRecent numbers = true ↔ 1 < numbers.1 ∨ numbers.1 = 1 ∧ 1 ≤ numbers.2 := by
  simp [isRecent]

theorem checkVersion_eq_ok_iff {version : String} :
    checkVersion version = .ok () ↔
      ∃ numbers, readVersion? version = some numbers ∧ isRecent numbers = true := by
  unfold checkVersion
  cases readVersion? version with
  | none => simp
  | some numbers => by_cases h : isRecent numbers <;> simp [h]

/-- What stands before the first blank of a line is one thing only. -/
theorem eq_of_append_blank {before before' after after' : String}
    (h : before ++ " " ++ after = before' ++ " " ++ after') (hfree : ' ' ∉ before.toList)
    (hfree' : ' ' ∉ before'.toList) : before = before' := by
  have hcut : ∀ first rest, Text.cut? " " (before ++ " " ++ after) = some (first, rest) ↔
      before ++ " " ++ after = first ++ " " ++ rest ∧ ' ' ∉ first.toList := fun first rest =>
    Text.cut?_eq_some_iff_of_char rfl
  have hbefore := (hcut before after).mpr ⟨rfl, hfree⟩
  have hbefore' := (hcut before' after').mpr ⟨h, hfree'⟩
  exact (Prod.mk.inj (Option.some.inj (hbefore.symm.trans hbefore'))).1

/-- A request line has three parts, each without a blank, and the first is the method. -/
theorem readRequestLine_eq_ok_iff {line method target version : String} :
    readRequestLine line = .ok (method, target, version) ↔
      method = "GET" ∧ line = "GET" ++ " " ++ target ++ " " ++ version ∧ target ≠ "" ∧
        ' ' ∉ target.toList ∧ ' ' ∉ version.toList ∧ checkVersion version = .ok () := by
  have hpieces : ∀ ps, Text.pieces " " line = ps ↔
      ps ≠ [] ∧ " ".intercalate ps = line ∧ ∀ piece ∈ ps, ' ' ∉ piece.toList := fun ps =>
    Text.pieces_eq_iff_of_char rfl
  unfold readRequestLine
  constructor
  · intro h
    split at h
    · cases h
    · rename_i hstart
      split at h
      · rename_i first second third hparts
        obtain ⟨-, hline, hfree⟩ := (hpieces _).mp hparts
        split at h
        · cases h
        · rename_i hne
          cases hversion : checkVersion third with
          | error e => simp [hversion] at h
          | ok _ =>
            simp only [hversion, Except.ok.injEq, Prod.mk.injEq] at h
            obtain ⟨rfl, rfl, rfl⟩ := h
            have hwhole : line = first ++ " " ++ second ++ " " ++ third := by
              simp [← hline, ← String.append_assoc]
            have hmethod : first = "GET" := by
              obtain ⟨rest, hrest⟩ := Text.startsWith_iff.mp (by simpa using hstart)
              have hsame : first ++ " " ++ (second ++ " " ++ third) = "GET" ++ " " ++ rest := by
                rw [← String.append_assoc, ← String.append_assoc, ← hwhole]
                exact hrest
              exact eq_of_append_blank hsame (hfree first (by simp)) (by decide)
            subst hmethod
            have htarget : second ≠ "" := by
              rintro rfl
              simp at hne
            exact ⟨rfl, hwhole, htarget, hfree second (by simp), hfree third (by simp), hversion⟩
      · cases h
  · rintro ⟨rfl, hline, htarget, hsolid, hnumbers, hversion⟩
    have hstart : Text.startsWith "GET " line = true :=
      Text.startsWith_iff.mpr ⟨target ++ " " ++ version, by simp [hline, ← String.append_assoc]⟩
    have hparts : Text.pieces " " line = ["GET", target, version] := by
      rw [hpieces]
      refine ⟨List.cons_ne_nil _ _, ?_, ?_⟩
      · simp [hline, ← String.append_assoc]
      · simp [hsolid, hnumbers]
    have hne : version ≠ "" := by
      rintro rfl
      cases hversion
    rw [hparts]
    simp [hstart, htarget, hne, hversion]

/-! ## The header fields -/

/-- A key is in order when it is the Base64 form of sixteen bytes. -/
theorem checkKey_eq_ok_iff {key : String} :
    checkKey key = .ok () ↔ ∃ bytes : Bytes, bytes.length = 16 ∧
      key = String.ofList (Base64.encode bytes) := by
  unfold checkKey
  constructor
  · intro h
    split at h
    · cases h
    · cases hdecode : Base64.decode? key.toList with
      | none => simp [hdecode] at h
      | some bytes =>
        simp only [hdecode] at h
        split at h
        · rename_i hlength
          refine ⟨bytes, hlength, ?_⟩
          rw [← Base64.decode?_eq_some_iff.mp hdecode, String.ofList_toList]
        · cases h
  · rintro ⟨bytes, hlength, rfl⟩
    have hsize : (String.ofList (Base64.encode bytes)).utf8ByteSize = keyLength := by
      rw [Base64.utf8ByteSize_encode, hlength]
      rfl
    rw [if_neg (fun h => h hsize), String.toList_ofList, Base64.decode?_encode]
    simp [hlength, keyBytes]

variable {fields : List Field}

theorem checkHost_headers : checkHost (Field.headers fields) = .ok () ↔
    ∃ host, Field.last? "host" fields = some host ∧ host ≠ "" := by
  rw [checkHost, Field.get?_headers (by decide)]
  cases Field.last? "host" fields with
  | none => simp
  | some host => by_cases h : host = "" <;> simp [h]

theorem checkUpgrade_headers : checkUpgrade (Field.headers fields) = .ok () ↔
    Field.Lists "upgrade" "websocket" fields := by
  rw [checkUpgrade, ← Field.hasToken_headers (by decide) (by decide)]
  by_cases h : (Field.headers fields).hasToken "upgrade" "websocket" <;> simp [h]

theorem checkConnection_headers : checkConnection (Field.headers fields) = .ok () ↔
    Field.Lists "connection" "upgrade" fields := by
  rw [checkConnection, ← Field.hasToken_headers (by decide) (by decide)]
  by_cases h : (Field.headers fields).hasToken "connection" "upgrade" <;> simp [h]

theorem readKey_headers {key : String} : readKey (Field.headers fields) = .ok key ↔
    Field.last? "sec-websocket-key" fields = some key ∧ checkKey key = .ok () := by
  rw [readKey, Field.get?_headers (by decide)]
  cases Field.last? "sec-websocket-key" fields with
  | none => simp
  | some found =>
    constructor
    · intro h
      cases hcheck : checkKey found with
      | error e => simp [hcheck] at h
      | ok _ =>
        simp only [hcheck, Except.ok.injEq] at h
        exact ⟨congrArg some h, h ▸ hcheck⟩
    · rintro ⟨hfound, hcheck⟩
      obtain rfl := Option.some.inj hfound
      simp [hcheck]

theorem checkProtocolVersion_headers : checkProtocolVersion (Field.headers fields) = .ok () ↔
    Field.last? "sec-websocket-version" fields = some "13" := by
  rw [checkProtocolVersion, Field.get?_headers (by decide)]
  cases Field.last? "sec-websocket-version" fields with
  | none => simp
  | some version => by_cases h : version = "13" <;> simp [h, protocolVersion]

/-! ## Requests -/

/-- Each part of a request is read, and each demand is met. -/
theorem Request.ofLines_eq_ok_iff {line : String} {lines : List String} {request : Request} :
    Request.ofLines line lines = .ok request ↔
      readRequestLine line = .ok (request.method, request.target, request.version) ∧
      Headers.ofLines lines = .ok request.headers ∧ checkHost request.headers = .ok () ∧
      checkUpgrade request.headers = .ok () ∧ checkConnection request.headers = .ok () ∧
      readKey request.headers = .ok request.key ∧ checkProtocolVersion request.headers = .ok () := by
  obtain ⟨method, target, version, headers, key⟩ := request
  unfold Request.ofLines
  simp only [bind_eq_ok_iff]
  constructor
  · rintro ⟨⟨m, t, v⟩, hline, h, hlines, ⟨⟩, hhost, ⟨⟩, hupgrade, ⟨⟩, hconnection, k, hkey, ⟨⟩,
      hversion, hresult⟩
    cases hresult
    exact ⟨hline, hlines, hhost, hupgrade, hconnection, hkey, hversion⟩
  · rintro ⟨hline, hlines, hhost, hupgrade, hconnection, hkey, hversion⟩
    exact ⟨_, hline, _, hlines, _, hhost, _, hupgrade, _, hconnection, _, hkey, _, hversion, rfl⟩

/-- The header fields of a request are in order when those of the proposal are. -/
theorem Proposal.asks_iff {r : Proposal} :
    r.Asks ↔ checkHost (Field.headers r.fields) = .ok () ∧
      checkUpgrade (Field.headers r.fields) = .ok () ∧
      checkConnection (Field.headers r.fields) = .ok () ∧
      (∃ key, readKey (Field.headers r.fields) = .ok key) ∧
      checkProtocolVersion (Field.headers r.fields) = .ok () := by
  have hkey : (∃ key, readKey (Field.headers r.fields) = .ok key) ↔
      ∃ bytes : Bytes, bytes.length = 16 ∧
        Field.last? "sec-websocket-key" r.fields = some (String.ofList (Base64.encode bytes)) := by
    simp only [readKey_headers, checkKey_eq_ok_iff]
    constructor
    · rintro ⟨key, hlast, bytes, hlength, rfl⟩
      exact ⟨bytes, hlength, hlast⟩
    · rintro ⟨bytes, hlength, hlast⟩
      exact ⟨_, hlast, bytes, hlength, rfl⟩
  rw [checkHost_headers, checkUpgrade_headers, checkConnection_headers, hkey,
    checkProtocolVersion_headers]
  constructor
  · rintro ⟨hhost, hupgrade, hconnection, hbytes, hversion⟩
    exact ⟨hhost, hupgrade, hconnection, hbytes, hversion⟩
  · rintro ⟨hhost, hupgrade, hconnection, hbytes, hversion⟩
    exact ⟨hhost, hupgrade, hconnection, hbytes, hversion⟩

/-- The first line of a legible proposal is read as its parts. -/
theorem Proposal.IsLegible.readRequestLine_requestLine {r : Proposal} (h : r.IsLegible) :
    readRequestLine r.requestLine = .ok ("GET", r.target, r.version) := by
  obtain ⟨major, minor, hmajor, hminor, hrecent⟩ := h.recent
  have hversion : checkVersion r.version = .ok () :=
    checkVersion_eq_ok_iff.mpr ⟨(major, minor),
      readVersion?_eq_some_iff.mpr ⟨r.major, r.minor, rfl, hmajor, hminor⟩, isRecent_iff.mpr hrecent⟩
  have hsolid : ' ' ∉ r.version.toList := by
    have hblank := Text.not_mem_of_number? hmajor (c := ' ') (by decide) (by decide)
    have hblank' := Text.not_mem_of_number? hminor (c := ' ') (by decide) (by decide)
    simp [Proposal.version, hblank, hblank']
  exact readRequestLine_eq_ok_iff.mpr
    ⟨rfl, rfl, h.target_ne, h.target_solid, hsolid, hversion⟩

/-- The lines of a legible proposal are the lines of its text. -/
theorem Proposal.IsLegible.lines_text {r : Proposal} (h : r.IsLegible) :
    Text.lines r.text = r.lines := by
  rw [Text.lines, Text.pieces_eq_iff Http.unbordered_lineEnd (List.cons_ne_nil _ _)]
  refine ⟨List.cons_ne_nil _ _, rfl, fun line hline => ?_⟩
  simp only [Proposal.lines, List.mem_append, List.mem_cons, List.mem_map] at hline
  rcases hline with (rfl | ⟨f, hf, rfl⟩) | rfl | rfl | hnil
  · exact h.requestLine_whole
  · exact (h.fields_proper f hf).whole
  · decide
  · decide
  · cases hnil

theorem Request.decode_eq_ok_iff {head : Bytes} {request : Request} :
    Request.decode head = .ok request ↔ ∃ s line lines, Bytes.text? head = some s ∧
      Text.lines s = line :: lines ∧ Request.ofLines line lines = .ok request := by
  unfold Request.decode
  cases Bytes.text? head with
  | none => simp
  | some s =>
    cases hlines : Text.lines s with
    | nil =>
      have hne := (Text.pieces_eq_iff Http.unbordered_lineEnd (List.cons_ne_nil _ _)).mp hlines
      exact absurd rfl hne.1
    | cons line lines => simp [hlines]

/-- The text of a proposal is read as a request with the header fields of the proposal when it is
legible and asks for the protocol. -/
theorem Proposal.exists_decode_ofText {r : Proposal} (hlegible : r.IsLegible) (hasks : r.Asks) :
    ∃ request, Request.decode (Bytes.ofText r.text) = .ok request ∧
      request.headers = Field.headers r.fields := by
  obtain ⟨hhost, hupgrade, hconnection, ⟨key, hkey⟩, hversion⟩ := asks_iff.mp hasks
  have hlines : Headers.ofLines (r.fields.map Field.line ++ ["", ""]) =
      .ok (Field.headers r.fields) := Field.ofLines_lines hlegible.fields_proper [""]
  refine ⟨⟨"GET", r.target, r.version, Field.headers r.fields, key⟩, ?_, rfl⟩
  exact Request.decode_eq_ok_iff.mpr ⟨r.text, r.requestLine, _, Bytes.text?_ofText _,
    hlegible.lines_text, Request.ofLines_eq_ok_iff.mpr ⟨hlegible.readRequestLine_requestLine,
      hlines, hhost, hupgrade, hconnection, hkey, hversion⟩⟩

/-- A head that is read as a request is the text of such a proposal. -/
theorem Request.exists_proposal_of_decode {d : Bytes} {size : Nat} {request : Request}
    (hend : Http.HeadEndsAt d size) (h : Request.decode (d.take size) = .ok request) :
    ∃ r : Proposal, d.take size = Bytes.ofText r.text ∧ r.IsLegible ∧ r.Asks ∧
      request.headers = Field.headers r.fields := by
  obtain ⟨s, line, lines, hs, hlines, hrequest⟩ := decode_eq_ok_iff.mp h
  obtain ⟨hline, hheaders, hhost, hupgrade, hconnection, hkey, hprotocol⟩ :=
    ofLines_eq_ok_iff.mp hrequest
  -- the lines of the head, the blank one apart
  obtain ⟨first, rest, hparts, hne⟩ :=
    Http.exists_lines_of_headEndsAt hend (Bytes.ofText_of_text? hs)
  obtain ⟨rfl, rfl⟩ := List.cons.inj (hlines.symm.trans hparts)
  obtain ⟨-, htext, hwhole⟩ :=
    (Text.pieces_eq_iff Http.unbordered_lineEnd (List.cons_ne_nil _ _)).mp hlines
  obtain ⟨fields, hproper, rfl, hfields⟩ := Field.exists_of_ofLines
    (fun line hmem => ⟨hne line hmem, hwhole line (by simp [hmem])⟩) hheaders
  -- the parts of the request line
  obtain ⟨hmethod, hfirst, htarget, hsolid, -, hversion⟩ := readRequestLine_eq_ok_iff.mp hline
  obtain ⟨numbers, hnumbers, hrecent⟩ := checkVersion_eq_ok_iff.mp hversion
  obtain ⟨major, minor, hparts, hmajor, hminor⟩ := readVersion?_eq_some_iff.mp hnumbers
  have hrequestLine : Proposal.requestLine ⟨request.target, major, minor, fields⟩ = line := by
    rw [hfirst, hparts]
    rfl
  refine ⟨⟨request.target, major, minor, fields⟩, ?_, ?_, ?_, hfields⟩
  · rw [← Bytes.ofText_of_text? hs, ← htext, Proposal.text, Proposal.lines, hrequestLine]
    rfl
  · exact ⟨htarget, hsolid, hrequestLine ▸ hwhole line (List.mem_cons_self ..),
      ⟨_, _, hmajor, hminor, isRecent_iff.mp hrecent⟩, hproper⟩
  · rw [Proposal.asks_iff, ← hfields]
    exact ⟨hhost, hupgrade, hconnection, ⟨_, hkey⟩, hprotocol⟩

/-! ## The policy -/

namespace Policy

theorem takeHead_eq_ok_iff {p : Policy} {buffer head : Bytes} :
    p.takeHead buffer = .ok head ↔ ∃ size, Http.HeadEndsAt buffer size ∧ size ≤ p.maxRequestSize ∧
      buffer.take size = head := by
  unfold takeHead
  simp only [← Http.headSize?_eq_some_iff]
  cases Http.headSize? buffer with
  | none => by_cases h : buffer.length > p.maxRequestSize <;> simp [h]
  | some size =>
    by_cases h : size > p.maxRequestSize
    · simp [h, Nat.not_le.mpr h]
    · simp [h, Nat.not_lt.mp h]

theorem checkAgent_eq_ok_iff {p : Policy} {agent : Option String} :
    p.checkAgent agent = .ok () ↔ (p.security = true → ∀ name, agent = some name →
      ∀ token ∈ p.blockedAgents, ¬ (Text.fold token).toList <:+: (Text.fold name).toList) := by
  unfold checkAgent
  cases agent with
  | none => simp
  | some name =>
    by_cases hsecurity : p.security
    · simp only [hsecurity, if_true, ← Text.occurs_iff]
      cases hfind : p.blockedAgents.find? fun token =>
          Text.occurs (Text.fold token) (Text.fold name) with
      | none => simpa using List.find?_eq_none.mp hfind
      | some token =>
        have hmem := List.mem_of_find?_eq_some hfind
        have hoccurs := List.find?_some hfind
        simp only [reduceCtorEq, false_iff]
        intro hclear
        exact hclear trivial name rfl token hmem hoccurs
    · simp [hsecurity]

theorem checkOrigin_eq_ok_iff {p : Policy} {origin : Option String} :
    p.checkOrigin origin = .ok () ↔ ∀ allowed, p.allowedOrigins = some allowed →
      ∃ site, origin = some site ∧ ∃ entry ∈ allowed, Text.same entry site = true := by
  unfold checkOrigin
  cases p.allowedOrigins with
  | none => simp
  | some allowed =>
    cases origin with
    | none => simp [Upgrade.checkOrigin]
    | some site =>
      have hlisted : (allowed.any fun entry => Text.same entry site) = true ↔
          ∃ entry ∈ allowed, Text.same entry site = true := List.any_eq_true
      simp only [Upgrade.checkOrigin]
      split
      · rename_i h
        simp [hlisted.mp h]
      · rename_i h
        simp [← hlisted, h]

theorem tolerates_iff {p : Policy} {r : Proposal} :
    p.Tolerates r ↔ p.checkAgent ((Field.headers r.fields).get? "user-agent") = .ok () ∧
      p.checkOrigin ((Field.headers r.fields).get? "origin") = .ok () := by
  rw [checkAgent_eq_ok_iff, checkOrigin_eq_ok_iff, Field.get?_headers (by decide),
    Field.get?_headers (by decide)]
  constructor
  · rintro ⟨hagent, horigin⟩
    exact ⟨hagent, horigin⟩
  · rintro ⟨hagent, horigin⟩
    exact ⟨hagent, horigin⟩

theorem judge_eq_ok_iff {p : Policy} {buffer : Bytes} {request : Request} :
    p.judge buffer = .ok request ↔ ∃ head, p.takeHead buffer = .ok head ∧
      Request.decode head = .ok request ∧ p.checkAgent request.userAgent? = .ok () ∧
        p.checkOrigin request.origin? = .ok () := by
  unfold judge
  simp only [bind_eq_ok_iff]
  constructor
  · rintro ⟨head, hhead, r, hdecode, ⟨⟩, hagent, ⟨⟩, horigin, hresult⟩
    cases hresult
    exact ⟨head, hhead, hdecode, hagent, horigin⟩
  · rintro ⟨head, hhead, hdecode, hagent, horigin⟩
    exact ⟨head, hhead, request, hdecode, _, hagent, _, horigin, rfl⟩

/-- A byte string is accepted exactly when it starts with the text of a proposal that is small
enough, that is legible and asks for the protocol, and that the policy tolerates. -/
theorem exists_judge_eq_ok_iff (p : Policy) (buffer : Bytes) :
    (∃ request, p.judge buffer = .ok request) ↔
      ∃ size proposal, Http.HeadEndsAt buffer size ∧ size ≤ p.maxRequestSize ∧
        buffer.take size = Bytes.ofText proposal.text ∧
        proposal.IsLegible ∧ proposal.Asks ∧ p.Tolerates proposal := by
  simp only [judge_eq_ok_iff, takeHead_eq_ok_iff]
  constructor
  · rintro ⟨request, head, ⟨size, hend, hsize, rfl⟩, hdecode, hagent, horigin⟩
    obtain ⟨r, htext, hlegible, hasks, hheaders⟩ := Request.exists_proposal_of_decode hend hdecode
    rw [Request.userAgent?, hheaders] at hagent
    rw [Request.origin?, hheaders] at horigin
    exact ⟨size, r, hend, hsize, htext, hlegible, hasks, tolerates_iff.mpr ⟨hagent, horigin⟩⟩
  · rintro ⟨size, r, hend, hsize, htext, hlegible, hasks, htolerates⟩
    obtain ⟨request, hdecode, hheaders⟩ := Proposal.exists_decode_ofText hlegible hasks
    obtain ⟨hagent, horigin⟩ := tolerates_iff.mp htolerates
    rw [← hheaders] at hagent horigin
    exact ⟨request, _, ⟨size, hend, hsize, htext⟩, hdecode, hagent, horigin⟩

end Policy
end Upgrade
end WebSocket
