import WebSocket.Http.Forwarded
import WebSocket.Proofs.Http.History
import WebSocket.Proofs.Network.AddressText

/-
Whom a request speaks for, by its lines.  The values of a list are joined without the empty ones in
front, so that the first piece of all of them is that of the first line whose value is not blank
(`usable?_joined`), whatever lines come after it.  Of a name that is no list the last line counts.
-/
namespace WebSocket
namespace Http

/-! ## Who is named -/

namespace Field

variable {n : String} {f : Field} {fields others : List Field}

/-- Whether a field has a name and a value that is not blank. -/
def isFilled (n : String) (f : Field) : Bool :=
  f.isNamed n && !(Text.trim f.value).isEmpty

/-- The first item of the first field of a name that is not blank. -/
def firstItem? (n : String) (fields : List Field) : Option String :=
  (fields.find? (isFilled n)).bind fun f => (Text.pieces "," f.value).head?.map Text.trim

/-- The client that fields name, or else the peer: a first item of `X-Forwarded-For` that may stand
for a client comes before a last value of `X-Real-IP` that may. -/
def client (peer : Address) (fields : List Field) : String :=
  match (firstItem? "x-forwarded-for" fields).filter isIdentity with
  | some name => name
  | none => ((last? "x-real-ip" fields).filter isIdentity).getD peer.text

end Field

/-! ## The first piece of a list -/

theorem usable?_eq (s : String) : usable? s = (some (Text.trim s)).filter isIdentity := by
  rw [usable?, Option.filter_some]

theorem firstPiece?_append_comma (value rest : String) :
    firstPiece? (value ++ "," ++ rest) = firstPiece? value := by
  have hcomma : ",".toList = [','] := rfl
  have hunbordered : Sequence.Unbordered ",".toList := Sequence.unbordered_singleton ','
  obtain ⟨first, others, hvalue⟩ := Text.exists_pieces_eq_cons hcomma value
  rw [firstPiece?, firstPiece?, Text.pieces_append hunbordered (List.cons_ne_nil _ _), hvalue]
  rfl

/-- The first piece of values that are joined is that of the first one that is not empty. -/
theorem usable?_joined (values : List String) :
    (firstPiece? (Headers.joined values)).bind usable? =
      (values.find? (!·.isEmpty)).bind fun value => (firstPiece? value).bind usable? := by
  rw [List.find?_eq_head?_dropWhile_not, Headers.joined]
  simp only [Bool.not_not]
  cases values.dropWhile String.isEmpty with
  | nil =>
    have hpiece : firstPiece? "" = some "" := by decide
    have hnone : usable? "" = none := by decide
    rw [String.intercalate_nil, hpiece, Option.bind_some, hnone, List.head?_nil, Option.bind_none]
  | cons first rest =>
    rw [List.head?_cons, Option.bind_some]
    cases rest with
    | nil => rw [String.intercalate_singleton]
    | cons second rest =>
      have hlist : first ++ ", " = first ++ "," ++ " " := by
        rw [← String.toList_inj]
        simp
      rw [String.intercalate_cons_cons, hlist, String.append_assoc, firstPiece?_append_comma]

theorem usable?_firstPiece?_trim (value : String) :
    (firstPiece? (Text.trim value)).bind usable? =
      ((Text.pieces "," value).head?.map Text.trim).filter isIdentity := by
  have hcomma : ",".toList = [','] := rfl
  have hpieces := congrArg List.head? (Text.map_trim_pieces hcomma (by decide) value)
  rw [List.head?_map, List.head?_map] at hpieces
  rw [← hpieces, firstPiece?]
  cases (Text.pieces "," (Text.trim value)).head? with
  | none => rfl
  | some piece => rw [Option.bind_some, usable?_eq, Option.map_some]

/-! ## The fields of headers -/

namespace Field

theorem lasting_insertions (fields : List Field) :
    Headers.lasting (fields.map insertion) = fields.map entry := by
  have hkept : ∀ (name : String) (later : List Field),
      (later.map insertion).any (Headers.Change.removes name) = false := fun name later => by
    rw [List.any_map, List.any_eq_false]
    exact fun f _ => Bool.false_ne_true
  induction fields with
  | nil => rfl
  | cons f rest ih =>
    rw [List.map_cons, insertion, Headers.lasting, hkept, ih]
    rfl

theorem valuesOf_insertions (n : String) (fields : List Field) :
    Headers.valuesOf n (fields.map insertion) =
      (fields.filter (isNamed n)).map fun f => Text.trim f.value := by
  rw [Headers.valuesOf, lasting_insertions, List.filter_map, List.map_map]
  rfl

theorem usable?_headers (hn : Headers.isList n = true) (fields : List Field) :
    (((headers fields).get? n).bind firstPiece?).bind usable? =
      (firstItem? n fields).filter isIdentity := by
  have hvalue : (((headers fields).get? n).bind firstPiece?).bind usable? =
      (firstPiece? (Headers.joined ((fields.filter (isNamed n)).map fun f =>
        Text.trim f.value))).bind usable? := by
    rw [headers_eq_after, Headers.get?_after, valuesOf_insertions, Headers.gathered, if_pos hn]
    split
    · rename_i hnone
      rw [hnone, usable?_joined, List.find?_nil, Option.bind_none, Option.bind_none,
        Option.bind_none]
    · rw [Option.bind_some]
  have hfilled : (fun f : Field => decide (f.isNamed n = true ∧
      ((fun value : String => !value.isEmpty) ∘ fun f : Field => Text.trim f.value) f = true)) =
        isFilled n := by
    funext f
    rw [Bool.decide_and, Bool.decide_eq_true, Bool.decide_eq_true, isFilled, Function.comp_apply]
  rw [hvalue, usable?_joined, List.find?_map, List.find?_filter, Option.bind_map, firstItem?,
    hfilled]
  cases fields.find? (isFilled n) with
  | none => rfl
  | some f =>
    rw [Option.bind_some, Option.bind_some, Function.comp_apply, usable?_firstPiece?_trim]

/-- The client of headers is the one that their fields name. -/
theorem identify_headers (peer : Address) (fields : List Field) :
    identify peer (headers fields) = client peer fields := by
  have hforwarded := usable?_headers (n := "x-forwarded-for") (by decide) fields
  have hplain : Headers.isList "x-real-ip" = false := by decide
  have hreal : ((headers fields).get? "x-real-ip").bind usable? =
      (last? "x-real-ip" fields).filter isIdentity := by
    rw [get?_headers hplain, last?]
    cases fields.reverse.find? (isNamed "x-real-ip") with
    | none => rfl
    | some f => rw [Option.map_some, Option.bind_some, usable?_eq, Text.trim_trim]
  rw [identify, client, hforwarded, hreal]
  cases (firstItem? "x-forwarded-for" fields).filter isIdentity with
  | some name => rfl
  | none => cases (last? "x-real-ip" fields).filter isIdentity <;> rfl

/-! ## What a client is -/

theorem isIdentity_iff {s : String} :
    isIdentity s = true ↔ s ≠ "" ∧ Text.same s "unknown" = false := by
  simp [isIdentity]

theorem isIdentity_text (peer : Address) : isIdentity peer.text = true := by
  obtain ⟨c, hmark, hc⟩ := peer.exists_mark
  have hnowhere : ∀ c ∈ ['.', ':'],
      c ∉ (Text.fold "").toList ∧ c ∉ (Text.fold "unknown").toList :=
    List.forall_mem_cons.mpr ⟨by decide, List.forall_mem_singleton.mpr (by decide)⟩
  refine isIdentity_iff.mpr ⟨fun hempty => ?_, Bool.eq_false_iff.mpr fun hsame => ?_⟩
  · rw [hempty] at hc
    exact (hnowhere c hmark).1 hc
  · rw [Text.same_iff.mp hsame] at hc
    exact (hnowhere c hmark).2 hc

/-- A client is no empty text and not the word for one that is not known, and has no blanks around
it. -/
theorem client_spec (peer : Address) (fields : List Field) :
    isIdentity (client peer fields) = true ∧
      Text.trim (client peer fields) = client peer fields := by
  have hfirst : ∀ name,
      firstItem? "x-forwarded-for" fields = some name → Text.trim name = name := by
    intro name hname
    obtain ⟨f, -, hpiece⟩ := Option.bind_eq_some_iff.mp hname
    obtain ⟨piece, -, rfl⟩ := Option.map_eq_some_iff.mp hpiece
    exact Text.trim_trim piece
  have hlast : ∀ name, last? "x-real-ip" fields = some name → Text.trim name = name := by
    intro name hname
    obtain ⟨f, -, rfl⟩ := Option.map_eq_some_iff.mp hname
    exact Text.trim_trim f.value
  unfold client
  split
  · rename_i name hname
    obtain ⟨hname, hidentity⟩ := Option.filter_eq_some_iff.mp hname
    exact ⟨hidentity, hfirst name hname⟩
  · cases hreal : (last? "x-real-ip" fields).filter isIdentity with
    | none => exact ⟨isIdentity_text peer, Text.trim_eq_self peer.isDense_text⟩
    | some name =>
      obtain ⟨hname, hidentity⟩ := Option.filter_eq_some_iff.mp hreal
      exact ⟨hidentity, hlast name hname⟩

/-- Behind a field of `X-Forwarded-For` that is not blank no other one counts. -/
theorem client_append (peer : Address) (front : List Field) {f : Field} {back others : List Field}
    (hname : f.isNamed "x-forwarded-for" = true) (hvalue : Text.trim f.value ≠ "")
    (hback : (back.filter fun g => !g.isNamed "x-forwarded-for") =
      others.filter fun g => !g.isNamed "x-forwarded-for") :
    client peer (front ++ f :: back) = client peer (front ++ f :: others) := by
  have hfound : isFilled "x-forwarded-for" f = true := by simp [isFilled, hname, hvalue]
  have hfirst : ∀ rest : List Field, firstItem? "x-forwarded-for" (front ++ f :: rest) =
      firstItem? "x-forwarded-for" (front ++ [f]) := fun rest => by
    rw [firstItem?, firstItem?, List.find?_append, List.find?_append,
      List.find?_cons_of_pos hfound, List.find?_cons_of_pos hfound]
  have hreal : ∀ g : Field, isNamed "x-real-ip" g = true →
      (!g.isNamed "x-forwarded-for") = true := fun g hg => by
    have hsame : Text.same g.name "x-forwarded-for" = Text.same "x-real-ip" "x-forwarded-for" :=
      Headers.same_congr hg _
    rw [isNamed, hsame]
    decide
  have hlast : last? "x-real-ip" (front ++ f :: back) =
      last? "x-real-ip" (front ++ f :: others) := by
    rw [← last?_filter hreal, ← last?_filter hreal (front ++ f :: others), List.filter_append,
      List.filter_append, List.filter_cons, List.filter_cons, hback]
  rw [client, client, hfirst back, hfirst others, hlast]

end Field

/-! ## Lines -/

/-- The client of lines that are read is the one that the lines name: by the first piece of the
first `X-Forwarded-For` that is not blank, behind which no other one counts, or by the last
`X-Real-IP`, or else it is the peer. -/
theorem identify_of_lines (peer : Address) {lines : List String} {h : Headers}
    (hread : Headers.ofLines lines = .ok h) :
    identify peer h = Field.client peer (Field.ofLines lines) ∧
      (∀ (others : List String) (h' : Headers) (front back back' : List Field) (f : Field),
        Headers.ofLines others = .ok h' →
        Field.ofLines lines = front ++ f :: back → Field.ofLines others = front ++ f :: back' →
        Text.same f.name "x-forwarded-for" = true → Text.trim f.value ≠ "" →
        ((back.filter fun g => !g.isNamed "x-forwarded-for") =
          back'.filter fun g => !g.isNamed "x-forwarded-for") →
        identify peer h' = identify peer h) ∧
      identify peer h ≠ "" ∧ Text.same (identify peer h) "unknown" = false ∧
      Text.trim (identify peer h) = identify peer h := by
  have hclient : ∀ {lines : List String} {h : Headers}, Headers.ofLines lines = .ok h →
      identify peer h = Field.client peer (Field.ofLines lines) := fun hread => by
    obtain ⟨fields, hfields, hlines, rfl⟩ := Field.ofLines_eq_ok_iff.mp hread
    rw [Field.ofLines_eq hfields hlines, Field.identify_headers]
  obtain ⟨hidentity, htrim⟩ := Field.client_spec peer (Field.ofLines lines)
  obtain ⟨hne, hknown⟩ := Field.isIdentity_iff.mp hidentity
  rw [hclient hread]
  refine ⟨rfl, fun others h' front back back' f hother hfields hfields' hname hvalue hback => ?_,
    hne, hknown, htrim⟩
  rw [hclient hother, hfields, hfields', Field.client_append peer front hname hvalue hback.symm]

/-- A blank line names nobody, the one behind it does, and the ones behind that are not asked. -/
theorem identify_of_lines_of_proxies :
    ∃ h, Headers.ofLines ["X-Forwarded-For:  ", "X-Real-IP: 198.51.100.2",
        "x-forwarded-for: 203.0.113.7 , 10.0.0.1", "X-Forwarded-For: 10.0.0.2", "", "no field"] =
          .ok h ∧
      identify (.v4 ⟨127, 0, 0, 1⟩) h = "203.0.113.7" := by
  refine Exists.imp (fun h hread => ⟨hread, ?_⟩) ⟨_, rfl⟩
  rw [(identify_of_lines (.v4 ⟨127, 0, 0, 1⟩) hread).1]
  decide

end Http
end WebSocket
