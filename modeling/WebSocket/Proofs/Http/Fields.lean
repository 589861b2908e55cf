import WebSocket.Http.Field
import WebSocket.Proofs.Text.Trimming

/-
What the headers of some lines say of the lines.  Headers are read line by line and each field is
inserted into those before it; of a name that stands for one value they keep the last
(`Headers.get?_headers`), and of one that stands for a list they keep all, so that a token is in
the list exactly when one of the lines has it (`Headers.hasToken_headers`).
-/
namespace WebSocket
namespace Http
namespace Headers

variable {a b name value token : String}

/-! ## One insertion -/

theorem same_congr (h : Text.same a b = true) (c : String) : Text.same a c = Text.same b c := by
  rw [Text.same, Text.same, Text.same_iff.mp h]

theorem isList_congr (h : Text.same a b = true) : isList a = isList b := by
  unfold isList
  congr 1
  funext known
  rw [Text.same_comm, same_congr h, Text.same_comm]

theorem valueAmong?_congr (h : Text.same a b = true) (entries : List (String × String)) :
    valueAmong? a entries = valueAmong? b entries := by
  induction entries with
  | nil => rfl
  | cons entry rest ih =>
    obtain ⟨known, old⟩ := entry
    rw [valueAmong?, valueAmong?, ih, Text.same_comm known a, same_congr h, Text.same_comm]

theorem valueAmong?_insertEntry_self (name value : String) (entries : List (String × String)) :
    valueAmong? name (insertEntry name value entries) =
      some (match valueAmong? name entries with
        | some old => merge name old value
        | none => value) := by
  induction entries with
  | nil => simp [insertEntry, valueAmong?]
  | cons entry rest ih =>
    obtain ⟨known, old⟩ := entry
    by_cases hk : Text.same known name
    · simp [insertEntry, valueAmong?, hk]
    · simp only [insertEntry, valueAmong?, if_neg hk]
      exact ih

theorem valueAmong?_insertEntry_of_ne {other : String} (h : Text.same name other = false)
    (value : String) (entries : List (String × String)) :
    valueAmong? other (insertEntry name value entries) = valueAmong? other entries := by
  induction entries with
  | nil => simp [insertEntry, valueAmong?, h]
  | cons entry rest ih =>
    obtain ⟨known, old⟩ := entry
    by_cases hk : Text.same known name
    · have hother : Text.same known other = false := (same_congr hk other).trans h
      simp [insertEntry, valueAmong?, hk, hother]
    · simp only [insertEntry, valueAmong?, if_neg hk]
      rw [ih]

/-- A field that is inserted is merged into the one that there is of its name. -/
theorem get?_insert (h : Headers) (name value n : String) :
    (h.insert name value).get? n =
      if Text.same name n then some ((h.get? n).elim value fun old => merge n old value)
      else h.get? n := by
  by_cases hs : Text.same name n = true
  · have hmerge : ∀ old, merge name old value = merge n old value := fun old => by
      rw [merge, merge, isList_congr hs]
    rw [if_pos hs, get?, get?, ← valueAmong?_congr hs, ← valueAmong?_congr hs, insert,
      valueAmong?_insertEntry_self]
    cases valueAmong? name h.entries <;> simp [hmerge]
  · rw [if_neg hs]
    exact valueAmong?_insertEntry_of_ne (Bool.not_eq_true _ ▸ hs) value h.entries

/-- A field of one value has the value that was inserted last. -/
theorem get?_insert_of_plain {n : String} (hn : isList n = false) (h : Headers) :
    (h.insert name value).get? n = if Text.same name n then some value else h.get? n := by
  rw [get?_insert]
  cases h.get? n <;> simp [merge, hn]

/-! ## Lists -/

theorem trim_space (s : String) : Text.trim (" " ++ s) = Text.trim s :=
  Text.trim_blanks_append (by decide) s

theorem listHas_eq (token value : String) :
    Text.listHas token value =
      ((Text.pieces "," value).map Text.trim).any fun piece => Text.same piece token := by
  rw [Text.listHas, List.any_map]
  rfl

theorem listHas_space_append (token value : String) :
    Text.listHas token (" " ++ value) = Text.listHas token value := by
  have hblank : Text.IsBlanks " " := by decide
  rw [listHas_eq, listHas_eq, Text.map_trim_pieces_blanks_append rfl (by decide) hblank]

/-- A list that is written behind another, after a comma and a blank, has its tokens. -/
theorem listHas_append (token old value : String) :
    Text.listHas token (old ++ ", " ++ value) =
      (Text.listHas token old || Text.listHas token value) := by
  have hlist : old ++ ", " ++ value = old ++ "," ++ (" " ++ value) := by
    rw [← String.toList_inj]
    simp
  have hcomma : Sequence.Unbordered ",".toList := Sequence.unbordered_singleton ','
  rw [← listHas_space_append token value, hlist, Text.listHas,
    Text.pieces_append hcomma (List.cons_ne_nil _ _), List.any_append]
  rfl

theorem listHas_empty (h : token ≠ "") : Text.listHas token "" = false := by
  have hsame : Text.same "" token = false := by
    rw [Bool.eq_false_iff, ne_eq, Text.same_iff]
    intro hfold
    have hlists := congrArg String.toList hfold
    simp only [Text.fold, String.toList_ofList] at hlists
    exact h (String.toList_eq_nil_iff.mp (List.map_eq_nil_iff.mp hlists.symm))
  show [""].any _ = false
  rw [List.any_cons, List.any_nil, Bool.or_false]
  exact hsame

/-- A list holds the tokens of every value that was inserted. -/
theorem hasToken_insert {n : String} (hn : isList n = true) (ht : token ≠ "") (h : Headers) :
    (h.insert name value).hasToken n token =
      if Text.same name n then h.hasToken n token || Text.listHas token value
      else h.hasToken n token := by
  rw [hasToken, hasToken, get?_insert]
  by_cases hs : Text.same name n = true
  · rw [if_pos hs, if_pos hs]
    cases h.get? n with
    | none => simp
    | some old =>
      by_cases hold : old = ""
      · subst hold
        simp [merge, listHas_empty ht]
      · simp [merge, hn, hold, listHas_append]
  · rw [if_neg hs, if_neg hs]

end Headers

/-! ## All the fields -/

namespace Field

variable {n name token value : String} {fields : List Field}

open Headers (isList)

theorem get?_foldl (hn : isList n = false) (h : Headers) :
    (fields.foldl (fun h f => h.insert f.name (Text.trim f.value)) h).get? n =
      (last? n fields).or (h.get? n) := by
  induction fields generalizing h with
  | nil => rfl
  | cons f rest ih =>
    rw [List.foldl_cons, ih, Headers.get?_insert_of_plain hn, last?, last?, List.reverse_cons,
      List.find?_append]
    cases rest.reverse.find? (isNamed n) with
    | some found => rfl
    | none => cases hf : Text.same f.name n <;> simp [isNamed, hf]

/-- The value of a name that stands for one value is that of its last field. -/
theorem get?_headers (hn : isList n = false) (fields : List Field) :
    (headers fields).get? n = last? n fields := by
  rw [headers, get?_foldl hn]
  exact Option.or_none

/-- Fields that do not have a name do not count for its value. -/
theorem last?_filter {p : Field → Bool} (h : ∀ f, isNamed n f = true → p f = true)
    (fields : List Field) : last? n (fields.filter p) = last? n fields := by
  have hboth : (fun f => decide (p f = true ∧ isNamed n f = true)) = isNamed n := by
    funext f
    cases hf : isNamed n f with
    | true => simp [h f hf]
    | false => simp
  rw [last?, last?, ← List.filter_reverse, List.find?_filter, hboth]

theorem hasToken_foldl (hn : isList n = true) (ht : token ≠ "") (h : Headers) :
    (fields.foldl (fun h f => h.insert f.name (Text.trim f.value)) h).hasToken n token = true ↔
      h.hasToken n token = true ∨ Lists n token fields := by
  induction fields generalizing h with
  | nil => simp [Lists]
  | cons f rest ih =>
    have hfirst : Lists n token (f :: rest) ↔
        (f.isNamed n = true ∧ Text.listHas token (Text.trim f.value) = true) ∨
          Lists n token rest := by
      simp [Lists, Text.listHas]
    rw [List.foldl_cons, ih, Headers.hasToken_insert hn ht, hfirst, isNamed]
    by_cases hs : Text.same f.name n
    · simp [hs, or_assoc]
    · simp [hs]

/-- A name that stands for a list has the tokens of all its fields. -/
theorem hasToken_headers (hn : isList n = true) (ht : token ≠ "") (fields : List Field) :
    (headers fields).hasToken n token = true ↔ Lists n token fields := by
  have hempty : Headers.empty.hasToken n token = false := rfl
  rw [headers, hasToken_foldl hn ht, hempty]
  simp

/-! ## Reading the lines -/

theorem isName_iff : Headers.isName name = true ↔
    name ≠ "" ∧ ∀ c ∈ name.toList, Text.isBlank c = false := by
  simp [Headers.isName]

theorem isProper_of_isName {f : Field} (hname : Headers.isName f.name = true)
    (hparted : ':' ∉ f.name.toList) (hwhole : ¬ ['\r', '\n'] <:+: f.line.toList) : f.IsProper where
  named := (isName_iff.mp hname).1
  solid := (isName_iff.mp hname).2
  parted := hparted
  whole := hwhole

theorem IsProper.legible {f : Field} (h : f.IsProper) : f.IsLegible :=
  ⟨h.named, h.solid, h.parted⟩

theorem cut?_colon_iff {line : String} :
    Text.cut? ":" line = some (name, value) ↔ line = name ++ ":" ++ value ∧ ':' ∉ name.toList :=
  Text.cut?_eq_some_iff_of_char rfl

theorem IsLegible.ofLine?_line {f : Field} (h : f.IsLegible) : ofLine? f.line = some f := by
  have hcut : Text.cut? ":" f.line = some (f.name, f.value) := cut?_colon_iff.mpr ⟨rfl, h.parted⟩
  rw [ofLine?, hcut]
  rfl

theorem IsLegible.isFolded_line {f : Field} (h : f.IsLegible) :
    Headers.isFolded f.line = false := by
  have hline : f.line.toList = f.name.toList ++ ':' :: f.value.toList := by simp [line]
  rw [Headers.isFolded, hline]
  cases hname : f.name.toList with
  | nil => exact absurd (String.toList_eq_nil_iff.mp hname) h.named
  | cons c rest =>
    have hc := h.solid c (hname ▸ List.mem_cons_self)
    have hspace : c ≠ ' ' := fun heq => by subst heq; exact absurd hc (by decide)
    have htab : c ≠ '\t' := fun heq => by subst heq; exact absurd hc (by decide)
    simp [hspace, htab]

/-- A line is read when it is the line of a legible field. -/
theorem readLine_eq_ok_iff {line : String} {entry : String × String} :
    Headers.readLine line = .ok entry ↔
      ∃ f : Field, f.IsLegible ∧ f.line = line ∧ (f.name, Text.trim f.value) = entry := by
  constructor
  · intro h
    unfold Headers.readLine at h
    split at h
    · cases h
    · cases hcut : Text.cut? ":" line with
      | none => simp [hcut] at h
      | some parts =>
        obtain ⟨name, value⟩ := parts
        simp only [hcut] at h
        split at h
        · rename_i hname
          cases h
          obtain ⟨hnamed, hsolid⟩ := isName_iff.mp hname
          obtain ⟨rfl, hparted⟩ := cut?_colon_iff.mp hcut
          exact ⟨⟨name, value⟩, ⟨hnamed, hsolid, hparted⟩, rfl, rfl⟩
        · cases h
  · rintro ⟨f, hf, rfl, rfl⟩
    have hcut : Text.cut? ":" f.line = some (f.name, f.value) :=
      cut?_colon_iff.mpr ⟨rfl, hf.parted⟩
    have hname : Headers.isName f.name = true := isName_iff.mpr ⟨hf.named, hf.solid⟩
    simp [Headers.readLine, hf.isFolded_line, hcut, hname]

theorem IsLegible.line_ne {f : Field} (h : f.IsLegible) : f.line ≠ "" := by
  intro hline
  have hname := (String.append_eq_empty_iff.mp (String.append_eq_empty_iff.mp hline).1).1
  exact h.named hname

theorem block_of_isEmpty {text : String} (h : text.isEmpty = true) (lines : List String) :
    Headers.block (text :: lines) = [] :=
  List.takeWhile_cons_of_neg (by simp [h])

theorem block_of_not_isEmpty {text : String} (h : ¬text.isEmpty = true) (lines : List String) :
    Headers.block (text :: lines) = text :: Headers.block lines :=
  List.takeWhile_cons_of_pos (by simp [h])

/-- Where no line is left, no field is added. -/
theorem ok_eq_ok_iff_of_no_line {h result : Headers} :
    (.ok h : Except Error Headers) = .ok result ↔
      ∃ fields : List Field, (∀ f ∈ fields, f.IsLegible) ∧ [] = fields.map line ∧
        result = fields.foldl (fun h f => h.insert f.name (Text.trim f.value)) h := by
  constructor
  · intro hread
    exact ⟨[], List.forall_mem_nil _, rfl, (Except.ok.inj hread).symm⟩
  · rintro ⟨fields, -, hlines, rfl⟩
    rw [List.map_eq_nil_iff.mp hlines.symm]
    rfl

theorem readLinesInto_eq_ok_iff {lines : List String} {h result : Headers} :
    Headers.readLinesInto h lines = .ok result ↔
      ∃ fields : List Field, (∀ f ∈ fields, f.IsLegible) ∧
        Headers.block lines = fields.map line ∧
          result = fields.foldl (fun h f => h.insert f.name (Text.trim f.value)) h := by
  induction lines generalizing h with
  | nil => exact ok_eq_ok_iff_of_no_line
  | cons text lines ih =>
    rw [Headers.readLinesInto]
    by_cases hempty : text.isEmpty = true
    · -- the first empty line ends the fields
      rw [if_pos hempty, block_of_isEmpty hempty]
      exact ok_eq_ok_iff_of_no_line
    · rw [if_neg hempty, block_of_not_isEmpty hempty]
      constructor
      · intro hread
        cases hline : Headers.readLine text with
        | error e => simp [hline] at hread
        | ok entry =>
          obtain ⟨f, hf, rfl, rfl⟩ := readLine_eq_ok_iff.mp hline
          simp only [hline] at hread
          obtain ⟨fields, hfields, hlines, hresult⟩ := ih.mp hread
          exact ⟨f :: fields, List.forall_mem_cons.mpr ⟨hf, hfields⟩,
            congrArg (f.line :: ·) hlines, hresult⟩
      · rintro ⟨fields, hfields, hlines, rfl⟩
        cases fields with
        | nil => cases hlines
        | cons f fields =>
          obtain ⟨hf, hrest⟩ := List.forall_mem_cons.mp hfields
          obtain ⟨rfl, hrestlines⟩ := List.cons.inj hlines
          rw [readLine_eq_ok_iff.mpr ⟨f, hf, rfl, rfl⟩]
          exact ih.mpr ⟨fields, hrest, hrestlines, rfl⟩

/-- Lines are read when those before the first empty one are the lines of legible fields, and these
fields make the headers. -/
theorem ofLines_eq_ok_iff {lines : List String} {h : Headers} :
    Headers.ofLines lines = .ok h ↔
      ∃ fields : List Field, (∀ f ∈ fields, f.IsLegible) ∧
        Headers.block lines = fields.map line ∧ h = headers fields :=
  readLinesInto_eq_ok_iff

theorem ofLines_eq {lines : List String} (hfields : ∀ f ∈ fields, f.IsLegible)
    (hlines : Headers.block lines = fields.map line) : ofLines lines = fields := by
  have hread : ∀ f ∈ fields, (ofLine? ∘ line) f = some f := fun f hf =>
    (hfields f hf).ofLine?_line
  rw [ofLines, hlines, List.filterMap_map, List.filterMap_congr hread, List.filterMap_some]

theorem block_append_empty {lines : List String} (h : ∀ line ∈ lines, line ≠ "")
    (rest : List String) : Headers.block (lines ++ "" :: rest) = lines := by
  have hlines : ∀ line ∈ lines, (!line.isEmpty) = true := fun line hline => by simp [h line hline]
  rw [Headers.block, List.takeWhile_append_of_pos hlines]
  simp

theorem IsProper.line_ne {f : Field} (h : f.IsProper) : f.line ≠ "" :=
  h.legible.line_ne

/-- The lines of proper fields are read as the headers that the fields make. -/
theorem ofLines_lines (hproper : ∀ f ∈ fields, f.IsProper) (rest : List String) :
    Headers.ofLines (fields.map line ++ "" :: rest) = .ok (headers fields) := by
  have hlines : ∀ text ∈ fields.map line, text ≠ "" :=
    List.forall_mem_map.mpr fun f hf => (hproper f hf).line_ne
  exact ofLines_eq_ok_iff.mpr
    ⟨fields, fun f hf => (hproper f hf).legible, block_append_empty hlines rest, rfl⟩

/-- Lines that are read up to an empty one are the lines of proper fields. -/
theorem exists_of_ofLines {lines rest : List String} {result : Headers}
    (hlines : ∀ line ∈ lines, line ≠ "" ∧ ¬ ['\r', '\n'] <:+: line.toList)
    (hread : Headers.ofLines (lines ++ "" :: rest) = .ok result) :
    ∃ fields : List Field, (∀ f ∈ fields, f.IsProper) ∧ lines = fields.map line ∧
      result = headers fields := by
  obtain ⟨fields, hlegible, hblock, rfl⟩ := ofLines_eq_ok_iff.mp hread
  rw [block_append_empty fun line hline => (hlines line hline).1] at hblock
  subst hblock
  refine ⟨fields, fun f hf => ?_, rfl, rfl⟩
  obtain ⟨hnamed, hsolid, hparted⟩ := hlegible f hf
  exact ⟨hnamed, hsolid, hparted, (hlines f.line (List.mem_map_of_mem hf)).2⟩

end Field
end Http
end WebSocket
