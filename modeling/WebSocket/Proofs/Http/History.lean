import WebSocket.Proofs.Http.Entries

/-
What headers hold of the changes that made them.  Only those insertions count whose name is not
removed afterwards (`Headers.lasting`).  The names of the headers are theirs, each spelled and
placed as the first of them has it (`Headers.names_after`), and the values are made of theirs: the
last one, or for a list all of them joined (`Headers.get?_after`).  Both follow from what a last
change adds to the insertions that count.
-/
namespace WebSocket
namespace Http
namespace Headers

/-! ## Insertions that last -/

namespace Change

/-- The name that a change is about. -/
def name : Change → String
  | .insert name _ => name
  | .remove name => name

/-- Whether a change removes the field of a name. -/
def removes (n : String) : Change → Bool
  | .insert _ _ => false
  | .remove name => Text.same name n

end Change

/-- The insertions whose name is not removed afterwards, in their order. -/
def lasting : List Change → List (String × String)
  | [] => []
  | .insert name value :: later =>
    if later.any (Change.removes name) then lasting later else (name, value) :: lasting later
  | .remove _ :: later => lasting later

/-- The values inserted under a name since it was last removed, in their order. -/
def valuesOf (n : String) (changes : List Change) : List String :=
  ((lasting changes).filter fun field => Text.same field.1 n).map Prod.snd

variable {h : Headers} {changes : List Change} {n name value : String}

theorem lasting_concat_insert (name value : String) (changes : List Change) :
    lasting (changes ++ [.insert name value]) = lasting changes ++ [(name, value)] := by
  induction changes with
  | nil => rfl
  | cons first later ih =>
    cases first with
    | insert known old =>
      have hlater : (later ++ [Change.insert name value]).any (Change.removes known) =
          later.any (Change.removes known) := by simp [Change.removes]
      rw [List.cons_append, lasting, lasting, hlater, ih]
      split <;> rfl
    | remove other => exact ih

theorem lasting_concat_remove (name : String) (changes : List Change) :
    lasting (changes ++ [.remove name]) =
      (lasting changes).filter fun field => !Text.same field.1 name := by
  induction changes with
  | nil => rfl
  | cons first later ih =>
    cases first with
    | insert known old =>
      have hlater : (later ++ [Change.remove name]).any (Change.removes known) =
          (later.any (Change.removes known) || Text.same name known) := by simp [Change.removes]
      rw [List.cons_append, lasting, lasting, hlater, ih]
      cases hremoved : later.any (Change.removes known) with
      | true => rfl
      | false =>
        rw [Text.same_comm name known, Bool.false_or]
        cases hsame : Text.same known name <;> simp [hsame]
    | remove other => exact ih

theorem valuesOf_concat_insert (n name value : String) (changes : List Change) :
    valuesOf n (changes ++ [.insert name value]) =
      if Text.same name n then valuesOf n changes ++ [value] else valuesOf n changes := by
  rw [valuesOf, lasting_concat_insert, List.filter_append, List.map_append]
  by_cases hsame : Text.same name n = true <;> simp [valuesOf, hsame]

theorem valuesOf_concat_remove (n name : String) (changes : List Change) :
    valuesOf n (changes ++ [.remove name]) =
      if Text.same name n then [] else valuesOf n changes := by
  rw [valuesOf, lasting_concat_remove, List.filter_filter]
  by_cases hsame : Text.same name n = true
  · have hnone : ∀ field : String × String,
        (Text.same field.1 n && !Text.same field.1 name) = false := fun field => by
      rw [Text.same_comm field.1 name, same_congr hsame, Text.same_comm, Bool.and_not_self]
    rw [if_pos hsame, List.filter_congr fun field _ => hnone field]
    simp
  · have hall : ∀ field : String × String,
        (Text.same field.1 n && !Text.same field.1 name) = Text.same field.1 n := fun field => by
      cases hfield : Text.same field.1 n with
      | false => rfl
      | true =>
        rw [Bool.true_and, Bool.not_eq_true', Text.same_comm, ← Bool.not_eq_true]
        exact fun hname => hsame (Text.same_trans hname hfield)
    rw [if_neg hsame, List.filter_congr fun field _ => hall field, valuesOf]

/-! ## Names -/

/-- Of the names that are the same, the first. -/
def firsts : List String → List String
  | [] => []
  | name :: rest => name :: (firsts rest).filter fun other => !Text.same name other

theorem any_firsts (n : String) (names : List String) :
    ((firsts names).any fun known => Text.same known n) =
      names.any fun known => Text.same known n := by
  induction names with
  | nil => rfl
  | cons first rest ih =>
    rw [firsts, List.any_cons, List.any_cons, List.any_filter, ← ih]
    by_cases hfirst : Text.same first n = true
    · rw [hfirst, Bool.true_or, Bool.true_or]
    · have hother : ∀ known, (!Text.same first known && Text.same known n) = Text.same known n := by
        intro known
        cases hknown : Text.same known n with
        | false => rw [Bool.and_false]
        | true =>
          rw [Bool.and_true, Bool.not_eq_true', ← Bool.not_eq_true]
          exact fun hsame => hfirst (Text.same_trans hsame hknown)
      simp only [hother]

theorem firsts_concat (n : String) (names : List String) :
    firsts (names ++ [n]) =
      if names.any fun known => Text.same known n then firsts names else firsts names ++ [n] := by
  induction names with
  | nil => rfl
  | cons first rest ih =>
    rw [List.cons_append, firsts, ih, List.any_cons, firsts]
    cases hrest : rest.any fun known => Text.same known n with
    | true => rw [Bool.or_true, if_pos rfl, if_pos rfl]
    | false =>
      rw [Bool.or_false, if_neg Bool.false_ne_true, List.filter_append]
      cases hfirst : Text.same first n <;> simp [hfirst]

theorem firsts_filter (n : String) (names : List String) :
    firsts (names.filter fun known => !Text.same known n) =
      (firsts names).filter fun known => !Text.same known n := by
  induction names with
  | nil => rfl
  | cons first rest ih =>
    cases hfirst : Text.same first n with
    | true =>
      -- what is left of the rest differs from the first name too
      have hother : ∀ known, (!Text.same known n && !Text.same first known) =
          !Text.same known n := fun known => by
        rw [same_congr hfirst, Text.same_comm n known, Bool.and_self]
      rw [List.filter_cons_of_neg (by simp [hfirst]), ih, firsts,
        List.filter_cons_of_neg (by simp [hfirst]), List.filter_filter]
      exact List.filter_congr fun known _ => (hother known).symm
    | false =>
      rw [List.filter_cons_of_pos (by simp [hfirst]), firsts, ih, firsts,
        List.filter_cons_of_pos (by simp [hfirst]), List.filter_filter, List.filter_filter]
      simp only [Bool.and_comm]

theorem names_insert (h : Headers) (name value : String) :
    (h.insert name value).names =
      if h.names.any fun known => Text.same known name then h.names else h.names ++ [name] := by
  have hany : (h.names.any fun known => Text.same known name) =
      h.entries.any fun entry => Text.same entry.1 name := by
    rw [names, List.any_map]
    rfl
  rw [hany]
  exact map_fst_insertEntry name value h.entries

theorem names_remove (hd : Distinct h.names) (name : String) :
    (h.remove name).names = h.names.filter fun known => !Text.same known name := by
  obtain ⟨entries⟩ := h
  show (removeEntry name entries).map Prod.fst = _
  induction entries with
  | nil => rfl
  | cons entry rest ih =>
    obtain ⟨known, old⟩ := entry
    obtain ⟨hknown, hrest⟩ := List.pairwise_cons.mp hd
    have hrest' := ih hrest
    rw [removeEntry]
    cases hsame : Text.same known name with
    | true =>
      -- the other names differ from the one that is removed
      have hkeep : ∀ other ∈ rest.map Prod.fst, (!Text.same other name) = true := by
        intro other hother
        rw [Text.same_comm, ← same_congr hsame, hknown other hother]
        rfl
      rw [if_pos rfl, names, List.map_cons, List.filter_cons_of_neg (by simp [hsame]),
        List.filter_eq_self.mpr hkeep]
    | false =>
      rw [if_neg Bool.false_ne_true, names, List.map_cons, List.map_cons, hrest',
        List.filter_cons_of_pos (by simp [hsame])]
      rfl

theorem after_concat (changes : List Change) (c : Change) :
    after (changes ++ [c]) = (after changes).change c := by
  rw [after, after, List.foldl_append]
  rfl

/-- The names are those that are inserted and not removed afterwards, each in the spelling and at
the place of its first insertion. -/
theorem names_after (changes : List Change) :
    (after changes).names = firsts ((lasting changes).map Prod.fst) := by
  induction changes using List.reverseRecOn with
  | nil => rfl
  | append_singleton changes c ih =>
    rw [after_concat]
    cases c with
    | insert name value =>
      rw [change, names_insert, ih, any_firsts, lasting_concat_insert, List.map_append,
        List.map_singleton, firsts_concat]
    | remove name =>
      rw [change, take, names_remove (distinct_after changes), ih, lasting_concat_remove,
        ← firsts_filter, List.filter_map]
      rfl

/-! ## Values -/

/-- The values of a list as one, without the empty ones in front. -/
def joined (values : List String) : String :=
  ", ".intercalate (values.dropWhile String.isEmpty)

/-- What values make that are inserted under a name one after the other.  A list joins them, and any
other name keeps the last. -/
def gathered (n : String) (values : List String) : Option String :=
  if isList n then if values = [] then none else some (joined values) else values.getLast?

theorem joined_concat (values : List String) (value : String) :
    joined (values ++ [value]) =
      if joined values = "" then value else joined values ++ ", " ++ value := by
  rw [joined, joined, List.dropWhile_append]
  cases hfront : values.dropWhile String.isEmpty with
  | nil => by_cases hvalue : value = "" <;> simp [hvalue]
  | cons first rest =>
    have hfirst : first ≠ "" := by
      have hne : values.dropWhile String.isEmpty ≠ [] := hfront ▸ List.cons_ne_nil first rest
      have hhead := List.head_dropWhile_not String.isEmpty hne
      simpa [hfront] using hhead
    have hjoined : ", ".intercalate (first :: rest) ≠ "" := by
      cases rest with
      | nil => simpa using hfirst
      | cons second rest => simp [hfirst]
    have hnil : first :: rest ≠ [] := List.cons_ne_nil first rest
    have hone : [value] ≠ [] := List.cons_ne_nil _ _
    rw [List.isEmpty_cons, if_neg Bool.false_ne_true, if_neg hjoined,
      String.intercalate_append_of_ne_nil hnil hone, String.intercalate_singleton]

theorem gathered_concat (n value : String) (values : List String) :
    gathered n (values ++ [value]) =
      some ((gathered n values).elim value fun old => merge n old value) := by
  have hne : values ++ [value] ≠ [] := by simp
  unfold gathered merge
  cases hn : isList n with
  | false => cases hlast : values.getLast? <;> simp
  | true =>
    rw [if_pos rfl, if_pos rfl, if_neg hne, joined_concat]
    by_cases hempty : values = []
    · subst hempty
      rfl
    · by_cases hjoined : joined values = "" <;> simp [hempty, hjoined]

theorem valueAmong?_removeEntry_of_ne {other : String} (h : Text.same name other = false)
    (entries : List (String × String)) :
    valueAmong? other (removeEntry name entries) = valueAmong? other entries := by
  induction entries with
  | nil => rfl
  | cons entry rest ih =>
    obtain ⟨known, old⟩ := entry
    by_cases hk : Text.same known name = true
    · have hother : Text.same known other = false := (same_congr hk other).trans h
      simp [removeEntry, valueAmong?, hk, hother]
    · simp only [removeEntry, valueAmong?, if_neg hk]
      rw [ih]

theorem get?_remove (hd : Distinct h.names) (name n : String) :
    (h.remove name).get? n = if Text.same name n then none else h.get? n := by
  by_cases hsame : Text.same name n = true
  · rw [if_pos hsame]
    refine valueAmong?_eq_none fun known hknown => ?_
    have hremoved := names_remove hd name
    rw [names] at hremoved
    rw [hremoved] at hknown
    have hother : Text.same known name = false := by simpa using (List.mem_filter.mp hknown).2
    rw [Text.same_comm, ← same_congr hsame, Text.same_comm]
    exact hother
  · rw [if_neg hsame]
    exact valueAmong?_removeEntry_of_ne (Bool.not_eq_true _ ▸ hsame) h.entries

/-- The value of a name is made of those inserted under it since it was last removed. -/
theorem get?_after (n : String) (changes : List Change) :
    (after changes).get? n = gathered n (valuesOf n changes) := by
  induction changes using List.reverseRecOn with
  | nil =>
    cases hn : isList n <;>
      simp [gathered, hn, valuesOf, lasting, after, empty, get?, valueAmong?]
  | append_singleton changes c ih =>
    rw [after_concat]
    cases c with
    | insert name value =>
      rw [change, get?_insert, valuesOf_concat_insert]
      by_cases hsame : Text.same name n = true
      · rw [if_pos hsame, if_pos hsame, gathered_concat, ih]
      · rw [if_neg hsame, if_neg hsame, ih]
    | remove name =>
      rw [change, take, get?_remove (distinct_after changes), valuesOf_concat_remove]
      by_cases hsame : Text.same name n = true
      · cases hn : isList n <;> simp [hsame, gathered, hn]
      · rw [if_neg hsame, if_neg hsame, ih]

/-- Taking a field returns what was inserted under the name since it was last removed, and is a
removal. -/
theorem take_after (name : String) (changes : List Change) : (after changes).take name =
    (gathered name (valuesOf name changes), after (changes ++ [.remove name])) := by
  rw [after_concat, ← get?_after]
  rfl

/-! ## Other names -/

/-- A change to one name leaves the entries of all others as they are. -/
theorem entries_change (h : Headers) (c : Change) :
    ((h.change c).entries.filter fun entry => !Text.same entry.1 c.name) =
      h.entries.filter fun entry => !Text.same entry.1 c.name := by
  obtain ⟨entries⟩ := h
  induction entries with
  | nil => cases c <;> simp [change, insert, take, remove, insertEntry, removeEntry, Change.name]
  | cons entry rest ih =>
    obtain ⟨known, old⟩ := entry
    cases c with
    | insert name value =>
      by_cases hsame : Text.same known name = true
      · simp [change, insert, insertEntry, Change.name, hsame]
      · simpa [change, insert, insertEntry, Change.name, hsame] using ih
    | remove name =>
      by_cases hsame : Text.same known name = true
      · simp [change, take, remove, removeEntry, Change.name, hsame]
      · simpa [change, take, remove, removeEntry, Change.name, hsame] using ih

end Headers

/-! ## Lines -/

namespace Field

/-- The insertion that a field on a line stands for. -/
def insertion (f : Field) : Headers.Change :=
  .insert f.name (Text.trim f.value)

theorem headers_eq_after (fields : List Field) :
    headers fields = Headers.after (fields.map insertion) := by
  rw [Headers.after, List.foldl_map]
  rfl

/-- Lines are read when those before the first empty one are the lines of legible fields, and then
the fields are inserted in their order. -/
theorem ofLines_eq_ok_iff_after {lines : List String} {h : Headers} :
    Headers.ofLines lines = .ok h ↔
      (∀ f ∈ ofLines lines, f.IsLegible) ∧ Headers.block lines = (ofLines lines).map line ∧
        h = Headers.after ((ofLines lines).map insertion) := by
  rw [ofLines_eq_ok_iff]
  constructor
  · rintro ⟨fields, hfields, hlines, rfl⟩
    rw [ofLines_eq hfields hlines]
    exact ⟨hfields, hlines, headers_eq_after fields⟩
  · rintro ⟨hfields, hlines, rfl⟩
    exact ⟨ofLines lines, hfields, hlines, (headers_eq_after _).symm⟩

end Field

/-! ## Headers and their history -/

namespace Headers

/-- What headers hold of the changes that made them. -/
structure Records (h : Headers) (changes : List Change) : Prop where
  distinct : Distinct h.names
  /-- Each name is spelled and placed as in its first insertion since it was last removed. -/
  names : h.names = firsts ((lasting changes).map Prod.fst)
  absent (n : String) : h.get? n = none ↔ valuesOf n changes = []
  plain (n : String) (hn : isList n = false) : h.get? n = (valuesOf n changes).getLast?
  list (n : String) (hn : isList n = true) (hne : valuesOf n changes ≠ []) :
    h.get? n = some (", ".intercalate ((valuesOf n changes).dropWhile String.isEmpty))
  /-- One more change leaves the entries of all other names, in their order. -/
  others (c : Change) :
    ((h.change c).entries.filter fun entry => !Text.same entry.1 c.name) =
      h.entries.filter fun entry => !Text.same entry.1 c.name

theorem gathered_eq_none_iff {n : String} {values : List String} :
    gathered n values = none ↔ values = [] := by
  unfold gathered
  cases hn : isList n <;> simp

/-- Whatever is inserted and removed, headers are an ordered map of the insertions that last.  Lines
that are read are inserted, each under the name in front of its first colon, up to the first empty
one. -/
theorem records_after (changes : List Change) (lines : List String) (h : Headers) :
    (after changes).Records changes ∧
      (ofLines lines = .ok h ↔
        (∀ f ∈ Field.ofLines lines, f.IsLegible) ∧
          block lines = (Field.ofLines lines).map Field.line ∧
            h = after ((Field.ofLines lines).map Field.insertion)) := by
  refine ⟨⟨distinct_after changes, names_after changes, fun n => ?_, fun n hn => ?_,
    fun n hn hne => ?_, entries_change _⟩, Field.ofLines_eq_ok_iff_after⟩
  · rw [get?_after, gathered_eq_none_iff]
  · rw [get?_after, gathered, hn]
    rfl
  · rw [get?_after, gathered, if_pos hn, if_neg hne, joined]

example :
    (after [.insert "X-A" "1", .insert "Via" "", .insert "VIA" "a", .insert "x-a" "2",
      .remove "X-a", .insert "via" "b", .insert "x-A" "3"]).entries =
        [("Via", "a, b"), ("x-A", "3")] := by
  decide

end Headers
end Http
end WebSocket
