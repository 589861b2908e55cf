import WebSocket.Proofs.Http.Fields

/-
The entries of headers.  Whatever is inserted and removed, the names differ in more than letter case
(`Headers.distinct_after`): an insertion adds a name only where there is none like it, and a removal
only takes one away.  Fields whose names differ are therefore the entries of the headers that they
make (`Field.headers_of_distinct`).
-/
namespace WebSocket
namespace Http
namespace Headers

/-- Names of which no two are the same, whatever their letter case. -/
def Distinct (names : List String) : Prop :=
  names.Pairwise fun a b => Text.same a b = false

instance (names : List String) : Decidable (Distinct names) :=
  inferInstanceAs (Decidable (List.Pairwise _ names))

/-- The names of headers. -/
def names (h : Headers) : List String :=
  h.entries.map Prod.fst

/-! ## Lookups -/

/-- Where names differ, an entry is found under its name. -/
theorem valueAmong?_of_mem {known name value : String} {entries : List (String × String)}
    (hd : Distinct (entries.map Prod.fst)) (hmem : (known, value) ∈ entries)
    (hsame : Text.same known name = true) : valueAmong? name entries = some value := by
  induction entries with
  | nil => cases hmem
  | cons entry rest ih =>
    obtain ⟨first, old⟩ := entry
    obtain ⟨hfirst, hrest⟩ := List.pairwise_cons.mp hd
    rcases List.mem_cons.mp hmem with heq | hmem
    · cases heq
      exact if_pos hsame
    · have hother : Text.same first name = false := by
        rw [Text.same_comm, ← same_congr hsame, Text.same_comm]
        exact hfirst known (List.mem_map_of_mem hmem)
      rw [valueAmong?, if_neg (by simp [hother]), ih hrest hmem]

theorem valueAmong?_eq_none {name : String} {entries : List (String × String)}
    (h : ∀ known ∈ entries.map Prod.fst, Text.same known name = false) :
    valueAmong? name entries = none := by
  induction entries with
  | nil => rfl
  | cons entry rest ih =>
    obtain ⟨hfirst, hrest⟩ := List.forall_mem_cons.mp h
    rw [valueAmong?, if_neg (by simp [hfirst]), ih hrest]

/-! ## One change -/

theorem map_fst_insertEntry (name value : String) (entries : List (String × String)) :
    (insertEntry name value entries).map Prod.fst =
      if entries.any fun entry => Text.same entry.1 name then entries.map Prod.fst
      else entries.map Prod.fst ++ [name] := by
  induction entries with
  | nil => rfl
  | cons entry rest ih =>
    obtain ⟨known, old⟩ := entry
    by_cases hk : Text.same known name = true
    · simp [insertEntry, hk]
    · have hk' : Text.same known name = false := Bool.eq_false_iff.mpr hk
      rw [insertEntry, if_neg hk, List.map_cons, ih, List.any_cons, hk', Bool.false_or]
      split <;> rfl

/-- A field of a new name comes last. -/
theorem insertEntry_of_new {name : String} {entries : List (String × String)}
    (h : ∀ known ∈ entries.map Prod.fst, Text.same known name = false) (value : String) :
    insertEntry name value entries = entries ++ [(name, value)] := by
  induction entries with
  | nil => rfl
  | cons entry rest ih =>
    obtain ⟨known, old⟩ := entry
    obtain ⟨hk, hrest⟩ := List.forall_mem_cons.mp h
    rw [insertEntry, if_neg (by simp [hk]), ih hrest, List.cons_append]

theorem removeEntry_sublist (name : String) (entries : List (String × String)) :
    (removeEntry name entries).Sublist entries := by
  induction entries with
  | nil => exact List.Sublist.refl []
  | cons entry rest ih =>
    obtain ⟨known, old⟩ := entry
    rw [removeEntry]
    split
    · exact List.sublist_cons_self _ rest
    · exact ih.cons_cons _

theorem Distinct.insert {h : Headers} (hd : Distinct h.names) (name value : String) :
    Distinct (h.insert name value).names := by
  have hnames := map_fst_insertEntry name value h.entries
  rw [names, Headers.insert, hnames]
  split
  · exact hd
  · rename_i hnew
    refine List.pairwise_append.mpr ⟨hd, List.pairwise_singleton _ _, fun a ha b hb => ?_⟩
    obtain rfl := List.mem_singleton.mp hb
    obtain ⟨entry, hentry, rfl⟩ := List.mem_map.mp ha
    exact Bool.eq_false_iff.mpr fun hsame => hnew (List.any_eq_true.mpr ⟨entry, hentry, hsame⟩)

theorem Distinct.remove {h : Headers} (hd : Distinct h.names) (name : String) :
    Distinct (h.remove name).names :=
  List.Pairwise.sublist ((removeEntry_sublist name h.entries).map Prod.fst) hd

/-! ## Any changes -/

/-- What is done to headers. -/
inductive Change
  | insert (name value : String)
  | remove (name : String)
deriving DecidableEq

/-- Headers after a change. -/
def change (h : Headers) : Change → Headers
  | .insert name value => h.insert name value
  | .remove name => (h.take name).2

/-- The headers that changes leave where there was no field before. -/
def after (changes : List Change) : Headers :=
  changes.foldl change empty

/-- All names differ, whatever has been done. -/
theorem distinct_after (changes : List Change) : Distinct (after changes).names := by
  have hfold : ∀ h : Headers, Distinct h.names → Distinct (changes.foldl change h).names := by
    induction changes with
    | nil => exact fun h hd => hd
    | cons first rest ih =>
      intro h hd
      refine ih (h.change first) ?_
      cases first with
      | insert name value => exact hd.insert name value
      | remove name => exact hd.remove name
  exact hfold empty List.Pairwise.nil

end Headers

/-! ## The headers of distinct fields -/

namespace Field

/-- The entry that a field makes. -/
def entry (f : Field) : String × String :=
  (f.name, Text.trim f.value)

theorem foldl_of_distinct {fields : List Field} {h : Headers}
    (hd : Headers.Distinct (h.names ++ fields.map name)) :
    fields.foldl (fun h f => h.insert f.name (Text.trim f.value)) h =
      ⟨h.entries ++ fields.map entry⟩ := by
  induction fields generalizing h with
  | nil => simp
  | cons f rest ih =>
    have hnew : ∀ known ∈ h.entries.map Prod.fst, Text.same known f.name = false :=
      fun known hk => (List.pairwise_append.mp hd).2.2 known hk f.name List.mem_cons_self
    have hinsert : h.insert f.name (Text.trim f.value) = ⟨h.entries ++ [f.entry]⟩ := by
      rw [Headers.insert, Headers.insertEntry_of_new hnew]
      rfl
    have hrest :
        Headers.Distinct ((h.insert f.name (Text.trim f.value)).names ++ rest.map name) := by
      rw [hinsert]
      simpa [Headers.names, entry] using hd
    rw [List.foldl_cons, ih hrest, hinsert]
    simp

/-- Fields whose names differ are the entries of their headers. -/
theorem headers_of_distinct {fields : List Field} (hd : Headers.Distinct (fields.map name)) :
    headers fields = ⟨fields.map entry⟩ :=
  foldl_of_distinct (by simpa [Headers.names, Headers.empty] using hd)

end Field
end Http
end WebSocket
