import WebSocket.Proofs.Http.Fields
import WebSocket.Proofs.Text.Lines

/-
Lists that stand on several lines.  What counts is which items stand between commas under the name
of a list, wherever among the lines they stand (`Field.hasToken_iff`).  So nothing changes when two
lines of a list become one, with a comma between their values, when one is parted at a comma, or
when the lines change places (`Headers.hasToken_of_lines`).
-/
namespace WebSocket
namespace Http

/-! ## Items -/

namespace Field

variable {n token : String} {f g : Field} {fields others : List Field}

/-- The items that a value lists, without the blanks around them. -/
def itemsOf (value : String) : List String :=
  (Text.pieces "," value).map Text.trim

/-- The items that fields list under a name. -/
def items (n : String) (fields : List Field) : List String :=
  (fields.filter (isNamed n)).flatMap fun f => itemsOf f.value

theorem itemsOf_trim (value : String) : itemsOf (Text.trim value) = itemsOf value :=
  Text.map_trim_pieces rfl (by decide) value

theorem itemsOf_comma (value other : String) :
    itemsOf (value ++ "," ++ other) = itemsOf value ++ itemsOf other := by
  have hcomma : Sequence.Unbordered ",".toList := Sequence.unbordered_singleton ','
  rw [itemsOf, Text.pieces_append hcomma (List.cons_ne_nil _ _), List.map_append]
  rfl

theorem items_append (n : String) (fields others : List Field) :
    items n (fields ++ others) = items n fields ++ items n others := by
  rw [items, List.filter_append, List.flatMap_append]
  rfl

theorem items_cons_of_named (hf : f.isNamed n = true) (fields : List Field) :
    items n (f :: fields) = itemsOf f.value ++ items n fields := by
  rw [items, List.filter_cons_of_pos hf, List.flatMap_cons]
  rfl

theorem mem_items_iff {item : String} : item ∈ items n fields ↔
    ∃ f ∈ fields, f.isNamed n = true ∧
      ∃ piece ∈ Text.pieces "," f.value, Text.trim piece = item := by
  simp only [items, itemsOf, List.mem_flatMap, List.mem_filter, List.mem_map, and_assoc]

theorem mem_items_perm (h : fields.Perm others) (n item : String) :
    item ∈ items n fields ↔ item ∈ items n others :=
  ((h.filter (isNamed n)).flatMap_right _).mem_iff

theorem lists_iff :
    Lists n token fields ↔ ∃ item ∈ items n fields, Text.same item token = true := by
  simp only [Lists, mem_items_iff]
  constructor
  · rintro ⟨f, hf, hname, piece, hpiece, hsame⟩
    have hitem : Text.trim piece ∈ itemsOf f.value := by
      rw [← itemsOf_trim]
      exact List.mem_map_of_mem hpiece
    exact ⟨_, ⟨f, hf, hname, List.mem_map.mp hitem⟩, hsame⟩
  · rintro ⟨item, ⟨f, hf, hname, hitem⟩, hsame⟩
    have hitem' : item ∈ itemsOf (Text.trim f.value) := by
      rw [itemsOf_trim]
      exact List.mem_map.mpr hitem
    obtain ⟨piece, hpiece, rfl⟩ := List.mem_map.mp hitem'
    exact ⟨f, hf, hname, piece, hpiece, hsame⟩

/-- The headers of fields have a token in a list when it is one of the items. -/
theorem hasToken_iff (hn : Headers.isList n = true) (ht : token ≠ "") (fields : List Field) :
    (headers fields).hasToken n token = true ↔
      ∃ item ∈ items n fields, Text.same item token = true := by
  rw [hasToken_headers hn ht, lists_iff]

/-! ## Names of lists -/

theorem toLower_of_isBlank {c : Char} (h : Text.isBlank c = true) : c.toLower = c := by
  refine dif_neg fun hrange => ?_
  have hlow : 'A'.toNat ≤ c.toNat := hrange.1
  have hhigh : c.toNat ≤ 'Z'.toNat := hrange.2
  have hA : 'A'.toNat = 65 := rfl
  have hZ : 'Z'.toNat = 90 := rfl
  simp only [Text.isBlank] at h
  grind

/-- A field under the name of a list is legible, however the name is spelled. -/
theorem isLegible_of_isList (hf : f.isNamed n = true) (hn : Headers.isList n = true) :
    f.IsLegible := by
  have hplain : ∀ known ∈ Headers.listNames, Text.fold known ≠ "" ∧
      Text.IsDense (Text.fold known) ∧ ':' ∉ (Text.fold known).toList := by decide
  obtain ⟨known, hknown, hsame⟩ := List.any_eq_true.mp hn
  have hfold : Text.fold f.name = Text.fold known :=
    (Text.same_iff.mp hf).trans (Text.same_iff.mp hsame).symm
  obtain ⟨hne, hdense, hcolon⟩ := hplain known hknown
  rw [← hfold] at hne hdense hcolon
  have hlower : ∀ c ∈ f.name.toList, c.toLower ∈ (Text.fold f.name).toList := fun c hc => by
    rw [Text.fold, String.toList_ofList]
    exact List.mem_map_of_mem hc
  refine ⟨fun hname => hne (by rw [hname]; rfl), fun c hc => ?_, fun hc => ?_⟩
  · -- a blank has no case, so it would stand in the small letters as well
    refine Bool.eq_false_iff.mpr fun hblank => ?_
    have hsmall := hdense _ (hlower c hc)
    rw [toLower_of_isBlank hblank, hblank] at hsmall
    cases hsmall
  · exact hcolon (hlower ':' hc)

/-! ## Lines -/

/-- A line from which a field is read. -/
def IsLine (text : String) : Prop :=
  ∃ f : Field, f.IsLegible ∧ f.line = text

theorem map_line_filterMap {texts : List String} (h : ∀ text ∈ texts, IsLine text) :
    (∀ f ∈ texts.filterMap ofLine?, f.IsLegible) ∧ (texts.filterMap ofLine?).map line = texts := by
  induction texts with
  | nil => exact ⟨List.forall_mem_nil _, rfl⟩
  | cons text rest ih =>
    obtain ⟨⟨f, hf, rfl⟩, hrest⟩ := List.forall_mem_cons.mp h
    obtain ⟨hlegible, hlines⟩ := ih hrest
    rw [List.filterMap_cons_some hf.ofLine?_line, List.map_cons, hlines]
    exact ⟨List.forall_mem_cons.mpr ⟨hf, hlegible⟩, rfl⟩

/-- Lines are read when each before the first empty one can be read by itself. -/
theorem ofLines_eq_ok_iff_forall {lines : List String} {h : Headers} :
    Headers.ofLines lines = .ok h ↔
      (∀ text ∈ Headers.block lines, IsLine text) ∧ h = headers (ofLines lines) := by
  rw [ofLines_eq_ok_iff]
  constructor
  · rintro ⟨fields, hfields, hlines, rfl⟩
    rw [ofLines_eq hfields hlines, hlines]
    exact ⟨List.forall_mem_map.mpr fun f hf => ⟨f, hfields f hf, rfl⟩, rfl⟩
  · rintro ⟨hlines, rfl⟩
    obtain ⟨hlegible, hmap⟩ := map_line_filterMap hlines
    exact ⟨ofLines lines, hlegible, hmap.symm, rfl⟩

end Field

namespace Headers

variable {n token : String} {lines others : List String}

/-- Whether lines list a token under a name, unless they cannot be read. -/
def lists? (n token : String) (lines : List String) : Option Bool :=
  (ofLines lines).toOption.map fun h => h.hasToken n token

theorem lists?_of_ok (hlines : ∀ text ∈ block lines, Field.IsLine text) :
    lists? n token lines = some ((Field.headers (Field.ofLines lines)).hasToken n token) := by
  rw [lists?, Field.ofLines_eq_ok_iff_forall.mpr ⟨hlines, rfl⟩]
  rfl

theorem lists?_of_error (hlines : ¬ ∀ text ∈ block lines, Field.IsLine text) :
    lists? n token lines = none := by
  unfold lists?
  cases hread : ofLines lines with
  | error e => rfl
  | ok h => exact absurd (Field.ofLines_eq_ok_iff_forall.mp hread).1 hlines

/-- Lines that are in order together and list the same items give the same answer. -/
theorem lists?_congr (hn : isList n = true) (ht : token ≠ "")
    (hlines : (∀ text ∈ block lines, Field.IsLine text) ↔ ∀ text ∈ block others, Field.IsLine text)
    (hitems : ∀ item, item ∈ Field.items n (Field.ofLines lines) ↔
      item ∈ Field.items n (Field.ofLines others)) :
    lists? n token lines = lists? n token others := by
  by_cases hread : ∀ text ∈ block lines, Field.IsLine text
  · rw [lists?_of_ok hread, lists?_of_ok (hlines.mp hread), Option.some_inj, Bool.eq_iff_iff,
      Field.hasToken_iff hn ht, Field.hasToken_iff hn ht]
    simp only [hitems]
  · rw [lists?_of_error hread, lists?_of_error (mt hlines.mpr hread)]

theorem lists?_perm (hn : isList n = true) (ht : token ≠ "")
    (h : (block lines).Perm (block others)) : lists? n token lines = lists? n token others := by
  refine lists?_congr hn ht ?_ fun item => Field.mem_items_perm (h.filterMap _) n item
  simp only [h.mem_iff]

/-- Two lines of a list are the same as one, with a comma between their values. -/
theorem lists?_merge (hn : isList n = true) (ht : token ≠ "") {front between back : List String}
    {f g : Field} (hf : f.isNamed n = true) (hg : g.isNamed n = true)
    (hlines : block lines = front ++ f.line :: (between ++ g.line :: back))
    (hothers : block others =
      front ++ Field.line { f with value := f.value ++ "," ++ g.value } :: (between ++ back)) :
    lists? n token lines = lists? n token others := by
  have hm : Field.isNamed n { f with value := f.value ++ "," ++ g.value } = true := hf
  have hflegible := Field.isLegible_of_isList hf hn
  have hglegible := Field.isLegible_of_isList hg hn
  have hmlegible := Field.isLegible_of_isList hm hn
  refine lists?_congr hn ht ?_ fun item => ?_
  · have hfline : Field.IsLine f.line := ⟨f, hflegible, rfl⟩
    have hgline : Field.IsLine g.line := ⟨g, hglegible, rfl⟩
    have hmline : Field.IsLine (Field.line { f with value := f.value ++ "," ++ g.value }) :=
      ⟨_, hmlegible, rfl⟩
    rw [hlines, hothers]
    simp only [List.forall_mem_append, List.forall_mem_cons, hfline, hgline, hmline, true_and]
  · rw [Field.ofLines, Field.ofLines, hlines, hothers]
    simp only [List.filterMap_append, List.filterMap_cons_some hflegible.ofLine?_line,
      List.filterMap_cons_some hglegible.ofLine?_line,
      List.filterMap_cons_some hmlegible.ofLine?_line, Field.items_append,
      Field.items_cons_of_named hf, Field.items_cons_of_named hg, Field.items_cons_of_named hm,
      Field.itemsOf_comma, List.mem_append]
    -- the items of the second line have moved in front of those between the lines
    rw [or_assoc, or_left_comm (a := item ∈ Field.items n (between.filterMap Field.ofLine?))]

/-- In lines that are read, a list has the tokens that stand between commas on the lines of its
name.  The answer is the same when two such lines become one or one is parted at a comma, and in
whatever order the lines stand. -/
theorem hasToken_of_lines (hn : isList n = true) (ht : token ≠ "") :
    (∀ lines h, ofLines lines = .ok h →
      (h.hasToken n token = true ↔
        ∃ f ∈ Field.ofLines lines, Text.same f.name n = true ∧
          ∃ piece ∈ Text.pieces "," f.value, Text.same (Text.trim piece) token = true)) ∧
    (∀ (lines others front between back : List String) (f g : Field),
      Text.same f.name n = true → Text.same g.name n = true →
      block lines = front ++ f.line :: (between ++ g.line :: back) →
      block others =
        front ++ Field.line { f with value := f.value ++ "," ++ g.value } :: (between ++ back) →
      lists? n token lines = lists? n token others) ∧
    ∀ lines others : List String, (block lines).Perm (block others) →
      lists? n token lines = lists? n token others := by
  refine ⟨fun lines h hread => ?_, fun lines others front between back f g hf hg hlines hothers =>
    lists?_merge hn ht hf hg hlines hothers, fun lines others hperm => lists?_perm hn ht hperm⟩
  obtain ⟨-, rfl⟩ := Field.ofLines_eq_ok_iff_forall.mp hread
  rw [Field.hasToken_iff hn ht]
  constructor
  · rintro ⟨item, hitem, hsame⟩
    obtain ⟨f, hf, hname, piece, hpiece, rfl⟩ := Field.mem_items_iff.mp hitem
    exact ⟨f, hf, hname, piece, hpiece, hsame⟩
  · rintro ⟨f, hf, hname, piece, hpiece, hsame⟩
    exact ⟨_, Field.mem_items_iff.mpr ⟨f, hf, hname, piece, hpiece, rfl⟩, hsame⟩

/-- The list of two lines, one of them behind another field, has the token of either, and does so on
one line and in another order too. -/
theorem hasToken_of_lines_of_connection :
    let lines :=
      ["Connection: keep-alive,", "Host: a", "connection: , Upgrade ", "", "Connection: te"]
    isList "CONNECTION" = true ∧ "upgrade" ≠ "" ∧ ∃ h, ofLines lines = .ok h ∧
      h.hasToken "CONNECTION" "upgrade" = true ∧
      lists? "CONNECTION" "upgrade" lines =
        lists? "CONNECTION" "upgrade" ["Connection: keep-alive,, , Upgrade ", "Host: a"] ∧
      lists? "CONNECTION" "upgrade" lines =
        lists? "CONNECTION" "upgrade"
          ["connection: , Upgrade ", "Host: a", "Connection: keep-alive,"] := by
  intro lines
  have hn : isList "CONNECTION" = true := by decide
  have ht : "upgrade" ≠ "" := by decide
  obtain ⟨hlisted, hmerged, hpermuted⟩ := hasToken_of_lines hn ht
  have hread : ofLines lines = .ok ⟨[("Connection", "keep-alive,, , Upgrade"), ("Host", "a")]⟩ := by
    decide +kernel
  refine ⟨hn, ht, _, hread, (hlisted lines _ hread).mpr ?_, ?_, hpermuted _ _ (by decide)⟩
  · exact ⟨⟨"connection", " , Upgrade "⟩, by decide, by decide, " Upgrade ", by decide, by decide⟩
  · exact hmerged _ _ [] ["Host: a"] [] ⟨"Connection", " keep-alive,"⟩ ⟨"connection", " , Upgrade "⟩
      (by decide) (by decide) (by decide) (by decide)

end Headers
end Http
end WebSocket
