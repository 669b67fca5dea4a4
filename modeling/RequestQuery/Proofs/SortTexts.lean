import RequestQuery.Proofs.SortDirectives
import RequestQuery.Request
import RequestQuery.Sort.Plan

namespace RequestQuery

namespace Text

theorem split_intercalate_eq_flatMap (sep : Char) {texts : List String} (hne : texts ≠ []) :
    split sep (String.intercalate (String.ofList [sep]) texts) = texts.flatMap (split sep) := by
  induction texts with
  | nil => exact absurd rfl hne
  | cons text rest ih =>
      rcases eq_or_ne rest [] with rfl | hrest
      · simp
      · have hjoin : (String.intercalate (String.ofList [sep]) (text :: rest)).toList =
            text.toList ++ sep :: (String.intercalate (String.ofList [sep]) rest).toList := by
          rw [String.intercalate_cons_of_ne_nil hrest]
          simp
        rw [List.flatMap_cons, ← ih hrest, split_eq_map_splitOn, hjoin,
          List.splitOn_append_cons_self, List.map_append, ← split_eq_map_splitOn,
          ← split_eq_map_splitOn]

theorem trim_eq_self_iff {text : String} :
    trim text = text ↔ (∀ c ∈ text.toList.head?, isBlank c = false) ∧
      ∀ c ∈ text.toList.getLast?, isBlank c = false := by
  rw [← String.toList_inj, toList_trim]
  exact dropEnds_eq_self_iff

theorem trim_trim (text : String) : trim (trim text) = trim text := by
  rw [trim_eq_self_iff, toList_trim]
  exact ⟨head_dropEnds, getLast_dropEnds⟩

theorem strip_eq_nil_iff {s : List Char} : strip s = [] ↔ IsGap s := by
  constructor
  · intro h
    obtain ⟨before, after, hbefore, hafter, hs⟩ := exists_strip s
    rw [h, List.append_nil] at hs
    rw [hs]
    exact List.forall_mem_append.mpr ⟨hbefore, hafter⟩
  · intro h
    rw [← List.append_nil s, strip_gap_append h]
    rfl

end Text

open Text (IsGap isBlank)

/-- A directive with a mark before or behind the field. -/
inductive SortDirective.IsMarked (s : Snapshot) : String → Prop
  | front {mark field direction} : s.indicator? mark = some direction → isBlank mark = false →
      Text.isFieldPath field = true → IsMarked s (String.singleton mark ++ field)
  | back {mark field direction} : s.indicator? mark = some direction → isBlank mark = false →
      Text.isFieldPath field = true → IsMarked s (field ++ String.singleton mark)

/-- A directive with a word for the direction behind a comma. -/
inductive SortDirective.IsWorded : String → Prop
  | mk {field word direction} : Text.isFieldPath field = true →
      Direction.parse? word = some direction → Text.trim word = word →
      IsWorded (field ++ "," ++ word)

/-- Directives of which a bare field is the last or stands before one with a mark. -/
inductive SortDirective.AreApart (s : Snapshot) : List String → Prop
  | nil : AreApart s []
  | marked {text rest} : IsMarked s text → AreApart s rest → AreApart s (text :: rest)
  | worded {text rest} : IsWorded text → AreApart s rest → AreApart s (text :: rest)
  | last {field} : Text.isFieldPath field = true → AreApart s [field]
  | bare {field text rest} : Text.isFieldPath field = true → IsMarked s text →
      AreApart s (text :: rest) → AreApart s (field :: text :: rest)

namespace SortDirective

variable {s : Snapshot} {text : String}

theorem ne_empty_of_isFieldPath (h : Text.isFieldPath text = true) : text ≠ "" := by
  rintro rfl
  exact absurd h (by decide)

theorem IsMarked.ne_empty (h : IsMarked s text) : text ≠ "" := by
  intro hempty
  obtain ⟨-, -, hfield⟩ | ⟨-, -, hfield⟩ := h
  · exact ne_empty_of_isFieldPath hfield (String.append_eq_empty_iff.mp hempty).2
  · exact ne_empty_of_isFieldPath hfield (String.append_eq_empty_iff.mp hempty).1

theorem IsWorded.ne_empty (h : IsWorded text) : text ≠ "" := by
  intro hempty
  obtain ⟨hfield, -, -⟩ := h
  rw [String.append_assoc] at hempty
  exact ne_empty_of_isFieldPath hfield (String.append_eq_empty_iff.mp hempty).1

theorem AreApart.forall_ne_empty {texts : List String} (h : AreApart s texts) :
    ∀ text ∈ texts, text ≠ "" := by
  induction h with
  | nil => simp
  | marked hmarked _ ih => exact List.forall_mem_cons.mpr ⟨hmarked.ne_empty, ih⟩
  | worded hworded _ ih => exact List.forall_mem_cons.mpr ⟨hworded.ne_empty, ih⟩
  | last hfield => exact List.forall_mem_singleton.mpr (ne_empty_of_isFieldPath hfield)
  | bare hfield _ _ ih => exact List.forall_mem_cons.mpr ⟨ne_empty_of_isFieldPath hfield, ih⟩

end SortDirective

namespace SortInput

variable {s : Snapshot}

theorem pairUp_cons_of_not_isPlain {text : String} (h : isPlain s text = false)
    (rest : List String) : pairUp s (text :: rest) = text :: pairUp s rest := by
  cases rest with
  | nil => rfl
  | cons next rest => simp [pairUp, h]

theorem pairUp_cons_cons_of_not_isPlain {text next : String} (h : isPlain s next = false)
    (rest : List String) :
    pairUp s (text :: next :: rest) = text :: pairUp s (next :: rest) := by
  simp [pairUp, h]

theorem isPlain_eq_true {text : String} (hne : text.toList ≠ [])
    (hfirst : ∀ c ∈ text.toList.head?, s.indicator? c = none)
    (hlast : ∀ c ∈ text.toList.getLast?, s.indicator? c = none) : isPlain s text = true := by
  simp only [isPlain, Bool.and_eq_true, Bool.not_eq_true', List.isEmpty_eq_false_iff,
    Option.any_eq_false]
  refine ⟨⟨hne, fun c hc => ?_⟩, fun c hc => ?_⟩
  · simp [hfirst c hc]
  · simp [hlast c hc]

/-- The parts of a text between commas, without white space around them. -/
def parts (text : String) : List String :=
  (Text.split ',' text).map Text.trim

theorem directives_delimited (s : Snapshot) (text : String) :
    (delimited text).directives s = pairUp s (parts text) :=
  rfl

theorem parts_of_notMem {text : String} (hcomma : ',' ∉ text.toList)
    (htrim : Text.trim text = text) : parts text = [text] := by
  rw [parts, Text.split_of_notMem hcomma, List.map_singleton, htrim]

theorem trim_of_isFieldPath {field : String} (h : Text.isFieldPath field = true) :
    Text.trim field = field := by
  rw [Text.trim, Text.strip_of_isFieldPath h, String.ofList_toList]

theorem parts_of_isFieldPath {field : String} (h : Text.isFieldPath field = true) :
    parts field = [field] :=
  parts_of_notMem (Text.comma_notMem_of_isFieldPath h) (trim_of_isFieldPath h)

theorem isPlain_of_isFieldPath [Calendar.ZoneDatabase] (hs : s.IsInForce) {field : String}
    (h : Text.isFieldPath field = true) : isPlain s field = true := by
  obtain ⟨c, rest, hfield, -⟩ := Text.exists_head_of_isFieldPath h
  obtain ⟨hfirst, hlast⟩ := hs.not_marked_of_isFieldPath h
  exact isPlain_eq_true (by simp [hfield]) hfirst hlast

theorem isAlphanumeric_of_trim_eq {word : String} {direction : Direction}
    (hword : Direction.parse? word = some direction) (htrim : Text.trim word = word) :
    ∀ c ∈ word.toList, Text.isAlphanumeric c = true := by
  rw [← htrim, Text.toList_trim]
  exact Direction.isAlphanumeric_of_parse? hword

theorem isPlain_of_parse? [Calendar.ZoneDatabase] (hs : s.IsInForce) {word : String}
    {direction : Direction} (hword : Direction.parse? word = some direction)
    (htrim : Text.trim word = word) :
    isPlain s word = true := by
  have hletters := isAlphanumeric_of_trim_eq hword htrim
  refine isPlain_eq_true ?_ (fun c hc => ?_) fun c hc => ?_
  · intro hnil
    apply Direction.strip_ne_nil_of_parse? hword
    rw [hnil]
    rfl
  · exact hs.indicator?_eq_none (.inr (hletters c (List.mem_of_mem_head? hc)))
  · exact hs.indicator?_eq_none (.inr (hletters c (List.mem_of_mem_getLast? hc)))

theorem parts_of_isMarked [Calendar.ZoneDatabase] (hs : s.IsInForce) {text : String}
    (h : SortDirective.IsMarked s text) : parts text = [text] ∧ isPlain s text = false := by
  obtain ⟨hmark, hblank, hfield⟩ | ⟨hmark, hblank, hfield⟩ := h
  all_goals
    rename_i mark field direction
    have hcomma : ',' ≠ mark := by
      rintro rfl
      exact absurd (hs.isAlphanumeric_of_indicator? hmark).2 (by decide)
    have hnotMem := Text.comma_notMem_of_isFieldPath hfield
    obtain ⟨c, rest, hcons, -⟩ := Text.exists_head_of_isFieldPath hfield
    obtain ⟨hhead, hlast⟩ := Text.dropEnds_eq_self_iff.mp (Text.strip_of_isFieldPath hfield)
  · have htext : (String.singleton mark ++ field).toList = mark :: field.toList := by simp
    constructor
    · apply parts_of_notMem
      · simpa [htext, hcomma] using hnotMem
      · rw [Text.trim, Text.strip, Text.dropEnds_eq_self_iff.mpr, String.ofList_toList]
        refine ⟨by simpa [htext] using hblank, ?_⟩
        rwa [htext, List.getLast?_cons_of_ne_nil (by simp [hcons])]
    · simp [isPlain, hmark]
  · have htext : (field ++ String.singleton mark).toList = field.toList ++ [mark] := by simp
    constructor
    · apply parts_of_notMem
      · simpa [htext, hcomma] using hnotMem
      · rw [Text.trim, Text.strip, Text.dropEnds_eq_self_iff.mpr, String.ofList_toList]
        refine ⟨?_, by simpa [htext] using hblank⟩
        rwa [htext, List.head?_append_of_ne_nil _ (by simp [hcons])]
    · simp [isPlain, hmark]

theorem parts_of_isWorded [Calendar.ZoneDatabase] (hs : s.IsInForce) {text : String}
    (h : SortDirective.IsWorded text) :
    ∃ field word, text = field ++ "," ++ word ∧ parts text = [field, word] ∧
      isPlain s field = true ∧ isPlain s word = true := by
  obtain ⟨hfield, hword, htrim⟩ := h
  rename_i field word direction
  refine ⟨field, word, rfl, ?_, isPlain_of_isFieldPath hs hfield,
    isPlain_of_parse? hs hword htrim⟩
  have hcomma : ',' ∉ word.toList := by
    intro hmem
    have hletter := isAlphanumeric_of_trim_eq hword htrim ',' hmem
    revert hletter
    decide +kernel
  have hparts : ∀ part ∈ [field, word], ',' ∉ part.toList := by
    simpa using ⟨Text.comma_notMem_of_isFieldPath hfield, hcomma⟩
  have hsplit : Text.split ',' (field ++ "," ++ word) = [field, word] := by
    rw [← Text.split_intercalate (by simp) hparts, String.intercalate_cons_cons,
      String.intercalate_singleton]
  rw [parts, hsplit, List.map_cons, List.map_singleton, trim_of_isFieldPath hfield, htrim]

theorem pairUp_flatMap_parts [Calendar.ZoneDatabase] (hs : s.IsInForce) {texts : List String}
    (h : SortDirective.AreApart s texts) : pairUp s (texts.flatMap parts) = texts := by
  induction h with
  | nil => rfl
  | @marked text rest hmarked _ ih =>
      obtain ⟨hparts, hplain⟩ := parts_of_isMarked hs hmarked
      rw [List.flatMap_cons, hparts, List.singleton_append, pairUp_cons_of_not_isPlain hplain, ih]
  | @worded text rest hworded _ ih =>
      obtain ⟨field, word, htext, hparts, hfield, hword⟩ := parts_of_isWorded hs hworded
      rw [List.flatMap_cons, hparts, List.cons_append, List.singleton_append, pairUp, hfield, hword,
        Bool.and_self, if_pos rfl, ih, htext]
  | last hfield => rw [List.flatMap_singleton, parts_of_isFieldPath hfield, pairUp]
  | @bare field text rest hfield hmarked _ ih =>
      obtain ⟨hparts, hplain⟩ := parts_of_isMarked hs hmarked
      rw [List.flatMap_cons, hparts, List.singleton_append] at ih
      rw [List.flatMap_cons, List.flatMap_cons, parts_of_isFieldPath hfield, hparts,
        List.singleton_append, List.singleton_append, pairUp_cons_cons_of_not_isPlain hplain, ih]

theorem directives_intercalate [Calendar.ZoneDatabase] (hs : s.IsInForce) {texts : List String}
    (hne : texts ≠ []) (h : SortDirective.AreApart s texts) :
    (delimited (String.intercalate "," texts)).directives s = texts := by
  have hsplit : Text.split ',' (String.intercalate "," texts) = texts.flatMap (Text.split ',') :=
    Text.split_intercalate_eq_flatMap ',' hne
  rw [directives_delimited, parts, hsplit, List.map_flatMap]
  exact pairUp_flatMap_parts hs h

theorem trim_of_mem_pairUp {segments : List String} (h : ∀ part ∈ segments, Text.trim part = part) :
    ∀ text ∈ pairUp s segments, Text.trim text = text := by
  have hne {part : String} (hplain : isPlain s part = true) : part.toList ≠ [] := by
    rintro hnil
    simp [isPlain, hnil] at hplain
  fun_induction pairUp s segments with
  | case1 => exact h
  | case2 part => exact h
  | case3 a b rest hplain ih =>
      simp only [List.forall_mem_cons, Bool.and_eq_true] at h hplain
      obtain ⟨ha, hb, hrest⟩ := h
      refine List.forall_mem_cons.mpr ⟨?_, ih hrest⟩
      have htext : (a ++ "," ++ b).toList = a.toList ++ ',' :: b.toList := by simp
      rw [Text.trim_eq_self_iff, htext]
      constructor
      · rw [List.head?_append_of_ne_nil _ (hne hplain.1)]
        exact (Text.trim_eq_self_iff.mp ha).1
      · rw [List.getLast?_append_of_ne_nil _ (by simp), List.getLast?_cons_of_ne_nil (hne hplain.2)]
        exact (Text.trim_eq_self_iff.mp hb).2
  | case4 a b rest hplain ih =>
      rw [List.forall_mem_cons] at h ⊢
      exact ⟨h.1, ih h.2⟩

theorem trim_of_mem_directives {input : SortInput} :
    ∀ text ∈ input.directives s, Text.trim text = text := by
  cases input with
  | delimited text =>
      apply trim_of_mem_pairUp
      simpa using fun part _ => Text.trim_trim part
  | sequence texts => simpa [directives] using fun text _ => Text.trim_trim text

theorem directives_sequence {texts : List String} (h : ∀ text ∈ texts, Text.trim text = text) :
    (sequence texts).directives s = texts := by
  rw [directives, List.map_congr_left h, List.map_id']

theorem isEmpty_intercalate [Calendar.ZoneDatabase] (hs : s.IsInForce) {texts : List String}
    (hne : texts ≠ []) (h : SortDirective.AreApart s texts) :
    (delimited (String.intercalate "," texts)).isEmpty = false := by
  rw [isEmpty, Bool.eq_false_iff]
  intro hempty
  have htrim : Text.trim (String.intercalate "," texts) = "" := by simpa using hempty
  have hgap : IsGap (String.intercalate "," texts).toList := by
    rw [← Text.strip_eq_nil_iff, ← String.toList_ofList (l := Text.strip _)]
    exact congrArg String.toList htrim
  -- White space alone would be one directive without a character.
  have hcomma : ',' ∉ (String.intercalate "," texts).toList := fun hmem =>
    absurd (hgap ',' hmem) (by decide)
  have htexts := directives_intercalate hs hne h
  rw [directives_delimited, parts, Text.split_of_notMem hcomma, List.map_singleton, htrim,
    pairUp] at htexts
  exact h.forall_ne_empty "" (by simp [← htexts]) rfl

/-- Directives in one text make the same plan as the directives one by one. -/
theorem ofInput_intercalate [Calendar.ZoneDatabase] (hs : s.IsInForce) {texts : List String}
    (hne : texts ≠ []) (h : SortDirective.AreApart s texts) (source : Source)
    (allowed : Option AllowedSorts) :
    SortPlan.ofInput source s (delimited (String.intercalate "," texts)) allowed =
      SortPlan.ofInput source s (sequence texts) allowed := by
  have hdirectives := directives_intercalate hs hne h
  have htrim : ∀ text ∈ texts, Text.trim text = text := by
    rw [← hdirectives]
    exact trim_of_mem_directives
  have hempty : (sequence texts).isEmpty = false := by simpa [isEmpty] using hne
  rw [SortPlan.ofInput, SortPlan.ofInput, isEmpty_intercalate hs hne h, hempty, hdirectives,
    directives_sequence htrim]

end SortInput

namespace Request

/-- The texts that a query string brings along to sort by, in order. -/
def sortTexts (queryString : String) : List String :=
  ((Text.Form.decode (dropQuestionMark queryString)).filter fun p =>
    Text.trim p.1 == "sort" && !(Text.trim p.2).isEmpty).map Prod.snd

variable {s : Snapshot} {searchParam : String}

theorem sort_addParam (r : Request) (p : String × String) :
    (addParam s searchParam r p).sort =
      r.sort ++ if Text.trim p.1 == "sort" && !(Text.trim p.2).isEmpty then [p.2] else [] := by
  unfold addParam
  dsimp only
  by_cases hname : Text.trim p.1 = "sort"
  · rw [hname]
    cases (Text.trim p.2).isEmpty <;> simp
  · simp only [beq_false_of_ne hname, Bool.false_and, Bool.false_eq_true, if_false,
      List.append_nil]
    repeat' split
    all_goals rfl

theorem sort_parse (s : Snapshot) (searchParam queryString : String) :
    (parse s searchParam queryString).sort = sortTexts queryString := by
  have hfold (params : List (String × String)) (r : Request) :
      (params.foldl (addParam s searchParam) r).sort = r.sort ++ (params.filter fun p =>
        Text.trim p.1 == "sort" && !(Text.trim p.2).isEmpty).map Prod.snd := by
    induction params generalizing r with
    | nil => simp
    | cons p rest ih =>
        rw [List.foldl_cons, ih, sort_addParam, List.filter_cons]
        split <;> simp
  exact hfold _ empty

/-- Directives that stand apart, joined with commas, fall into themselves again, and make the plan
that they make one by one. What a request sorts by is what its texts fall into, one after the other,
so no text has a part in a directive of another. -/
theorem directives_sortInput_parse [Calendar.ZoneDatabase] {settings : Settings}
    (hs : Snapshot.build settings = .ok s) {texts : List String} (hne : texts ≠ [])
    (h : SortDirective.AreApart s texts) :
    (SortInput.delimited (String.intercalate "," texts)).directives s = texts ∧
    (∀ source allowed,
      SortPlan.ofInput source s (.delimited (String.intercalate "," texts)) allowed =
        SortPlan.ofInput source s (.sequence texts) allowed) ∧
    ∀ searchParam queryString, ((parse s searchParam queryString).sortInput s).directives s =
      (sortTexts queryString).flatMap fun text => (SortInput.delimited text).directives s := by
  have hforce := Snapshot.isInForce_of_build hs
  refine ⟨SortInput.directives_intercalate hforce hne h, SortInput.ofInput_intercalate hforce hne h,
    fun searchParam queryString => ?_⟩
  rw [sortInput, sort_parse, SortInput.directives_sequence]
  intro text htext
  obtain ⟨parameter, -, htext⟩ := List.mem_flatMap.mp htext
  exact SortInput.trim_of_mem_directives text htext

theorem directives_sortInput_parse_back :
    let s : Snapshot := ⟨.default, .builtin, .utc, Settings.default.indicatorChars⟩
    let texts := ["title", "-author.name", "asc,Desc", "views+", "desc"]
    Snapshot.build .default = .ok s ∧ texts ≠ [] ∧ SortDirective.AreApart s texts ∧
      (SortInput.delimited (String.intercalate "," texts)).directives s = texts := by
  intro s texts
  have hbuild : Snapshot.build .default = .ok s :=
    Snapshot.build_eq_ok_iff.mpr ⟨by decide +kernel, rfl, rfl, rfl, rfl⟩
  have hfront : SortDirective.IsMarked s "-author.name" :=
    @SortDirective.IsMarked.front s '-' "author.name" .descending rfl rfl rfl
  have hworded : SortDirective.IsWorded "asc,Desc" :=
    @SortDirective.IsWorded.mk "asc" "Desc" .descending rfl rfl rfl
  have hback : SortDirective.IsMarked s "views+" :=
    @SortDirective.IsMarked.back s '+' "views" .ascending rfl rfl rfl
  have hapart : SortDirective.AreApart s texts :=
    .bare rfl hfront (.marked hfront (.worded hworded (.marked hback (.last rfl))))
  have hne : texts ≠ [] := List.cons_ne_nil _ _
  exact ⟨hbuild, hne, hapart, (directives_sortInput_parse hbuild hne hapart).1⟩

end Request

end RequestQuery
