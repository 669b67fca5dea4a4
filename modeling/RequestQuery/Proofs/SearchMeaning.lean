import RequestQuery.Proofs.FieldCondition
import RequestQuery.Proofs.FilterMeaning
import RequestQuery.Proofs.PatternLanguage

namespace RequestQuery

universe u

variable {Row : Type u}

/-- The texts in the columns of rows, null being none, by which an interpretation decides conditions
on patterns, and the texts that a pattern matches where case counts and where it does not. A store
may disregard case by an operator of its own or by lowering both sides. -/
structure Interpretation.Texts (I : Interpretation Row) where
  text? : String → Row → Option String
  likes : (caseSensitive : Bool) → (pattern text : String) → Prop
  like_iff : ∀ column pattern lowered row,
    I.holds (.pattern column .like pattern lowered) row ↔
      ∃ t ∈ text? column row, likes (!lowered) pattern t
  ilike_iff : ∀ column pattern row,
    I.holds (.pattern column .ilike pattern false) row ↔
      ∃ t ∈ text? column row, likes false pattern t

/-- The interpretation that is given by texts, where conditions of other kinds hold of no row. -/
def Interpretation.ofTexts (text? : String → Row → Option String)
    (likes : Bool → String → String → Prop) (reaches : String → Row → Row → Prop) :
    Interpretation Row where
  holds p row :=
    match p with
    | .pattern column op pattern lowered =>
      ∃ t ∈ text? column row, likes (op == .like && !lowered) pattern t
    | _ => False
  reaches := reaches

def Interpretation.Texts.ofTexts (text? : String → Row → Option String)
    (likes : Bool → String → String → Prop) (reaches : String → Row → Row → Prop) :
    (Interpretation.ofTexts text? likes reaches).Texts where
  text? := text?
  likes := likes
  like_iff _ _ _ _ := Iff.rfl
  ilike_iff _ _ _ := Iff.rfl

theorem Connective.joins_or_map {α : Type} (as : List α) (truth : α → Prop) :
    Connective.or.Joins (as.map truth) ↔ ∃ a ∈ as, truth a := by
  constructor
  · rintro ⟨t, ht, htrue⟩
    obtain ⟨a, ha, rfl⟩ := List.mem_map.mp ht
    exact ⟨a, ha, htrue⟩
  · rintro ⟨a, ha, htrue⟩
    exact ⟨truth a, List.mem_map_of_mem ha, htrue⟩

namespace Search

variable {source : Source} {I : Interpretation Row}

/-- The pattern of a term matches the text in the column of a field, in some row to which related
rows lead from the given one, relation by relation. Without relations this is the row itself. -/
def Finds (source : Source) (T : I.Texts) (caseSensitive : Bool) (term field : String) (row : Row) :
    Prop :=
  ∃ relations column m last,
    Text.split '.' field = relations ++ [column] ∧
    source.catalog.followAll source.model relations = .ok m ∧
    I.ReachesAll relations row last ∧
    ∃ t ∈ T.text? column last, T.likes caseSensitive (Pattern.ofText .contains term) t

theorem holds_matcher_iff (T : I.Texts) (caseSensitive native : Bool) (column pattern : String)
    (row : Row) :
    let found := matcher caseSensitive native
    I.holds (.pattern column found.1 pattern found.2) row ↔
      ∃ t ∈ T.text? column row, T.likes caseSensitive pattern t := by
  cases caseSensitive with
  | true => exact T.like_iff column pattern false row
  | false =>
      cases native with
      | true => exact T.ilike_iff column pattern row
      | false => exact T.like_iff column pattern true row

theorem holds_fieldPredicate_iff (T : I.Texts) (caseSensitive native : Bool) (term : String)
    {field : String} {path : FieldPath}
    (h : FieldPath.resolve source.catalog source.model field = .ok path) (row : Row) :
    let found := matcher caseSensitive native
    (fieldPredicate found.1 found.2 term path).Holds I row ↔
      Finds source T caseSensitive term field row := by
  obtain ⟨hsplit, hfollow⟩ := FieldPath.resolve_eq_ok_iff.mp h
  intro found
  rw [fieldPredicate, FieldPath.wrap, Predicate.holds_foldr_related]
  simp only [Predicate.Holds, found, holds_matcher_iff T]
  constructor
  · rintro ⟨last, hreach, hlast⟩
    exact ⟨path.relations, path.column, path.model, last, hsplit, hfollow, hreach, hlast⟩
  · rintro ⟨relations, column, m, last, hsplit', -, hreach, hlast⟩
    obtain ⟨hrelations, hcolumn⟩ := List.append_inj' (hsplit.symm.trans hsplit') rfl
    rw [hrelations]
    cases hcolumn
    exact ⟨last, hreach, hlast⟩

theorem exists_termPredicate {fields : List String} {paths : List FieldPath}
    (hpaths : List.Forall₂ (fun field path => Text.isFieldPath field = true ∧
      FieldPath.resolve source.catalog source.model field = .ok path) fields paths)
    (hfields : fields ≠ []) (caseSensitive native : Bool) (term : String) :
    let found := matcher caseSensitive native
    ∃ p, termPredicate found.1 found.2 paths term = some p ∧
      ∀ {Row : Type u} {I : Interpretation Row} (T : I.Texts) (row : Row),
        p.Holds I row ↔ ∃ field ∈ fields, Finds source T caseSensitive term field row := by
  intro found
  have hne : paths.map (fieldPredicate found.1 found.2 term) ≠ [] := by
    rw [Ne, List.map_eq_nil_iff]
    rintro rfl
    cases hpaths
    exact hfields rfl
  obtain ⟨p, hp⟩ := Predicate.exists_join_eq_some .or hne
  refine ⟨p, hp, fun {Row I} T row => ?_⟩
  have htruths : fields.map (fun field => Finds source T caseSensitive term field row) =
      (paths.map (fieldPredicate found.1 found.2 term)).map fun q => q.Holds I row := by
    rw [← List.forall₂_eq_eq_eq, List.map_map, List.forall₂_map_left_iff,
      List.forall₂_map_right_iff]
    exact hpaths.imp fun _ _ h => propext (holds_fieldPredicate_iff T _ native term h.2 row).symm
  rw [(Represents.join (I := I) .or _).holds_iff p hp row, ← htruths, Connective.joins_or_map]

/-- A search in fields that can be searched comes to nothing without terms or without fields, and
else to a condition that holds where the mode joins the terms: all of them are found, or one is. -/
theorem exists_predicate_holds_iff {fields : List String}
    (hfields : ∀ field ∈ fields, Text.isFieldPath field = true ∧
      ∃ path, FieldPath.resolve source.catalog source.model field = .ok path)
    (terms : List String) (mode : Connective) (caseSensitive : Bool) :
    ∃ r, predicate source terms fields mode caseSensitive = .ok r ∧
      (r = none ↔ terms = [] ∨ fields = []) ∧
      ∀ p, r = some p → ∀ {Row : Type u} {I : Interpretation Row} (T : I.Texts) (row : Row),
        p.Holds I row ↔ mode.Joins (terms.map fun term =>
          ∃ field ∈ fields, Finds source T caseSensitive term field row) := by
  rw [predicate]
  split
  · rename_i hempty
    exact ⟨none, rfl, by simpa using hempty, nofun⟩
  · rename_i hnonempty
    simp only [Bool.or_eq_true, List.isEmpty_iff, not_or] at hnonempty
    obtain ⟨paths, hpaths⟩ := exists_resolveFields hfields
    choose part hpart hholds using
      exists_termPredicate.{u} (forall₂_of_resolveFields hpaths) hnonempty.2 caseSensitive
        source.dialect.hasNativeIlike
    refine ⟨Predicate.join mode (terms.map part), ?_, ?_, ?_⟩
    · rw [hpaths, ← List.filterMap_eq_map]
      exact congrArg (fun f => Except.ok (Predicate.join mode (terms.filterMap f))) (funext hpart)
    · rw [(Represents.join (I := (default : Interpretation Unit)) mode _).eq_none_iff]
      simp [hnonempty]
    · intro p hp Row I T row
      rw [(Represents.join (I := I) mode _).holds_iff p hp row, List.map_map]
      simp only [Function.comp_def, hholds _ T]

theorem exists_predicate_holds_iff_posts :
    let fields := ["title", "replies.author.name"]
    let found : Predicate := .group .and
      [.group .or [.pattern "title" .like "%100\\%%" true,
        .related "replies" (.related "author" (.pattern "name" .like "%100\\%%" true))],
       .group .or [.pattern "title" .like "%ada%" true,
        .related "replies" (.related "author" (.pattern "name" .like "%ada%" true))]]
    let text? : String → Nat → Option String := fun column row =>
      if column == "title" && row % 2 == 0 then some "100% Lean"
      else if column == "name" && row % 2 == 1 then some "Ada" else none
    let likes : Bool → String → String → Prop := fun caseSensitive pattern text =>
      if caseSensitive then Pattern.Matches pattern text
      else Pattern.Matches (Text.lowercase pattern) (Text.lowercase text)
    let reaches : String → Nat → Nat → Prop := fun relation row next =>
      relation = "replies" ∧ next = row + 2 ∨ relation = "author" ∧ next = row + 1
    (∀ field ∈ fields, Text.isFieldPath field = true ∧
      ∃ path, FieldPath.resolve Source.posts.catalog Source.posts.model field = .ok path) ∧
    predicate .posts ["100%", "ada"] fields .and false = .ok (some found) ∧
    ∀ row, found.Holds (.ofTexts text? likes reaches) row ↔
      Connective.and.Joins (["100%", "ada"].map fun term => ∃ field ∈ fields,
        Finds .posts (.ofTexts text? likes reaches) false term field row) := by
  intro fields found text? likes reaches
  have hfields : ∀ field ∈ fields, Text.isFieldPath field = true ∧
      ∃ path, FieldPath.resolve Source.posts.catalog Source.posts.model field = .ok path := by
    simp only [fields, List.forall_mem_cons]
    exact ⟨⟨by decide, _, rfl⟩, ⟨by decide, _, rfl⟩, nofun⟩
  have hfound : predicate .posts ["100%", "ada"] fields .and false = .ok (some found) := rfl
  obtain ⟨r, hr, -, hholds⟩ := exists_predicate_holds_iff hfields ["100%", "ada"] .and false
  rw [hfound] at hr
  cases hr
  exact ⟨hfields, hfound, hholds found rfl (.ofTexts text? likes reaches)⟩

end Search

end RequestQuery
