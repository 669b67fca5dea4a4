import RequestQuery.FieldPath

namespace RequestQuery

namespace Text

theorem splitWhere_eq_splitOnP (p : Char → Bool) (s : List Char) :
    splitWhere p s = s.splitOnP p := by
  induction s with
  | nil => rfl
  | cons c rest ih =>
      rw [splitWhere, List.splitOnP_cons_eq_if_modifyHead, ih]
      split
      · rfl
      · split
        · rename_i h
          rw [h]
          rfl
        · rename_i h
          exact absurd h (List.splitOnP_ne_nil _ _)

theorem exists_mem_splitWhere {p : Char → Bool} {s : List Char} {c : Char} (hc : c ∈ s)
    (h : p c = false) : ∃ part ∈ splitWhere p s, c ∈ part := by
  rw [splitWhere_eq_splitOnP]
  induction s with
  | nil => cases hc
  | cons d rest ih =>
      rw [List.splitOnP_cons_eq_if_modifyHead]
      cases hsplit : rest.splitOnP p with
      | nil => exact absurd hsplit (List.splitOnP_ne_nil _ _)
      | cons first others =>
          rw [hsplit] at ih
          rcases List.mem_cons.mp hc with rfl | hc
          · exact ⟨c :: first, by simp [h], List.mem_cons_self⟩
          · obtain ⟨part, hpart, hc⟩ := ih hc
            split
            · exact ⟨part, List.mem_cons_of_mem _ hpart, hc⟩
            · rcases List.mem_cons.mp hpart with rfl | hpart
              · exact ⟨d :: part, by simp, List.mem_cons_of_mem _ hc⟩
              · exact ⟨part, by simp [hpart], hc⟩

theorem split_eq_map_splitOn (sep : Char) (s : String) :
    split sep s = (s.toList.splitOn sep).map String.ofList := by
  rw [split, splitAtChar, splitWhere_eq_splitOnP, List.splitOn_eq_splitOnP]

theorem split_ne_nil (sep : Char) (s : String) : split sep s ≠ [] := by
  simp [split_eq_map_splitOn]

theorem split_of_notMem {sep : Char} {s : String} (h : sep ∉ s.toList) : split sep s = [s] := by
  simp [split_eq_map_splitOn, List.splitOn_eq_singleton h]

theorem notMem_of_split_eq_singleton {sep : Char} {s part : String} (h : split sep s = [part]) :
    sep ∉ s.toList := by
  intro hmem
  obtain ⟨before, after, hs⟩ := List.append_of_mem hmem
  have hlength := congrArg List.length h
  have hbefore := List.length_pos_iff.mpr (List.splitOn_ne_nil sep before)
  have hafter := List.length_pos_iff.mpr (List.splitOn_ne_nil sep after)
  simp only [split_eq_map_splitOn, hs, List.splitOn_append_cons_self, List.length_map,
    List.length_append, List.length_singleton] at hlength
  omega

theorem split_intercalate {sep : Char} {parts : List String} (hne : parts ≠ [])
    (h : ∀ part ∈ parts, sep ∉ part.toList) :
    split sep (String.intercalate (String.ofList [sep]) parts) = parts := by
  have hsplit : (List.intercalate [sep] (parts.map String.toList)).splitOn sep =
      parts.map String.toList := by
    refine List.splitOn_intercalate sep ?_ (by simpa using hne)
    simpa using h
  rw [split_eq_map_splitOn, String.toList_intercalate, String.toList_ofList, hsplit, List.map_map]
  simp [Function.comp_def]

theorem isNamePart_of_isNameStart {c : Char} (h : isNameStart c = true) : isNamePart c = true := by
  simp only [isNameStart, isNamePart, Char.isAlphanum, Bool.or_eq_true] at h ⊢
  exact h.imp_left .inl

theorem isNamePart_of_mem {s : List Char} (h : isNameList s = true) :
    ∀ c ∈ s, isNamePart c = true := by
  cases s with
  | nil => simp
  | cons c rest =>
      simp only [isNameList, Bool.and_eq_true, List.all_eq_true] at h
      intro d hd
      rcases List.mem_cons.mp hd with rfl | hd
      · exact isNamePart_of_isNameStart h.1
      · exact h.2 d hd

theorem isFieldPath_iff {path : String} :
    isFieldPath path = true ↔ ∀ segment ∈ split '.' path, isIdentifier segment = true := by
  simp [isFieldPath, split, isIdentifier]

theorem isNameList_of_mem_splitAtChar {path : String} (h : isFieldPath path = true) :
    ∀ segment ∈ splitAtChar '.' path.toList, isNameList segment = true :=
  List.all_eq_true.mp h

theorem isNamePart_or_eq_dot {path : String} (h : isFieldPath path = true) :
    ∀ c ∈ path.toList, isNamePart c = true ∨ c = '.' := by
  intro c hc
  by_cases hdot : c = '.'
  · exact .inr hdot
  · obtain ⟨segment, hsegment, hc⟩ :=
      exists_mem_splitWhere (p := (· == '.')) hc (by simpa using hdot)
    exact .inl (isNamePart_of_mem (isNameList_of_mem_splitAtChar h segment hsegment) c hc)

theorem exists_head_of_isFieldPath {path : String} (h : isFieldPath path = true) :
    ∃ c rest, path.toList = c :: rest ∧ isNamePart c = true := by
  have hsegments := isNameList_of_mem_splitAtChar h
  have hchars := isNamePart_or_eq_dot h
  cases hpath : path.toList with
  | nil =>
      rw [hpath] at hsegments
      exact absurd (hsegments [] (by simp [splitAtChar, splitWhere])) (by decide)
  | cons c rest =>
      rw [hpath] at hsegments hchars
      refine ⟨c, rest, rfl, (hchars c List.mem_cons_self).resolve_right ?_⟩
      rintro rfl
      exact absurd (hsegments [] (by simp [splitAtChar, splitWhere])) (by decide)

theorem exists_last_of_isFieldPath {path : String} (h : isFieldPath path = true) :
    ∃ rest c, path.toList = rest ++ [c] ∧ isNamePart c = true := by
  have hsegments := isNameList_of_mem_splitAtChar h
  have hchars := isNamePart_or_eq_dot h
  rcases List.eq_nil_or_concat path.toList with hpath | ⟨rest, c, hpath⟩
  · rw [hpath] at hsegments
    exact absurd (hsegments [] (by simp [splitAtChar, splitWhere])) (by decide)
  · rw [List.concat_eq_append] at hpath
    rw [hpath] at hsegments hchars
    refine ⟨rest, c, hpath, (hchars c (by simp)).resolve_right ?_⟩
    rintro rfl
    -- Behind a dot at the end there is one more segment, an empty one.
    rw [splitAtChar, splitWhere_eq_splitOnP, ← List.splitOn_eq_splitOnP,
      List.splitOn_append_cons_self] at hsegments
    exact absurd (hsegments [] (by simp)) (by decide)

theorem isFieldPath_intercalate {segments : List String} (hne : segments ≠ [])
    (h : ∀ segment ∈ segments, isIdentifier segment = true) :
    isFieldPath (String.intercalate "." segments) = true := by
  have hsplit : split '.' (String.intercalate "." segments) = segments :=
    split_intercalate hne fun segment hsegment => dot_notMem_of_isNameList (h segment hsegment)
  rw [isFieldPath_iff, hsplit]
  exact h

end Text

namespace FieldPath

variable {c : Catalog} {root : Model} {path : String} {p : FieldPath}

theorem resolve_eq_ok_iff :
    resolve c root path = .ok p ↔
      Text.split '.' path = p.relations ++ [p.column] ∧
        c.followAll root p.relations = .ok p.model := by
  obtain ⟨relations, m, column⟩ := p
  have hne := Text.split_ne_nil '.' path
  have hsegments : Text.split '.' path = relations ++ [column] ↔
      (Text.split '.' path).dropLast = relations ∧ (Text.split '.' path).getLastD "" = column := by
    rw [List.getLastD_eq_getLast?, List.getLast?_eq_some_getLast hne, Option.getD_some]
    constructor
    · intro h
      simp [h]
    · rintro ⟨rfl, rfl⟩
      exact (List.dropLast_concat_getLast hne).symm
  rw [hsegments]
  simp only [resolve]
  constructor
  · intro h
    split at h
    · cases h
    · rename_i hfollow
      cases h
      exact ⟨⟨rfl, rfl⟩, hfollow⟩
  · rintro ⟨⟨rfl, rfl⟩, hfollow⟩
    simp only [hfollow]

theorem resolve_of_notMem (h : '.' ∉ path.toList) :
    resolve c root path = .ok ⟨[], root, path⟩ :=
  resolve_eq_ok_iff.mpr ⟨Text.split_of_notMem h, rfl⟩

theorem relations_eq_nil_iff (h : resolve c root path = .ok p) :
    p.relations = [] ↔ '.' ∉ path.toList := by
  constructor
  · intro hnil
    have hsplit := (resolve_eq_ok_iff.mp h).1
    rw [hnil] at hsplit
    exact Text.notMem_of_split_eq_singleton hsplit
  · intro hdot
    rw [resolve_of_notMem hdot] at h
    cases h
    rfl

end FieldPath

end RequestQuery
