import RequestQuery.Proofs.CharacterTables
import RequestQuery.Proofs.KeyedEntries
import RequestQuery.Proofs.PathSegments
import RequestQuery.Proofs.SettingsStore
import RequestQuery.Proofs.SpacedText
import RequestQuery.Sort.Input

namespace RequestQuery

namespace Text

theorem isAlphanumeric_iff (c : Char) :
    isAlphanumeric c = true ↔ (maskOfRanges Alphanumeric.ranges).testBit c.toNat = true := by
  rw [testBit_maskOfRanges]
  simp [isAlphanumeric]

theorem code_of_isAlphanum {c : Char} (h : c.isAlphanum = true) :
    (65 ≤ c.toNat ∧ c.toNat ≤ 90 ∨ 97 ≤ c.toNat ∧ c.toNat ≤ 122) ∨
      48 ≤ c.toNat ∧ c.toNat ≤ 57 := by
  rcases Bool.or_eq_true_iff.mp h with hletter | hdigit
  · left
    rcases Bool.or_eq_true_iff.mp hletter with hupper | hlower
    · exact .inl (of_decide_eq_true hupper)
    · obtain ⟨hlow, hhigh⟩ := Bool.and_eq_true_iff.mp hlower
      exact .inr ⟨of_decide_eq_true hlow, of_decide_eq_true hhigh⟩
  · exact .inr (Char.isDigit_iff_toNat.mp hdigit)

theorem isAlphanumeric_of_isAlphanum {c : Char} (h : c.isAlphanum = true) :
    isAlphanumeric c = true := by
  have hcodes : ((List.range' 48 10 ++ List.range' 65 26 ++ List.range' 97 26).all fun n =>
      (maskOfRanges Alphanumeric.ranges).testBit n) = true := by
    decide +kernel
  rw [isAlphanumeric_iff]
  apply List.all_eq_true.mp hcodes
  have hcode := code_of_isAlphanum h
  simp only [List.mem_append, List.mem_range'_1]
  omega

theorem isBlank_eq_false_of_isNamePart {c : Char} (h : isNamePart c = true) :
    isBlank c = false := by
  simp only [isNamePart, Bool.or_eq_true, beq_iff_eq] at h
  rcases h with h | rfl
  · have hcode := code_of_isAlphanum h
    simp only [isBlank, Bool.or_eq_false_iff, Bool.and_eq_false_iff, decide_eq_false_iff_not,
      beq_eq_false_iff_ne]
    omega
  · decide

theorem strip_of_isFieldPath {path : String} (h : isFieldPath path = true) :
    strip path.toList = path.toList := by
  obtain ⟨first, tail, hfirst, hname⟩ := exists_head_of_isFieldPath h
  obtain ⟨init, last, hlast, hname'⟩ := exists_last_of_isFieldPath h
  refine dropEnds_eq_self_iff.mpr ⟨?_, ?_⟩
  · rw [hfirst]
    simpa using isBlank_eq_false_of_isNamePart hname
  · rw [hlast]
    simpa using isBlank_eq_false_of_isNamePart hname'

theorem comma_notMem_of_isFieldPath {path : String} (h : isFieldPath path = true) :
    ',' ∉ path.toList := by
  intro hmem
  rcases isNamePart_or_eq_dot h ',' hmem with hpart | hdot
  · exact absurd hpart (by decide)
  · exact absurd hdot (by decide)

theorem isAlphanumeric_of_mem_capitals {c : Char} (h : c.toNat ∈ Case.capitals) :
    isAlphanumeric c = true := by
  have hcodes : (Case.capitals.all fun n =>
      (maskOfRanges Alphanumeric.ranges).testBit n) = true := by
    decide +kernel
  rw [isAlphanumeric_iff]
  exact List.all_eq_true.mp hcodes _ h

theorem mem_lowerAfter {c : Char} (hc : isAlphanumeric c = false) {s : List Char} (h : c ∈ s)
    (before : List Char) : c ∈ Case.lowerAfter before s := by
  induction s generalizing before with
  | nil => cases h
  | cons d rest ih =>
      rw [Case.lowerAfter, List.mem_append]
      rcases List.mem_cons.mp h with rfl | h
      · have hcapital : c.toNat ∉ Case.capitals := by
          intro hmem
          rw [isAlphanumeric_of_mem_capitals hmem] at hc
          cases hc
        have hsigma : c ≠ 'Σ' := by
          rintro rfl
          exact hcapital (by decide +kernel)
        left
        rw [if_neg (by simpa using hsigma), Case.lowerChar_eq_self hcapital]
        exact List.mem_singleton_self c
      · exact .inr (ih h (d :: before))

end Text

theorem Direction.isAlphanumeric_of_ofName? {word : String} {d : Direction}
    (h : ofName? word = some d) : word.toList.all Text.isAlphanumeric = true := by
  unfold ofName? at h
  split at h
  · rename_i hword
    simp only [Bool.or_eq_true, beq_iff_eq] at hword
    rcases hword with rfl | rfl
    · decide +kernel
    · decide +kernel
  · split at h
    · rename_i hword
      simp only [Bool.or_eq_true, beq_iff_eq] at hword
      rcases hword with rfl | rfl
      · decide +kernel
      · decide +kernel
    · cases h

theorem Direction.isAlphanumeric_of_parse? {word : String} {d : Direction}
    (h : parse? word = some d) : ∀ c ∈ Text.strip word.toList, Text.isAlphanumeric c = true := by
  intro c hc
  by_contra hnot
  rw [Bool.not_eq_true] at hnot
  have hmem : c ∈ (Text.lowercase (Text.trim word)).toList := by
    rw [Text.lowercase, String.toList_ofList, Text.toList_trim]
    exact Text.mem_lowerAfter hnot hc []
  have hletter := List.all_eq_true.mp (isAlphanumeric_of_ofName? h) c hmem
  rw [hnot] at hletter
  cases hletter

theorem Direction.strip_ne_nil_of_parse? {word : String} {d : Direction}
    (h : parse? word = some d) : Text.strip word.toList ≠ [] := by
  intro hnil
  rw [parse?, Text.trim, hnil] at h
  cases h

theorem Direction.exists_getLast_of_parse? {word : String} {d : Direction}
    (h : parse? word = some d) {front : List Char}
    (hlast : ∀ c ∈ (front ++ word.toList).getLast?, Text.isBlank c = false) :
    ∃ c, (front ++ word.toList).getLast? = some c ∧ Text.isAlphanumeric c = true := by
  obtain ⟨gap, -, hcut⟩ := Text.exists_append_strip hlast
  have hne := strip_ne_nil_of_parse? h
  have hword : front ++ word.toList = front ++ gap ++ Text.strip word.toList := by
    rw [List.append_assoc, ← hcut]
  refine ⟨_, ?_, isAlphanumeric_of_parse? h _ (List.getLast_mem hne)⟩
  rw [hword, List.getLast?_append_of_ne_nil _ hne, List.getLast?_eq_getLast_of_ne_nil hne]

theorem Snapshot.IsInForce.isAlphanumeric_of_indicator? [Calendar.ZoneDatabase] {s : Snapshot}
    (h : s.IsInForce) {c : Char} {d : Direction} (hc : s.indicator? c = some d) :
    Text.isAlphanumeric c = false ∧ c ∉ ['_', '.', ','] := by
  obtain ⟨-, -, -, hkeys⟩ := Settings.exists_of_problems_eq_nil h.valid
  rw [h.indicator] at hc
  obtain ⟨mark, hmark, hchar⟩ := Settings.isIndicator_iff.mp (hkeys _ (mem_of_lookup hc))
  have hsame : [c] = [mark] := by
    rw [← String.toList_singleton c, ← String.toList_singleton mark]
    exact congrArg String.toList hmark
  rwa [List.singleton_inj.mp hsame]

theorem Snapshot.IsInForce.indicator?_eq_none [Calendar.ZoneDatabase] {s : Snapshot}
    (h : s.IsInForce) {c : Char}
    (hc : Text.isNamePart c = true ∨ Text.isAlphanumeric c = true) : s.indicator? c = none := by
  rw [Option.eq_none_iff_forall_ne_some]
  intro d hd
  obtain ⟨hnot, hspecial⟩ := h.isAlphanumeric_of_indicator? hd
  rcases hc with hc | hc
  · simp only [Text.isNamePart, Bool.or_eq_true, beq_iff_eq] at hc
    rcases hc with hc | rfl
    · rw [Text.isAlphanumeric_of_isAlphanum hc] at hnot
      cases hnot
    · exact hspecial (by decide)
  · rw [hc] at hnot
    cases hnot

theorem Snapshot.IsInForce.not_marked_of_isFieldPath [Calendar.ZoneDatabase] {s : Snapshot}
    (h : s.IsInForce) {path : String} (hpath : Text.isFieldPath path = true) :
    (∀ c ∈ path.toList.head?, s.indicator? c = none) ∧
      ∀ c ∈ path.toList.getLast?, s.indicator? c = none := by
  obtain ⟨first, tail, hfirst, hname⟩ := Text.exists_head_of_isFieldPath hpath
  obtain ⟨init, last, hlast, hname'⟩ := Text.exists_last_of_isFieldPath hpath
  constructor
  · rw [hfirst]
    simpa using h.indicator?_eq_none (.inl hname)
  · rw [hlast]
    simpa using h.indicator?_eq_none (.inl hname')

namespace SortDirective

open Text (IsGap isBlank strip)

/-- A text spells a directive: a mark before or behind the field or a word behind a comma stands for
the direction, or nothing does where it is the one that is meant by default. -/
inductive Spells (s : Snapshot) (d : SortDirective) : List Char → Prop
  | front {mark gap} : s.indicator? mark = some d.direction → isBlank mark = false → IsGap gap →
      Spells s d (mark :: (gap ++ d.field.toList))
  | back {mark gap} : s.indicator? mark = some d.direction → isBlank mark = false → IsGap gap →
      Spells s d (d.field.toList ++ gap ++ [mark])
  | word {word : String} {gap} : Direction.parse? word = some d.direction → IsGap gap →
      Spells s d (d.field.toList ++ gap ++ ',' :: word.toList)
  | bare : s.settings.sort.defaultDirection = d.direction → Spells s d d.field.toList

variable {s : Snapshot} {d : SortDirective}

theorem parse_eq_ok_iff_split {raw : String} (hd : d.field.toList ≠ []) :
    parse s raw = .ok d ↔ ∃ field, split s (strip raw.toList) = .ok (field, d.direction) ∧
      strip field = d.field.toList := by
  obtain ⟨name, direction⟩ := d
  dsimp only at hd
  have hname (field : List Char) :
      String.ofList (strip field) = name ↔ strip field = name.toList := by
    rw [← String.toList_inj, String.toList_ofList]
  unfold parse
  by_cases hempty : strip raw.toList = []
  · have hsplit (field : List Char) : split s [] = .ok (field, direction) → strip field = [] := by
      rintro ⟨⟩
      rfl
    rw [hempty]
    constructor
    · rintro ⟨⟩
    · rintro ⟨field, hfield, hstrip⟩
      exact absurd (hstrip.symm.trans (hsplit field hfield)) hd
  · rw [if_neg (by simpa using hempty)]
    constructor
    · intro h
      split at h
      · cases h
      · rename_i field direction' hfield
        dsimp only at h
        split at h
        · cases h
        · cases h
          exact ⟨field, hfield, String.toList_ofList.symm⟩
    · rintro ⟨field, hfield, hstrip⟩
      rw [hfield]
      dsimp only
      rw [hstrip, if_neg (by simpa using hd), String.ofList_toList]

theorem spells_of_split {text field : List Char} (hhead : ∀ c ∈ text.head?, isBlank c = false)
    (hlast : ∀ c ∈ text.getLast?, isBlank c = false)
    (h : split s text = .ok (field, d.direction)) (hfield : strip field = d.field.toList) :
    d.Spells s text := by
  unfold split at h
  split at h
  · rename_i direction hmark
    obtain ⟨mark, hmark, hdirection⟩ := Option.bind_eq_some_iff.mp hmark
    obtain ⟨rest, rfl⟩ := List.head?_eq_some_iff.mp hmark
    obtain ⟨rfl, rfl⟩ : rest = field ∧ direction = d.direction := by simpa using h
    obtain ⟨gap, hgap, hcut⟩ := Text.exists_append_strip (t := [mark]) hlast
    rw [hcut, hfield]
    exact .front hdirection (hhead mark rfl) hgap
  · split at h
    · rename_i direction hmark
      obtain ⟨mark, hmark, hdirection⟩ := Option.bind_eq_some_iff.mp hmark
      obtain ⟨rest, rfl⟩ := List.getLast?_eq_some_iff.mp hmark
      obtain ⟨rfl, rfl⟩ : rest = field ∧ direction = d.direction := by simpa using h
      obtain ⟨gap, hgap, hcut⟩ := Text.exists_strip_append hhead
      rw [hcut, hfield]
      exact .back hdirection (hlast mark (by simp)) hgap
    · split at h
      · obtain ⟨rfl, hdirection⟩ :
            text = field ∧ s.settings.sort.defaultDirection = d.direction := by
          simpa using h
        have htext : strip text = text := Text.dropEnds_eq_self_iff.mpr ⟨hhead, hlast⟩
        rw [← htext, hfield]
        exact .bare hdirection
      · rename_i first word hcomma
        obtain ⟨rfl, -⟩ := Text.eq_append_of_splitOnce hcomma
        split at h
        · rename_i direction hword
          obtain ⟨rfl, rfl⟩ : first = field ∧ direction = d.direction := by simpa using h
          obtain ⟨gap, hgap, hcut⟩ := Text.exists_strip_append hhead
          rw [hcut, hfield, ← String.toList_ofList (l := word)]
          exact .word hword hgap
        · cases h

theorem split_of_spells [Calendar.ZoneDatabase] (h : s.IsInForce)
    (hd : Text.isFieldPath d.field = true) {text : List Char}
    (hlast : ∀ c ∈ text.getLast?, isBlank c = false) (hspells : d.Spells s text) :
    ∃ field, split s text = .ok (field, d.direction) ∧ strip field = d.field.toList := by
  have hstrip := Text.strip_of_isFieldPath hd
  have hcomma {gap : List Char} (hgap : IsGap gap) : ',' ∉ d.field.toList ++ gap := by
    rw [List.mem_append, not_or]
    refine ⟨Text.comma_notMem_of_isFieldPath hd, fun hmem => ?_⟩
    exact absurd (hgap ',' hmem) (by decide)
  have hnone (rest : List Char) : (d.field.toList ++ rest).head?.bind s.indicator? = none := by
    obtain ⟨first, tail, hfirst, hname⟩ := Text.exists_head_of_isFieldPath hd
    rw [hfirst]
    exact h.indicator?_eq_none (.inl hname)
  cases hspells with
  | @front mark gap hmark _ hgap =>
      refine ⟨gap ++ d.field.toList, ?_, ?_⟩
      · simp [split, hmark]
      · rw [Text.strip_gap_append hgap, hstrip]
  | @back mark gap hmark _ hgap =>
      refine ⟨d.field.toList ++ gap, ?_, ?_⟩
      · rw [split, List.append_assoc, hnone, ← List.append_assoc]
        simp [hmark]
      · rw [Text.strip_append_gap hgap, hstrip]
  | @word word gap hword hgap =>
      refine ⟨d.field.toList ++ gap, ?_, ?_⟩
      · have htext : d.field.toList ++ gap ++ ',' :: word.toList =
            d.field.toList ++ gap ++ [','] ++ word.toList := by simp
        rw [htext] at hlast
        obtain ⟨letter, hletter, hword'⟩ := Direction.exists_getLast_of_parse? hword hlast
        have hbehind : (d.field.toList ++ gap ++ ',' :: word.toList).getLast?.bind s.indicator? =
            none := by
          rw [htext, hletter]
          exact h.indicator?_eq_none (.inr hword')
        rw [split, hbehind, List.append_assoc, hnone, ← List.append_assoc,
          Text.splitOnce_append (hcomma hgap)]
        simp [hword]
      · rw [Text.strip_append_gap hgap, hstrip]
  | bare hdirection =>
      refine ⟨d.field.toList, ?_, hstrip⟩
      have hahead := hnone []
      have hbehind : d.field.toList.getLast?.bind s.indicator? = none :=
        Option.bind_eq_none_iff.mpr (h.not_marked_of_isFieldPath hd).2
      have hsingle : Text.splitOnce ',' d.field.toList = none :=
        Text.splitOnce_eq_none_iff.mpr (Text.comma_notMem_of_isFieldPath hd)
      rw [List.append_nil] at hahead
      rw [split, hahead, hbehind, hsingle, hdirection]

/-- With settings that have been put into force, a text is read as a field path and a direction
exactly if it spells them, white space around it aside. -/
theorem parse_eq_ok_iff_spells [Calendar.ZoneDatabase] {settings : Settings}
    (h : Snapshot.build settings = .ok s) (hd : Text.isFieldPath d.field = true) (raw : String) :
    parse s raw = .ok d ↔ d.Spells s (strip raw.toList) := by
  have hne : d.field.toList ≠ [] := by
    obtain ⟨c, rest, hfield, -⟩ := Text.exists_head_of_isFieldPath hd
    simp [hfield]
  rw [parse_eq_ok_iff_split hne]
  constructor
  · rintro ⟨field, hsplit, hfield⟩
    exact spells_of_split Text.head_dropEnds Text.getLast_dropEnds hsplit hfield
  · exact split_of_spells (Snapshot.isInForce_of_build h) hd Text.getLast_dropEnds

theorem parse_eq_ok_iff_spells_back :
    let settings : Settings := { Settings.default with
      sort.indicators := [(" ", .ascending), ("!", .descending)] }
    let s : Snapshot := ⟨settings, .builtin, .utc, settings.indicatorChars⟩
    let d : SortDirective := ⟨"author.name", .descending⟩
    Snapshot.build settings = .ok s ∧ Text.isFieldPath d.field = true ∧
      parse s " author.name ! " = .ok d ∧ d.Spells s (strip " author.name ! ".toList) := by
  intro settings s d
  have hbuild : Snapshot.build settings = .ok s :=
    Snapshot.build_eq_ok_iff.mpr ⟨by decide +kernel, rfl, rfl, rfl, rfl⟩
  have hfield : Text.isFieldPath d.field = true := by decide
  have hparse : parse s " author.name ! " = .ok d := by decide +kernel
  exact ⟨hbuild, hfield, hparse, (parse_eq_ok_iff_spells hbuild hfield _).mp hparse⟩

theorem parse_eq_ok_of_spells [Calendar.ZoneDatabase] (h : s.IsInForce)
    (hd : Text.isFieldPath d.field = true) {raw : String}
    (hspells : d.Spells s (strip raw.toList)) : parse s raw = .ok d := by
  obtain ⟨c, rest, hfield, -⟩ := Text.exists_head_of_isFieldPath hd
  rw [parse_eq_ok_iff_split (by simp [hfield])]
  exact split_of_spells h hd Text.getLast_dropEnds hspells

theorem parse_marked_of_not_isBlank [Calendar.ZoneDatabase] (h : s.IsInForce)
    (hd : Text.isFieldPath d.field = true) {mark : Char}
    (hmark : s.indicator? mark = some d.direction) (hblank : isBlank mark = false) :
    parse s (String.singleton mark ++ d.field) = .ok d ∧
      parse s (d.field ++ String.singleton mark) = .ok d := by
  obtain ⟨hhead, hlast⟩ := Text.dropEnds_eq_self_iff.mp (Text.strip_of_isFieldPath hd)
  obtain ⟨c, rest, hfield, -⟩ := Text.exists_head_of_isFieldPath hd
  have hgap : IsGap [] := by simp [IsGap]
  constructor
  · have hstrip : strip (String.singleton mark ++ d.field).toList =
        mark :: ([] ++ d.field.toList) := by
      rw [String.toList_append, String.toList_singleton]
      refine Text.dropEnds_eq_self_iff.mpr ⟨by simpa using hblank, ?_⟩
      rwa [List.singleton_append, List.getLast?_cons_of_ne_nil (by simp [hfield])]
    exact parse_eq_ok_of_spells h hd (hstrip ▸ .front hmark hblank hgap)
  · have hstrip : strip (d.field ++ String.singleton mark).toList =
        d.field.toList ++ [] ++ [mark] := by
      rw [String.toList_append, String.toList_singleton, List.append_nil]
      refine Text.dropEnds_eq_self_iff.mpr ⟨?_, by simpa using hblank⟩
      rwa [List.head?_append_of_ne_nil _ (by simp [hfield])]
    exact parse_eq_ok_of_spells h hd (hstrip ▸ .back hmark hblank hgap)

theorem parse_marked_of_isBlank [Calendar.ZoneDatabase] (h : s.IsInForce)
    (hd : Text.isFieldPath d.field = true) {mark : Char} (hblank : isBlank mark = true)
    (hdefault : s.settings.sort.defaultDirection = d.direction) :
    parse s (String.singleton mark ++ d.field) = .ok d ∧
      parse s (d.field ++ String.singleton mark) = .ok d := by
  have hstrip := Text.strip_of_isFieldPath hd
  have hgap : IsGap [mark] := by simpa [IsGap] using hblank
  constructor
  · apply parse_eq_ok_of_spells h hd
    rw [String.toList_append, String.toList_singleton, Text.strip_gap_append hgap, hstrip]
    exact .bare hdefault
  · apply parse_eq_ok_of_spells h hd
    rw [String.toList_append, String.toList_singleton, Text.strip_append_gap hgap, hstrip]
    exact .bare hdefault

/-- With settings that pass every check, a mark works in front of a field path and behind it, unless
it is white space. White space is dropped before marks are looked for, and then the direction is the
one that is meant by default. -/
theorem parse_marked [Calendar.ZoneDatabase] {settings : Settings}
    (hvalid : settings.problems = []) :
    ∃ s, Snapshot.build settings = .ok s ∧
      ∀ mark direction, settings.sort.indicators.lookup mark = some direction →
        ∀ path, Text.isFieldPath path = true →
          let read := if Text.trim mark = "" then settings.sort.defaultDirection else direction
          parse s (mark ++ path) = .ok ⟨path, read⟩ ∧
            parse s (path ++ mark) = .ok ⟨path, read⟩ := by
  obtain ⟨s, hbuild⟩ := Snapshot.exists_build_iff.mpr hvalid
  have hforce := Snapshot.isInForce_of_build hbuild
  obtain ⟨-, -, -, rfl, -⟩ := Snapshot.build_eq_ok_iff.mp hbuild
  refine ⟨s, hbuild, fun mark direction hmark path hpath => ?_⟩
  obtain ⟨c, hc⟩ := hforce.marks _ (mem_of_lookup hmark)
  obtain rfl : mark = String.singleton c := hc
  rw [← hforce.indicator] at hmark
  cases hblank : isBlank c with
  | true =>
      have htrim : Text.trim (String.singleton c) = "" := by
        simp [Text.trim, strip, Text.dropEnds, hblank]
      rw [if_pos htrim]
      exact parse_marked_of_isBlank (d := ⟨path, _⟩) hforce hpath hblank rfl
  | false =>
      have htrim : Text.trim (String.singleton c) ≠ "" := by
        simp [Text.trim, strip, Text.dropEnds, hblank]
      rw [if_neg htrim]
      exact parse_marked_of_not_isBlank (d := ⟨path, _⟩) hforce hpath hmark hblank

theorem parse_marked_arrow :
    let settings : Settings := { Settings.default with
      sort.indicators := [(" ", .ascending), ("→", .descending)] }
    let s : Snapshot := ⟨settings, .builtin, .utc, settings.indicatorChars⟩
    settings.problems = [] ∧ settings.sort.indicators.lookup "→" = some .descending ∧
      Text.isFieldPath "author.name" = true ∧ Text.trim "→" ≠ "" ∧
      Snapshot.build settings = .ok s ∧
      parse s "→author.name" = .ok ⟨"author.name", .descending⟩ ∧
      parse s "author.name→" = .ok ⟨"author.name", .descending⟩ := by
  intro settings s
  have hvalid : settings.problems = [] := by decide +kernel
  have hbuild : Snapshot.build settings = .ok s :=
    Snapshot.build_eq_ok_iff.mpr ⟨hvalid, rfl, rfl, rfl, rfl⟩
  have hmark : settings.sort.indicators.lookup "→" = some .descending := by decide +kernel
  have hpath : Text.isFieldPath "author.name" = true := by decide
  have htrim : Text.trim "→" ≠ "" := by decide
  obtain ⟨s', hbuild', hmarked⟩ := parse_marked hvalid
  obtain rfl : s = s' := Except.ok.inj (hbuild.symm.trans hbuild')
  have hparse := hmarked "→" .descending hmark "author.name" hpath
  rw [if_neg htrim] at hparse
  exact ⟨hvalid, hmark, hpath, htrim, hbuild, hparse⟩

/-- A space passes for a mark, and is not seen. -/
theorem parse_marked_space :
    let settings : Settings := { Settings.default with sort.indicators := [(" ", .descending)] }
    let s : Snapshot := ⟨settings, .builtin, .utc, settings.indicatorChars⟩
    settings.problems = [] ∧ Snapshot.build settings = .ok s ∧
      settings.sort.indicators.lookup " " = some .descending ∧ Text.isFieldPath "title" = true ∧
      parse s " title" = .ok ⟨"title", .ascending⟩ ∧
      parse s "title " = .ok ⟨"title", .ascending⟩ := by
  intro settings s
  have hvalid : settings.problems = [] := by decide +kernel
  exact ⟨hvalid, Snapshot.build_eq_ok_iff.mpr ⟨hvalid, rfl, rfl, rfl, rfl⟩, by decide +kernel,
    by decide, by decide +kernel, by decide +kernel⟩

end SortDirective

end RequestQuery
