import RequestQuery.Calendar.Zone.Table
import RequestQuery.Proofs.Edits
import RequestQuery.Settings.Snapshot

namespace RequestQuery

open Json (Value)

namespace Settings

variable {s : Settings}

theorem report_eq_nil_iff {found : Bool} {p : SettingsProblem} :
    report found p = [] ↔ found = false := by
  cases found <;> simp [report]

theorem isIndicator_iff {key : String} :
    isIndicator key = true ↔ ∃ c, key = String.singleton c ∧
      Text.isAlphanumeric c = false ∧ c ∉ ['_', '.', ','] := by
  constructor
  · intro h
    unfold isIndicator at h
    split at h
    · rename_i c hkey
      refine ⟨c, ?_, by simpa [and_assoc] using h⟩
      rw [← String.toList_inj, hkey, String.toList_singleton]
    · cases h
  · rintro ⟨c, rfl, hc⟩
    simpa [isIndicator, and_assoc] using hc

theorem exists_of_problems_eq_nil [Calendar.ZoneDatabase] (h : s.problems = []) :
    (∃ operators, OperatorTable.withOverrides s.operators = .ok operators) ∧
      (∃ zone, Calendar.Zone.find? s.dates.timezone = some zone) ∧
      isDatePattern s.dates.pattern = true ∧
      ∀ e ∈ s.sort.indicators, isIndicator e.1 = true := by
  simp only [problems, List.append_eq_nil_iff, report_eq_nil_iff, List.flatMap_eq_nil_iff] at h
  obtain ⟨⟨⟨⟨⟨-, hindicators⟩, hzone⟩, hpattern⟩, hoperators⟩, -⟩ := h
  refine ⟨?_, ?_, by simpa using hpattern, fun e he => by simpa using hindicators e he⟩
  · split at hoperators
    · rename_i operators hoverrides
      exact ⟨operators, hoverrides⟩
    · cases hoperators
  · exact Option.isSome_iff_exists.mp (by simpa using hzone)

theorem lookup_indicatorChars (h : ∀ e ∈ s.sort.indicators, isIndicator e.1 = true) (c : Char) :
    s.indicatorChars.lookup c = s.sort.indicators.lookup (String.singleton c) := by
  rw [indicatorChars]
  revert h
  induction s.sort.indicators with
  | nil => exact fun _ => rfl
  | cons e rest ih =>
      intro h
      rw [List.forall_mem_cons] at h
      obtain ⟨d, hkey, -⟩ := isIndicator_iff.mp h.1
      obtain ⟨key, direction⟩ := e
      obtain rfl : key = String.singleton d := hkey
      have hsame : (c == d) = (String.singleton c == String.singleton d) := by
        rw [Bool.eq_iff_iff, beq_iff_eq, beq_iff_eq, ← String.toList_inj, String.toList_singleton,
          String.toList_singleton, List.cons.injEq, and_iff_left rfl]
      rw [List.filterMap_cons_some (b := (d, direction)) (by simp), List.lookup_cons,
        List.lookup_cons, hsame, ih h.2]

end Settings

namespace Snapshot

section

variable [Calendar.ZoneDatabase]

/-- The settings have no problems, and all that is derived is derived from them. -/
structure IsInForce (s : Snapshot) : Prop where
  valid : s.settings.problems = []
  operators : OperatorTable.withOverrides s.settings.operators = .ok s.operators
  zone : Calendar.Zone.find? s.settings.dates.timezone = some s.zone
  marks : ∀ e ∈ s.settings.sort.indicators, ∃ c, e.1 = String.singleton c
  indicator : ∀ c, s.indicator? c = s.settings.sort.indicators.lookup (String.singleton c)

variable {settings : Settings} {s next : Snapshot}

theorem build_eq_ok_iff :
    build settings = .ok s ↔ settings.problems = [] ∧
      OperatorTable.withOverrides settings.operators = .ok s.operators ∧
      Calendar.Zone.find? settings.dates.timezone = some s.zone ∧
      s.settings = settings ∧ s.indicators = settings.indicatorChars := by
  unfold build
  cases hoperators : OperatorTable.withOverrides settings.operators with
  | error e => simp
  | ok operators =>
      cases hzone : Calendar.Zone.find? settings.dates.timezone with
      | none => simp
      | some zone =>
          cases hproblems : settings.problems with
          | nil =>
              obtain ⟨settings', operators', zone', indicators'⟩ := s
              simp only [Except.ok.injEq, mk.injEq, Option.some.injEq, true_and]
              constructor
              · rintro ⟨rfl, rfl, rfl, rfl⟩
                exact ⟨rfl, rfl, rfl, rfl⟩
              · rintro ⟨rfl, rfl, rfl, rfl⟩
                exact ⟨rfl, rfl, rfl, rfl⟩
          | cons p rest => simp

theorem exists_build_iff : (∃ s, build settings = .ok s) ↔ settings.problems = [] := by
  constructor
  · rintro ⟨s, h⟩
    exact (build_eq_ok_iff.mp h).1
  · intro h
    obtain ⟨⟨operators, hoperators⟩, ⟨zone, hzone⟩, -⟩ := Settings.exists_of_problems_eq_nil h
    exact ⟨⟨settings, operators, zone, settings.indicatorChars⟩,
      build_eq_ok_iff.mpr ⟨h, hoperators, hzone, rfl, rfl⟩⟩

theorem isInForce_of_build (h : build settings = .ok s) : s.IsInForce := by
  obtain ⟨hvalid, hoperators, hzone, rfl, hindicators⟩ := build_eq_ok_iff.mp h
  obtain ⟨-, -, -, hkeys⟩ := Settings.exists_of_problems_eq_nil hvalid
  refine ⟨hvalid, hoperators, hzone, fun e he => ?_, fun c => ?_⟩
  · obtain ⟨c, hc, -⟩ := Settings.isIndicator_iff.mp (hkeys e he)
    exact ⟨c, hc⟩
  · rw [indicator?, hindicators]
    exact Settings.lookup_indicatorChars hkeys c

/-- A change to the settings in force: of one option, of all of them, or by an edit of a copy. -/
inductive Change where
  | set (key : String) (value : Value)
  | replace (settings : Settings)
  | update (edit : Settings → Settings)

/-- The settings that a change asks for. -/
def Change.requested (settings : Settings) : Change → Except SettingsError Settings
  | .set key value => settings.withValue key value
  | .replace settings => .ok settings
  | .update edit => .ok (edit settings)

/-- Makes a change to the settings that are in force. -/
def Change.inPlace : Change → Edit Snapshot SettingsError Unit
  | .set key value => setInPlace key value
  | .replace settings => publish settings
  | .update edit => updateInPlace edit

/-- What is in force after a change that succeeds, or the error of the change. -/
def change (s : Snapshot) : Change → Except SettingsError Snapshot
  | .set key value => s.set key value
  | .replace settings => s.replace settings
  | .update edit => s.update edit

/-- What is in force after a change, whether it fails or not. -/
def step (s : Snapshot) (c : Change) : Snapshot :=
  c.inPlace.leave s

def after (s : Snapshot) (changes : List Change) : Snapshot :=
  changes.foldl step s

variable {c : Change}

theorem change_eq_result : s.change c = c.inPlace.result s := by
  cases c <;> rfl

theorem isSafe_publish (settings : Settings) : (publish settings).IsSafe :=
  (Edit.isReading_ofExcept _).bind fun _ => (Edit.completes_modify _).isSafe

theorem isSafe_inPlace (c : Change) : c.inPlace.IsSafe := by
  cases c with
  | set key value =>
      exact Edit.isReading_get.bind fun s => (Edit.isReading_ofExcept _).bind fun settings =>
        isSafe_publish settings
  | replace settings => exact isSafe_publish settings
  | update edit => exact Edit.isReading_get.bind fun s => isSafe_publish (edit s.settings)

theorem result_publish (s : Snapshot) (settings : Settings) :
    (publish settings).result s = build settings := by
  rw [Edit.result, Edit.outcome, publish]
  cases build settings <;> rfl

theorem result_setInPlace (s : Snapshot) (key : String) (value : Value) :
    (setInPlace key value).result s = s.settings.withValue key value >>= build := by
  rw [Edit.result, setInPlace, Edit.outcome_get_bind]
  cases s.settings.withValue key value with
  | error e => rfl
  | ok settings => exact result_publish s settings

theorem change_eq_bind : s.change c = c.requested s.settings >>= build := by
  cases c with
  | set key value => exact result_setInPlace s key value
  | replace settings => exact result_publish s settings
  | update edit => exact result_publish s (edit s.settings)

theorem change_eq_ok_iff :
    s.change c = .ok next ↔
      ∃ settings, c.requested s.settings = .ok settings ∧ build settings = .ok next := by
  rw [change_eq_bind]
  cases c.requested s.settings with
  | error e => simp [bind, Except.bind]
  | ok settings => simp [bind, Except.bind]

theorem step_of_change_eq_ok (h : s.change c = .ok next) : s.step c = next := by
  rw [change_eq_result] at h
  rw [step, (isSafe_inPlace c).leave_eq_match, h]

theorem step_of_change_eq_error {e : SettingsError} (h : s.change c = .error e) : s.step c = s := by
  rw [change_eq_result] at h
  rw [step, (isSafe_inPlace c).leave_eq_match, h]

theorem IsInForce.step (h : s.IsInForce) (c : Change) : (s.step c).IsInForce := by
  cases hchange : s.change c with
  | error e => rwa [step_of_change_eq_error hchange]
  | ok next =>
      rw [step_of_change_eq_ok hchange]
      obtain ⟨settings, -, hbuild⟩ := change_eq_ok_iff.mp hchange
      exact isInForce_of_build hbuild

theorem IsInForce.after (h : s.IsInForce) (changes : List Change) :
    (s.after changes).IsInForce := by
  induction changes generalizing s with
  | nil => exact h
  | cons c rest ih => exact ih (h.step c)

theorem after_append_singleton (s : Snapshot) (changes : List Change) (c : Change) :
    s.after (changes ++ [c]) = (s.after changes).step c := by
  rw [Snapshot.after, List.foldl_append]
  rfl

/-- Settings can be put into force exactly if they have no problems. From then on, after any
changes, what is in force has no problems and is all derived from the settings in force. A change
that fails leaves it as it is, and one that succeeds puts into force what it asks for. -/
theorem isInForce_after (settings : Settings) :
    ((∃ s, build settings = .ok s) ↔ settings.problems = []) ∧
      ∀ s, build settings = .ok s → s.settings = settings ∧ ∀ changes,
        (s.after changes).IsInForce ∧ ∀ c,
          (∀ e, (s.after changes).change c = .error e →
            s.after (changes ++ [c]) = s.after changes) ∧
          ∀ next, (s.after changes).change c = .ok next →
            s.after (changes ++ [c]) = next ∧
              c.requested (s.after changes).settings = .ok next.settings := by
  refine ⟨exists_build_iff, fun s h => ⟨(build_eq_ok_iff.mp h).2.2.2.1, fun changes => ?_⟩⟩
  refine ⟨(isInForce_of_build h).after changes, fun c => ⟨fun e he => ?_, fun next hnext => ?_⟩⟩
  · rw [after_append_singleton, step_of_change_eq_error he]
  · obtain ⟨requested, hrequested, hbuild⟩ := change_eq_ok_iff.mp hnext
    rw [after_append_singleton, step_of_change_eq_ok hnext, hrequested,
      (build_eq_ok_iff.mp hbuild).2.2.2.1]
    exact ⟨rfl, rfl⟩

end

theorem isInForce_after_default :
    let s : Snapshot := ⟨.default, .builtin, .utc, Settings.default.indicatorChars⟩
    let changes : List Change := [
      .update fun s => { s with maxFilters := s.maxFilters + 1 },
      .update fun s => { s with dates := { s.dates with timezone := "Nowhere" } },
      .replace { Settings.default with operators := [("eq", "~")] },
      .replace { Settings.default with
        maxFilters := 7, sort.indicators := [("!", .descending)] }]
    build .default = .ok s ∧ s.settings = .default ∧ (s.after changes).IsInForce ∧
      (s.after (changes.take 3)).settings.maxFilters = 51 ∧
      (s.after changes).indicator? '!' = some .descending := by
  intro s changes
  have h : build .default = .ok s :=
    build_eq_ok_iff.mpr ⟨by decide +kernel, rfl, rfl, rfl, rfl⟩
  obtain ⟨hsettings, hafter⟩ := (isInForce_after .default).2 s h
  exact ⟨h, hsettings, (hafter changes).1, by decide +kernel, by decide +kernel⟩

end Snapshot

end RequestQuery
