import TraceLink.Config.Setting

/-!
# Configurations that were read

A configuration that was read from an option text is made of the defaults by the settings of its
pieces, one after the other.

* `Config.parse_induction` — what holds of the defaults, and is kept by every setting that can be
  read, holds of every configuration that was read;
* `Config.samplingInterval_mem` — the interval is in its range.
-/

namespace TraceLink

namespace Setting

/-- An interval that is read is in its range, and no other key sets one. -/
theorem ofPair_samplingInterval {key value : List Char} {bytes : Int}
    (h : ofPair key value = .ok (.samplingInterval bytes)) : 0 ≤ bytes ∧ bytes ≤ maxInterval := by
  unfold ofPair at h
  dsimp only at h
  split at h
  case h_3 =>
    split at h
    · rename_i read
      cases h
      simpa using (Option.filter_eq_some_iff.mp read).2
    · cases h
  case h_2 =>
    split at h <;> cases h
  all_goals cases h

theorem read_samplingInterval {piece : List Char} {bytes : Int}
    (h : read piece = .ok (.samplingInterval bytes)) : 0 ≤ bytes ∧ bytes ≤ maxInterval := by
  unfold read at h
  split at h
  · dsimp only at h
    split at h
    · cases h
    · exact ofPair_samplingInterval h
  · cases h

end Setting

namespace Config

/-- Settings that were all read, put into a configuration one after the other. -/
theorem foldl_apply_induction {P : Config → Prop}
    (read : ∀ config piece setting, P config → Setting.read piece = .ok setting →
      P (Setting.apply config setting)) :
    ∀ (pieces : List (List Char)) (settings : List Setting) (config : Config),
      pieces.mapM Setting.read = .ok settings → P config →
        P (settings.foldl Setting.apply config) := by
  intro pieces
  induction pieces with
  | nil =>
    intro settings config hread h
    cases hread
    exact h
  | cons piece pieces ih =>
    intro settings config hread h
    rw [List.mapM_cons] at hread
    cases hpiece : Setting.read piece with
    | error fault =>
      rw [hpiece] at hread
      cases hread
    | ok setting =>
      cases hrest : pieces.mapM Setting.read with
      | error fault =>
        rw [hpiece, hrest] at hread
        cases hread
      | ok rest =>
        rw [hpiece, hrest] at hread
        cases hread
        exact ih rest _ hrest (read config piece setting h hpiece)

theorem parse_induction {P : Config → Prop} (default : P {})
    (read : ∀ config piece setting, P config → Setting.read piece = .ok setting →
      P (Setting.apply config setting)) {text : String} {config : Config}
    (parsed : parse text = .ok config) : P config := by
  unfold parse at parsed
  cases hread : (pieces text.toList).mapM Setting.read with
  | error fault =>
    rw [hread] at parsed
    cases parsed
  | ok settings =>
    rw [hread] at parsed
    cases parsed
    exact foldl_apply_induction read _ settings {} hread default

/-- The interval of a configuration that was read is in its range. -/
theorem samplingInterval_mem {text : String} {config : Config} (parsed : parse text = .ok config) :
    0 ≤ config.samplingInterval ∧ config.samplingInterval ≤ Setting.maxInterval := by
  have range : ∀ config piece setting,
      0 ≤ config.samplingInterval ∧ config.samplingInterval ≤ Setting.maxInterval →
      Setting.read piece = .ok setting →
      0 ≤ (Setting.apply config setting).samplingInterval ∧
        (Setting.apply config setting).samplingInterval ≤ Setting.maxInterval := by
    intro config piece setting h hread
    cases setting with
    | samplingInterval bytes => exact Setting.read_samplingInterval hread
    | _ => exact h
  exact parse_induction (by decide) range parsed

end Config

end TraceLink
