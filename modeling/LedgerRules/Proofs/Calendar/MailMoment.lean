import LedgerRules.Calendar.MailDate
import LedgerRules.Proofs.Calendar.DateText
import LedgerRules.Proofs.Outcome

/-!
What becomes of the parts of a mail date. They give a moment if there is such a day and such a time
and the offset is less than a day. Parts that give none are passed over, unless one of them is out
of all bounds: then reading fails.
-/

namespace LedgerRules.MailDate

/-- The number does not fit into 32 bits. -/
def IsOversized (number : Int) : Prop := number < -2 ^ 31 ∨ 2 ^ 31 ≤ number

namespace Parts

/-- The moment has the fields of the parts, and their offset. -/
structure Gives (parts : Parts) (moment : Moment) : Prop where
  year : moment.date.year = parts.year
  month : moment.date.month = parts.month
  day : moment.date.day = parts.day
  hour : moment.time.hour = parts.hour
  minute : moment.time.minute = parts.minute
  second : moment.time.second = parts.second
  undivided : moment.time.microsecond = 0
  valid : moment.time.IsValid
  offset : parts.offset = moment.offset.map (· * 60)
  near : ∀ minutes ∈ moment.offset, minutes.natAbs < 24 * 60

def numbers (parts : Parts) : List Int :=
  [parts.year, parts.day, parts.hour, parts.minute, parts.second]

/-- The offset is less than a day, if there is one. -/
def HasNearOffset (parts : Parts) : Prop := ∀ seconds ∈ parts.offset, seconds.natAbs < 86400

def HasFarOffset (parts : Parts) : Prop :=
  ∃ seconds ∈ parts.offset, seconds.fdiv 86400 < -999999999 ∨ 999999999 < seconds.fdiv 86400

/-- The offset is out of all bounds, or it is less than a day and another number is. -/
def IsUnbounded (parts : Parts) : Prop :=
  parts.HasFarOffset ∨ parts.HasNearOffset ∧ ∃ number ∈ parts.numbers, IsOversized number

def HasWholeMinutes (parts : Parts) : Prop := ∀ seconds ∈ parts.offset, 60 ∣ seconds

/-- The moment with the fields of the parts, if it exists. -/
def given? (parts : Parts) : Option Moment :=
  if parts.year < 0 ∨ parts.day < 0 ∨ parts.hour < 0 ∨ parts.minute < 0 ∨ parts.second < 0 then none
  else
    let time : TimeOfDay := ⟨parts.hour.toNat, parts.minute.toNat, parts.second.toNat, 0⟩
    if time.IsValid then
      (Date.ofParts? parts.year.toNat parts.month parts.day.toNat).map fun date =>
        ⟨date, time, parts.offset.map (·.tdiv 60)⟩
    else none

end Parts

theorem checkInteger_eq_ok {number : Int} :
    checkInteger number = .ok () ↔ ¬IsOversized number := by
  have long : (longLimit : Int) = 2 ^ 63 := rfl
  have short : (integerLimit : Int) = 2 ^ 31 := rfl
  simp only [checkInteger, IsOversized, throw, throwThe, MonadExceptOf.throw, pure, Except.pure]
  split_ifs <;> simp only [false_iff, true_iff] <;> omega

theorem checkOffset_eq_ok {seconds : Int} :
    checkOffset seconds = .ok () ↔
      ¬(seconds.fdiv 86400 < -999999999 ∨ 999999999 < seconds.fdiv 86400) := by
  have short : (integerLimit : Int) = 2 ^ 31 := rfl
  simp only [checkOffset, throw, throwThe, MonadExceptOf.throw, pure, Except.pure]
  split_ifs <;> simp only [false_iff, true_iff] <;> omega

theorem isOffsetInRange_iff (parts : Parts) :
    isOffsetInRange parts.offset = true ↔ parts.HasNearOffset := by
  cases given : parts.offset <;> simp [isOffsetInRange, Parts.HasNearOffset, given]

theorem forIn_check (numbers : List Int) :
    (forIn numbers PUnit.unit fun number _ => do
        checkInteger number
        pure (ForInStep.yield PUnit.unit)) = forM numbers checkInteger := by
  induction numbers with
  | nil => rfl
  | cons number rest ih =>
      rw [List.forIn_cons, List.forM_cons, ← ih]
      cases checkInteger number <;> rfl

theorem forM_checkInteger_eq_ok {numbers : List Int} :
    forM numbers checkInteger = .ok () ↔ ¬∃ number ∈ numbers, IsOversized number := by
  induction numbers with
  | nil => simp [pure, Except.pure]
  | cons number rest ih =>
      rw [List.forM_cons, Except.bind_eq_ok, List.exists_mem_cons_iff, not_or, ← checkInteger_eq_ok,
        ← ih]
      exact ⟨fun ⟨_, own, others⟩ => ⟨own, others⟩, fun ⟨own, others⟩ => ⟨(), own, others⟩⟩

namespace Parts

/-- All bounds are checked, those of the offset first. -/
def check (parts : Parts) : Except Overflow Unit := do
  if let some seconds := parts.offset then checkOffset seconds
  if isOffsetInRange parts.offset then forM parts.numbers checkInteger

theorem moment?_eq (parts : Parts) :
    parts.moment? =
      parts.check.map fun _ => if isOffsetInRange parts.offset then parts.given? else none := by
  have inRange : (if isOffsetInRange parts.offset then do
        forM parts.numbers checkInteger
        pure parts.given?
      else pure none : Except Overflow (Option Moment)) =
      (if isOffsetInRange parts.offset then forM parts.numbers checkInteger else pure ()).map
        fun _ => if isOffsetInRange parts.offset then parts.given? else none := by
    split_ifs
    · cases forM parts.numbers checkInteger <;> rfl
    · rfl
  simp only [moment?, check, forIn_check, ← apply_ite pure]
  obtain ⟨year, month, day, hour, minute, second, offset⟩ := parts
  cases offset with
  | none => exact inRange
  | some seconds =>
      dsimp only
      cases checkOffset seconds with
      | error overflow => rfl
      | ok _ => exact inRange

theorem check_eq_ok {parts : Parts} : parts.check = .ok () ↔ ¬parts.IsUnbounded := by
  have numbers :
      (if isOffsetInRange parts.offset then forM parts.numbers checkInteger else pure ()) = .ok () ↔
        ¬(parts.HasNearOffset ∧ ∃ number ∈ parts.numbers, IsOversized number) := by
    split_ifs with near
    · rw [forM_checkInteger_eq_ok, not_and]
      exact ⟨fun small _ => small, fun small => small ((isOffsetInRange_iff parts).mp near)⟩
    · simp [pure, Except.pure, ← isOffsetInRange_iff, near]
  rw [check, IsUnbounded, not_or, ← numbers]
  cases given : parts.offset with
  | none => simp [HasFarOffset, given]
  | some seconds =>
      have far : parts.HasFarOffset ↔
          seconds.fdiv 86400 < -999999999 ∨ 999999999 < seconds.fdiv 86400 := by
        simp [HasFarOffset, given]
      rw [far, ← checkOffset_eq_ok]
      simp only [Except.bind_eq_ok]
      exact ⟨fun ⟨_, own, others⟩ => ⟨own, others⟩, fun ⟨own, others⟩ => ⟨(), own, others⟩⟩

theorem gives_of_given? {parts : Parts} (minutes : parts.HasWholeMinutes)
    (near : parts.HasNearOffset) {moment : Moment} (given : parts.given? = some moment) :
    parts.Gives moment := by
  simp only [given?] at given
  split_ifs at given with negative valid
  obtain ⟨date, day, rfl⟩ := Option.map_eq_some_iff.mp given
  obtain ⟨year, month, day⟩ := Date.ofParts?_eq_some.mp day
  have offset : parts.offset = (parts.offset.map (·.tdiv 60)).map (· * 60) := by
    cases same : parts.offset with
    | none => rfl
    | some seconds => simp [Int.tdiv_mul_cancel (minutes seconds same)]
  have less : ∀ shift ∈ parts.offset.map (·.tdiv 60), shift.natAbs < 24 * 60 := by
    intro shift member
    obtain ⟨seconds, same, rfl⟩ := Option.map_eq_some_iff.mp member
    have bound := near seconds same
    obtain ⟨whole, rfl⟩ := minutes seconds same
    rw [Int.mul_tdiv_cancel_left whole (by decide)]
    omega
  refine ⟨?_, month, ?_, ?_, ?_, ?_, rfl, valid, offset, less⟩ <;> dsimp only <;> omega

theorem given?_of_gives {parts : Parts} {moment : Moment} (gives : parts.Gives moment) :
    parts.given? = some moment := by
  obtain ⟨year, month, day, hour, minute, second, undivided, valid, offset, near⟩ := gives
  obtain ⟨date, ⟨hours, minutes, seconds, microseconds⟩, shift⟩ := moment
  dsimp only at *
  have time : (⟨parts.hour.toNat, parts.minute.toNat, parts.second.toNat, 0⟩ : TimeOfDay) =
      ⟨hours, minutes, seconds, microseconds⟩ := by
    rw [← hour, ← minute, ← second, undivided]
    rfl
  have shifted : parts.offset.map (·.tdiv 60) = shift := by
    rw [offset]
    cases shift <;> simp
  have found : Date.ofParts? parts.year.toNat parts.month parts.day.toNat = some date :=
    Date.ofParts?_eq_some.mpr ⟨by omega, month, by omega⟩
  rw [given?, if_neg (by omega), time, if_pos valid, found, shifted]
  rfl

theorem hasNearOffset_of_gives {parts : Parts} {moment : Moment} (gives : parts.Gives moment) :
    parts.HasNearOffset := by
  intro seconds same
  rw [gives.offset] at same
  obtain ⟨minutes, own, rfl⟩ := Option.map_eq_some_iff.mp same
  have near := gives.near minutes own
  omega

theorem not_isUnbounded_of_gives {parts : Parts} {moment : Moment} (gives : parts.Gives moment) :
    ¬parts.IsUnbounded := by
  have near := hasNearOffset_of_gives gives
  obtain ⟨year, month, day, hour, minute, second, undivided, valid, -, -⟩ := gives
  obtain ⟨years, -, days⟩ := moment.date.exists_day
  have longest := Date.daysInMonth_le moment.date.year moment.date.month
  obtain ⟨hours, minutes, seconds, -⟩ := valid
  rintro (⟨seconds, same, far⟩ | ⟨-, number, member, large⟩)
  · have close := near seconds same
    rw [Int.fdiv_eq_ediv_of_nonneg seconds (by decide)] at far
    omega
  · simp only [numbers, List.mem_cons, List.not_mem_nil, or_false] at member
    rw [IsOversized] at large
    omega

theorem moment?_of_gives {parts : Parts} {moment : Moment} (gives : parts.Gives moment) :
    parts.moment? = .ok (some moment) := by
  have near := (isOffsetInRange_iff parts).mpr (hasNearOffset_of_gives gives)
  rw [moment?_eq, check_eq_ok.mpr (not_isUnbounded_of_gives gives), if_pos near,
    given?_of_gives gives]
  rfl

/-- Parts in bounds that give no moment are passed over. -/
theorem moment?_eq_none {parts : Parts} (minutes : parts.HasWholeMinutes)
    (bounded : ¬parts.IsUnbounded) (nothing : ∀ moment, ¬parts.Gives moment) :
    parts.moment? = .ok none := by
  rw [moment?_eq, check_eq_ok.mpr bounded]
  change Except.ok _ = _
  split_ifs with inRange
  · have near := (isOffsetInRange_iff parts).mp inRange
    have none : parts.given? = none := Option.eq_none_iff_forall_ne_some.mpr fun moment given =>
      nothing moment (gives_of_given? minutes near given)
    rw [none]
  · rfl

theorem moment?_of_isUnbounded {parts : Parts} (unbounded : parts.IsUnbounded) :
    ∃ overflow, parts.moment? = .error overflow := by
  have failed : parts.check ≠ .ok () := fun ok => check_eq_ok.mp ok unbounded
  rw [moment?_eq]
  cases check : parts.check with
  | error overflow => exact ⟨overflow, rfl⟩
  | ok _ => exact absurd check failed

end Parts

theorem hasWholeMinutes_readZone (zone : Word) : ∀ seconds ∈ readZone zone, 60 ∣ seconds := by
  intro seconds found
  obtain ⟨hundreds, -, rfl⟩ := Option.map_eq_some_iff.mp found
  dsimp only
  split_ifs <;> omega

theorem hasWholeMinutes_bind {α : Type} {first : Option α} {next : α → Option Parts}
    (whole : ∀ value, ∀ parts ∈ next value, parts.HasWholeMinutes) :
    ∀ parts ∈ first >>= next, parts.HasWholeMinutes := by
  intro parts read
  obtain ⟨value, -, read⟩ := Option.bind_eq_some_iff.mp read
  exact whole value parts read

theorem hasWholeMinutes_readParts (day month year time zone : Word) :
    ∀ parts ∈ readParts day month year time zone, parts.HasWholeMinutes := by
  unfold readParts
  dsimp only
  split
  · exact nofun
  · split
    all_goals
      iterate 8 refine hasWholeMinutes_bind fun _ => ?_
      rintro parts ⟨⟩
      simp only [Parts.HasWholeMinutes]
      exact hasWholeMinutes_readZone _

theorem hasWholeMinutes_parts? {text : String} {parts : Parts} (read : parts? text = some parts) :
    parts.HasWholeMinutes := by
  unfold parts? at read
  split at read
  · exact hasWholeMinutes_readParts _ _ _ _ _ _ read
  · cases read

end LedgerRules.MailDate
