import LedgerRules.Proofs.Sync.Trace

/-!
Making changes one after the other, until the service refuses one. What the service has been told
and what has been shown is said in full, so that nothing else can have happened: the state of the
service is the one that exactly these calls lead to.
-/

namespace LedgerRules

open Effect Sync

variable {σ : Type}

def EntryChange.replacement (change : EntryChange) : String × Json :=
  (change.entry.id, change.result.toRecord)

def LedgerService.update (service : LedgerService σ) (change : EntryChange) (state : σ) :
    ServiceAnswer σ Unit :=
  service.replaceEntry change.entry.id change.result.toRecord state

/-- The service is told some changes and nothing else, and accepts all of them. -/
inductive Accepted (service : LedgerService σ) : List EntryChange → σ → σ → Prop where
  | nil {state : σ} : Accepted service [] state state
  | cons {change : EntryChange} {rest : List EntryChange} {state after : σ}
      (accepted : (service.update change state).result = .ok ())
      (later : Accepted service rest (service.update change state).state after) :
      Accepted service (change :: rest) state after

theorem Accepted.eq_of_nil {service : LedgerService σ} {before after : σ}
    (accepted : Accepted service [] before after) : after = before := by
  cases accepted
  rfl

/-- Between two worlds some changes have been shown, and some have been accepted. -/
structure Told (shown accepted : List EntryChange) (before after : World σ) : Prop where
  echoes : after.echoes = before.echoes ++ shown.map EntryChange.text
  replacements : after.replacements = before.replacements ++ accepted.map EntryChange.replacement

namespace Told

theorem nothing (world : World σ) : Told [] [] world world :=
  ⟨(List.append_nil _).symm, (List.append_nil _).symm⟩

theorem trans {shown accepted shownLater acceptedLater : List EntryChange}
    {before middle after : World σ} (first : Told shown accepted before middle)
    (second : Told shownLater acceptedLater middle after) :
    Told (shown ++ shownLater) (accepted ++ acceptedLater) before after where
  echoes := by rw [second.echoes, first.echoes, List.map_append, List.append_assoc]
  replacements := by
    rw [second.replacements, first.replacements, List.map_append, List.append_assoc]

theorem logged {shown accepted : List EntryChange} {before after : World σ}
    (told : Told shown accepted before after) (record : LogRecord) (files : Files) :
    Told shown accepted before (World.noted { after with files } (.logged record)) where
  echoes := by
    rw [World.echoes_noted, ← told.echoes]
    exact List.append_nil _
  replacements := by
    rw [World.replacements_noted, ← told.replacements]
    exact List.append_nil _

theorem echoed (world : World σ) (change : EntryChange) :
    Told [change] [] world (world.noted (.echoed change.text)) where
  echoes := by simp [Event.echo?]
  replacements := by simp [Event.replacement?]

end Told

/-- How far a live run gets with its changes. -/
inductive Carried (service : LedgerService σ) (planned : List EntryChange) (before : World σ) :
    Except SyncError Unit × World σ → Prop where
  | refused {done rest : List EntryChange} {change : EntryChange} {error : ServiceError} {state : σ}
      {after : World σ} (split : planned = done ++ change :: rest)
      (accepted : Accepted service done before.service state)
      (failed : (service.update change state).result = .error error)
      (ended : after.service = (service.update change state).state)
      (told : Told (done ++ [change]) done before after) :
      Carried service planned before (.error (.service error), after)
  | made {after : World σ} (accepted : Accepted service planned before.service after.service)
      (told : Told planned planned before after) : Carried service planned before (.ok (), after)

theorem submit_cases (service : LedgerService σ) (change : EntryChange) (before : World σ) :
    (∃ error after, outcome (submit service change) before = (.error (.service error), after) ∧
        (service.update change before.service).result = .error error ∧
        after.service = (service.update change before.service).state ∧
        Told [] [] before after) ∨
      ∃ after, outcome (submit service change) before = (.ok (), after) ∧
        (service.update change before.service).result = .ok () ∧
        after.service = (service.update change before.service).state ∧
        Told [] [change] before after := by
  simp only [submit, outcome_bind, outcome_call, outcome_note, outcome_log]
  cases result : (service.update change before.service).result with
  | error error =>
      rw [LedgerService.update] at result
      rw [result]
      exact .inl ⟨error, _, rfl, rfl, rfl, by simp, by simp⟩
  | ok =>
      rw [LedgerService.update] at result
      rw [result]
      refine .inr ⟨_, rfl, rfl, rfl, ?_, ?_⟩
      · simp [Event.echo?]
      · simp [Event.replacement?, EntryChange.replacement]

theorem carryOut_live (service : LedgerService σ) (planned : List EntryChange)
    (before : World σ) :
    Carried service planned before (outcome (carryOut service false planned) before) := by
  induction planned generalizing before with
  | nil => exact .made .nil (.nothing before)
  | cons change rest ih =>
      have echoed := Told.echoed before change
      simp only [carryOut, outcome_bind, outcome_note, Bool.not_false, if_true]
      rcases submit_cases service change (before.noted (.echoed change.text)) with
        ⟨error, after, failed, refused, ended, told⟩ | ⟨middle, done, accepted, ended, told⟩
      · rw [failed]
        exact .refused rfl .nil refused ended (echoed.trans told)
      · simp only [done]
        have first : Told [change] [change] before middle := echoed.trans told
        replace accepted : (service.update change before.service).result = .ok () := accepted
        replace ended : middle.service = (service.update change before.service).state := ended
        have later := ih middle
        generalize outcome (carryOut service false rest) middle = carried at later ⊢
        cases later with
        | refused split others failed last told =>
            rw [ended] at others
            exact .refused (congrArg (change :: ·) split) (.cons accepted others) failed last
              (first.trans told)
        | made others told =>
            rw [ended] at others
            exact .made (.cons accepted others) (first.trans told)

theorem carryOut_dry (service : LedgerService σ) (planned : List EntryChange)
    (before : World σ) :
    ∃ after, outcome (carryOut service true planned) before = (.ok (), after) ∧
      after.service = before.service ∧ Told planned [] before after := by
  induction planned generalizing before with
  | nil => exact ⟨before, rfl, rfl, .nothing before⟩
  | cons change rest ih =>
      obtain ⟨after, done, same, told⟩ := ih (before.noted (.echoed change.text))
      exact ⟨after, done, same, (Told.echoed before change).trans told⟩

/-- How a run ends once its changes are planned: they have been shown, the service has refused one
of them, the state could not be saved, or all is done. -/
inductive Ending (service : LedgerService σ) (options : SyncOptions) (state : SyncState)
    (opened : SyncReport) (planned : List EntryChange) (ready : World σ) :
    Except SyncError SyncReport × World σ → Prop where
  | shown {after : World σ} (dry : options.isDryRun = true)
      (untold : after.service = ready.service) (told : Told planned [] ready after)
      (same : after.files = ready.files) :
      Ending service options state opened planned ready
        (.ok { opened with changes := planned }, after)
  | refused {done rest : List EntryChange} {change : EntryChange} {error : ServiceError} {last : σ}
      {after : World σ} (live : options.isDryRun = false) (split : planned = done ++ change :: rest)
      (accepted : Accepted service done ready.service last)
      (failed : (service.update change last).result = .error error)
      (ended : after.service = (service.update change last).state)
      (told : Told (done ++ [change]) done ready after) (same : after.files = ready.files) :
      Ending service options state opened planned ready (.error (.service error), after)
  | unsaved {error : FileError} {after : World σ} (live : options.isDryRun = false)
      (accepted : Accepted service planned ready.service after.service)
      (told : Told planned planned ready after)
      (failed : outcome (Files.replace options.stateFile state.encode) ready.files =
        (.error error, after.files)) :
      Ending service options state opened planned ready (.error (.file error), after)
  | saved {after : World σ} (live : options.isDryRun = false)
      (accepted : Accepted service planned ready.service after.service)
      (told : Told planned planned ready after)
      (stored : outcome (Files.replace options.stateFile state.encode) ready.files =
        (.ok (), after.files)) :
      Ending service options state opened planned ready
        (.ok { opened with
            changes := planned, applied := planned.length, state, stateSaved := true }, after)

theorem settle_ending (service : LedgerService σ) (options : SyncOptions) (state : SyncState)
    (watermark : Option String) (opened : SyncReport) (planned : List EntryChange)
    (ready : World σ) :
    Ending service options (state.advance watermark) opened planned ready
      (outcome (settle service options state watermark opened planned) ready) := by
  have files := keeps_carryOut (kept_files service) (fun _ _ _ => rfl) (fun _ => trivial)
    (fun _ => trivial) (fun _ _ => trivial) options.isDryRun planned ready
  rw [settle]
  cases dry : options.isDryRun with
  | true =>
      obtain ⟨after, done, untold, told⟩ := carryOut_dry service planned ready
      rw [dry, done] at files
      rw [outcome_bind_ok done]
      exact .shown dry untold told files
  | false =>
      have carried := carryOut_live service planned ready
      rw [dry] at files
      rw [outcome_bind]
      generalize outcome (carryOut service false planned) ready = result at carried files ⊢
      cases carried with
      | refused split accepted failed ended told =>
          exact .refused dry split accepted failed ended told files
      | @made middle accepted told =>
          replace files : middle.files = ready.files := files
          simp only [Bool.false_eq_true, if_false]
          generalize saving : outcome (Files.replace options.stateFile
            (state.advance watermark).encode) middle.files = saved
          obtain ⟨error | _, stored⟩ := saved
          · rw [outcome_bind_error (outcome_saveState_error saving)]
            rw [files] at saving
            exact .unsaved dry accepted ⟨told.echoes, told.replacements⟩ saving
          · rw [outcome_bind_ok (outcome_saveState_ok saving)]
            rw [files] at saving
            exact .saved dry accepted (told.logged _ stored) saving

end LedgerRules
