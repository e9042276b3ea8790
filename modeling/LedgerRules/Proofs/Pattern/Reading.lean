import Mathlib
import LedgerRules.Pattern.Reader

/-!
Reading a pattern goes forward in its text. Most parts of the reading leave the flags of the whole
pattern as they are, and if they refuse the pattern, it is malformed; they are calm.
-/

namespace LedgerRules.Pattern

def Refusal.IsMalformed : Refusal → Prop
  | .malformed _ _ => True
  | _ => False

/-- The value of an attempt is a good one, or its refusal is an allowed one. -/
def Ends {α : Type} (allowed : Refusal → Prop) (good : α → Prop) : Attempt α → Prop
  | .ok value => good value
  | .error refusal => allowed refusal

section Ends

variable {α β : Type} {allowed : Refusal → Prop} {good : α → Prop} {attempt : Attempt α}

theorem Ends.bind {better : β → Prop} {next : α → Attempt β} (first : Ends allowed good attempt)
    (second : ∀ value, good value → Ends allowed better (next value)) :
    Ends allowed better (attempt >>= next) := by
  cases attempt with
  | error refusal => exact first
  | ok value => exact second value first

theorem Ends.map {better : β → Prop} {change : α → β} (first : Ends allowed good attempt)
    (second : ∀ value, good value → better (change value)) :
    Ends allowed better (attempt.map change) := by
  cases attempt with
  | error refusal => exact first
  | ok value => exact second value first

theorem Ends.mono {allowedToo : Refusal → Prop} {better : α → Prop}
    (first : Ends allowed good attempt) (refused : ∀ refusal, allowed refusal → allowedToo refusal)
    (second : ∀ value, good value → better value) : Ends allowedToo better attempt := by
  cases attempt with
  | error refusal => exact refused refusal first
  | ok value => exact second value first

end Ends

/-! Places. -/

namespace Place

variable (place : Place)

theorem next_append_drop : place.next ++ place.rest.drop place.next.length = place.rest := by
  obtain ⟨position, rest⟩ := place
  unfold next
  split <;> simp_all

theorem ends_advance :
    Ends Refusal.IsMalformed (fun after => place.next ++ after.rest = place.rest)
      place.advance := by
  rw [advance, check]
  split
  · trivial
  · exact place.next_append_drop

theorem ends_take :
    Ends Refusal.IsMalformed (fun taken => taken.1 = place.next ∧
      taken.1 ++ taken.2.rest = place.rest) place.take :=
  place.ends_advance.map fun _ rest => ⟨rfl, rest⟩

theorem ends_takeIf (character : Char) :
    Ends Refusal.IsMalformed
      (fun after? => ∀ after ∈ after?, character :: after.rest = place.rest)
      (place.takeIf character) := by
  rw [takeIf]
  split
  · rename_i same
    refine place.ends_advance.map fun after rest => ?_
    rw [nextIs, beq_iff_eq] at same
    rw [same] at rest
    simpa using rest
  · exact nofun

theorem ends_takeWhile (test : Char → Bool) (count : Nat) (place : Place) :
    Ends Refusal.IsMalformed (fun taken => taken.1 ++ taken.2.rest = place.rest ∧
      (∀ character ∈ taken.1, test character) ∧ taken.1.length ≤ count)
      (place.takeWhile test count) := by
  induction count generalizing place with
  | zero => exact ⟨rfl, nofun, le_rfl⟩
  | succ count ih =>
      have nothing : ([] : List Char) ++ place.rest = place.rest ∧
          (∀ character ∈ ([] : List Char), test character) ∧
          ([] : List Char).length ≤ count + 1 := ⟨rfl, nofun, Nat.zero_le _⟩
      rw [takeWhile]
      split
      · rename_i character same
        split
        · rename_i passed
          refine place.ends_advance.bind fun after rest => ?_
          refine (ih after).bind ?_
          rintro ⟨more, last⟩ ⟨whole, all, short⟩
          refine ⟨?_, List.forall_mem_cons.mpr ⟨passed, all⟩, Nat.succ_le_succ short⟩
          rw [← rest, same, ← whole]
          rfl
        · exact nothing
      · exact nothing

theorem ends_takeName (terminator : Char) (what : String) :
    Ends Refusal.IsMalformed (fun taken => taken.2.rest <:+ place.rest)
      (place.takeName terminator what) := by
  have from_ (steps : Nat) (taken : List Char) (place : Place) :
      Ends Refusal.IsMalformed (fun taken => taken.2.rest <:+ place.rest)
        (takeNameFrom terminator what steps taken place) := by
    induction steps generalizing taken place with
    | zero => trivial
    | succ steps ih =>
        rw [takeNameFrom]
        split
        · split <;> trivial
        · refine place.ends_take.bind ?_
          rintro ⟨piece, after⟩ ⟨-, rest⟩
          have onward : after.rest <:+ place.rest := ⟨piece, rest⟩
          dsimp only
          split
          · split
            · trivial
            · exact onward
          · refine (ih _ after).mono (fun _ => id) ?_
            exact fun _ later => later.trans onward
  exact (from_ _ _ place).map fun _ => id

end Place

/-! Calm readings. -/

structure Reaches (before after : Scope × Place) : Prop where
  onward : after.2.rest <:+ before.2.rest
  flags : after.1.flags = before.1.flags

theorem Reaches.refl (state : Scope × Place) : Reaches state state :=
  ⟨List.suffix_refl _, rfl⟩

theorem Reaches.trans {before middle after : Scope × Place} (first : Reaches before middle)
    (second : Reaches middle after) : Reaches before after :=
  ⟨second.onward.trans first.onward, second.flags.trans first.flags⟩

def Calm {α : Type} (reading : Reading α) : Prop :=
  ∀ state, Ends Refusal.IsMalformed (fun reached => Reaches state reached.2) (reading.run state)

namespace Calm

variable {α β : Type}

theorem pure (value : α) : Calm (pure value) := fun state => .refl state

theorem bind {reading : Reading α} {next : α → Reading β} (first : Calm reading)
    (second : ∀ value, Calm (next value)) : Calm (reading >>= next) := by
  intro state
  refine (first state).bind ?_
  rintro ⟨value, middle⟩ reached
  exact (second value middle).mono (fun _ => id) fun _ later => reached.trans later

theorem map {reading : Reading α} (calm : Calm reading) (change : α → β) :
    Calm (change <$> reading) := by
  rw [map_eq_pure_bind]
  exact calm.bind fun _ => .pure _

theorem ite {condition : Prop} [Decidable condition] {yes no : Reading α} (first : Calm yes)
    (second : Calm no) : Calm (if condition then yes else no) := by
  split
  · exact first
  · exact second

end Calm

section Readings

open Reading

variable {α β : Type}

theorem calm_place : Calm place := fun state => .refl state

theorem calm_scope : Calm scope := fun state => .refl state

theorem calm_position : Calm position := fun state => .refl state

theorem calm_refuse (fault : Fault) (offset : Nat) : Calm (refuse fault offset : Reading α) :=
  fun _ => trivial

theorem calm_refuseAt (fault : Fault) (position : Nat) :
    Calm (refuseAt fault position : Reading α) :=
  fun _ => trivial

/-- What would follow a refusal does not matter. -/
theorem calm_refused {fault : Fault} {offset : Nat} (next : α → Reading β) :
    Calm (refuse fault offset >>= next) :=
  fun _ => trivial

theorem calm_refusedAt {fault : Fault} {position : Nat} (next : α → Reading β) :
    Calm (refuseAt fault position >>= next) :=
  fun _ => trivial

theorem calm_changeScope {change : Scope → Scope}
    (kept : ∀ scope, (change scope).flags = scope.flags) : Calm (changeScope change) :=
  fun (scope, place) => ⟨List.suffix_refl place.rest, kept scope⟩

theorem calm_lift {attempt : Attempt α}
    (ends : Ends Refusal.IsMalformed (fun _ => True) attempt) : Calm (liftM attempt) :=
  fun state => ends.bind fun _ _ => .refl state

/-! What a reading takes, it takes from its place. -/

theorem run_takePiece (scope : Scope) (place : Place) :
    takePiece.run (scope, place) =
      place.take.map fun (piece, after) => (piece, scope, after) := by
  change Except.bind (Except.bind place.take _) _ = _
  cases place.take <;> rfl

theorem run_takeIf (character : Char) (scope : Scope) (place : Place) :
    (takeIf character).run (scope, place) =
      (place.takeIf character).map fun after? => (after?.isSome, scope, after?.getD place) := by
  change Except.bind (Except.bind (place.takeIf character) _) _ = _
  obtain refusal | (_ | after) := place.takeIf character <;> rfl

theorem run_takeWhile (test : Char → Bool) (count : Nat) (scope : Scope) (place : Place) :
    (takeWhile test count).run (scope, place) =
      (place.takeWhile test count).map fun (characters, after) => (characters, scope, after) := by
  change Except.bind (Except.bind (place.takeWhile test count) _) _ = _
  cases place.takeWhile test count <;> rfl

theorem run_takeName (terminator : Char) (what : String) (scope : Scope) (place : Place) :
    (takeName terminator what).run (scope, place) =
      (place.takeName terminator what).map fun (name, after) => (name, scope, after) := by
  change Except.bind (Except.bind (place.takeName terminator what) _) _ = _
  cases place.takeName terminator what <;> rfl

theorem calm_takePiece : Calm takePiece := by
  rintro ⟨scope, place⟩
  rw [run_takePiece]
  exact place.ends_take.map fun taken rest => ⟨⟨taken.1, rest.2⟩, rfl⟩

theorem calm_takeIf (character : Char) : Calm (takeIf character) := by
  rintro ⟨scope, place⟩
  rw [run_takeIf]
  refine (place.ends_takeIf character).map ?_
  rintro (_ | after) rest
  · exact .refl _
  · exact ⟨⟨[character], rest after rfl⟩, rfl⟩

theorem calm_takeWhile (test : Char → Bool) (count : Nat) : Calm (takeWhile test count) := by
  rintro ⟨scope, place⟩
  rw [run_takeWhile]
  exact (place.ends_takeWhile test count).map fun taken whole => ⟨⟨taken.1, whole.1⟩, rfl⟩

theorem calm_takeName (terminator : Char) (what : String) : Calm (takeName terminator what) := by
  rintro ⟨scope, place⟩
  rw [run_takeName]
  exact (place.ends_takeName terminator what).map fun taken onward => ⟨onward, rfl⟩

theorem calm_takeRequired (fault : Fault) : Calm (takeRequired fault) :=
  calm_place.bind fun _ => .ite (calm_refused _) calm_takePiece

theorem calm_refuseFlag (piece : List Char) (otherwise : String) :
    Calm (refuseFlag piece otherwise : Reading α) := calm_refuse _ _

/-! Escapes. -/

theorem calm_readNamedCharacter : Calm readNamedCharacter := by
  refine (calm_takeIf _).bind fun opened => .ite ?_ (calm_refused _)
  refine (calm_takeName _ _).bind fun name => calm_scope.bind fun scope => ?_
  cases scope.characterNamed? name with
  | none => exact calm_refuse _ _
  | some code => exact .pure code

theorem calm_checkOctal (digits : List Char) : Calm (checkOctal digits) :=
  .ite (calm_refused _) (.pure _)

theorem calm_readPlainEscape (character : Char) : Calm (readPlainEscape character) :=
  .ite (calm_refused _) (.pure _)

theorem calm_checkLookbehind (number : Nat) : Calm (checkLookbehind number) := by
  refine calm_scope.bind fun scope => ?_
  cases scope.lookbehindGroups with
  | none => exact .pure ()
  | some first => exact .ite (calm_refused _) (.ite (calm_refuse _ _) (.pure ()))

theorem calm_readReference (number size : Nat) : Calm (readReference number size) := by
  refine calm_scope.bind fun scope => ?_
  cases scope.closedWidth? number with
  | none => exact calm_refuse _ _
  | some width => exact (calm_checkLookbehind number).bind fun _ => .pure _

theorem calm_readNumberEscape (first : Char) : Calm (readNumberEscape first) := by
  have read (more octal : List Char) : Calm (do
      if !octal.isEmpty then
        return .character (← checkOctal (first :: more ++ octal))
      let number := codeOf 10 (first :: more)
      let size := more.length + 2
      if number < (← scope).nextGroup then readReference number size
      else refuse (.invalidReference number) (size - 1) : Reading Node) := by
    refine .ite ((calm_checkOctal _).bind fun _ => .pure _) (calm_scope.bind fun _ => ?_)
    exact .ite (calm_readReference _ _) (calm_refuse _ _)
  refine (calm_takeWhile _ _).bind fun more => ?_
  exact .ite ((calm_takeWhile _ _).bind (read more)) (read more [])

theorem calm_readRange (first last : List Char) (firstItem lastItem : SetItem) :
    Calm (readRange first last firstItem lastItem) := by
  cases firstItem with
  | character firstCode =>
      cases lastItem with
      | character lastCode => exact .ite (calm_refused _) (.pure _)
      | _ => exact calm_refuse _ _
  | _ => exact calm_refuse _ _

/-! Repetitions. -/

theorem calm_readGreed : Calm readGreed := by
  refine (calm_takeIf _).bind fun isLazy => .ite (.pure _) ?_
  exact (calm_takeIf _).bind fun isPossessive => .ite (.pure _) (.pure _)

theorem calm_readRepetition (bounds : Bounds) (position : Nat) (parts : List Part) :
    Calm (readRepetition bounds position parts) := by
  unfold readRepetition
  split
  · exact calm_refuseAt _ _
  · exact calm_refuseAt _ _
  · exact calm_refuseAt _ _
  · exact calm_readGreed.bind fun _ => .pure _

/-! Groups. -/

theorem calm_readFlagsOff (steps : Nat) (flags : Flags) (letter : FlagLetter) :
    Calm (readFlagsOff steps flags letter) := by
  induction steps generalizing flags letter with
  | zero => exact .pure _
  | succ steps ih =>
      cases letter with
      | locale => exact calm_refuse _ _
      | flag removed =>
          refine .ite (calm_refused _) ((calm_takeRequired _).bind fun piece => .ite (.pure _) ?_)
          cases flagLetter? piece with
          | none => exact calm_refuseFlag _ _
          | some letter => exact ih _ letter

theorem calm_skipComment (opening steps : Nat) : Calm (skipComment opening steps) := by
  induction steps with
  | zero => exact .pure ()
  | succ steps ih =>
      refine calm_place.bind fun place => .ite (calm_refusedAt _) ?_
      exact calm_takePiece.bind fun piece => .ite ih (.pure ())

theorem calm_skipLine (steps : Nat) : Calm (skipLine steps) := by
  induction steps with
  | zero => exact .pure ()
  | succ steps ih =>
      refine calm_place.bind fun place => .ite (.pure ()) ?_
      exact calm_takePiece.bind fun piece => .ite ih (.pure ())

theorem calm_checkGroupName (name : String) : Calm (checkGroupName name) :=
  .ite (.pure ()) (calm_refuse _ _)

theorem calm_readNamedReference : Calm readNamedReference := by
  refine (calm_takeName _ _).bind fun name => (calm_checkGroupName name).bind fun _ =>
    calm_scope.bind fun scope => ?_
  cases scope.groupNames.lookup name with
  | none => exact calm_refuse _ _
  | some number => exact calm_readReference _ _

theorem calm_readCondition : Calm readCondition := by
  refine (calm_takeName _ _).bind fun name => .ite ?_ ?_
  · refine calm_scope.bind fun scope => ?_
    cases scope.groupNames.lookup name with
    | none => exact calm_refuse _ _
    | some number => exact .pure number
  · split
    · exact calm_refuse _ _
    · refine .ite (calm_refused _) (calm_position.bind fun position => ?_)
      refine (calm_changeScope fun scope => ?_).bind fun _ => .pure _
      split <;> rfl
    · exact calm_refuse _ _

theorem calm_openGroup (name : Option String) : Calm (openGroup name) := by
  refine calm_scope.bind fun scope => ?_
  have opened : Calm (do
      changeScope fun scope => { scope with groupWidths := scope.groupWidths ++ [none] }
      return scope.nextGroup) :=
    (calm_changeScope (by exact fun _ => rfl)).bind fun _ => .pure _
  cases name with
  | none => exact opened
  | some name =>
      dsimp only
      cases scope.groupNames.lookup name with
      | some earlier => exact calm_refused _
      | none => exact (calm_changeScope (by exact fun _ => rfl)).bind fun _ => opened

theorem calm_closeGroup (number : Nat) (width : Width) : Calm (closeGroup number width) :=
  calm_changeScope fun _ => rfl

theorem calm_closeParenthesis (opening : Nat) : Calm (closeParenthesis opening) :=
  (calm_takeIf _).bind fun _ => .ite (.pure ()) (calm_refuseAt _ _)

theorem calm_readNamedOpening : Calm readNamedOpening := by
  refine (calm_takeIf _).bind fun isNamed => .ite ?_ ?_
  · exact (calm_takeName _ _).bind fun name => (calm_checkGroupName name).bind fun _ => .pure _
  · refine (calm_takeIf _).bind fun isReference => .ite ?_ ?_
    · exact calm_readNamedReference.bind fun _ => .pure _
    · exact (calm_takeRequired _).bind fun _ => calm_refuse _ _

theorem calm_readLookbehindOpening : Calm readLookbehindOpening :=
  (calm_takeRequired _).bind fun _ => .ite (.pure _) (.ite (.pure _) (calm_refuse _ _))

end Readings

theorem Node.ends_checkUse (template : Bool) (node : Node) :
    Ends Refusal.IsMalformed (fun _ => True) (node.checkUse template) := by
  induction node with
  | group _ _ _ body ih => exact ih
  | atomic body ih => exact ih
  | look behind _ body ih =>
      simp only [Node.checkUse]
      split
      · split
        · trivial
        · split
          · trivial
          · exact ih
      · exact ih
  | conditional _ yes no first second => exact first.bind fun _ _ => second
  | repeated _ _ greed body ih =>
      rw [Node.checkUse]
      split
      · trivial
      · exact ih
  | sequence one other first second => exact first.bind fun _ _ => second
  | choice left right first second => exact first.bind fun _ _ => second
  | _ => trivial

end LedgerRules.Pattern
