import AdaptiveAutosar.Core.Optional
import AdaptiveAutosar.Foundations.Transition

/-! # Results

`ara::core::Result` on two Optionals: every sequence of constructions, assignments, swaps and emplacements of
Results under names.
-/

namespace AdaptiveAutosar.Core
open Foundations
set_option autoImplicit false

/-- The Results of a program. `moved` are those moved from since they got what they hold; no operation reads
it. -/
structure Results (ι T E : Type) where
  alive : ι → Bool
  values : Optionals ι T
  errors : Optionals ι E
  moved : ι → Bool

/-- The first name is the object that an operation is called on. -/
inductive ResultCall (ι T E : Type) where
  | ofValue (self : ι) (value : T)
  | ofError (self : ι) (error : E)
  | copyConstruct (self other : ι)
  | moveConstruct (self other : ι)
  | copyAssign (self other : ι)
  | moveAssign (self other : ι)
  | swap (self other : ι)
  | emplaceValue (self : ι) (value : T)
  | emplaceError (self : ι) (error : E)

namespace Results
variable {ι T E : Type}

def empty : Results ι T E := ⟨fun _ => false, fun _ => none, fun _ => none, fun _ => false⟩

def hasValue (results : Results ι T E) (self : ι) : Bool := (results.values self).isSome

/-! ## The operations -/

variable [DecidableEq ι]

def ofValue (results : Results ι T E) (self : ι) (value : T) : Results ι T E :=
  { results with values := results.values.construct self value, errors := results.errors.constructEmpty self }

def ofError (results : Results ι T E) (self : ι) (error : E) : Results ι T E :=
  { results with values := results.values.constructEmpty self, errors := results.errors.construct self error }

/-- The Optionals of a Result before the body of a constructor. -/
def constructEmpty (results : Results ι T E) (self : ι) : Results ι T E :=
  { results with values := results.values.constructEmpty self, errors := results.errors.constructEmpty self }

def copyConstruct (results : Results ι T E) (self other : ι) : Results ι T E :=
  let results := results.constructEmpty self
  if results.hasValue other then { results with values := results.values.copyAssign self other }
  else { results with errors := results.errors.copyAssign self other }

def moveConstruct (results : Results ι T E) (self other : ι) : Results ι T E :=
  let results := results.constructEmpty self
  if results.hasValue other then { results with values := results.values.moveAssign self other }
  else { results with errors := results.errors.moveAssign self other }

/-- `operator=(Result const &)`. -/
def copyAssign (results : Results ι T E) (self other : ι) : Results ι T E :=
  if results.hasValue other then
    { results with values := results.values.copyAssign self other, errors := results.errors.reset self }
  else { results with errors := results.errors.copyAssign self other, values := results.values.reset self }

/-- `operator=(Result &&)`. -/
def moveAssign (results : Results ι T E) (self other : ι) : Results ι T E :=
  if results.hasValue other then
    { results with values := results.values.moveAssign self other, errors := results.errors.reset self }
  else { results with errors := results.errors.moveAssign self other, values := results.values.reset self }

def emplaceValue (results : Results ι T E) (self : ι) (value : T) : Results ι T E :=
  { results with values := results.values.assign self value, errors := results.errors.reset self }

def emplaceError (results : Results ι T E) (self : ι) (error : E) : Results ι T E :=
  { results with errors := results.errors.assign self error, values := results.values.reset self }

def swap (results : Results ι T E) (self other : ι) : Results ι T E :=
  if results.hasValue self ∧ results.hasValue other then
    { results with values := results.values.swap self other }
  else if results.hasValue self ∧ ¬ results.hasValue other then
    { results with
      errors := results.errors.moveAssign self other, values := results.values.moveAssign other self }
  else if ¬ results.hasValue self ∧ results.hasValue other then
    { results with
      values := results.values.moveAssign self other, errors := results.errors.moveAssign other self }
  else { results with errors := results.errors.swap self other }

def call (results : Results ι T E) : ResultCall ι T E → Results ι T E
  | .ofValue self value => results.ofValue self value
  | .ofError self error => results.ofError self error
  | .copyConstruct self other => results.copyConstruct self other
  | .moveConstruct self other => results.moveConstruct self other
  | .copyAssign self other => results.copyAssign self other
  | .moveAssign self other => results.moveAssign self other
  | .swap self other => results.swap self other
  | .emplaceValue self value => results.emplaceValue self value
  | .emplaceError self error => results.emplaceError self error

end Results

namespace ResultCall
variable {ι T E : Type}

/-- The object that the call constructs. -/
def constructs : ResultCall ι T E → Option ι
  | .ofValue self _ | .ofError self _ | .copyConstruct self _ | .moveConstruct self _ => some self
  | _ => none

/-- The objects that are there before the call. -/
def uses : ResultCall ι T E → List ι
  | .ofValue _ _ | .ofError _ _ => []
  | .copyConstruct _ other | .moveConstruct _ other => [other]
  | .copyAssign self other | .moveAssign self other | .swap self other => [self, other]
  | .emplaceValue self _ | .emplaceError self _ => [self]

/-- The target and the source of a construction or an assignment from a Result. -/
def transfers : ResultCall ι T E → Option (ι × ι)
  | .copyConstruct self other | .moveConstruct self other | .copyAssign self other | .moveAssign self other =>
    some (self, other)
  | _ => none

/-- The objects that the call may change. -/
def changes : ResultCall ι T E → List ι
  | .ofValue self _ | .ofError self _ | .copyConstruct self _ | .copyAssign self _ | .emplaceValue self _
  | .emplaceError self _ => [self]
  | .moveConstruct self other | .moveAssign self other | .swap self other => [self, other]

variable [DecidableEq ι]

/-- The Results that have been moved from behind the call. What a Result has been assigned, it holds; a swap
takes along what it exchanges. -/
def movedBehind (moved : ι → Bool) : ResultCall ι T E → ι → Bool
  | .ofValue self _ | .ofError self _ | .copyConstruct self _ | .copyAssign self _ | .emplaceValue self _
  | .emplaceError self _ => Function.update moved self false
  | .moveConstruct self other | .moveAssign self other => Function.update (Function.update moved other true) self false
  | .swap self other => Function.update (Function.update moved self (moved other)) other (moved self)

/-- The objects behind the call. -/
def aliveBehind (alive : ι → Bool) (call : ResultCall ι T E) : ι → Bool :=
  match call.constructs with
  | some self => Function.update alive self true
  | none => alive

end ResultCall

namespace Results
variable {ι T E : Type} [DecidableEq ι]

/-- A call constructs a new object and uses the ones that are there. -/
def Possible (results : Results ι T E) (call : ResultCall ι T E) : Prop :=
  (∀ self ∈ call.constructs, results.alive self = false) ∧ ∀ name ∈ call.uses, results.alive name = true

instance (results : Results ι T E) (call : ResultCall ι T E) : Decidable (results.Possible call) :=
  inferInstanceAs (Decidable (_ ∧ _))

def step (results : Results ι T E) (call : ResultCall ι T E) : Except Unit (Unit × Results ι T E) :=
  if results.Possible call then
    .ok ((), { results.call call with
      alive := call.aliveBehind results.alive, moved := call.movedBehind results.moved })
  else .error ()

/-! ## What the operations should do -/

/-- Whether there is a value, and whether there is an error. -/
def held (results : Results ι T E) (self : ι) : Option T × Option E := (results.values self, results.errors self)

/-- Exactly one of the two is there, and `HasValue` tells which. -/
def Decided (results : Results ι T E) (self : ι) : Prop :=
  if results.hasValue self then ∃ value, results.held self = (some value, none)
  else ∃ error, results.held self = (none, some error)

/-- Every Result that has not been moved from holds a value or an error. -/
def Whole (results : Results ι T E) : Prop :=
  ∀ self, results.alive self = true → results.moved self = false → results.Decided self

/-- What the objects hold that a call is about. -/
def Meant (before : Results ι T E) (call : ResultCall ι T E) (after : Results ι T E) : Prop :=
  match call with
  | .ofValue self value | .emplaceValue self value => after.held self = (some value, none)
  | .ofError self error | .emplaceError self error => after.held self = (none, some error)
  | .copyConstruct self other | .moveConstruct self other | .copyAssign self other | .moveAssign self other =>
    after.held self = before.held other
  | .swap self other => after.held self = before.held other ∧ after.held other = before.held self

/-- A call does what it should, changes no other object, and leaves every Result whole. -/
structure Serves (before : Results ι T E) (call : ResultCall ι T E) (after : Results ι T E) : Prop where
  meant : before.Meant call after
  keeps : ∀ name, name ∉ call.changes → after.held name = before.held name
  whole : after.Whole

/-- No object is assigned to itself, and nothing is taken from an object that has been moved from. -/
def Allowed (results : Results ι T E) (call : ResultCall ι T E) : Prop :=
  ∀ transfer ∈ call.transfers, transfer.1 ≠ transfer.2 ∧ results.moved transfer.2 = false

instance (results : Results ι T E) (call : ResultCall ι T E) : Decidable (results.Allowed call) :=
  inferInstanceAs (Decidable (∀ transfer ∈ call.transfers, _))

/-! ## What the objects hold behind an operation -/

/-- The contents behind a call, with the source of a move left empty. -/
def heldBehind (held : ι → Option T × Option E) : ResultCall ι T E → ι → Option T × Option E
  | .ofValue self value | .emplaceValue self value => Function.update held self (some value, none)
  | .ofError self error | .emplaceError self error => Function.update held self (none, some error)
  | .copyConstruct self other | .copyAssign self other => Function.update held self (held other)
  | .moveConstruct self other | .moveAssign self other =>
    Function.update (Function.update held self (held other)) other (none, none)
  | .swap self other => Function.update (Function.update held self (held other)) other (held self)

/-- No object has both. -/
def Apart (results : Results ι T E) : Prop := ∀ self, results.hasValue self = true → results.errors self = none

variable {results : Results ι T E} {self other : ι}

omit [DecidableEq ι] in
theorem value_none (without : ¬ results.hasValue self = true) : results.values self = none := by
  unfold hasValue at without
  cases value : results.values self with
  | none => rfl
  | some value =>
    rw [value] at without
    exact absurd rfl without

omit [DecidableEq ι] in
theorem held_apply (self : ι) : results.held self = (results.values self, results.errors self) := rfl

theorem update_of_none {α : Type} {optionals : Optionals ι α} {name : ι} (empty : optionals name = none) :
    Function.update optionals name none = optionals := by
  rw [← empty]
  exact Function.update_eq_self name optionals

theorem held_update {after : Results ι T E} {content : Option T × Option E}
    (values : after.values = Function.update results.values self content.1)
    (errors : after.errors = Function.update results.errors self content.2) :
    after.held = Function.update results.held self content := by
  funext name
  rw [held_apply, values, errors, Function.update_apply, Function.update_apply, Function.update_apply]
  by_cases here : name = self
  · rw [if_pos here, if_pos here, if_pos here]
  · rw [if_neg here, if_neg here, if_neg here]
    rfl

theorem held_update_twice {after : Results ι T E} {content content' : Option T × Option E}
    (values : after.values = Function.update (Function.update results.values self content.1) other content'.1)
    (errors : after.errors = Function.update (Function.update results.errors self content.2) other content'.2) :
    after.held = Function.update (Function.update results.held self content) other content' := by
  have first : ({ after with
      values := Function.update results.values self content.1,
      errors := Function.update results.errors self content.2 } : Results ι T E).held =
        Function.update results.held self content := held_update rfl rfl
  rw [← first]
  exact held_update values errors

theorem copyAssign_held (apart : results.Apart) (different : self ≠ other) :
    (results.copyAssign self other).held = Function.update results.held self (results.held other) := by
  unfold copyAssign
  by_cases value : results.hasValue other = true
  · rw [if_pos value]
    apply held_update (Optionals.copyAssign_of_ne _ different)
    rw [held_apply, apart other value]
    rfl
  · rw [if_neg value]
    apply held_update ?_ (Optionals.copyAssign_of_ne _ different)
    rw [held_apply, value_none value]
    rfl

theorem moveAssign_held (apart : results.Apart) (different : self ≠ other) :
    (results.moveAssign self other).held =
      Function.update (Function.update results.held self (results.held other)) other (none, none) := by
  unfold moveAssign
  by_cases value : results.hasValue other = true
  · have empty : results.errors.reset self other = none := by
      unfold Optionals.reset
      rw [Function.update_of_ne different.symm]
      exact apart other value
    rw [if_pos value]
    apply held_update_twice (Optionals.moveAssign_of_ne _ different)
    rw [held_apply, apart other value]
    exact (update_of_none empty).symm
  · have empty : results.values.reset self other = none := by
      unfold Optionals.reset
      rw [Function.update_of_ne different.symm]
      exact value_none value
    rw [if_neg value]
    apply held_update_twice ?_ (Optionals.moveAssign_of_ne _ different)
    rw [held_apply, value_none value]
    exact (update_of_none empty).symm

/-- A swap exchanges the contents whatever they are, also with itself. -/
theorem swap_held (apart : results.Apart) :
    (results.swap self other).held =
      Function.update (Function.update results.held self (results.held other)) other (results.held self) := by
  unfold swap
  by_cases mine : results.hasValue self = true
  · by_cases its : results.hasValue other = true
    · rw [if_pos ⟨mine, its⟩]
      apply held_update_twice (Optionals.swap_eq _)
      rw [held_apply, held_apply, apart self mine, apart other its]
      dsimp only
      rw [update_of_none (apart self mine), update_of_none (apart other its)]
    · have different : self ≠ other := fun same => its (same ▸ mine)
      rw [if_neg fun both => its both.2, if_pos ⟨mine, its⟩]
      apply held_update_twice
      · dsimp only
        rw [Optionals.moveAssign_of_ne _ different.symm, held_apply other, value_none its]
        exact Function.update_comm different.symm _ _ _
      · dsimp only
        rw [Optionals.moveAssign_of_ne _ different, held_apply self, apart self mine]
        rfl
  · by_cases its : results.hasValue other = true
    · have different : self ≠ other := fun same => mine (same ▸ its)
      rw [if_neg fun both => mine both.1, if_neg fun both => mine both.1, if_pos ⟨mine, its⟩]
      apply held_update_twice
      · dsimp only
        rw [Optionals.moveAssign_of_ne _ different, held_apply self, value_none mine]
        rfl
      · dsimp only
        rw [Optionals.moveAssign_of_ne _ different.symm, held_apply other, apart other its]
        exact Function.update_comm different.symm _ _ _
    · rw [if_neg fun both => mine both.1, if_neg fun both => mine both.1, if_neg fun both => its both.2]
      apply held_update_twice ?_ (Optionals.swap_eq _)
      rw [held_apply, held_apply, value_none mine, value_none its]
      dsimp only
      rw [update_of_none (value_none mine), update_of_none (value_none its)]

theorem copyAssign_self_held : (results.copyAssign self self).held self = (none, none) := by
  have reset_value : results.values.reset self self = none := Function.update_self _ _ _
  have reset_error : results.errors.reset self self = none := Function.update_self _ _ _
  unfold copyAssign
  by_cases value : results.hasValue self = true
  · rw [if_pos value, held_apply, Optionals.copyAssign_self]
    exact Prod.ext reset_value reset_error
  · rw [if_neg value, held_apply, Optionals.copyAssign_self]
    exact Prod.ext reset_value reset_error

theorem moveAssign_self_held : (results.moveAssign self self).held self = (none, none) := by
  have reset_value : results.values.reset self self = none := Function.update_self _ _ _
  have reset_error : results.errors.reset self self = none := Function.update_self _ _ _
  unfold moveAssign
  by_cases value : results.hasValue self = true
  · rw [if_pos value, held_apply, Optionals.moveAssign_self]
    exact Prod.ext reset_value reset_error
  · rw [if_neg value, held_apply, Optionals.moveAssign_self]
    exact Prod.ext reset_value reset_error

theorem constructEmpty_apart (apart : results.Apart) (self : ι) : (results.constructEmpty self).Apart := by
  intro name value
  change Function.update results.errors self none name = none
  rw [Function.update_apply]
  split_ifs with here
  · rfl
  · apply apart name
    change (Function.update results.values self none name).isSome = true at value
    rw [Function.update_of_ne here] at value
    exact value

theorem constructEmpty_held (self : ι) :
    (results.constructEmpty self).held = Function.update results.held self (none, none) := held_update rfl rfl

theorem copyConstruct_held (apart : results.Apart) (different : self ≠ other) :
    (results.copyConstruct self other).held = Function.update results.held self (results.held other) := by
  have assigned : results.copyConstruct self other = (results.constructEmpty self).copyAssign self other := by
    have value : (results.constructEmpty self).values.reset self = (results.constructEmpty self).values :=
      Function.update_idem _ _ _
    have error : (results.constructEmpty self).errors.reset self = (results.constructEmpty self).errors :=
      Function.update_idem _ _ _
    unfold copyConstruct copyAssign
    rw [value, error]
  rw [assigned, copyAssign_held (constructEmpty_apart apart self) different, constructEmpty_held,
    Function.update_idem, Function.update_of_ne different.symm]

theorem moveConstruct_held (apart : results.Apart) (different : self ≠ other) :
    (results.moveConstruct self other).held =
      Function.update (Function.update results.held self (results.held other)) other (none, none) := by
  have assigned : results.moveConstruct self other = (results.constructEmpty self).moveAssign self other := by
    have value : (results.constructEmpty self).values.reset self = (results.constructEmpty self).values :=
      Function.update_idem _ _ _
    have error : (results.constructEmpty self).errors.reset self = (results.constructEmpty self).errors :=
      Function.update_idem _ _ _
    unfold moveConstruct moveAssign
    rw [value, error]
  rw [assigned, moveAssign_held (constructEmpty_apart apart self) different, constructEmpty_held,
    Function.update_idem, Function.update_of_ne different.symm]

/-- Every call between different objects has the contents it should have. -/
theorem call_held (apart : results.Apart) (call : ResultCall ι T E)
    (different : ∀ transfer ∈ call.transfers, transfer.1 ≠ transfer.2) :
    (results.call call).held = heldBehind results.held call := by
  cases call with
  | ofValue self value => exact held_update rfl rfl
  | ofError self error => exact held_update rfl rfl
  | copyConstruct self other => exact copyConstruct_held apart (different _ rfl)
  | moveConstruct self other => exact moveConstruct_held apart (different _ rfl)
  | copyAssign self other => exact copyAssign_held apart (different _ rfl)
  | moveAssign self other => exact moveAssign_held apart (different _ rfl)
  | swap self other => exact swap_held apart
  | emplaceValue self value => exact held_update (Optionals.assign_eq _ value) rfl
  | emplaceError self error => exact held_update rfl (Optionals.assign_eq _ error)

/-- The contents of a call that has its own target as its source. -/
theorem transfer_self_held {call : ResultCall ι T E} (transfer : call.transfers = some (self, self))
    (possible : results.Possible call) : (results.call call).held self = (none, none) := by
  cases call with
  | copyAssign target source =>
    cases transfer
    exact copyAssign_self_held
  | moveAssign target source =>
    cases transfer
    exact moveAssign_self_held
  | copyConstruct target source | moveConstruct target source =>
    cases transfer
    have fresh := possible.1 self rfl
    have there := possible.2 self List.mem_cons_self
    rw [fresh] at there
    cases there
  | ofValue _ _ | ofError _ _ | swap _ _ | emplaceValue _ _ | emplaceError _ _ => cases transfer

/-! ## One call -/

/-- Exactly one of the two. -/
def single (content : Option T × Option E) : Prop :=
  (∃ value, content = (some value, none)) ∨ ∃ error, content = (none, some error)

omit [DecidableEq ι] in
theorem decided_iff (results : Results ι T E) (self : ι) : results.Decided self ↔ single (results.held self) := by
  unfold Decided single
  constructor
  · intro decided
    split_ifs at decided
    · exact .inl decided
    · exact .inr decided
  · rintro (⟨value, held⟩ | ⟨error, held⟩)
    · have here : results.hasValue self = true := by
        unfold hasValue
        rw [(Prod.mk.inj held).1]
        rfl
      rw [if_pos here]
      exact ⟨value, held⟩
    · have absent : ¬ results.hasValue self = true := by
        unfold hasValue
        rw [(Prod.mk.inj held).1]
        exact Bool.noConfusion
      rw [if_neg absent]
      exact ⟨error, held⟩

/-- An object holds at most one of the two, and a Result one, or nothing once it has been moved from. -/
structure Fine (alive moved : Bool) (content : Option T × Option E) : Prop where
  apart : single content ∨ content = (none, none)
  whole : alive = true → moved = false → single content
  spent : alive = true → moved = true → content = (none, none)

theorem fine_single (alive : Bool) {content : Option T × Option E} (one : single content) : Fine alive false content :=
  ⟨.inl one, fun _ _ => one, fun _ moved => by cases moved⟩

theorem fine_spent (alive : Bool) : Fine alive true ((none, none) : Option T × Option E) :=
  ⟨.inr rfl, fun _ whole => (by cases whole), fun _ _ => rfl⟩

/-- What holds before every call. -/
def Sound (results : Results ι T E) : Prop :=
  ∀ name, Fine (results.alive name) (results.moved name) (results.held name)

omit [DecidableEq ι] in
theorem empty_sound : (empty : Results ι T E).Sound := by
  intro name
  exact ⟨.inr rfl, fun alive => (by cases alive), fun alive => by cases alive⟩

theorem not_single_none : ¬ single ((none, none) : Option T × Option E) := by
  rintro (⟨value, held⟩ | ⟨error, held⟩)
  · cases held
  · cases held

omit [DecidableEq ι] in
theorem Sound.apart (sound : results.Sound) : results.Apart := by
  intro self value
  rcases (sound self).apart with (⟨_, held⟩ | ⟨error, held⟩) | held
  · exact (Prod.mk.inj held).2
  · unfold hasValue at value
    rw [(Prod.mk.inj held).1] at value
    cases value
  · exact (Prod.mk.inj held).2

/-- The Results behind a call. -/
def behind (results : Results ι T E) (call : ResultCall ι T E) : Results ι T E :=
  { results.call call with alive := call.aliveBehind results.alive, moved := call.movedBehind results.moved }

theorem step_ok {call : ResultCall ι T E} {after : Results ι T E} (taken : results.step call = .ok ((), after)) :
    results.Possible call ∧ after = results.behind call := by
  unfold step at taken
  split_ifs at taken with possible
  cases taken
  exact ⟨possible, rfl⟩

omit [DecidableEq ι] in
theorem source_alive {call : ResultCall ι T E} (possible : results.Possible call)
    (transfer : call.transfers = some (self, other)) : results.alive other = true := by
  cases call with
  | copyConstruct _ _ | moveConstruct _ _ =>
    cases transfer
    exact possible.2 other List.mem_cons_self
  | copyAssign _ _ | moveAssign _ _ =>
    cases transfer
    exact possible.2 other (List.mem_cons_of_mem _ List.mem_cons_self)
  | ofValue _ _ | ofError _ _ | swap _ _ | emplaceValue _ _ | emplaceError _ _ => cases transfer

/-- Its target is there behind the call and has not been moved from. -/
theorem target_behind {call : ResultCall ι T E} (possible : results.Possible call)
    (transfer : call.transfers = some (self, other)) :
    (results.behind call).alive self = true ∧ (results.behind call).moved self = false := by
  cases call with
  | copyConstruct _ _ | moveConstruct _ _ =>
    cases transfer
    exact ⟨Function.update_self _ _ _, Function.update_self _ _ _⟩
  | copyAssign _ _ | moveAssign _ _ =>
    cases transfer
    exact ⟨possible.2 self List.mem_cons_self, Function.update_self _ _ _⟩
  | ofValue _ _ | ofError _ _ | swap _ _ | emplaceValue _ _ | emplaceError _ _ => cases transfer

theorem behind_held (sound : results.Sound) {call : ResultCall ι T E} (allowed : results.Allowed call) :
    (results.behind call).held = heldBehind results.held call :=
  call_held sound.apart call fun transfer there => (allowed transfer there).1

/-- A call leaves the objects alone that it does not change. -/
theorem behind_of_not_mem {call : ResultCall ι T E} {name : ι} (outside : name ∉ call.changes) (alive moved : ι → Bool)
    (held : ι → Option T × Option E) : call.aliveBehind alive name = alive name ∧
      call.movedBehind moved name = moved name ∧ heldBehind held call name = held name := by
  cases call with
  | ofValue self _ | ofError self _ | copyConstruct self _ =>
    have other : name ≠ self := fun same => outside (List.mem_singleton.mpr same)
    exact ⟨Function.update_of_ne other _ _, Function.update_of_ne other _ _, Function.update_of_ne other _ _⟩
  | copyAssign self _ | emplaceValue self _ | emplaceError self _ =>
    have other : name ≠ self := fun same => outside (List.mem_singleton.mpr same)
    exact ⟨rfl, Function.update_of_ne other _ _, Function.update_of_ne other _ _⟩
  | moveConstruct self source | moveAssign self source | swap self source =>
    have target : name ≠ self := fun same => outside (same ▸ List.mem_cons_self)
    have other : name ≠ source := fun same => outside (same ▸ List.mem_cons_of_mem _ List.mem_cons_self)
    refine ⟨?_, ?_, (Function.update_of_ne other _ _).trans (Function.update_of_ne target _ _)⟩
    · first
        | exact Function.update_of_ne target _ _
        | rfl
    · first
        | exact (Function.update_of_ne target _ _).trans (Function.update_of_ne other _ _)
        | exact (Function.update_of_ne other _ _).trans (Function.update_of_ne target _ _)

omit [DecidableEq ι] in
/-- What an allowed call takes from its source is one of the two. -/
theorem source_single (sound : results.Sound) {call : ResultCall ι T E} (possible : results.Possible call)
    (allowed : results.Allowed call) (transfer : call.transfers = some (self, other)) :
    single (results.held other) :=
  (sound other).whole (source_alive possible transfer) (allowed _ transfer).2

theorem behind_sound (sound : results.Sound) {call : ResultCall ι T E} (possible : results.Possible call)
    (allowed : results.Allowed call) : (results.behind call).Sound := by
  intro name
  rw [behind_held sound allowed]
  by_cases changed : name ∈ call.changes
  · cases call with
    | ofValue self value | emplaceValue self value =>
      cases List.mem_singleton.mp changed
      change Fine _ (Function.update results.moved name false name) (Function.update results.held name _ name)
      rw [Function.update_self, Function.update_self]
      exact fine_single _ (.inl ⟨value, rfl⟩)
    | ofError self error | emplaceError self error =>
      cases List.mem_singleton.mp changed
      change Fine _ (Function.update results.moved name false name) (Function.update results.held name _ name)
      rw [Function.update_self, Function.update_self]
      exact fine_single _ (.inr ⟨error, rfl⟩)
    | copyConstruct self source | copyAssign self source =>
      cases List.mem_singleton.mp changed
      change Fine _ (Function.update results.moved name false name) (Function.update results.held name _ name)
      rw [Function.update_self, Function.update_self]
      exact fine_single _ (source_single sound possible allowed rfl)
    | moveConstruct self source | moveAssign self source =>
      have different : self ≠ source := (allowed _ rfl).1
      change Fine _ (Function.update (Function.update results.moved source true) self false name)
        (Function.update (Function.update results.held self _) source (none, none) name)
      rcases List.mem_cons.mp changed with rfl | changed
      · rw [Function.update_self, Function.update_of_ne different, Function.update_self]
        exact fine_single _ (source_single sound possible allowed rfl)
      · cases List.mem_singleton.mp changed
        rw [Function.update_of_ne different.symm, Function.update_self, Function.update_self]
        exact fine_spent _
    | swap self other =>
      have alive : results.alive self = results.alive other :=
        (possible.2 self List.mem_cons_self).trans
          (possible.2 other (List.mem_cons_of_mem _ List.mem_cons_self)).symm
      change Fine (results.alive name)
        (Function.update (Function.update results.moved self (results.moved other)) other (results.moved self) name)
        (Function.update (Function.update results.held self (results.held other)) other (results.held self) name)
      by_cases last : name = other
      · subst last
        rw [Function.update_self, Function.update_self, ← alive]
        exact sound self
      · have first : name = self := (List.mem_cons.mp changed).resolve_right fun rest =>
          last (List.mem_singleton.mp rest)
        subst first
        rw [Function.update_of_ne last, Function.update_of_ne last, Function.update_self, Function.update_self, alive]
        exact sound other
  · obtain ⟨alive, moved, held⟩ := behind_of_not_mem changed results.alive results.moved results.held
    rw [held]
    change Fine (call.aliveBehind results.alive name) (call.movedBehind results.moved name) _
    rw [alive, moved]
    exact sound name

/-- The contents of a call between different objects are the ones it should have. -/
theorem heldBehind_meant {call : ResultCall ι T E} (different : ∀ transfer ∈ call.transfers, transfer.1 ≠ transfer.2)
    {after : Results ι T E} (contents : after.held = heldBehind results.held call) : results.Meant call after := by
  unfold Meant
  rw [contents]
  cases call with
  | ofValue _ _ | ofError _ _ | copyConstruct _ _ | copyAssign _ _ | emplaceValue _ _ | emplaceError _ _ =>
    exact Function.update_self _ _ _
  | moveConstruct self source | moveAssign self source =>
    exact (Function.update_of_ne (different _ rfl) _ _).trans (Function.update_self _ _ _)
  | swap self other =>
    refine ⟨?_, Function.update_self _ _ _⟩
    by_cases same : self = other
    · subst same
      exact Function.update_self _ _ _
    · exact (Function.update_of_ne same _ _).trans (Function.update_self _ _ _)

omit [DecidableEq ι] in
theorem Sound.whole (sound : results.Sound) : results.Whole := by
  intro self alive moved
  rw [decided_iff]
  exact (sound self).whole alive moved

theorem behind_serves (sound : results.Sound) {call : ResultCall ι T E} (possible : results.Possible call)
    (allowed : results.Allowed call) : results.Serves call (results.behind call) where
  meant := heldBehind_meant (fun transfer there => (allowed transfer there).1) (behind_held sound allowed)
  keeps := by
    intro name outside
    rw [behind_held sound allowed]
    exact (behind_of_not_mem outside results.alive results.moved results.held).2.2
  whole := (behind_sound sound possible allowed).whole

/-- What is assigned to itself or taken from an object that has been moved from leaves a Result without either. -/
theorem behind_not_serves (sound : results.Sound) {call : ResultCall ι T E} (possible : results.Possible call)
    (refused : ¬ results.Allowed call) : ¬ results.Serves call (results.behind call) := by
  intro serves
  unfold Allowed at refused
  push Not at refused
  obtain ⟨⟨self, other⟩, transfer, spent⟩ := refused
  obtain ⟨alive, moved⟩ := target_behind possible transfer
  have one := (decided_iff _ _).mp (serves.whole self alive moved)
  have nothing : (results.call call).held self = (none, none) := by
    by_cases same : self = other
    · subst same
      exact transfer_self_held transfer possible
    · have source := (sound other).spent (source_alive possible transfer)
        (eq_true_of_ne_false (spent same))
      have meant := serves.meant
      unfold Meant at meant
      cases call with
      | copyConstruct _ _ | moveConstruct _ _ | copyAssign _ _ | moveAssign _ _ =>
        cases transfer
        exact meant.trans source
      | ofValue _ _ | ofError _ _ | swap _ _ | emplaceValue _ _ | emplaceError _ _ => cases transfer
  exact not_single_none (nothing ▸ one)

/-! ## Runs -/

/-- In every run of calls, every call does what it should and leaves every Result that has not been moved from with
exactly one of a value and an error, exactly when no object is assigned to itself and nothing is taken from an
object that has been moved from. -/
theorem calls_serve_iff {trace : List (Taken (Results ι T E) (ResultCall ι T E) Unit)}
    (run : Run step empty trace results) :
    (∀ taken ∈ trace, ∀ after, taken.before.step taken.input = .ok (taken.output, after) →
        taken.before.Serves taken.input after) ↔ Run.Every Allowed trace := by
  apply Run.all_iff_allowed empty_sound ?_ ?_ run
  · intro before call output after sound allowed taken
    obtain ⟨possible, rfl⟩ := step_ok taken
    exact behind_sound sound possible allowed
  · intro before call output after sound taken
    rw [Run.forall_after_iff taken]
    obtain ⟨possible, rfl⟩ := step_ok taken
    constructor
    · intro serves
      by_contra refused
      exact behind_not_serves sound possible refused serves
    · exact behind_serves sound possible

/-- A value and an error are copied, swapped, moved away and emplaced again. -/
def sampleCalls : List (ResultCall ℕ Bool ℕ) :=
  [.ofValue 0 true, .ofError 1 7, .copyConstruct 2 1, .swap 0 2, .moveAssign 1 2, .emplaceError 2 5, .copyAssign 0 1,
    .swap 0 0]

theorem calls_serve_iff_sample : ∃ trace results,
    Run.play step [] empty sampleCalls = .ok (trace, results) ∧
      (∀ taken ∈ trace, ∀ after, taken.before.step taken.input = .ok (taken.output, after) →
        taken.before.Serves taken.input after) ∧
      results.held 0 = (some true, none) ∧ results.held 1 = (some true, none) ∧ results.held 2 = (none, some 5) := by
  obtain ⟨trace, results, played, every, held⟩ : ∃ trace results,
      Run.play step [] empty sampleCalls = .ok (trace, results) ∧ Run.Every Allowed trace ∧
        results.held 0 = (some true, none) ∧ results.held 1 = (some true, none) ∧
        results.held 2 = (none, some 5) := ⟨_, _, rfl, by decide, by decide⟩
  exact ⟨trace, results, played, (calls_serve_iff (Run.of_play .start played)).mpr every, held⟩

/-- A Result that is assigned to itself loses its value, and one that is moved to itself too. -/
theorem not_always_serve_calls :
    (∃ trace results, Run.play step [] empty [.ofValue 0 true, .copyAssign 0 0] = .ok (trace, results) ∧
        results.moved 0 = false ∧ results.held 0 = ((none, none) : Option Bool × Option ℕ) ∧ ¬ results.Whole) ∧
      ∃ trace results, Run.play step [] empty [.ofError 0 7, .moveAssign 0 0] = .ok (trace, results) ∧
        results.held 0 = ((none, none) : Option Bool × Option ℕ) := by
  refine ⟨⟨_, _, rfl, rfl, rfl, ?_⟩, _, _, rfl, rfl⟩
  intro whole
  have one := (decided_iff _ _).mp (whole 0 rfl rfl)
  exact not_single_none one

end Results
end AdaptiveAutosar.Core
