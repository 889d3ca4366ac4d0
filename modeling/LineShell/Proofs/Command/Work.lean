import LineShell.Command.Work
import LineShell.Proofs.FileSystem.CopyFile

/-!
# How work ends

Work ends well if each of its steps does, and it fails at the first step that fails. What one step
can do is said once for each kind of step, by an equivalence for either end, and what a command does
to a target is read off its steps.

Work is *all or nothing* if it fails with everything as it was (`AllOrNothing`). Work is not so by
itself, for a failure takes nothing back. It depends on the order of the steps: first those that
change nothing (`KeepsProgress`), then one that is all or nothing, and then only steps that cannot
fail (`NeverFails`).
-/

namespace LineShell

namespace Work

variable {α β : Type} {work : Work α} {next : α → Work β} {now later : Progress}
  {failure : Failure} {result : α} {answer : β}

/-! ## Steps -/

theorem run_bind_eq_ok_iff :
    (work >>= next).run now = .ok answer later ↔
      ∃ result between, work.run now = .ok result between ∧
        (next result).run between = .ok answer later := by
  rw [EStateM.run_bind]
  cases work.run now <;> simp

theorem run_bind_eq_error_iff :
    (work >>= next).run now = .error failure later ↔
      work.run now = .error failure later ∨ ∃ result between, work.run now = .ok result between ∧
        (next result).run between = .error failure later := by
  rw [EStateM.run_bind]
  cases work.run now <;> simp

theorem run_perform_eq_ok_iff {effect : Effect} {done : Unit} :
    (perform effect).run now = .ok done later ↔ later = now.after effect := by
  change EStateM.Result.ok () (now.after effect) = .ok done later ↔ _
  simp [eq_comm]

theorem run_ask (question : FileSystem → α) (now : Progress) :
    (ask question).run now = .ok (question now.files) now :=
  rfl

theorem run_ensure (holds : Bool) (failure : Failure) (now : Progress) :
    (ensure holds failure).run now = if holds then .ok () now else .error failure now := by
  cases holds <;> rfl

theorem run_ensure_eq_ok_iff {holds : Bool} {done : Unit} :
    (ensure holds failure).run now = .ok done later ↔ holds = true ∧ later = now := by
  cases holds <;> simp [run_ensure, eq_comm]

theorem run_ensure_eq_error_iff {holds : Bool} {refused : Failure} :
    (ensure holds refused).run now = .error failure later ↔
      holds = false ∧ failure = refused ∧ later = now := by
  cases holds <;> simp [run_ensure, eq_comm]

theorem run_known (value : Option α) (failure : Failure) (now : Progress) :
    (known value failure).run now =
      match value with
      | some value => .ok value now
      | none => .error failure now := by
  cases value <;> rfl

theorem run_attempt_look (question : FileSystem → Except Fault α) (now : Progress) :
    (attempt (.look question)).run now = .ok (question now.files) now := by
  simp only [attempt, EStateM.run_bind, EStateM.run_get, Calls.run_look]
  cases question now.files <;> rfl

theorem run_attempt_change (request : FileSystem → Except Fault (FileSystem × α)) (now : Progress) :
    (attempt (.change request)).run now =
      match request now.files with
      | .ok (later, answer) => .ok (.ok answer) (now.after (.store later))
      | .error fault => .ok (.error fault) now := by
  simp only [attempt, EStateM.run_bind, EStateM.run_get, Calls.run_change]
  cases request now.files <;> rfl

theorem run_require_look (question : FileSystem → Except Fault α) (refuse : Fault → Failure)
    (now : Progress) :
    (require (.look question) refuse).run now =
      match question now.files with
      | .ok answer => .ok answer now
      | .error fault => .error (refuse fault) now := by
  simp only [require, EStateM.run_bind, run_attempt_look]
  cases question now.files <;> rfl

theorem run_require_look_eq_ok_iff {question : FileSystem → Except Fault α}
    {refuse : Fault → Failure} :
    (require (.look question) refuse).run now = .ok result later ↔
      question now.files = .ok result ∧ later = now := by
  rw [run_require_look]
  cases question now.files <;> simp [eq_comm]

theorem run_require_look_eq_error_iff {question : FileSystem → Except Fault α}
    {refuse : Fault → Failure} :
    (require (.look question) refuse).run now = .error failure later ↔
      ∃ fault, question now.files = .error fault ∧ failure = refuse fault ∧ later = now := by
  rw [run_require_look]
  cases question now.files <;> simp [eq_comm]

theorem run_require_change (request : FileSystem → Except Fault (FileSystem × α))
    (refuse : Fault → Failure) (now : Progress) :
    (require (.change request) refuse).run now =
      match request now.files with
      | .ok (left, answer) => .ok answer (now.after (.store left))
      | .error fault => .error (refuse fault) now := by
  simp only [require, EStateM.run_bind, run_attempt_change]
  cases request now.files <;> rfl

theorem run_require_change_eq_ok_iff {request : FileSystem → Except Fault (FileSystem × α)}
    {refuse : Fault → Failure} :
    (require (.change request) refuse).run now = .ok result later ↔
      ∃ left, request now.files = .ok (left, result) ∧ later = now.after (.store left) := by
  rw [run_require_change]
  rcases request now.files with fault | ⟨left, answer⟩ <;> simp [eq_comm, and_comm]

theorem run_require_change_eq_error_iff {request : FileSystem → Except Fault (FileSystem × α)}
    {refuse : Fault → Failure} :
    (require (.change request) refuse).run now = .error failure later ↔
      ∃ fault, request now.files = .error fault ∧ failure = refuse fault ∧ later = now := by
  rw [run_require_change]
  cases request now.files <;> simp [eq_comm]

theorem run_require_update_eq_ok_iff {request : FileSystem → Except Fault FileSystem}
    {refuse : Fault → Failure} {done : Unit} :
    (require (.update request) refuse).run now = .ok done later ↔
      ∃ left, request now.files = .ok left ∧ later = now.after (.store left) := by
  rw [Calls.update, run_require_change_eq_ok_iff]
  cases request now.files <;> simp [Except.map]

theorem run_require_update_eq_error_iff {request : FileSystem → Except Fault FileSystem}
    {refuse : Fault → Failure} :
    (require (.update request) refuse).run now = .error failure later ↔
      ∃ fault, request now.files = .error fault ∧ failure = refuse fault ∧ later = now := by
  rw [Calls.update, run_require_change_eq_error_iff]
  cases request now.files <;> simp [Except.map]

/-! ## The order of steps -/

/-- Work that changes nothing, whether it fails or not. -/
def KeepsProgress (work : Work α) : Prop :=
  ∀ now, (∃ result, work.run now = .ok result now) ∨ ∃ failure, work.run now = .error failure now

/-- Work that does not fail. -/
def NeverFails (work : Work α) : Prop :=
  ∀ now, ∃ result later, work.run now = .ok result later

/-- Work that is done, or fails and leaves everything as it was. -/
def AllOrNothing (work : Work α) : Prop :=
  ∀ now failure later, work.run now = .error failure later → later = now

theorem keepsProgress_ask (question : FileSystem → α) : KeepsProgress (ask question) :=
  fun _ => .inl ⟨_, rfl⟩

theorem keepsProgress_throw (failure : Failure) : KeepsProgress (throw failure : Work α) :=
  fun _ => .inr ⟨failure, rfl⟩

theorem keepsProgress_pure (result : α) : KeepsProgress (pure result) :=
  fun _ => .inl ⟨result, rfl⟩

theorem keepsProgress_ensure (holds : Bool) (failure : Failure) :
    KeepsProgress (ensure holds failure) := by
  cases holds with
  | true => exact keepsProgress_pure ()
  | false => exact keepsProgress_throw failure

theorem keepsProgress_known (value : Option α) (failure : Failure) :
    KeepsProgress (known value failure) := by
  cases value with
  | some value => exact keepsProgress_pure value
  | none => exact keepsProgress_throw failure

theorem keepsProgress_attempt_look (question : FileSystem → Except Fault α) :
    KeepsProgress (attempt (.look question)) :=
  fun now => .inl ⟨_, run_attempt_look question now⟩

theorem keepsProgress_require_look (question : FileSystem → Except Fault α)
    (refuse : Fault → Failure) : KeepsProgress (require (.look question) refuse) := by
  intro now
  rw [run_require_look]
  cases question now.files with
  | ok answer => exact .inl ⟨answer, rfl⟩
  | error fault => exact .inr ⟨refuse fault, rfl⟩

theorem neverFails_pure (result : α) : NeverFails (pure result) :=
  fun now => ⟨result, now, rfl⟩

theorem neverFails_perform (effect : Effect) : NeverFails (perform effect) :=
  fun now => ⟨(), now.after effect, rfl⟩

theorem neverFails_ask (question : FileSystem → α) : NeverFails (ask question) :=
  fun now => ⟨_, now, rfl⟩

theorem allOrNothing_require_change (request : FileSystem → Except Fault (FileSystem × α))
    (refuse : Fault → Failure) : AllOrNothing (require (.change request) refuse) := by
  intro now failure later failed
  obtain ⟨fault, -, -, same⟩ := run_require_change_eq_error_iff.1 failed
  exact same

theorem allOrNothing_require_update (request : FileSystem → Except Fault FileSystem)
    (refuse : Fault → Failure) : AllOrNothing (require (.update request) refuse) :=
  allOrNothing_require_change _ refuse

/-- The copy of a file opens both files before it changes anything. -/
theorem allOrNothing_require_copyFile (source destination : Path) (refuse : Fault → Failure) :
    AllOrNothing (require (.copyFile source destination) refuse) := by
  rw [Calls.copyFile_eq_change]
  exact allOrNothing_require_change _ refuse

theorem NeverFails.bind (first : NeverFails work) (rest : ∀ result, NeverFails (next result)) :
    NeverFails (work >>= next) := by
  intro now
  obtain ⟨result, between, ran⟩ := first now
  obtain ⟨answer, later, done⟩ := rest result between
  exact ⟨answer, later, run_bind_eq_ok_iff.2 ⟨result, between, ran, done⟩⟩

theorem neverFails_attempt (calls : Calls α) : NeverFails (attempt calls) := by
  -- What calls leave is kept whether they have been refused or not.
  have kept : ∀ disk : Disk,
      NeverFails (if disk.touched then perform (.store disk.files) else pure ()) := by
    intro disk
    split
    · exact neverFails_perform _
    · exact neverFails_pure ()
  refine NeverFails.bind (fun now => ⟨now, now, rfl⟩) fun now => ?_
  split
  · exact (kept _).bind fun _ => neverFails_pure _
  · exact (kept _).bind fun _ => neverFails_pure _

theorem NeverFails.allOrNothing (never : NeverFails work) : AllOrNothing work := by
  intro now failure later failed
  obtain ⟨result, between, ran⟩ := never now
  cases ran.symm.trans failed

/-- Before a change, steps that change nothing may fail. -/
theorem KeepsProgress.bind (first : KeepsProgress work)
    (rest : ∀ result, AllOrNothing (next result)) : AllOrNothing (work >>= next) := by
  intro now failure later failed
  rcases run_bind_eq_error_iff.1 failed with stopped | ⟨result, between, ran, failed⟩
  · obtain ⟨_, ran⟩ | ⟨_, ran⟩ := first now
    · cases ran.symm.trans stopped
    · cases ran.symm.trans stopped
      rfl
  · obtain ⟨_, kept⟩ | ⟨_, kept⟩ := first now
    · cases kept.symm.trans ran
      exact rest result _ _ _ failed
    · cases kept.symm.trans ran

/-- After a change, no step may fail. -/
theorem AllOrNothing.bind (first : AllOrNothing work) (rest : ∀ result, NeverFails (next result)) :
    AllOrNothing (work >>= next) := by
  intro now failure later failed
  rcases run_bind_eq_error_iff.1 failed with stopped | ⟨result, between, -, failed⟩
  · exact first _ _ _ stopped
  · obtain ⟨_, _, done⟩ := rest result between
    cases done.symm.trans failed

/-- What has been done stays done when a later step fails. -/
theorem not_allOrNothing_perform_throw (effect : Effect) (failure : Failure) :
    ¬ AllOrNothing (perform effect >>= fun _ => (throw failure : Work α)) := by
  intro all
  have same := congrArg Progress.effects (all ⟨.empty, []⟩ failure _ rfl)
  simp [Progress.after] at same

/-! ## Failures -/

/-- Work whose failures are all of one kind. -/
def FailsWith (kind : Failure → Prop) (work : Work α) : Prop :=
  ∀ now failure later, work.run now = .error failure later → kind failure

variable {kind : Failure → Prop}

theorem NeverFails.failsWith (never : NeverFails work) : FailsWith kind work := by
  intro now failure later failed
  obtain ⟨_, _, done⟩ := never now
  cases done.symm.trans failed

theorem FailsWith.bind (first : FailsWith kind work) (rest : ∀ result, FailsWith kind (next result)) :
    FailsWith kind (work >>= next) := by
  intro now failure later failed
  rcases run_bind_eq_error_iff.1 failed with stopped | ⟨result, between, -, failed⟩
  · exact first _ _ _ stopped
  · exact rest result _ _ _ failed

theorem failsWith_ensure {holds : Bool} (fits : kind failure) :
    FailsWith kind (ensure holds failure) := by
  intro now refused later failed
  obtain ⟨-, rfl, -⟩ := run_ensure_eq_error_iff.1 failed
  exact fits

theorem failsWith_require_look {question : FileSystem → Except Fault α} {refuse : Fault → Failure}
    (fits : ∀ fault, kind (refuse fault)) : FailsWith kind (require (.look question) refuse) := by
  intro now refused later failed
  obtain ⟨fault, -, rfl, -⟩ := run_require_look_eq_error_iff.1 failed
  exact fits fault

theorem failsWith_require_update {request : FileSystem → Except Fault FileSystem}
    {refuse : Fault → Failure} (fits : ∀ fault, kind (refuse fault)) :
    FailsWith kind (require (.update request) refuse) := by
  intro now refused later failed
  obtain ⟨fault, -, rfl, -⟩ := run_require_update_eq_error_iff.1 failed
  exact fits fault

end Work

end LineShell
