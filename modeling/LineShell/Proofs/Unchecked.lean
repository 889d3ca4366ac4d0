import LineShell.Command.Unchecked
import LineShell.Proofs.Containment
import LineShell.Proofs.Sink

/-!
# Checked operands are enough

Operands are checked by one function and taken by another. The two stay in step: of operands that fit
a command, the command itself makes what has been read from them (`take_of_read`). So a command that
is carried out on such operands never takes one that is not there, and never finds fault with its
name or with its operands. It does what a call by its name does, and output is refused only by a sink
that is full (`exists_completes_of_read`).

Without the check, three commands would break off, and they do so where they have no operand at all
(`execute_eq_none_iff`).
-/

namespace LineShell

namespace Command

variable {builtin : Builtin} {operands : List String} {command : Command}

/-- A copy that looks at its operands once more, in an order of its own, makes the same of them. -/
theorem takeCopy_eq (operands : List String) : takeCopy operands = some (readCopy operands) := by
  match operands with
  | [] => rfl
  | [only] =>
    show (if only = recursiveFlag then _ else _) = some (if only = recursiveFlag then _ else _)
    rw [apply_ite some]
  | [first, second] =>
    have late : [second].contains recursiveFlag = true ↔ second = recursiveFlag := by
      rw [List.contains_iff_mem, List.mem_singleton, eq_comm]
    -- The flag is looked for in the second place only after it has not been found in the first.
    show (if first = recursiveFlag then _ else
      if [second].contains recursiveFlag then _ else _) = some (readCopy [first, second])
    rw [readCopy]
    simp only [late, apply_ite some]
  | [first, second, third] =>
    have late : [second, third].contains recursiveFlag = true ↔
        second = recursiveFlag ∨ third = recursiveFlag := by
      rw [List.contains_iff_mem, List.mem_pair, eq_comm, eq_comm (a := recursiveFlag)]
    show (if [second, third].contains recursiveFlag then _ else _) =
      some (readCopy [first, second, third])
    rw [readCopy]
    simp only [late, apply_ite some]
  | first :: second :: third :: fourth :: rest =>
    have tooMany : 3 < (first :: second :: third :: fourth :: rest).length := by simp
    show takeCopyOf _ = _
    exact if_pos tooMany

theorem eq_of_readNone {other : Command} (fits : readNone builtin other operands = .ok command) :
    other = command := by
  cases operands with
  | nil => exact Except.ok.inj fits
  | cons first rest => cases fits

/-- Of operands that fit, a command makes what is read from them. -/
theorem take_of_read (fits : read builtin operands = .ok command) :
    take operands builtin = some (.ok command) := by
  cases builtin with
  | cp =>
    show takeCopy operands = _
    rw [takeCopy_eq]
    exact congrArg some fits
  | echo => exact congrArg some fits
  | exit | help | history | pwd =>
    -- Nothing is taken; what does not fit is too much.
    obtain rfl := eq_of_readNone fits
    rfl
  | mkdir =>
    simp only [read] at fits
    split_ifs at fits
    exact congrArg some fits
  | ls =>
    -- Any word but the flag would be passed over.
    simp only [read] at fits
    split at fits
    · obtain rfl := Except.ok.inj fits
      rfl
    · split_ifs at fits with flag
      obtain rfl := Except.ok.inj fits
      simp [take, flag]
    · cases fits
  | cat | cd | rm | rmdir | touch =>
    -- As many operands fit as are taken, so that each of these is there.
    simp only [read] at fits
    split at fits
    all_goals first | exact congrArg some fits | cases fits

/-- Three commands take an operand without looking whether there is one. -/
theorem take_eq_none_iff :
    take operands builtin = none ↔
      operands = [] ∧ (builtin = .rm ∨ builtin = .rmdir ∨ builtin = .touch) := by
  cases builtin with
  | _ => simp [take, takeCopy_eq]

end Command

namespace Session

variable {session : Session} {palette : Palette} {sink : Sink} {builtin : Builtin}
  {operands : List String} {command : Command}

/-- Without operands these commands break off, whatever the session and the sink are. -/
theorem execute_eq_none_iff :
    session.execute palette sink builtin operands = none ↔
      operands = [] ∧ (builtin = .rm ∨ builtin = .rmdir ∨ builtin = .touch) := by
  rw [← Command.take_eq_none_iff]
  unfold execute
  cases taken : Command.take operands builtin with
  | none => exact iff_of_true rfl rfl
  | some made =>
    -- Whatever has been made of the operands, be it an error, there is a result.
    refine iff_of_false ?_ nofun
    cases made with
    | error error => nofun
    | ok command =>
      simp only [Option.bind_eq_bind, Option.bind_some]
      split <;> nofun

section Fits

variable (fits : Command.read builtin operands = .ok command)

include fits

/-- On operands that fit, what a call by the same name does is all that happens. -/
theorem execute_of_read {delivery : Delivery}
    (delivers : delivery = deliver palette sink session (session.call ⟨builtin.name, operands⟩).1) :
    session.execute palette sink builtin operands = match delivery.fault with
      | some fault => some (delivery, .error (.output fault))
      | none => some (delivery, (session.call ⟨builtin.name, operands⟩).2) := by
  rw [call_of_command (command_name_eq_ok_iff.2 fits)] at delivers ⊢
  subst delivers
  rw [execute, Command.take_of_read fits]
  rfl

/-- A call of a command whose operands fit does its work or fails at it. -/
theorem call_result_of_read (session : Session) :
    (∃ flow, (session.call ⟨builtin.name, operands⟩).2 = .ok flow) ∨
      ∃ failure, (session.call ⟨builtin.name, operands⟩).2 = .error (.failed failure) := by
  rw [call_of_command (command_name_eq_ok_iff.2 fits)]
  cases (command.run session).result with
  | ok flow => exact .inl ⟨flow, rfl⟩
  | error failure => exact .inr ⟨failure, rfl⟩

end Fits

/-- What it is for a command to be carried out on operands as they stand, with the given result. -/
structure Completes (session : Session) (palette : Palette) (sink : Sink) (builtin : Builtin)
    (operands : List String) (delivery : Delivery) (result : Except CommandError Flow) : Prop where
  /-- The command takes only operands that are there. -/
  executes : session.execute palette sink builtin operands = some (delivery, result)
  /-- It does what a call by its name does, as far as the output is taken. -/
  delivers : delivery = deliver palette sink session (session.call ⟨builtin.name, operands⟩).1
  /-- It does its work, or fails at it, or cannot write. -/
  ends : (∃ flow, result = .ok flow) ∨ (∃ failure, result = .error (.failed failure)) ∨
    ∃ fault, result = .error (.output fault)
  /-- It cannot write if there is more to write than the sink has room for, and not otherwise. The
  fault is what the sink says. -/
  output : ∀ fault, result = .error (.output fault) ↔
    fault = sink.full ∧ ∃ room, sink.room = some room ∧
      room < (deliver palette .unlimited session
        (session.call ⟨builtin.name, operands⟩).1).written.length
  /-- If it can write, it comes to the result of the call. -/
  called : (∀ fault, result ≠ .error (.output fault)) →
    result = (session.call ⟨builtin.name, operands⟩).2

/-- A command whose operands fit is carried out on them, whatever the session and the sink are. -/
theorem exists_completes_of_read (session : Session) (palette : Palette) (sink : Sink)
    (fits : Command.read builtin operands = .ok command) :
    ∃ delivery result, session.Completes palette sink builtin operands delivery result := by
  obtain ⟨delivery, delivers⟩ : ∃ delivery, delivery = deliver palette sink session
      (session.call ⟨builtin.name, operands⟩).1 := ⟨_, rfl⟩
  have executes := execute_of_read fits delivers
  have result := call_result_of_read fits session
  -- Whether there is a fault is a matter of the room in the sink, not of the command.
  have refused : ∀ fault, delivery.fault = some fault ↔ _ := fun fault =>
    delivers ▸ fault_deliver_eq_some_iff
  cases cut : delivery.fault with
  | some fault =>
    rw [cut] at executes refused
    -- What the command has come to otherwise is not told any more.
    refine ⟨delivery, _, executes, delivers, .inr (.inr ⟨fault, rfl⟩), fun other => ?_, ?_⟩
    · rw [← refused other]
      simp
    · exact fun writes => absurd rfl (writes fault)
  | none =>
    rw [cut] at executes refused
    refine ⟨delivery, _, executes, delivers, ?_, fun other => ?_, fun _ => rfl⟩
    · exact result.imp_right .inl
    · rw [← refused other]
      rcases result with ⟨flow, done⟩ | ⟨failure, failed⟩
      · simp [done]
      · simp [failed]

theorem exists_completes_copy :
    Command.read .cp ["-r", "a", "b"] = .ok (.cp true "a" "b") ∧
      ∃ delivery result, emptyRoot.Completes .plain .unlimited .cp ["-r", "a", "b"] delivery
        result := by
  have fits : Command.read .cp ["-r", "a", "b"] = .ok (.cp true "a" "b") := by decide +kernel
  exact ⟨fits, exists_completes_of_read emptyRoot .plain .unlimited fits⟩

end Session

end LineShell
