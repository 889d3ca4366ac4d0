import LineShell.FileSystem.Copy
import LineShell.Proofs.FileSystem.CopyFile

/-!
# Replaying a copy

A copy reports what it does as a list of events, and the list tells everything: carried out once
more from where the copy started, the events lead to the same files (`files_copyTree`). This holds
of every copy, whatever links there are and whether it succeeds.

Two things follow for the files that were there before:

- their entries stay (`extends_replay`);
- each holds the bytes that the last event to write to it has written, or what it held if there is
  no such event (`data_replay`).
-/

namespace LineShell

/-! ## One copy after another -/

namespace Copied

variable {first : Copied} {next other : FileSystem → Copied} {count : Nat} {fault : Fault}

theorem andThen_of_ok (h : first.result = .ok count) :
    first.andThen next = ⟨(next first.files).files, first.events ++ (next first.files).events,
      (next first.files).result.map (count + ·)⟩ := by
  rw [andThen, h]

theorem andThen_of_error (h : first.result = .error fault) : first.andThen next = first := by
  obtain ⟨files, events, result⟩ := first
  subst h
  rfl

theorem andThen_assoc (last : FileSystem → Copied) :
    (first.andThen next).andThen last = first.andThen fun fs => (next fs).andThen last := by
  cases done : first.result with
  | error fault => rw [andThen_of_error done, andThen_of_error done, andThen_of_error done]
  | ok count =>
    rw [andThen_of_ok done, andThen_of_ok done]
    cases more : (next first.files).result with
    | error fault =>
      rw [andThen_of_error more, @andThen_of_error _ _ fault (by simp [Except.map]), more]
    | ok further =>
      rw [andThen_of_ok more, @andThen_of_ok _ _ (count + further) (by simp [Except.map])]
      cases (last (next first.files).files).result with
      | error fault => simp [Except.map]
      | ok rest => simp [Except.map, Nat.add_assoc]

/-- What comes after a copy matters only if the copy succeeds, and on the files that it leaves. -/
theorem andThen_congr
    (h : ∀ count, first.result = .ok count → next first.files = other first.files) :
    first.andThen next = first.andThen other := by
  cases done : first.result with
  | error fault => rw [andThen_of_error done, andThen_of_error done]
  | ok count => rw [andThen_of_ok done, andThen_of_ok done, h count done]

theorem nothing_andThen (fs : FileSystem) (next : FileSystem → Copied) :
    (Copied.mk fs [] (.ok 0)).andThen next = next fs := by
  rw [andThen_of_ok rfl]
  cases done : (next fs).result with
  | error fault => simp [Except.map, ← done]
  | ok count => simp [Except.map, ← done]

theorem andThen_nothing : (first.andThen fun fs => ⟨fs, [], .ok 0⟩) = first := by
  cases done : first.result with
  | error fault => rw [andThen_of_error done]
  | ok count =>
    rw [andThen_of_ok done]
    simp [Except.map, ← done]

end Copied

/-! ## Events -/

variable {fs : FileSystem} {event : CopyEvent} {events : List CopyEvent} {id : FileId}

namespace CopyEvent

/-- The files when an event has happened. -/
def apply (fs : FileSystem) : CopyEvent → FileSystem
  | made directory => (fs.makeDirectory directory).toOption.getD fs
  | copied source target => ((fs.copyFile source target).toOption.map Prod.fst).getD fs
  | failed _ _ | metFile _ | metDirectory _ _ => fs

/-- The files when some events have happened, one after the other. -/
def replay (fs : FileSystem) (events : List CopyEvent) : FileSystem :=
  events.foldl apply fs

/-- The bytes that an event writes to a file that is there. -/
def written? (id : FileId) (fs : FileSystem) : CopyEvent → Option Bytes
  | copied source target =>
    match fs.find source .follow, fs.locate target .write with
    | .ok (_, .file read), .ok dest =>
      if fs.entry? dest = some (.file id) then some (fs.overwritingBytes read id) else none
    | _, _ => none
  | _ => none

/-- The bytes that the last of some events to write to a file writes there. -/
def lastWritten? (id : FileId) : FileSystem → List CopyEvent → Option Bytes
  | _, [] => none
  | fs, event :: rest =>
    (lastWritten? id (event.apply fs) rest).or (written? id fs event)

/-! ## What events leave as it was -/

theorem extends_apply (fs : FileSystem) (event : CopyEvent) : fs.Extends (event.apply fs) := by
  cases event with
  | made directory =>
    rw [apply]
    cases done : fs.makeDirectory directory with
    | error fault => exact .refl fs
    | ok later => exact FileSystem.extends_makeDirectory done
  | copied source target =>
    rw [apply]
    cases done : fs.copyFile source target with
    | error fault => exact .refl fs
    | ok result =>
      obtain ⟨later, size⟩ := result
      exact FileSystem.extends_copyFile done
  | failed source fault => exact .refl fs
  | metFile target => exact .refl fs
  | metDirectory source target => exact .refl fs

theorem extends_replay (fs : FileSystem) (events : List CopyEvent) :
    fs.Extends (replay fs events) := by
  induction events generalizing fs with
  | nil => exact .refl fs
  | cons event rest ih => exact (extends_apply fs event).trans (ih _)

/-! ## What events write -/

/-- A file that is copied changes the file at the target, if one is there, and no other. -/
private theorem data_copied {source target : Path} (h : id < fs.files.size) :
    ((apply fs (copied source target)).file id).data =
      (written? id fs (copied source target)).getD (fs.file id).data := by
  simp only [apply, written?, FileSystem.copyFile]
  cases found : fs.find source .follow with
  | error fault => simp [bind, Except.bind, Except.toOption]
  | ok result =>
    obtain ⟨sourceLoc, entry⟩ := result
    cases entry with
    | directory => simp [bind, Except.bind, Except.toOption]
    | link path => simp [bind, Except.bind, Except.toOption]
    | nullDevice => simp [bind, Except.bind, Except.toOption]
    | file read =>
      cases located : fs.locate target .write with
      | error fault => simp [bind, Except.bind, Except.toOption]
      | ok dest =>
        cases met : fs.entry? dest with
        | none =>
          cases dest with
          | nil => simp at met
          | cons name parent =>
            simp [met, bind, Except.bind, Except.toOption, FileSystem.file_addFile h]
        | some other =>
          cases other with
          | directory => simp [met, bind, Except.bind, Except.toOption]
          | link path => simp [met, bind, Except.bind, Except.toOption]
          | nullDevice => simp [met, bind, Except.bind, Except.toOption]
          | file other =>
            -- The only case in which a file that is there changes.
            have overwritten := FileSystem.file_overwrite
              (FileSystem.lt_size_of_entry met) read id
            simp only [met, bind, Except.bind, Except.toOption, Option.map_some, Option.getD_some,
              overwritten]
            by_cases same : id = other
            · simp [same]
            · simp [same, Ne.symm same]

/-- After an event a file holds what the event writes to it, or what it held. -/
theorem data_apply (h : id < fs.files.size) :
    ((event.apply fs).file id).data = (written? id fs event).getD (fs.file id).data := by
  cases event with
  | made directory =>
    show ((fs.makeDirectory directory).toOption.getD fs |>.file id).data = (fs.file id).data
    cases done : fs.makeDirectory directory with
    | error fault => rfl
    | ok later =>
      obtain ⟨name, parent, -, -, rfl⟩ := FileSystem.exists_of_makeDirectory done
      exact congrArg File.data FileSystem.file_add
  | copied source target => exact data_copied h
  | failed source fault => rfl
  | metFile target => rfl
  | metDirectory source target => rfl

/-- After some events a file holds what the last of them to write to it has written, or what it
held. -/
theorem data_replay (h : id < fs.files.size) :
    ((replay fs events).file id).data = (lastWritten? id fs events).getD (fs.file id).data := by
  induction events generalizing fs with
  | nil => rfl
  | cons event rest ih =>
    have inLater : id < (event.apply fs).files.size :=
      Nat.lt_of_lt_of_le h (extends_apply fs event).size_le
    -- The induction is on the events, from the first one on; the last to write wins.
    calc
      ((replay fs (event :: rest)).file id).data
        = ((replay (event.apply fs) rest).file id).data := rfl
      _ = (lastWritten? id (event.apply fs) rest).getD ((event.apply fs).file id).data :=
        ih inLater
      _ = (lastWritten? id fs (event :: rest)).getD (fs.file id).data := by
        rw [data_apply h, lastWritten?]
        cases lastWritten? id (event.apply fs) rest <;> rfl

theorem replay_append (fs : FileSystem) (front rest : List CopyEvent) :
    replay fs (front ++ rest) = replay (replay fs front) rest :=
  List.foldl_append

end CopyEvent

/-! ## A copy is its events -/

namespace Copied

/-- What a copy leaves is what its events make of the files that it started from. -/
def IsReplay (copied : Copied) (fs : FileSystem) : Prop :=
  copied.files = CopyEvent.replay fs copied.events

theorem IsReplay.andThen {first : Copied} {next : FileSystem → Copied} (h : first.IsReplay fs)
    (hnext : ∀ fs, (next fs).IsReplay fs) : (first.andThen next).IsReplay fs := by
  cases done : first.result with
  | error fault => rwa [andThen_of_error done]
  | ok count =>
    rw [andThen_of_ok done]
    -- The second copy starts from the files that the first one leaves.
    have onward : (next first.files).files =
        CopyEvent.replay first.files (next first.files).events := hnext first.files
    have start : first.files = CopyEvent.replay fs first.events := h
    rw [IsReplay, onward, CopyEvent.replay_append, ← start]

end Copied

namespace FileSystem

variable {descend : FileSystem → Path → Path → Copied} {source destination target : Path}

/-- What cannot be copied leaves the files as they were. -/
theorem copyInto_eq (fs : FileSystem) (source target : Path) :
    fs.copyInto source target =
      match fs.copyFile source target with
      | .ok (copied, _) => ⟨copied, [.copied source target], .ok 1⟩
      | .error fault => ⟨fs, [.failed source fault], .error fault⟩ := by
  rw [copyInto, Calls.copyFile_eq_change, Calls.run_change]
  cases fs.copyFile source target <;> rfl

theorem isReplay_copyInto : (fs.copyInto source target).IsReplay fs := by
  rw [copyInto_eq, Copied.IsReplay]
  cases done : fs.copyFile source target with
  | error fault => rfl
  | ok result => simp [CopyEvent.replay, CopyEvent.apply, done, Except.toOption]

theorem isReplay_copyOver : (fs.copyOver source target).IsReplay fs := by
  unfold copyOver
  split
  · rfl
  · exact isReplay_copyInto

theorem isReplay_makeTarget : (fs.makeTarget target).IsReplay fs := by
  unfold makeTarget
  split
  · cases done : fs.makeDirectory target with
    | error fault => rfl
    | ok made => simp [Copied.IsReplay, CopyEvent.replay, CopyEvent.apply, done, Except.toOption]
  · split
    · rfl
    · rfl

section Descend

variable (hdescend : ∀ fs source target, (descend fs source target).IsReplay fs)

include hdescend

theorem isReplay_copyEntries (names : List Name) (fs : FileSystem) :
    (copyEntries descend source destination names fs).IsReplay fs := by
  induction names generalizing fs with
  | nil => rfl
  | cons name rest ih =>
    rw [copyEntries]
    refine Copied.IsReplay.andThen ?_ ih
    split
    · exact hdescend _ _ _
    · exact isReplay_copyOver

theorem isReplay_copyLevel : (fs.copyLevel descend source destination).IsReplay fs := by
  refine Copied.IsReplay.andThen isReplay_makeTarget fun later => ?_
  rw [fill]
  split
  · exact isReplay_copyEntries hdescend _ later
  · rfl

end Descend

theorem isReplay_copyLevels (depth : Nat) :
    ∀ (fs : FileSystem) (source destination : Path),
      (fs.copyLevels depth source destination).IsReplay fs := by
  induction depth with
  | zero => exact fun fs source destination => isReplay_copyLevel fun _ _ _ => rfl
  | succ depth ih => exact fun fs source destination => isReplay_copyLevel ih

/-- The files that a copy leaves are what its events make of those that were there. -/
theorem files_copyTree (fs : FileSystem) (source destination : Path) :
    (fs.copyTree source destination).files =
      CopyEvent.replay fs (fs.copyTree source destination).events :=
  isReplay_copyLevels _ fs source destination

end FileSystem

end LineShell
