import LineShell.Proofs.Output
import LineShell.Proofs.Sink
import LineShell.Proofs.Text.Utf8

/-!
# What colours change

Two sessions start alike and read the same lines, one with plain output and one with colours. They
stay alike, and their output is made of the same pieces: what a command shows is the same in both, and
the report of an error stands in the coloured one between the codes for bold red text and the code
that ends all styles, whatever the codes are (`differInColor_afterLines`). What is reported are errors
only: a line that is not carried out, a command that fails, or one target of a command that goes on
after it (`reports_of_mem_segments`). So what commands list, print or explain is never coloured.
-/

namespace LineShell

/-- A piece of output, with the report of an error apart from the line feed after it. -/
inductive Piece
  /-- Output that no colours change. -/
  | ordinary (bytes : Bytes)
  /-- The words of an error. -/
  | report (words : Bytes)
  deriving DecidableEq

namespace Piece

/-- The piece in plain output. -/
def plain : Piece → Bytes
  | ordinary bytes => bytes
  | report words => words

/-- The piece in output that is coloured by some codes. -/
def styled (styling : Styling) : Piece → Bytes
  | ordinary bytes => bytes
  | report words =>
    Text.encode styling.red ++ Text.encode styling.bold ++ words ++ Text.encode styling.reset

end Piece

namespace Segment

/-- The pieces of what an effect writes. -/
def pieces : Segment → List Piece
  | .plain bytes => [.ordinary bytes]
  | .report error => [.report (Text.encode error.message), .ordinary (Text.encode "\n")]

theorem render_plain (text : Segment) : text.render .plain = text.pieces.flatMap Piece.plain := by
  cases text with
  | plain bytes => exact (List.flatMap_singleton _ _).symm
  | report error =>
    rw [render, Text.encode, String.toList_append, Text.encodeChars_append]
    rfl

theorem render_styled (styling : Styling) (text : Segment) :
    text.render (.styled styling) = text.pieces.flatMap (Piece.styled styling) := by
  cases text with
  | plain bytes => exact (List.flatMap_singleton _ _).symm
  | report error =>
    have styled : (Palette.styled styling).error error.message =
        styling.red ++ styling.bold ++ error.message ++ styling.reset := rfl
    simp only [render, styled, Text.encode, String.toList_append, Text.encodeChars_append, pieces,
      List.flatMap_cons, List.flatMap_nil, Piece.styled, List.append_nil]

end Segment

/-! ## What is reported -/

namespace Command

/-- The failures of single targets that a command can report before it goes on to the next one. -/
def ReportsTarget (session : Session) : Command → Failure → Prop
  | cat files, failure => ∃ file ∈ files, ∃ fault,
    session.files.read (session.dir.resolve file) = .error fault ∧
      failure = .read file (.ofReading fault)
  | mkdir directories, failure => ∃ directory ∈ directories, ∃ why,
    failure = .makeDirectory directory why
  | rmdirAll, failure => ∃ name why, failure = .removeDirectory name why
  | _, _ => False

variable {session : Session} {command : Command} {dir : WorkingDirectory} {fs : FileSystem}
  {error : CommandError} {failure : Failure}

theorem exists_of_report_mem_makeDirectories {operands : List String}
    (h : .write (.report error) ∈ makeDirectories dir fs operands) :
    ∃ operand ∈ operands, ∃ why, error = .failed (.makeDirectory operand why) := by
  induction operands generalizing fs with
  | nil => cases h
  | cons operand rest ih =>
    have onward : ∀ {later : FileSystem},
        .write (.report error) ∈ makeDirectories dir later rest →
        ∃ other ∈ operand :: rest, ∃ why, error = .failed (.makeDirectory other why) := by
      intro later mem
      obtain ⟨other, isRest, told⟩ := ih mem
      exact ⟨other, List.mem_cons_of_mem _ isRest, told⟩
    obtain ⟨made, line, -, goesOn⟩ | ⟨why, goesOn⟩ := makeDirectories_cases dir fs operand
    · rw [goesOn] at h
      rcases h with _ | ⟨_, _ | ⟨_, later⟩⟩
      exact onward later
    · rw [goesOn] at h
      rcases List.mem_cons.1 h with told | later
      · cases told
        exact ⟨operand, List.mem_cons_self, why, rfl⟩
      · exact onward later

theorem exists_of_report_mem_removeDirectories {names : List Name}
    (h : .write (.report error) ∈ removeDirectories dir fs names) :
    ∃ name why, error = .failed (.removeDirectory name why) := by
  induction names generalizing fs with
  | nil => cases h
  | cons name rest ih =>
    obtain ⟨loc, line, -, -, -, goesOn⟩ | ⟨why, goesOn⟩ := removeDirectories_cases dir fs name
    · rw [goesOn] at h
      rcases h with _ | ⟨_, _ | ⟨_, later⟩⟩
      exact ih later
    · rw [goesOn] at h
      rcases List.mem_cons.1 h with told | later
      · cases told
        exact ⟨_, why, rfl⟩
      · exact ih later

/-- On its way, a command reports targets that failed and nothing else. -/
theorem reportsTarget_of_mem_run (h : .write (.report error) ∈ (command.run session).effects) :
    ∃ failure, error = .failed failure ∧ command.ReportsTarget session failure := by
  have does := does_of_mem_run h
  cases command with
  | cat files =>
    obtain ⟨file, isFile, mem⟩ := List.mem_flatMap.1 h
    obtain ⟨contents, -, shown⟩ | ⟨fault, unread, shown⟩ := printFile_cases session file
    · simp [shown] at mem
    · rw [shown] at mem
      cases List.mem_singleton.1 mem
      exact ⟨_, rfl, file, isFile, fault, unread, rfl⟩
  | mkdir directories =>
    obtain ⟨directory, isTarget, why, rfl⟩ := exists_of_report_mem_makeDirectories h
    exact ⟨_, rfl, directory, isTarget, why, rfl⟩
  | rmdirAll =>
    obtain ⟨effects, done, mem⟩ := exists_of_mem_ofExcept h
    obtain ⟨loc, names, -, -, rfl⟩ := exists_of_removeEveryDirectory done
    obtain ⟨name, why, rfl⟩ := exists_of_report_mem_removeDirectories mem
    exact ⟨_, rfl, name, why, rfl⟩
  | cp recursive source destination =>
    cases recursive with
    | true => exact absurd h (write_notMem_copyDirectory _)
    | false => cases does with | write _ several => cases several
  -- Those with one target leave the report of a failure to the line.
  | cd _ | rm _ | rmdir _ | touch _ => cases does with | write _ several => cases several
  -- The others show lines, which are no reports.
  | echo words => cases List.mem_singleton.1 h
  | pwd => cases List.mem_singleton.1 h
  | exit => cases h
  | help =>
    obtain ⟨builtin, -, told⟩ := List.mem_map.1 h
    cases told
  | history =>
    obtain ⟨shown, -, told⟩ := List.mem_map.1 h
    cases told
  | ls reversed =>
    obtain ⟨effects, done, mem⟩ := exists_of_mem_ofExcept h
    obtain ⟨shown, rfl⟩ := exists_of_listDirectory done
    obtain ⟨name, -, told⟩ := List.mem_map.1 mem
    cases told

end Command

namespace Session

/-- The errors that a line can report. -/
def Reports (session : Session) (text : String) (error : CommandError) : Prop :=
  ∃ invocation, Invocation.ofLine? text = some invocation ∧
    match command invocation with
    | .error refused => error = refused
    | .ok command =>
      let recorded := session.after (.record invocation.normalized)
      ∃ failure, error = .failed failure ∧
        ((command.run recorded).result = .error failure ∨ command.ReportsTarget recorded failure)

/-- The pieces of the output of a line. -/
def pieces (session : Session) (text : String) : List Piece :=
  (segments (session.reply text).effects).flatMap Segment.pieces

variable {session : Session} {text : String} {error : CommandError}

/-- What a line reports are errors of the line. -/
theorem reports_of_mem_segments (h : .report error ∈ segments (session.reply text).effects) :
    session.Reports text error := by
  unfold reply at h
  cases called : Invocation.ofLine? text with
  | none =>
    rw [called] at h
    cases h
  | some invocation =>
    refine ⟨invocation, called, ?_⟩
    rw [called] at h
    simp only at h
    cases asked : command invocation with
    | error refused =>
      rw [asked] at h
      simpa using List.mem_singleton.1 h
    | ok command =>
      rw [asked] at h
      simp only [segments_carryOut, List.mem_append] at h
      rcases h with onTheWay | atTheEnd
      · obtain ⟨failure, rfl, target⟩ := Command.reportsTarget_of_mem_run (mem_segments_iff.1 onTheWay)
        exact ⟨failure, rfl, .inr target⟩
      · split at atTheEnd
        · cases atTheEnd
        · rename_i failure failed
          cases List.mem_singleton.1 atTheEnd
          exact ⟨failure, rfl, .inl failed⟩

theorem written_whole_plain (session : Session) (text : String) :
    (session.delivery (.whole .plain text)).written = (session.pieces text).flatMap Piece.plain := by
  rw [delivery, Line.whole, written_deliver_unlimited, pieces, List.flatMap_assoc]
  exact List.flatMap_congr fun part _ => part.render_plain

theorem written_whole_styled (styling : Styling) (session : Session) (text : String) :
    (session.delivery (.whole (.styled styling) text)).written =
      (session.pieces text).flatMap (Piece.styled styling) := by
  rw [delivery, Line.whole, written_deliver_unlimited, pieces, List.flatMap_assoc]
  exact List.flatMap_congr fun part _ => part.render_styled styling

end Session

/-! ## Plain and coloured runs -/

/-- The same line is read by a session with plain output and by one whose output is coloured by some
codes. -/
structure DifferInColor (styling : Styling) (plain colored : Session) (text : String) : Prop where
  /-- The same follows the line, and neither ends with an error. -/
  flow : ∃ flow, plain.outcome (.whole .plain text) = .ok flow ∧
    colored.outcome (.whole (.styled styling) text) = .ok flow
  /-- Files, working directory and history are the same afterwards. -/
  session : colored.afterLine (.whole (.styled styling) text) = plain.afterLine (.whole .plain text)
  /-- The pieces of the output are the same in both. -/
  pieces : colored.pieces text = plain.pieces text
  /-- The plain output is the pieces as they are. -/
  written : (plain.delivery (.whole .plain text)).written = (plain.pieces text).flatMap Piece.plain
  /-- The coloured output differs in the codes around reports. -/
  writtenColored : (colored.delivery (.whole (.styled styling) text)).written =
    (plain.pieces text).flatMap (Piece.styled styling)
  /-- All that is reported are errors of the line. -/
  reported : ∀ words, .report words ∈ plain.pieces text →
    ∃ error, words = Text.encode error.message ∧ plain.Reports text error
  /-- Where there is nothing to report, colours make no difference. -/
  unreported : (∀ error, ¬ plain.Reports text error) →
    (colored.delivery (.whole (.styled styling) text)).written =
      (plain.delivery (.whole .plain text)).written

namespace Session

theorem afterLines_whole (session : Session) (palette other : Palette) (texts : List String) :
    session.afterLines (texts.map (Line.whole palette)) =
      session.afterLines (texts.map (Line.whole other)) := by
  induction texts generalizing session with
  | nil => rfl
  | cons text rest ih =>
    calc
      session.afterLines ((text :: rest).map (Line.whole palette))
        = (session.afterLine (.whole palette text)).afterLines (rest.map (Line.whole palette)) := rfl
      _ = (session.afterLine (.whole other text)).afterLines (rest.map (Line.whole other)) := by
        rw [afterLine_whole, afterLine_whole, ih]

theorem exists_report_of_mem_pieces {session : Session} {text : String} {words : Bytes}
    (h : .report words ∈ session.pieces text) :
    ∃ error, words = Text.encode error.message ∧ session.Reports text error := by
  obtain ⟨part, isPart, mem⟩ := List.mem_flatMap.1 h
  cases part with
  | plain bytes => simp [Segment.pieces] at mem
  | report error =>
    refine ⟨error, ?_, reports_of_mem_segments isPart⟩
    simpa [Segment.pieces] using mem

/-- The output of a line that has nothing to report has no colours. -/
theorem written_whole_of_unreported {styling : Styling} {session : Session} {text : String}
    (nothing : ∀ error, ¬ session.Reports text error) :
    (session.delivery (.whole (.styled styling) text)).written =
      (session.delivery (.whole .plain text)).written := by
  rw [written_whole_plain, written_whole_styled]
  refine List.flatMap_congr fun part mem => ?_
  cases part with
  | ordinary bytes => rfl
  | report words =>
    obtain ⟨error, -, reports⟩ := exists_report_of_mem_pieces mem
    exact absurd reports (nothing error)

/-- After any lines that both have read, a session with plain output and one with colours are the same,
and the next line makes no difference but in the codes around what it reports. -/
theorem differInColor_afterLines (styling : Styling) (session : Session) (front : List String)
    (text : String) :
    let plain := session.afterLines (front.map (Line.whole .plain))
    let colored := session.afterLines (front.map (Line.whole (.styled styling)))
    colored = plain ∧ DifferInColor styling plain colored text := by
  intro plain colored
  have same : colored = plain := session.afterLines_whole (.styled styling) .plain front
  refine ⟨same, ?_⟩
  rw [same]
  exact {
    flow := ⟨_, outcome_unlimited plain text .plain, outcome_unlimited plain text (.styled styling)⟩
    session := by rw [afterLine_whole, afterLine_whole]
    pieces := rfl
    written := plain.written_whole_plain text
    writtenColored := plain.written_whole_styled styling text
    reported := fun _ mem => exists_report_of_mem_pieces mem
    unreported := written_whole_of_unreported }

end Session

end LineShell
